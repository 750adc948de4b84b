import PromptMarkup.Value.Text

/-!
# Validation

Validating a value collects all that is wrong with it.  A violation says where it is and what is wrong there;
independent checks are combined so that the violations of both are kept.
-/

namespace PromptMarkup

/-- One step on the way to a part of a value. -/
inductive Place where
  | key (name : String)
  | index (i : Int)
  deriving DecidableEq, Repr

def Place.text : Place → String
  | key name => name
  | index i => toString i

/-- What is wrong with a value. -/
inductive Complaint where
  | missing
  | extra
  | notString
  | notUnicode
  | notInteger
  | unreadableInteger
  | oversizedInteger
  | fractional
  | notFinite
  | notBoolean
  | unreadableBoolean
  | notList
  | notTuple
  | notPath
  | keyNotString
  | notModel (name : String)
  | notObject
  | unknownTag (tag key : String) (expected : List String)
  | noTag (key : String)
  | refused (reason : String)
  deriving DecidableEq, Repr

namespace Complaint

/-- The short name of a complaint. -/
def code : Complaint → String
  | missing => "missing"
  | extra => "extra_forbidden"
  | notString => "string_type"
  | notUnicode => "string_unicode"
  | notInteger => "int_type"
  | unreadableInteger => "int_parsing"
  | oversizedInteger => "int_parsing_size"
  | fractional => "int_from_float"
  | notFinite => "finite_number"
  | notBoolean => "bool_type"
  | unreadableBoolean => "bool_parsing"
  | notList => "list_type"
  | notTuple => "tuple_type"
  | notPath => "path_type"
  | keyNotString => "invalid_key"
  | notModel _ => "model_type"
  | notObject => "model_attributes_type"
  | unknownTag _ _ _ => "union_tag_invalid"
  | noTag _ => "union_tag_not_found"
  | refused _ => "value_error"

def message : Complaint → String
  | missing => "Field required"
  | extra => "Extra inputs are not permitted"
  | notString => "Input should be a valid string"
  | notUnicode => "Input should be a valid string, unable to parse raw data as a unicode string"
  | notInteger => "Input should be a valid integer"
  | unreadableInteger => "Input should be a valid integer, unable to parse string as an integer"
  | oversizedInteger => "Unable to parse input string as an integer, exceeded maximum size"
  | fractional => "Input should be a valid integer, got a number with a fractional part"
  | notFinite => "Input should be a finite number"
  | notBoolean => "Input should be a valid boolean"
  | unreadableBoolean => "Input should be a valid boolean, unable to interpret input"
  | notList => "Input should be a valid list"
  | notTuple => "Input should be a valid tuple"
  | notPath => "Input is not a valid path for <class 'pathlib.Path'>"
  | keyNotString => "Keys should be strings"
  | notModel name => "Input should be a valid dictionary or instance of " ++ name
  | notObject => "Input should be a valid dictionary or object to extract fields from"
  | unknownTag tag key expected =>
    "Input tag '" ++ tag ++ "' found using '" ++ key
      ++ "' does not match any of the expected tags: "
      ++ Text.join ", " (expected.map fun t => "'" ++ t ++ "'")
  | noTag key => "Unable to extract tag using discriminator '" ++ key ++ "'"
  | refused reason => "Value error, " ++ reason

end Complaint

/-- A complaint, the place it is about and the value found there. -/
structure Violation where
  place : List Place
  complaint : Complaint
  value : Value
  deriving Repr

/-- A validated value, or all that is wrong with it. -/
inductive Checked (α : Type) where
  | valid (a : α)
  | invalid (violations : List Violation)

namespace Checked

def map {α β : Type} (f : α → β) : Checked α → Checked β
  | valid a => valid (f a)
  | invalid vs => invalid vs

/-- Two independent checks: the violations of both are kept, in order. -/
def seq {α β : Type} : Checked (α → β) → Checked α → Checked β
  | valid f, valid a => valid (f a)
  | valid _, invalid vs => invalid vs
  | invalid vs, valid _ => invalid vs
  | invalid vs, invalid ws => invalid (vs ++ ws)

instance : Functor Checked := ⟨map, fun a => map fun _ => a⟩

instance : Applicative Checked where
  pure := valid
  seq f a := seq f (a ())

/-- A check that needs the outcome of another one. -/
def andThen {α β : Type} (c : Checked α) (f : α → Checked β) : Checked β :=
  match c with
  | valid a => f a
  | invalid vs => invalid vs

/-- One complaint about a value. -/
def complain {α : Type} (complaint : Complaint) (value : Value) : Checked α :=
  invalid [⟨[], complaint, value⟩]

/-- The same outcome for a part of a larger value. -/
def within {α : Type} (place : Place) : Checked α → Checked α
  | valid a => valid a
  | invalid vs => invalid (vs.map fun v => { v with place := place :: v.place })

/-- All members of a list, each at its own index. -/
def all {α β : Type} (f : α → Checked β) (i : Nat) : List α → Checked (List β)
  | [] => valid []
  | x :: r => List.cons <$> within (.index i) (f x) <*> all f (i + 1) r

end Checked

end PromptMarkup
