import PromptMarkup.Xml.Scan

/-!
# Declarations

What a document type declares: entities, and the attributes of elements with their defaults.  Attribute values and entity
values are read with the declarations made so far.
-/

namespace PromptMarkup.Xml

/-- A general entity. -/
inductive Entity where
  | internal (text : List Char)
  | external
  | unparsed
  deriving DecidableEq, Repr

/-- A declared attribute. -/
structure DeclaredAttribute where
  name : String
  /-- Whether values are kept as they are, apart from line ends. -/
  verbatim : Bool
  default : Option String

/-- The declarations of a document. -/
structure Dtd where
  entities : List (String × Entity) := []
  /-- The declared attributes of elements, in order. -/
  attributes : List (String × DeclaredAttribute) := []
  /-- Parts of the declarations stand where they are not read. -/
  incomplete : Bool := false
  /-- The document says that it needs no declarations from elsewhere. -/
  standalone : Bool := false
  /-- Declarations still count; they cease to after a part that is not read. -/
  reading : Bool := true

namespace Dtd

def entity? (d : Dtd) (name : String) : Option Entity := d.entities.lookup name

/-- Entities must be declared, since no part of the declarations that could matter is left out. -/
def strict (d : Dtd) : Bool := !d.incomplete || d.standalone

/-- The declared attributes of an element. -/
def attributesOf (d : Dtd) (element : String) : List DeclaredAttribute :=
  d.attributes.filterMap fun a => if a.1 == element then some a.2 else none

/-- Adds a declared attribute.  A default or an identifier counts only for an attribute that is new. -/
def declare (d : Dtd) (element : String) (a : DeclaredAttribute) (isId : Bool) : Dtd :=
  if (a.default.isSome || isId) && (d.attributesOf element).any (·.name == a.name) then d
  else { d with attributes := d.attributes ++ [(element, a)] }

end Dtd

/-- The entities that every document has. -/
def predefined? : String → Option Char
  | "lt" => some '<'
  | "gt" => some '>'
  | "amp" => some '&'
  | "quot" => some '"'
  | "apos" => some '\''
  | _ => none

/-- The entities being expanded, innermost first. -/
abbrev OpenEntities := List String

/-- A problem inside a value: with the characters left in the value, or without a place of its own. -/
abbrev ValueError := Problem × Option Nat

/-- Adds a space to a value that is being read backwards.  Unless a value is kept verbatim, a space at its start or behind
another one is dropped. -/
def pushSpace (verbatim : Bool) (acc : List Char) : List Char :=
  if verbatim then ' ' :: acc
  else
    match acc with
    | [] => []
    | ' ' :: _ => acc
    | acc => ' ' :: acc

/-- Adds the character of a reference to a value. -/
def pushReferred (verbatim : Bool) (n : Nat) (acc : List Char) : List Char :=
  if n = 32 then pushSpace verbatim acc else Char.ofNat n :: acc

/-- Reads an attribute's value backwards onto `acc`.  `expand` reads the text of an entity, and `fuel` bounds the number of
characters. -/
def readValue (strict : Bool) (entity? : String → Option Entity) (opened : OpenEntities)
    (expand : OpenEntities → List Char → List Char → Except ValueError (List Char))
    (verbatim : Bool) : Nat → List Char → List Char → Except ValueError (List Char)
  | 0, _, acc => .ok acc
  | _ + 1, [], acc => .ok acc
  | fuel + 1, '&' :: r, acc =>
    let go := readValue strict entity? opened expand verbatim fuel
    let here := some (r.length + 1)
    match scanReference r with
    | .short => .error (.invalidToken, here)
    | .bad t => .error (.invalidToken, some t.length)
    | .found (.char n) t =>
      if isAllowed n then go t (pushReferred verbatim n acc)
      else .error (.invalidCharacterNumber, here)
    | .found (.entity name) t =>
      match predefined? name with
      | some c => go t (c :: acc)
      | none =>
        match entity? name with
        | none => if strict then .error (.undefinedEntity, none) else go t acc
        | some e =>
          if opened.contains name then .error (.recursiveEntity, here)
          else
            match e with
            | .unparsed => .error (.binaryEntity, here)
            | .external => .error (.externalEntityInAttribute, here)
            | .internal text =>
              match expand (name :: opened) text acc with
              | .error (p, _) => .error (p, none)
              | .ok acc => go t acc
  | fuel + 1, '\r' :: '\n' :: r, acc =>
    readValue strict entity? opened expand verbatim fuel r (pushSpace verbatim acc)
  | fuel + 1, c :: r, acc =>
    let go := readValue strict entity? opened expand verbatim fuel
    if isSpace c then go r (pushSpace verbatim acc)
    else if c = '<' then .error (.invalidToken, some (r.length + 1))
    else go r (c :: acc)

/-- Reads a text onto a value, with entities nested at most `depth` deep. -/
def readValueDepth (d : Dtd) (strict verbatim : Bool) :
    Nat → OpenEntities → List Char → List Char → Except ValueError (List Char)
  | 0, opened, text, acc =>
    readValue strict d.entity? opened (fun _ _ acc => .ok acc) verbatim (text.length + 1) text acc
  | depth + 1, opened, text, acc =>
    readValue strict d.entity? opened (readValueDepth d strict verbatim depth) verbatim
      (text.length + 1) text acc

/-- The value of an attribute that is written as `text` while some entities are being expanded. -/
def attributeValue (d : Dtd) (strict verbatim : Bool) (opened : OpenEntities) (text : List Char) :
    Except ValueError String := do
  let acc ← readValueDepth d strict verbatim (d.entities.length + 1) opened text []
  let trimmed := match acc with
    | ' ' :: r => if verbatim then acc else r
    | acc => acc
  return String.ofList trimmed.reverse

/-- Reads the value of an internal entity: numbers become their characters and line ends line feeds, and references to entities
are kept. -/
def entityValue : Nat → List Char → Except (Problem × Nat) (List Char)
  | 0, _ => .ok []
  | _ + 1, [] => .ok []
  | fuel + 1, '&' :: r =>
    match scanReference r with
    | .short => .error (.invalidToken, r.length + 1)
    | .bad t => .error (.invalidToken, t.length)
    | .found (.char n) t =>
      if isAllowed n then (Char.ofNat n :: ·) <$> entityValue fuel t
      else .error (.invalidCharacterNumber, r.length + 1)
    | .found (.entity name) t =>
      ('&' :: name.toList ++ ';' :: ·) <$> entityValue fuel t
  | _ + 1, '%' :: r =>
    match scanName r with
    | .short => .error (.invalidToken, r.length + 1)
    | .bad t => .error (.invalidToken, t.length)
    | .found _ (';' :: _) => .error (.misplacedParameterReference, r.length + 1)
    | .found _ [] => .error (.invalidToken, r.length + 1)
    | .found _ t => .error (.invalidToken, t.length)
  | fuel + 1, '\r' :: '\n' :: r => ('\n' :: ·) <$> entityValue fuel r
  | fuel + 1, '\r' :: r => ('\n' :: ·) <$> entityValue fuel r
  | fuel + 1, c :: r => (c :: ·) <$> entityValue fuel r

/-- The characters of a public identifier from the first that is not allowed there. -/
def publicIdFault (literal : List Char) : List Char :=
  literal.dropWhile fun c =>
    c.isAlphanum || "-'()+,/=?\n\r;!*%#: ._$@".toList.contains c

end PromptMarkup.Xml
