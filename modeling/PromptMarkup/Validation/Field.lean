import PromptMarkup.Encoding.Utf8
import PromptMarkup.Files.Path
import PromptMarkup.Text.Integer
import PromptMarkup.Validation.Checked

/-!
# Fields

Validation of scalars and of the fields of a mapping.  Validation is lax where nothing is lost: an integer may be given
as a truth value, as a number without a fraction or as a numeral, and a truth value as a word.
-/

namespace PromptMarkup.Checked

/-- The bound of signed words of 64 bits. -/
def wordBound : Nat := Nat.pow 2 63

/-- White space around a numeral or a word: blanks other than the information separators. -/
def isSpace (c : Char) : Bool := Text.isBlank c && !(28 ≤ c.toNat && c.toNat ≤ 31)

/-- A text without white space at its ends. -/
def stripped (s : String) : List Char :=
  ((s.toList.dropWhile isSpace).reverse.dropWhile isSpace).reverse

def asciiDigit? (c : Char) : Option Nat :=
  if c.isDigit then some (c.toNat - 48) else none

/-- A numeral without a fraction that is not zero. -/
def dropZeroFraction (cs : List Char) : List Char :=
  let whole := cs.takeWhile (· != '.')
  match cs.dropWhile (· != '.') with
  | '.' :: z :: r => if (z :: r).all (· == '0') then whole else cs
  | _ => cs

/-- An integer given as a numeral. -/
def numeral (v : Value) (s : String) : Checked Int :=
  let cs := stripped s
  let read (r : List Char) : Option Nat :=
    (Text.numeralDigits asciiDigit? (dropZeroFraction r)).map Text.ofDigits
  let found := match cs with
    | '-' :: r => (read r).map fun n => -(n : Int)
    | '+' :: r => (read r).map fun n => (n : Int)
    | r => (read r).map fun n => (n : Int)
  if cs.length > Text.maxDigits then complain .oversizedInteger v
  else
    match found with
    | some n => valid n
    | none => complain .unreadableInteger v

/-- An integer. -/
def integer (v : Value) : Checked Int :=
  match v with
  | .int n => valid n
  | .bool b => valid (if b then 1 else 0)
  | .float x =>
    match x with
    | .finite _ _ _ =>
      match x.toInt? with
      | none => complain .fractional v
      | some n => if n.natAbs ≥ wordBound then complain .oversizedInteger v else valid n
    | _ => complain .notFinite v
  | .str s => numeral v s
  | .unpaired _ => complain .notUnicode v
  | .bytes bs =>
    match Encoding.Utf8.decode bs with
    | .ok s => numeral v s
    | .error _ => complain .unreadableInteger v
  | _ => complain .notInteger v

/-- The truth value that a word stands for. -/
def boolWord? (s : String) : Option Bool :=
  let w := s.map Char.toLower
  if ["0", "off", "f", "false", "n", "no"].contains w then some false
  else if ["1", "on", "t", "true", "y", "yes"].contains w then some true
  else none

/-- A truth value. -/
def boolean (v : Value) : Checked Bool :=
  let word (s : String) : Checked Bool :=
    match boolWord? s with
    | some b => valid b
    | none => complain .unreadableBoolean v
  match v with
  | .bool b => valid b
  | .str s => word s
  | .unpaired _ => complain .notUnicode v
  | .bytes bs =>
    match Encoding.Utf8.decode bs with
    | .ok s => word s
    | .error _ => complain .unreadableBoolean v
  | .int n =>
    if n = 0 then valid false
    else if n = 1 then valid true
    else complain .unreadableBoolean v
  | .float x =>
    match x.toInt? with
    | some n =>
      if n = 0 then valid false
      else if n = 1 then valid true
      else complain .unreadableBoolean v
    | none => complain .notBoolean v
  | _ => complain .notBoolean v

/-- A text. -/
def string (v : Value) : Checked String :=
  match v with
  | .str s => valid s
  | .unpaired _ => complain .notUnicode v
  | .bytes bs =>
    match Encoding.Utf8.decode bs with
    | .ok s => valid s
    | .error _ => complain .notUnicode v
  | _ => complain .notString v

/-- Anything, or nothing. -/
def nullable {α : Type} (f : Value → Checked α) (v : Value) : Checked (Option α) :=
  match v with
  | .null => valid none
  | v => map some (f v)

/-- A sequence whose length is fixed once it is read. -/
def tuple {α : Type} (f : Value → Checked α) (v : Value) : Checked (List α) :=
  match v.opened with
  | .list xs => all f 0 xs
  | .set xs => all f 0 xs
  | .pair x y => all f 0 [x, y]
  | _ => complain .notTuple v

/-- A list. -/
def list {α : Type} (f : Value → Checked α) (v : Value) : Checked (List α) :=
  match v.opened with
  | .list xs => all f 0 xs
  | .set xs => all f 0 xs
  | .pair x y => all f 0 [x, y]
  | _ => complain .notList v

/-- A path, given as a text. -/
def path (v : Value) : Checked Path :=
  match v with
  | .str s => valid (Path.ofString s)
  | v => complain .notPath v

/-- A field that must be there. -/
def required {α : Type} (whole : List (Value × Value)) (name : String) (f : Value → Checked α) :
    Checked α :=
  within (.key name) <|
    match Value.lookup (.str name) whole with
    | some v => f v
    | none => complain .missing (.map whole)

/-- A field with a default. -/
def optional {α : Type} (whole : List (Value × Value)) (name : String) (default : α)
    (f : Value → Checked α) : Checked α :=
  match Value.lookup (.str name) whole with
  | some v => within (.key name) (f v)
  | none => valid default

/-- A text in which each byte of half of a pair is replaced. -/
def replaced (points : List CodePoint) : String :=
  String.ofList (points.flatMap fun
    | .char c => [c]
    | .surrogate _ => List.replicate 3 (Char.ofNat 0xFFFD))

/-- How a key is named in a place. -/
def keyPlace (k : Value) : Place :=
  match k with
  | .str s => .key s
  | .unpaired points => .key (replaced points)
  | .int n => if n.natAbs < wordBound then .index n else .key (toString n)
  | .bool b => .index (if b then 1 else 0)
  | k => .key k.shown

/-- No keys but those of the fields are there. -/
def closed (fields : List String) : List (Value × Value) → Checked Unit
  | [] => valid ()
  | (k, v) :: r =>
    let here : Checked Unit :=
      match k with
      | .str s => if fields.contains s then valid () else within (.key s) (complain .extra v)
      | k => within (keyPlace k) (complain .keyNotString k)
    seq (map (fun _ _ => ()) here) (closed fields r)

/-- A mapping with the given fields and no others. -/
def model {α : Type} (name : String) (fields : List String)
    (f : List (Value × Value) → Checked α) (v : Value) : Checked α :=
  match v.opened with
  | .map es => (fun a _ => a) <$> f es <*> closed fields es
  | _ => complain (.notModel name) v

/-- A mapping with the given fields; others are passed over. -/
def openModel {α : Type} (name : String) (f : List (Value × Value) → Checked α) (v : Value) : Checked α :=
  match v.opened with
  | .map es => f es
  | _ => complain (.notModel name) v

/-- A valid value that must pass a further test, with the reason for refusing it. -/
def unlessRefused {α : Type} (v : Value) (refusal? : α → Option String) (c : Checked α) : Checked α :=
  andThen c fun a =>
    match refusal? a with
    | none => valid a
    | some reason => complain (.refused reason) v

end PromptMarkup.Checked
