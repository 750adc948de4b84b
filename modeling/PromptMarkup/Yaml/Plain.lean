import PromptMarkup.Text.Lines

/-!
# What a plain scalar stands for

A scalar without marks is a truth value, a number, a moment in time, nothing or a text, as its characters say.
-/

namespace PromptMarkup.Yaml

/-- The kinds of nodes; `other` is for all tags that have no meaning here. -/
inductive Tag where
  | null
  | bool
  | int
  | float
  | binary
  | timestamp
  | omap
  | pairs
  | set
  | str
  | seq
  | map
  | merge
  | value
  | other
  deriving DecidableEq, Repr

namespace Tag

/-- What the addresses of the known tags begin with. -/
def coreAddress : String := "tag:yaml.org,2002:"

/-- The known tags with the ends of their addresses. -/
def names : List (String × Tag) :=
  [("null", null), ("bool", bool), ("int", int), ("float", float), ("binary", binary),
    ("timestamp", timestamp), ("omap", omap), ("pairs", pairs), ("set", set), ("str", str),
    ("seq", seq), ("map", map), ("merge", merge), ("value", value)]

/-- The tag with an address. -/
def ofAddress (address : String) : Tag :=
  ((names.find? fun e => coreAddress ++ e.1 == address).map (·.2)).getD other

end Tag

/-! ### Patterns -/

/-- The words for truth values. -/
def boolWords : List (String × Bool) :=
  [("yes", true), ("no", false), ("true", true), ("false", false), ("on", true), ("off", false)]

/-- A word in small letters, with a capital in front or in capitals. -/
def isSpelling (word : String) (s : List Char) : Bool :=
  let w := word.toList
  s == w || s == w.map Char.toUpper || s == (w.take 1).map Char.toUpper ++ w.drop 1

def isBool (s : List Char) : Bool := boolWords.any fun e => isSpelling e.1 s

def isNull (s : List Char) : Bool := s == [] || s == ['~'] || isSpelling "null" s

/-- Characters without the sign in front of them. -/
def unsigned : List Char → List Char
  | '-' :: r => r
  | '+' :: r => r
  | s => s

/-- A run of characters of a kind that is not empty. -/
def isRun (p : Char → Bool) (s : List Char) : Bool := !s.isEmpty && s.all p

/-- A digit and then digits and underscores. -/
def isNumeral : List Char → Bool
  | [] => false
  | c :: r => c.isDigit && r.all fun d => d.isDigit || d == '_'

/-- A number below sixty in one or two digits. -/
def isSixtieth : List Char → Bool
  | [c] => c.isDigit
  | [c, d] => '0' ≤ c && c ≤ '5' && d.isDigit
  | _ => false

/-- Numerals with colons between them, at least two of them. -/
def isSexagesimal (s : List Char) : Bool :=
  match Text.splitOn ':' s with
  | first :: part :: parts => isNumeral first && (part :: parts).all isSixtieth
  | _ => false

/-- A whole number. -/
def isInt (s : List Char) : Bool :=
  match unsigned s with
  | '0' :: 'b' :: r => isRun (fun c => c == '0' || c == '1' || c == '_') r
  | '0' :: 'x' :: r =>
    isRun (fun c => c.isDigit || ('a' ≤ c && c ≤ 'f') || ('A' ≤ c && c ≤ 'F') || c == '_') r
  | '0' :: r => r.all fun c => ('0' ≤ c && c ≤ '7') || c == '_'
  | r => isNumeral r || isSexagesimal r

/-- The exponent of a number, or nothing. -/
def isExponent : List Char → Bool
  | [] => true
  | e :: sign :: r => (e == 'e' || e == 'E') && (sign == '-' || sign == '+') && isRun Char.isDigit r
  | _ => false

/-- A number with a point. -/
def isFloat (s : List Char) : Bool :=
  let u := unsigned s
  let whole := u.takeWhile (· != '.')
  match u.dropWhile (· != '.') with
  | _ :: r =>
    let rest := r.dropWhile fun c => c.isDigit || c == '_'
    let word := String.ofList r
    if whole.isEmpty then
      ["inf", "Inf", "INF"].contains word
        || (u == s && (["nan", "NaN", "NAN"].contains word || (isNumeral (r.take 1) && isExponent rest)))
    else
      (isNumeral whole && isExponent rest) || (isSexagesimal whole && rest.isEmpty)
  | [] => false

/-! ### Moments in time -/

/-- A number of decimal digits. -/
def digitsValue (ds : List Char) : Nat := ds.foldl (fun n c => 10 * n + (c.toNat - 48)) 0

/-- A run of digits whose length lies between two bounds, and what follows it. -/
def digitRun (least most : Nat) (s : List Char) : Option (Nat × List Char) :=
  let ds := s.takeWhile Char.isDigit
  if least ≤ ds.length ∧ ds.length ≤ most then some (digitsValue ds, s.drop ds.length) else none

/-- What follows a certain character. -/
def after (c : Char) : List Char → Option (List Char)
  | d :: r => if c = d then some r else none
  | [] => none

/-- A time of day with its distance from universal time in minutes. -/
structure TimeOfDay where
  hour : Nat
  minute : Nat
  second : Nat
  microsecond : Nat
  offset : Option Int
  deriving Repr

def isSpaceOrTab (c : Char) : Bool := c == ' ' || c == '\t'

/-- The distance from universal time in minutes, up to the end of the text. -/
def zone : List Char → Option (Option Int)
  | [] => some none
  | s =>
    match s.dropWhile isSpaceOrTab with
    | ['Z'] => some (some 0)
    | sign :: r =>
      if sign = '-' ∨ sign = '+' then do
        let (hours, r) ← digitRun 1 2 r
        let minutes ←
          match r with
          | [] => pure 0
          | ':' :: r => do
            let (m, r) ← digitRun 2 2 r
            if r.isEmpty then pure m else none
          | _ => none
        let total : Int := (hours * 60 + minutes : Nat)
        return some (if sign = '-' then -total else total)
      else none
    | [] => none

/-- Six digits of a fraction of a second. -/
def microseconds (ds : List Char) : Nat := digitsValue ((ds ++ List.replicate 6 '0').take 6)

/-- A time of day, up to the end of the text. -/
def timeOfDay (s : List Char) : Option TimeOfDay := do
  let (hour, r) ← digitRun 1 2 s
  let (minute, r) ← digitRun 2 2 (← after ':' r)
  let (second, r) ← digitRun 2 2 (← after ':' r)
  let (fraction, r) :=
    match r with
    | '.' :: r => (r.takeWhile Char.isDigit, r.dropWhile Char.isDigit)
    | r => ([], r)
  return ⟨hour, minute, second, microseconds fraction, ← zone r⟩

/-- The year, the month and the day of a date, and the time of day behind it. -/
def moment (s : List Char) : Option (Nat × Nat × Nat × Option TimeOfDay) := do
  let (year, r) ← digitRun 4 4 s
  let (month, r) ← digitRun 1 2 (← after '-' r)
  let (day, r) ← digitRun 1 2 (← after '-' r)
  match r with
  | [] => return (year, month, day, none)
  | c :: t =>
    if c = 'T' ∨ c = 't' then return (year, month, day, some (← timeOfDay t))
    else if isSpaceOrTab c then return (year, month, day, some (← timeOfDay (t.dropWhile isSpaceOrTab)))
    else none

/-- A date with two digits for the month and the day, or any date with a time of day. -/
def isTimestamp (s : List Char) : Bool :=
  match moment s with
  | some (_, _, _, none) => s.length == 10
  | some _ => true
  | none => false

/-- What a plain scalar stands for. -/
def Tag.ofPlain (text : String) : Tag :=
  let s := text.toList
  if isBool s then .bool
  else if isFloat s then .float
  else if isInt s then .int
  else if s = ['<', '<'] then .merge
  else if isNull s then .null
  else if isTimestamp s then .timestamp
  else if s = ['='] then .value
  else .str

end PromptMarkup.Yaml
