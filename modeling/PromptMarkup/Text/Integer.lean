import PromptMarkup.Text.Blank
import PromptMarkup.Text.Digit

/-!
# Integers written as text

An integer attribute may carry a sign, leading zeros, blanks around it, digits of any script and single
underscores between digits.  A numeral has at most `maxDigits` digits.
-/

namespace PromptMarkup.Text

/-- The largest number of digits that is read. -/
def maxDigits : Nat := 4300

/-- The values of a numeral's digits, underscores being allowed singly between two digits. -/
def numeralDigits (digit? : Char → Option Nat) : List Char → Option (List Nat)
  | [] => none
  | [c] => (digit? c).map ([·])
  | c :: '_' :: r => do
    let d ← digit? c
    let ds ← numeralDigits digit? r
    return d :: ds
  | c :: r => do
    let d ← digit? c
    let ds ← numeralDigits digit? r
    return d :: ds

/-- The number that decimal digits stand for. -/
def ofDigits (ds : List Nat) : Nat :=
  ds.foldl (fun n d => 10 * n + d) 0

/-- The number that an unsigned numeral stands for. -/
def natOfChars? (cs : List Char) : Option Nat := do
  let ds ← numeralDigits digitValue? cs
  if ds.length ≤ maxDigits then some (ofDigits ds) else none

/-- The integer that a text stands for. -/
def intOf? (s : String) : Option Int :=
  match trimEnd (trimStart s.toList) with
  | '-' :: r => (natOfChars? r).map fun n => -(n : Int)
  | '+' :: r => (natOfChars? r).map fun n => (n : Int)
  | r => (natOfChars? r).map fun n => (n : Int)

/-! ### Other bases -/

/-- The value of a digit in a base up to 36: decimal digits first, then letters. -/
def digitIn? (base : Nat) (c : Char) : Option Nat :=
  let letter := c.toLower
  let value :=
    if 'a' ≤ letter && letter ≤ 'z' then some (letter.toNat - 87) else digitValue? c
  value.filter (· < base)

/-- The letter that marks the numerals of a base. -/
def baseLetter (base : Nat) : Option Char :=
  if base = 2 then some 'b' else if base = 8 then some 'o' else if base = 16 then some 'x' else none

/-- A numeral without the mark of its base. -/
def withoutMark (base : Nat) : List Char → List Char
  | '0' :: c :: r => if baseLetter base = some c.toLower then r else '0' :: c :: r
  | cs => cs

/-- The integer that a numeral in a base other than ten stands for; it may have any number of digits. -/
def intIn? (base : Nat) (cs : List Char) : Option Int :=
  let nat? (r : List Char) : Option Nat :=
    (numeralDigits (digitIn? base) (withoutMark base r)).map fun ds =>
      ds.foldl (fun n d => base * n + d) 0
  match trimEnd (trimStart cs) with
  | '-' :: r => (nat? r).map fun n => -(n : Int)
  | '+' :: r => (nat? r).map fun n => (n : Int)
  | r => (nat? r).map fun n => (n : Int)

end PromptMarkup.Text
