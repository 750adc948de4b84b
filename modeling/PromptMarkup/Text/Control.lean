import PromptMarkup.Text.CodePoint

/-!
# Control sequences

An escape character and a bracket, parameters and a letter are an instruction to a terminal, for instance to change
the color.  What is printed to something else than a terminal is printed without them.
-/

namespace PromptMarkup.Text

/-- The character that a control sequence starts with. -/
def escape : Char := '\x1b'

/-- Whether a character can stand between the bracket and the letter of a control sequence. -/
def isParameter (c : Char) : Bool := c == ';' || c == '?' || c.isDigit

/-- The number of characters of the control sequence that a text starts with, or zero. -/
def controlLength (s : List Char) : Nat :=
  match s with
  | c :: '[' :: r =>
    if c == escape then
      match r.dropWhile isParameter with
      | d :: _ => if d.isAlpha then (r.takeWhile isParameter).length + 3 else 0
      | [] => 0
    else 0
  | _ => 0

/-- The text without its control sequences, after some characters that are left out. -/
def dropControls : Nat → List Char → List Char
  | _, [] => []
  | n + 1, _ :: r => dropControls n r
  | 0, c :: r =>
    match controlLength (c :: r) with
    | 0 => c :: dropControls 0 r
    | n + 1 => dropControls n r

/-- The characters in front of the first half of a pair. -/
def leadingChars : List CodePoint → List Char
  | .char c :: r => c :: leadingChars r
  | _ => []

/-- Code points without control sequences, after some that are left out. -/
def dropControlPoints : Nat → List CodePoint → List CodePoint
  | _, [] => []
  | n + 1, _ :: r => dropControlPoints n r
  | 0, p :: r =>
    match controlLength (leadingChars (p :: r)) with
    | 0 => p :: dropControlPoints 0 r
    | n + 1 => dropControlPoints n r

/-- The text without its control sequences. -/
def withoutControls (s : String) : String := String.ofList (dropControls 0 s.toList)

end PromptMarkup.Text
