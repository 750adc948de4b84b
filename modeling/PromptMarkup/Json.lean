import PromptMarkup.Text.Quoted
import PromptMarkup.Text.Lines

/-!
# JSON

Values of JSON and their text on one line, without blanks.  Members of an object keep their order.
-/

namespace PromptMarkup

inductive Json where
  | bool (b : Bool)
  | number (n : Nat)
  | string (s : String)
  | array (xs : List Json)
  | object (members : List (String × Json))
  deriving Repr

namespace Json

/-- How one character is written in a text. -/
def escapeChar (c : Char) : List Char :=
  if c == '"' || c == '\\' then ['\\', c]
  else if c == '\n' then ['\\', 'n']
  else if c == '\r' then ['\\', 'r']
  else if c == '\t' then ['\\', 't']
  else if c == '\x08' then ['\\', 'b']
  else if c == '\x0c' then ['\\', 'f']
  else if c.toNat < 32 then '\\' :: 'u' :: Text.hexDigits 4 c.toNat
  else [c]

/-- A text between double quotation marks. -/
def quoted (s : List Char) : List Char := '"' :: (s.flatMap escapeChar ++ ['"'])

mutual

/-- The text of a value. -/
def chars : Json → List Char
  | bool b => if b then "true".toList else "false".toList
  | number n => (toString n).toList
  | string s => quoted s.toList
  | array xs => '[' :: (Text.joinOn ',' (itemChars xs) ++ [']'])
  | object members => '\x7b' :: (Text.joinOn ',' (memberChars members) ++ ['\x7d'])

def itemChars : List Json → List (List Char)
  | [] => []
  | x :: r => x.chars :: itemChars r

def memberChars : List (String × Json) → List (List Char)
  | [] => []
  | (name, x) :: r => (quoted name.toList ++ ':' :: x.chars) :: memberChars r

end

def text (j : Json) : String := String.ofList j.chars

/-- A member that is left out when there is nothing to say. -/
def member? {α : Type} (name : String) (f : α → Json) (x : Option α) : List (String × Json) :=
  match x with
  | none => []
  | some a => [(name, f a)]

end Json

end PromptMarkup
