import PromptMarkup.Text.Blank

/-!
# Verbatim text

The text of a code block keeps its indentation and its inner blank lines.  Spaces and tabs at the end of a
line are dropped, and so is one newline at either end, unless a second one stands next to it.
-/

namespace PromptMarkup.Text

/-- Spaces and tabs, the characters that a line may not end with. -/
def isLineSpace (c : Char) : Bool := c == ' ' || c == '\t'

/-- The text without the spaces and tabs at the end of each line. -/
def trimLines : List Char → List Char
  | [] => []
  | c :: r =>
    match trimLines r with
    | [] => if isLineSpace c then [] else [c]
    | d :: t => if isLineSpace c && d == '\n' then d :: t else c :: d :: t

/-- The text without its first newline, unless another one follows it. -/
def dropFirstNewline : List Char → List Char
  | '\n' :: '\n' :: r => '\n' :: '\n' :: r
  | '\n' :: r => r
  | s => s

/-- The text without its last newline, unless another one precedes it. -/
def dropLastNewline (s : List Char) : List Char :=
  (dropFirstNewline s.reverse).reverse

/-- The characters of a verbatim text with its line ends and its edges cleaned. -/
def cleanVerbatim (s : List Char) : List Char :=
  dropLastNewline (dropFirstNewline (trimLines s))

/-- Verbatim text, as it is printed inside a code block. -/
def verbatim (s : String) : String :=
  String.ofList (cleanVerbatim s.toList)

end PromptMarkup.Text
