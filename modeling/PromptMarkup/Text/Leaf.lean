import PromptMarkup.Text.Blank

/-!
# Leaf text

The text of titles, descriptions and list items is read without regard to its layout: every run of
blanks counts as one space, and blanks at the ends count as nothing.
-/

namespace PromptMarkup.Text

/-- Every maximal run of blanks becomes one space. -/
def collapse : List Char → List Char
  | [] => []
  | c :: r =>
    if isBlank c then
      match r with
      | [] => [' ']
      | d :: _ => if isBlank d then collapse r else ' ' :: collapse r
    else c :: collapse r

/-- Leaf text: runs of blanks are one space, and none stand at the ends. -/
def leaf (s : String) : String :=
  String.ofList (trimEnd (trimStart (collapse s.toList)))

end PromptMarkup.Text
