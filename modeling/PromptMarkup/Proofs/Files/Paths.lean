import Mathlib.Data.List.Basic
import PromptMarkup.Files.Path

/-!
# Paths and their texts

A path in its normal form is read back from its text (`ofString_text`), so that different paths have different texts
(`eq_of_text_eq`).
-/

namespace PromptMarkup.Path

variable {p q : Path} {s : String} {ss : List String}

/-- A part of a path: it is neither empty nor a single dot, and has no slash. -/
structure IsPart (s : String) : Prop where
  ne_empty : s ≠ ""
  ne_dot : s ≠ "."
  notMem : '/' ∉ s.toList

instance (s : String) : Decidable (IsPart s) :=
  decidable_of_iff (s ≠ "" ∧ s ≠ "." ∧ '/' ∉ s.toList) ⟨fun h => ⟨h.1, h.2.1, h.2.2⟩, fun h => ⟨h.1, h.2, h.3⟩⟩

/-- A path in its normal form. -/
def IsNormal (p : Path) : Prop := ∀ s ∈ p.parts, IsPart s

instance (p : Path) : Decidable p.IsNormal := inferInstanceAs (Decidable (∀ s ∈ p.parts, IsPart s))

theorem isPart_of_mem_partsOf {t : String} (h : s ∈ partsOf t) : IsPart s := by
  obtain ⟨hs, hne⟩ := List.mem_filter.1 h
  obtain ⟨w, hw, rfl⟩ := List.mem_map.1 hs
  simp only [bne_iff_ne, ne_eq, Bool.and_eq_true] at hne
  exact ⟨hne.1, hne.2, by simpa using Text.notMem_of_mem_splitOn hw⟩

theorem isNormal_ofString (s : String) : (ofString s).IsNormal := fun _ => isPart_of_mem_partsOf

theorem IsNormal.append (hp : p.IsNormal) (hq : q.IsNormal) : (p.append q).IsNormal := by
  rw [Path.append]
  split
  · exact hq
  · intro s hs
    obtain hs | hs := List.mem_append.1 hs
    · exact hp s hs
    · exact hq s hs

theorem IsNormal.child (hp : p.IsNormal) (name : String) : (p.child name).IsNormal :=
  hp.append (isNormal_ofString name)

/-! ### Reading a text back -/

theorem parts_slash_append (a s : String) : Text.parts '/' (a ++ "/" ++ s) = Text.parts '/' a ++ Text.parts '/' s := by
  have h : (a ++ "/" ++ s).toList = a.toList ++ '/' :: s.toList := by simp
  rw [Text.parts, h, Text.splitOn_append_cons, List.map_append]
  rfl

theorem partsOf_slash_append (s : String) : partsOf ("/" ++ s) = partsOf s := by
  have h := parts_slash_append "" s
  rw [String.empty_append] at h
  rw [partsOf, h, List.filter_append]
  rfl

theorem partsOf_of_isPart (h : IsPart s) : partsOf s = [s] := by
  rw [partsOf, Text.parts, Text.splitOn_of_notMem h.notMem]
  simp [h.ne_empty, h.ne_dot]

theorem partsOf_join (h : ∀ s ∈ ss, IsPart s) : partsOf (Text.join "/" ss) = ss := by
  induction ss with
  | nil => rfl
  | cons s ss ih =>
    obtain ⟨hs, hss⟩ := List.forall_mem_cons.1 h
    cases ss with
    | nil => exact partsOf_of_isPart hs
    | cons t ss =>
      have hhead := partsOf_of_isPart hs
      rw [partsOf] at hhead
      rw [Text.join, partsOf, parts_slash_append, List.filter_append, hhead, ← partsOf, ih hss]
      rfl

/-- Joined parts do not start with a slash. -/
theorem exists_cons_join (h : IsPart s) (ss : List String) :
    ∃ c r, (Text.join "/" (s :: ss)).toList = c :: r ∧ c ≠ '/' := by
  obtain ⟨c, r, hc⟩ := List.exists_cons_of_ne_nil (l := s.toList) (by simpa using h.ne_empty)
  have hslash : c ≠ '/' := by
    rintro rfl
    exact h.notMem (by simp [hc])
  cases ss with
  | nil => exact ⟨c, r, hc, hslash⟩
  | cons t ss => exact ⟨c, r ++ ("/" ++ Text.join "/" (t :: ss)).toList, by simp [Text.join, hc], hslash⟩

/-- A path in its normal form is the one that its text denotes. -/
theorem ofString_text (h : p.IsNormal) : ofString p.text = p := by
  obtain ⟨anchor, parts⟩ := p
  have hparts : partsOf (Text.join "/" parts) = parts := partsOf_join h
  cases parts with
  | nil => cases anchor <;> rfl
  | cons s ss =>
    obtain ⟨c, r, htext, hc⟩ := exists_cons_join (h s List.mem_cons_self) ss
    cases anchor with
    | here =>
      have ht : text ⟨.here, s :: ss⟩ = Text.join "/" (s :: ss) := by simp [text, Anchor.text]
      rw [ht, ofString, hparts, htext]
      simp [Anchor.ofChars, hc]
    | top =>
      have ht : text ⟨.top, s :: ss⟩ = "/" ++ Text.join "/" (s :: ss) := rfl
      rw [ht, ofString, partsOf_slash_append, hparts, String.toList_append, htext]
      simp [Anchor.ofChars, hc]
    | doubleTop =>
      have ht : text ⟨.doubleTop, s :: ss⟩ = "/" ++ ("/" ++ Text.join "/" (s :: ss)) := by
        rw [← String.append_assoc]
        rfl
      rw [ht, ofString, partsOf_slash_append, partsOf_slash_append, hparts, String.toList_append, String.toList_append,
        htext]
      simp [Anchor.ofChars, hc]

/-- Different paths have different texts. -/
theorem eq_of_text_eq (hp : p.IsNormal) (hq : q.IsNormal) (h : p.text = q.text) : p = q := by
  rw [← ofString_text hp, h, ofString_text hq]

end PromptMarkup.Path
