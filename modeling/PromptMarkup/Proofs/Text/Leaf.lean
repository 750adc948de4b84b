import Mathlib.Data.List.Chain
import PromptMarkup.Text.Leaf
import PromptMarkup.Text.Lines

/-!
# The words of leaf text

Leaf text is the words of a text with one space between neighbours (`toList_leaf`).  The words of such a text are the
same ones, so that leaf text is left alone when it is read as leaf text again (`leaf_leaf`).  The texts that are left
alone are those without line breaks, blanks at the ends and blanks side by side (`leaf_eq_self_iff`).
-/

namespace PromptMarkup.Text

/-- The words of a text: its longest parts without blanks. -/
def words (s : List Char) : List (List Char) := (s.splitOnP isBlank).filter fun w => !w.isEmpty

/-- A word is not empty and has no blanks. -/
def IsWord (w : List Char) : Prop := w ≠ [] ∧ ∀ c ∈ w, isBlank c = false

section

variable {c d : Char} {r s w : List Char} {ws : List (List Char)}

/-- A text is cut into words at each blank. -/
theorem words_append_cons (hc : isBlank c = true) (s r : List Char) : words (s ++ c :: r) = words s ++ words r := by
  rw [words, List.splitOnP_append_cons s r hc, List.filter_append]
  rfl

theorem words_cons_of_isBlank (hc : isBlank c = true) (r : List Char) : words (c :: r) = words r :=
  words_append_cons hc [] r

theorem words_of_isWord (hw : IsWord w) : words w = [w] := by
  rw [words, List.splitOnP_eq_singleton hw.2]
  simp [hw.1]

/-- A character that is not blank stands at the front of the first word. -/
theorem words_cons_cons (hc : isBlank c = false) (hd : isBlank d = false) (r : List Char) :
    ∃ w ws, words (d :: r) = w :: ws ∧ words (c :: d :: r) = (c :: w) :: ws := by
  obtain ⟨p, ps, hp⟩ := List.exists_cons_of_ne_nil (List.splitOnP_ne_nil isBlank r)
  exact ⟨d :: p, ps.filter fun w => !w.isEmpty,
    by simp [words, List.splitOnP_cons_eq_if_modifyHead, hd, hp],
    by simp [words, List.splitOnP_cons_eq_if_modifyHead, hc, hd, hp]⟩

theorem isWord_of_mem_words (h : w ∈ words s) : IsWord w := by
  obtain ⟨hw, hne⟩ := List.mem_filter.1 h
  refine ⟨by simpa using hne, ?_⟩
  clear h hne
  induction s generalizing w with
  | nil =>
    obtain rfl : w = [] := by simpa [List.splitOnP_nil] using hw
    simp
  | cons c r ih =>
    obtain ⟨p, ps, hp⟩ := List.exists_cons_of_ne_nil (List.splitOnP_ne_nil isBlank r)
    rw [hp] at ih
    rw [List.splitOnP_cons_eq_if_modifyHead, hp] at hw
    split at hw
    · obtain rfl | hw := List.mem_cons.1 hw
      · simp
      · exact ih hw
    · next hc =>
      obtain rfl | hw := List.mem_cons.1 hw
      · exact List.forall_mem_cons.2 ⟨by simpa using hc, ih List.mem_cons_self⟩
      · exact ih (List.mem_cons_of_mem p hw)

/-- A text without words is blank. -/
theorem words_eq_nil_iff : words s = [] ↔ ∀ c ∈ s, isBlank c = true := by
  induction s with
  | nil => exact ⟨fun _ => List.forall_mem_nil _, fun _ => rfl⟩
  | cons c r ih =>
    rw [List.forall_mem_cons]
    by_cases hc : isBlank c = true
    · rw [words_cons_of_isBlank hc, ih]
      exact ⟨fun h => ⟨hc, h⟩, And.right⟩
    -- The first word holds `c`, and more if `c` stands before another such character.
    refine ⟨fun h => absurd h ?_, fun h => absurd h.1 hc⟩
    rw [Bool.not_eq_true] at hc
    cases r with
    | nil => simp [words_of_isWord (w := [c]) ⟨List.cons_ne_nil _ _, by simpa using hc⟩]
    | cons d r =>
      by_cases hd : isBlank d = true
      · have hw : words [c] = [[c]] := words_of_isWord ⟨List.cons_ne_nil _ _, by simpa using hc⟩
        rw [← List.singleton_append, words_append_cons hd, hw]
        exact List.cons_ne_nil _ _
      · obtain ⟨w, ws, -, h⟩ := words_cons_cons hc (Bool.eq_false_iff.2 hd) r
        simp [h]

/-- Words with one space between neighbours are read as these words. -/
theorem words_joinOn (h : ∀ w ∈ ws, IsWord w) : words (joinOn ' ' ws) = ws := by
  induction ws with
  | nil => rfl
  | cons w ws ih =>
    obtain ⟨hw, hws⟩ := List.forall_mem_cons.1 h
    cases ws with
    | nil => exact words_of_isWord hw
    | cons v vs =>
      rw [joinOn, words_append_cons (by decide), words_of_isWord hw, ih hws]
      rfl

/-! ### Leaf text -/

theorem collapse_cons_of_isBlank (hc : isBlank c = true) (r : List Char) :
    collapse (c :: r) = ' ' :: collapse (trimStart r) := by
  induction r generalizing c with
  | nil => simp [collapse, trimStart, hc]
  | cons d r ih =>
    rw [collapse.eq_def, trimStart]
    by_cases hd : isBlank d = true
    · simp only [hc, hd, if_true]
      exact ih hd
    · simp only [hc, hd, if_true, Bool.false_eq_true, if_false]

theorem collapse_cons (hc : isBlank c = false) (r : List Char) : collapse (c :: r) = c :: collapse r := by
  rw [collapse.eq_def]
  simp [hc]

theorem trimStart_cons (hc : isBlank c = false) (r : List Char) : trimStart (c :: r) = c :: r := by
  simp [trimStart, hc]

theorem trimEnd_cons (hc : isBlank c = false) (r : List Char) : trimEnd (c :: r) = c :: trimEnd r := by
  rw [trimEnd]
  cases trimEnd r <;> simp [hc]

theorem trimStart_collapse_trimStart (s : List Char) :
    trimStart (collapse (trimStart s)) = collapse (trimStart s) := by
  induction s with
  | nil => rfl
  | cons c r ih =>
    by_cases hc : isBlank c = true
    · rwa [trimStart, if_pos hc]
    · rw [Bool.not_eq_true] at hc
      rw [trimStart_cons hc, collapse_cons hc, trimStart_cons hc]

theorem trimStart_collapse (s : List Char) : trimStart (collapse s) = collapse (trimStart s) := by
  cases s with
  | nil => rfl
  | cons c r =>
    by_cases hc : isBlank c = true
    · rw [collapse_cons_of_isBlank hc, trimStart, if_pos (by decide), trimStart_collapse_trimStart, trimStart,
        if_pos hc]
    · rw [Bool.not_eq_true] at hc
      rw [trimStart_cons hc, collapse_cons hc, trimStart_cons hc]

theorem joinOn_ne_nil (hw : IsWord w) (ws : List (List Char)) : joinOn ' ' (w :: ws) ≠ [] := by
  cases ws with
  | nil => exact hw.1
  | cons v vs => simp [joinOn]

/-- What is left of a text are its words. -/
theorem trimEnd_collapse_trimStart (s : List Char) : trimEnd (collapse (trimStart s)) = joinOn ' ' (words s) := by
  induction s with
  | nil => rfl
  | cons c r ih =>
    by_cases hc : isBlank c = true
    · rw [trimStart, if_pos hc, words_cons_of_isBlank hc, ih]
    rw [Bool.not_eq_true] at hc
    rw [trimStart_cons hc, collapse_cons hc, trimEnd_cons hc]
    cases r with
    | nil => rw [words_of_isWord ⟨by simp, by simpa using hc⟩]; rfl
    | cons d r =>
      by_cases hd : isBlank d = true
      · -- The word ends here: blanks follow, and then the other words, if there are some.
        rw [trimStart, if_pos hd, words_cons_of_isBlank hd] at ih
        have hwords : words (c :: d :: r) = [c] :: words r := by
          have hword : words [c] = [[c]] := words_of_isWord ⟨by simp, by simpa using hc⟩
          have hcut := words_append_cons hd [c] r
          rwa [hword] at hcut
        rw [collapse_cons_of_isBlank hd, trimEnd, ih, hwords]
        cases hr : words r with
        | nil => rfl
        | cons w ws =>
          have hw : IsWord w := isWord_of_mem_words (s := r) (by simp [hr])
          obtain ⟨x, xs, hx⟩ := List.exists_cons_of_ne_nil (joinOn_ne_nil hw ws)
          rw [hx]
          simp only [joinOn, hx, List.cons_append, List.nil_append]
      · rw [Bool.not_eq_true] at hd
        rw [trimStart_cons hd] at ih
        obtain ⟨w, ws, hr, hcr⟩ := words_cons_cons hc hd r
        rw [ih, hr, hcr]
        cases ws <;> rfl

end

/-- Leaf text is the words with one space between neighbours. -/
theorem toList_leaf (s : String) : (leaf s).toList = joinOn ' ' (words s.toList) := by
  rw [leaf, String.toList_ofList, trimStart_collapse, trimEnd_collapse_trimStart]

theorem words_leaf (s : String) : words (leaf s).toList = words s.toList := by
  rw [toList_leaf, words_joinOn fun _ => isWord_of_mem_words]

/-- Texts with the same words are the same leaf text. -/
theorem leaf_congr {s t : String} (h : words s.toList = words t.toList) : leaf s = leaf t := by
  rw [← String.toList_inj, toList_leaf, h, toList_leaf]

theorem leaf_eq_empty_iff {s : String} : leaf s = "" ↔ ∀ c ∈ s.toList, isBlank c = true := by
  rw [← words_eq_nil_iff]
  refine ⟨fun h => ?_, fun h => leaf_congr (t := "") h⟩
  rw [← words_leaf, h]
  rfl

/-- Reading leaf text as leaf text changes nothing. -/
theorem leaf_leaf (s : String) : leaf (leaf s) = leaf s := leaf_congr (words_leaf s)

theorem mem_joinOn {d c : Char} {ps : List (List Char)} (h : c ∈ joinOn d ps) : c = d ∨ ∃ p ∈ ps, c ∈ p := by
  induction ps with
  | nil => simp [joinOn] at h
  | cons p ps ih =>
    cases ps with
    | nil => exact .inr ⟨p, List.mem_cons_self, h⟩
    | cons q qs =>
      rw [joinOn, List.mem_append, List.mem_cons] at h
      obtain h | rfl | h := h
      · exact .inr ⟨p, List.mem_cons_self, h⟩
      · exact .inl rfl
      · exact (ih h).imp_right (Exists.imp fun p hp => ⟨List.mem_cons_of_mem _ hp.1, hp.2⟩)

/-- The only blanks of leaf text are spaces. -/
theorem eq_space_of_mem_leaf {s : String} {c : Char} (h : c ∈ (leaf s).toList) (hc : isBlank c = true) : c = ' ' := by
  rw [toList_leaf] at h
  obtain h | ⟨w, hw, h⟩ := mem_joinOn h
  · exact h
  · rw [(isWord_of_mem_words hw).2 c h] at hc
    cases hc

/-! ### Tidy texts -/

/-- A text without layout: its blanks are single spaces, and none stand at its ends. -/
structure IsTidy (s : List Char) : Prop where
  space : ∀ c ∈ s, isBlank c = true → c = ' '
  head : ∀ c ∈ s.head?, isBlank c = false
  last : ∀ c ∈ s.getLast?, isBlank c = false
  single : s.IsChain fun c d => isBlank c = true → isBlank d = false

theorem isTidy_of_isWord {w : List Char} (hw : IsWord w) : IsTidy w where
  space c hc hb := by
    rw [hw.2 c hc] at hb
    cases hb
  head c hc := hw.2 c (List.mem_of_mem_head? hc)
  last c hc := hw.2 c (List.mem_of_mem_getLast? hc)
  single := by
    refine List.Pairwise.isChain (List.pairwise_of_forall_mem_list ?_)
    exact fun _ _ d hd _ => hw.2 d hd

theorem IsTidy.append_space {w r : List Char} (hw : IsWord w) (hr : IsTidy r) (hne : r ≠ []) :
    IsTidy (w ++ ' ' :: r) where
  space c hc hb := by
    rw [List.mem_append, List.mem_cons] at hc
    obtain hc | rfl | hc := hc
    · exact (isTidy_of_isWord hw).space c hc hb
    · rfl
    · exact hr.space c hc hb
  head c hc := by
    rw [List.head?_append_of_ne_nil _ hw.1] at hc
    exact (isTidy_of_isWord hw).head c hc
  last c hc := by
    rw [List.getLast?_append_of_ne_nil _ (List.cons_ne_nil _ _), List.getLast?_cons_of_ne_nil hne] at hc
    exact hr.last c hc
  single := by
    have hrest : (' ' :: r).IsChain fun c d => isBlank c = true → isBlank d = false :=
      List.isChain_cons.2 ⟨fun d hd _ => hr.head d hd, hr.single⟩
    refine List.isChain_append.2 ⟨(isTidy_of_isWord hw).single, hrest, fun c hc d _ hb => ?_⟩
    rw [(isTidy_of_isWord hw).last c hc] at hb
    cases hb

/-- Words with one space between neighbours are tidy. -/
theorem isTidy_joinOn {ws : List (List Char)} (h : ∀ w ∈ ws, IsWord w) : IsTidy (joinOn ' ' ws) := by
  induction ws with
  | nil => exact ⟨by simp [joinOn], by simp [joinOn], by simp [joinOn], .nil⟩
  | cons w ws ih =>
    obtain ⟨hw, hws⟩ := List.forall_mem_cons.1 h
    cases ws with
    | nil => exact isTidy_of_isWord hw
    | cons v vs => exact (ih hws).append_space hw (joinOn_ne_nil (hws v List.mem_cons_self) vs)

theorem collapse_eq_self {s : List Char} (hspace : ∀ c ∈ s, isBlank c = true → c = ' ')
    (hsingle : s.IsChain fun c d => isBlank c = true → isBlank d = false) : collapse s = s := by
  induction s with
  | nil => rfl
  | cons c r ih =>
    obtain ⟨hc, hspace⟩ := List.forall_mem_cons.1 hspace
    obtain ⟨hnext, hsingle⟩ := List.isChain_cons.1 hsingle
    by_cases hb : isBlank c = true
    · have hstart : trimStart r = r := by
        cases r with
        | nil => rfl
        | cons d r => exact trimStart_cons (hnext d rfl hb) r
      rw [collapse_cons_of_isBlank hb, hstart, ih hspace hsingle, hc hb]
    · rw [Bool.not_eq_true] at hb
      rw [collapse_cons hb, ih hspace hsingle]

theorem trimStart_eq_self {s : List Char} (h : ∀ c ∈ s.head?, isBlank c = false) : trimStart s = s := by
  cases s with
  | nil => rfl
  | cons c r => exact trimStart_cons (h c rfl) r

theorem trimEnd_eq_self {s : List Char} (h : ∀ c ∈ s.getLast?, isBlank c = false) : trimEnd s = s := by
  induction s with
  | nil => rfl
  | cons c r ih =>
    cases r with
    | nil => simp [trimEnd, h c rfl]
    | cons d r =>
      rw [List.getLast?_cons_cons] at h
      rw [trimEnd, ih h]

/-- The texts that reading leaf text does not change are the tidy ones. -/
theorem leaf_eq_self_iff {s : String} : leaf s = s ↔ IsTidy s.toList := by
  constructor
  · intro h
    rw [← h, toList_leaf]
    exact isTidy_joinOn fun _ => isWord_of_mem_words
  · intro h
    rw [leaf, collapse_eq_self h.space h.single, trimStart_eq_self h.head, trimEnd_eq_self h.last, String.ofList_toList]

end PromptMarkup.Text
