import Mathlib.Data.List.Pairwise
import PromptMarkup.Proofs.Text.Leaf

/-!
# The runs of a text

A run is a longest part of a text without blanks.  No run crosses a blank, so the runs of a text are those before a
blank and those behind it (`isRun_append_cons`), and what stands at their places are the words (`exists_areRuns`).  The
main result: leaf text is the canonical form of a sequence of words (`leaf_canonical`).
-/

namespace PromptMarkup.Text

/-- Characters stand at all positions from `i` up to `j`, and none of them is blank. -/
structure IsStretch (s : List Char) (i j : Nat) : Prop where
  lt : i < j
  filled : ∀ k, i ≤ k → k < j → ∃ c, s[k]? = some c ∧ isBlank c = false

/-- A stretch that is not part of a longer one. -/
structure IsRun (s : List Char) (i j : Nat) : Prop where
  stretch : IsStretch s i j
  longest : ∀ i' j', IsStretch s i' j' → i' ≤ i → j ≤ j' → i' = i ∧ j' = j

/-- The places of all runs of a text, in their order. -/
structure AreRuns (s : List Char) (rs : List (Nat × Nat)) : Prop where
  ordered : rs.Pairwise fun r t => r.2 < t.1
  mem_iff : ∀ r, r ∈ rs ↔ IsRun s r.1 r.2

/-- A place that is moved to the right. -/
def shift (n : Nat) (r : Nat × Nat) : Nat × Nat := (n + r.1, n + r.2)

section

variable {a b s : List Char} {c : Char} {i j : Nat} {ra rb : List (Nat × Nat)}

/-! ### Stretches -/

theorem IsStretch.le_length (h : IsStretch s i j) : j ≤ s.length := by
  have hlt := h.lt
  obtain ⟨c, hc, -⟩ := h.filled (j - 1) (by omega) (by omega)
  have hlast := (List.getElem?_eq_some_iff.1 hc).1
  omega

/-- The same characters, `n` positions further right, are the same stretches there. -/
theorem isStretch_congr {t : List Char} {n : Nat} (hget : ∀ k, k < j → t[n + k]? = s[k]?) :
    IsStretch t (n + i) (n + j) ↔ IsStretch s i j := by
  constructor
  · intro h
    refine ⟨Nat.lt_of_add_lt_add_left h.lt, fun k hi hk => ?_⟩
    rw [← hget k hk]
    exact h.filled _ (by omega) (by omega)
  · intro h
    refine ⟨Nat.add_lt_add_left h.lt n, fun k hi hk => ?_⟩
    obtain ⟨m, rfl⟩ := Nat.exists_eq_add_of_le (show n ≤ k by omega)
    rw [hget m (by omega)]
    exact h.filled m (by omega) (by omega)

theorem isStretch_append_left (hj : j ≤ a.length) : IsStretch (a ++ b) i j ↔ IsStretch a i j := by
  have hget : ∀ k, k < j → (a ++ b)[0 + k]? = a[k]? := by
    intro k hk
    rw [Nat.zero_add, List.getElem?_append_left (by omega)]
  simpa only [Nat.zero_add] using isStretch_congr (i := i) hget

theorem isStretch_append_cons_right :
    IsStretch (a ++ c :: b) (a.length + 1 + i) (a.length + 1 + j) ↔ IsStretch b i j := by
  refine isStretch_congr fun k _ => ?_
  have hk : a.length + 1 + k - a.length = k + 1 := by omega
  rw [List.getElem?_append_right (by omega), hk, List.getElem?_cons_succ]

/-- No stretch crosses a blank. -/
theorem IsStretch.cases_append_cons (hc : isBlank c = true) (h : IsStretch (a ++ c :: b) i j) :
    IsStretch a i j ∨ ∃ i' j', i = a.length + 1 + i' ∧ j = a.length + 1 + j' ∧ IsStretch b i' j' := by
  have hlt := h.lt
  have hside : j ≤ a.length ∨ a.length < i := by
    by_contra hinside
    obtain ⟨d, hd, hdark⟩ := h.filled a.length (by omega) (by omega)
    obtain rfl : c = d := by simpa using hd
    rw [hc] at hdark
    cases hdark
  obtain hj | hi := hside
  · exact .inl ((isStretch_append_left hj).1 h)
  · obtain ⟨i', rfl⟩ := Nat.exists_eq_add_of_le (show a.length + 1 ≤ i by omega)
    obtain ⟨j', rfl⟩ := Nat.exists_eq_add_of_le (show a.length + 1 ≤ j by omega)
    exact .inr ⟨i', j', rfl, rfl, isStretch_append_cons_right.1 h⟩

/-! ### Runs -/

/-- The runs of a text are those before a blank and those behind it. -/
theorem isRun_append_cons (hc : isBlank c = true) :
    IsRun (a ++ c :: b) i j ↔
      IsRun a i j ∨ ∃ i' j', i = a.length + 1 + i' ∧ j = a.length + 1 + j' ∧ IsRun b i' j' := by
  have hleft : ∀ {k l}, IsStretch a k l → IsStretch (a ++ c :: b) k l :=
    fun h => (isStretch_append_left h.le_length).2 h
  constructor
  · intro h
    obtain ha | ⟨i', j', rfl, rfl, hb⟩ := h.stretch.cases_append_cons hc
    · exact .inl ⟨ha, fun k l hkl => h.longest k l (hleft hkl)⟩
    · refine .inr ⟨i', j', rfl, rfl, hb, fun k l hkl hk hl => ?_⟩
      have hsame := h.longest _ _ (isStretch_append_cons_right.2 hkl) (by omega) (by omega)
      omega
  -- A stretch that holds a run stands on the same side of the blank.
  · rintro (h | ⟨i', j', rfl, rfl, h⟩)
    · refine ⟨hleft h.stretch, fun k l hkl hk hl => ?_⟩
      obtain ha | ⟨k', l', rfl, rfl, -⟩ := hkl.cases_append_cons hc
      · exact h.longest k l ha hk hl
      · have hlt := h.stretch.lt
        have hle := h.stretch.le_length
        omega
    · refine ⟨isStretch_append_cons_right.2 h.stretch, fun k l hkl hk hl => ?_⟩
      obtain ha | ⟨k', l', rfl, rfl, hb⟩ := hkl.cases_append_cons hc
      · have hle := ha.le_length
        have hlt := h.stretch.lt
        omega
      · have hsame := h.longest k' l' hb (by omega) (by omega)
        omega

theorem areRuns_nil : AreRuns [] [] where
  ordered := .nil
  mem_iff r := by
    refine ⟨fun hr => absurd hr List.not_mem_nil, fun h => ?_⟩
    have hlt := h.stretch.lt
    have hle := h.stretch.le_length
    rw [List.length_nil] at hle
    omega

/-- The only run of a text without blanks is the text. -/
theorem areRuns_of_isWord (hs : IsWord s) : AreRuns s [(0, s.length)] where
  ordered := List.pairwise_singleton _ _
  mem_iff r := by
    have hwhole : IsStretch s 0 s.length := by
      refine ⟨List.length_pos_iff.2 hs.1, fun k _ hk => ⟨s[k], List.getElem?_eq_getElem hk, ?_⟩⟩
      exact hs.2 s[k] (List.getElem_mem hk)
    rw [List.mem_singleton]
    constructor
    · rintro rfl
      refine ⟨hwhole, fun i j h hi hj => ?_⟩
      have hle := h.le_length
      omega
    · intro h
      obtain ⟨hi, hj⟩ := h.longest _ _ hwhole (Nat.zero_le _) h.stretch.le_length
      exact Prod.ext hi.symm hj.symm

theorem AreRuns.append_cons (ha : AreRuns a ra) (hb : AreRuns b rb) (hc : isBlank c = true) :
    AreRuns (a ++ c :: b) (ra ++ rb.map (shift (a.length + 1))) where
  ordered := by
    refine List.pairwise_append.2 ⟨ha.ordered, List.pairwise_map.2 (hb.ordered.imp ?_), fun r hr t ht => ?_⟩
    · intro r t h
      rw [shift, shift]
      omega
    · obtain ⟨u, -, rfl⟩ := List.mem_map.1 ht
      have hle := ((ha.mem_iff r).1 hr).stretch.le_length
      rw [shift]
      omega
  mem_iff r := by
    rw [List.mem_append, List.mem_map, ha.mem_iff, isRun_append_cons hc]
    refine or_congr_right ⟨?_, ?_⟩
    · rintro ⟨u, hu, rfl⟩
      exact ⟨u.1, u.2, rfl, rfl, (hb.mem_iff u).1 hu⟩
    · rintro ⟨i, j, hi, hj, h⟩
      exact ⟨(i, j), (hb.mem_iff (i, j)).2 h, Prod.ext hi.symm hj.symm⟩

/-! ### What stands at a place -/

theorem extract_append_left (hj : j ≤ a.length) : (a ++ b).extract i j = a.extract i j := by
  obtain hi | hi := Nat.le_total i a.length
  · have hend : j - i ≤ (a.drop i).length := by
      rw [List.length_drop]
      omega
    rw [List.extract_eq_take_drop, List.drop_append_of_le_length hi, List.take_append_of_le_length hend,
      ← List.extract_eq_take_drop]
  · have hempty : j - i = 0 := by omega
    rw [List.extract_eq_take_drop, List.extract_eq_take_drop, hempty, List.take_zero, List.take_zero]

theorem extract_append_cons_right :
    (a ++ c :: b).extract (a.length + 1 + i) (a.length + 1 + j) = b.extract i j := by
  have hdrop : (a ++ c :: b).drop (a.length + 1 + i) = b.drop i := by
    rw [Nat.add_assoc, ← List.drop_drop, List.drop_left, Nat.add_comm, List.drop_succ_cons]
  rw [List.extract_eq_take_drop, List.extract_eq_take_drop, hdrop, Nat.add_sub_add_left]

end

/-- The words of a text are what stands at the places of its runs. -/
theorem exists_areRuns (s : List Char) : ∃ rs, AreRuns s rs ∧ words s = rs.map fun r => s.extract r.1 r.2 := by
  by_cases hblank : ∃ c ∈ s, isBlank c = true
  -- A blank leaves two shorter texts, one on each side.
  · obtain ⟨c, hmem, hc⟩ := hblank
    obtain ⟨a, b, hs⟩ := List.append_of_mem hmem
    have hlength : s.length = a.length + b.length + 1 := by simp [hs, Nat.add_assoc]
    obtain ⟨ra, ha, hwa⟩ := exists_areRuns a
    obtain ⟨rb, hb, hwb⟩ := exists_areRuns b
    rw [hs]
    refine ⟨_, ha.append_cons hb hc, ?_⟩
    rw [words_append_cons hc, hwa, hwb, List.map_append, List.map_map]
    congr 1
    · refine List.map_congr_left fun r hr => ?_
      exact (extract_append_left ((ha.mem_iff r).1 hr).stretch.le_length).symm
    · exact List.map_congr_left fun r _ => extract_append_cons_right.symm
  · obtain rfl | hne := eq_or_ne s []
    · exact ⟨[], areRuns_nil, rfl⟩
    · have hs : IsWord s := ⟨hne, by simpa using hblank⟩
      refine ⟨[(0, s.length)], areRuns_of_isWord hs, ?_⟩
      rw [words_of_isWord hs, List.map_singleton, List.extract_eq_take_drop, List.drop_zero, Nat.sub_zero,
        List.take_length]
termination_by s.length
decreasing_by all_goals omega

/-! ### Canonical form -/

theorem leaf_eq_leaf_iff {s t : String} : leaf s = leaf t ↔ words s.toList = words t.toList := by
  refine ⟨fun h => ?_, leaf_congr⟩
  rw [← words_leaf s, h, words_leaf]

theorem words_append_blank {u : String} {c : Char} (hu : u.toList = [c]) (hc : isBlank c = true) (s t : String) :
    words (s ++ u ++ t).toList = words s.toList ++ words t.toList := by
  have hcut : (s ++ u ++ t).toList = s.toList ++ c :: t.toList := by simp [hu]
  rw [hcut, words_append_cons hc]

/-- Leaf text is the runs of a text with one space between neighbours, and so it tells nothing but the words.  It is
tidy, it is left alone when it is read again, and the leaf text of two parts with a blank between them can be made from
the leaf texts of the parts. -/
theorem leaf_canonical (s t : String) :
    (∃ rs, AreRuns s.toList rs ∧ words s.toList = rs.map (fun r => s.toList.extract r.1 r.2) ∧
        (leaf s).toList = joinOn ' ' (words s.toList)) ∧
      (leaf s = leaf t ↔ words s.toList = words t.toList) ∧
      leaf (leaf s) = leaf s ∧
      IsTidy (leaf s).toList ∧
      ∀ c, isBlank c = true → leaf (s ++ String.singleton c ++ t) = leaf (leaf s ++ " " ++ leaf t) := by
  refine ⟨?_, leaf_eq_leaf_iff, leaf_leaf s, leaf_eq_self_iff.1 (leaf_leaf s), fun c hc => leaf_congr ?_⟩
  · obtain ⟨rs, hrs, hwords⟩ := exists_areRuns s.toList
    exact ⟨rs, hrs, hwords, toList_leaf s⟩
  · calc words (s ++ String.singleton c ++ t).toList
        = words s.toList ++ words t.toList := words_append_blank (String.toList_singleton c) hc s t
      _ = words (leaf s).toList ++ words (leaf t).toList := by rw [words_leaf, words_leaf]
      _ = words (leaf s ++ " " ++ leaf t).toList := (words_append_blank (c := ' ') rfl rfl _ _).symm

/-- Blanks of other scripts and at the ends count like spaces. -/
theorem leaf_wideSpaces :
    isBlank '\u3000' = true ∧
      leaf ("\n  Use" ++ String.singleton '\u3000' ++ "\u2009short\t names ") =
        leaf (leaf "\n  Use" ++ " " ++ leaf "\u2009short\t names ") ∧
      leaf ("\n  Use" ++ String.singleton '\u3000' ++ "\u2009short\t names ") = "Use short names" := by
  have hc : isBlank '\u3000' = true := by decide
  obtain ⟨-, -, -, -, hparts⟩ := leaf_canonical "\n  Use" "\u2009short\t names "
  exact ⟨hc, hparts '\u3000' hc, by decide +kernel⟩

end PromptMarkup.Text
