/-!
# Lines and separated parts

Cutting a text at a character and joining parts with a separator.  The key facts: the cut is undone by the join
(`joinOn_splitOn`), and the join by the cut, if no part holds the separator (`splitOn_joinOn`).
-/

namespace PromptMarkup.Text

/-- The parts of a text between the occurrences of a character. -/
def splitOn (d : Char) : List Char → List (List Char)
  | [] => [[]]
  | c :: r =>
    if c = d then [] :: splitOn d r
    else
      match splitOn d r with
      | [] => [[c]]
      | p :: ps => (c :: p) :: ps

/-- Parts put together with a character between them. -/
def joinOn (d : Char) : List (List Char) → List Char
  | [] => []
  | [p] => p
  | p :: q :: ps => p ++ d :: joinOn d (q :: ps)

theorem splitOn_ne_nil (d : Char) (s : List Char) : splitOn d s ≠ [] := by
  cases s with
  | nil => simp [splitOn]
  | cons c r =>
    unfold splitOn
    split
    · simp
    · split <;> simp

theorem joinOn_splitOn (d : Char) (s : List Char) : joinOn d (splitOn d s) = s := by
  induction s with
  | nil => rfl
  | cons c r ih =>
    unfold splitOn
    split
    · next h =>
      subst h
      cases hs : splitOn c r with
      | nil => exact absurd hs (splitOn_ne_nil c r)
      | cons p ps => rw [hs] at ih; simp [joinOn, ih]
    · cases hs : splitOn d r with
      | nil => exact absurd hs (splitOn_ne_nil d r)
      | cons p ps =>
        rw [hs] at ih
        cases ps with
        | nil => simp [joinOn] at ih ⊢; exact ih
        | cons q qs => simp [joinOn] at ih ⊢; exact ih

/-- A text is cut into the same parts before and behind each occurrence of the character. -/
theorem splitOn_append_cons (d : Char) (a b : List Char) : splitOn d (a ++ d :: b) = splitOn d a ++ splitOn d b := by
  induction a with
  | nil => simp [splitOn]
  | cons c r ih =>
    by_cases hc : c = d
    · simp [splitOn, hc, ih]
    · obtain ⟨p, ps, hp⟩ := List.exists_cons_of_ne_nil (splitOn_ne_nil d r)
      simp [splitOn, hc, ih, hp]

theorem splitOn_of_notMem {d : Char} {s : List Char} (h : d ∉ s) : splitOn d s = [s] := by
  induction s with
  | nil => rfl
  | cons c r ih =>
    obtain ⟨hc, hr⟩ : d ≠ c ∧ d ∉ r := by simpa using h
    rw [splitOn, if_neg hc.symm, ih hr]

theorem notMem_of_mem_splitOn {d : Char} {s w : List Char} (h : w ∈ splitOn d s) : d ∉ w := by
  induction s generalizing w with
  | nil =>
    obtain rfl : w = [] := by simpa [splitOn] using h
    simp
  | cons c r ih =>
    rw [splitOn] at h
    split at h
    · obtain rfl | h := List.mem_cons.1 h
      · simp
      · exact ih h
    · next hc =>
      obtain ⟨p, ps, hp⟩ := List.exists_cons_of_ne_nil (splitOn_ne_nil d r)
      rw [hp] at h ih
      obtain rfl | h := List.mem_cons.1 h
      · simpa [Ne.symm hc] using ih List.mem_cons_self
      · exact ih (List.mem_cons_of_mem p h)

/-- Parts without the character are cut apart again where they were joined. -/
theorem splitOn_joinOn {d : Char} {ps : List (List Char)} (hne : ps ≠ []) (h : ∀ p ∈ ps, d ∉ p) :
    splitOn d (joinOn d ps) = ps := by
  induction ps with
  | nil => exact absurd rfl hne
  | cons p ps ih =>
    obtain ⟨hp, hps⟩ : d ∉ p ∧ ∀ q ∈ ps, d ∉ q := by simpa using h
    cases ps with
    | nil => exact splitOn_of_notMem hp
    | cons q qs =>
      rw [joinOn, splitOn_append_cons, splitOn_of_notMem hp, ih (List.cons_ne_nil q qs) hps, List.singleton_append]

/-- The parts of a text between the occurrences of a character. -/
def parts (d : Char) (s : String) : List String :=
  (splitOn d s.toList).map String.ofList

theorem parts_of_notMem {d : Char} {s : String} (h : d ∉ s.toList) : parts d s = [s] := by
  rw [parts, splitOn_of_notMem h]
  simp

/-- The lines of a text, cut at every line feed. -/
def lines (s : String) : List String := parts '\n' s

theorem lines_append_newline (a b : String) : lines (a ++ "\n" ++ b) = lines a ++ lines b := by
  have h : (a ++ "\n" ++ b).toList = a.toList ++ '\n' :: b.toList := by simp
  rw [lines, parts, h, splitOn_append_cons, List.map_append]
  rfl

theorem lines_of_notMem {s : String} (h : '\n' ∉ s.toList) : lines s = [s] := parts_of_notMem h

/-- Texts put together with a separator between them. -/
def join (separator : String) : List String → String
  | [] => ""
  | [s] => s
  | s :: t :: r => s ++ separator ++ join separator (t :: r)

/-- Carriage returns, alone or before a line feed, are read as line feeds. -/
def universalNewlines : List Char → List Char
  | [] => []
  | '\r' :: '\n' :: r => '\n' :: universalNewlines r
  | '\r' :: r => '\n' :: universalNewlines r
  | c :: r => c :: universalNewlines r

/-- A text in which every line ends with a line feed alone. -/
def withLineFeeds (s : String) : String := String.ofList (universalNewlines s.toList)

end PromptMarkup.Text
