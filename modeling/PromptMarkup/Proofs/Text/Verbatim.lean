import Mathlib.Data.List.DropRight
import PromptMarkup.Text.Lines
import PromptMarkup.Text.Verbatim

/-!
# What verbatim text loses

Verbatim text loses the spaces and tabs at the end of each line (`trimLines_eq_stripped`), and then one line feed at
either end, but not if two of them stand there.  So what is left starts with a line feed if and only if the text opens
with a run of blank lines (`head?_verbatim`), and ends with one if and only if the text closes with such a run
(`getLast?_verbatim`).  The main result: nothing else is lost, and nothing is lost when the text is cleaned again
(`verbatim_between_edges`).
-/

namespace PromptMarkup.Text

/-- Text that opens with a run of blank lines. -/
def OpensBlank (s : String) : Prop := ['\n', '\n'] <+: trimLines s.toList

/-- Text that closes with a run of blank lines. -/
def ClosesBlank (s : String) : Prop := ['\n', '\n'] <:+ trimLines s.toList

instance (s : String) : Decidable (OpensBlank s) := inferInstanceAs (Decidable (_ <+: _))

instance (s : String) : Decidable (ClosesBlank s) := inferInstanceAs (Decidable (_ <:+ _))

variable {s : List Char}

/-- One line feed is dropped, if no other one follows it. -/
theorem dropFirstNewline_cases (s : List Char) :
    dropFirstNewline s = s ∧ (s.head? = some '\n' → ['\n', '\n'] <+: s) ∨
      ∃ r, s = '\n' :: r ∧ r.head? ≠ some '\n' ∧ dropFirstNewline s = r := by
  fun_cases dropFirstNewline s with
  | case1 r => exact .inl ⟨rfl, fun _ => List.prefix_append ['\n', '\n'] r⟩
  | case2 r hr =>
    refine .inr ⟨r, rfl, fun h => ?_, rfl⟩
    obtain ⟨t, rfl⟩ := List.head?_eq_some_iff.1 h
    exact hr t rfl
  | case3 _ _ hs =>
    refine .inl ⟨rfl, fun h => ?_⟩
    obtain ⟨t, rfl⟩ := List.head?_eq_some_iff.1 h
    exact (hs t rfl).elim

theorem head?_dropFirstNewline : (dropFirstNewline s).head? = some '\n' ↔ ['\n', '\n'] <+: s := by
  obtain ⟨h, hhead⟩ | ⟨r, rfl, hhead, h⟩ := dropFirstNewline_cases s
  · rw [h]
    refine ⟨hhead, ?_⟩
    rintro ⟨t, rfl⟩
    rfl
  · rw [h]
    refine ⟨fun hr => absurd hr hhead, ?_⟩
    rintro ⟨t, ht⟩
    exact absurd (by rw [← (List.cons.inj ht).2]; rfl) hhead

theorem suffix_dropFirstNewline : ['\n', '\n'] <:+ dropFirstNewline s ↔ ['\n', '\n'] <:+ s := by
  obtain ⟨h, -⟩ | ⟨r, rfl, hhead, h⟩ := dropFirstNewline_cases s
  · rw [h]
  · rw [h, List.suffix_cons_iff]
    refine ⟨.inr, ?_⟩
    rintro (hr | hr)
    · exact absurd (by rw [← (List.cons.inj hr).2]; rfl) hhead
    · exact hr

theorem getLast?_dropLastNewline : (dropLastNewline s).getLast? = some '\n' ↔ ['\n', '\n'] <:+ s := by
  rw [dropLastNewline, List.getLast?_reverse, head?_dropFirstNewline, ← List.reverse_prefix]
  rfl

theorem head?_dropLastNewline (hs : s ≠ ['\n']) :
    (dropLastNewline s).head? = some '\n' ↔ s.head? = some '\n' := by
  obtain ⟨h, -⟩ | ⟨r, hr, -, h⟩ := dropFirstNewline_cases s.reverse
  · rw [dropLastNewline, h, List.reverse_reverse]
  · obtain rfl : s = r.reverse ++ ['\n'] := by rw [← List.reverse_reverse s, hr, List.reverse_cons]
    obtain ⟨c, t, ht⟩ := List.exists_cons_of_ne_nil (l := r.reverse) fun hnil => hs (by rw [hnil, List.nil_append])
    rw [dropLastNewline, h, ht]
    rfl

theorem head?_verbatim (s : String) : (verbatim s).toList.head? = some '\n' ↔ OpensBlank s := by
  have hne : dropFirstNewline (trimLines s.toList) ≠ ['\n'] := by
    intro h
    -- A line feed that is left has another one behind it.
    obtain ⟨t, ht⟩ := head?_dropFirstNewline.1 (congrArg List.head? h)
    rw [← ht] at h
    cases h
  rw [verbatim, String.toList_ofList, cleanVerbatim, head?_dropLastNewline hne, head?_dropFirstNewline, OpensBlank]

theorem getLast?_verbatim (s : String) : (verbatim s).toList.getLast? = some '\n' ↔ ClosesBlank s := by
  rw [verbatim, String.toList_ofList, cleanVerbatim, getLast?_dropLastNewline, suffix_dropFirstNewline, ClosesBlank]

/-! ### Line ends -/

/-- The text with each line cut behind its last character that is neither a space nor a tab. -/
def stripped (s : List Char) : List Char := joinOn '\n' ((splitOn '\n' s).map (List.rdropWhile isLineSpace))

/-- A character is dropped if all behind it are, and it is one to drop. -/
theorem rdropWhile_cons (p : Char → Bool) (c : Char) (r : List Char) :
    (c :: r).rdropWhile p = if (r.rdropWhile p).isEmpty && p c then [] else c :: r.rdropWhile p := by
  rw [List.rdropWhile, List.rdropWhile, List.reverse_cons, List.dropWhile_append, List.isEmpty_reverse]
  cases List.dropWhile p r.reverse with
  | nil => cases hc : p c <;> simp [List.dropWhile, hc]
  | cons d t => simp

/-- On one line, trimming from the left cuts off what trimming from the right does. -/
theorem trimLines_of_notMem (h : '\n' ∉ s) : trimLines s = s.rdropWhile isLineSpace := by
  induction s with
  | nil => rfl
  | cons c r ih =>
    obtain ⟨-, hr⟩ : '\n' ≠ c ∧ '\n' ∉ r := by simpa using h
    have hrest : ∀ d ∈ r.rdropWhile isLineSpace, d ≠ '\n' := by
      rintro d hd rfl
      exact hr ((List.rdropWhile_prefix _ _).subset hd)
    rw [trimLines, ih hr, rdropWhile_cons]
    cases hd : r.rdropWhile isLineSpace with
    | nil => by_cases hc : isLineSpace c = true <;> simp [hc]
    | cons d t => simp [hrest d (hd ▸ List.mem_cons_self)]

theorem trimLines_newline (r : List Char) : trimLines ('\n' :: r) = '\n' :: trimLines r := by
  rw [trimLines]
  cases trimLines r <;> rfl

/-- What stands behind a line feed does not matter for the lines before it. -/
theorem trimLines_append_newline (s r : List Char) : trimLines (s ++ '\n' :: r) = trimLines s ++ '\n' :: trimLines r := by
  induction s with
  | nil => exact trimLines_newline r
  | cons c s ih =>
    rw [List.cons_append, trimLines, ih, trimLines]
    cases trimLines s with
    | nil => by_cases hc : isLineSpace c = true <;> simp [hc]
    | cons d t => by_cases hd : (isLineSpace c && d == '\n') = true <;> simp [hd]

theorem trimLines_joinOn {ls : List (List Char)} (h : ∀ line ∈ ls, '\n' ∉ line) :
    trimLines (joinOn '\n' ls) = joinOn '\n' (ls.map (List.rdropWhile isLineSpace)) := by
  induction ls with
  | nil => rfl
  | cons line ls ih =>
    obtain ⟨hline, hls⟩ := List.forall_mem_cons.1 h
    cases ls with
    | nil => exact trimLines_of_notMem hline
    | cons next ls =>
      rw [joinOn, trimLines_append_newline, trimLines_of_notMem hline, ih hls]
      rfl

theorem trimLines_eq_stripped (s : List Char) : trimLines s = stripped s := by
  rw [stripped, ← trimLines_joinOn fun _ => notMem_of_mem_splitOn, joinOn_splitOn]

theorem splitOn_stripped (s : List Char) :
    splitOn '\n' (stripped s) = (splitOn '\n' s).map (List.rdropWhile isLineSpace) := by
  refine splitOn_joinOn (by simpa using splitOn_ne_nil '\n' s) fun line hline => ?_
  obtain ⟨l, hl, rfl⟩ := List.mem_map.1 hline
  exact fun hmem => notMem_of_mem_splitOn hl ((List.rdropWhile_prefix _ _).subset hmem)

/-- A text of which no line ends with a space or a tab. -/
def LineEndsClean (s : List Char) : Prop := ∀ line ∈ splitOn '\n' s, ∀ c ∈ line.getLast?, isLineSpace c = false

theorem lineEndsClean_stripped (s : List Char) : LineEndsClean (stripped s) := by
  intro line hline c hc
  rw [splitOn_stripped] at hline
  obtain ⟨l, -, rfl⟩ := List.mem_map.1 hline
  obtain ⟨hne, rfl⟩ := List.mem_getLast?_eq_getLast hc
  exact Bool.eq_false_iff.2 (List.rdropWhile_last_not _ _ hne)

theorem LineEndsClean.stripped_eq (h : LineEndsClean s) : stripped s = s := by
  have hlines : ∀ line ∈ splitOn '\n' s, line.rdropWhile isLineSpace = line := by
    intro line hline
    rw [List.rdropWhile_eq_self_iff]
    intro hne
    rw [h line hline _ (List.getLast?_eq_some_getLast hne)]
    exact Bool.false_ne_true
  rw [stripped, List.map_congr_left hlines, List.map_id', joinOn_splitOn]

theorem LineEndsClean.of_newline_cons (h : LineEndsClean ('\n' :: s)) : LineEndsClean s := by
  intro line hline
  refine h line ?_
  rw [splitOn, if_pos rfl]
  exact List.mem_cons_of_mem _ hline

theorem LineEndsClean.of_append_newline (h : LineEndsClean (s ++ ['\n'])) : LineEndsClean s := by
  intro line hline
  refine h line ?_
  rw [splitOn_append_cons]
  exact List.mem_append_left _ hline

/-! ### Single line feeds at the edges -/

/-- Text that starts with a line feed, and no second one follows. -/
def OpensSingle (s : List Char) : Prop := ['\n'] <+: s ∧ ¬ ['\n', '\n'] <+: s

/-- Text that ends with a line feed, and no other one precedes it. -/
def ClosesSingle (s : List Char) : Prop := ['\n'] <:+ s ∧ ¬ ['\n', '\n'] <:+ s

instance (s : List Char) : Decidable (OpensSingle s) := inferInstanceAs (Decidable (_ ∧ _))

instance (s : List Char) : Decidable (ClosesSingle s) := inferInstanceAs (Decidable (_ ∧ _))

theorem closesSingle_iff : ClosesSingle s ↔ OpensSingle s.reverse := by
  rw [ClosesSingle, OpensSingle, ← List.reverse_prefix, ← List.reverse_prefix]
  rfl

theorem dropFirstNewline_of_not_opensSingle (hs : ¬ OpensSingle s) : dropFirstNewline s = s := by
  obtain ⟨h, -⟩ | ⟨r, rfl, hhead, -⟩ := dropFirstNewline_cases s
  · exact h
  · refine absurd ⟨⟨r, rfl⟩, ?_⟩ hs
    rintro ⟨t, ht⟩
    exact hhead (by rw [← (List.cons.inj ht).2]; rfl)

theorem cons_dropFirstNewline (hs : OpensSingle s) : '\n' :: dropFirstNewline s = s := by
  obtain ⟨⟨t, rfl⟩, hsecond⟩ := hs
  obtain ⟨-, hhead⟩ | ⟨r, hr, -, h⟩ := dropFirstNewline_cases (['\n'] ++ t)
  · exact absurd (hhead rfl) hsecond
  · rw [h, hr]

theorem dropLastNewline_of_not_closesSingle (hs : ¬ ClosesSingle s) : dropLastNewline s = s := by
  rw [closesSingle_iff] at hs
  rw [dropLastNewline, dropFirstNewline_of_not_opensSingle hs, List.reverse_reverse]

theorem dropLastNewline_concat (hs : ClosesSingle s) : dropLastNewline s ++ ['\n'] = s := by
  rw [closesSingle_iff] at hs
  rw [dropLastNewline, ← List.reverse_cons, cons_dropFirstNewline hs, List.reverse_reverse]

theorem not_opensSingle_dropFirstNewline : ¬ OpensSingle (dropFirstNewline s) := by
  rintro ⟨⟨t, ht⟩, hsecond⟩
  have hrun : ['\n', '\n'] <+: s := head?_dropFirstNewline.1 (by rw [← ht]; rfl)
  rw [dropFirstNewline_of_not_opensSingle fun hs => hs.2 hrun] at hsecond
  exact hsecond hrun

theorem not_closesSingle_dropLastNewline : ¬ ClosesSingle (dropLastNewline s) := by
  rw [closesSingle_iff, dropLastNewline, List.reverse_reverse]
  exact not_opensSingle_dropFirstNewline

theorem not_opensSingle_dropLastNewline (hs : ¬ OpensSingle s) : ¬ OpensSingle (dropLastNewline s) := by
  by_cases hclose : ClosesSingle s
  · rintro ⟨⟨t, ht⟩, hsecond⟩
    have hlast := dropLastNewline_concat hclose
    rw [← ht] at hlast hsecond
    cases t with
    -- A text of two line feeds loses none.
    | nil => exact hclose.2 ⟨[], hlast⟩
    | cons d t =>
      refine hs ⟨⟨d :: t ++ ['\n'], hlast⟩, ?_⟩
      rintro ⟨u, hu⟩
      rw [← hlast] at hu
      obtain ⟨rfl, -⟩ := List.cons.inj (List.cons.inj hu).2
      exact hsecond ⟨t, rfl⟩
  · rwa [dropLastNewline_of_not_closesSingle hclose]

theorem LineEndsClean.dropFirstNewline (h : LineEndsClean s) : LineEndsClean (dropFirstNewline s) := by
  by_cases hs : OpensSingle s
  · rw [← cons_dropFirstNewline hs] at h
    exact h.of_newline_cons
  · rwa [dropFirstNewline_of_not_opensSingle hs]

theorem LineEndsClean.dropLastNewline (h : LineEndsClean s) : LineEndsClean (dropLastNewline s) := by
  by_cases hs : ClosesSingle s
  · rw [← dropLastNewline_concat hs] at h
    exact h.of_append_newline
  · rwa [dropLastNewline_of_not_closesSingle hs]

/-! ### Clean text -/

theorem toList_verbatim (s : String) :
    (verbatim s).toList = dropLastNewline (dropFirstNewline (stripped s.toList)) := by
  rw [verbatim, String.toList_ofList, cleanVerbatim, trimLines_eq_stripped]

theorem lineEndsClean_verbatim (s : String) : LineEndsClean (verbatim s).toList := by
  rw [toList_verbatim]
  exact (lineEndsClean_stripped s.toList).dropFirstNewline.dropLastNewline

theorem verbatim_verbatim (s : String) : verbatim (verbatim s) = verbatim s := by
  have hfirst : ¬ OpensSingle (verbatim s).toList := by
    rw [toList_verbatim]
    exact not_opensSingle_dropLastNewline not_opensSingle_dropFirstNewline
  have hlast : ¬ ClosesSingle (verbatim s).toList := by
    rw [toList_verbatim]
    exact not_closesSingle_dropLastNewline
  rw [← String.toList_inj, toList_verbatim, (lineEndsClean_verbatim s).stripped_eq,
    dropFirstNewline_of_not_opensSingle hfirst, dropLastNewline_of_not_closesSingle hlast]

/-- A text with its line ends cut is its verbatim text, with a single line feed on either side where one stood there.
No line of verbatim text ends with a space or a tab, and it is left alone when it is cleaned again. -/
theorem verbatim_between_edges (s : String) :
    (∃ opening rest closing,
        stripped s.toList = opening ++ rest ∧ rest = (verbatim s).toList ++ closing ∧
        opening = (if OpensSingle (stripped s.toList) then ['\n'] else []) ∧
        closing = (if ClosesSingle rest then ['\n'] else [])) ∧
      (∀ line ∈ splitOn '\n' (verbatim s).toList, ∀ c ∈ line.getLast?, c ≠ ' ' ∧ c ≠ '\t') ∧
      verbatim (verbatim s) = verbatim s := by
  refine ⟨⟨_, dropFirstNewline (stripped s.toList), _, ?_, ?_, rfl, rfl⟩, ?_, verbatim_verbatim s⟩
  · split
    · next hopen => exact (cons_dropFirstNewline hopen).symm
    · next hopen => exact (dropFirstNewline_of_not_opensSingle hopen).symm
  · rw [toList_verbatim]
    split
    · next hclose => exact (dropLastNewline_concat hclose).symm
    · next hclose => rw [dropLastNewline_of_not_closesSingle hclose, List.append_nil]
  · intro line hline c hc
    simpa [isLineSpace] using lineEndsClean_verbatim s line hline c hc

/-- Code whose last line holds nothing but its indentation. -/
theorem verbatim_indentedCode :
    verbatim "\n    foo();  \n    " = "    foo();" ∧
      "    foo();".toList ∈ splitOn '\n' (verbatim "\n    foo();  \n    ").toList ∧
      ';' ∈ "    foo();".toList.getLast? ∧ ';' ≠ ' ' ∧ ';' ≠ '\t' := by
  have hclean : verbatim "\n    foo();  \n    " = "    foo();" := by decide +kernel
  have hline : "    foo();".toList ∈ splitOn '\n' (verbatim "\n    foo();  \n    ").toList := by
    rw [hclean]
    decide +kernel
  have hlast : ';' ∈ "    foo();".toList.getLast? := by decide
  obtain ⟨-, hends, -⟩ := verbatim_between_edges "\n    foo();  \n    "
  exact ⟨hclean, hline, hlast, hends _ hline _ hlast⟩

end PromptMarkup.Text
