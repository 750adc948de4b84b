import Mathlib.Algebra.Group.Nat.Even
import Mathlib.Algebra.Ring.Parity
import Mathlib.Data.List.Basic
import PromptMarkup.Markdown.Check

/-!
# The rules of the check

The rules that an artifact has to keep are stated for its lines by their positions (`Breaks`), without a walk over
them.  The walk keeps an invariant at each position (`BodyScan.Reflects`): a fence is open if an odd number of fences
stands above, and what has been found is what the rules say of the lines above.  The main result: the check reports
every issue once, and it reports an issue if and only if the text breaks the rule that the issue names
(`mem_checkText_iff`).
-/

namespace PromptMarkup

/-! ### The rules -/

/-- The position of the first line of the body.  It is the line below the one that closes the frontmatter; an unclosed
frontmatter leaves no body, and without a frontmatter every line is of the body. -/
def bodyStart (lines : List String) : Nat :=
  if lines.head? = some frontmatterDelimiter then
    if frontmatterDelimiter ∈ lines.tail then lines.tail.idxOf frontmatterDelimiter + 2 else lines.length
  else 0

/-- The number of fences in the body above a position. -/
def fencesAbove (lines : List String) (start i : Nat) : Nat := ((lines.take i).drop start).countP isFence

/-- A line of the body that stands at a position with all fences above it closed. -/
structure IsProse (lines : List String) (start i : Nat) (line : String) : Prop where
  body : start ≤ i
  line : lines[i]? = some line
  closed : Even (fencesAbove lines start i)

/-- A heading outside of fences whose line above is neither blank nor the end of the frontmatter. -/
structure IsCrowded (lines : List String) (start i : Nat) (line : String) : Prop where
  prose : IsProse lines start i line
  heading : isHeading line = true
  above : 0 < i ∧ ∃ above, lines[i - 1]? = some above ∧ ¬ (∀ c ∈ above.toList, Text.isBlank c = true) ∧
    above ≠ frontmatterDelimiter

/-- The last fence of the body above a position. -/
structure IsLastFence (lines : List String) (start i k : Nat) : Prop where
  body : start ≤ k
  above : k < i
  fence : ∃ line, lines[k]? = some line ∧ isFence line = true
  last : ∀ j line, k < j → j < i → lines[j]? = some line → isFence line = false

/-- A text breaks the rule that an issue names, at the line that the issue names. -/
inductive Breaks (content : String) : Issue → Prop where
  | noFinalNewline (h : ¬ ['\n'] <:+ content.toList) : Breaks content ⟨0, .noFinalNewline⟩
  | finalBlankLine (h : ['\n', '\n'] <:+ content.toList) : Breaks content ⟨0, .finalBlankLine⟩
  | noFrontmatter (h : (Text.lines content).head? ≠ some frontmatterDelimiter) : Breaks content ⟨1, .noFrontmatter⟩
  | unclosedFrontmatter (h : (Text.lines content).head? = some frontmatterDelimiter)
      (hend : frontmatterDelimiter ∉ (Text.lines content).tail) : Breaks content ⟨1, .unclosedFrontmatter⟩
  | frontmatterKeys (h : (Text.lines content).head? = some frontmatterDelimiter)
      (hend : frontmatterDelimiter ∈ (Text.lines content).tail)
      (hkeys : ((Text.lines content).tail.take ((Text.lines content).tail.idxOf frontmatterDelimiter)).map
        frontmatterKey ≠ frontmatterKeys) : Breaks content ⟨2, .frontmatterKeys⟩
  | crowdedHeading {i : Nat} {line : String}
      (h : IsCrowded (Text.lines content) (bodyStart (Text.lines content)) i line) :
      Breaks content ⟨i + 1, .crowdedHeading line⟩
  | unclosedFence {k : Nat}
      (hodd : Odd (fencesAbove (Text.lines content) (bodyStart (Text.lines content)) (Text.lines content).length))
      (h : IsLastFence (Text.lines content) (bodyStart (Text.lines content)) (Text.lines content).length k) :
      Breaks content ⟨k + 1, .unclosedFence⟩
  | noTitle (h : ∀ i line, IsProse (Text.lines content) (bodyStart (Text.lines content)) i line →
      isTitle line = false) : Breaks content ⟨0, .noTitle⟩

/-! ### Lines -/

section

variable {line : String}

/-- A title is no fence. -/
theorem isFence_of_isTitle (h : isTitle line = true) : isFence line = false := by
  obtain ⟨rest, hrest⟩ := List.isPrefixOf_iff_prefix.1 h
  simp [isFence, beginsWith, ← hrest, List.isPrefixOf]

/-- A heading of a lower level is no fence. -/
theorem isFence_of_isHeading (h : isHeading line = true) : isFence line = false := by
  obtain h | h := Bool.or_eq_true_iff.1 h
  all_goals
    obtain ⟨rest, hrest⟩ := List.isPrefixOf_iff_prefix.1 h
    simp [isFence, beginsWith, ← hrest, List.isPrefixOf]

/-- A heading of a lower level is no title. -/
theorem isTitle_of_isHeading (h : isHeading line = true) : isTitle line = false := by
  obtain h | h := Bool.or_eq_true_iff.1 h
  all_goals
    obtain ⟨rest, hrest⟩ := List.isPrefixOf_iff_prefix.1 h
    simp [isTitle, beginsWith, ← hrest, List.isPrefixOf]

end

namespace Text

theorem trimEnd_eq_nil_iff {s : List Char} : trimEnd s = [] ↔ ∀ c ∈ s, isBlank c = true := by
  induction s with
  | nil => simp [trimEnd]
  | cons c r ih =>
    rw [trimEnd, List.forall_mem_cons]
    cases hr : trimEnd r with
    | nil =>
      have hblank := ih.1 hr
      by_cases hc : isBlank c = true
      · simp [hc]
        exact hblank
      · simp [hc]
    | cons d t =>
      have hblank : ¬ ∀ c ∈ r, isBlank c = true := fun h => by simp [ih.2 h] at hr
      simp [hblank]

theorem trimStart_eq_nil_iff {s : List Char} : trimStart s = [] ↔ ∀ c ∈ s, isBlank c = true := by
  induction s with
  | nil => simp [trimStart]
  | cons c r ih =>
    rw [trimStart, List.forall_mem_cons]
    by_cases hc : isBlank c = true
    · rw [if_pos hc, ih]
      exact ⟨fun h => ⟨hc, h⟩, And.right⟩
    · simp [hc]

/-- Only blanks are trimmed away altogether. -/
theorem trim_eq_empty_iff {s : String} : trim s = "" ↔ ∀ c ∈ s.toList, isBlank c = true := by
  have hempty : trim s = "" ↔ trimEnd (trimStart s.toList) = [] := by
    rw [trim, ← String.toList_inj]
    simp
  rw [hempty]
  constructor
  · intro h
    have hstart : trimStart s.toList = [] := by
      cases hs : trimStart s.toList with
      | nil => rfl
      | cons c r =>
        -- What is left at the start is not blank, so it is not trimmed at the end.
        have hc : isBlank c = false := head?_trimStart (by rw [hs, List.head?_cons])
        rw [hs, trimEnd_eq_nil_iff] at h
        have hblank := h c List.mem_cons_self
        simp [hc] at hblank
    exact trimStart_eq_nil_iff.1 hstart
  · intro h
    rw [trimStart_eq_nil_iff.2 h]
    rfl

end Text

theorem allowsHeadingBelow_eq_false_iff {above : String} : allowsHeadingBelow above = false ↔
    ¬ (∀ c ∈ above.toList, Text.isBlank c = true) ∧ above ≠ frontmatterDelimiter := by
  rw [allowsHeadingBelow, Bool.or_eq_false_iff, ← Text.trim_eq_empty_iff]
  simp

/-- The line above a position. -/
def lineAbove? (lines : List String) (i : Nat) : Option String := if i = 0 then none else lines[i - 1]?

section

variable {lines : List String} {start i k : Nat} {line : String}

theorem lineAbove?_succ : lineAbove? lines (i + 1) = lines[i]? := by
  rw [lineAbove?, if_neg (Nat.succ_ne_zero i), Nat.add_sub_cancel]

/-- Whether the line above allows no heading. -/
theorem allowed_eq_false_iff :
    ((lineAbove? lines i).map allowsHeadingBelow).getD true = false ↔
      0 < i ∧ ∃ above, lines[i - 1]? = some above ∧ ¬ (∀ c ∈ above.toList, Text.isBlank c = true) ∧
        above ≠ frontmatterDelimiter := by
  rw [lineAbove?]
  split
  · next h => simp [h]
  · next h =>
    have hi : 0 < i := Nat.pos_of_ne_zero h
    cases habove : lines[i - 1]? with
    | none => simp
    | some above => simp [hi, allowsHeadingBelow_eq_false_iff]

/-! ### Fences above a position -/

theorem fencesAbove_start : fencesAbove lines start start = 0 := by
  have hnone : (lines.take start).drop start = [] := by
    apply List.drop_of_length_le
    exact List.length_take_le start lines
  rw [fencesAbove, hnone, List.countP_nil]

theorem fencesAbove_succ (hi : start ≤ i) (hl : lines[i]? = some line) :
    fencesAbove lines start (i + 1) = fencesAbove lines start i + if isFence line then 1 else 0 := by
  obtain ⟨hlt, -⟩ := List.getElem?_eq_some_iff.1 hl
  have hlength : (lines.take i).length = i := List.length_take_of_le (by omega)
  have hdrop : (lines.take i ++ [line]).drop start = (lines.take i).drop start ++ [line] :=
    List.drop_append_of_le_length (by omega)
  rw [fencesAbove, fencesAbove, List.take_add_one, hl, Option.toList_some, hdrop, List.countP_append,
    List.countP_singleton]

/-- There is one last fence. -/
theorem IsLastFence.unique {k' : Nat} (h : IsLastFence lines start i k) (h' : IsLastFence lines start i k') :
    k = k' := by
  obtain ⟨line, hline, hfence⟩ := h.fence
  obtain ⟨line', hline', hfence'⟩ := h'.fence
  rcases Nat.lt_trichotomy k k' with hlt | heq | hlt
  · have hnone := h.last k' line' hlt h'.above hline'
    rw [hfence'] at hnone
    cases hnone
  · exact heq
  · have hnone := h'.last k line hlt h.above hline
    rw [hfence] at hnone
    cases hnone

/-- A fence is the last one above the next position. -/
theorem isLastFence_succ (hi : start ≤ i) (hl : lines[i]? = some line) (hf : isFence line = true) :
    IsLastFence lines start (i + 1) i where
  body := hi
  above := Nat.lt_succ_self i
  fence := ⟨line, hl, hf⟩
  last := by
    intro j line' hij hji
    omega

/-- The last fence stays the last one where another line follows. -/
theorem IsLastFence.succ (h : IsLastFence lines start i k) (hl : lines[i]? = some line) (hf : isFence line = false) :
    IsLastFence lines start (i + 1) k where
  body := h.body
  above := Nat.lt_succ_of_lt h.above
  fence := h.fence
  last := by
    intro j line' hkj hji hline'
    by_cases hj : j = i
    · subst hj
      rw [hl] at hline'
      cases hline'
      exact hf
    · exact h.last j line' hkj (by omega) hline'

/-- A position below which one more line stands is above that line or at it. -/
theorem exists_lt_succ_iff {p : Nat → String → Prop} (hp : ∀ k line, p k line → lines[k]? = some line)
    (hl : lines[i]? = some line) :
    (∃ k line', k < i + 1 ∧ p k line') ↔ (∃ k line', k < i ∧ p k line') ∨ p i line := by
  constructor
  · rintro ⟨k, line', hk, h⟩
    by_cases hki : k = i
    · subst hki
      have heq : line' = line := by
        have hsame := (hp k line' h).symm.trans hl
        exact Option.some.inj hsame
      exact .inr (heq ▸ h)
    · exact .inl ⟨k, line', by omega, h⟩
  · rintro (⟨k, line', hk, h⟩ | h)
    · exact ⟨k, line', by omega, h⟩
    · exact ⟨i, line, by omega, h⟩

end

/-! ### The walk -/

namespace BodyScan

variable {b : BodyScan} {previous : Option String} {number : Nat} {line : String}

theorem openFence_step : (b.step previous number line).openFence =
    if isFence line then (if b.openFence.isSome then none else some number) else b.openFence := by
  unfold step
  split
  · cases b.openFence <;> rfl
  · split
    · rfl
    · split
      · rfl
      · split <;> rfl

theorem hasTitle_step : (b.step previous number line).hasTitle =
    (b.hasTitle || (b.openFence.isNone && isTitle line)) := by
  unfold step
  split
  · next hfence =>
    have htitle : isTitle line = false := by
      cases ht : isTitle line with
      | false => rfl
      | true => simp [isFence_of_isTitle ht] at hfence
    cases b.openFence <;> simp [htitle]
  · split
    · next hopen => simp [Option.isNone_eq_false_iff.2 hopen]
    · next hopen =>
      have hnone : b.openFence.isNone = true := by simpa using hopen
      split
      · next htitle => simp [hnone, htitle]
      · next htitle => split <;> simp [htitle]

theorem issues_step : (b.step previous number line).issues =
    b.issues ++ if b.openFence = none ∧ isHeading line = true ∧ (previous.map allowsHeadingBelow).getD true = false
      then [⟨number, .crowdedHeading line⟩] else [] := by
  unfold step
  split
  · next hfence =>
    have hheading : ¬ isHeading line = true := fun h => by simp [isFence_of_isHeading h] at hfence
    cases b.openFence <;> simp [hheading]
  · split
    · next hopen =>
      have hnone : b.openFence ≠ none := Option.isSome_iff_ne_none.1 hopen
      simp [hnone]
    · next hopen =>
      have hnone : b.openFence = none := by simpa using hopen
      split
      · next htitle =>
        have hheading : ¬ isHeading line = true := fun h => by simp [isTitle_of_isHeading h] at htitle
        simp [hheading]
      · split
        · next hcrowded => simp_all
        · next hcrowded => simp_all

/-- What the walk has found above a position is what the rules say of the lines there. -/
structure Reflects (b : BodyScan) (lines : List String) (start i : Nat) : Prop where
  closed : Even (fencesAbove lines start i) → b.openFence = none
  opened : Odd (fencesAbove lines start i) → ∃ k, b.openFence = some (k + 1) ∧ IsLastFence lines start i k
  hasTitle : b.hasTitle = true ↔ ∃ k line, k < i ∧ IsProse lines start k line ∧ isTitle line = true
  issues : ∀ x, x ∈ b.issues ↔ ∃ k line, k < i ∧ IsCrowded lines start k line ∧ x = ⟨k + 1, .crowdedHeading line⟩
  nodup : b.issues.Nodup

namespace Reflects

variable {lines : List String} {start i : Nat}

theorem init (lines : List String) (start : Nat) : Reflects {} lines start start where
  closed _ := rfl
  opened h := by simp [fencesAbove_start] at h
  hasTitle := by
    constructor
    · intro h
      cases h
    · rintro ⟨k, line, hk, hprose, -⟩
      have hstart := hprose.body
      omega
  issues x := by
    constructor
    · intro h
      cases h
    · rintro ⟨k, line, hk, hcrowded, -⟩
      have hstart := hcrowded.prose.body
      omega
  nodup := List.nodup_nil

theorem openFence_eq_none_iff (h : b.Reflects lines start i) :
    b.openFence = none ↔ Even (fencesAbove lines start i) := by
  refine ⟨fun hnone => ?_, h.closed⟩
  by_contra hodd
  obtain ⟨k, hk, -⟩ := h.opened (Nat.not_even_iff_odd.1 hodd)
  rw [hnone] at hk
  cases hk

/-- One more line. -/
theorem step (h : b.Reflects lines start i) (hi : start ≤ i) (hl : lines[i]? = some line) :
    (b.step (lineAbove? lines i) (i + 1) line).Reflects lines start (i + 1) := by
  have hfences := fencesAbove_succ hi hl
  have hprose : IsProse lines start i line ↔ b.openFence = none := by
    rw [h.openFence_eq_none_iff]
    exact ⟨fun hprose => hprose.closed, fun heven => ⟨hi, hl, heven⟩⟩
  constructor
  · -- The parity changes at a fence, and only there.
    intro heven
    rw [openFence_step]
    cases hf : isFence line with
    | true =>
      simp only [hf, if_true] at hfences ⊢
      rw [hfences, Nat.even_add_one, Nat.not_even_iff_odd] at heven
      obtain ⟨k, hk, -⟩ := h.opened heven
      simp [hk]
    | false =>
      simp only [hf, Bool.false_eq_true, if_false, Nat.add_zero] at hfences ⊢
      exact h.closed (hfences ▸ heven)
  · intro hodd
    rw [openFence_step]
    cases hf : isFence line with
    | true =>
      simp only [hf, if_true] at hfences ⊢
      rw [hfences, ← Nat.not_even_iff_odd, Nat.even_add_one, not_not] at hodd
      rw [h.closed hodd]
      exact ⟨i, rfl, isLastFence_succ hi hl hf⟩
    | false =>
      simp only [hf, Bool.false_eq_true, if_false, Nat.add_zero] at hfences ⊢
      obtain ⟨k, hk, hlast⟩ := h.opened (hfences ▸ hodd)
      exact ⟨k, hk, hlast.succ hl hf⟩
  · rw [exists_lt_succ_iff (fun k line hk => hk.1.line) hl, hasTitle_step, Bool.or_eq_true, Bool.and_eq_true,
      Option.isNone_iff_eq_none, h.hasTitle, hprose]
  · intro x
    have hcrowded : IsCrowded lines start i line ↔ b.openFence = none ∧ isHeading line = true ∧
        ((lineAbove? lines i).map allowsHeadingBelow).getD true = false := by
      rw [allowed_eq_false_iff, ← hprose]
      exact ⟨fun hc => ⟨hc.prose, hc.heading, hc.above⟩, fun ⟨hp, hh, ha⟩ => ⟨hp, hh, ha⟩⟩
    rw [exists_lt_succ_iff (fun k line hk => hk.1.prose.line) hl, issues_step, List.mem_append, h.issues]
    refine or_congr_right ?_
    rw [hcrowded]
    split
    · next hc => simp [hc]
    · next hc => simp [hc]
  · -- The lines of the issues so far are above the one that is added.
    rw [issues_step]
    refine List.nodup_append.2 ⟨h.nodup, ?_, ?_⟩
    · split <;> simp
    · intro x hx y hy
      obtain ⟨k, line', hk, -, rfl⟩ := (h.issues x).1 hx
      split at hy
      · obtain rfl := List.mem_singleton.1 hy
        intro heq
        have hline : k + 1 = i + 1 := congrArg Issue.line heq
        omega
      · cases hy

/-- All lines from a position on. -/
theorem run (h : b.Reflects lines start i) (hi : start ≤ i) (hend : i ≤ lines.length) :
    (b.run (lineAbove? lines i) (i + 1) (lines.drop i)).Reflects lines start lines.length := by
  induction hrest : lines.drop i generalizing i b with
  | nil =>
    have hlength : lines.length ≤ i := List.drop_eq_nil_iff.1 hrest
    obtain rfl : i = lines.length := by omega
    exact h
  | cons line rest ih =>
    have hl : lines[i]? = some line := by
      have hhead : (lines.drop i).head? = some line := by rw [hrest, List.head?_cons]
      rwa [List.head?_drop] at hhead
    have hlt : i < lines.length := (List.getElem?_eq_some_iff.1 hl).1
    have htail : lines.drop (i + 1) = rest := by rw [← List.tail_drop, hrest, List.tail_cons]
    have hstep := ih (h.step hi hl) (by omega) hlt htail
    rw [lineAbove?_succ, hl] at hstep
    exact hstep

end Reflects

theorem mem_report {x : Issue} : x ∈ b.report ↔ x ∈ b.issues ∨
    (∃ n, b.openFence = some n ∧ x = ⟨n, .unclosedFence⟩) ∨ (b.hasTitle = false ∧ x = ⟨0, .noTitle⟩) := by
  have htitle : x ∈ (if b.hasTitle then [] else [⟨0, .noTitle⟩] : List Issue) ↔
      b.hasTitle = false ∧ x = ⟨0, .noTitle⟩ := by
    cases b.hasTitle <;> simp
  have hfence : x ∈ (b.openFence.map fun n => Issue.mk n .unclosedFence).toList ↔
      ∃ n, b.openFence = some n ∧ x = ⟨n, .unclosedFence⟩ := by
    cases b.openFence <;> simp
  rw [report, List.mem_append, List.mem_append, htitle, hfence, or_assoc]

end BodyScan

/-! ### The parts of a text -/

/-- What a rule is about: the end of the text, the frontmatter or the body. -/
inductive TextPart where
  | ending
  | frontmatter
  | body
  deriving DecidableEq, Repr

/-- The part that a rule is about. -/
def Flaw.part? : Flaw → Option TextPart
  | noFinalNewline | finalBlankLine => some .ending
  | noFrontmatter | unclosedFrontmatter | frontmatterKeys => some .frontmatter
  | crowdedHeading _ | unclosedFence | noTitle => some .body
  | unreadable _ => none

variable {content : String} {x : Issue}

theorem Breaks.exists_part (h : Breaks content x) : ∃ p, x.flaw.part? = some p := by
  cases h <;> exact ⟨_, rfl⟩

theorem mem_endIssues : x ∈ endIssues content.toList ↔ Breaks content x ∧ x.flaw.part? = some .ending := by
  have hone : ['\n'] <:+ content.toList ↔ ['\n'] <+: content.toList.reverse := by
    rw [← List.reverse_prefix, List.reverse_singleton]
  have htwo : ['\n', '\n'] <:+ content.toList ↔ ['\n', '\n'] <+: content.toList.reverse := by
    rw [← List.reverse_prefix]
    rfl
  have hbreaks : Breaks content x ∧ x.flaw.part? = some .ending ↔
      (¬ ['\n'] <+: content.toList.reverse ∧ x = ⟨0, .noFinalNewline⟩) ∨
        (['\n', '\n'] <+: content.toList.reverse ∧ x = ⟨0, .finalBlankLine⟩) := by
    rw [← hone, ← htwo]
    constructor
    · rintro ⟨h, hpart⟩
      cases h with
      | noFinalNewline hend => exact .inl ⟨hend, rfl⟩
      | finalBlankLine hend => exact .inr ⟨hend, rfl⟩
      | noFrontmatter | unclosedFrontmatter | frontmatterKeys | crowdedHeading | unclosedFence | noTitle => cases hpart
    · rintro (⟨hend, rfl⟩ | ⟨hend, rfl⟩)
      · exact ⟨.noFinalNewline hend, rfl⟩
      · exact ⟨.finalBlankLine hend, rfl⟩
  rw [hbreaks, endIssues]
  split
  · next r hr => simp [hr]
  · next r hno hr =>
    have hsecond : ¬ ['\n', '\n'] <+: '\n' :: r := by
      rintro ⟨t, ht⟩
      exact hno t (List.cons.inj ht).2.symm
    simp [hr, hsecond]
  · next hnone =>
    have hfirst : ¬ ['\n'] <+: content.toList.reverse := by
      rintro ⟨t, ht⟩
      exact hnone t ht.symm
    have hsecond : ¬ ['\n', '\n'] <+: content.toList.reverse := fun h =>
      hfirst ((List.prefix_append ['\n'] ['\n']).trans h)
    simp [hfirst, hsecond]

section

variable {α : Type} [DecidableEq α]

theorem takeWhile_bne (a : α) (xs : List α) : xs.takeWhile (· != a) = xs.take (xs.idxOf a) := by
  induction xs with
  | nil => rfl
  | cons x xs ih =>
    by_cases hx : x = a
    · simp [hx]
    · simp [hx, List.idxOf_cons_ne, ih]

end

theorem checkFrontmatter_eq (lines : List String) : checkFrontmatter lines =
    (if lines.head? = some frontmatterDelimiter then
      if frontmatterDelimiter ∈ lines.tail then
        if (lines.tail.take (lines.tail.idxOf frontmatterDelimiter)).map frontmatterKey = frontmatterKeys then []
        else [⟨2, .frontmatterKeys⟩]
      else [⟨1, .unclosedFrontmatter⟩]
    else [⟨1, .noFrontmatter⟩], bodyStart lines) := by
  cases lines with
  | nil => rfl
  | cons first rest =>
    rw [checkFrontmatter, bodyStart, List.head?_cons, List.tail_cons]
    simp only [Option.some.injEq, takeWhile_bne]
    by_cases hfirst : first = frontmatterDelimiter
    · have hlength : (rest.take (rest.idxOf frontmatterDelimiter)).length = rest.idxOf frontmatterDelimiter :=
        List.length_take_of_le List.idxOf_le_length
      simp only [if_pos hfirst, hlength]
      by_cases hmem : frontmatterDelimiter ∈ rest
      · have hlt := List.idxOf_lt_length_of_mem hmem
        rw [if_neg (Nat.ne_of_lt hlt), if_pos hmem, if_pos hmem]
      · rw [if_pos (List.idxOf_of_notMem hmem), if_neg hmem, if_neg hmem]
    · simp only [if_neg hfirst]

theorem bodyStart_le_length (lines : List String) : bodyStart lines ≤ lines.length := by
  unfold bodyStart
  split
  · split
    · next hmem =>
      have hlt := List.idxOf_lt_length_of_mem hmem
      rw [List.length_tail] at hlt
      omega
    · exact Nat.le_refl _
  · exact Nat.zero_le _

/-! ### The report -/

theorem checkText_eq (content : String) : ∃ b : BodyScan,
    b.Reflects (Text.lines content) (bodyStart (Text.lines content)) (Text.lines content).length ∧
      checkText content = endIssues content.toList ++ (checkFrontmatter (Text.lines content)).1 ++ b.report := by
  have hreflects := (BodyScan.Reflects.init (Text.lines content) (bodyStart (Text.lines content))).run
    (Nat.le_refl _) (bodyStart_le_length _)
  refine ⟨_, hreflects, ?_⟩
  rw [checkText, checkFrontmatter_eq]
  rfl

theorem mem_checkFrontmatter : x ∈ (checkFrontmatter (Text.lines content)).1 ↔
    Breaks content x ∧ x.flaw.part? = some .frontmatter := by
  rw [checkFrontmatter_eq]
  constructor
  · intro hx
    split at hx
    · next hhead =>
      split at hx
      · next hend =>
        split at hx
        · cases hx
        · next hkeys =>
          obtain rfl := List.mem_singleton.1 hx
          exact ⟨.frontmatterKeys hhead hend hkeys, rfl⟩
      · next hend =>
        obtain rfl := List.mem_singleton.1 hx
        exact ⟨.unclosedFrontmatter hhead hend, rfl⟩
    · next hhead =>
      obtain rfl := List.mem_singleton.1 hx
      exact ⟨.noFrontmatter hhead, rfl⟩
  · rintro ⟨h, hpart⟩
    cases h with
    | noFrontmatter hhead => simp [hhead]
    | unclosedFrontmatter hhead hend => simp [hhead, hend]
    | frontmatterKeys hhead hend hkeys =>
      rw [if_pos hhead, if_pos hend, if_neg hkeys]
      exact List.mem_singleton_self _
    | noFinalNewline | finalBlankLine | crowdedHeading | unclosedFence | noTitle => cases hpart

namespace BodyScan

variable {b : BodyScan}
  (h : b.Reflects (Text.lines content) (bodyStart (Text.lines content)) (Text.lines content).length)
include h

theorem mem_report_of_reflects : x ∈ b.report ↔ Breaks content x ∧ x.flaw.part? = some .body := by
  rw [mem_report, h.issues]
  constructor
  · rintro (⟨k, line, -, hcrowded, rfl⟩ | ⟨n, hn, rfl⟩ | ⟨htitle, rfl⟩)
    · exact ⟨.crowdedHeading hcrowded, rfl⟩
    · have hodd : Odd (fencesAbove (Text.lines content) (bodyStart (Text.lines content))
          (Text.lines content).length) := by
        rw [← Nat.not_even_iff_odd, ← h.openFence_eq_none_iff, hn]
        exact Option.some_ne_none n
      obtain ⟨k, hk, hlast⟩ := h.opened hodd
      obtain rfl : n = k + 1 := Option.some.inj (hn.symm.trans hk)
      exact ⟨.unclosedFence hodd hlast, rfl⟩
    · refine ⟨.noTitle fun i line hprose => ?_, rfl⟩
      have hlt : i < (Text.lines content).length := (List.getElem?_eq_some_iff.1 hprose.line).1
      cases ht : isTitle line with
      | false => rfl
      | true =>
        rw [h.hasTitle.2 ⟨i, line, hlt, hprose, ht⟩] at htitle
        cases htitle
  · rintro ⟨hbreaks, hpart⟩
    cases hbreaks with
    | @crowdedHeading i line hcrowded =>
      have hlt : i < (Text.lines content).length := (List.getElem?_eq_some_iff.1 hcrowded.prose.line).1
      exact .inl ⟨i, line, hlt, hcrowded, rfl⟩
    | unclosedFence hodd hlast =>
      obtain ⟨k, hk, hlast'⟩ := h.opened hodd
      rw [hlast.unique hlast']
      exact .inr (.inl ⟨k + 1, hk, rfl⟩)
    | noTitle hnone =>
      refine .inr (.inr ⟨?_, rfl⟩)
      rw [← Bool.not_eq_true, h.hasTitle]
      rintro ⟨k, line, -, hprose, htitle⟩
      rw [hnone k line hprose] at htitle
      cases htitle
    | noFinalNewline | finalBlankLine | noFrontmatter | unclosedFrontmatter | frontmatterKeys => cases hpart

theorem nodup_report : b.report.Nodup := by
  rw [report, List.append_assoc]
  refine List.nodup_append.2 ⟨h.nodup, ?_, ?_⟩
  · cases b.openFence <;> cases b.hasTitle <;> simp
  · intro y hy z hz heq
    obtain ⟨k, line, -, -, rfl⟩ := (h.issues y).1 hy
    obtain hz | hz := List.mem_append.1 hz
    · rw [Option.toList_map] at hz
      obtain ⟨n, -, rfl⟩ := List.mem_map.1 hz
      cases heq
    · split at hz
      · cases hz
      · rw [List.mem_singleton.1 hz] at heq
        cases heq

end BodyScan

theorem nodup_endIssues (cs : List Char) : (endIssues cs).Nodup := by
  unfold endIssues
  split <;> simp

theorem nodup_checkFrontmatter (lines : List String) : (checkFrontmatter lines).1.Nodup := by
  rw [checkFrontmatter_eq]
  dsimp only
  split
  · split
    · split <;> simp
    · simp
  · simp

/-- The check reports an issue if and only if the text breaks the rule that the issue names, at the line that it names,
and reports no issue twice. -/
theorem mem_checkText_iff (content : String) :
    (checkText content).Nodup ∧ ∀ x, x ∈ checkText content ↔ Breaks content x := by
  obtain ⟨b, hb, hcheck⟩ := checkText_eq content
  rw [hcheck]
  constructor
  · -- The three parts of the report name rules about different parts of the text.
    have hapart {y z : Issue} {p q : TextPart} (hy : y.flaw.part? = some p) (hz : z.flaw.part? = some q) (hpq : p ≠ q) :
        y ≠ z := by
      rintro rfl
      exact hpq (Option.some.inj (hy.symm.trans hz))
    refine List.nodup_append.2 ⟨List.nodup_append.2 ⟨nodup_endIssues _, nodup_checkFrontmatter _, ?_⟩,
      BodyScan.nodup_report hb, ?_⟩
    · intro y hy z hz
      exact hapart (mem_endIssues.1 hy).2 (mem_checkFrontmatter.1 hz).2 (by decide)
    · intro y hy z hz
      have hbody := ((BodyScan.mem_report_of_reflects hb).1 hz).2
      obtain hy | hy := List.mem_append.1 hy
      · exact hapart (mem_endIssues.1 hy).2 hbody (by decide)
      · exact hapart (mem_checkFrontmatter.1 hy).2 hbody (by decide)
  · intro x
    rw [List.mem_append, List.mem_append, mem_endIssues, mem_checkFrontmatter, BodyScan.mem_report_of_reflects hb,
      ← and_or_left, ← and_or_left]
    refine ⟨And.left, fun h => ⟨h, ?_⟩⟩
    obtain ⟨p, hp⟩ := h.exists_part
    cases p with
    | ending => exact .inl (.inl hp)
    | frontmatter => exact .inl (.inr hp)
    | body => exact .inr hp

end PromptMarkup
