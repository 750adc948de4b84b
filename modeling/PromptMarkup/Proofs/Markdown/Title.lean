import PromptMarkup.Proofs.Markdown.Fences
import PromptMarkup.Proofs.Markdown.Rules

/-!
# Titles of accepted texts

A text that the check accepts is a frontmatter and a body with a title (`exists_artifactText`).  The title need not be
the only one, nor need the body open with it (`HasSingleTitle`): the check takes no heed of a title put behind an
accepted text or of a paragraph put below its frontmatter.  The main result says which accepted texts have a single
title on top of the body, and that every accepted text leads to accepted ones that have not
(`title_of_checkText_eq_nil`).
-/

namespace PromptMarkup

/-! ### Titles -/

/-- A line that holds blanks only, if anything. -/
def IsBlankLine (line : String) : Prop := ∀ c ∈ line.toList, Text.isBlank c = true

/-- A title of the body that stands outside of fences. -/
structure IsTitleAt (content : String) (i : Nat) (line : String) : Prop where
  prose : IsProse (Text.lines content) (bodyStart (Text.lines content)) i line
  title : isTitle line = true

/-- Above a position, the body has blank lines only. -/
def OpensBodyAt (content : String) (i : Nat) : Prop :=
  ∀ j line, bodyStart (Text.lines content) ≤ j → j < i → (Text.lines content)[j]? = some line → IsBlankLine line

/-- The body opens with a title, and has no other one. -/
def HasSingleTitle (content : String) : Prop :=
  ∃ i line, IsTitleAt content i line ∧ (∀ j other, IsTitleAt content j other → j = i) ∧ OpensBodyAt content i

theorem not_isBlankLine_of_isTitle {line : String} (h : isTitle line = true) : ¬ IsBlankLine line := by
  obtain ⟨rest, hrest⟩ := List.isPrefixOf_iff_prefix.1 h
  intro hblank
  have hmem : '#' ∈ line.toList := hrest ▸ List.mem_append_left rest (by decide)
  exact absurd (hblank '#' hmem) (by decide)

/-- What opens the body is the first line of it that is not blank, so at most one title does. -/
theorem IsTitleAt.eq_of_opensBodyAt {content : String} {i j : Nat} {line other : String}
    (h : IsTitleAt content i line) (ho : OpensBodyAt content i) (h' : IsTitleAt content j other)
    (ho' : OpensBodyAt content j) : j = i := by
  rcases Nat.lt_trichotomy j i with hlt | heq | hlt
  · exact absurd (ho j other h'.prose.body hlt h'.prose.line) (not_isBlankLine_of_isTitle h'.title)
  · exact heq
  · exact absurd (ho' i line h.prose.body hlt h.prose.line) (not_isBlankLine_of_isTitle h.title)

theorem IsProse.append {xs : List String} {start i : Nat} {line : String} (h : IsProse xs start i line)
    (ys : List String) : IsProse (xs ++ ys) start i line := by
  have hlt : i < xs.length := (List.getElem?_eq_some_iff.1 h.line).1
  refine ⟨h.body, ?_, ?_⟩
  · rw [List.getElem?_append_left hlt, h.line]
  · rw [fencesAbove, List.take_append_of_le_length (Nat.le_of_lt hlt)]
    exact h.closed

/-! ### Walks that differ in the numbers of lines -/

namespace BodyScan

/-- Two walks have found the same, be it at other lines. -/
structure Alike (b c : BodyScan) : Prop where
  openFence : b.openFence.isSome = c.openFence.isSome
  hasTitle : b.hasTitle = c.hasTitle
  issues : b.issues = [] ↔ c.issues = []

variable {b c : BodyScan} {previous previous' : Option String}

theorem Alike.step (h : Alike b c)
    (hp : (previous.map allowsHeadingBelow).getD true = (previous'.map allowsHeadingBelow).getD true)
    (n m : Nat) (line : String) : Alike (b.step previous n line) (c.step previous' m line) := by
  have hnone : b.openFence = none ↔ c.openFence = none := by
    rw [← Option.isNone_iff_eq_none, ← Option.isNone_iff_eq_none, ← Option.not_isSome, ← Option.not_isSome, h.openFence]
  constructor
  · rw [openFence_step, openFence_step, h.openFence]
    split
    · split <;> rfl
    · exact h.openFence
  · rw [hasTitle_step, hasTitle_step, h.hasTitle, ← Option.not_isSome, ← Option.not_isSome, h.openFence]
  · rw [issues_step, issues_step, List.append_eq_nil_iff, List.append_eq_nil_iff, h.issues]
    simp only [hnone, hp, ite_eq_right_iff, List.cons_ne_nil]

theorem Alike.run (h : Alike b c)
    (hp : (previous.map allowsHeadingBelow).getD true = (previous'.map allowsHeadingBelow).getD true)
    (n m : Nat) (ls : List String) : Alike (b.run previous n ls) (c.run previous' m ls) := by
  induction ls generalizing b c previous previous' n m with
  | nil => exact h
  | cons line ls ih => exact ih (h.step hp n m line) rfl (n + 1) (m + 1)

theorem report_eq_nil_iff : b.report = [] ↔ b.issues = [] ∧ b.openFence = none ∧ b.hasTitle = true := by
  rw [report]
  cases b.openFence <;> cases b.hasTitle <;> simp

theorem Alike.report_eq_nil (h : Alike b c) (hc : c.report = []) : b.report = [] := by
  rw [report_eq_nil_iff] at hc ⊢
  have hfence : b.openFence.isSome = false := by rw [h.openFence, hc.2.1, Option.isSome_none]
  exact ⟨h.issues.2 hc.1, by simpa using hfence, h.hasTitle.trans hc.2.2⟩

/-- An empty line changes nothing, inside a fence or outside. -/
theorem step_empty (b : BodyScan) (previous : Option String) (n : Nat) : b.step previous n "" = b := by
  have hfence : isFence "" = false := by decide
  have htitle : isTitle "" = false := by decide
  have hheading : isHeading "" = false := by decide
  simp [step, hfence, htitle, hheading]

end BodyScan

/-! ### Accepted texts -/

/-- The lines of a frontmatter and of a body. -/
def artifactLines (fields body : List String) : List String :=
  frontmatterDelimiter :: (fields ++ frontmatterDelimiter :: body)

/-- A frontmatter and a body with a line feed at the end. -/
def artifactText (fields body : List String) : String := Text.join "\n" (artifactLines fields body) ++ "\n"

/-- The walk over a body below a frontmatter. -/
def bodyWalk (body : List String) : BodyScan := ({} : BodyScan).run (some frontmatterDelimiter) 6 body

/-- The lines of a frontmatter with the three keys, and of a body in which the walk finds nothing wrong.  The last line
of the body is not empty, as the text would end with two line feeds. -/
structure IsAccepted (fields body : List String) : Prop where
  oneLine : ∀ line ∈ artifactLines fields body, OneLine line
  keys : fields.map frontmatterKey = frontmatterKeys
  walk : (bodyWalk body).report = []
  last : ∃ upper line, body = upper ++ [line] ∧ line ≠ ""

section

variable {fields body : List String}

theorem artifactLines_ne_nil (fields body : List String) : artifactLines fields body ≠ [] := List.cons_ne_nil _ _

theorem artifactLines_append (fields body rest : List String) :
    artifactLines fields body ++ rest = artifactLines fields (body ++ rest) := by
  simp only [artifactLines, List.cons_append, List.append_assoc]

theorem lines_artifactText (h : ∀ line ∈ artifactLines fields body, OneLine line) :
    Text.lines (artifactText fields body) = artifactLines fields (body ++ [""]) := by
  rw [artifactText, lines_append_final, Text.lines_join (artifactLines_ne_nil _ _) h, artifactLines_append]

theorem bodyStart_artifactLines (h : fields.map frontmatterKey = frontmatterKeys) (body : List String) :
    bodyStart (artifactLines fields body) = 5 := by
  have hchecked := checkFrontmatter_of_keys h body
  rw [checkFrontmatter_eq] at hchecked
  exact congrArg Prod.snd hchecked

theorem artifactLines_eq (fields body : List String) : artifactLines fields body = artifactLines fields [] ++ body := by
  rw [artifactLines_append, List.nil_append]

theorem length_artifactLines_nil (h : fields.map frontmatterKey = frontmatterKeys) :
    (artifactLines fields []).length = 5 := by
  have hlength : fields.length = frontmatterKeys.length := by rw [← h, List.length_map]
  simp [artifactLines, hlength, frontmatterKeys]

theorem take_artifactLines (h : fields.map frontmatterKey = frontmatterKeys) (body : List String) :
    (artifactLines fields body).take 5 = artifactLines fields [] := by
  rw [artifactLines_eq, List.take_left' (length_artifactLines_nil h)]

theorem drop_artifactLines (h : fields.map frontmatterKey = frontmatterKeys) (body : List String) :
    (artifactLines fields body).drop 5 = body := by
  rw [artifactLines_eq, List.drop_left' (length_artifactLines_nil h)]

theorem lineAbove?_artifactLines (h : fields.map frontmatterKey = frontmatterKeys) (body : List String) :
    lineAbove? (artifactLines fields body) 5 = some frontmatterDelimiter := by
  have hlength : fields.length = 3 := by
    have hall := length_artifactLines_nil h
    simpa [artifactLines] using hall
  simp [artifactLines, lineAbove?, hlength]

theorem bodyWalk_append_empty (body : List String) : bodyWalk (body ++ [""]) = bodyWalk body := by
  rw [bodyWalk, BodyScan.run_append, BodyScan.run, BodyScan.step_empty]
  rfl

/-- The check of lines that have the frontmatter: what is left of it is the walk over the body. -/
theorem checkText_of_keys {content : String} (h : fields.map frontmatterKey = frontmatterKeys)
    (hl : Text.lines content = artifactLines fields body) :
    checkText content = endIssues content.toList ++ (bodyWalk body).report := by
  have hchecked : checkFrontmatter (artifactLines fields body) = ([], 5) := checkFrontmatter_of_keys h body
  have habove := lineAbove?_artifactLines h body
  rw [lineAbove?] at habove
  rw [checkText]
  simp only [hl, hchecked, habove, drop_artifactLines h, List.append_nil]
  rfl

/-- A text whose end the check lets pass. -/
theorem exists_closed_of_endIssues {content : String} (h : endIssues content.toList = []) :
    ∃ s, content = s ++ "\n" ∧ (s ≠ "" → Closed s) := by
  unfold endIssues at h
  split at h
  · cases h
  · next r hno hr =>
    have hcontent : content.toList = r.reverse ++ ['\n'] := by rw [← List.reverse_cons, ← hr, List.reverse_reverse]
    refine ⟨String.ofList r.reverse, by simp [← String.toList_inj, hcontent], fun hs => ?_⟩
    cases r with
    | nil => exact absurd rfl hs
    | cons c r => exact ⟨c, by simp, fun hc => hno r (by rw [hc])⟩
  · cases h

theorem IsAccepted.checkText_eq_nil (h : IsAccepted fields body) : checkText (artifactText fields body) = [] := by
  obtain ⟨upper, line, rfl, hne⟩ := h.last
  have hclosed : Closed (Text.join "\n" (artifactLines fields (upper ++ [line]))) := by
    have hline := h.oneLine line (by simp [artifactLines])
    rw [← artifactLines_append, Text.join_append "\n" (artifactLines_ne_nil _ _) (List.cons_ne_nil _ _)]
    exact (hline.closed hne).append_left _
  rw [checkText_of_keys h.keys (lines_artifactText h.oneLine), artifactText, endIssues_append_newline hclosed,
    bodyWalk_append_empty, h.walk, List.nil_append]

/-- Lines of which the frontmatter has no issue. -/
theorem exists_artifactLines_of_checkFrontmatter {lines : List String} (h : (checkFrontmatter lines).1 = []) :
    ∃ fields rest, lines = artifactLines fields rest ∧ fields.map frontmatterKey = frontmatterKeys := by
  rw [checkFrontmatter_eq] at h
  dsimp only at h
  split at h
  · next hhead =>
    split at h
    · next hend =>
      split at h
      · next hkeys =>
        obtain ⟨rest, rfl⟩ := List.head?_eq_some_iff.1 hhead
        refine ⟨_, rest.drop (rest.idxOf frontmatterDelimiter + 1), ?_, hkeys⟩
        rw [List.tail_cons] at hend ⊢
        have hlt := List.idxOf_lt_length_of_mem hend
        have hcut : rest.drop (rest.idxOf frontmatterDelimiter) =
            frontmatterDelimiter :: rest.drop (rest.idxOf frontmatterDelimiter + 1) := by
          rw [List.drop_eq_getElem_cons hlt, List.getElem_idxOf]
        rw [artifactLines, ← hcut, List.take_append_drop]
      · cases h
    · cases h
  · cases h

section

variable {s : String}

/-- The empty line at the end is not the one that closes the frontmatter. -/
theorem exists_body_of_lines {rest : List String} (h : Text.lines s ++ [""] = artifactLines fields rest) :
    ∃ body, rest = body ++ [""] ∧ Text.lines s = artifactLines fields body := by
  obtain rfl | ⟨body, last, rfl⟩ := rest.eq_nil_or_concat'
  · have hsplit : Text.lines s ++ [""] = (frontmatterDelimiter :: fields) ++ [frontmatterDelimiter] := h
    exact absurd (List.singleton_inj.1 (List.append_inj' hsplit rfl).2) (by decide)
  · rw [← artifactLines_append] at h
    obtain ⟨hs, hlast⟩ := List.append_inj' h rfl
    exact ⟨body, by rw [List.singleton_inj.1 hlast], hs⟩

theorem ne_empty_of_lines (h : Text.lines s = artifactLines fields body) : s ≠ "" := by
  rintro rfl
  rw [Text.lines_of_notMem (by decide), artifactLines] at h
  exact absurd (List.cons.inj h).1 (by decide)

theorem last_ne_empty_of_closed {upper : List String} {line : String}
    (h : Text.lines s = artifactLines fields (upper ++ [line])) (hs : Closed s) : line ≠ "" := by
  rintro rfl
  obtain ⟨c, hc, hnewline⟩ := hs
  rw [← Text.join_lines s, h, ← artifactLines_append,
    Text.join_append "\n" (artifactLines_ne_nil _ _) (List.cons_ne_nil _ _)] at hc
  simp [Text.join] at hc
  exact hnewline hc.symm

end

/-- A text is accepted only if it is made up in this way. -/
theorem exists_artifactText {content : String} (h : checkText content = []) :
    ∃ fields body, content = artifactText fields body ∧ IsAccepted fields body := by
  obtain ⟨b, -, hcheck⟩ := checkText_eq content
  have hparts := h
  rw [hcheck, List.append_eq_nil_iff, List.append_eq_nil_iff] at hparts
  obtain ⟨⟨hend, hfront⟩, -⟩ := hparts
  obtain ⟨s, rfl, hclosed⟩ := exists_closed_of_endIssues hend
  obtain ⟨fields, rest, hlines, hkeys⟩ := exists_artifactLines_of_checkFrontmatter hfront
  have hwalk : (bodyWalk rest).report = [] := by
    rw [checkText_of_keys hkeys hlines] at h
    exact (List.append_eq_nil_iff.1 h).2
  rw [lines_append_final] at hlines
  obtain ⟨body, rfl, hs⟩ := exists_body_of_lines hlines
  rw [bodyWalk_append_empty] at hwalk
  refine ⟨fields, body, by rw [artifactText, ← hs, Text.join_lines], ?_, hkeys, hwalk, ?_⟩
  · rw [← hs]
    exact fun line => Text.oneLine_of_mem_lines
  · obtain rfl | ⟨upper, line, rfl⟩ := body.eq_nil_or_concat'
    · -- A body without lines has no title.
      cases hwalk
    · exact ⟨upper, line, rfl, last_ne_empty_of_closed hs (hclosed (ne_empty_of_lines hs))⟩

/-- The walk over the body finds what the rules say of the lines. -/
theorem IsAccepted.reflects (h : IsAccepted fields body) :
    (bodyWalk body).Reflects (artifactLines fields body) 5 (artifactLines fields body).length := by
  have hlength : 5 ≤ (artifactLines fields body).length := by
    rw [artifactLines_eq, List.length_append, length_artifactLines_nil h.keys]
    exact Nat.le_add_right 5 _
  have hrun := (BodyScan.Reflects.init (artifactLines fields body) 5).run (Nat.le_refl 5) hlength
  rwa [lineAbove?_artifactLines h.keys, drop_artifactLines h.keys] at hrun

theorem IsAccepted.bodyStart (h : IsAccepted fields body) :
    bodyStart (Text.lines (artifactText fields body)) = 5 := by
  rw [lines_artifactText h.oneLine, bodyStart_artifactLines h.keys]

theorem IsAccepted.exists_title (h : IsAccepted fields body) :
    ∃ i line, i < (artifactLines fields body).length ∧ IsProse (artifactLines fields body) 5 i line ∧
      isTitle line = true :=
  h.reflects.hasTitle.1 (BodyScan.report_eq_nil_iff.1 h.walk).2.2

/-! ### Accepted texts without a single title -/

/-- A text with another title below it. -/
def withTitle (content t : String) : String := content ++ "# " ++ t ++ "\n"

/-- A text with a paragraph below its frontmatter. -/
def withOpening (content p : String) : String :=
  Text.join "\n" ((Text.lines content).take (bodyStart (Text.lines content)) ++
    p :: "" :: (Text.lines content).drop (bodyStart (Text.lines content)))

theorem withTitle_artifactText (fields body : List String) (t : String) :
    withTitle (artifactText fields body) t = artifactText fields (body ++ ["# " ++ t]) := by
  rw [artifactText, artifactText, ← artifactLines_append,
    Text.join_append "\n" (artifactLines_ne_nil _ _) (List.cons_ne_nil _ _)]
  simp [withTitle, Text.join, ← String.toList_inj]

theorem IsAccepted.withOpening_eq (h : IsAccepted fields body) (p : String) :
    withOpening (artifactText fields body) p = artifactText fields (p :: "" :: body) := by
  have hfinal : artifactLines fields [] ++ p :: "" :: (body ++ [""]) =
      artifactLines fields (p :: "" :: body) ++ [""] := by
    simp [artifactLines]
  rw [withOpening, h.bodyStart, lines_artifactText h.oneLine, take_artifactLines h.keys, drop_artifactLines h.keys,
    hfinal, Text.join_append "\n" (artifactLines_ne_nil _ _) (List.cons_ne_nil _ _), artifactText]
  simp [Text.join]

theorem isTitle_append (t : String) : isTitle ("# " ++ t) = true := by simp [isTitle, beginsWith]

theorem IsAccepted.withTitle {t : String} (h : IsAccepted fields body) (ht : OneLine t) :
    IsAccepted fields (body ++ ["# " ++ t]) where
  oneLine := by
    rw [← artifactLines_append, List.forall_mem_append, List.forall_mem_singleton]
    exact ⟨h.oneLine, OneLine.append (by decide) ht⟩
  keys := h.keys
  walk := by
    have hheading : isHeading ("# " ++ t) = false := by simp [isHeading, beginsWith, List.isPrefixOf]
    have hreport := BodyScan.report_eq_nil_iff.1 h.walk
    rw [bodyWalk, BodyScan.run_append, ← bodyWalk, BodyScan.run, BodyScan.run,
      BodyScan.step_of_not_isFence hreport.2.1 (isFence_of_isTitle (isTitle_append t)) (.inl hheading)]
    exact BodyScan.report_eq_nil_iff.2 ⟨hreport.1, hreport.2.1, by simp [BodyScan.titled, isTitle_append]⟩
  last := ⟨body, _, rfl, by simp [← String.toList_inj]⟩

/-- The walk goes on below a paragraph as it does below the frontmatter. -/
theorem IsAccepted.withOpening {p : String} (h : IsAccepted fields body) (hp : OneLine p) (hq : IsQuiet p)
    (ht : isTitle p = false) : IsAccepted fields (p :: "" :: body) where
  oneLine := by
    have hline := h.oneLine
    rw [artifactLines_eq, List.forall_mem_append] at hline ⊢
    simp only [List.forall_mem_cons]
    exact ⟨hline.1, hp, by decide, hline.2⟩
  keys := h.keys
  walk := by
    have hstep : ({} : BodyScan).step (some frontmatterDelimiter) 6 p = {} := by
      rw [BodyScan.step_of_not_isFence rfl hq.1 (.inl hq.2), ht, BodyScan.titled_false]
    have halike : BodyScan.Alike {} {} := ⟨rfl, rfl, Iff.rfl⟩
    rw [bodyWalk, BodyScan.run, hstep, BodyScan.run, BodyScan.step_empty]
    exact (halike.run (by decide) _ _ body).report_eq_nil h.walk
  last := by
    obtain ⟨upper, line, rfl, hne⟩ := h.last
    exact ⟨p :: "" :: upper, line, rfl, hne⟩

/-- The old title and the new one. -/
theorem IsAccepted.not_hasSingleTitle_withTitle {t : String} (h : IsAccepted fields body) (ht : OneLine t) :
    ¬ HasSingleTitle (artifactText fields (body ++ ["# " ++ t])) := by
  rintro ⟨i, line, -, hunique, -⟩
  have hnew := h.withTitle ht
  have hlines : Text.lines (artifactText fields (body ++ ["# " ++ t])) =
      artifactLines fields body ++ ["# " ++ t, ""] := by
    rw [lines_artifactText hnew.oneLine, artifactLines_append, List.append_assoc]
    rfl
  have heven := h.reflects.openFence_eq_none_iff.1 (BodyScan.report_eq_nil_iff.1 h.walk).2.1
  obtain ⟨k, old, hk, hprose, hold⟩ := h.exists_title
  have hfirst : IsTitleAt (artifactText fields (body ++ ["# " ++ t])) k old := by
    refine ⟨?_, hold⟩
    rw [hnew.bodyStart, hlines]
    exact hprose.append _
  have hsecond : IsTitleAt (artifactText fields (body ++ ["# " ++ t])) (artifactLines fields body).length
      ("# " ++ t) := by
    refine ⟨?_, isTitle_append t⟩
    rw [hnew.bodyStart, hlines]
    refine ⟨?_, by simp, ?_⟩
    · exact Nat.le_of_lt (Nat.lt_of_le_of_lt hprose.body hk)
    · rw [fencesAbove, List.take_append_of_le_length (Nat.le_refl _)]
      exact heven
  have hsame := (hunique _ _ hfirst).trans (hunique _ _ hsecond).symm
  omega

/-- The paragraph stands above all titles. -/
theorem IsAccepted.not_hasSingleTitle_withOpening {p : String} (h : IsAccepted fields (p :: body))
    (ht : isTitle p = false) (hb : ¬ IsBlankLine p) : ¬ HasSingleTitle (artifactText fields (p :: body)) := by
  rintro ⟨i, line, htitle, -, hopens⟩
  have hline : (Text.lines (artifactText fields (p :: body)))[5]? = some p := by
    rw [lines_artifactText h.oneLine, artifactLines_eq,
      List.getElem?_append_right (Nat.le_of_eq (length_artifactLines_nil h.keys)), length_artifactLines_nil h.keys]
    rfl
  have hi := htitle.prose.body
  rw [h.bodyStart] at hi
  obtain rfl | hlt := Nat.eq_or_lt_of_le hi
  · have hfirst := htitle.prose.line
    rw [hline] at hfirst
    rw [Option.some.inj hfirst, htitle.title] at ht
    cases ht
  · exact hb (hopens 5 p (Nat.le_of_eq h.bodyStart) hlt hline)

end

/-- A text that the check accepts has a title in its body outside of fences.  It has a single title on top of its body
if and only if every such title has nothing but blank lines above it in the body.  The check does not see to that:
whatever accepted text is taken, with another title below it, and with a paragraph below its frontmatter, it is accepted
and has no single title. -/
theorem title_of_checkText_eq_nil {content : String} (h : checkText content = []) :
    (∃ i line, IsTitleAt content i line) ∧
      (HasSingleTitle content ↔ ∀ i line, IsTitleAt content i line → OpensBodyAt content i) ∧
      (∀ t, OneLine t → checkText (withTitle content t) = [] ∧ ¬ HasSingleTitle (withTitle content t)) ∧
      (∀ p, OneLine p → IsQuiet p → isTitle p = false → ¬ IsBlankLine p →
        checkText (withOpening content p) = [] ∧ ¬ HasSingleTitle (withOpening content p)) := by
  obtain ⟨fields, body, rfl, haccepted⟩ := exists_artifactText h
  have htitle : ∃ i line, IsTitleAt (artifactText fields body) i line := by
    obtain ⟨i, line, -, hprose, htitle⟩ := haccepted.exists_title
    refine ⟨i, line, ?_, htitle⟩
    rw [haccepted.bodyStart, lines_artifactText haccepted.oneLine, ← artifactLines_append]
    exact hprose.append _
  refine ⟨htitle, ?_, ?_, ?_⟩
  · constructor
    · rintro ⟨i, line, -, hunique, hopens⟩ j other hother
      rwa [hunique j other hother]
    · intro hall
      obtain ⟨i, line, hi⟩ := htitle
      have hopens := hall i line hi
      exact ⟨i, line, hi, fun j other hj => hi.eq_of_opensBodyAt hopens hj (hall j other hj), hopens⟩
  · intro t ht
    rw [withTitle_artifactText]
    exact ⟨(haccepted.withTitle ht).checkText_eq_nil, haccepted.not_hasSingleTitle_withTitle ht⟩
  · intro p hp hq ht hb
    have hopened := haccepted.withOpening hp hq ht
    rw [haccepted.withOpening_eq]
    exact ⟨hopened.checkText_eq_nil, hopened.not_hasSingleTitle_withOpening ht hb⟩

/-- A text that is a frontmatter and a title. -/
def titledText : String := "---\ndescription:\nglobs:\nalwaysApply:\n---\n# A\n"

theorem lines_titledText :
    Text.lines titledText = ["---", "description:", "globs:", "alwaysApply:", "---", "# A", ""] := by
  decide

/-- It has a single title, and has it no more with another one below it or a paragraph above it. -/
theorem hasSingleTitle_titledText :
    checkText titledText = [] ∧ HasSingleTitle titledText ∧
      (checkText (withTitle titledText "B") = [] ∧ ¬ HasSingleTitle (withTitle titledText "B")) ∧
      checkText (withOpening titledText "Text.") = [] ∧ ¬ HasSingleTitle (withOpening titledText "Text.") := by
  have hchecked : checkText titledText = [] := by decide
  have hstart : bodyStart (Text.lines titledText) = 5 := by decide
  obtain ⟨-, hsingle, hbelow, habove⟩ := title_of_checkText_eq_nil hchecked
  refine ⟨hchecked, hsingle.2 fun i line htitle j other hj hij hother => ?_, hbelow "B" (by decide),
    habove "Text." (by decide) ⟨by decide, by decide⟩ (by decide) (by simp [IsBlankLine, Text.isBlank])⟩
  -- The line at the top of the body is a title, and the empty line below it is none.
  rw [hstart] at hj
  have hline := htitle.prose.line
  rw [lines_titledText] at hline
  have hlt : i < 7 := (List.getElem?_eq_some_iff.1 hline).1
  obtain rfl : i = 6 := by omega
  obtain rfl : "" = line := Option.some.inj hline
  exact absurd htitle.title (by decide)

/-- A text with two titles. -/
def twoTitles : String := "---\ndescription:\nglobs:\nalwaysApply:\n---\n# A\n\n# B\n"

/-- The check has no issue with the two titles. -/
theorem checkText_twoTitles : checkText twoTitles = [] ∧ ¬ HasSingleTitle twoTitles := by
  have hlines : Text.lines twoTitles =
      ["---", "description:", "globs:", "alwaysApply:", "---", "# A", "", "# B", ""] := by decide
  have hstart : bodyStart (Text.lines twoTitles) = 5 := by decide
  refine ⟨by decide, ?_⟩
  rintro ⟨i, line, -, hunique, -⟩
  have hfirst : i = 5 := by
    refine (hunique 5 "# A" ⟨?_, by decide⟩).symm
    rw [hstart, hlines]
    exact ⟨by decide, by decide, by decide⟩
  have hsecond : i = 7 := by
    refine (hunique 7 "# B" ⟨?_, by decide⟩).symm
    rw [hstart, hlines]
    exact ⟨by decide, by decide, by decide⟩
  omega

end PromptMarkup
