import PromptMarkup.Markdown.Check

/-!
# Blocks that the check lets pass

The walk of the check over lines starts below a blank line with no fence open.  Lines are tidy if it then ends with no
fence open and no issue found (`Tidy`).  Tidy lines with a blank line between them are tidy (`Tidy.append`), and so are
paragraphs, lists and fenced code.  A block is a text of tidy lines that does not end with a line feed (`IsBlock`), and
blocks put together are a block again (`isBlock_blocks`).
-/

namespace PromptMarkup

/-- A line that is neither a fence nor a heading. -/
def IsQuiet (line : String) : Prop := isFence line = false ∧ isHeading line = false

namespace BodyScan

variable {b : BodyScan} {previous : Option String} {line : String} {ls : List String}

/-- A heading may stand here. -/
def Allows (previous : Option String) : Prop := (previous.map allowsHeadingBelow).getD true = true

/-- The line above what follows some lines. -/
def above (previous : Option String) : List String → Option String
  | [] => previous
  | line :: r => above (some line) r

/-- What has been found, and a title if there is one. -/
def titled (b : BodyScan) (title : Bool) : BodyScan := { b with hasTitle := b.hasTitle || title }

@[simp] theorem titled_false (b : BodyScan) : b.titled false = b := by simp [titled]

@[simp] theorem titled_titled (b : BodyScan) (s t : Bool) : (b.titled s).titled t = b.titled (s || t) := by
  simp [titled, Bool.or_assoc]

theorem run_append (b : BodyScan) (previous : Option String) (number : Nat) (xs ys : List String) :
    b.run previous number (xs ++ ys) =
      (b.run previous number xs).run (above previous xs) (number + xs.length) ys := by
  induction xs generalizing b previous number with
  | nil => rfl
  | cons x xs ih =>
    rw [List.cons_append, run, ih, run, above, List.length_cons]
    congr 1
    omega

/-- Outside of fences, a line that is no fence is passed if it is no heading or a heading may stand there. -/
theorem step_of_not_isFence (hb : b.openFence = none) (hf : isFence line = false)
    (h : isHeading line = false ∨ Allows previous) (number : Nat) :
    b.step previous number line = b.titled (isTitle line) := by
  have hcrowded : (isHeading line && !(previous.map allowsHeadingBelow).getD true) = false := by
    obtain h | h := h
    · simp [h]
    · simp [show (previous.map allowsHeadingBelow).getD true = true from h]
  cases ht : isTitle line with
  | true => simp [step, titled, hf, hb, ht]
  | false => simp [step, hf, hb, ht, hcrowded]

theorem run_of_isQuiet (hb : b.openFence = none) (h : ∀ line ∈ ls, IsQuiet line) (previous : Option String)
    (number : Nat) : b.run previous number ls = b.titled (ls.any isTitle) := by
  induction ls generalizing b previous number with
  | nil => simp [run]
  | cons line ls ih =>
    obtain ⟨hl, hls⟩ := List.forall_mem_cons.1 h
    rw [run, step_of_not_isFence hb hl.1 (.inl hl.2), ih (b := b.titled _) hb hls, titled_titled, List.any_cons]

/-- Inside a fence nothing counts but the next fence. -/
theorem run_of_openFence (hb : b.openFence.isSome = true) (h : ∀ line ∈ ls, isFence line = false)
    (previous : Option String) (number : Nat) : b.run previous number ls = b := by
  induction ls generalizing previous number with
  | nil => rfl
  | cons line ls ih =>
    obtain ⟨hl, hls⟩ := List.forall_mem_cons.1 h
    rw [run, step, if_neg (by simp [hl]), if_pos hb, ih hls]

end BodyScan

open BodyScan in
/-- Lines below a blank line that the walk passes without an issue, leaving no fence open. -/
def Tidy (ls : List String) : Prop :=
  ∀ (b : BodyScan) (previous : Option String) (number : Nat), b.openFence = none → Allows previous →
    ∃ title, b.run previous number ls = b.titled title

namespace Tidy

variable {line : String} {xs ys : List String}

open BodyScan

theorem of_isQuiet (h : ∀ line ∈ xs, IsQuiet line) : Tidy xs :=
  fun _ previous number hb _ => ⟨_, run_of_isQuiet hb h previous number⟩

/-- The first line may be a heading. -/
theorem cons (hf : isFence line = false) (h : ∀ line ∈ xs, IsQuiet line) : Tidy (line :: xs) := by
  intro b previous number hb hp
  rw [run, step_of_not_isFence hb hf (.inr hp), run_of_isQuiet (b := b.titled _) hb h, titled_titled]
  exact ⟨_, rfl⟩

/-- Tidy lines stay so with a blank line between them. -/
theorem append (hx : Tidy xs) (hy : Tidy ys) : Tidy (xs ++ "" :: ys) := by
  intro b previous number hb hp
  obtain ⟨t, ht⟩ := hx b previous number hb hp
  obtain ⟨u, hu⟩ := hy (b.titled t) (some "") (number + xs.length + 1) hb rfl
  have hblank : isTitle "" = false := by decide
  refine ⟨t || u, ?_⟩
  rw [run_append, ht, run, step_of_not_isFence (b := b.titled t) hb (by decide) (.inl (by decide)), hblank,
    titled_false, hu, titled_titled]

/-- Code between fences. -/
theorem fenced (hopen : isFence line = true) (h : ∀ line ∈ xs, isFence line = false) :
    Tidy (line :: xs ++ ["```"]) := by
  intro b previous number hb _
  have hinside : b.step previous number line = { b with openFence := some number } := by
    rw [step, if_pos hopen, hb]
  refine ⟨false, ?_⟩
  rw [List.cons_append, run, hinside, run_append, run_of_openFence rfl h, run, step, if_pos (by decide), run,
    titled_false]
  exact congrArg (fun o => { b with openFence := o }) hb.symm

end Tidy

/-! ### Texts as blocks -/

/-- A text of one line. -/
def OneLine (s : String) : Prop := '\n' ∉ s.toList

instance (s : String) : Decidable (OneLine s) := inferInstanceAs (Decidable (¬ _))

/-- A text that does not end with a line feed. -/
def Closed (s : String) : Prop := ∃ c, s.toList.getLast? = some c ∧ c ≠ '\n'

/-- A text that can stand as a block. -/
structure IsBlock (s : String) : Prop where
  tidy : Tidy (Text.lines s)
  closed : Closed s

section

variable {a b s : String}

theorem OneLine.append (ha : OneLine a) (hb : OneLine b) : OneLine (a ++ b) := by
  simpa [OneLine] using ⟨ha, hb⟩

theorem OneLine.closed (h : OneLine s) (hs : s ≠ "") : Closed s := by
  have hne : s.toList ≠ [] := by simpa using hs
  exact ⟨s.toList.getLast hne, List.getLast?_eq_some_getLast hne, fun hc => h (hc ▸ List.getLast_mem hne)⟩

theorem Closed.append_left (hb : Closed b) (a : String) : Closed (a ++ b) := by
  obtain ⟨c, hc, hn⟩ := hb
  exact ⟨c, by simp [List.getLast?_append, hc], hn⟩

theorem isBlock_of_oneLine (h : OneLine s) (hs : s ≠ "") (hf : isFence s = false) : IsBlock s where
  tidy := by
    rw [Text.lines_of_notMem h]
    exact .cons hf (List.forall_mem_nil _)
  closed := h.closed hs

/-- Two lines, one right below the other. -/
theorem isBlock_of_isQuiet (ha : OneLine a) (hb : OneLine b) (hqa : IsQuiet a) (hqb : IsQuiet b) (hne : b ≠ "") :
    IsBlock (a ++ "\n" ++ b) where
  tidy := by
    rw [Text.lines_append_newline, Text.lines_of_notMem ha, Text.lines_of_notMem hb]
    exact .of_isQuiet (by simpa using ⟨hqa, hqb⟩)
  closed := (hb.closed hne).append_left _

theorem lines_append_blank (a b : String) : Text.lines (a ++ "\n\n" ++ b) = Text.lines a ++ "" :: Text.lines b := by
  have h : a ++ "\n\n" ++ b = a ++ "\n" ++ ("" ++ "\n" ++ b) := by simp [← String.toList_inj]
  rw [h, Text.lines_append_newline, Text.lines_append_newline]
  rfl

/-- The line feed at the end of a text leaves an empty line. -/
theorem lines_append_final (s : String) : Text.lines (s ++ "\n") = Text.lines s ++ [""] := by
  have hempty : Text.lines "" = [""] := Text.lines_of_notMem (by decide)
  have hlines := Text.lines_append_newline s ""
  rwa [String.append_empty, hempty] at hlines

/-- Blocks stay so with a blank line between them. -/
theorem IsBlock.append (ha : Tidy (Text.lines a)) (hb : IsBlock b) : IsBlock (a ++ "\n\n" ++ b) where
  tidy := by
    rw [lines_append_blank]
    exact ha.append hb.tidy
  closed := hb.closed.append_left _

theorem isBlock_blocks {bs : List String} (hne : bs ≠ []) (h : ∀ b ∈ bs, IsBlock b) : IsBlock (blocks bs) := by
  induction bs with
  | nil => exact absurd rfl hne
  | cons b bs ih =>
    obtain ⟨hb, hbs⟩ := List.forall_mem_cons.1 h
    cases bs with
    | nil => exact hb
    | cons c cs => exact .append hb.tidy (ih (by simp) hbs)

/-! ### Lists -/

theorem isQuiet_bullet (i : String) : IsQuiet ("- " ++ i) := by
  simp [IsQuiet, isFence, isHeading, beginsWith, List.isPrefixOf]

theorem lines_bullets {items : List String} (hne : items ≠ []) (h : ∀ i ∈ items, OneLine i) :
    Text.lines (bullets items) = items.map ("- " ++ ·) := by
  have hbullet (i : String) (hi : OneLine i) : Text.lines ("- " ++ i) = ["- " ++ i] :=
    Text.lines_of_notMem (OneLine.append (by decide) hi)
  induction items with
  | nil => exact absurd rfl hne
  | cons i is ih =>
    obtain ⟨hi, his⟩ := List.forall_mem_cons.1 h
    cases is with
    | nil => exact hbullet i hi
    | cons j js =>
      have hrest := ih (by simp) his
      calc Text.lines (bullets (i :: j :: js))
          = Text.lines ("- " ++ i ++ "\n" ++ bullets (j :: js)) := rfl
        _ = ["- " ++ i] ++ (j :: js).map ("- " ++ ·) := by rw [Text.lines_append_newline, hbullet i hi, hrest]
        _ = (i :: j :: js).map ("- " ++ ·) := rfl

theorem closed_bullets {items : List String} (hne : items ≠ []) (h : ∀ i ∈ items, OneLine i) :
    Closed (bullets items) := by
  induction items with
  | nil => exact absurd rfl hne
  | cons i is ih =>
    obtain ⟨hi, his⟩ := List.forall_mem_cons.1 h
    cases is with
    | nil => exact (OneLine.append (by decide) hi).closed (by simp)
    | cons j js => exact (ih (by simp) his).append_left ("- " ++ i ++ "\n")

theorem isQuiet_of_mem_bullets {items : List String} (hne : items ≠ []) (h : ∀ i ∈ items, OneLine i) :
    ∀ line ∈ Text.lines (bullets items), IsQuiet line := by
  rw [lines_bullets hne h]
  exact List.forall_mem_map.2 fun i _ => isQuiet_bullet i

theorem isBlock_bullets {items : List String} (hne : items ≠ []) (h : ∀ i ∈ items, OneLine i) :
    IsBlock (bullets items) where
  tidy := .of_isQuiet (isQuiet_of_mem_bullets hne h)
  closed := closed_bullets hne h

/-- A line right above a list. -/
theorem isBlock_above_bullets {items : List String} (hs : OneLine s) (hf : isFence s = false) (hne : items ≠ [])
    (h : ∀ i ∈ items, OneLine i) : IsBlock (s ++ "\n" ++ bullets items) where
  tidy := by
    rw [Text.lines_append_newline, Text.lines_of_notMem hs]
    exact .cons hf (isQuiet_of_mem_bullets hne h)
  closed := (closed_bullets hne h).append_left _

theorem bullets_ne_empty {items : List String} (hne : items ≠ []) : bullets items ≠ "" := by
  cases items with
  | nil => exact absurd rfl hne
  | cons i is => cases is <;> simp [bullets, Text.join, ← String.toList_inj]

/-- A description with a list below it, if there is something of the two. -/
theorem isBlock_listBlock {items : List String} (hs : OneLine s) (hf : isFence s = false) (h : ∀ i ∈ items, OneLine i)
    (hne : listBlock s items ≠ "") : IsBlock (listBlock s items) := by
  have hempty : bullets [] = "" := rfl
  unfold listBlock at hne ⊢
  by_cases hi : items = []
  · subst hi
    simp only [hempty, if_true] at hne ⊢
    split at hne
    · exact absurd rfl hne
    · next hd => rw [if_neg hd]; exact isBlock_of_oneLine hs hd hf
  · simp only [bullets_ne_empty hi, if_false]
    split
    · exact isBlock_bullets hi h
    · next hd =>
      split
      · exact isBlock_above_bullets hs hf hi h
      · exact .append (isBlock_of_oneLine hs hd hf).tidy (isBlock_bullets hi h)

end

/-! ### Code -/

/-- Code that can stand between fences: its tag is on one line, and none of its own lines is a fence. -/
structure CodeBlock.Fits (b : CodeBlock) : Prop where
  language : OneLine b.language
  lines : ∀ line ∈ Text.lines (Text.verbatim b.content), isFence line = false

theorem CodeBlock.Fits.isBlock {b : CodeBlock} (h : b.Fits) : IsBlock b.fenced where
  tidy := by
    have hcut : b.fenced = "```" ++ b.language ++ "\n" ++ Text.verbatim b.content ++ "\n" ++ "```" := by
      simp [CodeBlock.fenced, ← String.toList_inj]
    have hopen : OneLine ("```" ++ b.language) := .append (by decide) h.language
    have hclose : Text.lines "```" = ["```"] := Text.lines_of_notMem (by decide)
    rw [hcut, Text.lines_append_newline, Text.lines_append_newline, Text.lines_of_notMem hopen, hclose,
      List.singleton_append]
    exact .fenced (by simp [isFence, beginsWith]) h.lines
  closed := Closed.append_left (b := "\n```") ⟨'`', rfl, by decide⟩ _

end PromptMarkup
