import Mathlib.Data.List.TakeWhile
import PromptMarkup.Proofs.Markdown.Artifact
import PromptMarkup.Proofs.Markdown.Layout

/-!
# Fenced code

Fenced code stands in an artifact with its own lines, below a line that is the fence with the language tag and above a
line that is the fence alone (`lines_fenced`).  A reader takes the lines from the opening fence down to the next line that
is a fence (`codeBelow`).  The main result: the reader gets the code that was printed if and only if no line of the code
is a fence itself (`Document.exists_lines_render_eq`).
-/

namespace PromptMarkup

namespace Text

theorem join_map_ofList (ps : List (List Char)) : join "\n" (ps.map String.ofList) = String.ofList (joinOn '\n' ps) := by
  induction ps with
  | nil => rfl
  | cons p ps ih =>
    cases ps with
    | nil => rfl
    | cons q qs =>
      calc join "\n" ((p :: q :: qs).map String.ofList)
          = String.ofList p ++ "\n" ++ join "\n" ((q :: qs).map String.ofList) := rfl
        _ = String.ofList p ++ "\n" ++ String.ofList (joinOn '\n' (q :: qs)) := by rw [ih]
        _ = String.ofList (joinOn '\n' (p :: q :: qs)) := by simp [joinOn, ← String.toList_inj]

theorem join_lines (s : String) : join "\n" (lines s) = s := by
  rw [lines, parts, join_map_ofList, joinOn_splitOn, String.ofList_toList]

theorem lines_join {ls : List String} (hne : ls ≠ []) (h : ∀ line ∈ ls, OneLine line) : lines (join "\n" ls) = ls := by
  have hls : (ls.map String.toList).map String.ofList = ls := by simp [Function.comp_def]
  have hone : ∀ p ∈ ls.map String.toList, '\n' ∉ p := by simpa [OneLine] using h
  calc lines (join "\n" ls)
      = lines (join "\n" ((ls.map String.toList).map String.ofList)) := by rw [hls]
    _ = (splitOn '\n' (joinOn '\n' (ls.map String.toList))).map String.ofList := by
        rw [join_map_ofList, lines, parts, String.toList_ofList]
    _ = ls := by rw [splitOn_joinOn (by simpa using hne) hone, hls]

theorem oneLine_of_mem_lines {s line : String} (h : line ∈ lines s) : OneLine line := by
  obtain ⟨w, hw, rfl⟩ := List.mem_map.1 h
  simpa [OneLine] using notMem_of_mem_splitOn hw

end Text

/-! ### Reading code -/

/-- What a reader takes for the code below an opening fence: the lines down to the next one that is a fence. -/
def codeBelow (below : List String) : String := Text.join "\n" (below.takeWhile fun line => !isFence line)

/-- The code is read back if nothing in it closes the fence early, and only then. -/
theorem codeBelow_eq_iff (s : String) (after : List String) :
    codeBelow (Text.lines s ++ "```" :: after) = s ↔ ∀ line ∈ Text.lines s, isFence line = false := by
  have hread : codeBelow (Text.lines s ++ "```" :: after) =
      Text.join "\n" ((Text.lines s).takeWhile fun line => !isFence line) := by
    have hclose : isFence "```" = true := by decide
    rw [codeBelow, List.takeWhile_append, List.takeWhile_cons_of_neg (by simp [hclose]), List.append_nil]
    split
    · next hlength => rw [(List.takeWhile_prefix _).eq_of_length hlength]
    · rfl
  have hall : (Text.lines s).takeWhile (fun line => !isFence line) = Text.lines s ↔
      ∀ line ∈ Text.lines s, isFence line = false := by
    simp [List.takeWhile_eq_self_iff]
  rw [hread, ← hall]
  constructor
  · intro h
    by_cases hnone : (Text.lines s).takeWhile (fun line => !isFence line) = []
    · obtain rfl : "" = s := by rw [← h, hnone]; rfl
      decide
    · have hlines := Text.lines_join hnone fun line hl =>
        Text.oneLine_of_mem_lines ((List.takeWhile_sublist _).subset hl)
      rw [← hlines, h]
  · intro h
    rw [h, Text.join_lines]

/-! ### Fenced code of a document -/

/-- The code of a section that is printed between fences. -/
def Section.fencedCode : Section → List CodeBlock
  | rule r => r.goodExample.toList ++ r.badExample.toList
  | workflow w => w.steps.filterMap Step.code
  | _ => []

/-- The code of a document that is printed between fences. -/
def Document.fencedCode (d : Document) : List CodeBlock := d.sections.flatMap Section.fencedCode

/-- The fence with the language tag, the lines of the code and the fence. -/
theorem CodeBlock.lines_fenced {b : CodeBlock} (h : OneLine b.language) :
    Text.lines b.fenced = ("```" ++ b.language) :: (Text.lines (Text.verbatim b.content) ++ ["```"]) := by
  have hcut : b.fenced = "```" ++ b.language ++ "\n" ++ Text.verbatim b.content ++ "\n" ++ "```" := by
    simp [CodeBlock.fenced, ← String.toList_inj]
  have hopen : OneLine ("```" ++ b.language) := .append (by decide) h
  have hclose : Text.lines "```" = ["```"] := Text.lines_of_notMem (by decide)
  rw [hcut, Text.lines_append_newline, Text.lines_append_newline, Text.lines_of_notMem hopen, hclose,
    List.singleton_append, List.cons_append]

/-- Fenced code stands in one of the blocks of its section. -/
theorem Section.exists_block_of_fencedCode {s : Section} {b : CodeBlock} (h : b ∈ s.fencedCode) :
    ∃ block ∈ s.blocks, Text.lines b.fenced <:+: Text.lines block := by
  cases s with
  | rule r =>
    obtain h | h := List.mem_append.1 h
    · refine ⟨"**Good example:**\n\n" ++ b.fenced, ?_, lines_infix_captioned "**Good example:**" b.fenced⟩
      exact List.mem_append_left _ (List.mem_append_right _ (by simpa using ⟨b, by simpa using h, rfl⟩))
    · refine ⟨"**Bad example:**\n\n" ++ b.fenced, ?_, lines_infix_captioned "**Bad example:**" b.fenced⟩
      exact List.mem_append_right _ (by simpa using ⟨b, by simpa using h, rfl⟩)
  | workflow w =>
    obtain ⟨step, hstep, hcode⟩ := List.mem_filterMap.1 h
    have hblock : b.fenced ∈ step.blocks := List.mem_append_right _ (by simp [hcode])
    exact ⟨b.fenced, List.mem_append_right _ (List.mem_flatMap.2 ⟨step, hstep, hblock⟩), List.infix_rfl⟩
  | template | questions | instructions | outputRequirements => cases h

/-- Fenced code whose language tag is on one line: the artifact has its lines, in order, between a line that is the fence
with the tag and a line that is the fence.  A reader who starts below the first one reads the code as it was printed, if
and only if no line of it is a fence. -/
theorem Document.exists_lines_render_eq {d : Document} {b : CodeBlock} (hb : b ∈ d.fencedCode)
    (hl : OneLine b.language) :
    ∃ before after,
      Text.lines d.render =
        before ++ ("```" ++ b.language) :: (Text.lines (Text.verbatim b.content) ++ "```" :: after) ∧
      (codeBelow ((Text.lines d.render).drop (before.length + 1)) = Text.verbatim b.content ↔
        ∀ line ∈ Text.lines (Text.verbatim b.content), isFence line = false) := by
  obtain ⟨s, hs, hb⟩ := List.mem_flatMap.1 hb
  obtain ⟨block, hblock, hin⟩ := s.exists_block_of_fencedCode hb
  obtain ⟨before, after, hlines⟩ := hin.trans (lines_infix_render hs hblock)
  have hartifact : Text.lines d.render =
      before ++ ("```" ++ b.language) :: (Text.lines (Text.verbatim b.content) ++ "```" :: after) := by
    rw [← hlines, CodeBlock.lines_fenced hl]
    simp only [List.append_assoc, List.cons_append, List.nil_append]
  refine ⟨before, after, hartifact, ?_⟩
  have hbelow : (Text.lines d.render).drop (before.length + 1) =
      Text.lines (Text.verbatim b.content) ++ "```" :: after := by
    rw [hartifact, List.drop_append]
    simp
  rw [hbelow, codeBelow_eq_iff]

namespace fencedPrompt

open checkedPrompt (leaf)

/-- A prompt with a workflow of two steps, the first of which has code with a fence in it. -/
def tree : Element :=
  ⟨"prompt", [],
    leaf "metadata" ""
      ++ .ofElement ⟨"header", [], leaf "title" "A prompt"⟩
      ++ .ofElement ⟨"content", [],
        .ofElement ⟨"workflow", [],
          leaf "title" "Release"
            ++ .ofElement ⟨"step", [],
              leaf "title" "Note" ++ .ofElement ⟨"code", [("language", "md")], .text "a\n```\nb"⟩⟩
            ++ .ofElement ⟨"step", [],
              leaf "title" "Build" ++ .ofElement ⟨"code", [("language", "sh")], .text "\nmake  \n"⟩⟩⟩⟩⟩

/-- The document that the tree stands for. -/
def document : Document where
  metadata := {}
  title := "A prompt"
  sections := [
    .workflow {
      title := "Release"
      steps := [{ number := 1, title := "Note", code := some ⟨"md", "a\n```\nb"⟩ },
        { number := 2, title := "Build", code := some ⟨"sh", "\nmake  \n"⟩ }] }]

theorem ofTree_tree : Document.ofTree none tree = .ok document :=
  Except.toOption_eq_some.1 (by decide)

theorem lines_render : Text.lines document.render =
    ["---", "description:", "globs:", "alwaysApply:", "---", "# A prompt", "", "## Release", "", "### Step 1: Note", ""]
      ++ "```md" :: ("a" :: "```" :: "b" :: "```" :: ["", "### Step 2: Build", "", "```sh", "make", "```", ""]) := by
  decide +kernel

end fencedPrompt

open fencedPrompt in
/-- The code of the second step is read back. -/
theorem exists_lines_render_fencedPrompt :
    (⟨"sh", "\nmake  \n"⟩ : CodeBlock) ∈ document.fencedCode ∧ OneLine "sh" ∧
      ∃ before after, Text.lines document.render = before ++ "```sh" :: (["make"] ++ "```" :: after) ∧
        codeBelow ((Text.lines document.render).drop (before.length + 1)) = "make" := by
  have hmem : (⟨"sh", "\nmake  \n"⟩ : CodeBlock) ∈ document.fencedCode := by decide
  have hcode : Text.verbatim "\nmake  \n" = "make" := by decide
  have hlines : Text.lines "make" = ["make"] := by decide
  obtain ⟨before, after, hrender, hread⟩ := Document.exists_lines_render_eq hmem (by decide)
  rw [hcode, hlines] at hrender hread
  exact ⟨hmem, by decide, before, after, hrender, hread.2 (by decide)⟩

open fencedPrompt in
/-- The code of the first step has a line that is a fence, and a reader takes what stands above that line for the
code. -/
theorem exists_isFence_fencedPrompt :
    Document.ofTree none tree = .ok document ∧ (⟨"md", "a\n```\nb"⟩ : CodeBlock) ∈ document.fencedCode ∧
      (∃ line ∈ Text.lines (Text.verbatim "a\n```\nb"), isFence line = true) ∧
      ∃ before after, Text.lines document.render = before ++ "```md" :: ("a" :: "```" :: "b" :: "```" :: after) ∧
        codeBelow ((Text.lines document.render).drop (before.length + 1)) = "a" ∧
        Text.verbatim "a\n```\nb" = "a\n```\nb" := by
  refine ⟨ofTree_tree, by decide, by decide, _, _, lines_render, ?_, by decide⟩
  rw [lines_render]
  decide

end PromptMarkup
