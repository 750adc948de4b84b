import PromptMarkup.Proofs.Markdown.Blocks

/-!
# Blocks of a document and of its sections

A section is printed as blocks with a blank line between neighbours (`Section.render_eq`), and so is the whole document.
What stands in a block stands in the text that is made of the blocks, line by line (`lines_infix_blocks`), and the text
can be cut between any two of its blocks (`blocks_append`).
-/

namespace PromptMarkup

section

variable {xs ys : List String}

theorem Text.join_append (separator : String) (hx : xs ≠ []) (hy : ys ≠ []) :
    Text.join separator (xs ++ ys) = Text.join separator xs ++ separator ++ Text.join separator ys := by
  induction xs with
  | nil => exact absurd rfl hx
  | cons x xs ih =>
    cases xs with
    | nil =>
      obtain ⟨y, ys, rfl⟩ := List.exists_cons_of_ne_nil hy
      rfl
    | cons z zs =>
      calc Text.join separator (x :: z :: zs ++ ys)
          = x ++ separator ++ Text.join separator (z :: zs ++ ys) := rfl
        _ = x ++ separator ++ (Text.join separator (z :: zs) ++ separator ++ Text.join separator ys) := by
          rw [ih (by simp)]
        _ = x ++ separator ++ Text.join separator (z :: zs) ++ separator ++ Text.join separator ys := by
          simp only [String.append_assoc]
        _ = Text.join separator (x :: z :: zs) ++ separator ++ Text.join separator ys := rfl

theorem blocks_append (hx : xs ≠ []) (hy : ys ≠ []) : blocks (xs ++ ys) = blocks xs ++ "\n\n" ++ blocks ys :=
  Text.join_append "\n\n" hx hy

theorem lines_infix_blocks {b : String} (h : b ∈ xs) : Text.lines b <:+: Text.lines (blocks xs) := by
  induction xs with
  | nil => cases h
  | cons x xs ih =>
    cases xs with
    | nil =>
      obtain rfl := List.mem_singleton.1 h
      exact List.infix_rfl
    | cons z zs =>
      have hcut : Text.lines (blocks (x :: z :: zs)) = Text.lines x ++ "" :: Text.lines (blocks (z :: zs)) :=
        lines_append_blank x (blocks (z :: zs))
      rw [hcut]
      obtain rfl | h := List.mem_cons.1 h
      · exact (List.prefix_append _ _).isInfix
      · exact (ih h).trans ((List.suffix_cons _ _).trans (List.suffix_append _ _)).isInfix

end

theorem lines_infix_captioned (caption b : String) : Text.lines b <:+: Text.lines (caption ++ "\n\n" ++ b) := by
  rw [lines_append_blank]
  exact ((List.suffix_cons _ _).trans (List.suffix_append _ _)).isInfix

theorem lines_prefix_append_newline (s : String) : Text.lines s <+: Text.lines (s ++ "\n") := by
  rw [lines_append_final]
  exact List.prefix_append _ _

/-! ### Sections -/

def Rule.blocks (r : Rule) : List String :=
  ["## " ++ r.label, "Title: " ++ r.subtitle ++ "\nDescription: " ++ r.description]
    ++ (if r.notes.isEmpty then []
        else ["**Notes:**\n\n" ++ bullets (r.notes.map fun n => "**" ++ n.term ++ "**: " ++ n.description)])
    ++ (r.goodExample.map fun b => "**Good example:**\n\n" ++ b.fenced).toList
    ++ (r.badExample.map fun b => "**Bad example:**\n\n" ++ b.fenced).toList

def Template.blocks (t : Template) : List String :=
  [heading t.title "", t.description] ++ optionalBlock (Text.verbatim t.body.content)

def Questions.blocks (q : Questions) : List String :=
  [heading q.title q.subtitle] ++ optionalBlock q.description
    ++ (if q.options.isEmpty then [] else [bullets (q.options.map Choice.line)])

def Workflow.blocks (w : Workflow) : List String :=
  [heading w.title w.subtitle] ++ optionalBlock w.description ++ w.steps.flatMap Step.blocks

def Guidance.blocks (g : Guidance) : List String :=
  [heading g.title ""] ++
    match g.restrictions with
    | some r => optionalBlock g.description ++ [r.render] ++ (if g.rules.isEmpty then [] else [bullets g.rules])
    | none => optionalBlock (listBlock g.description g.rules)

namespace Section

/-- The blocks that a section is printed as. -/
def blocks : Section → List String
  | rule r => r.blocks
  | template t => t.blocks
  | questions q => q.blocks
  | workflow w => w.blocks
  | instructions g => g.blocks
  | outputRequirements g => g.blocks

theorem render_eq (s : Section) : s.render = PromptMarkup.blocks s.blocks := by
  cases s <;> rfl

theorem blocks_ne_nil (s : Section) : s.blocks ≠ [] := by
  cases s <;> exact List.cons_ne_nil _ _

end Section

namespace Document

theorem render_mem_artifactBlocks {d : Document} {s : Section} (h : s ∈ d.sections) : s.render ∈ d.artifactBlocks :=
  List.mem_append_right _ (List.mem_map_of_mem h)

/-- What stands in a block of a section stands in the artifact. -/
theorem lines_infix_render {d : Document} {s : Section} {b : String} (hs : s ∈ d.sections) (hb : b ∈ s.blocks) :
    Text.lines b <:+: Text.lines d.render := by
  have hblock : Text.lines b <:+: Text.lines s.render := s.render_eq ▸ lines_infix_blocks hb
  have hsection := lines_infix_blocks (render_mem_artifactBlocks hs)
  exact hblock.trans (hsection.trans (lines_prefix_append_newline _).isInfix)

end Document

end PromptMarkup
