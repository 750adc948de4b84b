import PromptMarkup.Document.Basic
import PromptMarkup.Text.Lines
import PromptMarkup.Text.Verbatim

/-!
# Markdown of a document

Each section is printed as one fragment without a newline at its end.  An artifact is a list of blocks with a
blank line between neighbours and one newline at the end.
-/

namespace PromptMarkup

/-- Blocks with one blank line between neighbours. -/
def blocks (bs : List String) : String := Text.join "\n\n" bs

/-- One line per item, each with a bullet. -/
def bullets (items : List String) : String :=
  Text.join "\n" (items.map ("- " ++ ·))

/-- A heading, with a subtitle when there is one. -/
def heading (title subtitle : String) : String :=
  if subtitle = "" then "## " ++ title else "## " ++ title ++ ": " ++ subtitle

/-- A block, unless it is empty. -/
def optionalBlock (s : String) : List String := if s = "" then [] else [s]

/-- Code between fences. -/
def CodeBlock.fenced (b : CodeBlock) : String :=
  "```" ++ b.language ++ "\n" ++ Text.verbatim b.content ++ "\n```"

/-- A description with a list below it.  A description that ends with a colon stands directly above the list. -/
def listBlock (description : String) (items : List String) : String :=
  let list := bullets items
  if description = "" then list
  else if list = "" then description
  else if description.toList.getLast? = some ':' then description ++ "\n" ++ list
  else description ++ "\n\n" ++ list

namespace Rule

/-- A rule's number and title, as its heading shows them. -/
def label (r : Rule) : String := "Rule " ++ toString r.number ++ ": " ++ r.title

/-- A rule's line in the table of contents. -/
def entry (r : Rule) : String := "- Rule " ++ toString r.number ++ ": " ++ r.title

def render (r : Rule) : String :=
  blocks <|
    ["## " ++ r.label, "Title: " ++ r.subtitle ++ "\nDescription: " ++ r.description]
    ++ (if r.notes.isEmpty then []
        else ["**Notes:**\n\n" ++
          bullets (r.notes.map fun n => "**" ++ n.term ++ "**: " ++ n.description)])
    ++ (r.goodExample.map fun b => "**Good example:**\n\n" ++ b.fenced).toList
    ++ (r.badExample.map fun b => "**Bad example:**\n\n" ++ b.fenced).toList

end Rule

def Template.render (t : Template) : String :=
  blocks ([heading t.title "", t.description] ++ optionalBlock (Text.verbatim t.body.content))

/-- An offered answer, with its description when there is one. -/
def Choice.line (c : Choice) : String :=
  if c.description = "" then c.text else c.text ++ ": " ++ c.description

def Questions.render (q : Questions) : String :=
  blocks <|
    [heading q.title q.subtitle] ++ optionalBlock q.description
    ++ (if q.options.isEmpty then [] else [bullets (q.options.map Choice.line)])

/-- The blocks of one step. -/
def Step.blocks (s : Step) : List String :=
  ["### Step " ++ toString s.number ++ ": " ++ s.title] ++ optionalBlock s.description
  ++ (s.code.map CodeBlock.fenced).toList

def Workflow.render (w : Workflow) : String :=
  blocks <|
    [heading w.title w.subtitle] ++ optionalBlock w.description ++ w.steps.flatMap Step.blocks

/-- The heading of restrictions. -/
def restrictionsHeading : String := "### Restrictions"

def Restrictions.render (r : Restrictions) : String :=
  let body := listBlock r.description r.items
  if body = "" then restrictionsHeading else restrictionsHeading ++ "\n\n" ++ body

/-- Instructions: restrictions, when there are some, stand between the description and the rules. -/
def Guidance.render (g : Guidance) : String :=
  blocks <|
    [heading g.title ""] ++
      match g.restrictions with
      | some r =>
        optionalBlock g.description ++ [r.render]
        ++ (if g.rules.isEmpty then [] else [bullets g.rules])
      | none => optionalBlock (listBlock g.description g.rules)

/-- The fragment of a section. -/
def Section.render : Section → String
  | .rule r => r.render
  | .template t => t.render
  | .questions q => q.render
  | .workflow w => w.render
  | .instructions g => g.render
  | .outputRequirements g => g.render

/-- The line above and below the frontmatter. -/
def frontmatterDelimiter : String := "---"

/-- A line of the frontmatter; an empty value leaves no space behind the colon. -/
def frontmatterLine (key value : String) : String :=
  if value = "" then key ++ ":" else key ++ ": " ++ value

def Metadata.render (m : Metadata) : String :=
  Text.join "\n"
    [frontmatterDelimiter, frontmatterLine "description" m.description,
      frontmatterLine "globs" m.globs, frontmatterLine "alwaysApply" m.alwaysApply,
      frontmatterDelimiter]

/-- The heading of the table of contents. -/
def tocHeading : String := "## Table of contents"

namespace Document

/-- The table of contents, empty when none is asked for. -/
def renderToc (d : Document) : String :=
  match d.toc with
  | none => ""
  | some t =>
    if t.auto then
      if d.rules.isEmpty then tocHeading
      else tocHeading ++ "\n\n" ++ Text.join "\n" (d.rules.map Rule.entry)
    else if t.entries.isEmpty then ""
    else tocHeading ++ "\n\n" ++ bullets t.entries

/-- The blocks of the artifact, from the frontmatter to the last section. -/
def artifactBlocks (d : Document) : List String :=
  [d.metadata.render ++ "\n# " ++ d.title]
  ++ (if d.role = "" then [] else ["## Role\n\n" ++ d.role])
  ++ optionalBlock d.description
  ++ optionalBlock d.renderToc
  ++ d.sections.map Section.render

/-- The Markdown artifact of a document. -/
def render (d : Document) : String := blocks d.artifactBlocks ++ "\n"

end Document

end PromptMarkup
