/-!
# Prompt documents

What a prompt consists of: metadata, a header, an optional table of contents and content sections of six
kinds.  Strings are leaf text, except for code, which is kept as it was written.
-/

namespace PromptMarkup

/-- Code with an optional language tag. -/
structure CodeBlock where
  language : String := ""
  content : String
  deriving DecidableEq, Repr

/-- A term that a rule explains. -/
structure Note where
  term : String
  description : String
  deriving DecidableEq, Repr

/-- A numbered guideline. -/
structure Rule where
  number : Int
  title : String
  subtitle : String
  description : String
  notes : List Note := []
  goodExample : Option CodeBlock := none
  badExample : Option CodeBlock := none
  deriving DecidableEq, Repr

/-- A text that is printed as it was written. -/
structure Template where
  title : String
  description : String
  body : CodeBlock
  deriving DecidableEq, Repr

/-- An answer that a question offers. -/
structure Choice where
  text : String
  description : String := ""
  deriving DecidableEq, Repr

/-- A question with the answers it offers. -/
structure Questions where
  title : String
  subtitle : String := ""
  description : String := ""
  options : List Choice := []
  deriving DecidableEq, Repr

/-- One step of a workflow. -/
structure Step where
  number : Int
  title : String
  description : String := ""
  code : Option CodeBlock := none
  deriving DecidableEq, Repr

/-- Steps to be taken in order. -/
structure Workflow where
  title : String
  subtitle : String := ""
  description : String := ""
  steps : List Step := []
  deriving DecidableEq, Repr

/-- What instructions must not do. -/
structure Restrictions where
  description : String := ""
  items : List String := []
  deriving DecidableEq, Repr

/-- A titled list of rules in words, with optional restrictions. -/
structure Guidance where
  title : String
  description : String := ""
  restrictions : Option Restrictions := none
  rules : List String := []
  deriving DecidableEq, Repr

/-- A content section. -/
inductive Section where
  | rule (r : Rule)
  | template (t : Template)
  | questions (q : Questions)
  | workflow (w : Workflow)
  | instructions (g : Guidance)
  | outputRequirements (g : Guidance)
  deriving DecidableEq, Repr

/-- The values of the frontmatter. -/
structure Metadata where
  description : String := ""
  globs : String := ""
  alwaysApply : String := ""
  deriving DecidableEq, Repr

/-- A table of contents: made from the rules, or a list of entries. -/
structure TableOfContents where
  auto : Bool := false
  entries : List String := []
  deriving DecidableEq, Repr

/-- A prompt document. -/
structure Document where
  metadata : Metadata
  title : String
  role : String := ""
  description : String := ""
  toc : Option TableOfContents := none
  sections : List Section := []
  deriving DecidableEq, Repr

namespace Section

/-- The rule that a section is, if it is one. -/
def rule? : Section → Option Rule
  | rule r => some r
  | _ => none

end Section

namespace Document

/-- The rules of a document, in order. -/
def rules (d : Document) : List Rule := d.sections.filterMap Section.rule?

/-- The first number that repeats an earlier one. -/
def firstRepeated : List Int → List Int → Option Int
  | _, [] => none
  | seen, n :: r => if n ∈ seen then some n else firstRepeated (n :: seen) r

/-- The first rule number that an earlier rule has too. -/
def repeatedNumber? (d : Document) : Option Int :=
  firstRepeated [] (d.rules.map Rule.number)

end Document

end PromptMarkup
