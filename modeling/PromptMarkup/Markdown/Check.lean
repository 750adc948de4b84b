import PromptMarkup.Markdown.Render

/-!
# Structural checks of Markdown

A line-based check of an artifact: the frontmatter opens it with its three keys, a title follows, headings have a
blank line above them, fences are closed, and the text ends with exactly one newline.
-/

namespace PromptMarkup

/-- A structural fault of an artifact. -/
inductive Flaw where
  | noFinalNewline
  | finalBlankLine
  | noFrontmatter
  | unclosedFrontmatter
  | frontmatterKeys
  | crowdedHeading (line : String)
  | unclosedFence
  | noTitle
  | unreadable (reason : String)
  deriving DecidableEq, Repr

/-- The keys of the frontmatter, in order. -/
def frontmatterKeys : List String := ["description", "globs", "alwaysApply"]

def Flaw.message : Flaw → String
  | noFinalNewline => "File must end with a newline"
  | finalBlankLine => "File must not end with a blank line"
  | noFrontmatter => "File must start with a frontmatter block ('---')"
  | unclosedFrontmatter => "Frontmatter block is never closed"
  | frontmatterKeys => "Frontmatter keys must be description, globs, alwaysApply in this order"
  | crowdedHeading line => "Heading '" ++ line ++ "' must be preceded by a blank line"
  | unclosedFence => "Code fence is never closed"
  | noTitle => "Missing main title (# heading)"
  | unreadable reason => "Failed to read file: " ++ reason

/-- A flaw with the line it stands on, counted from 1; 0 is for the text as a whole. -/
structure Issue where
  line : Nat
  flaw : Flaw
  deriving DecidableEq, Repr

/-- Whether a line begins with the given text. -/
def beginsWith (start line : String) : Bool := start.toList.isPrefixOf line.toList

/-- Whether a line opens or closes a code block. -/
def isFence (line : String) : Bool := beginsWith "```" line

/-- Whether a line is a heading of the second or third level. -/
def isHeading (line : String) : Bool := beginsWith "## " line || beginsWith "### " line

/-- Whether a line is a title. -/
def isTitle (line : String) : Bool := beginsWith "# " line

/-- Whether a heading may stand below this line. -/
def allowsHeadingBelow (line : String) : Bool :=
  Text.trim line == "" || line == frontmatterDelimiter

/-- What the walk over the body lines has found. -/
structure BodyScan where
  /-- The line of the fence that is open, if one is. -/
  openFence : Option Nat := none
  hasTitle : Bool := false
  issues : List Issue := []
  deriving DecidableEq, Repr

namespace BodyScan

/-- One more line, with the line above it and its number. -/
def step (b : BodyScan) (previous : Option String) (number : Nat) (line : String) : BodyScan :=
  if isFence line then
    match b.openFence with
    | some _ => { b with openFence := none }
    | none => { b with openFence := some number }
  else if b.openFence.isSome then b
  else if isTitle line then { b with hasTitle := true }
  else if isHeading line && !((previous.map allowsHeadingBelow).getD true) then
    { b with issues := b.issues ++ [⟨number, .crowdedHeading line⟩] }
  else b

/-- The walk over the lines from the given number on. -/
def run (b : BodyScan) (previous : Option String) (number : Nat) : List String → BodyScan
  | [] => b
  | line :: r => run (b.step previous number line) (some line) (number + 1) r

/-- All that is wrong with the body. -/
def report (b : BodyScan) : List Issue :=
  b.issues ++ (b.openFence.map fun n => Issue.mk n .unclosedFence).toList
  ++ (if b.hasTitle then [] else [⟨0, .noTitle⟩])

end BodyScan

/-- What is wrong with the end of a text. -/
def endIssues (content : List Char) : List Issue :=
  match content.reverse with
  | '\n' :: '\n' :: _ => [⟨0, .finalBlankLine⟩]
  | '\n' :: _ => []
  | _ => [⟨0, .noFinalNewline⟩]

/-- The part of a line before its first colon. -/
def frontmatterKey (line : String) : String :=
  String.ofList (line.toList.takeWhile (· != ':'))

/-- The frontmatter's issues, and the number of lines that it takes up. -/
def checkFrontmatter (lines : List String) : List Issue × Nat :=
  match lines with
  | first :: rest =>
    if first = frontmatterDelimiter then
      let inner := rest.takeWhile (· != frontmatterDelimiter)
      if inner.length = rest.length then ([⟨1, .unclosedFrontmatter⟩], lines.length)
      else
        (if inner.map frontmatterKey = frontmatterKeys then [] else [⟨2, .frontmatterKeys⟩],
          inner.length + 2)
    else ([⟨1, .noFrontmatter⟩], 0)
  | [] => ([⟨1, .noFrontmatter⟩], 0)

/-- All issues of an artifact's text. -/
def checkText (content : String) : List Issue :=
  let lines := Text.lines content
  let (issues, start) := checkFrontmatter lines
  let previous := if start = 0 then none else lines[start - 1]?
  let body := ({} : BodyScan).run previous (start + 1) (lines.drop start)
  endIssues content.toList ++ issues ++ body.report

end PromptMarkup
