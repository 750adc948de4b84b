import PromptMarkup.Fault
import PromptMarkup.Files.System
import PromptMarkup.Markdown.Check

/-!
# Checking files and directories

The artifacts of a directory are the Markdown files in it and below it; links to directories are not followed.
-/

namespace PromptMarkup

/-- The suffixes of Markdown files. -/
def markdownSuffixes : List String := [".md", ".mdc"]

/-- Whether a path has the suffix of a Markdown file, in whatever case. -/
def isMarkdown (p : Path) : Bool := markdownSuffixes.contains (p.suffix.map Char.toLower)

/-- The issues of a file.  A file that cannot be read is an issue of its own. -/
def checkFile (fs : FileSystem) (p : Path) : Except Failure (List Issue) :=
  match fs.read p with
  | .error (.refused why path) =>
    .ok [⟨0, .unreadable (Files.Fault.message (.refused why path))⟩]
  | .error f => .error (.files f)
  | .ok bs =>
    match Encoding.Utf8.decode bs with
    | .ok s => .ok (checkText (Text.withLineFeeds s))
    | .error f => .ok [⟨0, .unreadable (f.text "utf-8")⟩]

/-- The paths of a directory's Markdown files, in order. -/
def markdownFiles (fs : FileSystem) (directory : Path) : Except Failure (List Path) :=
  let inside : List Path := match fs.directory? directory with
    | some l => (fs.below l).map fun names => ⟨directory.anchor, directory.parts ++ names⟩
    | none => []
  match fs.isDirectory directory with
  | .error f => .error (.files f)
  | .ok false => .error (.noDirectory "Directory" directory)
  | .ok true =>
    match inside.filterM fun p => do return (← fs.isFile p) && isMarkdown p with
    | .ok ps => .ok (Path.sort ps)
    | .error f => .error (.files f)

/-- The Markdown files of a directory, each with its issues. -/
def checkDirectory (fs : FileSystem) (directory : Path) :
    Except Failure (List (Path × List Issue)) := do
  (← markdownFiles fs directory).mapM fun p => do return (p, ← checkFile fs p)

end PromptMarkup
