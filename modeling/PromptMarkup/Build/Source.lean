import PromptMarkup.Fault
import PromptMarkup.Files.System

/-!
# Sources of a build

A build compiles the sources directly in a directory, or those that a list of names asks for, whether they are there
or not.  Fragments lie in directories below and are not sources.
-/

namespace PromptMarkup

/-- How the names of sources end. -/
def sourceEnding : String := ".xml"

def isSourceName (name : String) : Bool := sourceEnding.toList.isSuffixOf name.toList

/-- The file name of a source that is asked for, with or without its ending. -/
def sourceName (name : String) : String := if isSourceName name then name else name ++ sourceEnding

/-- The sources with the given names, each of them once. -/
def namedSources (directory : Path) (names : List String) : List Path :=
  (names.map fun name => directory.child (sourceName name)).eraseDups

/-- The files of a directory that have the name of a source. -/
def presentSources (fs : FileSystem) (directory : Path) : Except Failure (List Path) :=
  match fs.isDirectory directory with
  | .error f => .error (.files f)
  | .ok false => .error (.noDirectory "Source directory" directory)
  | .ok true =>
    let names := ((fs.directory? directory).map fs.namesIn).getD []
    let paths := (names.filter isSourceName).map fun name =>
      (⟨directory.anchor, directory.parts ++ [name]⟩ : Path)
    match paths.filterM fs.isFile with
    | .ok ps => .ok ps
    | .error f => .error (.files f)

/-- The sources to compile, in order. -/
def discoverSources (fs : FileSystem) (directory : Path) (names : Option (List String)) :
    Except Failure (List Path) :=
  match names with
  | some names => .ok (Path.sort (namedSources directory names))
  | none => Path.sort <$> presentSources fs directory

end PromptMarkup
