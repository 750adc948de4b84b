import PromptMarkup.Build.Run
import PromptMarkup.CommandLine.Answer
import PromptMarkup.Markdown.Directory
import PromptMarkup.Settings.Config
import PromptMarkup.Validation.Summary

/-!
# Running commands

The project of a command is the current directory.  A command leaves a file system behind and has an answer; how the
answer is printed does not matter for what the command does.  The output is not read by a terminal.
-/

namespace PromptMarkup.CommandLine

/-- The directory of the project. -/
def projectRoot (fs : FileSystem) : Path := Path.absolute fs.current

/-- The settings of the project with what overrides them, or why there are none. -/
def loadSettings (fs : FileSystem) (home : Path) (overrides : Config) :
    Except String BuildSettings :=
  match Config.load fs (projectRoot fs) home with
  | .error f => .error f.text
  | .ok config =>
    match BuildSettings.ofConfig config overrides (projectRoot fs) with
    | .valid settings => .ok settings
    | .invalid vs => .error (violationsText "BuildSettings" vs)

/-- What the arguments of a build override. -/
def buildOverrides (source output : Option Path) (workers : Option Int) (extension : Option String) :
    Config :=
  let entry {α : Type} (name : String) (f : α → Value) (x : Option α) : Value × Value :=
    (.str name, (x.map f).getD .null)
  [entry "source_dir" (fun p : Path => .str p.text) source,
    entry "output_dir" (fun p : Path => .str p.text) output,
    entry "workers" .int workers, entry "output_extension" .str extension]

def runBuild (fs : FileSystem) (home : Path) (overrides : Config) (only : List String) :
    FileSystem × Answer :=
  match loadSettings fs home overrides with
  | .error e => (fs, .buildFailed e)
  | .ok settings =>
    match build settings only fs with
    | (fs, .ok report) => (fs, .built settings.outputDirectory report)
    | (fs, .error e) => (fs, .buildFailed e.text)

def runRender (fs : FileSystem) (source : Path) (output : Option Path) : FileSystem × Answer :=
  match transform fs source with
  | .error e => (fs, .renderFailed source e.text e.chain)
  | .ok content =>
    match output with
    | none => (fs, .rendered source none content)
    | some path =>
      match writeArtifact fs path.parent path.name (Text.codePoints content) with
      | (fs, .ok written) => (fs, .rendered source (some written) content)
      | (fs, .error e) => (fs, .renderFailed source e.text e.chain)

/-- The directory to check: the one that is given, else where the project's artifacts go. -/
def checkedDirectory (fs : FileSystem) (home : Path) (directory : Option Path) : Except String Path :=
  match directory with
  | some d => .ok d
  | none => (loadSettings fs home []).map BuildSettings.outputDirectory

def runCheck (fs : FileSystem) (home : Path) (directory : Option Path) : Answer :=
  match checkedDirectory fs home directory with
  | .error e => .checkFailed e
  | .ok d =>
    match checkDirectory fs d with
    | .ok files => .checked files
    | .error e => .checkFailed e.text

/-- Runs a command; the user's configuration is below `home`. -/
def Command.run (fs : FileSystem) (home : Path) : Command → FileSystem × Answer
  | build source output workers extension only =>
    runBuild fs home (buildOverrides source output workers extension) only
  | render source output => runRender fs source output
  | check directory => (fs, runCheck fs home directory)

/-- Runs the program on its arguments. -/
def run (fs : FileSystem) (home : Path) (arguments : List String) : FileSystem × Output :=
  match Invocation.ofArguments arguments with
  | .error notice => (fs, notice.output.withoutControls)
  | .ok i =>
    let (fs, answer) := i.command.run fs home
    (fs, (answer.output i.json).withoutControls)

end PromptMarkup.CommandLine
