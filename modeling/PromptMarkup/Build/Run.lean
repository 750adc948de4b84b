import PromptMarkup.Build.Artifact
import PromptMarkup.Build.Report
import PromptMarkup.Build.Source
import PromptMarkup.Compile
import PromptMarkup.Settings.Basic

/-!
# Running a build

Every source is compiled and its artifact written.  A failure is recorded in the result of its own source and
does not keep the others from being built.
-/

namespace PromptMarkup

/-- The name of a source's artifact. -/
def artifactName (settings : BuildSettings) (source : Path) : String :=
  source.stem ++ settings.extension

/-- The result of a source that failed. -/
def DocumentResult.failed (source : Path) (e : Failure) : DocumentResult :=
  { source, ok := false, error := some e.text, errorClass := some e.className, chain := e.chain }

/-- Writes the artifact of a source that has been compiled. -/
def storeArtifact (settings : BuildSettings) (source : Path) (compiled : Except Failure String)
    (fs : FileSystem) : FileSystem × DocumentResult :=
  match compiled with
  | .error e => (fs, .failed source e)
  | .ok content =>
    match writeArtifact fs settings.outputDirectory (artifactName settings source) (Text.codePoints content) with
    | (fs, .ok output) => (fs, { source, output := some output, ok := true })
    | (fs, .error e) => (fs, .failed source e)

/-- Compiles one source and writes its artifact. -/
def buildOne (settings : BuildSettings) (source : Path) (fs : FileSystem) :
    FileSystem × DocumentResult :=
  storeArtifact settings source (transform fs source) fs

/-- Builds sources one after another. -/
def buildAll (settings : BuildSettings) : List Path → FileSystem → FileSystem × List DocumentResult
  | [], fs => (fs, [])
  | source :: rest, fs =>
    let (fs, result) := buildOne settings source fs
    let (fs, results) := buildAll settings rest fs
    (fs, result :: results)

/-- The report of results, which are put in the order of their sources' texts. -/
def BuildReport.ofResults (results : List DocumentResult) : BuildReport :=
  ⟨results.mergeSort fun r s => r.source.text ≤ s.source.text⟩

/-- The names that a build is limited to: those asked for, else the inventory. -/
def selectedNames (settings : BuildSettings) (only : List String) : Option (List String) :=
  if only.isEmpty then settings.inventory else some only

/-- Builds the sources that are selected. -/
def build (settings : BuildSettings) (only : List String) (fs : FileSystem) :
    FileSystem × Except Failure BuildReport :=
  match discoverSources fs settings.sourceDirectory (selectedNames settings only) with
  | .error e => (fs, .error e)
  | .ok sources =>
    let (fs, results) := buildAll settings sources fs
    (fs, .ok (.ofResults results))

end PromptMarkup
