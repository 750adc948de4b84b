import PromptMarkup.Files.System
import PromptMarkup.Settings.Basic
import PromptMarkup.Value.Merge
import PromptMarkup.Yaml.Value

/-!
# Configuration files

A configuration has three layers: the defaults, the user's file and the project's file, each laid over the one before.
A file that is missing or empty is an empty layer.  Laying one over the other fails if it never ends.
-/

namespace PromptMarkup

/-- Why there is no configuration. -/
inductive ConfigCause where
  | unreadable
  | malformed
  | notMapping
  /-- Two layers hold mappings in each other without end. -/
  | endless
  /-- A reason given in words. -/
  | stated (message : String)
  deriving DecidableEq, Repr

def ConfigCause.message : ConfigCause → String
  | unreadable => "Failed to read config file"
  | malformed => "Malformed YAML"
  | notMapping => "YAML root must be a mapping"
  | endless => "maximum recursion depth exceeded"
  | stated message => message

/-- A cause with the file it is about. -/
structure ConfigFault where
  cause : ConfigCause
  path : Option Path := none
  deriving DecidableEq, Repr

namespace ConfigFault

/-- The class that a report gives the fault. -/
def className (f : ConfigFault) : String :=
  match f.cause with
  | .endless => "RecursionError"
  | _ => "ConfigLoadError"

def text (f : ConfigFault) : String :=
  match f.path with
  | none => f.cause.message
  | some p => f.cause.message ++ ": " ++ p.text

end ConfigFault

/-- The entries of a configuration. -/
abbrev Config := List (Value × Value)

namespace Config

/-- The file that configures what lies in a directory. -/
def fileIn (directory : Path) : Path := (directory.child ".pml").child "config.yml"

/-- The lowest layer.  Nothing is said about workers and inventory. -/
def defaults : Config :=
  [(.str "source_dir", .str BuildSettings.defaultSourceDirectory),
    (.str "output_dir", .str BuildSettings.defaultOutputDirectory),
    (.str "output_extension", .str BuildSettings.defaultExtension),
    (.str "workers", .null), (.str "inventory", .null)]

/-- The configuration that a text holds. -/
def ofText (text : String) : Except ConfigCause Config :=
  match (Yaml.valueOf? text).map Value.opened with
  | none => .error .malformed
  | some .null => .ok []
  | some (.map entries) => .ok entries
  | some _ => .error .notMapping

/-- The configuration in a file. -/
def ofFile (fs : FileSystem) (path : Path) : Except ConfigFault Config :=
  match fs.read path with
  | .error (.refused .notFound _) => .ok []
  | .error _ => .error ⟨.unreadable, some path⟩
  | .ok bs =>
    match Encoding.Utf8.decode bs with
    | .error _ => .error ⟨.unreadable, some path⟩
    | .ok s =>
      match ofText (Text.withLineFeeds s) with
      | .error cause => .error ⟨cause, some path⟩
      | .ok config => .ok config

/-- One layer over another. -/
def merge (base top : Config) : Except ConfigFault Config :=
  match Value.mergeEntries? base top with
  | none => .error ⟨.endless, none⟩
  | some config => .ok config

/-- The layers merged: the project's file over the user's file over the defaults. -/
def load (fs : FileSystem) (project user : Path) : Except ConfigFault Config := do
  let below ← merge defaults (← ofFile fs (fileIn user))
  merge below (← ofFile fs (fileIn project))

end Config

end PromptMarkup
