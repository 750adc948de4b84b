import PromptMarkup.Text.Blank
import PromptMarkup.Validation.Field

/-!
# Settings of a build

Where the sources are, where the artifacts go and how they are named.  Settings are validated from a mapping, in which
every field has a default.
-/

namespace PromptMarkup

/-- The settings of a build.  Without a number of workers there is one for each processor, and without an inventory
every source is compiled. -/
structure BuildSettings where
  sourceDirectory : Path
  outputDirectory : Path
  extension : String
  workers : Option Nat
  inventory : Option (List String)
  deriving DecidableEq, Repr

namespace BuildSettings

open Checked

def defaultSourceDirectory : String := "prompts"

def defaultOutputDirectory : String := "build/prompts"

def defaultExtension : String := ".md"

/-- An extension without blanks around it. -/
def trimmedExtension (v : Value) : Checked String :=
  unlessRefused v (fun s => if s = "" then some "output_extension cannot be empty" else none)
    (Checked.map Text.trim (string v))

/-- An extension with a dot in front. -/
def dotted (s : String) : String := if s.toList.head? = some '.' then s else "." ++ s

def extensionField (v : Value) : Checked String := dotted <$> trimmedExtension v

/-- A number of workers that is not below one. -/
def workersField (v : Value) : Checked Nat :=
  Checked.map Int.toNat
    (unlessRefused v (fun n => if n < 1 then some "workers must be at least 1" else none) (integer v))

/-- The names of the fields. -/
def fields : List String :=
  ["source_dir", "output_dir", "output_extension", "workers", "inventory"]

/-- Settings given as a mapping. -/
def ofValue : Value → Checked BuildSettings :=
  model "BuildSettings" fields fun es =>
    BuildSettings.mk
      <$> optional es "source_dir" (Path.ofString defaultSourceDirectory) path
      <*> optional es "output_dir" (Path.ofString defaultOutputDirectory) path
      <*> optional es "output_extension" defaultExtension extensionField
      <*> optional es "workers" none (nullable workersField)
      <*> optional es "inventory" none (nullable (list string))

/-- The same settings with directories seen from a project's root. -/
def inProject (root : Path) (s : BuildSettings) : BuildSettings :=
  { s with
    sourceDirectory := root.append s.sourceDirectory
    outputDirectory := root.append s.outputDirectory }

/-- A configuration with those overrides stored in it that are not null. -/
def override (config overrides : List (Value × Value)) : List (Value × Value) :=
  overrides.foldl
    (fun es e =>
      match e.2 with
      | .null => es
      | v => Value.insert es e.1 v)
    config

/-- The settings of a project, from its configuration and what overrides it. -/
def ofConfig (config overrides : List (Value × Value)) (root : Path) : Checked BuildSettings :=
  inProject root <$> ofValue (.map (override config overrides))

end BuildSettings

end PromptMarkup
