import PromptMarkup.CommandLine.Form
import PromptMarkup.Files.Path
import PromptMarkup.Text.Integer

/-!
# The commands

`build` compiles the sources of a directory, `render` compiles one source, and `check` looks for flaws in artifacts.
-/

namespace PromptMarkup.CommandLine

/-- A command with its arguments. -/
inductive Command where
  | build (source output : Option Path) (workers : Option Int) (extension : Option String)
    (only : List String)
  | render (source : Path) (output : Option Path)
  | check (directory : Option Path)
  deriving DecidableEq, Repr

/-- A command, and whether it answers in JSON. -/
structure Invocation where
  json : Bool
  command : Command
  deriving DecidableEq, Repr

/-- What is printed in place of an answer. -/
inductive Notice where
  | help (form : CommandForm)
  /-- Nothing was written behind the name of the program. -/
  | noArguments (form : CommandForm)
  | problem (form : CommandForm) (p : UsageProblem)
  deriving Repr

/-! ### Forms -/

def program : CommandForm :=
  { path := "pmlc"
    help := "PML compiler: turns XML prompt definitions into Markdown instructions."
    options := [
      { names := ["--json"], help := "Emit machine-readable JSON on stdout." },
      { names := ["--verbose", "-v"], help := "Log debug details to stderr." }]
    subcommands := ["build", "check", "render"] }

def buildForm : CommandForm :=
  { path := "pmlc build"
    options := [
      { names := ["--workers"], value := some "INTEGER",
        help := "Worker count (default: config, then CPU count)." },
      { names := ["--extension"], value := some "TEXT",
        help := "Output file extension, e.g. .md or .mdc." },
      { names := ["--only"], value := some "TEXT", help := "Base name to compile (repeatable)." }]
    arguments := [{ name := "SOURCE_DIR" }, { name := "OUTPUT_DIR" }] }

def renderForm : CommandForm :=
  { path := "pmlc render"
    options := [
      { names := ["--output", "-o"], value := some "PATH",
        help := "Write to FILE instead of stdout." }]
    arguments := [{ name := "SOURCE", required := true }] }

def checkForm : CommandForm :=
  { path := "pmlc check"
    arguments := [{ name := "DIRECTORY" }] }

/-! ### Reading -/

/-- The arguments of a command, unless they ask for its help. -/
def given (form : CommandForm) (arguments : List String) :
    Except Notice CommandForm.Given :=
  match form.read arguments with
  | .error p => .error (.problem form p)
  | .ok g => if g.has helpOption.key then .error (.help form) else .ok g

/-- A path given at a place. -/
def pathAt (g : CommandForm.Given) (i : Nat) : Option Path := g.rest[i]?.map Path.ofString

/-- No more arguments are given than a command takes. -/
def noExtra (form : CommandForm) (g : CommandForm.Given) (c : Command) : Except Notice Command :=
  match g.rest.drop form.arguments.length with
  | [] => .ok c
  | extra => .error (.problem form (.extraArguments extra))

def readBuild (arguments : List String) : Except Notice Command := do
  let g ← given buildForm arguments
  let make (workers : Option Int) : Except Notice Command :=
    noExtra buildForm g (.build (pathAt g 0) (pathAt g 1) workers (g.value? "--extension")
      (g.values "--only"))
  match g.value? "--workers" with
  | none => make none
  | some s =>
    match Text.intOf? s with
    | some n => make (some n)
    | none => .error (.problem buildForm (.notInteger "--workers" s))

def readRender (arguments : List String) : Except Notice Command := do
  let g ← given renderForm arguments
  match pathAt g 0 with
  | none => .error (.problem renderForm (.missingArgument "SOURCE"))
  | some source =>
    noExtra renderForm g (.render source ((g.value? "--output").map Path.ofString))

def readCheck (arguments : List String) : Except Notice Command := do
  let g ← given checkForm arguments
  noExtra checkForm g (.check (pathAt g 0))

/-- A command by its name. -/
def readCommand (name : String) (arguments : List String) : Except Notice Command :=
  match name with
  | "build" => readBuild arguments
  | "render" => readRender arguments
  | "check" => readCheck arguments
  | name => do
    if CommandForm.isOption name then let _ ← given program (name :: arguments)
    .error (.problem program (.noSuchCommand name (Text.similar name program.subcommands)))

/-- What the arguments of the program ask for. -/
def Invocation.ofArguments (arguments : List String) : Except Notice Invocation := do
  if arguments.isEmpty then .error (.noArguments program)
  let g ← given program arguments
  match g.rest with
  | [] => .error (.problem program .missingCommand)
  | name :: rest => return { json := g.has "--json", command := ← readCommand name rest }

end PromptMarkup.CommandLine
