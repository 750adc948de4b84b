import PromptMarkup.Text.Lines
import PromptMarkup.Text.Quoted
import PromptMarkup.Text.Similar

/-!
# Forms of commands

What may be written behind a command, the help that describes it, and the reading of arguments by it.
-/

namespace PromptMarkup.CommandLine

/-- An option: the names it goes by, what its value is called if it takes one, and what it does. -/
structure OptionForm where
  names : List String
  value : Option String := none
  help : String
  deriving Repr

/-- An argument that is known by its place. -/
structure ArgumentForm where
  name : String
  required : Bool := false
  deriving Repr

/-- A command: how it is called, what it does, and what may be written behind it. -/
structure CommandForm where
  path : String
  help : String := ""
  options : List OptionForm := []
  arguments : List ArgumentForm := []
  subcommands : List String := []
  deriving Repr

/-- Why arguments could not be read. -/
inductive UsageProblem where
  | noSuchOption (name : String) (similar : List String)
  | noSuchCommand (name : String) (similar : List String)
  | missingCommand
  | missingArgument (name : String)
  | extraArguments (arguments : List String)
  | notInteger (option value : String)
  | missingValue (option : String)
  | unexpectedValue (option : String)
  deriving DecidableEq, Repr

namespace UsageProblem

/-- A hint at names that may have been meant. -/
def hint (similar : List String) : String :=
  match similar.map Text.quote with
  | [] => ""
  | [name] => " Did you mean " ++ name ++ "?"
  | names => " (Did you mean one of: " ++ Text.join ", " names ++ "?)"

def message : UsageProblem → String
  | noSuchOption name similar => "No such option " ++ Text.quote name ++ "." ++ hint similar
  | noSuchCommand name similar => "No such command " ++ Text.quote name ++ "." ++ hint similar
  | missingCommand => "Missing command."
  | missingArgument name => "Missing argument '" ++ name ++ "'."
  | extraArguments arguments =>
    "Got unexpected extra argument" ++ (if arguments.length = 1 then "" else "s") ++ " ("
      ++ Text.join " " arguments ++ ")"
  | notInteger option value =>
    "Invalid value for '" ++ option ++ "': " ++ Text.quote value ++ " is not a valid integer."
  | missingValue option => "Option " ++ Text.quote option ++ " requires an argument."
  | unexpectedValue option => "Option " ++ Text.quote option ++ " does not take a value."

/-- Whether the problem is shown together with the usage of the command. -/
def showsUsage : UsageProblem → Bool
  | missingValue _ => false
  | unexpectedValue _ => false
  | _ => true

end UsageProblem

/-- The option that asks for help; every command has it. -/
def helpOption : OptionForm := { names := ["--help"], help := "Show this message and exit." }

namespace OptionForm

/-- The name by which an option is known. -/
def key (o : OptionForm) : String := o.names.headD ""

/-- A name with one dash and one letter. -/
def isShort (name : String) : Bool := name.length == 2

/-- The names of an option as the help shows them, short ones first. -/
def shown (o : OptionForm) : String :=
  Text.join ", " (o.names.filter isShort ++ o.names.filter (!isShort ·))
    ++ (match o.value with
      | none => ""
      | some v => " " ++ v)

end OptionForm

namespace CommandForm

def allOptions (f : CommandForm) : List OptionForm := f.options ++ [helpOption]

/-! ### Help -/

/-- Rows of two columns. -/
def rows (entries : List (String × String)) : String :=
  let width := (entries.map fun e => e.1.length).foldl max 0
  String.join (entries.map fun (left, right) =>
    "  " ++ left ++
      (if right = "" then ""
      else String.ofList (List.replicate (width - left.length + 2) ' ') ++ right) ++ "\n")

/-- How the arguments of a command are written. -/
def argumentsText (f : CommandForm) : String :=
  Text.join " "
    (["[OPTIONS]"] ++ f.arguments.map (fun a => if a.required then a.name else "[" ++ a.name ++ "]")
      ++ (if f.subcommands.isEmpty then [] else ["COMMAND [ARGS]..."]))

def usage (f : CommandForm) : String := "Usage: " ++ f.path ++ " " ++ f.argumentsText ++ "\n"

/-- The help of a command. -/
def helpText (f : CommandForm) : String :=
  f.usage
    ++ (if f.help = "" then "" else "\n  " ++ f.help ++ "\n")
    ++ "\nOptions:\n" ++ rows (f.allOptions.map fun o => (o.shown, o.help))
    ++ (if f.subcommands.isEmpty then ""
      else "\nCommands:\n" ++ rows (f.subcommands.map fun name => (name, "")))

/-- What is printed about a problem with a command's arguments. -/
def problemText (f : CommandForm) (p : UsageProblem) : String :=
  (if p.showsUsage then f.usage ++ "Try '" ++ f.path ++ " --help' for help.\n\n" else "")
    ++ "Error: " ++ p.message ++ "\n"

/-! ### Reading arguments -/

/-- The option with a name. -/
def option? (f : CommandForm) (name : String) : Option OptionForm :=
  f.allOptions.find? fun o => o.names.contains name

/-- The option with a long name. -/
def long? (f : CommandForm) (name : String) : Option OptionForm :=
  if OptionForm.isShort name then none else f.option? name

def longNames (f : CommandForm) : List String :=
  (f.allOptions.flatMap (·.names)).filter (!OptionForm.isShort ·)

/-- What one argument gives: options by their keys, with their values, and an option whose value is the next argument, with
the name by which it was called. -/
structure Reading where
  found : List (String × String) := []
  pending : Option (String × String) := none
  deriving Repr

/-- The short options written behind one dash.  The first one that takes a value takes all that follows it. -/
def cluster (f : CommandForm) : List Char → Except UsageProblem Reading
  | [] => .ok {}
  | c :: r =>
    let name := String.ofList ['-', c]
    match f.option? name with
    | none => .error (.noSuchOption name [])
    | some o =>
      if o.value.isSome then
        .ok (if r.isEmpty then { pending := some (o.key, name) }
          else { found := [(o.key, String.ofList r)] })
      else do
        let rest ← f.cluster r
        return { rest with found := (o.key, "") :: rest.found }

/-- Whether an argument is written as an option. -/
def isOption (argument : String) : Bool :=
  match argument.toList with
  | '-' :: _ :: _ => true
  | _ => false

/-- A name and the value that an equals sign joins to it. -/
def nameAndValue (argument : String) : String × Option String :=
  let cs := argument.toList
  match cs.dropWhile (· != '=') with
  | [] => (argument, none)
  | _ :: v => (String.ofList (cs.takeWhile (· != '=')), some (String.ofList v))

/-- Reads an argument that is written as an option. -/
def readOption (f : CommandForm) (argument : String) : Except UsageProblem Reading :=
  let (name, value) := nameAndValue argument
  match f.long? name with
  | some o =>
    match o.value, value with
    | none, none => .ok { found := [(o.key, "")] }
    | none, some _ => .error (.unexpectedValue name)
    | some _, some v => .ok { found := [(o.key, v)] }
    | some _, none => .ok { pending := some (o.key, name) }
  | none =>
    if "--".toList.isPrefixOf argument.toList then
      .error (.noSuchOption name (Text.similar name f.longNames))
    else f.cluster (argument.toList.drop 1)

/-- The arguments of a command: its options by their keys, with their values, and all else. -/
structure Given where
  options : List (String × String) := []
  rest : List String := []
  deriving Repr

/-- Reads the arguments of a command.  Two dashes end the options; so does the first other argument of a command that
has subcommands. -/
def read (f : CommandForm) : List String → Except UsageProblem Given
  | [] => .ok {}
  | argument :: arguments =>
    if argument = "--" then .ok { rest := arguments }
    else if isOption argument then do
      let r ← f.readOption argument
      match r.pending with
      | none =>
        let g ← f.read arguments
        return { g with options := r.found ++ g.options }
      | some (key, name) =>
        match arguments with
        | [] => .error (.missingValue name)
        | value :: arguments =>
          let g ← f.read arguments
          return { g with options := r.found ++ (key, value) :: g.options }
    else if f.subcommands.isEmpty then do
      let g ← f.read arguments
      return { g with rest := argument :: g.rest }
    else .ok { rest := argument :: arguments }

end CommandForm

namespace CommandForm.Given

/-- Whether an option is given. -/
def has (g : Given) (key : String) : Bool := g.options.any fun e => e.1 == key

/-- All values given to an option. -/
def values (g : Given) (key : String) : List String :=
  (g.options.filter fun e => e.1 == key).map (·.2)

/-- The value given to an option last. -/
def value? (g : Given) (key : String) : Option String := (g.values key).getLast?

end CommandForm.Given

end PromptMarkup.CommandLine
