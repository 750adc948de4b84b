import PromptMarkup.Build.Report
import PromptMarkup.CommandLine.Command
import PromptMarkup.Encoding.Unencodable
import PromptMarkup.Fault
import PromptMarkup.Json
import PromptMarkup.Markdown.Check
import PromptMarkup.Text.Control

/-!
# Answers of commands

What a command found or did, and how that is printed: as lines, or as one line of JSON.  A content with halves of pairs
cannot be printed, and the command fails then.
-/

namespace PromptMarkup.CommandLine

/-- What a command found or did.  The content of a prompt is held as a text that may have halves of pairs. -/
inductive Answer where
  | built (outputDirectory : Path) (report : BuildReport)
  | buildFailed (error : String)
  | rendered (source : Path) (output : Option Path) (content : String)
  | renderFailed (source : Path) (error : String) (chain : List Path)
  | checked (files : List (Path × List Issue))
  | checkFailed (error : String)
  deriving Repr

/-- What a program prints, and the code that it exits with. -/
structure Output where
  exitCode : Nat
  stdout : String := ""
  stderr : String := ""
  deriving DecidableEq, Repr

/-- The output of a command that failed. -/
def Output.error (message : String) : Output :=
  { exitCode := 1, stderr := "Error: " ++ message ++ "\n" }

/-- What arrives where no terminal reads it. -/
def Output.withoutControls (o : Output) : Output :=
  { o with stdout := Text.withoutControls o.stdout, stderr := Text.withoutControls o.stderr }

namespace Answer

/-- All issues with the files that they are in. -/
def issues (files : List (Path × List Issue)) : List (Path × Issue) :=
  files.flatMap fun (p, is) => is.map fun i => (p, i)

def exitCode : Answer → Nat
  | built _ report => report.exitCode
  | rendered _ none content =>
    match Encoding.charsText (Text.codePoints content) with
    | .ok _ => 0
    | .error _ => 1
  | rendered _ (some _) _ => 0
  | checked files => if (issues files).isEmpty then 0 else 1
  | _ => 1

/-! ### Lines -/

/-- What is said of a content that cannot be printed.  It would have been printed without its control sequences. -/
def unprintable (content : String) (u : Encoding.Unencodable) : String :=
  match Encoding.charsText (Text.dropControlPoints 0 (Text.codePoints content)) with
  | .ok _ => u.text
  | .error u => u.text

/-- The lines about one source of a build. -/
def resultLines (r : DocumentResult) : String :=
  if r.ok then
    "OK    " ++ r.source.text ++ " -> " ++ ((r.output.map Path.text).getD "None") ++ "\n"
  else
    "FAIL  " ++ r.source.text ++ ": " ++ r.error.getD "None" ++ "\n"
      ++ (if r.chain.length > 1 then "      include chain: " ++ chainText r.chain ++ "\n" else "")

def issueLine (path : Path) (i : Issue) : String :=
  path.text ++ ":" ++ toString i.line ++ ": " ++ i.flaw.message ++ "\n"

/-- An answer printed as lines. -/
def plain (a : Answer) : Output :=
  match a with
  | built _ report =>
    { exitCode := a.exitCode
      stdout := String.join (report.results.map resultLines) ++ "\n" ++ toString report.succeeded
        ++ " of " ++ toString report.results.length ++ " documents compiled.\n" }
  | buildFailed error => .error error
  | rendered _ none content =>
    match Encoding.charsText (Text.codePoints content) with
    | .ok s => { exitCode := 0, stdout := s }
    | .error u => .error (unprintable content u)
  | rendered _ (some output) _ =>
    { exitCode := a.exitCode, stderr := "Wrote " ++ output.text ++ "\n" }
  | renderFailed _ error _ => .error error
  | checked files =>
    { exitCode := a.exitCode
      stdout := String.join ((issues files).map fun e => issueLine e.1 e.2) ++ "\n"
        ++ toString files.length ++ " files checked, " ++ toString (issues files).length
        ++ " issues found.\n" }
  | checkFailed error => .error error

/-! ### JSON -/

def pathJson (p : Path) : Json := .string p.text

def chainJson (ps : List Path) : String × Json := ("include_chain", .array (ps.map pathJson))

def resultJson (r : DocumentResult) : Json :=
  .object ([("source", pathJson r.source)] ++ Json.member? "output" pathJson r.output
    ++ [("ok", .bool r.ok)] ++ Json.member? "error" .string r.error
    ++ Json.member? "error_type" .string r.errorClass ++ [chainJson r.chain])

def issueJson (path : Path) (i : Issue) : Json :=
  .object [("path", pathJson path), ("line", .number i.line), ("message", .string i.flaw.message)]

/-- The name of the command that is answered. -/
def commandName : Answer → String
  | built _ _ => "build"
  | buildFailed _ => "build"
  | rendered _ _ _ => "render"
  | renderFailed _ _ _ => "render"
  | checked _ => "check"
  | checkFailed _ => "check"

/-- What is said of a prompt that failed. -/
def failureDetails (source : Path) (error : String) (chain : List Path) : List (String × Json) :=
  [("error", .string error), ("source", pathJson source), chainJson chain]

/-- What only the answers to one command say. -/
def details : Answer → List (String × Json)
  | built outputDirectory report =>
    [("output_dir", pathJson outputDirectory),
      ("documents", .array (report.results.map resultJson)),
      ("succeeded", .number report.succeeded), ("failed", .number report.failures.length)]
  | buildFailed error =>
    [("error", .string error), ("documents", .array []), ("succeeded", .number 0),
      ("failed", .number 0)]
  | rendered source none content =>
    match Encoding.charsText (Text.codePoints content) with
    | .ok s => [("source", pathJson source), ("content", .string s), chainJson []]
    | .error u => failureDetails source ("Error serializing to JSON: UnicodeEncodeError: " ++ u.text) []
  | rendered source (some output) _ =>
    [("source", pathJson source), ("output", pathJson output), chainJson []]
  | renderFailed source error chain => failureDetails source error chain
  | checked files =>
    [("files_checked", .number files.length),
      ("issues", .array ((issues files).map fun e => issueJson e.1 e.2))]
  | checkFailed error =>
    [("error", .string error), ("files_checked", .number 0), ("issues", .array [])]

/-- An answer as a JSON value. -/
def toJson (a : Answer) : Json :=
  .object ([("schema_version", .number 1), ("command", .string a.commandName),
    ("exit_code", .number a.exitCode)] ++ a.details)

/-- An answer printed as one line of JSON. -/
def jsonLine (a : Answer) : Output :=
  { exitCode := a.exitCode, stdout := a.toJson.text ++ "\n" }

/-- An answer printed in the way that is asked for. -/
def output (json : Bool) (a : Answer) : Output := if json then a.jsonLine else a.plain

end Answer

/-- The output of a notice. -/
def Notice.output : Notice → Output
  | help form => { exitCode := 0, stdout := form.helpText }
  | noArguments form => { exitCode := 2, stderr := form.helpText }
  | problem form p => { exitCode := 2, stderr := form.problemText p }

end PromptMarkup.CommandLine
