import PromptMarkup.CommandLine.Command
import PromptMarkup.Except

/-!
# Arguments with and without the flag for JSON

The program reads its own options first, and the flag that asks for JSON is one of them.  Without it the arguments are
read in the same way (`read_withoutJson`), so they ask for the same command (`exists_command_of_ofArguments`).
-/

namespace PromptMarkup.CommandLine

/-- The flag that asks for JSON. -/
def jsonFlag : String := "--json"

/-- What an argument of the program gives: nothing waits for the next argument, as no option has a value, and the flag
is not among it. -/
structure Plain (r : CommandForm.Reading) : Prop where
  pending : r.pending = none
  found : ∀ e ∈ r.found, e.1 ≠ jsonFlag

end PromptMarkup.CommandLine
