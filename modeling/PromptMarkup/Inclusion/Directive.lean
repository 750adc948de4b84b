import PromptMarkup.Fault
import PromptMarkup.Text.Blank
import PromptMarkup.Tree.Content

/-!
# Include directives

A directive is an element that stands for another document.  It names the document by a path, and may ask for
its raw text in some encoding instead of its elements.
-/

namespace PromptMarkup

/-- The name of include directives. -/
def includeName : String := "\x7bhttp://www.w3.org/2001/XInclude\x7dinclude"

/-- The local name of a root whose children are spliced without it. -/
def fragmentName : String := "fragment"

/-- What is included: the elements of a document, or the text of a file in an encoding. -/
inductive InclusionMode where
  | elements
  | text (encoding : String)
  deriving DecidableEq, Repr

/-- A directive: what it includes, and where that is written. -/
structure Directive where
  href : String
  mode : InclusionMode
  deriving DecidableEq, Repr

namespace Directive

/-- The directive with the given attributes, or why they do not make one. -/
def ofAttributes (attributes : List (String × String)) : Except Cause Directive :=
  let value (name : String) : Option String := attributes.lookup name
  let href := Text.trim ((value "href").getD "")
  if href = "" then .error .missingHref
  else
    match (value "parse").getD "xml" with
    | "xml" => .ok ⟨href, .elements⟩
    | "text" => .ok ⟨href, .text ((value "encoding").getD "utf-8")⟩
    | mode => .error (.unsupportedMode mode)

end Directive

end PromptMarkup
