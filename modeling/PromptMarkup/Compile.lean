import PromptMarkup.Document.OfTree
import PromptMarkup.Inclusion.Splice
import PromptMarkup.Markdown.Render

/-!
# Compiling a prompt

From a source file to its Markdown: the source is composed, read as a document and printed.
-/

namespace PromptMarkup

/-- The document that a source stands for. -/
def loadDocument (fs : FileSystem) (source : Path) : Except Failure Document := do
  Document.ofTree (some source) (← loadFresh fs source)

/-- The Markdown of a source.  A fault without a source of its own gets this one. -/
def transform (fs : FileSystem) (source : Path) : Except Failure String :=
  match loadDocument fs source with
  | .ok d => .ok d.render
  | .error (.fault f) => .error (.fault (f.withSource source))
  | .error e => .error e

end PromptMarkup
