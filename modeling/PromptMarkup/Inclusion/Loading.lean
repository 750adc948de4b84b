import PromptMarkup.Inclusion.View

/-!
# Reading the documents of a composition

Documents and texts are read once and kept, also when the load that first read them fails later on.
-/

namespace PromptMarkup

/-- The documents and the texts that have been read. -/
structure Cache where
  documents : List (Location × Element) := []
  texts : List (Location × String) := []
  deriving Repr, Inhabited

/-- A computation that may fail and that keeps what it has read either way. -/
abbrev Loading := ExceptT Failure (StateM Cache)

namespace Loading

/-- The outcome of a load and what has been read by then. -/
def outcome {α : Type} (x : Loading α) (c : Cache) : Except Failure α × Cache := x.run.run c

/-- Reads the document at the end of a chain, or takes it from the cache. -/
def document (v : View) (l : Location) (chain : Chain) : Loading Element := do
  match (← get).documents.lookup l with
  | some root => return root
  | none =>
    let root ← liftM (v.readDocument l chain)
    modify fun c => { c with documents := (l, root) :: c.documents }
    return root

/-- Reads the text at the end of a chain, or takes it from the cache. -/
def text (v : View) (l : Location) (encoding : String) (chain : Chain) : Loading String := do
  match (← get).texts.lookup l with
  | some s => return s
  | none =>
    let s ← liftM (v.readText l encoding chain)
    modify fun c => { c with texts := (l, s) :: c.texts }
    return s

end Loading

end PromptMarkup
