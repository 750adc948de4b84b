import PromptMarkup.Fault
import PromptMarkup.Tree.Content

/-!
# Names of elements

An element's name may carry a namespace in braces.  What counts for the vocabulary is the part behind it.
-/

namespace PromptMarkup

/-- The part of a name behind its namespace; nothing when the namespace is not closed. -/
def localName? (name : String) : Option String :=
  match name.toList with
  | '\x7b' :: r =>
    match r.dropWhile (· != '\x7d') with
    | [] => none
    | _ :: t => some (String.ofList t)
  | _ => some name

/-- The local part of a name, or the failure that an unclosed namespace is. -/
def localName (name : String) : Except Failure String :=
  match localName? name with
  | some n => .ok n
  | none => .error .malformedName

namespace Content

/-- The names of the elements in content, at all depths. -/
def names : Content → List String
  | text _ => []
  | comment _ _ r => r.names
  | element _ name _ content r => name :: content.names ++ r.names

@[simp] theorem names_prepend (s : String) (c : Content) : (c.prepend s).names = c.names := by
  cases c <;> rfl

@[simp] theorem names_append (c d : Content) : (c ++ d).names = c.names ++ d.names := by
  induction c with
  | text s => simp [names]
  | comment b i r ih => simp [names, ih]
  | element b n a c r _ ih => simp [names, ih]

@[simp] theorem names_dropLeading (c : Content) : c.dropLeading.names = c.names := by
  cases c <;> rfl

end Content

namespace Element

/-- The names of an element and of all elements in it. -/
def names (e : Element) : List String := e.name :: e.content.names

@[simp] theorem names_ofElement (e : Element) : (Content.ofElement e).names = e.names := by
  simp [Content.ofElement, Content.names, names]

/-- The element children with their local names. -/
def namedChildren (e : Element) : Except Failure (List (String × Element)) :=
  e.content.elements.mapM fun c => do return (← localName c.name, c)

/-- The element children with the given local name. -/
def children (e : Element) (name : String) : Except Failure (List Element) := do
  return ((← e.namedChildren).filter fun c => c.1 == name).map (·.2)

/-- The first element child with the given local name. -/
def child? (e : Element) (name : String) : Except Failure (Option Element) := do
  return (← e.children name).head?

end Element

end PromptMarkup
