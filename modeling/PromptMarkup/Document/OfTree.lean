import PromptMarkup.Document.Basic
import PromptMarkup.Text.Integer
import PromptMarkup.Text.Leaf
import PromptMarkup.Tree.Name

/-!
# Reading a document from its tree

The vocabulary of prompts: which elements a document is made of, what each must hold, and the fault when it does
not.  Elements of the two shapes that a vocabulary item may have are read into one field.  Text is leaf
text, except for code.
-/

namespace PromptMarkup

/-- The leaf text of an element. -/
def Element.leaf (e : Element) : String := Text.leaf e.chars

/-- The leaf text of an element, empty when there is none. -/
def leafOf : Option Element → String
  | none => ""
  | some e => e.leaf

/-- The leaf text of an attribute, empty when there is none. -/
def Element.leafAttribute (e : Element) (name : String) : String :=
  match e.attribute? name with
  | none => ""
  | some v => Text.leaf v

/-- The code that an element holds. -/
def Element.code (e : Element) : CodeBlock where
  language := Text.trim ((e.attribute? "language").getD "")
  content := e.chars

/-- Numbers the members of a list from 1. -/
def numbered {α : Type} (xs : List α) : List (Nat × α) :=
  (xs.zipIdx 1).map fun p => (p.2, p.1)

/-- The name of the root element. -/
def rootName : String := "prompt"

namespace Reading

/-- Every schema fault names the root document. -/
abbrev Source := Option Path

/-- The child that an element must have. -/
def require (source : Source) (e : Element) (name path : String) : Except Failure Element := do
  match ← e.child? name with
  | some c => return c
  | none => throw (.fault (.missing (path ++ "/" ++ name) source))

/-- The text of the child that an element must have, which must not be blank. -/
def requireLeaf (source : Source) (e : Element) (name path : String) : Except Failure String := do
  let c ← require source e name path
  if c.leaf = "" then throw (.fault (.missing (path ++ "/" ++ name) source))
  return c.leaf

/-- The text of the child that an element may have. -/
def optionalLeaf (e : Element) (name : String) : Except Failure String := do
  return leafOf (← e.child? name)

/-- The integer that an attribute holds, if the attribute is there. -/
def integer? (source : Source) (e : Element) (name path : String) : Except Failure (Option Int) :=
  match e.attribute? name with
  | none => .ok none
  | some raw =>
    match Text.intOf? raw with
    | some n => .ok (some n)
    | none =>
      .error (.fault { cause := .notAnInteger name raw, source, elementPath := some path })

/-- A value of the metadata: a child element, or else an attribute. -/
def metadataValue (e : Element) (childName key : String) : Except Failure String := do
  match ← e.child? childName with
  | some c => return c.leaf
  | none => return e.leafAttribute key

def metadata (e : Element) : Except Failure Metadata := do
  let description ← metadataValue e "description" "description"
  let globs ← metadataValue e "globs" "globs"
  let alwaysApply ← metadataValue e "always-apply" "alwaysApply"
  return { description, globs, alwaysApply }

/-- The words for a table of contents that is made from the rules. -/
def isTrueWord (s : String) : Bool :=
  ["true", "yes", "1"].contains ((Text.trim s).map Char.toLower)

def toc (e : Element) : Except Failure TableOfContents := do
  let entries ← e.children "entry"
  return { auto := isTrueWord ((e.attribute? "auto").getD ""), entries := entries.map Element.leaf }

/-- The notes of a rule, each of which must have a term. -/
def notes (source : Source) (e : Element) (path : String) : Except Failure (List Note) := do
  match ← e.child? "notes" with
  | none => return []
  | some ns =>
    (numbered (← ns.children "note")).mapM fun (i, n) =>
      let term := n.leafAttribute "term"
      if term = "" then
        throw (.fault (.missing (path ++ "/notes/note[" ++ toString i ++ "]/@term") source))
      else return { term, description := n.leaf }

/-- The good and the bad example of a rule. -/
def examples (e : Element) : Except Failure (Option CodeBlock × Option CodeBlock) := do
  match ← e.child? "examples" with
  | none => return (none, none)
  | some x =>
    let good ← x.child? "good"
    let bad ← x.child? "bad"
    return (good.map Element.code, bad.map Element.code)

def rule (source : Source) (e : Element) (path : String) : Except Failure Rule := do
  let number ←
    match ← integer? source e "id" path with
    | some n => pure n
    | none =>
      throw (.fault { cause := .missingRuleNumber, source, elementPath := some path })
  let notes ← notes source e path
  let (goodExample, badExample) ← examples e
  let title ← requireLeaf source e "title" path
  let subtitle ← requireLeaf source e "subtitle" path
  let description ← requireLeaf source e "description" path
  return { number, title, subtitle, description, notes, goodExample, badExample }

def template (source : Source) (e : Element) (path : String) : Except Failure Template := do
  let title ← requireLeaf source e "title" path
  let description ← requireLeaf source e "description" path
  let body ← require source e "body" path
  return { title, description, body := body.code }

/-- An offered answer: a text child with its description, or the text of the element itself. -/
def choice (source : Source) (e : Element) (path : String) : Except Failure Choice := do
  let c ←
    match ← e.child? "text" with
    | some t => pure { text := t.leaf, description := ← optionalLeaf e "description" : Choice }
    | none => pure { text := e.leaf }
  if c.text = "" then throw (.fault (.missing (path ++ "/text") source))
  return c

def questions (source : Source) (e : Element) (path : String) : Except Failure Questions := do
  let options ← (numbered (← e.children "option")).mapM fun (i, o) =>
    choice source o (path ++ "/option[" ++ toString i ++ "]")
  let title ← requireLeaf source e "title" path
  let subtitle ← optionalLeaf e "subtitle"
  let description ← optionalLeaf e "description"
  return { title, subtitle, description, options }

/-- A step, numbered by its place when it carries no number of its own. -/
def step (source : Source) (e : Element) (place : Nat) (path : String) : Except Failure Step := do
  let number ← integer? source e "number" path
  let code ← e.child? "code"
  let title ← requireLeaf source e "title" path
  let description ← optionalLeaf e "description"
  return { number := number.getD place, title, description, code := code.map Element.code }

def workflow (source : Source) (e : Element) (path : String) : Except Failure Workflow := do
  let steps ← (numbered (← e.children "step")).mapM fun (i, s) =>
    step source s i (path ++ "/step[" ++ toString i ++ "]")
  let title ← requireLeaf source e "title" path
  let subtitle ← optionalLeaf e "subtitle"
  let description ← optionalLeaf e "description"
  return { title, subtitle, description, steps }

/-- The title of a list of rules, in a header or on its own. -/
def guidanceTitle (source : Source) (e : Element) (path : String) : Except Failure String := do
  let inHeader ←
    match ← e.child? "header" with
    | some h => optionalLeaf h "title"
    | none => pure ""
  let title ← if inHeader = "" then optionalLeaf e "title" else pure inHeader
  if title = "" then throw (.fault (.missing (path ++ "/header/title") source))
  return title

def restrictions (e : Element) : Except Failure Restrictions := do
  let description ← optionalLeaf e "description"
  let items ← e.children "restriction"
  return { description, items := items.map Element.leaf }

def guidance (source : Source) (e : Element) (path : String) : Except Failure Guidance := do
  let title ← guidanceTitle source e path
  let restrictions ←
    match ← e.child? "restrictions" with
    | some r => (restrictions r).map some
    | none => pure none
  let rules ←
    match ← e.child? "rules" with
    | some r => (·.map Element.leaf) <$> r.children "rule"
    | none => pure []
  let description ← optionalLeaf e "description"
  return { title, description, restrictions, rules }

/-- A section of the kind that its element's name says. -/
def section? (source : Source) (name : String) (e : Element) (path : String) :
    Except Failure Section :=
  match name with
  | "rule" => .rule <$> rule source e path
  | "template" => .template <$> template source e path
  | "questions" => .questions <$> questions source e path
  | "workflow" => .workflow <$> workflow source e path
  | "instructions" => .instructions <$> guidance source e path
  | "output-requirements" => .outputRequirements <$> guidance source e path
  | _ => .error (.fault { cause := .unknownSectionKind name, source, elementPath := some path })

/-- A rule's number must not be that of an earlier rule. -/
def checkNumber (source : Source) (seen : List Int) (s : Section) (path : String) :
    Except Failure (List Int) :=
  match s.rule? with
  | none => .ok seen
  | some r =>
    if r.number ∈ seen then
      .error (.fault { cause := .repeatedRuleNumber r.number, source, elementPath := some path })
    else .ok (r.number :: seen)

/-- The sections of a content area.  `names` are the names of the children before, and `seen` the numbers of the
rules before. -/
def sections (source : Source) (path : String) :
    List String → List Int → List Element → Except Failure (List Section)
  | _, _, [] => .ok []
  | names, seen, e :: r => do
    let name ← localName e.name
    let place := path ++ "/" ++ name ++ "[" ++ toString (names.count name + 1) ++ "]"
    let s ← section? source name e place
    let seen ← checkNumber source seen s place
    let rest ← sections source path (name :: names) seen r
    return s :: rest

/-- The sections of the content area that a document may have. -/
def content (source : Source) (root : Element) : Except Failure (List Section) := do
  match ← root.child? "content" with
  | none => return []
  | some c => sections source (rootName ++ "/content") [] [] c.content.elements

end Reading

open Reading in
/-- The document that a tree stands for.  Faults name the given source. -/
def Document.ofTree (source : Option Path) (root : Element) : Except Failure Document := do
  let name ← localName root.name
  if name ≠ rootName then
    throw (.fault { cause := .wrongRoot rootName name, source, elementPath := some name })
  let metadata ← Reading.metadata (← require source root "metadata" rootName)
  let header ← require source root "header" rootName
  let title ← requireLeaf source header "title" (rootName ++ "/header")
  let sections ← content source root
  let role ← optionalLeaf header "role"
  let description ← optionalLeaf header "description"
  let toc ←
    match ← root.child? "table-of-contents" with
    | some t => (Reading.toc t).map some
    | none => pure none
  return { metadata, title, role, description, toc, sections }

end PromptMarkup
