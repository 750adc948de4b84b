import PromptMarkup.Tree.Content
import PromptMarkup.Xml.Namespace
import PromptMarkup.Xml.Prolog

/-!
# The root element and what it holds

Tags are matched on a stack of open elements.  A reference to an entity puts the entity's text in its place;
elements that open there must close there.
-/

namespace PromptMarkup.Xml

/-- An element that is open.  What has been read of its content is kept backwards. -/
structure Frame where
  raw : String
  name : String
  attributes : List (String × String)
  bindings : Bindings
  /-- The child elements so far, last first, each with the text before it. -/
  children : List (List Char × Element) := []
  /-- The text since the last child, backwards. -/
  text : List Char := []

namespace Frame

def push (f : Frame) (c : Char) : Frame := { f with text := c :: f.text }

/-- The element that an open element is once it closes. -/
def close (f : Frame) : Element where
  name := f.name
  attributes := f.attributes
  content := f.children.foldl
    (fun rest c => .element (String.ofList c.1.reverse) c.2.name c.2.attributes c.2.content rest)
    (.text (String.ofList f.text.reverse))

/-- An open element with one more child. -/
def addChild (f : Frame) (e : Element) : Frame :=
  { f with children := (f.text, e) :: f.children, text := [] }

end Frame

/-- How the reading of a text comes to its end. -/
inductive Outcome where
  /-- The root element is complete, and this text follows it. -/
  | closed (root : Element) (rest : List Char)
  /-- The text has come to its end, with these elements open. -/
  | ended (stack : List Frame)
  | failed (e : Error)

/-- Where a text stands. -/
structure Scope where
  dtd : Dtd
  ending : Ending
  /-- The entities being expanded. -/
  opened : OpenEntities := []
  /-- How many elements were open where the text starts. -/
  base : Nat := 0

/-- Puts a character into the innermost open element. -/
def pushChar (c : Char) : List Frame → List Frame
  | [] => []
  | f :: r => f.push c :: r

/-- Puts a complete element into the innermost open one, if there is one. -/
def closeElement (e : Element) (rest : List Char) : List Frame → Sum (List Frame) Outcome
  | [] => .inr (.closed e rest)
  | f :: r => .inl (f.addChild e :: r)

/-- Reads a character data section, from behind its opening. -/
def readCdata (ending : Ending) (stack : List Frame) : List Char → Except Error (List Frame × List Char)
  | [] => .error (cdataEnd ending 0)
  | [']'] => .error (cdataEnd ending 1)
  | [']', ']'] => .error (cdataEnd ending 2)
  | ['\r'] => .error (cdataEnd ending 1)
  | ']' :: ']' :: '>' :: r => .ok (stack, r)
  | '\r' :: '\n' :: r => readCdata ending (pushChar '\n' stack) r
  | '\r' :: r => readCdata ending (pushChar '\n' stack) r
  | c :: r => readCdata ending (pushChar c stack) r
where
  /-- The problem of a section that is not closed. -/
  cdataEnd (ending : Ending) (left : Nat) : Error :=
    match ending with
    | .clean => ⟨.unclosedCdata, left⟩
    | .halfUnit => ⟨.unclosedCdata, left⟩
    | .invalid => ⟨.invalidToken, 0⟩
    | .partialCharacter => ⟨.partialCharacter, left⟩

/-- What reads on from open elements and a text. -/
abbrev ReadOn := List Frame → List Char → Outcome

namespace Scope

/-- The outcome of a scan that did not find its unit in a text. -/
def scanFailed {α : Type} (scope : Scope) (s : List Char) : Scan α → Outcome
  | .bad t => .failed ⟨.invalidToken, t.length⟩
  | _ => .failed (scope.ending.insideToken s.length)

/-- Puts a complete element where it belongs and reads on behind it. -/
def complete (go : ReadOn) (e : Element) (rest : List Char) (stack : List Frame) : Outcome :=
  match closeElement e rest stack with
  | .inl stack => go stack rest
  | .inr done => done

/-- Reads an end tag, from behind its opening. -/
def readEndTag (scope : Scope) (go : ReadOn) (stack : List Frame) (s r : List Char) : Outcome :=
  match scanEndTag r with
  | .found name rest =>
    if stack.length = scope.base then .failed ⟨.asynchronousEntity, s.length⟩
    else
      match stack with
      | [] => .failed ⟨.mismatchedTag, r.length⟩
      | f :: below =>
        if f.raw ≠ name then .failed ⟨.mismatchedTag, r.length⟩ else complete go f.close rest below
  | r => scope.scanFailed s r

/-- Reads a start tag, from behind its opening. -/
def readStartTag (scope : Scope) (go : ReadOn) (stack : List Frame) (s r : List Char) : Outcome :=
  match scanStartTag r with
  | .found raw rest =>
    let bindings := match stack with
      | [] => Bindings.initial
      | f :: _ => f.bindings
    match Tag.ofRaw scope.dtd scope.opened bindings raw with
    | .error (p, some left) => .failed ⟨p, left⟩
    | .error (p, none) => .failed ⟨p, s.length⟩
    | .ok t =>
      if t.empty then complete go ⟨t.name, t.attributes, .text ""⟩ rest stack
      else go (⟨t.raw, t.name, t.attributes, t.bindings, [], []⟩ :: stack) rest
  | r => scope.scanFailed s r

/-- Puts the text of an entity in the place of a reference to it; `expand` reads that text. -/
def expandEntity (scope : Scope) (expand : OpenEntities → ReadOn) (go : ReadOn) (stack : List Frame)
    (s : List Char) (name : String) (rest : List Char) : Outcome :=
  match scope.dtd.entity? name with
  | none =>
    if scope.dtd.strict then .failed ⟨.undefinedEntity, s.length⟩
    else .failed ⟨.unknownEntity name, s.length⟩
  | some e =>
    if scope.opened.contains name then .failed ⟨.recursiveEntity, s.length⟩
    else
      match e with
      | .unparsed => .failed ⟨.binaryEntity, s.length⟩
      | .external => .failed ⟨.unknownEntity name, s.length⟩
      | .internal text =>
        match expand (name :: scope.opened) stack text with
        | .ended stack => go stack rest
        | .failed e => .failed ⟨e.problem, s.length⟩
        | .closed root _ => .closed root rest

/-- Reads a reference, from behind its ampersand. -/
def readReference (scope : Scope) (expand : OpenEntities → ReadOn) (go : ReadOn) (stack : List Frame)
    (s r : List Char) : Outcome :=
  match scanReference r with
  | .found (.char n) rest =>
    if isAllowed n then go (pushChar (Char.ofNat n) stack) rest
    else .failed ⟨.invalidCharacterNumber, s.length⟩
  | .found (.entity name) rest =>
    match predefined? name with
    | some c => go (pushChar c stack) rest
    | none => scope.expandEntity expand go stack s name rest
  | r => scope.scanFailed s r

/-- Reads a processing instruction, from behind its opening. -/
def readInstruction (scope : Scope) (go : ReadOn) (stack : List Frame) (s r : List Char) : Outcome :=
  match scanInstruction r with
  | .found true _ => .failed ⟨.misplacedDeclaration, s.length⟩
  | .found false rest => go stack rest
  | r => scope.scanFailed s r

/-- Reads a comment, from behind its opening. -/
def readComment (scope : Scope) (go : ReadOn) (stack : List Frame) (s r : List Char) : Outcome :=
  match scanComment r with
  | .found _ rest => go stack rest
  | r => scope.scanFailed s r

/-- Reads a character data section, from behind the bracket. -/
def readSection (scope : Scope) (go : ReadOn) (stack : List Frame) (s r : List Char) : Outcome :=
  match scanCdataOpening r with
  | .found _ rest =>
    match readCdata scope.ending stack rest with
    | .ok (stack, rest) => go stack rest
    | .error e => .failed e
  | r => scope.scanFailed s r

/-- The outcome at the end of a text. -/
def finish (scope : Scope) (stack : List Frame) : Outcome :=
  if scope.base = 0 then .failed (scope.ending.betweenTokens .noElement)
  else if stack.length ≠ scope.base then .failed ⟨.asynchronousEntity, 0⟩
  else .ended stack

end Scope

/-- Reads content; `fuel` bounds the number of units, and `expand` reads the text of an entity. -/
def readContent (scope : Scope) (expand : OpenEntities → ReadOn) : Nat → ReadOn
  | 0, _, s => .failed (scope.ending.insideToken s.length)
  | fuel + 1, stack, s =>
    match s with
    | [] => scope.finish stack
    | '<' :: '/' :: r => scope.readEndTag (readContent scope expand fuel) stack s r
    | '<' :: '?' :: r => scope.readInstruction (readContent scope expand fuel) stack s r
    | ['<', '!'] => scope.scanFailed s (.short : Scan Unit)
    | ['<', '!', '-'] => scope.scanFailed s (.short : Scan Unit)
    | '<' :: '!' :: '-' :: '-' :: r => scope.readComment (readContent scope expand fuel) stack s r
    | '<' :: '!' :: '-' :: r => .failed ⟨.invalidToken, r.length⟩
    | '<' :: '!' :: '[' :: r => scope.readSection (readContent scope expand fuel) stack s r
    | '<' :: '!' :: r => .failed ⟨.invalidToken, r.length⟩
    | '<' :: r => scope.readStartTag (readContent scope expand fuel) stack s r
    | '&' :: r => scope.readReference expand (readContent scope expand fuel) stack s r
    | ']' :: ']' :: '>' :: r => .failed ⟨.invalidToken, r.length + 1⟩
    | ['\r'] =>
      if scope.base = 0 ∧ scope.ending.isFinal then .failed ⟨.noElement, 1⟩
      else readContent scope expand fuel (pushChar '\n' stack) []
    | '\r' :: '\n' :: r => readContent scope expand fuel (pushChar '\n' stack) r
    | '\r' :: r => readContent scope expand fuel (pushChar '\n' stack) r
    | c :: r => readContent scope expand fuel (pushChar c stack) r

/-- Reads the text of an entity, with further entities nested at most `depth` deep. -/
def readEntity (dtd : Dtd) : Nat → OpenEntities → ReadOn
  | 0, _, stack, _ => .ended stack
  | depth + 1, opened, stack, text =>
    readContent { dtd, ending := .clean, opened, base := stack.length } (readEntity dtd depth)
      (text.length + 1) stack text

/-- Reads the root element from its opening bracket on. -/
def readRoot (dtd : Dtd) (ending : Ending) (s : List Char) : Outcome :=
  readContent { dtd, ending } (readEntity dtd (dtd.entities.length + 1)) (s.length + 1) [] s

end PromptMarkup.Xml
