import PromptMarkup.Encoding.Fault
import PromptMarkup.Files.Fault
import PromptMarkup.Files.Path

/-!
# Faults of a compilation

A fault says why a prompt could not be compiled.  Structural faults mean that the sources do not compose into
one tree; schema faults mean that the tree does not fit the vocabulary.  A `Failure` is a fault, or something
outside the taxonomy that stops the compilation as well.
-/

namespace PromptMarkup

/-- The classes of faults. -/
inductive FaultClass where
  | general
  | structural
  | malformedDocument
  | unresolvedInclude
  | circularInclude
  | schema
  | missingElement
  | invalidElement
  | unknownSectionKind
  deriving DecidableEq, Repr

namespace FaultClass

/-- The name of a class in reports. -/
def name : FaultClass → String
  | general => "PmlError"
  | structural => "StructuralError"
  | malformedDocument => "MalformedDocumentError"
  | unresolvedInclude => "UnresolvedIncludeError"
  | circularInclude => "CircularIncludeError"
  | schema => "SchemaError"
  | missingElement => "MissingRequiredElementError"
  | invalidElement => "InvalidElementError"
  | unknownSectionKind => "UnknownSectionKindError"

/-- The class that a class belongs to. -/
def parent? : FaultClass → Option FaultClass
  | general => none
  | structural => some general
  | malformedDocument => some structural
  | unresolvedInclude => some structural
  | circularInclude => some structural
  | schema => some general
  | missingElement => some schema
  | invalidElement => some schema
  | unknownSectionKind => some schema

/-- A class with all that it belongs to, up to the most general one. -/
def families (c : FaultClass) : List FaultClass :=
  match c.parent? with
  | none => [c]
  | some p =>
    match p.parent? with
    | none => [c, p]
    | some q => [c, p, q]

end FaultClass

/-- Why a prompt could not be compiled. -/
inductive Cause where
  | sourceNotFound
  | malformedXml (detail : String)
  | unreadableDocument (detail : String)
  | unreadableText (detail : String)
  | missingHref
  | unsupportedMode (mode : String)
  | unresolvedInclude (fragment referencedFrom : Path)
  | circularInclude (cycle : List Path)
  | wrongRoot (expected found : String)
  | missingElement (path : String)
  | notAnInteger (key value : String)
  | missingRuleNumber
  | repeatedRuleNumber (number : Int)
  | unknownSectionKind (kind : String)
  /-- A fault of a class for a reason given in words. -/
  | stated (category : FaultClass) (message : String)
  deriving DecidableEq, Repr

namespace Cause

/-- The class that a cause falls under. -/
def category : Cause → FaultClass
  | sourceNotFound => .structural
  | malformedXml _ => .malformedDocument
  | unreadableDocument _ => .structural
  | unreadableText _ => .structural
  | missingHref => .malformedDocument
  | unsupportedMode _ => .malformedDocument
  | unresolvedInclude _ _ => .unresolvedInclude
  | circularInclude _ => .circularInclude
  | wrongRoot _ _ => .invalidElement
  | missingElement _ => .missingElement
  | notAnInteger _ _ => .invalidElement
  | missingRuleNumber => .invalidElement
  | repeatedRuleNumber _ => .invalidElement
  | unknownSectionKind _ => .unknownSectionKind
  | stated category _ => category

def message : Cause → String
  | sourceNotFound => "Source document not found"
  | malformedXml detail => "Malformed XML (" ++ detail ++ ")"
  | unreadableDocument detail => "Failed to read document (" ++ detail ++ ")"
  | unreadableText detail => "Failed to read text fragment (" ++ detail ++ ")"
  | missingHref => "Include directive has no href"
  | unsupportedMode mode => "Unsupported include parse mode: " ++ Text.quote mode
  | unresolvedInclude fragment referencedFrom =>
    "Included fragment not found: " ++ fragment.text ++ " (referenced from "
      ++ referencedFrom.text ++ ")"
  | circularInclude cycle => "Circular include detected: " ++ chainText cycle
  | wrongRoot expected found =>
    "Expected <" ++ expected ++ "> root element, found <" ++ found ++ ">"
  | missingElement path => "Missing required element: " ++ path
  | notAnInteger key value =>
    "Attribute " ++ Text.quote key ++ " must be an integer, got " ++ Text.quote value
  | missingRuleNumber => "Rule is missing its numeric 'id' attribute"
  | repeatedRuleNumber number => "Duplicate rule id: " ++ toString number
  | unknownSectionKind kind => "Unknown section kind: " ++ kind
  | stated _ message => message

end Cause

/-- A cause with the place where it arose: the document, the element's path, and the chain of documents that
leads from the root document to it. -/
structure Fault where
  cause : Cause
  source : Option Path := none
  elementPath : Option String := none
  chain : List Path := []
  deriving DecidableEq, Repr

namespace Fault

def category (f : Fault) : FaultClass := f.cause.category

/-- The text of a fault: what happened, in which document, at which element and by which inclusions. -/
def text (f : Fault) : String :=
  let source := match f.source with
    | some p => " in " ++ p.text
    | none => ""
  let place := match f.elementPath with
    | some p => if p = "" then "" else " at " ++ p
    | none => ""
  let chain := if f.chain.length > 1 then " (included via " ++ chainText f.chain ++ ")" else ""
  f.cause.message ++ source ++ place ++ chain

/-- A required element is absent or blank. -/
def missing (path : String) (source : Option Path) : Fault :=
  { cause := .missingElement path, source, elementPath := some path }

/-- An included fragment is not a file. -/
def unresolved (fragment referencedFrom : Path) (chain : List Path) : Fault :=
  { cause := .unresolvedInclude fragment referencedFrom, source := some referencedFrom, chain }

/-- An inclusion leads back to a document on its own chain. -/
def circular (cycle : List Path) : Fault :=
  { cause := .circularInclude cycle, source := cycle.head?, chain := cycle.dropLast }

/-- The same fault, with a source if it had none. -/
def withSource (f : Fault) (source : Path) : Fault :=
  { f with source := some (f.source.getD source) }

end Fault

/-- What can stop a compilation. -/
inductive Failure where
  | fault (f : Fault)
  | files (f : Files.Fault)
  | encoding (f : Encoding.Fault)
  /-- A name opens a namespace that it does not close. -/
  | malformedName
  /-- A file name that could lead out of its directory. -/
  | unsafeName (name : String)
  /-- A path that does not lead to a directory; `role` says what the directory is for. -/
  | noDirectory (role : String) (path : Path)
  deriving DecidableEq, Repr

namespace Failure

/-- The class that a report gives a failure. -/
def className : Failure → String
  | fault f => f.category.name
  | files f => f.className
  | encoding f => f.className
  | malformedName => "IndexError"
  | unsafeName _ => "ValueError"
  | noDirectory _ _ => "FileNotFoundError"

def text : Failure → String
  | fault f => f.text
  | files f => f.message
  | encoding f => f.message
  | malformedName => "list index out of range"
  | unsafeName name => "Invalid artifact filename: '" ++ name ++ "'"
  | noDirectory role path => role ++ " not found: " ++ path.text

/-- The chain of inclusions, empty outside the taxonomy. -/
def chain : Failure → List Path
  | fault f => f.chain
  | _ => []

end Failure

end PromptMarkup
