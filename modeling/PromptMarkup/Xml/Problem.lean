/-!
# What makes a document malformed
-/

namespace PromptMarkup.Xml

/-- Why a document is not well-formed. -/
inductive Problem where
  | noElement
  | invalidToken
  | unclosedToken
  | partialCharacter
  | mismatchedTag
  | duplicateAttribute
  | junkAfterRoot
  | misplacedParameterReference
  | undefinedEntity
  /-- An entity that an external part of the document might declare. -/
  | unknownEntity (name : String)
  | recursiveEntity
  | asynchronousEntity
  | invalidCharacterNumber
  | binaryEntity
  | externalEntityInAttribute
  | misplacedDeclaration
  | unknownEncoding
  | incorrectEncoding
  | unclosedCdata
  | unexpected
  | publicId
  | unboundPrefix
  | undeclaredPrefix
  | reservedXml
  | reservedXmlns
  | reservedNamespace
  | malformedDeclaration
  deriving DecidableEq, Repr

namespace Problem

def message : Problem → String
  | noElement => "no element found"
  | invalidToken => "not well-formed (invalid token)"
  | unclosedToken => "unclosed token"
  | partialCharacter => "partial character"
  | mismatchedTag => "mismatched tag"
  | duplicateAttribute => "duplicate attribute"
  | junkAfterRoot => "junk after document element"
  | misplacedParameterReference => "illegal parameter entity reference"
  | undefinedEntity => "undefined entity"
  | unknownEntity name => "undefined entity &" ++ name ++ ";"
  | recursiveEntity => "recursive entity reference"
  | asynchronousEntity => "asynchronous entity"
  | invalidCharacterNumber => "reference to invalid character number"
  | binaryEntity => "reference to binary entity"
  | externalEntityInAttribute => "reference to external entity in attribute"
  | misplacedDeclaration => "XML or text declaration not at start of entity"
  | unknownEncoding => "unknown encoding"
  | incorrectEncoding => "encoding specified in XML declaration is incorrect"
  | unclosedCdata => "unclosed CDATA section"
  | unexpected => "syntax error"
  | publicId => "illegal character(s) in public id"
  | unboundPrefix => "unbound prefix"
  | undeclaredPrefix => "must not undeclare prefix"
  | reservedXml =>
    "reserved prefix (xml) must not be undeclared or bound to another namespace name"
  | reservedXmlns => "reserved prefix (xmlns) must not be declared or undeclared"
  | reservedNamespace => "prefix must not be bound to one of the reserved namespace names"
  | malformedDeclaration => "XML declaration not well-formed"

end Problem

/-- A place in a document: the line from 1 and the column from 0. -/
structure Position where
  line : Nat := 1
  column : Nat := 0
  deriving DecidableEq, Repr

/-- The place behind some more characters.  A carriage return with the line feed behind it is one line end. -/
def Position.advance (p : Position) : List Char → Position
  | [] => p
  | '\r' :: '\n' :: r => Position.advance ⟨p.line + 1, 0⟩ r
  | c :: r =>
    if c == '\n' || c == '\r' then Position.advance ⟨p.line + 1, 0⟩ r
    else Position.advance ⟨p.line, p.column + 1⟩ r

/-- The text of a problem and its place. -/
def Problem.text (problem : Problem) (p : Position) : String :=
  problem.message ++ ": line " ++ toString p.line ++ ", column " ++ toString p.column

/-- A problem with the number of characters from its place to the end of the text. -/
structure Error where
  problem : Problem
  left : Nat
  deriving DecidableEq, Repr

end PromptMarkup.Xml
