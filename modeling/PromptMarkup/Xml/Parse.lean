import PromptMarkup.Xml.Body
import PromptMarkup.Xml.Declaration

/-!
# Reading a document

From the bytes of a document to its root element.
-/

namespace PromptMarkup.Xml

/-- Why a document could not be read. -/
inductive ParseFault where
  | malformed (problem : Problem) (position : Position)
  | encoding (f : Encoding.Fault)
  deriving DecidableEq, Repr

/-- A text and the position where it starts. -/
structure Located where
  start : Position
  chars : Chars

namespace Located

/-- The position that has so many characters of the text behind it. -/
def position (l : Located) (left : Nat) : Position :=
  l.start.advance (l.chars.chars.take (l.chars.chars.length - left))

def fault (l : Located) (e : Error) : ParseFault := .malformed e.problem (l.position e.left)

end Located

/-- Reads a document from the state that its declaration left. -/
def readFrom (l : Located) (state : PrologState) : Except ParseFault Element :=
  let s := l.chars.chars
  let ending := l.chars.ending
  match readProlog ending (s.length + 1) state s with
  | .error e => .error (l.fault e)
  | .ok (dtd, r) =>
    match readRoot dtd ending r with
    | .failed e => .error (l.fault e)
    | .ended _ => .error (l.fault ⟨.noElement, 0⟩)
    | .closed root rest =>
      match readEpilog ending (rest.length + 1) rest with
      | .error e => .error (l.fault e)
      | .ok () => .ok root

/-- The position behind bytes of which each counts as a character. -/
def positionOfBytes (bs : List UInt8) : Position :=
  ({} : Position).advance (bs.map fun b => Char.ofNat b.toNat)

/-- Reads a document that starts with a declaration: `inside` is what stands between its delimiters, and `r` follows
it. -/
def readDeclared (charset : Charset) (bs : List UInt8) (mark : Nat) (l : Located)
    (inside r : List Char) : Except ParseFault Element :=
  let s := l.chars.chars
  /- The place of a text inside the declaration, which the closing delimiter and the rest follow. -/
  let place (t : List Char) : Nat := t.length + 2 + r.length
  match readDeclaration inside with
  | .error t => .error (l.fault ⟨.malformedDeclaration, place t⟩)
  | .ok d =>
    let state : PrologState := { expect := .misc, dtd := { standalone := d.standalone } }
    let same := readFrom { l with start := l.position r.length, chars := ⟨r, l.chars.ending⟩ } state
    match d.encoding with
    | none => same
    | some (name, t) =>
      match declaredCharset charset name with
      | .incorrect => .error (l.fault ⟨.incorrectEncoding, place t⟩)
      | .unusable => .error (l.fault ⟨.unknownEncoding, place t⟩)
      | .fault f => .error (.encoding f)
      | .charset c =>
        let size := mark + charset.unitSize * (s.length - r.length)
        let rest := c.read (bs.drop size)
        let start :=
          match c with
          | .utf8 | .utf16 _ => l.position r.length
          | _ => positionOfBytes (bs.take size)
        readFrom ⟨start, rest⟩ state

/-- The root element of the document that bytes hold. -/
def parse (bs : List UInt8) : Except ParseFault Element :=
  match detect bs with
  | .undecided => .error (.malformed .unclosedToken {})
  | .charset charset mark =>
    let chars := charset.read (bs.drop mark)
    let l : Located := ⟨⟨1, if mark = 0 then 0 else 1⟩, chars⟩
    let ordinary := readFrom l {}
    match chars.chars with
    | '<' :: '?' :: 'x' :: 'm' :: 'l' :: r =>
      match scanInstruction ('x' :: 'm' :: 'l' :: r) with
      | .found true rest =>
        readDeclared charset bs mark l (r.take (r.length - rest.length - 2)) rest
      | _ => ordinary
    | _ => ordinary

/-- The text of a malformed document's fault. -/
def ParseFault.text : ParseFault → String
  | malformed problem position => problem.text position
  | encoding f => f.message

end PromptMarkup.Xml
