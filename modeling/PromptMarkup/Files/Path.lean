import PromptMarkup.Text.Lines

/-!
# Paths

A path is an anchor and a list of parts.  Parts are never empty and never a single dot, so `a//b/./c/` and
`a/b/c` are the same path; a double dot is kept, because what it means depends on links.
-/

namespace PromptMarkup

/-- Where a path starts: at the current directory, at the top, or at the top written with two slashes. -/
inductive Anchor where
  | here
  | top
  | doubleTop
  deriving DecidableEq, Repr

namespace Anchor

/-- How an anchor is written. -/
def text : Anchor → String
  | here => ""
  | top => "/"
  | doubleTop => "//"

/-- The anchor of a written path: exactly two leading slashes are kept apart from one or from more. -/
def ofChars : List Char → Anchor
  | '/' :: '/' :: '/' :: _ => top
  | '/' :: '/' :: _ => doubleTop
  | '/' :: _ => top
  | _ => here

end Anchor

/-- A path in its normal form. -/
structure Path where
  anchor : Anchor
  parts : List String
  deriving DecidableEq, Repr

namespace Path

/-- The parts of a written path, without empty ones and single dots. -/
def partsOf (s : String) : List String :=
  (Text.parts '/' s).filter fun p => p != "" && p != "."

/-- The path that a text denotes. -/
def ofString (s : String) : Path :=
  ⟨Anchor.ofChars s.toList, partsOf s⟩

/-- The written form of a path; the empty relative path is a dot. -/
def text (p : Path) : String :=
  match p.anchor, p.parts with
  | .here, [] => "."
  | a, ps => a.text ++ Text.join "/" ps

/-- The absolute path with the given parts. -/
def absolute (parts : List String) : Path := ⟨.top, parts⟩

def isAbsolute (p : Path) : Bool := p.anchor != .here

/-- The second path as seen from the first: an absolute path stands for itself. -/
def append (p q : Path) : Path :=
  if q.isAbsolute then q else ⟨p.anchor, p.parts ++ q.parts⟩

instance : HDiv Path Path Path := ⟨append⟩

/-- The path extended by a written one. -/
def child (p : Path) (name : String) : Path := p.append (ofString name)

/-- The path without its last part. -/
def parent (p : Path) : Path := ⟨p.anchor, p.parts.dropLast⟩

/-- The last part, empty for a path without parts. -/
def name (p : Path) : String := p.parts.getLast?.getD ""

/-- A file name cut at its last dot, when characters stand on both sides of it. -/
def splitName (name : String) : String × String :=
  let reversed := name.toList.reverse
  let after := reversed.takeWhile (· != '.')
  let before := reversed.drop (after.length + 1)
  if before.isEmpty || after.isEmpty then (name, "")
  else (String.ofList before.reverse, String.ofList ('.' :: after.reverse))

/-- The last part without its suffix. -/
def stem (p : Path) : String := (splitName p.name).1

/-- The last dot of the last part with what follows it, or nothing. -/
def suffix (p : Path) : String := (splitName p.name).2

/-- What paths are sorted by: the parts of their written form. -/
def sortKey (p : Path) : List String := Text.parts '/' p.text

/-- The order of paths, part by part. -/
def le (p q : Path) : Bool := compare p.sortKey q.sortKey != .gt

/-- Paths in order. -/
def sort (ps : List Path) : List Path := ps.mergeSort le

end Path

/-- A chain of paths, in the order in which one leads to the next. -/
def chainText (ps : List Path) : String := Text.join " -> " (ps.map Path.text)

end PromptMarkup
