import PromptMarkup.Encoding.Fault
import PromptMarkup.Text.CodePoint
import PromptMarkup.Text.Quoted

/-!
# Code points without bytes

An encoder stops at the first code points that have no bytes and says where they are.
-/

namespace PromptMarkup.Encoding

/-- Code points that cannot be encoded: the number of the first of them, its position, and how many there are. -/
structure Unencodable where
  position : Nat
  size : Nat
  number : Nat
  deriving DecidableEq, Repr

/-- What is said of them. -/
def Unencodable.text (u : Unencodable) : String :=
  "'utf-8' codec can't encode " ++
    (if u.size = 1 then
      "character '\\u" ++ String.ofList (Text.hexDigits 4 u.number) ++ "' in position " ++ toString u.position
    else
      "characters in position " ++ toString u.position ++ "-" ++ toString (u.position + u.size - 1))
    ++ ": surrogates not allowed"

def Unencodable.fault (u : Unencodable) : Fault := .unencodable u.text

/-- The characters of the code points from a position on, if none of them is half of a pair. -/
def charsFrom (position : Nat) : List CodePoint → Except Unencodable (List Char)
  | [] => .ok []
  | .char c :: r => (c :: ·) <$> charsFrom (position + 1) r
  | .surrogate n :: r =>
    .error ⟨position, 1 + (r.takeWhile CodePoint.isSurrogate).length, CodePoint.toNat (.surrogate n)⟩

/-- The text of code points, if none of them is half of a pair. -/
def charsText (ps : List CodePoint) : Except Unencodable String := String.ofList <$> charsFrom 0 ps

end PromptMarkup.Encoding
