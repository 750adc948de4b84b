/-!
# Code points

A text may hold halves of pairs, which are code points but no characters and have no bytes in UTF-8.  Inside a `String` a
half is held as two characters: the mark, which is no character of any document, and one of a private area.  A mark that
stands for itself is held twice.  Neither the mark nor the private characters are blank, end a line or mean anything in
Markdown, so that a text can be worked on as it is held.
-/

namespace PromptMarkup

/-- A character or half of a pair. -/
inductive CodePoint where
  | char (c : Char)
  /-- A code point from U+D800 to U+DFFF, counted from there. -/
  | surrogate (n : Fin 2048)
  deriving DecidableEq, Repr

namespace CodePoint

/-- The character in front of what is held in the place of a half of a pair. -/
def mark : Char := Char.ofNat 0xFFFF

/-- The character that is held behind the mark for a half of a pair. -/
def standIn (n : Fin 2048) : Char := Char.ofNat (0xF0000 + n)

/-- The half of a pair that a character behind the mark is held for. -/
def ofStandIn (c : Char) : Option (Fin 2048) :=
  if h : 0xF0000 ≤ c.toNat ∧ c.toNat < 0xF0800 then some ⟨c.toNat - 0xF0000, by omega⟩ else none

/-- The characters that a code point is held as. -/
def held : CodePoint → List Char
  | char c => if c = mark then [mark, mark] else [c]
  | surrogate n => [mark, standIn n]

/-- The code point of a number. -/
def ofNat (n : Nat) : CodePoint :=
  if h : 0xD800 ≤ n ∧ n < 0xE000 then surrogate ⟨n - 0xD800, by omega⟩ else char (Char.ofNat n)

/-- The number of a code point. -/
def toNat : CodePoint → Nat
  | char c => c.toNat
  | surrogate n => 0xD800 + n

/-- The character that a code point is. -/
def char? : CodePoint → Option Char
  | char c => some c
  | surrogate _ => none

def isSurrogate : CodePoint → Bool
  | char _ => false
  | surrogate _ => true

/-- The code points that characters are held for.  A mark without a partner stands for itself. -/
def ofHeld : List Char → List CodePoint
  | [] => []
  | [c] => [char c]
  | c :: d :: r =>
    if c = mark then
      if d = mark then char mark :: ofHeld r
      else
        match ofStandIn d with
        | some n => surrogate n :: ofHeld r
        | none => char c :: ofHeld (d :: r)
    else char c :: ofHeld (d :: r)

end CodePoint

namespace Text

/-- The text that holds the given code points. -/
def held (ps : List CodePoint) : String := String.ofList (ps.flatMap CodePoint.held)

/-- The code points of a text. -/
def codePoints (s : String) : List CodePoint := CodePoint.ofHeld s.toList

end Text

end PromptMarkup
