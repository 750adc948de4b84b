/-!
# Walking over YAML text

A cursor stands in a text and knows its line and its column.  Past the end of the text it sees null characters, which no
text holds.
-/

namespace PromptMarkup.Yaml

/-- The null character, which stands for the end of the text. -/
def endMark : Char := Char.ofNat 0

/-- A character that ends a line. -/
def isBreak (c : Char) : Bool :=
  c == '\n' || c == '\r' || c.toNat == 0x85 || c.toNat == 0x2028 || c.toNat == 0x2029

/-- The end of a line or of the text. -/
def isLineEnd (c : Char) : Bool := c == endMark || isBreak c

/-- A space or the end of a line. -/
def isSpaceOrEnd (c : Char) : Bool := c == ' ' || isLineEnd c

/-- A space, a tab or the end of a line. -/
def isBlankOrEnd (c : Char) : Bool := c == '\t' || isSpaceOrEnd c

/-- A character that may stand in an anchor or in the name of a directive. -/
def isWordChar (c : Char) : Bool := c.isAlphanum || c == '-' || c == '_'

/-- Whether a text holds only characters that a stream may hold. -/
def isStreamChar (c : Char) : Bool :=
  let n := c.toNat
  n == 9 || n == 10 || n == 13 || (32 ≤ n && n < 127) || n == 0x85 || (0xA0 ≤ n && n < 0xFFFE)
    || 0x10000 ≤ n

/-- A place in a text. -/
structure Cursor where
  rest : List Char
  index : Nat := 0
  line : Nat := 0
  column : Nat := 0
  deriving Repr

namespace Cursor

/-- The character at the cursor. -/
def peek (c : Cursor) : Char := c.rest.headD endMark

/-- The character some places behind the cursor. -/
def peekAt (c : Cursor) (n : Nat) : Char := (c.rest.drop n).headD endMark

/-- Past one character.  A byte order mark takes up no column. -/
def next (c : Cursor) : Cursor :=
  match c.rest with
  | [] => c
  | ch :: r =>
    if isBreak ch then ⟨r, c.index + 1, c.line + 1, 0⟩
    else if ch.toNat = 0xFEFF then ⟨r, c.index + 1, c.line, c.column⟩
    else ⟨r, c.index + 1, c.line, c.column + 1⟩

/-- Past some characters. -/
def advance : Nat → Cursor → Cursor
  | 0, c => c
  | n + 1, c => advance n c.next

/-- The longest run of characters of a kind, and the cursor behind it. -/
def takeWhile (p : Char → Bool) (c : Cursor) : List Char × Cursor :=
  let run := c.rest.takeWhile p
  (run, c.advance run.length)

/-- Past the longest run of characters of a kind. -/
def skipWhile (p : Char → Bool) (c : Cursor) : Cursor := (c.takeWhile p).2

def skipSpaces (c : Cursor) : Cursor := c.skipWhile (· == ' ')

/-- The line break at the cursor as it counts in a text, and the cursor behind it. -/
def lineBreak (c : Cursor) : List Char × Cursor :=
  let ch := c.peek
  if ch.toNat = 0x2028 || ch.toNat = 0x2029 then ([ch], c.next)
  else if isBreak ch then (['\n'], c.next)
  else ([], c)

/-- Past a comment, if one starts here. -/
def skipComment (c : Cursor) : Cursor :=
  if c.peek = '#' then c.skipWhile (fun ch => !isLineEnd ch) else c

/-- Whether three marks that delimit documents stand here. -/
def atDelimiter (c : Cursor) : Bool :=
  let start := c.rest.take 3
  (start == ['-', '-', '-'] || start == ['.', '.', '.']) && isBlankOrEnd (c.peekAt 3)

/-- Past spaces, while the column is below a limit. -/
def skipIndent (limit : Nat) (c : Cursor) : Cursor :=
  c.advance (min (limit - c.column) (c.rest.takeWhile (· == ' ')).length)

end Cursor

end PromptMarkup.Yaml
