import PromptMarkup.Yaml.Scalar

/-!
# Tokens of YAML

A text is cut into tokens.  Indentation is turned into tokens that open and close blocks.  A key of one line is known
as a key only at the colon behind it, so its token is put in where the key began.
-/

namespace PromptMarkup.Yaml

inductive Token where
  | version (major : Nat)
  | tagHandle (handle uri : String)
  | otherDirective
  | documentStart
  | documentEnd
  | blockSequenceStart
  | blockMappingStart
  | blockEnd
  | flowSequenceStart
  | flowSequenceEnd
  | flowMappingStart
  | flowMappingEnd
  | blockEntry
  | flowEntry
  | key
  | value
  | alias (name : String)
  | anchor (name : String)
  | tag (handle : Option String) (suffix : String)
  | scalar (text : String) (plain : Bool)
  deriving DecidableEq, Repr

/-- A place where a key of one line may have begun: the number of its first token, and whether the text is malformed if
it is no key. -/
structure PossibleKey where
  level : Nat
  number : Nat
  required : Bool
  start : Cursor
  deriving Repr

/-- How far a key of one line may reach. -/
def maxKeySize : Nat := 1024

/-- A text that is being cut into tokens. -/
structure Scanner where
  cursor : Cursor
  tokens : List Token := []
  indent : Int := -1
  indents : List Int := []
  /-- How many brackets are open. -/
  level : Nat := 0
  keyAllowed : Bool := true
  keys : List PossibleKey := []
  deriving Repr

namespace Scanner

def emit (s : Scanner) (t : Token) : Scanner := { s with tokens := s.tokens ++ [t] }

/-- Puts a token in before the token with a number. -/
def emitAt (s : Scanner) (number : Nat) (t : Token) : Scanner :=
  { s with tokens := s.tokens.take number ++ t :: s.tokens.drop number }

def skip (s : Scanner) (n : Nat) : Scanner := { s with cursor := s.cursor.advance n }

def allowKey (s : Scanner) (allowed : Bool) : Scanner := { s with keyAllowed := allowed }

/-- Whether a block, and no bracket, is open. -/
def inBlock (s : Scanner) : Bool := s.level == 0

/-! ### Possible keys -/

/-- Whether a key that may have begun earlier can no longer be one. -/
def isStale (s : Scanner) (k : PossibleKey) : Bool :=
  k.start.line != s.cursor.line || s.cursor.index - k.start.index > maxKeySize

/-- Gives up the keys that can no longer be keys. -/
def dropStale (s : Scanner) : Option Scanner :=
  if s.keys.any fun k => s.isStale k && k.required then none
  else some { s with keys := s.keys.filter fun k => !s.isStale k }

/-- The possible key among the brackets that are open. -/
def possibleKey? (s : Scanner) : Option PossibleKey := s.keys.find? fun k => k.level == s.level

/-- The scanner without its possible key among the open brackets. -/
def withoutKey (s : Scanner) : Scanner := { s with keys := s.keys.filter fun k => k.level != s.level }

/-- Gives up the possible key among the open brackets. -/
def dropKey (s : Scanner) : Option Scanner :=
  match s.possibleKey? with
  | some k => if k.required then none else some s.withoutKey
  | none => some s

/-- Notes that a key may begin here. -/
def noteKey (s : Scanner) : Option Scanner :=
  if s.keyAllowed then do
    let s ← s.dropKey
    let k : PossibleKey :=
      { level := s.level
        number := s.tokens.length
        required := s.inBlock && s.indent == s.cursor.column
        start := s.cursor }
    return { s with keys := k :: s.keys }
  else some s

/-! ### Indentation -/

/-- Closes the blocks that are indented more than a column. -/
def unwindTo (column : Int) : List Int → Scanner → Scanner
  | [], s => s
  | outer :: rest, s =>
    if s.indent > column then
      unwindTo column rest { s.emit .blockEnd with indent := outer, indents := rest }
    else s

/-- Closes the blocks that are indented more than a column; brackets ignore indentation. -/
def unwind (column : Int) (s : Scanner) : Scanner :=
  if s.inBlock then unwindTo column s.indents s else s

/-- Opens a block at a column if it is indented more than the block around it. -/
def openBlock (s : Scanner) (column : Nat) (number : Nat) (t : Token) : Scanner :=
  if s.indent < column then
    { s.emitAt number t with indents := s.indent :: s.indents, indent := column }
  else s

/-! ### Anchors, tags and directives -/

/-- A name of letters, digits, dashes and underscores. -/
def word (c : Cursor) : Option (String × Cursor) :=
  let (name, d) := c.takeWhile isWordChar
  if name.isEmpty then none else some (String.ofList name, d)

/-- The name of an anchor or of an alias, from its sign on. -/
def anchorName (c : Cursor) : Option (String × Cursor) := do
  let (name, d) ← word c.next
  if isBlankOrEnd d.peek || "?:,]\x7d%@\x60".toList.contains d.peek then return (name, d) else none

/-- A character that may stand in the address of a tag. -/
def isAddressChar (c : Char) : Bool :=
  c.isAlphanum || "-;/?:@&=+$,_.!~*'()[]".toList.contains c

/-- Bytes written as percent signs with two digits each. -/
def percentBytes : List Char → Option (List UInt8)
  | '%' :: a :: b :: r => do
    if isHexDigit a && isHexDigit b then
      return UInt8.ofNat (hexValue [a, b]) :: (← percentBytes r)
    else none
  | '%' :: _ => none
  | _ => some []

/-- The address of a tag. -/
def address : Nat → Cursor → Option (List Char × Cursor)
  | 0, _ => none
  | fuel + 1, c =>
    let (run, c) := c.takeWhile isAddressChar
    if c.peek = '%' then do
      let bytes ← percentBytes c.rest
      match Encoding.Utf8.decode bytes with
      | .error _ => none
      | .ok s => do
        let (more, c) ← address fuel (c.advance (3 * bytes.length))
        return (run ++ s.toList ++ more, c)
    else some (run, c)

/-- The address of a tag, which is not empty. -/
def tagAddress (c : Cursor) : Option (String × Cursor) := do
  let (a, d) ← address (c.rest.length + 1) c
  if d.index = c.index then none else return (String.ofList a, d)

/-- The handle of a tag: one exclamation mark, or two with a word between them. -/
def tagHandle (c : Cursor) : Option (String × Cursor) :=
  if c.peek != '!' then none
  else if c.peekAt 1 = ' ' then some ("!", c.next)
  else
    let (name, d) := c.next.takeWhile isWordChar
    if d.peek = '!' then some (String.ofList ('!' :: name ++ ['!']), d.next) else none

/-- A tag, from its exclamation mark on. -/
def tag (c : Cursor) : Option (Token × Cursor) := do
  let (t, d) ←
    if c.peekAt 1 = '<' then do
      let (suffix, d) ← tagAddress (c.advance 2)
      if d.peek = '>' then pure (Token.tag none suffix, d.next) else none
    else if isBlankOrEnd (c.peekAt 1) then pure (Token.tag none "!", c.next)
    else if (c.next.rest.takeWhile fun ch => !isSpaceOrEnd ch).contains '!' then do
      let (handle, d) ← tagHandle c
      let (suffix, d) ← tagAddress d
      pure (Token.tag (some handle) suffix, d)
    else do
      let (suffix, d) ← tagAddress c.next
      pure (Token.tag (some "!") suffix, d)
  if isSpaceOrEnd d.peek then return (t, d) else none

/-- A whole number in decimal digits. -/
def directiveNumber (c : Cursor) : Option (Nat × Cursor) :=
  let (ds, d) := c.takeWhile Char.isDigit
  if ds.isEmpty then none
  else some (ds.foldl (fun n ch => 10 * n + (ch.toNat - 48)) 0, d)

/-- What a directive says, from behind its name. -/
def directiveValue (name : String) (c : Cursor) : Option (Token × Cursor) :=
  if name = "YAML" then do
    let (major, c) ← directiveNumber c.skipSpaces
    if c.peek != '.' then none
    let (_, c) ← directiveNumber c.next
    if isSpaceOrEnd c.peek then return (.version major, c) else none
  else if name = "TAG" then do
    let (handle, c) ← tagHandle c.skipSpaces
    if c.peek != ' ' then none
    let (uri, c) ← tagAddress c.skipSpaces
    if isSpaceOrEnd c.peek then return (.tagHandle handle uri, c) else none
  else some (.otherDirective, c.skipWhile fun ch => !isLineEnd ch)

/-- A directive, from its percent sign on. -/
def directive (c : Cursor) : Option (Token × Cursor) := do
  let (name, c) ← word c.next
  if !isSpaceOrEnd c.peek then none
  let (t, c) ← directiveValue name c
  let c := c.skipSpaces.skipComment
  if isLineEnd c.peek then return (t, c.lineBreak.2) else none

/-! ### Steps -/

/-- Past spaces, comments and line breaks. -/
def skipToToken : Nat → Scanner → Scanner
  | 0, s => s
  | fuel + 1, s =>
    let c := s.cursor.skipSpaces.skipComment
    if isBreak c.peek then
      skipToToken fuel
        { s with cursor := c.lineBreak.2, keyAllowed := s.keyAllowed || s.inBlock }
    else { s with cursor := c }

/-- A step that ends all blocks and gives a token. -/
def endBlocks (s : Scanner) : Option Scanner := do
  let s ← (s.unwind (-1)).dropKey
  return s.allowKey false

/-- A step over a mark that delimits documents. -/
def delimiter (t : Token) (s : Scanner) : Option Scanner := do
  return ((← s.endBlocks).emit t).skip 3

/-- A step over an opening bracket. -/
def openBracket (t : Token) (s : Scanner) : Option Scanner := do
  let s ← s.noteKey
  return (({ s with level := s.level + 1, keyAllowed := true } : Scanner).emit t).skip 1

/-- A step over a closing bracket. -/
def closeBracket (t : Token) (s : Scanner) : Option Scanner := do
  if s.inBlock then none
  let s ← s.dropKey
  return (({ s with level := s.level - 1, keyAllowed := false } : Scanner).emit t).skip 1

/-- A step over a comma. -/
def flowEntry (s : Scanner) : Option Scanner := do
  let s ← (s.allowKey true).dropKey
  return (s.emit .flowEntry).skip 1

/-- A step over the sign of an entry of a block. -/
def blockEntry (s : Scanner) : Option Scanner := do
  if s.inBlock && !s.keyAllowed then none
  let s :=
    if s.inBlock then s.openBlock s.cursor.column s.tokens.length .blockSequenceStart else s
  let s ← (s.allowKey true).dropKey
  return (s.emit .blockEntry).skip 1

/-- A step over a question mark. -/
def key (s : Scanner) : Option Scanner := do
  if s.inBlock && !s.keyAllowed then none
  let s :=
    if s.inBlock then s.openBlock s.cursor.column s.tokens.length .blockMappingStart else s
  let s ← (s.allowKey s.inBlock).dropKey
  return (s.emit .key).skip 1

/-- A step over a colon. -/
def value (s : Scanner) : Option Scanner :=
  match s.possibleKey? with
  | some k =>
    let s := s.withoutKey.emitAt k.number .key
    let s :=
      if s.inBlock then s.openBlock k.start.column k.number .blockMappingStart else s
    some (((s.allowKey false).emit .value).skip 1)
  | none => do
    if s.inBlock && !s.keyAllowed then none
    let s :=
      if s.inBlock then s.openBlock s.cursor.column s.tokens.length .blockMappingStart else s
    let s ← (s.allowKey s.inBlock).dropKey
    return (s.emit .value).skip 1

/-- A step over a token that may begin a key. -/
def keyPart (s : Scanner) (read : Cursor → Option (Token × Cursor)) : Option Scanner := do
  let s ← s.noteKey
  let (t, c) ← read s.cursor
  return ({ s with cursor := c, keyAllowed := false } : Scanner).emit t

/-- A step over a block scalar. -/
def block (s : Scanner) : Option Scanner := do
  let s ← (s.allowKey true).dropKey
  let (text, c) ← blockScalar s.indent s.cursor
  return ({ s with cursor := c } : Scanner).emit (.scalar text false)

/-- A step over a plain scalar.  A key may follow it on a new line. -/
def plain (s : Scanner) : Option Scanner := do
  let s ← s.noteKey
  let (text, c, broken) := plainScalar (!s.inBlock) (s.indent + 1) s.cursor
  return ({ s with cursor := c, keyAllowed := broken } : Scanner).emit (.scalar text true)

/-- The signs that no plain scalar begins with. -/
def isIndicator (c : Char) : Bool := "-?:,[]\x7b\x7d#&*!|>'\"%@\x60".toList.contains c

/-- Whether a plain scalar can begin here. -/
def startsPlain (s : Scanner) : Bool :=
  let c := s.cursor.peek
  !(isBlankOrEnd c || isIndicator c)
    || (!isBlankOrEnd (s.cursor.peekAt 1) && (c == '-' || (s.inBlock && (c == '?' || c == ':'))))

/-- The step over the token that begins at the cursor. -/
def token (s : Scanner) : Option Scanner :=
  let c := s.cursor
  let atMargin := c.column == 0
  let spaced := isBlankOrEnd (c.peekAt 1)
  match c.peek with
  | '%' => if atMargin then do
      let s ← s.endBlocks
      let (t, c) ← directive s.cursor
      return ({ s with cursor := c } : Scanner).emit t
    else none
  | '[' => s.openBracket .flowSequenceStart
  | '\x7b' => s.openBracket .flowMappingStart
  | ']' => s.closeBracket .flowSequenceEnd
  | '\x7d' => s.closeBracket .flowMappingEnd
  | ',' => s.flowEntry
  | '*' => s.keyPart fun c => do
      let (name, d) ← anchorName c
      return (.alias name, d)
  | '&' => s.keyPart fun c => do
      let (name, d) ← anchorName c
      return (.anchor name, d)
  | '!' => s.keyPart tag
  | '\'' => s.keyPart fun c => do
      let (text, d) ← quotedScalar c
      return (.scalar text false, d)
  | '"' => s.keyPart fun c => do
      let (text, d) ← quotedScalar c
      return (.scalar text false, d)
  | ch =>
    if ch == '-' && atMargin && c.atDelimiter then s.delimiter .documentStart
    else if ch == '.' && atMargin && c.atDelimiter then s.delimiter .documentEnd
    else if ch == '-' && spaced then s.blockEntry
    else if ch == '?' && (spaced || !s.inBlock) then s.key
    else if ch == ':' && (spaced || !s.inBlock) then s.value
    else if (ch == '|' || ch == '>') && s.inBlock then s.block
    else if s.startsPlain then s.plain
    else none

/-- All steps up to the end of the text. -/
def run : Nat → Scanner → Option (List Token)
  | 0, _ => none
  | fuel + 1, s => do
    let s ← (skipToToken (s.cursor.rest.length + 1) s).dropStale
    let s := s.unwind s.cursor.column
    if s.cursor.peek = endMark then
      let s ← (s.unwind (-1)).dropKey
      return s.tokens
    else
      run fuel (← s.token)

end Scanner

/-- The tokens of a text, unless it is malformed.  A byte order mark at the start is passed over. -/
def Token.ofChars? (cs : List Char) : Option (List Token) :=
  if cs.all isStreamChar then
    let start : Cursor := ⟨cs, 0, 0, 0⟩
    let cursor := if start.peek.toNat = 0xFEFF then start.next else start
    Scanner.run (cs.length + 2) { cursor }
  else none

end PromptMarkup.Yaml
