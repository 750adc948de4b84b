import PromptMarkup.Encoding.Utf8
import PromptMarkup.Text.CodePoint
import PromptMarkup.Yaml.Cursor

/-!
# Scalars of YAML

Reading plain, quoted and block scalars from a text, with line folding, escapes and chomping.
-/

namespace PromptMarkup.Yaml

def isHexDigit (c : Char) : Bool :=
  c.isDigit || ('a' ≤ c && c ≤ 'f') || ('A' ≤ c && c ≤ 'F')

def hexValue (cs : List Char) : Nat :=
  cs.foldl (fun n c =>
    n * 16 + (if c.isDigit then c.toNat - 48 else if c.toNat < 97 then c.toNat - 55 else c.toNat - 87)) 0

/-- How a line break and the breaks behind it count in flowing text: a single line feed is a space. -/
def foldBreaks (first : List Char) (more : List Char) : List Char :=
  if first ≠ ['\n'] then first ++ more else if more.isEmpty then [' '] else more

/-! ### Quoted scalars -/

/-- The breaks of lines that are blank, behind a line break in a quoted scalar. -/
def quotedBreaks : Nat → Cursor → Option (List Char × Cursor)
  | 0, _ => none
  | fuel + 1, c =>
    if c.atDelimiter then none
    else
      let c := c.skipWhile fun ch => ch == ' ' || ch == '\t'
      if isBreak c.peek then do
        let (b, c) := c.lineBreak
        let (more, c) ← quotedBreaks fuel c
        return (b ++ more, c)
      else some ([], c)

/-- Blanks inside a quoted scalar, folded when they hold a line break. -/
def quotedSpaces (c : Cursor) : Option (List Char × Cursor) :=
  let (blanks, c) := c.takeWhile fun ch => ch == ' ' || ch == '\t'
  if c.peek = endMark then none
  else if isBreak c.peek then do
    let (b, c) := c.lineBreak
    let (more, c) ← quotedBreaks (c.rest.length + 1) c
    return (foldBreaks b more, c)
  else some (blanks, c)

/-- The character that a one-letter escape stands for. -/
def escape? : Char → Option Char
  | '0' => some endMark
  | 'a' => some '\x07'
  | 'b' => some '\x08'
  | 't' => some '\t'
  | '\t' => some '\t'
  | 'n' => some '\n'
  | 'v' => some '\x0b'
  | 'f' => some '\x0c'
  | 'r' => some '\r'
  | 'e' => some '\x1b'
  | ' ' => some ' '
  | '"' => some '"'
  | '\\' => some '\\'
  | '/' => some '/'
  | 'N' => some (Char.ofNat 0x85)
  | '_' => some (Char.ofNat 0xA0)
  | 'L' => some (Char.ofNat 0x2028)
  | 'P' => some (Char.ofNat 0x2029)
  | _ => none

/-- How many hexadecimal digits an escape has. -/
def escapeSize? : Char → Option Nat
  | 'x' => some 2
  | 'u' => some 4
  | 'U' => some 8
  | _ => none

/-- What an escape stands for, from behind its backslash.  Half of a pair is held as in a text. -/
def quotedEscape (c : Cursor) : Option (List Char × Cursor) :=
  match escape? c.peek with
  | some ch => some ([ch], c.next)
  | none =>
    match escapeSize? c.peek with
    | some n =>
      let digits := c.next.rest.take n
      if digits.length = n ∧ digits.all isHexDigit then
        let code := hexValue digits
        if code < 0x110000 then some ((CodePoint.ofNat code).held, c.next.advance n) else none
      else none
    | none => if isBreak c.peek then quotedBreaks (c.rest.length + 1) c.lineBreak.2 else none

/-- The characters of a quoted scalar up to a blank or to the closing mark. -/
def quotedText (double : Bool) : Nat → Cursor → Option (List Char × Cursor)
  | 0, _ => none
  | fuel + 1, c =>
    let (run, c) := c.takeWhile fun ch => !(ch == '\'' || ch == '"' || ch == '\\' || isBlankOrEnd ch)
    let continued (found : List Char) (c : Cursor) : Option (List Char × Cursor) := do
      let (more, c) ← quotedText double fuel c
      return (run ++ found ++ more, c)
    let ch := c.peek
    if !double && ch == '\'' && c.peekAt 1 == '\'' then continued ['\''] (c.advance 2)
    else if (double && ch == '\'') || (!double && (ch == '"' || ch == '\\')) then
      continued [ch] c.next
    else if double && ch == '\\' then do
      let (found, c) ← quotedEscape c.next
      continued found c
    else some (run, c)

/-- The parts of a quoted scalar up to its closing mark. -/
def quotedParts (double : Bool) : Nat → Cursor → Option (List Char × Cursor)
  | 0, _ => none
  | fuel + 1, c => do
    let (found, c) ← quotedText double (c.rest.length + 1) c
    if c.peek = (if double then '"' else '\'') then return (found, c.next)
    let (spaces, c) ← quotedSpaces c
    let (more, c) ← quotedParts double fuel c
    return (found ++ spaces ++ more, c)

/-- A quoted scalar, from its opening mark on. -/
def quotedScalar (c : Cursor) : Option (String × Cursor) := do
  let (found, d) ← quotedParts (c.peek == '"') (c.rest.length + 1) c.next
  return (String.ofList found, d)

/-! ### Plain scalars -/

/-- Whether a plain scalar must stop at a cursor. -/
def plainStops (flow : Bool) (rest : List Char) : Bool :=
  match rest with
  | [] => true
  | c :: r =>
    isBlankOrEnd c
      || (c == ':' &&
        (let d := r.headD endMark
        isBlankOrEnd d || (flow && ",[]\x7b\x7d".toList.contains d)))
      || (flow && ",?[]\x7b\x7d".toList.contains c)

/-- The characters of a plain scalar up to where it must stop. -/
def plainRun (flow : Bool) : List Char → List Char
  | [] => []
  | c :: r => if plainStops flow (c :: r) then [] else c :: plainRun flow r

/-- The breaks of lines that are blank, behind a line break in a plain scalar; nothing when a document ends there. -/
def plainBreaks : Nat → Cursor → Option (List Char) × Cursor
  | 0, c => (some [], c)
  | fuel + 1, c =>
    if c.peek = ' ' then plainBreaks fuel c.next
    else if isBreak c.peek then
      let (b, c) := c.lineBreak
      if c.atDelimiter then (none, c)
      else
        let (more, c) := plainBreaks fuel c
        (more.map (b ++ ·), c)
    else (some [], c)

/-- The blanks behind a part of a plain scalar, the cursor behind them, and whether they hold a line break. -/
def plainSpaces (c : Cursor) : List Char × Cursor × Bool :=
  let (spaces, c) := c.takeWhile (· == ' ')
  if isBreak c.peek then
    let (b, c) := c.lineBreak
    if c.atDelimiter then ([], c, true)
    else
      match plainBreaks (c.rest.length + 1) c with
      | (none, c) => ([], c, true)
      | (some more, c) => (foldBreaks b more, c, true)
  else (spaces, c, false)

/-- The parts of a plain scalar.  The last value says whether a line break was met behind its last part. -/
def plainParts (flow : Bool) (indent : Int) : Nat → List Char → Bool → Cursor → List Char × Cursor × Bool
  | 0, _, broken, c => ([], c, broken)
  | fuel + 1, spaces, broken, c =>
    if c.peek = '#' then ([], c, broken)
    else
      let run := plainRun flow c.rest
      if run.isEmpty then ([], c, broken)
      else
        let (found, c, broken) := plainSpaces (c.advance run.length)
        if found.isEmpty || c.peek == '#' || (!flow && (c.column : Int) < indent) then
          (spaces ++ run, c, broken)
        else
          let (more, c, broken) := plainParts flow indent fuel found broken c
          (spaces ++ run ++ more, c, broken)

/-- A plain scalar, and whether it ends behind a line break. -/
def plainScalar (flow : Bool) (indent : Int) (c : Cursor) : String × Cursor × Bool :=
  let (found, d, broken) := plainParts flow indent (c.rest.length + 1) [] false c
  (String.ofList found, d, broken)

/-! ### Block scalars -/

/-- What is done with the line breaks at the end of a block scalar. -/
inductive Chomping where
  | strip
  | clip
  | keep
  deriving DecidableEq, Repr

/-- The sign that says how to chomp. -/
def chomping? : Char → Option Chomping
  | '+' => some .keep
  | '-' => some .strip
  | _ => none

/-- A digit that gives the indentation of a block scalar; zero is none. -/
def indentDigit (c : Cursor) : Option (Option Nat × Cursor) :=
  if c.peek.isDigit then
    if c.peek = '0' then none else some (some (c.peek.toNat - 48), c.next)
  else some (none, c)

/-- The header of a block scalar, from behind its sign. -/
def blockHeader (c : Cursor) : Option ((Chomping × Option Nat) × Cursor) := do
  let (chomping, size, c) ←
    match chomping? c.peek with
    | some k => do
      let (size, c) ← indentDigit c.next
      pure (k, size, c)
    | none => do
      let (size, c) ← indentDigit c
      match size, chomping? c.peek with
      | some n, some k => pure (k, some n, c.next)
      | size, _ => pure (Chomping.clip, size, c)
  if !isSpaceOrEnd c.peek then none
  let c := c.skipSpaces.skipComment
  if !isLineEnd c.peek then none
  return ((chomping, size), c.lineBreak.2)

/-- Blank lines at the start of a block scalar, and the greatest column that spaces reach there. -/
def blockIndentation : Nat → Nat → Cursor → List Char × Nat × Cursor
  | 0, widest, c => ([], widest, c)
  | fuel + 1, widest, c =>
    if c.peek = ' ' then blockIndentation fuel (max widest c.next.column) c.next
    else if isBreak c.peek then
      let (b, c) := c.lineBreak
      let (more, widest, c) := blockIndentation fuel widest c
      (b ++ more, widest, c)
    else ([], widest, c)

/-- Blank lines inside a block scalar, up to the indentation of the next line. -/
def blockBreaks (indent : Nat) : Nat → Cursor → List Char × Cursor
  | 0, c => ([], c)
  | fuel + 1, c =>
    let c := c.skipIndent indent
    if isBreak c.peek then
      let (b, c) := c.lineBreak
      let (more, c) := blockBreaks indent fuel c
      (b ++ more, c)
    else ([], c)

/-- The lines of a block scalar, with `breaks` before the next of them. -/
def blockLines (folded : Bool) (chomping : Chomping) (indent : Nat) :
    Nat → List Char → Cursor → List Char × Cursor
  | 0, _, c => ([], c)
  | fuel + 1, breaks, c =>
    let inside (c : Cursor) : Bool := c.column == indent && c.peek != endMark
    let isText (ch : Char) : Bool := !(ch == ' ' || ch == '\t')
    if inside c then
      let starts := isText c.peek
      let (line, c) := c.takeWhile fun ch => !isLineEnd ch
      let (ended, c) := c.lineBreak
      let (more, c) := blockBreaks indent (c.rest.length + 1) c
      if inside c then
        let between :=
          if folded && ended == ['\n'] && starts && isText c.peek then
            if more.isEmpty then [' '] else []
          else ended
        let (others, c) := blockLines folded chomping indent fuel more c
        (breaks ++ line ++ between ++ others, c)
      else
        let tail :=
          (if chomping = .strip then [] else ended) ++ (if chomping = .keep then more else [])
        (breaks ++ line ++ tail, c)
    else (if chomping = .keep then breaks else [], c)

/-- A block scalar, from its sign on, in a block that is indented by `indent`. -/
def blockScalar (indent : Int) (c : Cursor) : Option (String × Cursor) := do
  let folded := c.peek == '>'
  let ((chomping, size), c) ← blockHeader c.next
  let least := (max 1 (indent + 1)).toNat
  let (breaks, width, c) :=
    match size with
    | some n =>
      let width := least + n - 1
      let (breaks, c) := blockBreaks width (c.rest.length + 1) c
      (breaks, width, c)
    | none =>
      let (breaks, widest, c) := blockIndentation (c.rest.length + 1) 0 c
      (breaks, max least widest, c)
  let (found, c) := blockLines folded chomping width (c.rest.length + 1) breaks c
  return (String.ofList found, c)

end PromptMarkup.Yaml
