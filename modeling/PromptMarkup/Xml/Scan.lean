import PromptMarkup.Xml.Characters
import PromptMarkup.Xml.Problem

/-!
# Scanning

Reading one syntactic unit from the start of a text: names, references, tags, comments, processing instructions.  A scan
finds its unit and the text behind it, or meets a character that cannot stand there, or runs out of text.
-/

namespace PromptMarkup.Xml

/-- The outcome of a scan. -/
inductive Scan (α : Type) where
  /-- The unit, and the text behind it. -/
  | found (a : α) (rest : List Char)
  /-- The text from the first character that cannot stand there. -/
  | bad (rest : List Char)
  /-- The text ends inside the unit. -/
  | short

namespace Scan

def map {α β : Type} (f : α → β) : Scan α → Scan β
  | found a r => found (f a) r
  | bad r => bad r
  | short => short

def bind {α β : Type} (s : Scan α) (f : α → List Char → Scan β) : Scan β :=
  match s with
  | found a r => f a r
  | bad r => bad r
  | short => short

end Scan

/-- A name without a colon. -/
def scanName : List Char → Scan String
  | [] => .short
  | c :: r =>
    if isNameStart c then
      .found (String.ofList (c :: r.takeWhile isNameChar)) (r.dropWhile isNameChar)
    else .bad (c :: r)

/-- A name, or two names with a colon between them. -/
def scanQualified (s : List Char) : Scan String :=
  (scanName s).bind fun first r =>
    match r with
    | ':' :: t =>
      (scanName t).bind fun second u =>
        match u with
        | ':' :: _ => .bad u
        | u => .found (first ++ ":" ++ second) u
    | r => .found first r

/-- What a reference refers to: an entity, or the character of a number. -/
inductive Reference where
  | entity (name : String)
  | char (n : Nat)
  deriving DecidableEq, Repr

def decimalValue (c : Char) : Nat := c.toNat - 48

def isHexDigit (c : Char) : Bool :=
  c.isDigit || ('a' ≤ c && c ≤ 'f') || ('A' ≤ c && c ≤ 'F')

def hexValue (c : Char) : Nat :=
  if c.isDigit then c.toNat - 48 else if c.toNat < 97 then c.toNat - 55 else c.toNat - 87

/-- A number to a base, up to the semicolon behind it.  Numbers past all characters stay there. -/
def scanNumber (isDigit : Char → Bool) (value : Char → Nat) (base n : Nat) :
    List Char → Scan Reference
  | [] => .short
  | ';' :: r => .found (.char n) r
  | c :: r =>
    if isDigit c then scanNumber isDigit value base (min (n * base + value c) 0x110000) r
    else .bad (c :: r)

/-- A reference, from behind its ampersand. -/
def scanReference : List Char → Scan Reference
  | [] => .short
  | ['#'] => .short
  | ['#', 'x'] => .short
  | '#' :: 'x' :: c :: r =>
    if isHexDigit c then scanNumber isHexDigit hexValue 16 0 (c :: r) else .bad (c :: r)
  | '#' :: c :: r =>
    if c.isDigit then scanNumber Char.isDigit decimalValue 10 0 (c :: r) else .bad (c :: r)
  | s =>
    (scanName s).bind fun name r =>
      match r with
      | [] => .short
      | ';' :: t => .found (.entity name) t
      | r => .bad r

/-- A comment, from behind its opening. -/
def scanComment : List Char → Scan Unit
  | '-' :: '-' :: '>' :: r => .found () r
  | ['-', '-'] => .short
  | '-' :: '-' :: r => .bad r
  | _ :: r => scanComment r
  | [] => .short

/-- The text up to the end of a processing instruction. -/
def scanInstructionEnd : List Char → Scan Unit
  | '?' :: '>' :: r => .found () r
  | _ :: r => scanInstructionEnd r
  | [] => .short

/-- A processing instruction, from behind its opening, and whether it is a declaration. -/
def scanInstruction (s : List Char) : Scan Bool :=
  (scanName s).bind fun target r =>
    let reserved := target.map Char.toLower == "xml"
    match r with
    | [] => .short
    | '?' :: t =>
      if reserved && target != "xml" then .bad r
      else
        match t with
        | [] => .short
        | '>' :: u => .found reserved u
        | t => .bad t
    | c :: t =>
      if isSpace c then
        if reserved && target != "xml" then .bad r
        else (scanInstructionEnd t).map fun _ => reserved
      else .bad r

/-- The given text. -/
def scanExactly : List Char → List Char → Scan Unit
  | [], s => .found () s
  | _ :: _, [] => .short
  | c :: cs, d :: s => if c = d then scanExactly cs s else .bad (d :: s)

/-- The opening of a character data section, from behind the bracket. -/
def scanCdataOpening (s : List Char) : Scan Unit :=
  if s.length < 6 then .short else scanExactly "CDATA[".toList s

/-- An attribute as it is written.  Places are counted in characters to the end of the text. -/
structure RawAttribute where
  name : String
  /-- The place of the name. -/
  place : Nat
  value : List Char
  /-- The place of the closing quotation mark. -/
  after : Nat

/-- An attribute's value up to the quotation mark that closes it. -/
def scanValue (mark : Char) : List Char → Scan (List Char)
  | [] => .short
  | c :: r =>
    if c = mark then .found [] r
    else if c = '<' then .bad (c :: r)
    else if c = '&' then
      match scanReference r with
      | .short => .short
      | .bad t => .bad t
      | .found _ _ => (scanValue mark r).map (c :: ·)
    else (scanValue mark r).map (c :: ·)

/-- The end of a tag, from the slash or the bracket on; says whether the element is empty. -/
def scanTagEnd : List Char → Scan Bool
  | [] => .short
  | '>' :: r => .found false r
  | ['/'] => .short
  | '/' :: '>' :: r => .found true r
  | '/' :: r => .bad r
  | s => .bad s

/-- One attribute, from its name on. -/
def scanAttribute (s : List Char) : Scan RawAttribute :=
  (scanQualified s).bind fun name r =>
    match r.dropWhile isSpace with
    | [] => .short
    | '=' :: t =>
      match t.dropWhile isSpace with
      | [] => .short
      | mark :: u =>
        if mark == '"' || mark == '\'' then
          (scanValue mark u).bind fun value v =>
            .found ⟨name, s.length, value, v.length + 1⟩ v
        else .bad (mark :: u)
    | r => .bad r

/-- The attributes of a tag and its end; `fuel` bounds their number. -/
def scanAttributes : Nat → List Char → Scan (List RawAttribute × Bool)
  | 0, _ => .short
  | fuel + 1, s =>
    (scanAttribute s).bind fun a r =>
      match r with
      | [] => .short
      | c :: t =>
        if isSpace c then
          match t.dropWhile isSpace with
          | [] => .short
          | d :: u =>
            if isNameStart d then
              (scanAttributes fuel (d :: u)).map fun (as, empty) => (a :: as, empty)
            else (scanTagEnd (d :: u)).map fun empty => ([a], empty)
        else (scanTagEnd (c :: t)).map fun empty => ([a], empty)

/-- A start tag as it is written. -/
structure RawTag where
  name : String
  attributes : List RawAttribute
  empty : Bool

/-- A start tag, from behind its opening bracket. -/
def scanStartTag (s : List Char) : Scan RawTag :=
  (scanQualified s).bind fun name r =>
    match r with
    | [] => .short
    | c :: t =>
      if isSpace c then
        match t.dropWhile isSpace with
        | [] => .short
        | d :: u =>
          if isNameStart d then
            (scanAttributes (u.length + 1) (d :: u)).map fun (as, empty) => ⟨name, as, empty⟩
          else (scanTagEnd (d :: u)).map fun empty => ⟨name, [], empty⟩
      else (scanTagEnd (c :: t)).map fun empty => ⟨name, [], empty⟩

/-- An end tag, from behind its opening.  Colons are not looked at: the name must be that of the start tag. -/
def scanEndTag : List Char → Scan String
  | [] => .short
  | c :: r =>
    if isNameStart c then
      let isPart (d : Char) : Bool := isNameChar d || d == ':'
      let name := String.ofList (c :: r.takeWhile isPart)
      let behind := r.dropWhile isPart
      match behind.dropWhile isSpace with
      | [] => .short
      | '>' :: t => .found name t
      | t => .bad t
    else .bad (c :: r)

end PromptMarkup.Xml
