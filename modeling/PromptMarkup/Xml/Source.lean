import PromptMarkup.Encoding.Codec
import PromptMarkup.Xml.Prolog

/-!
# The characters of a document

A document starts in UTF-8 or in UTF-16, as its first bytes show, and may go on in another encoding once its declaration
names one.  The characters end where the bytes end, or at the first bytes that are no character of a document.
-/

namespace PromptMarkup.Xml

open Encoding

/-- How a document's bytes are read. -/
inductive Charset where
  | utf8
  | utf16 (order : ByteOrder)
  | ascii
  /-- Every byte is read by itself. -/
  | bytes (table : Array Char)

/-- Characters, and how they end. -/
structure Chars where
  chars : List Char
  ending : Ending
  deriving DecidableEq, Repr

/-- One more character before others, if a document may hold it. -/
def Chars.cons (n : Nat) (c : Chars) : Chars :=
  if isAllowed n then { c with chars := Char.ofNat n :: c.chars } else ⟨[], .invalid⟩

/-- How many more bytes a character has whose first byte is this one, and the bits that the first byte gives; the least
number that needs so many bytes. -/
def utf8Lead (b : UInt8) : Option (Nat × Nat × Nat) :=
  let n := b.toNat
  if n < 0xC0 then none
  else if n < 0xE0 then some (1, n - 0xC0, 0x80)
  else if n < 0xF0 then some (2, n - 0xE0, 0x800)
  else if n < 0xF5 then some (3, n - 0xF0, 0x10000)
  else none

/-- The bits of bytes that continue a character. -/
def tailBits (acc : Nat) : List UInt8 → Option Nat
  | [] => some acc
  | b :: r => if 0x80 ≤ b && b < 0xC0 then tailBits (acc * 64 + (b.toNat - 0x80)) r else none

/-- The characters of UTF-8 bytes; the counter skips the bytes that belong to a character already read. -/
def readUtf8 (skip : Nat) : List UInt8 → Chars
  | [] => ⟨[], .clean⟩
  | b :: r =>
    match skip with
    | k + 1 => readUtf8 k r
    | 0 =>
      if b < 0x80 then
        if isAllowed b.toNat then (readUtf8 0 r).cons b.toNat else ⟨[], .invalid⟩
      else
        match utf8Lead b with
        | none => ⟨[], .invalid⟩
        | some (more, bits, least) =>
          if (r.take more).length < more then ⟨[], .partialCharacter⟩
          else
            match tailBits bits (r.take more) with
            | none => ⟨[], .invalid⟩
            | some n => if n < least then ⟨[], .invalid⟩ else (readUtf8 more r).cons n

/-- The characters of UTF-16 bytes.  The unit behind the first half of a pair counts as its second half. -/
def readUtf16 (order : ByteOrder) : List UInt8 → Chars
  | [] => ⟨[], .clean⟩
  | [_] => ⟨[], .halfUnit⟩
  | a :: b :: r =>
    let n := Utf16.unit order a b
    if Utf16.isLead n then
      match r with
      | c :: d :: t =>
        let m := Utf16.unit order c d
        (readUtf16 order t).cons (0x10000 + n % 1024 * 1024 + m % 1024)
      | _ => ⟨[], .partialCharacter⟩
    else if isAllowed n then (readUtf16 order r).cons n
    else ⟨[], .invalid⟩

/-- The characters of bytes that are read by themselves. -/
def readBytes (char? : UInt8 → Option Nat) : List UInt8 → Chars
  | [] => ⟨[], .clean⟩
  | b :: r =>
    match char? b with
    | some n => if isAllowed n then (readBytes char? r).cons n else ⟨[], .invalid⟩
    | none => ⟨[], .invalid⟩

namespace Charset

/-- How many bytes the least unit has. -/
def unitSize : Charset → Nat
  | utf16 _ => 2
  | _ => 1

def read (c : Charset) (bs : List UInt8) : Chars :=
  match c with
  | utf8 => readUtf8 0 bs
  | utf16 order => readUtf16 order bs
  | ascii => readBytes (fun b => if b < 0x80 then some b.toNat else none) bs
  | bytes table =>
    readBytes (fun b =>
      let c := table.getD b.toNat hole
      if c == hole then none else some c.toNat) bs

/-- The table of the encoding that reads every byte as the character of its number. -/
def latin1 : Charset := bytes (((List.range 256).map Char.ofNat).toArray)

end Charset

/-- What the first bytes of a document show. -/
inductive Opening where
  /-- A charset, and how many bytes of a byte order mark come first. -/
  | charset (c : Charset) (mark : Nat)
  /-- Nothing yet: the only byte could start several things. -/
  | undecided

/-- The charset that the first bytes show. -/
def detect : List UInt8 → Opening
  | [] => .charset .utf8 0
  | [b] => if [0xFE, 0xFF, 0xEF, 0x00, 0x3C].contains b then .undecided else .charset .utf8 0
  | 0xFE :: 0xFF :: _ => .charset (.utf16 .big) 2
  | 0xFF :: 0xFE :: _ => .charset (.utf16 .little) 2
  | [0xEF, 0xBB] => .undecided
  | 0xEF :: 0xBB :: 0xBF :: _ => .charset .utf8 3
  | a :: b :: _ =>
    if a = 0 then .charset (.utf16 .big) 0
    else if b = 0 then .charset (.utf16 .little) 0
    else .charset .utf8 0

/-- What a declared encoding means for a document. -/
inductive Declared where
  /-- The rest of the document is read so. -/
  | charset (c : Charset)
  /-- The document is not in that encoding. -/
  | incorrect
  /-- The encoding cannot be used for documents. -/
  | unusable
  /-- The name is that of no encoding of single bytes. -/
  | fault (f : Encoding.Fault)

/-- Whether the table of an encoding gives markup its usual bytes: an ASCII character that can stand in markup must be at its own
place, and nowhere else. -/
def keepsMarkup (table : Array Char) : Bool :=
  let isMarkup (n : Nat) : Bool :=
    n == 9 || n == 10 || n == 13 || (32 ≤ n && n < 127 && !([36, 64, 92, 94, 96, 123, 125, 126].contains n))
  (List.range 256).all fun i =>
    let c := (table.getD i hole).toNat
    (if i < 128 && isMarkup i then c == i else true) && (if isMarkup c then c == i else true)

/-- Encodings that cannot tell what every single byte stands for, and what they say when they are asked. -/
def bytewiseRefusals : List (String × String) :=
  [(undefinedName, undefinedReason), ("idna", "Unsupported error handling replace")]

/-- The charset of an encoding that is known by name only. -/
def namedCharset (name : String) : Declared :=
  let listed := listedName name
  if conversionNames.contains listed then .fault (.notText name "codecs.decode()")
  else if listed = "punycode" then
    .fault (.undecodable "'ascii' codec can't decode byte 0x80 in position 82: ordinal not in range(128)")
  else if let some reason := bytewiseRefusals.lookup listed then
    .fault (.refused ("decoding with '" ++ name ++ "' codec failed (UnicodeError: " ++ reason ++ ")"))
  else
    match byteTable? listed with
    | some table => if keepsMarkup table then .charset (.bytes table) else .unusable
    | none =>
      if ["utf_8", "utf_8_sig"].contains listed then .charset .ascii
      else if multiByteNames.contains listed
          || ["utf_16", "utf_16_le", "utf_16_be", "utf_32", "utf_32_le", "utf_32_be"].contains listed
      then .fault .multiByte
      else .fault (.unknown name)

/-- The charset that a declared encoding means for a document read in `current` so far. -/
def declaredCharset (current : Charset) (name : String) : Declared :=
  let narrow (c : Charset) : Declared :=
    if current.unitSize = 1 then .charset c else .incorrect
  match name.map Char.toUpper with
  | "UTF-8" => narrow .utf8
  | "ISO-8859-1" => narrow Charset.latin1
  | "US-ASCII" => narrow .ascii
  | "UTF-16" => if current.unitSize = 2 then .charset current else .incorrect
  | "UTF-16BE" =>
    match current with
    | .utf16 .big => .charset current
    | _ => .incorrect
  | "UTF-16LE" =>
    match current with
    | .utf16 .little => .charset current
    | _ => .incorrect
  | _ => namedCharset name

end PromptMarkup.Xml
