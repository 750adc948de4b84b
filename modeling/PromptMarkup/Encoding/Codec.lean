import PromptMarkup.Encoding.Names
import PromptMarkup.Encoding.RawEscape
import PromptMarkup.Encoding.Tables
import PromptMarkup.Encoding.Utf8
import PromptMarkup.Encoding.Wide

/-!
# Encodings by name

An encoding's name is read without regard to case and punctuation.  Bytes are read as text by the encoding that the
name denotes.  Encodings of characters of several bytes and those that shift or escape are further ones, whose decoders
belong to the system.
-/

namespace PromptMarkup.Encoding

/-- A name in lower case with an underscore for every run of punctuation between letters and digits. -/
def normalName (name : String) : String :=
  let rec go (gap started : Bool) : List Char → List Char
    | [] => []
    | c :: r =>
      if c.isAlphanum || c == '.' then
        (if gap && started then ['_'] else []) ++ c.toLower :: go false true r
      else go true started r
  String.ofList (go false false name.toList)

/-- The name that an encoding is listed under. -/
def listedName (name : String) : String :=
  let n := normalName name
  match aliases.lookup n with
  | some m => m
  | none =>
    match aliases.lookup (n.map fun c => if c == '.' then '_' else c) with
    | some m => m
    | none => n

/-- The characters that a table lists, four digits each. -/
def tableChars : List Char → List Char
  | a :: b :: c :: d :: r =>
    let value (c : Char) : Nat := if c.isDigit then c.toNat - 48 else c.toNat - 55
    Char.ofNat (((value a * 16 + value b) * 16 + value c) * 16 + value d) :: tableChars r
  | _ => []

/-- The character that marks bytes without meaning in a table. -/
def hole : Char := Char.ofNat 0xFFFD

/-- The characters of all 256 bytes in a single-byte encoding. -/
def byteTable? (listed : String) : Option (Array Char) := do
  let upper ← upperTables.lookup listed
  let lower := match lowerTables.lookup listed with
    | some t => tableChars t.toList
    | none => (List.range 128).map Char.ofNat
  return (lower ++ tableChars upper.toList).toArray

/-- The characters of the bytes from a position on, each byte read by itself. -/
def decodeBytes (table : Array Char) (reason : String) (position : Nat) :
    List UInt8 → Except Undecodable (List Char)
  | [] => .ok []
  | b :: r =>
    let c := table.getD b.toNat hole
    if c == hole then .error ⟨position, 1, b, reason⟩
    else (c :: ·) <$> decodeBytes table reason (position + 1) r

/-- Bytes read as UTF-8 after the byte order mark that may stand before them. -/
def decodeSigned (bs : List UInt8) : Except Undecodable String :=
  match bs with
  | 0xEF :: 0xBB :: 0xBF :: r => Utf8.decode r
  | [0xEF, 0xBB] => .ok ""
  | [0xEF] => .ok ""
  | bs => Utf8.decode bs

/-- What is said of a fault of a wide encoding. -/
def wideFault (name : String) (order : ByteOrder) (u : Undecodable) : Fault :=
  u.fault (name ++ "-" ++ order.mark)

/-- Bytes read as UTF-16 in the given order. -/
def decode16 (order : ByteOrder) (position : Nat) (bs : List UInt8) : Except Fault String :=
  (Utf16.decodeFrom order position bs |>.mapError (wideFault "utf-16" order)).map String.ofList

/-- Bytes read as UTF-32 in the given order. -/
def decode32 (order : ByteOrder) (position : Nat) (bs : List UInt8) : Except Fault String :=
  (Utf32.decodeFrom order position bs |>.mapError (wideFault "utf-32" order)).map String.ofList

/-- Bytes read as UTF-16 in the order that their byte order mark says. -/
def decodeMarked16 (bs : List UInt8) : Except Fault String :=
  match bs with
  | 0xFF :: 0xFE :: r => decode16 .little 2 r
  | 0xFE :: 0xFF :: r => decode16 .big 2 r
  | [] => .ok ""
  | bs => do
    let _ ← decode16 .little 0 bs
    throw (.noByteOrderMark "UTF-16")

/-- Bytes read as UTF-32 in the order that their byte order mark says. -/
def decodeMarked32 (bs : List UInt8) : Except Fault String :=
  match bs with
  | 0xFF :: 0xFE :: 0 :: 0 :: r => decode32 .little 4 r
  | 0 :: 0 :: 0xFE :: 0xFF :: r => decode32 .big 4 r
  | [] => .ok ""
  | bs => do
    let _ ← decode32 .little 0 bs
    throw (.noByteOrderMark "UTF-32")

/-- What a system makes of bytes in further encodings, each under the name that it is listed under. -/
abbrev Decoders := String → List UInt8 → Except Fault (List CodePoint)

/-- Decoders that only know the ASCII characters of an encoding. -/
def asciiDecoders : Decoders := fun listed bs =>
  let ascii := ((List.range 128).map Char.ofNat).toArray
  (decodeBytes ascii "illegal multibyte sequence" 0 bs |>.mapError (·.fault listed)).map (·.map .char)

/-- Whether an encoding is read by a decoder of the system. -/
def isFurther (listed : String) : Bool := multiByteNames.contains listed || shiftingNames.contains listed

/-- Bytes read as code points in the encoding of the given name. -/
def decodePoints (decoders : Decoders) (name : String) (bs : List UInt8) : Except Fault (List CodePoint) :=
  let points (s : String) : List CodePoint := s.toList.map .char
  let utf8 := (Utf8.decode bs |>.mapError (·.fault "utf-8")).map points
  if name = "locale" then utf8
  else
    match listedName name with
    | "utf_8" => utf8
    | "utf_8_sig" => (decodeSigned bs |>.mapError (·.fault "utf-8")).map points
    | "utf_16" => (decodeMarked16 bs).map points
    | "utf_16_le" => (decode16 .little 0 bs).map points
    | "utf_16_be" => (decode16 .big 0 bs).map points
    | "utf_32" => (decodeMarked32 bs).map points
    | "utf_32_le" => (decode32 .little 0 bs).map points
    | "utf_32_be" => (decode32 .big 0 bs).map points
    | "raw_unicode_escape" => RawEscape.decode bs |>.mapError (·.fault "rawunicodeescape")
    | listed =>
      if conversionNames.contains listed then .error (.notText name "codecs.open()")
      else if listed = undefinedName then .error (.refused undefinedReason)
      else if isFurther listed then decoders listed bs
      else
        match byteTable? listed with
        | some table =>
          let (codec, reason) :=
            if listed = "ascii" then ("ascii", "ordinal not in range(128)")
            else ("charmap", "character maps to <undefined>")
          (decodeBytes table reason 0 bs |>.mapError (·.fault codec)).map (·.map .char)
        | none => .error (.unknown name)

/-- Bytes read as text in the encoding of the given name. -/
def decode (decoders : Decoders) (name : String) (bs : List UInt8) : Except Fault String :=
  (decodePoints decoders name bs).map Text.held

end PromptMarkup.Encoding
