import PromptMarkup.Encoding.Undecodable
import PromptMarkup.Encoding.Unencodable

/-!
# UTF-8

Text as bytes and bytes as text.  The first byte of a character says how many more follow and bounds the next one, so
that every character has one form only and surrogates have none.
-/

namespace PromptMarkup.Encoding.Utf8

/-- The bytes of a character. -/
def encodeChar (c : Char) : List UInt8 :=
  let n := c.toNat
  let tail (m : Nat) : UInt8 := UInt8.ofNat (0x80 + m % 64)
  if n < 0x80 then [UInt8.ofNat n]
  else if n < 0x800 then [UInt8.ofNat (0xC0 + n / 64), tail n]
  else if n < 0x10000 then [UInt8.ofNat (0xE0 + n / 4096), tail (n / 64), tail n]
  else [UInt8.ofNat (0xF0 + n / 262144), tail (n / 4096), tail (n / 64), tail n]

/-- The bytes of a text. -/
def encode (s : String) : List UInt8 := s.toList.flatMap encodeChar

/-- The bytes of code points, if none of them is half of a pair. -/
def encodePoints (ps : List CodePoint) : Except Unencodable (List UInt8) := encode <$> charsText ps

/-- A character whose first bytes have been read. -/
structure Partial where
  start : Nat
  first : UInt8
  /-- How many bytes have been read. -/
  got : Nat
  /-- The bits read so far. -/
  bits : Nat
  /-- How many bytes are still missing. -/
  owed : Nat
  /-- The least and the greatest byte that may come next. -/
  low : UInt8
  high : UInt8

/-- What a character's first byte promises. -/
def opening (position : Nat) (b : UInt8) : Option Partial :=
  let start (bits owed : Nat) (low high : UInt8) : Option Partial :=
    some ⟨position, b, 1, bits, owed, low, high⟩
  let n := b.toNat
  if n < 0xC2 then none
  else if n < 0xE0 then start (n - 0xC0) 1 0x80 0xBF
  else if n = 0xE0 then start 0 2 0xA0 0xBF
  else if n = 0xED then start 0xD 2 0x80 0x9F
  else if n < 0xF0 then start (n - 0xE0) 2 0x80 0xBF
  else if n = 0xF0 then start 0 3 0x90 0xBF
  else if n < 0xF4 then start (n - 0xF0) 3 0x80 0xBF
  else if n = 0xF4 then start 4 3 0x80 0x8F
  else none

/-- The characters of the bytes from a position on, in the middle of a character or between two. -/
def decodeFrom (position : Nat) (p : Option Partial) : List UInt8 → Except Undecodable (List Char)
  | [] =>
    match p with
    | none => .ok []
    | some p => .error ⟨p.start, p.got, p.first, "unexpected end of data"⟩
  | b :: r =>
    match p with
    | none =>
      if b < 0x80 then (Char.ofNat b.toNat :: ·) <$> decodeFrom (position + 1) none r
      else
        match opening position b with
        | none => .error ⟨position, 1, b, "invalid start byte"⟩
        | some p => decodeFrom (position + 1) (some p) r
    | some p =>
      if p.low ≤ b && b ≤ p.high then
        let bits := p.bits * 64 + (b.toNat - 0x80)
        if p.owed ≤ 1 then (Char.ofNat bits :: ·) <$> decodeFrom (position + 1) none r
        else
          decodeFrom (position + 1)
            (some { p with got := p.got + 1, bits, owed := p.owed - 1, low := 0x80, high := 0xBF }) r
      else .error ⟨p.start, p.got, p.first, "invalid continuation byte"⟩

/-- The text of bytes. -/
def decode (bs : List UInt8) : Except Undecodable String :=
  String.ofList <$> decodeFrom 0 none bs

end PromptMarkup.Encoding.Utf8
