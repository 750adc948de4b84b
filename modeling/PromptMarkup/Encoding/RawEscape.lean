import PromptMarkup.Encoding.Fault
import PromptMarkup.Encoding.Undecodable
import PromptMarkup.Text.CodePoint

/-!
# Raw escapes

An encoding in which every byte is the character of its number, but for escapes of four or eight hexadecimal digits.  They
can name any code point, halves of pairs too.  A backslash in front of anything else stands for itself, and so does what is
behind it.
-/

namespace PromptMarkup.Encoding.RawEscape

/-- The value of a hexadecimal digit. -/
def digit? (b : UInt8) : Option Nat :=
  if 0x30 ≤ b && b ≤ 0x39 then some (b.toNat - 0x30)
  else if 0x41 ≤ b && b ≤ 0x46 then some (b.toNat - 0x37)
  else if 0x61 ≤ b && b ≤ 0x66 then some (b.toNat - 0x57)
  else none

/-- An escape that is being read. -/
structure Escape where
  /-- The position of its backslash. -/
  start : Nat
  /-- What is said when digits are missing. -/
  truncated : String
  /-- How many bytes have been read. -/
  got : Nat
  /-- The digits read so far, as a number. -/
  number : Nat
  /-- How many digits are still missing. -/
  owed : Nat

/-- What the next byte is read as. -/
inductive State where
  | plain
  /-- Behind a backslash. -/
  | backslash
  | escape (e : Escape)

/-- The escape that a byte behind a backslash opens. -/
def opening (position : Nat) (b : UInt8) : Option Escape :=
  if b = 0x75 then some ⟨position - 1, "truncated \\uXXXX escape", 2, 0, 4⟩
  else if b = 0x55 then some ⟨position - 1, "truncated \\UXXXXXXXX escape", 2, 0, 8⟩
  else none

/-- The fault of an escape. -/
def Escape.undecodable (e : Escape) (reason : String) : Undecodable := ⟨e.start, e.got, 0x5C, reason⟩

/-- The code points of the bytes from a position on. -/
def decodeFrom (position : Nat) (s : State) : List UInt8 → Except Undecodable (List CodePoint)
  | [] =>
    match s with
    | .plain => .ok []
    | .backslash => .ok [.char '\\']
    | .escape e => .error (e.undecodable e.truncated)
  | b :: r =>
    match s with
    | .plain =>
      if b = 0x5C then decodeFrom (position + 1) .backslash r
      else (CodePoint.ofNat b.toNat :: ·) <$> decodeFrom (position + 1) .plain r
    | .backslash =>
      match opening position b with
      | some e => decodeFrom (position + 1) (.escape e) r
      | none => (fun ps => .char '\\' :: .ofNat b.toNat :: ps) <$> decodeFrom (position + 1) .plain r
    | .escape e =>
      match digit? b with
      | none => .error (e.undecodable e.truncated)
      | some d =>
        let e := { e with got := e.got + 1, number := e.number * 16 + d, owed := e.owed - 1 }
        if 0 < e.owed then decodeFrom (position + 1) (.escape e) r
        else if 0x10FFFF < e.number then .error (e.undecodable "\\Uxxxxxxxx out of range")
        else (CodePoint.ofNat e.number :: ·) <$> decodeFrom (position + 1) .plain r

/-- The code points of bytes. -/
def decode (bs : List UInt8) : Except Undecodable (List CodePoint) := decodeFrom 0 .plain bs

end PromptMarkup.Encoding.RawEscape
