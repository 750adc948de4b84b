import PromptMarkup.Encoding.Undecodable

/-!
# UTF-16 and UTF-32

Encodings whose units have two or four bytes, in either order.
-/

namespace PromptMarkup.Encoding

/-- The order of the bytes of a unit. -/
inductive ByteOrder where
  | little
  | big
  deriving DecidableEq, Repr

/-- The ending of an encoding's name that says the byte order. -/
def ByteOrder.mark : ByteOrder → String
  | little => "le"
  | big => "be"

namespace Utf16

/-- The unit that two bytes stand for. -/
def unit (order : ByteOrder) (a b : UInt8) : Nat :=
  match order with
  | .little => b.toNat * 256 + a.toNat
  | .big => a.toNat * 256 + b.toNat

/-- The first half of a pair of units. -/
def isLead (n : Nat) : Bool := 0xD800 ≤ n && n < 0xDC00

/-- The second half of a pair of units. -/
def isTrail (n : Nat) : Bool := 0xDC00 ≤ n && n < 0xE000

/-- The character of a pair of units. -/
def pairChar (lead trail : Nat) : Char :=
  Char.ofNat (0x10000 + (lead - 0xD800) * 1024 + (trail - 0xDC00))

/-- The characters of the bytes from a position on. -/
def decodeFrom (order : ByteOrder) (position : Nat) : List UInt8 → Except Undecodable (List Char)
  | [] => .ok []
  | [a] => .error ⟨position, 1, a, "truncated data"⟩
  | a :: b :: r =>
    let n := unit order a b
    if isTrail n then .error ⟨position, 2, a, "illegal encoding"⟩
    else if isLead n then
      match r with
      | c :: d :: t =>
        let m := unit order c d
        if isTrail m then (pairChar n m :: ·) <$> decodeFrom order (position + 4) t
        else .error ⟨position, 2, a, "illegal UTF-16 surrogate"⟩
      | r => .error ⟨position, 2 + r.length, a, "unexpected end of data"⟩
    else (Char.ofNat n :: ·) <$> decodeFrom order (position + 2) r

end Utf16

namespace Utf32

/-- The number that four bytes stand for. -/
def unit (order : ByteOrder) (a b c d : UInt8) : Nat :=
  match order with
  | .little => ((d.toNat * 256 + c.toNat) * 256 + b.toNat) * 256 + a.toNat
  | .big => ((a.toNat * 256 + b.toNat) * 256 + c.toNat) * 256 + d.toNat

/-- The characters of the bytes from a position on. -/
def decodeFrom (order : ByteOrder) (position : Nat) : List UInt8 → Except Undecodable (List Char)
  | [] => .ok []
  | a :: b :: c :: d :: r =>
    let n := unit order a b c d
    if 0xD800 ≤ n && n < 0xE000 then
      .error ⟨position, 4, a, "code point in surrogate code point range(0xd800, 0xe000)"⟩
    else if 0x110000 ≤ n then .error ⟨position, 4, a, "code point not in range(0x110000)"⟩
    else (Char.ofNat n :: ·) <$> decodeFrom order (position + 4) r
  | a :: r => .error ⟨position, 1 + r.length, a, "truncated data"⟩

end Utf32

end PromptMarkup.Encoding
