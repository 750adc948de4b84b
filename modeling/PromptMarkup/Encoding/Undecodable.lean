import PromptMarkup.Encoding.Fault
import PromptMarkup.Text.Quoted

/-!
# Bytes without meaning

A decoder stops at the first bytes that have no meaning in its encoding and says where they are.
-/

namespace PromptMarkup.Encoding

/-- Bytes that cannot be decoded: the first of them, its position, and how many there are. -/
structure Undecodable where
  position : Nat
  size : Nat := 1
  byte : UInt8
  reason : String
  deriving DecidableEq, Repr

/-- The text of a fault of the named encoding. -/
def Undecodable.text (u : Undecodable) (encoding : String) : String :=
  "'" ++ encoding ++ "' codec can't decode " ++
    (if u.size = 1 then
      "byte 0x" ++ String.ofList (Text.hexDigits 2 u.byte.toNat) ++ " in position "
        ++ toString u.position
    else
      "bytes in position " ++ toString u.position ++ "-" ++ toString (u.position + u.size - 1))
    ++ ": " ++ u.reason

/-- The fault of the named encoding. -/
def Undecodable.fault (u : Undecodable) (encoding : String) : Fault :=
  .undecodable (u.text encoding)

end PromptMarkup.Encoding
