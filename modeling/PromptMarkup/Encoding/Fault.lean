/-!
# Failed decoding and encoding
-/

namespace PromptMarkup.Encoding

/-- Why bytes could not be read as text, or a text not be written as bytes. -/
inductive Fault where
  /-- No encoding has this name. -/
  | unknown (name : String)
  /-- The name is that of a conversion that does not give text. -/
  | notText (name : String) (advice : String)
  /-- The encoding has characters of several bytes where only single bytes are supported. -/
  | multiByte
  /-- Some bytes have no meaning in the encoding. -/
  | undecodable (reason : String)
  /-- A UTF-16 or UTF-32 text that must say its byte order does not. -/
  | noByteOrderMark (name : String)
  /-- The encoding never gives a text, or not in the way that one is asked for. -/
  | refused (reason : String)
  /-- The decoder failed in a way of its own. -/
  | raised (className reason : String)
  /-- Some code points have no bytes. -/
  | unencodable (reason : String)
  deriving DecidableEq, Repr

namespace Fault

/-- The class that a report gives the fault. -/
def className : Fault → String
  | unknown _ => "LookupError"
  | notText _ _ => "LookupError"
  | multiByte => "ValueError"
  | undecodable _ => "UnicodeDecodeError"
  | noByteOrderMark _ => "UnicodeError"
  | refused _ => "UnicodeError"
  | raised className _ => className
  | unencodable _ => "UnicodeEncodeError"

def message : Fault → String
  | unknown name => "unknown encoding: " ++ name
  | notText name advice =>
    "'" ++ name ++ "' is not a text encoding; use " ++ advice ++ " to handle arbitrary codecs"
  | multiByte => "multi-byte encodings are not supported"
  | undecodable reason => reason
  | noByteOrderMark name => name ++ " stream does not start with BOM"
  | refused reason => reason
  | raised _ reason => reason
  | unencodable reason => reason

end Fault

end PromptMarkup.Encoding
