import PromptMarkup.Validation.Checked

/-!
# Violations as text

All violations of a value in one text: each has its place, its message, and the value that was found with its
type.  The text of a long value is cut in the middle.
-/

namespace PromptMarkup

/-- The characters from the start of a text that take up at most some bytes. -/
def takeBytes : Nat → List Char → List Char
  | _, [] => []
  | n, c :: r => if c.utf8Size ≤ n then c :: takeBytes (n - c.utf8Size) r else []

/-- The longest text that is shown whole, in bytes. -/
def maxShown : Nat := 50

/-- A text, cut in the middle if it is too long. -/
def shortened (s : String) : String :=
  if s.utf8ByteSize > maxShown then
    String.ofList (takeBytes 25 s.toList) ++ "..."
      ++ String.ofList (takeBytes 24 s.toList.reverse).reverse
  else s

/-- One step of a place.  A name with a dot stands between marks. -/
def Place.shown (p : Place) : String :=
  match p with
  | .key name => if name.toList.contains '.' then "\x60" ++ name ++ "\x60" else name
  | .index i => toString i

/-- Where a complaint is explained. -/
def Complaint.address (c : Complaint) : String :=
  Text.join "/" ["https:", "", "errors.pydantic.dev", "2.14", "v", c.code]

def Violation.text (v : Violation) : String :=
  (if v.place.isEmpty then "" else Text.join "." (v.place.map Place.shown) ++ "\n")
    ++ "  " ++ v.complaint.message ++ " [type=" ++ v.complaint.code
    ++ ", input_value=" ++ shortened v.value.shown ++ ", input_type=" ++ v.value.typeName ++ "]\n"
    ++ "    For further information visit " ++ v.complaint.address

/-- All violations of a value of the named kind. -/
def violationsText (name : String) (vs : List Violation) : String :=
  toString vs.length ++ (if vs.length = 1 then " validation error for " else " validation errors for ")
    ++ name ++ "\n" ++ Text.join "\n" (vs.map Violation.text)

end PromptMarkup
