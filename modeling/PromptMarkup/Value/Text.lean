import PromptMarkup.Text.Lines
import PromptMarkup.Text.Quoted
import PromptMarkup.Value.Basic

/-!
# Values as text

How a value is shown in a message: texts are quoted, mappings and sets stand in braces, and moments in time are shown
with all their parts.  Where a collection stands in itself, dots stand for it.
-/

namespace PromptMarkup

namespace Timestamp

/-- The distance from universal time in seconds, split into days and a rest that is not negative. -/
def offsetText (minutes : Int) : String :=
  if minutes = 0 then "datetime.timezone.utc"
  else
    let seconds := minutes * 60
    let days := seconds.fdiv 86400
    let rest := seconds.fmod 86400
    let fields :=
      (if days = 0 then [] else ["days=" ++ toString days])
      ++ (if rest = 0 then [] else ["seconds=" ++ toString rest])
    "datetime.timezone(datetime.timedelta(" ++ Text.join ", " fields ++ "))"

/-- All parts of a timestamp; seconds are left out when they and all below them are zero. -/
def text (t : Timestamp) : String :=
  let seconds :=
    if t.microsecond ≠ 0 then [toString t.second, toString t.microsecond]
    else if t.second ≠ 0 then [toString t.second] else []
  let zone := match t.offset with
    | none => []
    | some m => ["tzinfo=" ++ offsetText m]
  "datetime.datetime(" ++ Text.join ", "
    ([toString t.year, toString t.month, toString t.day, toString t.hour, toString t.minute]
      ++ seconds ++ zone) ++ ")"

end Timestamp

/-! ### Scalars -/

namespace Scalar

/-- How a scalar is shown inside another value. -/
def shown : Scalar → String
  | null => "None"
  | bool true => "True"
  | bool false => "False"
  | int n => toString n
  | float x => x.text
  | str s => Text.quote s
  | unpaired points => Text.quotePoints points
  | bytes bs => Text.quoteBytes bs
  | date y m d =>
    "datetime.date(" ++ toString y ++ ", " ++ toString m ++ ", " ++ toString d ++ ")"
  | timestamp t => t.text

/-- The name of a scalar's type. -/
def typeName : Scalar → String
  | null => "NoneType"
  | bool _ => "bool"
  | int _ => "int"
  | float _ => "float"
  | str _ => "str"
  | unpaired _ => "str"
  | bytes _ => "bytes"
  | date _ _ _ => "date"
  | timestamp _ => "datetime"

end Scalar

/-! ### Collections -/

def listText (items : List String) : String := "[" ++ Text.join ", " items ++ "]"

def pairText (x y : String) : String := "(" ++ x ++ ", " ++ y ++ ")"

def mapText (entries : List (String × String)) : String :=
  "\x7b" ++ Text.join ", " (entries.map fun e => e.1 ++ ": " ++ e.2) ++ "\x7d"

def setText (members : List String) : String :=
  if members.isEmpty then "set()" else "\x7b" ++ Text.join ", " members ++ "\x7d"

namespace Collection

/-- How a collection is shown whose members are told as texts. -/
def text : Collection String → String
  | list items => listText items
  | pair x y => pairText x y
  | map entries => mapText (entries.map fun e => (e.1.shown, e.2))
  | set members => setText (members.map Scalar.shown)

variable {α : Type}

/-- What stands for a collection inside itself. -/
def again : Collection α → String
  | list _ => "[...]"
  | pair _ _ => "(...)"
  | map _ => "\x7b...\x7d"
  | set _ => "set(...)"

def typeName : Collection α → String
  | list _ => "list"
  | pair _ _ => "tuple"
  | map _ => "dict"
  | set _ => "set"

end Collection

/-- How a linked collection is shown.  The labels that are free belong to those that are not being shown around it. -/
def Cells.shown (cells : Cells) (free : List Label) (label : Label) : String :=
  match cells.lookup label with
  | none => Scalar.null.shown
  | some c =>
    Collection.text (c.mapMembers fun
      | .inl s => s.shown
      | .inr l =>
        if l ∈ free then shown cells (free.erase l) l
        else ((cells.lookup l).map Collection.again).getD Scalar.null.shown)
termination_by free.length
decreasing_by
  rename_i h
  rw [List.length_erase_of_mem h]
  exact Nat.sub_lt (List.length_pos_of_mem h) Nat.one_pos

/-! ### Values -/

namespace Value

mutual

/-- How a value is shown inside another one. -/
def shown : Value → String
  | scalar s => s.shown
  | list xs => listText (shownAll xs)
  | pair x y => pairText x.shown y.shown
  | map es => mapText (shownEntries es)
  | set xs => setText (shownAll xs)
  | linked cells label => cells.shown ((cells.map (·.1)).erase label) label

def shownAll : List Value → List String
  | [] => []
  | x :: r => x.shown :: shownAll r

def shownEntries : List (Value × Value) → List (String × String)
  | [] => []
  | (k, v) :: r => (k.shown, v.shown) :: shownEntries r

end

/-- How a value is shown by itself: a text without marks, all else as inside another value. -/
def text : Value → String
  | str s => s
  | v => v.shown

/-- The name of a value's type. -/
def typeName : Value → String
  | scalar s => s.typeName
  | list _ => "list"
  | pair _ _ => "tuple"
  | map _ => "dict"
  | set _ => "set"
  | linked cells label => ((cells.lookup label).map Collection.typeName).getD Scalar.null.typeName

end Value

end PromptMarkup
