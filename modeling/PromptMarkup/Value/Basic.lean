import PromptMarkup.Number.Binary64
import PromptMarkup.Text.CodePoint

/-!
# Values of configuration files

Scalars, lists, mappings and sets.  A mapping keeps its entries in the order in which their keys first
appeared; storing under a key that is there replaces the value and keeps the place.  Numbers that are equal are the
same key, whether they are integers, floating-point numbers or truth values.

Collections may hold themselves.  Such collections are linked: each has a label, and where one holds another it has the
label of that.  The outermost layer of a linked collection is told like that of any other (`Value.opened`).
-/

namespace PromptMarkup

/-- A moment of a day, with its distance from universal time in minutes when that is known. -/
structure Timestamp where
  year : Nat
  month : Nat
  day : Nat
  hour : Nat
  minute : Nat
  second : Nat
  microsecond : Nat := 0
  offset : Option Int := none
  deriving DecidableEq, Repr

/-- A value that is not made of others. -/
inductive Scalar where
  | null
  | bool (b : Bool)
  | int (n : Int)
  | float (x : Binary64)
  | str (s : String)
  /-- A text with halves of pairs. -/
  | unpaired (points : List CodePoint)
  | bytes (bs : List UInt8)
  | date (year month day : Nat)
  | timestamp (t : Timestamp)
  deriving DecidableEq, Repr, Inhabited

/-- A collection whose members are given in some way.  Keys and members of sets are scalars. -/
inductive Collection (α : Type) where
  | list (items : List α)
  | pair (x y : α)
  | map (entries : List (Scalar × α))
  | set (members : List Scalar)
  deriving Repr

namespace Collection

/-- The same collection with its members given in another way. -/
def mapMembers {α β : Type} (f : α → β) : Collection α → Collection β
  | .list items => .list (items.map f)
  | .pair x y => .pair (f x) (f y)
  | .map entries => .map (entries.map fun e => (e.1, f e.2))
  | .set members => .set members

/-- The same collection with its members given in another way, if all of them can be. -/
def mapMembers? {α β : Type} (f : α → Option β) : Collection α → Option (Collection β)
  | .list items => do return .list (← items.mapM f)
  | .pair x y => do return .pair (← f x) (← f y)
  | .map entries => do return .map (← entries.mapM fun e => do return (e.1, ← f e.2))
  | .set members => some (.set members)

end Collection

/-- What linked collections are called: by their number, and a pair by its place in the list that holds it. -/
inductive Label where
  | node (i : Nat)
  | pairIn (i k : Nat)
  deriving DecidableEq, Repr

/-- A part of a linked collection: a scalar, or the label of another one. -/
abbrev Part := Scalar ⊕ Label

/-- Collections with their labels. -/
abbrev Cells := List (Label × Collection Part)

/-- A value of a configuration file. -/
inductive Value where
  | scalar (s : Scalar)
  | list (xs : List Value)
  | pair (x y : Value)
  | map (entries : List (Value × Value))
  | set (members : List Value)
  | linked (cells : Cells) (label : Label)
  deriving Repr, Inhabited

/-- How many days lie before the first of January of a year. -/
def daysBeforeYear (y : Nat) : Nat :=
  let p := y - 1
  p * 365 + p / 4 - p / 100 + p / 400

def isLeapYear (y : Nat) : Bool := y % 4 = 0 && (y % 100 ≠ 0 || y % 400 = 0)

def daysInMonth (y m : Nat) : Nat :=
  if m = 2 then if isLeapYear y then 29 else 28
  else if m = 4 || m = 6 || m = 9 || m = 11 then 30 else 31

/-- The day of a date, counted from the first day of year 1. -/
def dayNumber (y m d : Nat) : Nat :=
  daysBeforeYear y + (List.range (m - 1)).foldl (fun n i => n + daysInMonth y (i + 1)) 0 + d

namespace Timestamp

/-- Microseconds since the first day of year 1, on the timestamp's own clock. -/
def localInstant (t : Timestamp) : Int :=
  (((dayNumber t.year t.month t.day * 24 + t.hour) * 60 + t.minute) * 60 + t.second : Nat)
    * 1000000 + t.microsecond

/-- Two timestamps are the same moment.  One with a known distance from universal time never equals one
without. -/
def same (s t : Timestamp) : Bool :=
  match s.offset, t.offset with
  | none, none => s.localInstant == t.localInstant
  | some a, some b =>
    s.localInstant - a * 60000000 == t.localInstant - b * 60000000
  | _, _ => false

end Timestamp

namespace Value

@[match_pattern] abbrev null : Value := scalar .null

@[match_pattern] abbrev bool (b : Bool) : Value := scalar (.bool b)

@[match_pattern] abbrev int (n : Int) : Value := scalar (.int n)

@[match_pattern] abbrev float (x : Binary64) : Value := scalar (.float x)

@[match_pattern] abbrev str (s : String) : Value := scalar (.str s)

@[match_pattern] abbrev unpaired (points : List CodePoint) : Value := scalar (.unpaired points)

@[match_pattern] abbrev bytes (bs : List UInt8) : Value := scalar (.bytes bs)

@[match_pattern] abbrev date (year month day : Nat) : Value := scalar (.date year month day)

@[match_pattern] abbrev timestamp (t : Timestamp) : Value := scalar (.timestamp t)

/-! ### Collections -/

/-- The value of a part of linked collections. -/
def ofPart (cells : Cells) : Part → Value
  | .inl s => scalar s
  | .inr label => linked cells label

/-- A collection of values. -/
def ofCollection : Collection Value → Value
  | .list xs => list xs
  | .pair x y => pair x y
  | .map entries => map (entries.map fun e => (scalar e.1, e.2))
  | .set members => set (members.map scalar)

/-- A value whose outermost layer is told. -/
def opened : Value → Value
  | linked cells label => ((cells.lookup label).map fun c => ofCollection (c.mapMembers (ofPart cells))).getD null
  | v => v

/-! ### Keys -/

/-- The number that a scalar counts as when it is a key. -/
def number? : Value → Option Binary64
  | bool b => some (Binary64.ofInt (if b then 1 else 0))
  | int n => some (Binary64.ofInt n)
  | float x => some x
  | _ => none

/-- The integer that a scalar is, if it is one. -/
def integer? : Value → Option Int
  | bool b => some (if b then 1 else 0)
  | int n => some n
  | float x => x.toInt?
  | _ => none

/-- Whether two scalars are the same key. -/
def sameKey : Value → Value → Bool
  | null, null => true
  | str s, str t => s == t
  | unpaired s, unpaired t => s == t
  | bytes s, bytes t => s == t
  | date y m d, date y' m' d' => y == y' && m == m' && d == d'
  | timestamp s, timestamp t => s.same t
  | v, w =>
    match v.integer?, w.integer? with
    | some a, some b => a == b
    | none, none =>
      match v.number?, w.number? with
      | some x, some y => x == y
      | _, _ => false
    | _, _ => false

/-- Whether a value can be a key of a mapping or a member of a set. -/
def isScalar : Value → Bool
  | scalar _ => true
  | _ => false

/-! ### Entries -/

/-- The value stored under a key. -/
def lookup (key : Value) : List (Value × Value) → Option Value
  | [] => none
  | (k, v) :: r => if sameKey k key then some v else lookup key r

/-- Entries with a value stored under a key. -/
def insert (entries : List (Value × Value)) (key value : Value) : List (Value × Value) :=
  match entries with
  | [] => [(key, value)]
  | (k, v) :: r => if sameKey k key then (k, value) :: r else (k, v) :: insert r key value

end Value

namespace Collection

variable {α : Type}

/-- Entries of a collection with a member stored under a key. -/
def insert (entries : List (Scalar × α)) (key : Scalar) (member : α) : List (Scalar × α) :=
  match entries with
  | [] => [(key, member)]
  | (k, a) :: r =>
    if Value.sameKey (.scalar k) (.scalar key) then (k, member) :: r else (k, a) :: insert r key member

/-- Entries without repeated keys; a later one wins over an earlier one. -/
def ofEntries (entries : List (Scalar × α)) : List (Scalar × α) :=
  entries.foldl (fun found e => insert found e.1 e.2) []

end Collection

end PromptMarkup
