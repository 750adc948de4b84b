import PromptMarkup.Encoding.Unencodable
import PromptMarkup.Number.Decimal
import PromptMarkup.Text.Integer
import PromptMarkup.Value.Basic
import PromptMarkup.Yaml.Node

/-!
# Values of YAML

The nodes of a document are read as collections, the outer ones before those inside them.  A mapping takes in the entries
of the mappings under its merge keys, behind which its own entries win.  Collections none of which holds itself are
written out as one value; if one does, all of them are linked.
-/

namespace PromptMarkup.Yaml

/-! ### Scalars -/

def boolOf? (text : String) : Option Bool :=
  boolWords.lookup (String.ofList (text.toList.map Char.toLower))

/-- A numeral without its sign, and whether the sign is a minus. -/
def signOf : List Char → Bool × List Char
  | '-' :: r => (true, r)
  | '+' :: r => (false, r)
  | r => (false, r)

/-- The integer of an unsigned numeral, which may be binary, octal, decimal, hexadecimal or to the base sixty. -/
def natOf? : List Char → Option Int
  | [] => none
  | ['0'] => some 0
  | '0' :: 'b' :: r => Text.intIn? 2 r
  | '0' :: 'x' :: r => Text.intIn? 16 r
  | '0' :: r => Text.intIn? 8 ('0' :: r)
  | cs => do
    let parts ← (Text.splitOn ':' cs).mapM fun p => Text.intOf? (String.ofList p)
    return parts.foldl (fun n d => 60 * n + d) 0

/-- The integer of a numeral; underscores in it have no meaning. -/
def intOf? (text : String) : Option Int :=
  let (negative, cs) := signOf (text.toList.filter (· != '_'))
  (natOf? cs).map fun n => if negative then -n else n

/-- The value of digits to the base sixty, the last one first. -/
def sexagesimalSum : List Binary64 → Nat → Binary64 → Option Binary64
  | [], _, sum => some sum
  | d :: ds, base, sum =>
    match Binary64.ofInt base with
    | .finite s m e => sexagesimalSum ds (60 * base) (sum.add (d.mul (.finite s m e)))
    | _ => none

/-- The number of a numeral; underscores in it have no meaning. -/
def floatOf? (text : String) : Option Binary64 := do
  let (negative, cs) := signOf ((text.toList.filter (· != '_')).map Char.toLower)
  let x ←
    if cs.isEmpty then none
    else if cs = ".inf".toList then some (.infinite false)
    else if cs = ".nan".toList then some .nan
    else if cs.contains ':' then do
      let parts ← (Text.splitOn ':' cs).mapM Binary64.ofText?
      sexagesimalSum parts.reverse 1 (Binary64.ofInt 0)
    else Binary64.ofText? cs
  return if negative then x.neg else x

/-- The six bits that a character stands for. -/
def sextet? (c : Char) : Option Nat :=
  if 'A' ≤ c && c ≤ 'Z' then some (c.toNat - 65)
  else if 'a' ≤ c && c ≤ 'z' then some (c.toNat - 71)
  else if c.isDigit then some (c.toNat + 4)
  else if c = '+' then some 62
  else if c = '/' then some 63
  else none

/-- Bytes written in groups of four sextets.  `place` counts the sextets of a group that have been read, `pads` the
padding marks behind them and `left` holds the bits that are not used yet.  Other characters have no meaning. -/
def bytesFrom (place pads left : Nat) : List Char → Option (List UInt8)
  | [] => if place = 0 then some [] else none
  | c :: r =>
    if c = '=' then
      if place ≥ 2 then
        if place + pads + 1 ≥ 4 then some [] else bytesFrom place (pads + 1) left r
      else bytesFrom place pads left r
    else
      match sextet? c with
      | none => bytesFrom place pads left r
      | some v =>
        match place with
        | 0 => bytesFrom 1 0 v r
        | 1 => (bytesFrom 2 0 (v % 16) r).map (UInt8.ofNat (left * 4 + v / 16) :: ·)
        | 2 => (bytesFrom 3 0 (v % 4) r).map (UInt8.ofNat (left * 16 + v / 4) :: ·)
        | _ => (bytesFrom 0 0 0 r).map (UInt8.ofNat (left * 64 + v) :: ·)

def bytesOf? (text : String) : Option (List UInt8) :=
  if text.toList.all fun c => c.toNat < 128 then bytesFrom 0 0 0 text.toList else none

/-- A date or a timestamp, of a day that the calendar has. -/
def momentOf? (text : String) : Option Scalar := do
  let (year, month, day, time) ← moment text.toList
  if year = 0 ∨ month = 0 ∨ 12 < month ∨ day = 0 ∨ daysInMonth year month < day then none
  else
    match time with
    | none => return .date year month day
    | some t =>
      if t.hour < 24 ∧ t.minute < 60 ∧ t.second < 60 ∧ (t.offset.getD 0).natAbs < 1440 then
        return .timestamp ⟨year, month, day, t.hour, t.minute, t.second, t.microsecond, t.offset⟩
      else none

/-- The text that a string holds.  Halves of pairs come from escapes. -/
def textOf (text : String) : Scalar :=
  match Encoding.charsText (Text.codePoints text) with
  | .ok s => .str s
  | .error _ => .unpaired (Text.codePoints text)

/-- The scalar of a text with a tag. -/
def scalarOf? (tag : Tag) (text : String) : Option Scalar :=
  match tag with
  | .null => some .null
  | .bool => (boolOf? text).map .bool
  | .int => (intOf? text).map .int
  | .float => (floatOf? text).map .float
  | .binary => (bytesOf? text).map .bytes
  | .timestamp => momentOf? text
  | .str => some (textOf text)
  | _ => none

/-! ### Collections -/

/-- A step of reading nodes, which change as merge keys are worked off. -/
abbrev Reader := StateT Nodes Option

namespace Reader

def nodeAt (i : Nat) : Reader Node := do (← get).lookup i

def setNode (i : Nat) (n : Node) : Reader Unit := modify ((i, n) :: ·)

/-- The entries of a node, which must be a mapping. -/
def entriesAt (i : Nat) : Reader (List (Nat × Nat)) := do
  match ← nodeAt i with
  | .mapping _ entries => return entries
  | _ => failure

def setEntries (i : Nat) (entries : List (Nat × Nat)) : Reader Unit := do
  setNode i (.mapping (← nodeAt i).tag entries)

/-- The value under the first merge key of some entries, with the entries before and behind it.  A value key on the way is
read as a text from now on. -/
def cutAtMerge (before : List (Nat × Nat)) :
    List (Nat × Nat) → Reader (Option (List (Nat × Nat) × Nat × List (Nat × Nat)))
  | [] => return none
  | (k, v) :: r => do
    let key ← nodeAt k
    if key.tag = .merge then return some (before, v, r)
    if key.tag = .value then setNode k (key.withTag .str)
    cutAtMerge (before ++ [(k, v)]) r

/-- Works off the merge keys of a mapping: the entries that they give are put in front of its own ones.  Of several
mappings under one key an earlier one wins. -/
def flatten : Nat → Nat → Reader Unit
  | 0, _ => failure
  | fuel + 1, i => do
    match ← cutAtMerge [] (← entriesAt i) with
    | none => return
    | some (before, v, behind) =>
      setEntries i (before ++ behind)
      let taken ←
        match ← nodeAt v with
        | .scalar _ _ => failure
        | .mapping _ _ => do
          flatten fuel v
          entriesAt v
        | .sequence _ items => do
          let parts ← items.mapM fun x => do
            flatten fuel x
            entriesAt x
          pure parts.reverse.flatten
      flatten fuel i
      setEntries i (taken ++ (← entriesAt i))

/-- The first of some entries with a value key. -/
def valueEntry? : List (Nat × Nat) → Reader (Option Nat)
  | [] => return none
  | (k, v) :: r => do if (← nodeAt k).tag = .value then return some v else valueEntry? r

/-- The text of a node that is tagged as a scalar: a mapping may hold it under a value key. -/
def textAt : Nat → Nat → Reader String
  | 0, _ => failure
  | fuel + 1, i => do
    match ← nodeAt i with
    | .scalar _ text => return text
    | .sequence _ _ => failure
    | .mapping _ entries =>
      match ← valueEntry? entries with
      | some v => textAt fuel v
      | none => failure

/-- A node as a part of a collection: a scalar, or the label of a collection. -/
def partAt (i : Nat) : Reader Part := do
  let scalar (tag : Tag) : Reader Part := do
    match scalarOf? tag (← textAt (← get).length i) with
    | some s => return .inl s
    | none => failure
  match ← nodeAt i with
  | .scalar tag _ => scalar tag
  | .sequence tag _ => if tag ∈ [.seq, .omap, .pairs] then return .inr (.node i) else failure
  | .mapping tag _ =>
    if tag ∈ [.map, .set] then return .inr (.node i)
    else if tag = .timestamp then failure
    else scalar tag

/-- An entry of a mapping, whose key must be a scalar. -/
def entryAt (e : Nat × Nat) : Reader (Scalar × Part) := do
  match ← partAt e.1 with
  | .inl key => return (key, ← partAt e.2)
  | .inr _ => failure

/-- How many nodes and entries there are. -/
def weight : Nodes → Nat
  | [] => 0
  | (_, .mapping _ entries) :: r => entries.length + 1 + weight r
  | _ :: r => 1 + weight r

/-- The entries of a mapping without merge keys. -/
def flatEntries (i : Nat) : Reader (List (Scalar × Part)) := do
  -- Every merge key that is worked off is one entry less.
  flatten (weight (← get)) i
  (← entriesAt i).mapM entryAt

/-- A pair that is written as a mapping with one entry. -/
def pairAt (i : Nat) : Reader (Part × Part) := do
  match ← entriesAt i with
  | [(k, v)] => return (← partAt k, ← partAt v)
  | _ => failure

/-- The collections that a node gives, with the parts that come up while they are read. -/
def cellsAt (i : Nat) : Reader (Cells × List Part) := do
  match ← nodeAt i with
  | .sequence .seq items => do
    let parts ← items.mapM partAt
    return ([(.node i, .list parts)], parts)
  | .sequence _ items => do
    let pairs ← items.mapM pairAt
    return ((.node i, .list (pairs.mapIdx fun k _ => .inr (.pairIn i k)))
        :: pairs.mapIdx (fun k p => (.pairIn i k, .pair p.1 p.2)),
      pairs.flatMap fun p => [p.1, p.2])
  | .mapping .set _ => do
    let entries ← flatEntries i
    return ([(.node i, .set ((Collection.ofEntries entries).map (·.1)))], entries.map (·.2))
  | .mapping _ _ => do
    let entries ← flatEntries i
    return ([(.node i, .map (Collection.ofEntries entries))], entries.map (·.2))
  | .scalar _ _ => failure

/-- The nodes that come up for the first time. -/
def fresh (seen : List Nat) : List Part → List Nat
  | [] => []
  | .inr (.node i) :: r => if i ∈ seen then fresh seen r else i :: fresh (i :: seen) r
  | _ :: r => fresh seen r

/-- The collections of nodes that wait, and of all that come up while these are read. -/
def cellsFrom : Nat → List Nat → List Nat → Reader Cells
  | _, _, [] => return []
  | 0, _, _ :: _ => failure
  | fuel + 1, seen, i :: waiting => do
    let (cells, parts) ← cellsAt i
    let more := fresh seen parts
    return cells ++ (← cellsFrom fuel (more ++ seen) (waiting ++ more))

end Reader

/-- A part with all collections in it written out, unless they go further down than a number of levels. -/
def tree? (cells : Cells) : Nat → Part → Option Value
  | _, .inl s => some (.scalar s)
  | 0, .inr _ => none
  | depth + 1, .inr label => do
    let c ← cells.lookup label
    return .ofCollection (← c.mapMembers? (tree? cells depth))

/-- The value of a document, unless a node in it cannot be read as its tag says.  Collections that go down further than
there are collections hold themselves. -/
def Graph.value? (g : Graph) : Option Value := do
  let (part, nodes) ← (Reader.partAt g.root).run g.nodes
  let (cells, _) ← (Reader.cellsFrom g.nodes.length (Reader.fresh [] [part]) (Reader.fresh [] [part])).run nodes
  return (tree? cells cells.length part).getD (.ofPart cells part)

/-- The value that a text holds, null if it holds none, or nothing if the text is malformed. -/
def valueOf? (text : String) : Option Value := do
  match ← Graph.ofChars? text.toList with
  | none => return .null
  | some g => g.value?

end PromptMarkup.Yaml
