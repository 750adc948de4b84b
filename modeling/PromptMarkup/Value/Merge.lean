import PromptMarkup.Value.Basic

/-!
# Merging mappings

Two layers of a configuration are merged key by key.  Where both hold a mapping, the mappings are merged; all else
is taken from the layer on top.  Mappings that are written out are merged along their entries (`mergeEntries`).

Mappings that hold themselves can be merged too (`mergeEntries?`), unless the merge never ends.  It goes down along keys
for which both layers hold mappings.  If it goes down further than there are pairs of mappings, then it has come back to
one of them, and goes down for ever.
-/

namespace PromptMarkup.Value

mutual

/-- A value laid over the one that was there before. -/
def mergeOver (old : Option Value) (v : Value) : Value :=
  match v with
  | map top =>
    match old with
    | some (map base) => map (mergeEntries base top)
    | _ => map top
  | v => v

/-- The entries of the lower mapping with those of the upper one laid over them. -/
def mergeEntries (base top : List (Value × Value)) : List (Value × Value) :=
  match top with
  | [] => base
  | (k, v) :: r => mergeEntries (insert base k (mergeOver (lookup k base) v)) r

end

/-! ### Mappings that may hold themselves -/

mutual

/-- The mappings that a merge can come upon inside a value. -/
def mappings : Value → List Value
  | map entries => map entries :: mappingsIn entries
  | linked cells _ => cells.map fun c => linked cells c.1
  | _ => []

/-- The mappings that a merge can come upon inside entries. -/
def mappingsIn : List (Value × Value) → List Value
  | [] => []
  | (_, v) :: r => v.mappings ++ mappingsIn r

end

/-- Entries laid over those that were there before, each of them in the given way. -/
def layEach? (over? : Option Value → Value → Option Value) (base : List (Value × Value)) :
    List (Value × Value) → Option (List (Value × Value))
  | [] => some base
  | (k, v) :: r => do layEach? over? (insert base k (← over? (lookup k base) v)) r

/-- A value laid over the one that was there before, unless mappings in both lead further down than a number of keys. -/
def mergeOver? (depth : Nat) (old : Option Value) (v : Value) : Option Value :=
  match old.map opened, v.opened with
  | some (map base), map top =>
    match depth with
    | 0 => none
    | depth + 1 => map <$> layEach? (mergeOver? depth) base top
  | _, _ => some v

/-- The entries of the lower mapping with those of the upper one laid over them, if that ends. -/
def mergeEntries? (base top : List (Value × Value)) : Option (List (Value × Value)) :=
  layEach? (mergeOver? ((map base).mappings.length * (map top).mappings.length)) base top

end PromptMarkup.Value
