import Mathlib.Data.List.Basic
import PromptMarkup.Value.Merge
import PromptMarkup.Yaml.Value

/-!
# Keys of mappings

Two values are the same key if they have one key in common (`sameKey_iff`), so that being the same key is symmetric and
transitive, and reflexive on scalars.  A mapping has no two entries with the same key (`IsMapping`); what is read as a
mapping is one (`isMapping_of_valueOf?`), and storing keeps it one.
-/

namespace PromptMarkup

namespace Value

/-- What a value is as a key.  An integer is one key, whatever type it is written in. -/
inductive Key where
  | null
  | str (s : String)
  | unpaired (points : List CodePoint)
  | bytes (bs : List UInt8)
  | date (year month day : Nat)
  | moment (known : Bool) (instant : Int)
  | int (n : Int)
  | float (x : Binary64)
  deriving DecidableEq

def key? (v : Value) : Option Key :=
  match v with
  | null => some .null
  | str s => some (.str s)
  | unpaired points => some (.unpaired points)
  | bytes bs => some (.bytes bs)
  | date y m d => some (.date y m d)
  | timestamp t =>
    match t.offset with
    | none => some (.moment false t.localInstant)
    | some a => some (.moment true (t.localInstant - a * 60000000))
  | v =>
    match v.integer? with
    | some n => some (.int n)
    | none => v.number?.map .float

/-- Two values are the same key if they have one key in common. -/
theorem sameKey_iff {v w : Value} : sameKey v w = true ↔ v.key? = w.key? ∧ v.key? ≠ none := by
  -- One goal for each pair of constructors; only numbers and timestamps have more than one form of the same key.
  cases v with
  | scalar s =>
    cases w with
    | scalar t => cases s <;> cases t <;> simp only [sameKey, key?, integer?, number?] <;> grind [Timestamp.same]
    | _ => cases s <;> simp only [sameKey, key?, integer?, number?] <;> grind
  | _ =>
    cases w with
    | scalar t => cases t <;> simp only [sameKey, key?, integer?, number?] <;> grind
    | _ => simp [sameKey, key?, integer?, number?]

variable {u v w k k' : Value} {entries : List (Value × Value)}

theorem sameKey_self (h : v.isScalar = true) : sameKey v v = true := by
  rw [sameKey_iff]
  cases v with
  | scalar s => cases s <;> simp [key?, integer?, number?] <;> split <;> simp
  | _ => cases h

theorem sameKey_comm (v w : Value) : sameKey v w = sameKey w v := by
  rw [Bool.eq_iff_iff, sameKey_iff, sameKey_iff]
  constructor
  · exact fun ⟨heq, hsome⟩ => ⟨heq.symm, heq ▸ hsome⟩
  · exact fun ⟨heq, hsome⟩ => ⟨heq.symm, heq ▸ hsome⟩

/-- Values that are the same key are the same key as the same values. -/
theorem sameKey_congr (h : sameKey u v = true) (w : Value) : sameKey u w = sameKey v w := by
  rw [sameKey_iff] at h
  rw [Bool.eq_iff_iff, sameKey_iff, sameKey_iff, h.1]

theorem sameKey_congr_right (h : sameKey u v = true) (w : Value) : sameKey w u = sameKey w v := by
  rw [sameKey_comm w u, sameKey_comm w v, sameKey_congr h]

theorem lookup_congr (h : sameKey k k' = true) (entries : List (Value × Value)) :
    lookup k entries = lookup k' entries := by
  induction entries with
  | nil => rfl
  | cons e entries ih => rw [lookup, lookup, sameKey_congr_right h, ih]

/-- Storing a value changes what is found under its key. -/
theorem lookup_insert (entries : List (Value × Value)) (k v k' : Value) :
    lookup k' (insert entries k v) = if sameKey k k' then some v else lookup k' entries := by
  induction entries with
  | nil => rfl
  | cons e entries ih =>
    by_cases hk : sameKey e.1 k = true
    · rw [insert, if_pos hk, lookup, lookup, sameKey_congr hk k']
      split <;> rfl
    · rw [insert, if_neg hk, lookup, lookup, ih]
      by_cases he : sameKey e.1 k' = true
      · have hother : sameKey k k' ≠ true := by
          intro h
          rw [sameKey_congr_right h] at hk
          exact hk he
        rw [if_pos he, if_neg hother, if_pos he]
      · rw [if_neg he, if_neg he]

theorem lookup_eq_none_iff : lookup k entries = none ↔ ∀ e ∈ entries, sameKey e.1 k = false := by
  induction entries with
  | nil => simp [lookup]
  | cons e entries ih =>
    rw [lookup]
    split
    · rename_i h
      simp [h]
    · rename_i h
      simp [h, ih]

/-! ### Mappings -/

/-- The keys of entries. -/
def keys (entries : List (Value × Value)) : List Value := entries.map (·.1)

@[simp] theorem keys_nil : keys [] = [] := rfl

@[simp] theorem keys_cons (e : Value × Value) (entries : List (Value × Value)) :
    keys (e :: entries) = e.1 :: keys entries := rfl

/-- Keys with another one behind them, unless it is among them. -/
def addKey (ks : List Value) (k : Value) : List Value := if ks.any (sameKey · k) then ks else ks ++ [k]

theorem keys_insert (entries : List (Value × Value)) (k v : Value) :
    keys (insert entries k v) = addKey (keys entries) k := by
  induction entries with
  | nil => rfl
  | cons e entries ih =>
    by_cases hk : sameKey e.1 k = true
    · rw [insert, if_pos hk, keys_cons, keys_cons, addKey, List.any_cons, hk, Bool.true_or, if_pos rfl]
    · rw [insert, if_neg hk, keys_cons, keys_cons, ih, addKey, addKey, List.any_cons, Bool.eq_false_iff.2 hk,
        Bool.false_or]
      split <;> rfl

/-- Entries with keys that are scalars, no two of them the same. -/
structure IsMapping (entries : List (Value × Value)) : Prop where
  scalar : ∀ k ∈ keys entries, k.isScalar = true
  distinct : (keys entries).Pairwise fun k k' => sameKey k k' = false

instance (entries : List (Value × Value)) : Decidable (IsMapping entries) :=
  decidable_of_iff ((∀ k ∈ keys entries, k.isScalar = true) ∧
    (keys entries).Pairwise fun k k' => sameKey k k' = false) ⟨fun h => ⟨h.1, h.2⟩, fun h => ⟨h.scalar, h.distinct⟩⟩

theorem IsMapping.of_cons {e : Value × Value} (h : IsMapping (e :: entries)) : IsMapping entries :=
  ⟨fun k hk => h.scalar k (List.mem_cons_of_mem _ hk), List.Pairwise.of_cons h.distinct⟩

theorem IsMapping.lookup_eq_none {e : Value × Value} (h : IsMapping (e :: entries)) (hk : sameKey e.1 k = true) :
    lookup k entries = none := by
  rw [lookup_eq_none_iff]
  intro e' he'
  have hother := List.rel_of_pairwise_cons h.distinct (List.mem_map_of_mem he')
  rwa [sameKey_congr hk, sameKey_comm] at hother

theorem IsMapping.insert (h : IsMapping entries) (hk : k.isScalar = true) (v : Value) :
    IsMapping (insert entries k v) := by
  have hkeys := keys_insert entries k v
  rw [addKey] at hkeys
  split at hkeys
  · exact ⟨hkeys ▸ h.scalar, hkeys ▸ h.distinct⟩
  · rename_i hnew
    refine ⟨fun k' hk' => ?_, ?_⟩
    · rw [hkeys] at hk'
      obtain hk' | hk' := List.mem_append.1 hk'
      · exact h.scalar k' hk'
      · rwa [List.mem_singleton.1 hk']
    · rw [hkeys, List.pairwise_append]
      refine ⟨h.distinct, List.pairwise_singleton _ _, fun k' hk' l hl => ?_⟩
      rw [List.mem_singleton.1 hl]
      simp only [List.any_eq_true, not_exists, not_and] at hnew
      simpa using hnew k' hk'

/-- Entries without repeated keys are their keys with what is found under them. -/
theorem IsMapping.eq_filterMap (h : IsMapping entries) :
    entries = (keys entries).filterMap fun k => (lookup k entries).map (k, ·) := by
  induction entries with
  | nil => rfl
  | cons e entries ih =>
    have hself : sameKey e.1 e.1 = true := sameKey_self (h.scalar e.1 List.mem_cons_self)
    have hrest : (keys entries).filterMap (fun k => (lookup k (e :: entries)).map (k, ·)) =
        (keys entries).filterMap fun k => (lookup k entries).map (k, ·) := by
      refine List.filterMap_congr fun k hk => ?_
      have hother := List.rel_of_pairwise_cons h.distinct hk
      rw [lookup, if_neg (by simpa using hother)]
    have hkeys : keys (e :: entries) = e.1 :: keys entries := rfl
    rw [hkeys, List.filterMap_cons, hrest, ← ih h.of_cons, lookup, if_pos hself]
    rfl

end Value

end PromptMarkup
