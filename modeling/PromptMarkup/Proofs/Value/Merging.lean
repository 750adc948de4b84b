import PromptMarkup.Proofs.Value.Keys

/-!
# Merging nested mappings

The merge of two mappings holds under a key what the upper one has for it, laid over what the lower one has
(`lookup_mergeEntries`), and its keys are those of the lower mapping with the new ones of the upper mapping behind them
(`keys_mergeEntries`).  Laying a nested mapping over itself, or over a merge that it has been part of, changes nothing
(`mergeEntries_self`, `mergeEntries_mergeEntries`).
-/

namespace PromptMarkup

open Value

/-! ### Laying one mapping over another -/

/-- What is found under a key in one layer over another: two mappings are merged, and otherwise the upper value wins. -/
def laidOver (top below : Option Value) : Option Value :=
  match top with
  | none => below
  | some v => some (mergeOver below v)

theorem mergeOver_of_ne_map {v : Value} (h : ∀ entries, v ≠ .map entries) (below : Option Value) :
    mergeOver below v = v := by
  cases v with
  | map entries => exact absurd rfl (h entries)
  | _ => rw [mergeOver.eq_def]

theorem lookup_mergeEntries {base top : List (Value × Value)} (h : IsMapping top) (k : Value) :
    lookup k (mergeEntries base top) = laidOver (lookup k top) (lookup k base) := by
  induction top generalizing base with
  | nil => rw [mergeEntries, lookup, laidOver]
  | cons e top ih =>
    rw [mergeEntries, ih h.of_cons, lookup_insert, lookup]
    by_cases hk : sameKey e.1 k = true
    · rw [if_pos hk, if_pos hk, h.lookup_eq_none hk, laidOver, laidOver, lookup_congr hk]
    · rw [if_neg hk, if_neg hk]

theorem keys_mergeEntries (base top : List (Value × Value)) :
    keys (mergeEntries base top) = (keys top).foldl addKey (keys base) := by
  induction top generalizing base with
  | nil => rw [mergeEntries, keys_nil, List.foldl_nil]
  | cons e top ih => rw [mergeEntries, ih, keys_insert, keys_cons, List.foldl_cons]

theorem isMapping_mergeEntries {base top : List (Value × Value)} (hbase : IsMapping base) (h : IsMapping top) :
    IsMapping (mergeEntries base top) := by
  induction top generalizing base with
  | nil => rwa [mergeEntries]
  | cons e top ih =>
    rw [mergeEntries]
    exact ih (hbase.insert (h.scalar e.1 List.mem_cons_self) _) h.of_cons

/-- The keys that are not among others. -/
def newKeys (ks : List Value) (top : List Value) : List Value := top.filter fun k => !ks.any (sameKey · k)

/-- Adding keys that differ from each other puts the new ones behind those that are there. -/
theorem foldl_addKey {top : List (Value × Value)} (h : IsMapping top) (ks : List Value) :
    (keys top).foldl addKey ks = ks ++ newKeys ks (keys top) := by
  induction top generalizing ks with
  | nil => rw [keys_nil, List.foldl_nil, newKeys, List.filter_nil, List.append_nil]
  | cons e top ih =>
    rw [keys_cons, List.foldl_cons, ih h.of_cons, addKey, newKeys, newKeys]
    by_cases hold : ks.any (sameKey · e.1) = true
    · rw [if_pos hold, List.filter_cons_of_neg (by simpa using hold)]
    · have hrest : (keys top).filter (fun k => !(ks ++ [e.1]).any (sameKey · k)) =
          (keys top).filter fun k => !ks.any (sameKey · k) := by
        refine List.filter_congr fun k hk => ?_
        have hother := List.rel_of_pairwise_cons h.distinct hk
        simp [hother]
      rw [if_neg hold, List.filter_cons_of_pos (by simpa using hold), hrest, List.append_assoc,
        List.singleton_append]

/-! ### Nested mappings -/

namespace Value

/-- A value in which the mappings, one inside the other, are written out and have no repeated keys. -/
inductive IsNested : Value → Prop where
  | map {entries : List (Value × Value)} (mapping : IsMapping entries) (inside : ∀ e ∈ entries, IsNested e.2) :
      IsNested (.map entries)
  | other {v : Value} (h : ∀ entries, v ≠ .map entries) (hlinked : ∀ cells label, v ≠ linked cells label) : IsNested v

variable {v w old : Value} {entries base top : List (Value × Value)} {k : Value}

theorem isNested_scalar (s : Scalar) : (scalar s).IsNested := .other (by simp) (by simp)

theorem IsNested.mapping (h : (Value.map entries).IsNested) : IsMapping entries := by
  cases h with
  | map mapping inside => exact mapping
  | other h => exact absurd rfl (h entries)

theorem IsNested.inside (h : (Value.map entries).IsNested) : ∀ e ∈ entries, e.2.IsNested := by
  cases h with
  | map mapping inside => exact inside
  | other h => exact absurd rfl (h entries)

theorem exists_mem_of_lookup (h : lookup k entries = some v) : ∃ e ∈ entries, sameKey e.1 k = true ∧ e.2 = v := by
  induction entries with
  | nil => cases h
  | cons e entries ih =>
    rw [lookup] at h
    split at h
    · next hk => exact ⟨e, List.mem_cons_self, hk, Option.some.inj h⟩
    · obtain ⟨e', he', hk, hv⟩ := ih h
      exact ⟨e', List.mem_cons_of_mem e he', hk, hv⟩

theorem IsNested.of_lookup (h : (Value.map entries).IsNested) (hv : lookup k entries = some v) : v.IsNested := by
  obtain ⟨e, he, -, rfl⟩ := exists_mem_of_lookup hv
  exact h.inside e he

/-- The value of an entry is found under its key. -/
theorem IsMapping.lookup_of_mem {e : Value × Value} (h : IsMapping entries) (he : e ∈ entries) :
    lookup e.1 entries = some e.2 := by
  induction entries with
  | nil => cases he
  | cons a entries ih =>
    rw [lookup]
    obtain rfl | he := List.mem_cons.1 he
    · rw [if_pos (sameKey_self (h.scalar e.1 List.mem_cons_self))]
    · have hother := List.rel_of_pairwise_cons h.distinct (List.mem_map_of_mem he)
      rw [if_neg (by simpa using hother)]
      exact ih h.of_cons he

/-! ### Laying the same thing over again -/

/-- Storing what is there changes nothing. -/
theorem insert_of_lookup (h : lookup k entries = some v) : insert entries k v = entries := by
  induction entries with
  | nil => cases h
  | cons e entries ih =>
    rw [lookup] at h
    rw [insert]
    split at h
    · next hk =>
      rw [if_pos hk, ← Option.some.inj h]
    · next hk => rw [if_neg hk, ih h]

/-- Entries that leave what they are laid over as it is. -/
theorem mergeEntries_eq_self (h : ∀ e ∈ top, ∃ old, lookup e.1 base = some old ∧ mergeOver (some old) e.2 = old) :
    mergeEntries base top = base := by
  induction top with
  | nil => rw [mergeEntries]
  | cons e top ih =>
    obtain ⟨⟨old, hold, hsame⟩, htop⟩ := List.forall_mem_cons.1 h
    rw [mergeEntries, hold, hsame, insert_of_lookup hold]
    exact ih htop

theorem mergeOver_self (h : v.IsNested) : mergeOver (some v) v = v := by
  induction h with
  | map mapping inside ih =>
    rw [mergeOver, mergeEntries_eq_self fun e he => ⟨e.2, mapping.lookup_of_mem he, ih e he⟩]
  | other h => exact mergeOver_of_ne_map h _

theorem mergeEntries_self (h : (Value.map entries).IsNested) : mergeEntries entries entries = entries :=
  mergeEntries_eq_self fun e he => ⟨e.2, h.mapping.lookup_of_mem he, mergeOver_self (h.inside e he)⟩

/-- Entries with new keys are put behind those that are there. -/
theorem mergeEntries_of_new (h : IsMapping top) (hnew : ∀ e ∈ top, lookup e.1 base = none) :
    mergeEntries base top = base ++ top := by
  have hinsert {es : List (Value × Value)} {k v : Value} (hk : lookup k es = none) :
      insert es k v = es ++ [(k, v)] := by
    rw [lookup_eq_none_iff] at hk
    induction es with
    | nil => rfl
    | cons e es ih =>
      obtain ⟨he, hes⟩ := List.forall_mem_cons.1 hk
      rw [insert, if_neg (by simpa using he), ih hes, List.cons_append]
  have hover (v : Value) : mergeOver none v = v := by
    cases v <;> rw [mergeOver.eq_def]
  induction top generalizing base with
  | nil => rw [mergeEntries, List.append_nil]
  | cons e top ih =>
    obtain ⟨he, htop⟩ := List.forall_mem_cons.1 hnew
    have hrest : ∀ e' ∈ top, lookup e'.1 (base ++ [e]) = none := by
      intro e' he'
      rw [← hinsert he, lookup_insert, htop e' he', if_neg]
      simpa using List.rel_of_pairwise_cons h.distinct (List.mem_map_of_mem he')
    rw [mergeEntries, he, hover, hinsert he, ih h.of_cons hrest, List.append_assoc, List.singleton_append]

theorem mergeEntries_nil_left (h : IsMapping top) : mergeEntries [] top = top :=
  mergeEntries_of_new h fun _ _ => rfl

/-- The entries of a mapping; nothing else has any. -/
def entriesOf : Option Value → List (Value × Value)
  | some (map entries) => entries
  | _ => []

theorem mergeOver_map (h : IsMapping top) (old : Option Value) :
    mergeOver old (map top) = map (mergeEntries (entriesOf old) top) := by
  cases old with
  | none =>
    rw [entriesOf, mergeEntries_nil_left h, mergeOver.eq_def]
    exact fun _ he => nomatch he
  | some v =>
    cases v with
    | map base => rw [entriesOf, mergeOver]
    | _ =>
      rw [entriesOf, mergeEntries_nil_left h, mergeOver.eq_def]
      exact fun _ he => nomatch he

/-- Laying a value over a merge that it has been part of changes nothing. -/
theorem mergeOver_mergeOver (h : v.IsNested) (old : Option Value) :
    mergeOver (some (mergeOver old v)) v = mergeOver old v := by
  induction h generalizing old with
  | other h => rw [mergeOver_of_ne_map h, mergeOver_of_ne_map h]
  | @map entries mapping inside ih =>
    rw [mergeOver_map mapping, mergeOver_map mapping, entriesOf]
    refine congrArg Value.map (mergeEntries_eq_self fun e he => ?_)
    refine ⟨mergeOver (lookup e.1 (entriesOf old)) e.2, ?_, ih e he _⟩
    rw [lookup_mergeEntries mapping, mapping.lookup_of_mem he, laidOver]

theorem mergeEntries_mergeEntries (h : (Value.map top).IsNested) (base : List (Value × Value)) :
    mergeEntries (mergeEntries base top) top = mergeEntries base top := by
  have hagain := mergeOver_mergeOver h (some (map base))
  rw [mergeOver_map h.mapping, mergeOver_map h.mapping, entriesOf, entriesOf] at hagain
  exact Value.map.inj hagain

end Value

end PromptMarkup
