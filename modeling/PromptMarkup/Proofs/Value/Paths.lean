import PromptMarkup.Proofs.Value.Endless

/-!
# Paths through nested mappings

What a mapping holds is told by paths of keys, each of which but the last leads to a mapping (`Value.at?`).  The merge
of two nested mappings holds at a path what the upper one says of it, and what the lower one holds where the upper one
says nothing; its keys are those of the lower mapping with the new ones of the upper mapping behind them
(`MergedAt`).  The main result says so of every path, that laying a mapping over itself or over a merge that it has
been part of changes nothing, and that merging nested mappings ends (`mergeEntries_along_paths`).
-/

namespace PromptMarkup

open Value

namespace Value

variable {v w old : Value} {entries base top : List (Value × Value)} {k : Value}

/-! ### Paths -/

/-- What stands at a path of keys.  Each key but the last leads to a mapping. -/
def at? (v : Value) : List Value → Option Value
  | [] => some v
  | k :: path =>
    match v with
    | map entries => (lookup k entries).bind (·.at? path)
    | _ => none

variable {path rest : List Value}

/-- A key leads on from a mapping. -/
theorem exists_of_at?_cons (h : v.at? (k :: path) = some w) :
    ∃ entries inner, v = map entries ∧ lookup k entries = some inner ∧ inner.at? path = some w := by
  cases v with
  | map entries =>
    obtain ⟨inner, hinner, hw⟩ := Option.bind_eq_some_iff.1 h
    exact ⟨entries, inner, rfl, hinner, hw⟩
  | _ => cases h

theorem at?_append (v : Value) (path rest : List Value) : v.at? (path ++ rest) = (v.at? path).bind (·.at? rest) := by
  induction path generalizing v with
  | nil => rfl
  | cons k path ih =>
    cases v with
    | map entries =>
      rw [List.cons_append, at?, at?, Option.bind_assoc]
      exact Option.bind_congr fun inner _ => ih inner
    | _ => rfl

theorem at?_of_ne_map (h : ∀ entries, v ≠ map entries) (hne : path ≠ []) : v.at? path = none := by
  obtain ⟨k, path, rfl⟩ := List.exists_cons_of_ne_nil hne
  cases v with
  | map entries => exact absurd rfl (h entries)
  | _ => rfl

theorem bind_at?_cons (old : Option Value) (k : Value) (path : List Value) :
    old.bind (·.at? (k :: path)) = (lookup k (entriesOf old)).bind (·.at? path) := by
  cases old with
  | none => rfl
  | some v => cases v <;> rfl

/-! ### Paths through a merge -/

/-- Where the upper mapping holds something else than a mapping, the merge holds that. -/
theorem at?_mergeOver_of_ne_map (h : v.IsNested) (hw : v.at? path = some w) (hmap : ∀ entries, w ≠ map entries)
    (old : Option Value) : (mergeOver old v).at? path = some w := by
  induction path generalizing v old with
  | nil =>
    obtain rfl : v = w := Option.some.inj hw
    rw [mergeOver_of_ne_map hmap, at?]
  | cons k path ih =>
    obtain ⟨entries, inner, rfl, hinner, hw⟩ := exists_of_at?_cons hw
    rw [mergeOver_map h.mapping, at?, lookup_mergeEntries h.mapping, hinner]
    exact ih (h.of_lookup hinner) hw _

/-- Where the upper mapping holds a mapping, the merge holds that mapping laid over what the lower one holds. -/
theorem at?_mergeOver_of_map (h : v.IsNested) (hw : v.at? path = some (map top)) (old : Option Value) :
    (mergeOver old v).at? path = some (map (mergeEntries (entriesOf (old.bind (·.at? path))) top)) := by
  induction path generalizing v old with
  | nil =>
    obtain rfl : v = map top := Option.some.inj hw
    rw [mergeOver_map h.mapping, at?]
    cases old <;> rfl
  | cons k path ih =>
    obtain ⟨entries, inner, rfl, hinner, hw⟩ := exists_of_at?_cons hw
    rw [mergeOver_map h.mapping, at?, lookup_mergeEntries h.mapping, hinner, bind_at?_cons]
    exact ih (h.of_lookup hinner) hw _

/-- A path on which a value holds nothing, and on which it holds mappings as far as it holds anything. -/
structure Untouched (v : Value) (path : List Value) : Prop where
  nothing : v.at? path = none
  above : ∀ before w, before <+: path → v.at? before = some w → ∃ entries, w = map entries

/-- Where the upper mapping says nothing, the merge holds what the lower one holds. -/
theorem at?_mergeOver_of_untouched (h : v.IsNested) (hv : v.Untouched path) (old : Option Value) :
    (mergeOver old v).at? path = old.bind (·.at? path) := by
  induction path generalizing v old with
  | nil => cases hv.nothing
  | cons k path ih =>
    obtain ⟨entries, rfl⟩ := hv.above [] v List.nil_prefix rfl
    rw [mergeOver_map h.mapping, at?, lookup_mergeEntries h.mapping, bind_at?_cons]
    cases hinner : lookup k entries with
    | none => rfl
    | some inner =>
      have hat (rest : List Value) : (map entries).at? (k :: rest) = inner.at? rest := by
        rw [at?, hinner, Option.bind_some]
      refine ih (h.of_lookup hinner) ⟨?_, fun before w hbefore hw => ?_⟩ _
      · rw [← hat, hv.nothing]
      · exact hv.above (k :: before) w (List.cons_prefix_cons.2 ⟨rfl, hbefore⟩) (by rw [hat, hw])

/-- What the merge of two nested mappings holds at a path. -/
structure MergedAt (base top merged : Value) (path : List Value) : Prop where
  /-- What the upper mapping holds there wins, unless it is a mapping. -/
  other : ∀ v, top.at? path = some v → (∀ entries, v ≠ map entries) → merged.at? path = some v
  /-- Where the upper mapping holds a mapping, so does the merge. -/
  map : ∀ entries, top.at? path = some (map entries) → ∃ entries', merged.at? path = some (.map entries')
  /-- Below what is no mapping in the upper mapping there is nothing. -/
  replaced : ∀ before v, before <+: path → before ≠ path → top.at? before = some v → (∀ entries, v ≠ .map entries) →
    merged.at? path = none
  /-- Where the upper mapping says nothing, the lower one is left as it is. -/
  untouched : top.Untouched path → merged.at? path = base.at? path
  /-- The keys of the lower mapping come first, in their order, and then the new ones of the upper mapping in theirs. -/
  keys : ∀ entries, merged.at? path = some (.map entries) →
    Value.keys entries = Value.keys (entriesOf (base.at? path)) ++
      newKeys (Value.keys (entriesOf (base.at? path))) (Value.keys (entriesOf (top.at? path)))

theorem IsNested.at? (h : v.IsNested) (hw : v.at? path = some w) : w.IsNested := by
  induction path generalizing v with
  | nil => exact Option.some.inj hw ▸ h
  | cons k path ih =>
    obtain ⟨entries, inner, rfl, hinner, hw⟩ := exists_of_at?_cons hw
    exact ih (h.of_lookup hinner) hw

theorem mergedAt_mergeEntries (h : (Value.map top).IsNested) (base : List (Value × Value)) (path : List Value) :
    MergedAt (.map base) (.map top) (.map (mergeEntries base top)) path := by
  have hover : Value.map (mergeEntries base top) = mergeOver (some (.map base)) (.map top) := by
    rw [mergeOver_map h.mapping, entriesOf]
  rw [hover]
  have hother {path : List Value} {v : Value} (hv : (Value.map top).at? path = some v)
      (hmap : ∀ entries, v ≠ .map entries) : (mergeOver (some (.map base)) (.map top)).at? path = some v :=
    at?_mergeOver_of_ne_map h hv hmap _
  have hreplaced {before : List Value} {v : Value} (hbefore : before <+: path) (hne : before ≠ path)
      (hv : (Value.map top).at? before = some v) (hmap : ∀ entries, v ≠ .map entries) :
      (mergeOver (some (.map base)) (.map top)).at? path = none := by
    obtain ⟨rest, rfl⟩ := hbefore
    rw [at?_append, hother hv hmap]
    exact at?_of_ne_map hmap (by simpa using hne)
  refine ⟨fun v => hother, fun entries hv => ⟨_, at?_mergeOver_of_map h hv _⟩, fun before v => hreplaced,
    fun huntouched => at?_mergeOver_of_untouched h huntouched _, fun entries hm => ?_⟩
  -- The three ways in which the upper mapping may stand to the path.
  cases hv : (Value.map top).at? path with
  | some v =>
    by_cases hmap : ∃ entries, v = .map entries
    · obtain ⟨entries', rfl⟩ := hmap
      rw [at?_mergeOver_of_map h hv] at hm
      obtain rfl := Value.map.inj (Option.some.inj hm)
      rw [keys_mergeEntries, foldl_addKey (h.at? hv).mapping]
      rfl
    · rw [hother hv (not_exists.1 hmap)] at hm
      exact absurd ⟨entries, Option.some.inj hm⟩ hmap
  | none =>
    by_cases habove : ∀ before w, before <+: path → (Value.map top).at? before = some w → ∃ entries, w = .map entries
    · rw [at?_mergeOver_of_untouched h ⟨hv, habove⟩] at hm
      rw [← Option.bind_some (Value.map base) (·.at? path), hm]
      exact (List.append_nil _).symm
    · simp only [not_forall] at habove
      obtain ⟨before, w, hbefore, hw, hmap⟩ := habove
      have hne : before ≠ path := by
        rintro rfl
        cases hv.symm.trans hw
      rw [hreplaced hbefore hne hw (not_exists.1 hmap)] at hm
      cases hm

end Value

/-- The merge of two nested mappings holds along every path what is said of it, the empty mapping leaves the other one
as it is, and laying a mapping over itself or a second time over another one changes nothing.  A merge that heeds mappings
that hold themselves comes to the same for nested ones. -/
theorem mergeEntries_along_paths {top : List (Value × Value)} (h : (Value.map top).IsNested)
    (base : List (Value × Value)) :
    (∀ path, MergedAt (.map base) (.map top) (.map (mergeEntries base top)) path) ∧
      mergeEntries base [] = base ∧ mergeEntries [] top = top ∧ mergeEntries top top = top ∧
      mergeEntries (mergeEntries base top) top = mergeEntries base top ∧
      ((Value.map base).IsNested → mergeEntries? base top = some (mergeEntries base top)) := by
  refine ⟨mergedAt_mergeEntries h base, ?_, mergeEntries_nil_left h.mapping, mergeEntries_self h,
    mergeEntries_mergeEntries h base, fun hbase => mergeEntries?_of_isNested hbase h⟩
  rw [mergeEntries]

namespace nestedSettings

/-- Settings with a mapping that has another one in it. -/
def base : List (Value × Value) :=
  [(.str "a", .map [(.str "x", .int 1), (.str "y", .map [(.str "z", .int 2)])]), (.str "b", .int 3)]

/-- Settings that put a number in place of a mapping and a mapping in place of a number. -/
def top : List (Value × Value) :=
  [(.str "c", .null), (.str "b", .map [(.str "z", .int 4)]), (.str "a", .map [(.str "y", .int 5)])]

theorem int_ne_map (n : Int) (entries : List (Value × Value)) : Value.int n ≠ .map entries := by
  intro h
  cases h

theorem isNested_single (key : String) (n : Int) : (Value.map [(.str key, .int n)]).IsNested :=
  .map ⟨by simp [isScalar], List.pairwise_singleton _ _⟩ (List.forall_mem_singleton.2 (isNested_scalar _))

theorem isNested_base : (Value.map base).IsNested := by
  have hinner : (Value.map [(.str "x", .int 1), (.str "y", .map [(.str "z", .int 2)])]).IsNested :=
    .map (by decide) (List.forall_mem_cons.2 ⟨isNested_scalar _, List.forall_mem_singleton.2 (isNested_single "z" 2)⟩)
  exact .map (by decide) (List.forall_mem_cons.2 ⟨hinner, List.forall_mem_singleton.2 (isNested_scalar _)⟩)

theorem isNested_top : (Value.map top).IsNested := by
  refine .map (by decide) (List.forall_mem_cons.2 ⟨isNested_scalar _, ?_⟩)
  exact List.forall_mem_cons.2 ⟨isNested_single "z" 4, List.forall_mem_singleton.2 (isNested_single "y" 5)⟩

end nestedSettings

open nestedSettings in
/-- The number is there, below it is nothing, and what stands beside it has stayed. -/
theorem at?_nestedSettings :
    (Value.map top).IsNested ∧ mergeEntries? base top = some (mergeEntries base top) ∧
      (Value.map (mergeEntries base top)).at? [.str "a", .str "y"] = some (.int 5) ∧
      (Value.map (mergeEntries base top)).at? [.str "a", .str "y", .str "z"] = none ∧
      (Value.map (mergeEntries base top)).at? [.str "a", .str "x"] = (Value.map base).at? [.str "a", .str "x"] := by
  obtain ⟨hpaths, -, -, -, -, hends⟩ := mergeEntries_along_paths isNested_top base
  refine ⟨isNested_top, hends isNested_base, (hpaths _).other _ rfl (int_ne_map 5), ?_, ?_⟩
  · exact (hpaths _).replaced [.str "a", .str "y"] (.int 5) ⟨[.str "z"], rfl⟩ (by simp) rfl (int_ne_map 5)
  · refine (hpaths _).untouched ⟨rfl, fun before w hbefore hw => ?_⟩
    obtain rfl | ⟨rest, rfl, hrest⟩ := List.prefix_cons_iff.1 hbefore
    · exact ⟨_, (Option.some.inj hw).symm⟩
    obtain rfl | ⟨last, rfl, hlast⟩ := List.prefix_cons_iff.1 hrest
    · exact ⟨_, (Option.some.inj hw).symm⟩
    · obtain rfl := List.prefix_nil.1 hlast
      cases hw

end PromptMarkup
