import PromptMarkup.Proofs.Value.Endless
import PromptMarkup.Yaml.Value

/-!
# Mappings that are read

No mapping that a text of YAML holds has repeated keys, however the mappings hold each other (`sound_of_valueOf?`): the
entries of each come of storing one after the other (`Collection.distinct_ofEntries`), and neither writing a collection out
nor opening a linked one changes its keys.
-/

namespace PromptMarkup

open Value

/-! ### Collections -/

namespace Collection

variable {α β : Type}

/-- A collection that, if it is a mapping, has no repeated keys. -/
def Distinct : Collection α → Prop
  | .map entries => (entries.map (·.1)).Pairwise fun s t => sameKey (scalar s) (scalar t) = false
  | _ => True

theorem keys_insert (entries : List (Scalar × α)) (key : Scalar) (a : α) :
    (insert entries key a).map (·.1) =
      if (entries.map (·.1)).any (fun k => sameKey (scalar k) (scalar key)) then entries.map (·.1)
      else entries.map (·.1) ++ [key] := by
  induction entries with
  | nil => rfl
  | cons e entries ih =>
    by_cases hk : sameKey (scalar e.1) (scalar key) = true
    · rw [insert, if_pos hk]
      simp [hk]
    · rw [insert, if_neg hk, List.map_cons, List.map_cons, ih, List.any_cons, Bool.eq_false_iff.2 hk, Bool.false_or]
      split <;> rfl

theorem distinct_insert {entries : List (Scalar × α)} (h : (Collection.map entries).Distinct) (key : Scalar) (a : α) :
    (Collection.map (insert entries key a)).Distinct := by
  rw [Distinct, keys_insert]
  split
  · exact h
  · next hnew =>
    refine List.pairwise_append.2 ⟨h, List.pairwise_singleton _ _, fun s hs t ht => ?_⟩
    rw [List.mem_singleton.1 ht]
    simp only [List.any_eq_true, not_exists, not_and] at hnew
    simpa using hnew s hs

theorem distinct_ofEntries (entries : List (Scalar × α)) : (Collection.map (ofEntries entries)).Distinct := by
  have hfold (found : List (Scalar × α)) (h : (Collection.map found).Distinct) :
      (Collection.map (entries.foldl (fun found e => insert found e.1 e.2) found)).Distinct := by
    induction entries generalizing found with
    | nil => exact h
    | cons e entries ih => exact ih _ (distinct_insert h e.1 e.2)
  exact hfold [] List.Pairwise.nil

/-- A collection of values without repeated keys is read as a mapping without repeated keys. -/
theorem Distinct.isMapping {c : Collection Value} {entries : List (Value × Value)} (h : c.Distinct)
    (hc : ofCollection c = .map entries) : IsMapping entries := by
  cases c with
  | map members =>
    cases hc
    have hkeys : keys (members.map fun e => (scalar e.1, e.2)) = (members.map (·.1)).map scalar := by
      simp [keys]
    constructor
    · intro k hk
      rw [hkeys] at hk
      obtain ⟨s, -, rfl⟩ := List.mem_map.1 hk
      rfl
    · rw [hkeys]
      exact List.pairwise_map.2 h
  | _ => cases hc

theorem Distinct.mapMembers {c : Collection α} (h : c.Distinct) (f : α → β) : (c.mapMembers f).Distinct := by
  cases c with
  | map entries => simpa [Distinct, Collection.mapMembers, Function.comp_def] using h
  | _ => trivial

/-- What a mapping is after its members have been given in another way. -/
theorem exists_of_mapMembers? {f : α → Option β} {c : Collection α} {members : List (Scalar × β)}
    (h : c.mapMembers? f = some (.map members)) :
    ∃ entries, c = .map entries ∧ members.map (·.1) = entries.map (·.1) ∧ ∀ e ∈ members, ∃ a, f a = some e.2 := by
  cases c with
  | map entries =>
    obtain ⟨found, hfound, hmembers⟩ := Option.bind_eq_some_iff.1 h
    cases hmembers
    refine ⟨entries, rfl, ?_⟩
    clear h
    induction entries generalizing members with
    | nil =>
      cases hfound
      exact ⟨rfl, fun _ he => nomatch he⟩
    | cons e entries ih =>
      rw [List.mapM_cons] at hfound
      obtain ⟨first, hfirst, hfound⟩ := Option.bind_eq_some_iff.1 hfound
      obtain ⟨rest, hrest, hmembers⟩ := Option.bind_eq_some_iff.1 hfound
      obtain ⟨b, hb, hentry⟩ := Option.bind_eq_some_iff.1 hfirst
      cases hentry
      cases hmembers
      obtain ⟨hkeys, hgiven⟩ := ih hrest
      exact ⟨congrArg (e.1 :: ·) hkeys, List.forall_mem_cons.2 ⟨⟨e.2, hb⟩, hgiven⟩⟩
  | pair x y =>
    obtain ⟨_, -, h⟩ := Option.bind_eq_some_iff.1 h
    obtain ⟨_, -, h⟩ := Option.bind_eq_some_iff.1 h
    cases h
  | list items =>
    obtain ⟨_, -, h⟩ := Option.bind_eq_some_iff.1 h
    cases h
  | set members => cases h

end Collection

namespace Yaml

/-! ### Collections of a document -/

/-- What holds of all that a step of reading gives. -/
def Reader.Gives {α : Type} (p : α → Prop) (x : Reader α) : Prop := ∀ nodes a nodes', x.run nodes = some (a, nodes') → p a

namespace Reader.Gives

variable {α β : Type} {p : α → Prop} {q : β → Prop}

theorem pure {a : α} (h : p a) : Reader.Gives p (Pure.pure a) := by
  intro nodes b nodes' hrun
  cases hrun
  exact h

theorem failure : Reader.Gives p Alternative.failure := by
  intro nodes b nodes' hrun
  cases hrun

/-- What is read before does not matter. -/
theorem bind {x : Reader β} {f : β → Reader α} (h : ∀ b, Reader.Gives p (f b)) : Reader.Gives p (x >>= f) := by
  intro nodes a nodes' hrun
  obtain ⟨⟨b, between⟩, -, hrun⟩ := Option.bind_eq_some_iff.1 hrun
  exact h b between a nodes' hrun

theorem bind_of {x : Reader β} {f : β → Reader α} (hx : Reader.Gives q x) (h : ∀ b, q b → Reader.Gives p (f b)) :
    Reader.Gives p (x >>= f) := by
  intro nodes a nodes' hrun
  obtain ⟨⟨b, between⟩, hb, hrun⟩ := Option.bind_eq_some_iff.1 hrun
  exact h b (hx nodes b between hb) between a nodes' hrun

end Reader.Gives

open Reader

/-- Collections none of which has repeated keys. -/
def DistinctCells (cells : Cells) : Prop := ∀ c ∈ cells, c.2.Distinct

theorem gives_cellsAt (i : Nat) : Gives (fun given => DistinctCells given.1) (cellsAt i) := by
  unfold cellsAt
  refine .bind fun n => ?_
  split
  · exact .bind fun parts => .pure (by simp [DistinctCells, Collection.Distinct])
  · refine .bind fun pairs => .pure fun c hc => ?_
    obtain rfl | hc := List.mem_cons.1 hc
    · trivial
    · obtain ⟨k, hk, rfl⟩ := List.mem_mapIdx.1 hc
      trivial
  · exact .bind fun entries => .pure (by simp [DistinctCells, Collection.Distinct])
  · exact .bind fun entries => .pure (by simp [DistinctCells, Collection.distinct_ofEntries])
  · exact .failure

theorem gives_cellsFrom (fuel : Nat) (seen waiting : List Nat) : Gives DistinctCells (cellsFrom fuel seen waiting) := by
  induction fuel generalizing seen waiting with
  | zero =>
    cases waiting with
    | nil => exact .pure (fun _ hc => nomatch hc)
    | cons i waiting => exact .failure
  | succ fuel ih =>
    cases waiting with
    | nil => exact .pure (fun _ hc => nomatch hc)
    | cons i waiting =>
      refine .bind_of (gives_cellsAt i) fun given hgiven => .bind_of (ih _ _) fun rest hrest => .pure fun c hc => ?_
      exact (List.mem_append.1 hc).elim (hgiven c) (hrest c)

/-! ### Values of a document -/

/-- What is written out is a value of which all is written out. -/
theorem isNested_of_tree? {cells : Cells} {depth : Nat} {part : Part} {v : Value} (h : DistinctCells cells)
    (hv : tree? cells depth part = some v) : v.IsNested := by
  induction depth generalizing part v with
  | zero =>
    cases part with
    | inl s =>
      cases hv
      exact isNested_scalar s
    | inr label => cases hv
  | succ depth ih =>
    cases part with
    | inl s =>
      cases hv
      exact isNested_scalar s
    | inr label =>
      obtain ⟨c, hc, hv⟩ := Option.bind_eq_some_iff.1 hv
      obtain ⟨members, hmembers, hv⟩ := Option.bind_eq_some_iff.1 hv
      cases hv
      cases members with
      | map members =>
        obtain ⟨entries, rfl, hkeys, hgiven⟩ := Collection.exists_of_mapMembers? hmembers
        obtain ⟨before, after, rfl, -⟩ := List.lookup_eq_some_iff.1 hc
        have hdistinct : (Collection.map members).Distinct := by
          rw [Collection.Distinct, hkeys]
          exact h (label, .map entries) (by simp)
        refine .map (hdistinct.isMapping rfl) fun e he => ?_
        obtain ⟨e', he', rfl⟩ := List.mem_map.1 he
        obtain ⟨part, hpart⟩ := hgiven e' he'
        exact ih hpart
      | _ => exact .other (by simp [ofCollection]) (by simp [ofCollection])

section

variable {cells : Cells} {label l : Label} {entries : List (Value × Value)}

/-- What a linked mapping is made of. -/
theorem exists_cell (h : (linked cells l).opened = .map entries) :
    ∃ c, (l, c) ∈ cells ∧ ofCollection (c.mapMembers (ofPart cells)) = .map entries := by
  rw [opened] at h
  cases hc : cells.lookup l with
  | none =>
    rw [hc] at h
    cases h
  | some c =>
    rw [hc] at h
    obtain ⟨before, after, rfl, -⟩ := List.lookup_eq_some_iff.1 hc
    exact ⟨c, by simp, h⟩

theorem isMapping_of_linked (hcells : DistinctCells cells) (h : (linked cells l).opened = .map entries) :
    IsMapping entries := by
  obtain ⟨c, hc, hentries⟩ := exists_cell h
  exact ((hcells _ hc).mapMembers _).isMapping hentries

/-- A value in a linked mapping is a scalar or linked too. -/
theorem part_of_linked (h : (linked cells l).opened = .map entries) {e : Value × Value} (he : e ∈ entries) :
    ∃ part, e.2 = ofPart cells part := by
  obtain ⟨c, -, hentries⟩ := exists_cell h
  cases c with
  | map members =>
    cases hentries
    obtain ⟨e', he', rfl⟩ := List.mem_map.1 he
    obtain ⟨⟨key, part⟩, -, rfl⟩ := List.mem_map.1 he'
    exact ⟨part, rfl⟩
  | _ => cases hentries

/-- Linked collections hold each other. -/
theorem selfContained_linked (hcells : DistinctCells cells) (label : Label) :
    SelfContained (linked cells label).mappings := by
  have hlabel {v : Value} (hv : v ∈ (linked cells label).mappings) : ∃ l, v = linked cells l := by
    obtain ⟨c, -, rfl⟩ := List.mem_map.1 hv
    exact ⟨c.1, rfl⟩
  constructor
  · intro v hv entries hentries
    obtain ⟨l, rfl⟩ := hlabel hv
    exact isMapping_of_linked hcells hentries
  · intro v hv entries hentries e he fs hfs
    obtain ⟨l, rfl⟩ := hlabel hv
    obtain ⟨part, hpart⟩ := part_of_linked hentries he
    rw [hpart] at hfs ⊢
    cases part with
    | inl s => cases hfs
    | inr l' =>
      obtain ⟨c, hc, -⟩ := exists_cell hfs
      exact List.mem_map.2 ⟨(l', c), hc, rfl⟩

theorem sound_of_linked (hcells : DistinctCells cells) (h : (linked cells l).opened = .map entries) : Sound entries := by
  refine ⟨isMapping_of_linked hcells h, fun e he => ?_⟩
  obtain ⟨part, hpart⟩ := part_of_linked h he
  rw [hpart]
  cases part with
  | inl s => exact selfContained_nil
  | inr label => exact selfContained_linked hcells label

end

/-- The mappings in what a text holds have no repeated keys. -/
theorem sound_of_valueOf? {text : String} {v : Value} {entries : List (Value × Value)} (h : valueOf? text = some v)
    (hv : v.opened = .map entries) : Sound entries := by
  obtain ⟨g, -, h⟩ := Option.bind_eq_some_iff.1 h
  cases g with
  | none =>
    cases h
    cases hv
  | some g =>
    obtain ⟨⟨part, nodes⟩, -, h⟩ := Option.bind_eq_some_iff.1 h
    obtain ⟨⟨cells, nodes'⟩, hcells, h⟩ := Option.bind_eq_some_iff.1 h
    have hdistinct : DistinctCells cells := gives_cellsFrom _ _ _ _ _ _ hcells
    cases h
    cases htree : tree? cells cells.length part with
    | none =>
      rw [htree] at hv
      cases part with
      | inl s => cases hv
      | inr label => exact sound_of_linked hdistinct hv
    | some v =>
      rw [htree] at hv
      have hnested := isNested_of_tree? hdistinct htree
      cases hnested with
      | map mapping inside =>
        cases hv
        exact ⟨mapping, fun e he => (inside e he).selfContained⟩
      | other h hlinked =>
        rw [Option.getD_some, opened_of_ne_linked hlinked] at hv
        exact absurd hv (h entries)

end Yaml

end PromptMarkup
