import Mathlib.Data.Finset.Card
import Mathlib.Data.Finset.Prod
import Mathlib.Order.Monotone.Basic
import PromptMarkup.Proofs.Value.Merging

/-!
# Merging mappings that hold themselves

What one value gives over another is told by what the two hold, layer by layer (`Overlaid`), and so it is the same value
however far down one goes (`Overlaid.unique`).  It is not there if keys lead from mapping to mapping in both of them
without end (`Endless`).  The key fact: a path that is longer than there are pairs of mappings can be made longer
(`MeetFor.endless`).  So the merge, which gives up on such a path, gives up exactly on what is endless, and all else it
merges as it should (`mergeEntries?_eq_none_iff`, `overlaid_of_mergeEntries?`).  What is written out is not endless, and
its merge is the one along the entries (`mergeEntries?_of_isNested`).
-/

namespace PromptMarkup.Value

variable {v w old : Value} {entries base top : List (Value × Value)} {k : Value} {n : Nat}

/-! ### Values over values -/

/-- What one value gives over another one: two mappings are merged key by key, and otherwise the upper value wins. -/
inductive Overlaid : Option Value → Value → Value → Prop where
  | merged {old v : Value} {base top entries : List (Value × Value)} (hold : old.opened = map base)
      (hv : v.opened = map top) (mapping : IsMapping entries)
      (keys_eq : keys entries = (keys top).foldl addKey (keys base))
      (kept : ∀ k, lookup k top = none → lookup k entries = lookup k base) (given : Value → Value)
      (found : ∀ k w, lookup k top = some w → lookup k entries = some (given k))
      (laid : ∀ k w, lookup k top = some w → Overlaid (lookup k base) w (given k)) : Overlaid (some old) v (map entries)
  | replaced {old : Option Value} {v : Value}
      (h : ∀ base top, old.map opened = some (map base) → v.opened ≠ map top) : Overlaid old v v

/-- Mappings are determined by their keys and by what is found under them. -/
theorem IsMapping.ext {entries' : List (Value × Value)} (h : IsMapping entries) (h' : IsMapping entries')
    (hkeys : keys entries = keys entries') (hlookup : ∀ k, lookup k entries = lookup k entries') : entries = entries' := by
  rw [h.eq_filterMap, h'.eq_filterMap, ← hkeys]
  exact List.filterMap_congr fun k _ => by rw [hlookup k]

/-- There is one value at most that a value gives over another one. -/
theorem Overlaid.unique {old : Option Value} {v w w' : Value} (h : Overlaid old v w) (h' : Overlaid old v w') :
    w = w' := by
  induction h generalizing w' with
  | replaced h =>
    cases h' with
    | merged hold hv => exact absurd hv (h _ _ (congrArg some hold))
    | replaced => rfl
  | @merged old v base top entries hold hv mapping hkeys kept given found laid ih =>
    cases h' with
    | replaced h => exact absurd hv (h _ _ (congrArg some hold))
    | @merged _ _ base' top' entries' hold' hv' mapping' hkeys' kept' given' found' laid' =>
      obtain rfl : base = base' := map.inj (hold.symm.trans hold')
      obtain rfl : top = top' := map.inj (hv.symm.trans hv')
      refine congrArg map (mapping.ext mapping' (hkeys.trans hkeys'.symm) fun k => ?_)
      cases htop : lookup k top with
      | none => rw [kept k htop, kept' k htop]
      | some w => rw [found k w htop, found' k w htop, ih k w htop (laid' k w htop)]

/-! ### All mappings in a value -/

/-- A value that is one of others if it is a mapping. -/
def Among (S : List Value) (v : Value) : Prop := ∀ entries, v.opened = map entries → v ∈ S

/-- Values with all mappings that lie in their entries.  None of them has repeated keys. -/
structure SelfContained (S : List Value) : Prop where
  mapping : ∀ v ∈ S, ∀ entries, v.opened = map entries → IsMapping entries
  inside : ∀ v ∈ S, ∀ entries, v.opened = map entries → ∀ e ∈ entries, Among S e.2

variable {S T : List Value}

theorem SelfContained.among_of_lookup (hS : SelfContained S) (hold : Among S old) (hopened : old.opened = map base)
    (hk : lookup k base = some v) : Among S v := by
  obtain ⟨e, he, -, rfl⟩ := exists_mem_of_lookup hk
  exact hS.inside old (hold base hopened) base hopened e he

theorem among_mappings (v : Value) : Among v.mappings v := by
  intro entries h
  cases v with
  | map entries => exact List.mem_cons_self
  | linked cells label =>
    cases hlabel : cells.lookup label with
    | none =>
      rw [opened, hlabel] at h
      cases h
    | some c =>
      obtain ⟨before, after, rfl, -⟩ := List.lookup_eq_some_iff.1 hlabel
      exact List.mem_map.2 ⟨(label, c), by simp, rfl⟩
  | _ => cases h

theorem among_mappingsIn {e : Value × Value} (he : e ∈ entries) : Among (mappingsIn entries) e.2 := by
  induction entries with
  | nil => cases he
  | cons a entries ih =>
    intro fs hfs
    rw [mappingsIn, List.mem_append]
    obtain rfl | he := List.mem_cons.1 he
    · exact .inl (among_mappings e.2 fs hfs)
    · exact .inr (ih he fs hfs)

theorem selfContained_nil : SelfContained [] :=
  ⟨fun _ hv => (List.not_mem_nil hv).elim, fun _ hv => (List.not_mem_nil hv).elim⟩

theorem SelfContained.append (hS : SelfContained S) (hT : SelfContained T) : SelfContained (S ++ T) := by
  constructor
  · intro v hv
    exact (List.mem_append.1 hv).elim (hS.mapping v) (hT.mapping v)
  · intro v hv entries hentries e he fs hfs
    rw [List.mem_append]
    obtain hv | hv := List.mem_append.1 hv
    · exact .inl (hS.inside v hv entries hentries e he fs hfs)
    · exact .inr (hT.inside v hv entries hentries e he fs hfs)

/-- The mappings in entries hold each other if those in each value do. -/
theorem selfContained_mappings_map (h : IsMapping entries) (hinside : ∀ e ∈ entries, SelfContained e.2.mappings) :
    SelfContained (map entries).mappings := by
  have hentries : SelfContained (mappingsIn entries) := by
    clear h
    induction entries with
    | nil => exact selfContained_nil
    | cons e entries ih =>
      obtain ⟨he, hinside⟩ := List.forall_mem_cons.1 hinside
      exact he.append (ih hinside)
  rw [mappings]
  constructor
  · intro v hv
    obtain rfl | hv := List.mem_cons.1 hv
    · intro fs hfs
      cases hfs
      exact h
    · exact hentries.mapping v hv
  · intro v hv fs hfs e he gs hgs
    obtain rfl | hv := List.mem_cons.1 hv
    · cases hfs
      exact List.mem_cons_of_mem _ (among_mappingsIn he gs hgs)
    · exact List.mem_cons_of_mem _ (hentries.inside v hv fs hfs e he gs hgs)

/-- Entries without repeated keys, in which no mapping has any. -/
structure Sound (entries : List (Value × Value)) : Prop where
  mapping : IsMapping entries
  inside : ∀ e ∈ entries, SelfContained e.2.mappings

theorem Sound.selfContained (h : Sound entries) : SelfContained (map entries).mappings :=
  selfContained_mappings_map h.mapping h.inside

theorem selfContained_mappings_of_ne_map (h : ∀ entries, v ≠ map entries)
    (hlinked : ∀ cells label, v ≠ linked cells label) : SelfContained v.mappings := by
  have hnone : v.mappings = [] := by
    cases v with
    | map entries => exact absurd rfl (h entries)
    | linked cells label => exact absurd rfl (hlinked cells label)
    | _ => rw [mappings.eq_def]
  rw [hnone]
  exact selfContained_nil

/-! ### Common paths -/

/-- A path of so many keys leads from mapping to mapping in two values. -/
inductive MeetFor : Nat → Value → Value → Prop where
  | here {old v : Value} {base top : List (Value × Value)} (hold : old.opened = map base) (hv : v.opened = map top) :
      MeetFor 0 old v
  | onward {n : Nat} {old v old' v' : Value} {base top : List (Value × Value)} {k : Value}
      (hold : old.opened = map base) (hv : v.opened = map top) (hbase : lookup k base = some old')
      (htop : lookup k top = some v') (h : MeetFor n old' v') : MeetFor (n + 1) old v

namespace MeetFor

theorem exists_maps (h : MeetFor n old v) : ∃ base top, old.opened = map base ∧ v.opened = map top := by
  cases h with
  | here hold hv | onward hold hv => exact ⟨_, _, hold, hv⟩

theorem symm (h : MeetFor n old v) : MeetFor n v old := by
  induction h with
  | here hold hv => exact .here hv hold
  | onward hold hv hbase htop _ ih => exact .onward hv hold htop hbase ih

theorem of_succ (h : MeetFor (n + 1) old v) : MeetFor n old v := by
  induction n generalizing old v with
  | zero =>
    obtain ⟨base, top, hold, hv⟩ := h.exists_maps
    exact .here hold hv
  | succ n ih =>
    cases h with
    | onward hold hv hbase htop h => exact .onward hold hv hbase htop (ih h)

theorem mono {m : Nat} (h : MeetFor n old v) (hm : m ≤ n) : MeetFor m old v := by
  induction hm with
  | refl => exact h
  | step _ ih => exact ih h.of_succ

end MeetFor

open Classical in
/-- The pairs of mappings from which a path of so many keys leads on. -/
noncomputable def meeting (S T : List Value) (n : Nat) : Finset (Value × Value) :=
  (S.toFinset ×ˢ T.toFinset).filter fun p => MeetFor n p.1 p.2

theorem mem_meeting : (old, v) ∈ meeting S T n ↔ (old ∈ S ∧ v ∈ T) ∧ MeetFor n old v := by
  simp [meeting]

theorem antitone_meeting (S T : List Value) : Antitone (meeting S T) := by
  intro m n hm p hp
  have hmeet := mem_meeting.1 hp
  exact mem_meeting.2 ⟨hmeet.1, hmeet.2.mono hm⟩

theorem card_meeting_le (S T : List Value) (n : Nat) : (meeting S T n).card ≤ S.length * T.length := by
  classical
  have hpairs : (meeting S T n).card ≤ (S.toFinset ×ˢ T.toFinset).card := Finset.card_filter_le _ _
  rw [Finset.card_product] at hpairs
  exact hpairs.trans (Nat.mul_le_mul S.toFinset_card_le T.toFinset_card_le)

theorem meeting_eq_of_card_eq {m : Nat} (hm : m ≤ n) (hcard : (meeting S T n).card = (meeting S T m).card) :
    meeting S T n = meeting S T m :=
  Finset.eq_of_subset_of_card_le (antitone_meeting S T hm) hcard.ge

/-- Once the pairs stay the same from one length to the next, they stay the same. -/
theorem card_meeting_stays (hS : SelfContained S) (hT : SelfContained T)
    (hcard : (meeting S T n).card = (meeting S T (n + 1)).card) :
    (meeting S T (n + 1)).card = (meeting S T (n + 2)).card := by
  have heq : meeting S T (n + 1) = meeting S T n := meeting_eq_of_card_eq n.le_succ hcard.symm
  have hsub : meeting S T (n + 1) ⊆ meeting S T (n + 2) := by
    rintro ⟨old, v⟩ hp
    obtain ⟨⟨hold, hv⟩, hmeet⟩ := mem_meeting.1 hp
    cases hmeet with
    | onward hopened hopened' hbase htop h =>
      obtain ⟨base', top', hold', hv'⟩ := h.exists_maps
      have hbelow := hS.among_of_lookup (fun _ _ => hold) hopened hbase base' hold'
      have habove := hT.among_of_lookup (fun _ _ => hv) hopened' htop top' hv'
      have hchild := mem_meeting.2 ⟨⟨hbelow, habove⟩, h⟩
      rw [← heq] at hchild
      exact mem_meeting.2 ⟨⟨hold, hv⟩, .onward hopened hopened' hbase htop (mem_meeting.1 hchild).2⟩
  exact le_antisymm (Finset.card_le_card hsub) (Finset.card_le_card (antitone_meeting S T (n + 1).le_succ))

/-- A path that is longer than there are pairs of mappings goes on for ever: the pairs from which a path leads on become
fewer with its length, until they stay the same. -/
theorem MeetFor.endless (hS : SelfContained S) (hT : SelfContained T) (hold : Among S old) (hv : Among T v)
    (h : MeetFor (S.length * T.length) old v) (n : Nat) : MeetFor n old v := by
  obtain ⟨i, hi, hstable⟩ := Nat.stabilises_of_antitone (f := fun m => (meeting S T m).card)
    (fun m n hm => Finset.card_le_card (antitone_meeting S T hm)) fun m => card_meeting_stays hS hT
  have hbound : i ≤ S.length * T.length := hi.trans (card_meeting_le S T 0)
  obtain ⟨base, top, hbase, htop⟩ := h.exists_maps
  have hmem : (old, v) ∈ meeting S T i := mem_meeting.2 ⟨⟨hold base hbase, hv top htop⟩, h.mono hbound⟩
  have hstays : meeting S T (max n i) = meeting S T i :=
    meeting_eq_of_card_eq (le_max_right n i) (hstable _ (le_max_right n i))
  rw [← hstays] at hmem
  exact (mem_meeting.1 hmem).2.mono (le_max_left n i)

/-- Keys lead from mapping to mapping in both of two mappings without end. -/
def Endless (base top : List (Value × Value)) : Prop := ∀ n, MeetFor n (map base) (map top)

/-! ### Each entry over another -/

section

variable {over? : Option Value → Value → Option Value}

/-- Entries that come of laying each of some others over what was there before. -/
structure LaidEach (over? : Option Value → Value → Option Value) (base top entries : List (Value × Value)) : Prop where
  keys_eq : keys entries = (keys top).foldl addKey (keys base)
  kept : ∀ k, lookup k top = none → lookup k entries = lookup k base
  laid : ∀ k v, lookup k top = some v → ∃ w, over? (lookup k base) v = some w ∧ lookup k entries = some w

theorem laidEach_of_layEach? (h : IsMapping top) (hlay : layEach? over? base top = some entries) :
    LaidEach over? base top entries := by
  induction top generalizing base with
  | nil =>
    cases hlay
    exact ⟨rfl, fun _ _ => rfl, fun _ _ hv => nomatch hv⟩
  | cons e top ih =>
    obtain ⟨w, hw, hlay⟩ := Option.bind_eq_some_iff.1 hlay
    have hrest := ih h.of_cons hlay
    refine ⟨?_, fun k hk => ?_, fun k v hk => ?_⟩
    · rw [hrest.keys_eq, keys_insert, keys_cons, List.foldl_cons]
    · rw [lookup] at hk
      split at hk
      · cases hk
      · next hne => rw [hrest.kept k hk, lookup_insert, if_neg hne]
    · rw [lookup] at hk
      split at hk
      · next hsame =>
        cases hk
        have hother : lookup k top = none := h.lookup_eq_none hsame
        refine ⟨w, by rw [← lookup_congr hsame, hw], ?_⟩
        rw [hrest.kept k hother, lookup_insert, if_pos hsame]
      · next hne =>
        obtain ⟨u, hu, hfound⟩ := hrest.laid k v hk
        rw [lookup_insert, if_neg hne] at hu
        exact ⟨u, hu, hfound⟩

theorem isMapping_of_layEach? (hbase : IsMapping base) (h : IsMapping top)
    (hlay : layEach? over? base top = some entries) : IsMapping entries := by
  induction top generalizing base with
  | nil =>
    cases hlay
    exact hbase
  | cons e top ih =>
    obtain ⟨w, -, hlay⟩ := Option.bind_eq_some_iff.1 hlay
    exact ih (hbase.insert (h.scalar e.1 List.mem_cons_self) w) h.of_cons hlay

theorem layEach?_eq_none_iff (h : IsMapping top) :
    layEach? over? base top = none ↔ ∃ e ∈ top, over? (lookup e.1 base) e.2 = none := by
  induction top generalizing base with
  | nil => simp [layEach?]
  | cons e top ih =>
    cases hw : over? (lookup e.1 base) e.2 with
    | none => simp [layEach?, hw]
    | some w =>
      have hrest : (∃ e' ∈ top, over? (lookup e'.1 (insert base e.1 w)) e'.2 = none) ↔
          ∃ e' ∈ top, over? (lookup e'.1 base) e'.2 = none := by
        refine exists_congr fun e' => and_congr_right fun he' => ?_
        have hother := List.rel_of_pairwise_cons h.distinct (List.mem_map_of_mem he')
        rw [lookup_insert, if_neg (by simpa using hother)]
      simp [layEach?, hw, ih h.of_cons, hrest]

end

/-! ### Merging as far as it goes -/

theorem mergeOver?_zero (hold : old.opened = map base) (hv : v.opened = map top) : mergeOver? 0 (some old) v = none := by
  rw [mergeOver?.eq_def]
  simp only [Option.map_some, hold, hv]

theorem mergeOver?_succ (hold : old.opened = map base) (hv : v.opened = map top) (n : Nat) :
    mergeOver? (n + 1) (some old) v = map <$> layEach? (mergeOver? n) base top := by
  rw [mergeOver?.eq_def]
  simp only [Option.map_some, hold, hv]

theorem mergeOver?_of_replaced {old : Option Value}
    (h : ∀ base top, old.map opened = some (map base) → v.opened ≠ map top) (n : Nat) :
    mergeOver? n old v = some v := by
  rw [mergeOver?.eq_def]
  split
  · next base top hold hv => exact absurd hv (h base top hold)
  · rfl

/-- Where not both hold mappings, a merge is not given up and there is no path. -/
theorem mergeOver?_eq_none_iff_of_not_maps (h : ¬ ∃ base top, old.opened = map base ∧ v.opened = map top) :
    mergeOver? n (some old) v = none ↔ MeetFor n old v := by
  have hreplaced : mergeOver? n (some old) v = some v :=
    mergeOver?_of_replaced (fun base top hold hv => h ⟨base, top, by simpa using hold, hv⟩) n
  rw [hreplaced]
  exact iff_of_false (by simp) fun hmeet => h hmeet.exists_maps

/-- A merge that goes down no further than a number of keys is given up exactly where a path is longer than that. -/
theorem mergeOver?_eq_none_iff (hT : SelfContained T) (hv : Among T v) :
    mergeOver? n (some old) v = none ↔ MeetFor n old v := by
  induction n generalizing old v with
  | zero =>
    by_cases hmaps : ∃ base top, old.opened = map base ∧ v.opened = map top
    · obtain ⟨base, top, hbase, htop⟩ := hmaps
      exact iff_of_true (mergeOver?_zero hbase htop) (.here hbase htop)
    · exact mergeOver?_eq_none_iff_of_not_maps hmaps
  | succ n ih =>
    by_cases hmaps : ∃ base top, old.opened = map base ∧ v.opened = map top
    swap
    · exact mergeOver?_eq_none_iff_of_not_maps hmaps
    obtain ⟨base, top, hbase, htop⟩ := hmaps
    have hmapping := hT.mapping v (hv top htop) top htop
    have hinside := hT.inside v (hv top htop) top htop
    rw [mergeOver?_succ hbase htop, Option.map_eq_map, Option.map_eq_none_iff, layEach?_eq_none_iff hmapping]
    constructor
    · rintro ⟨e, he, hnone⟩
      cases hlookup : lookup e.1 base with
      | none =>
        rw [hlookup, mergeOver?_of_replaced (fun _ _ h => by cases h)] at hnone
        cases hnone
      | some old' =>
        rw [hlookup, ih (hinside e he)] at hnone
        exact .onward hbase htop hlookup (hmapping.lookup_of_mem he) hnone
    · intro h
      cases h with
      | onward hold' hv' hlookup hlookup' h =>
        obtain rfl := map.inj (hbase.symm.trans hold')
        obtain rfl := map.inj (htop.symm.trans hv')
        obtain ⟨e, he, hsame, rfl⟩ := exists_mem_of_lookup hlookup'
        refine ⟨e, he, ?_⟩
        rw [lookup_congr hsame, hlookup, ih (hinside e he)]
        exact h

theorem overlaid_of_not_maps {old : Option Value}
    (hmaps : ¬ ∃ o base top, old = some o ∧ o.opened = map base ∧ v.opened = map top)
    (h : mergeOver? n old v = some w) : Overlaid old v w := by
  have hnot (base top) (hold : old.map opened = some (map base)) : v.opened ≠ map top := fun hv => by
    obtain ⟨o, rfl, ho⟩ := Option.map_eq_some_iff.1 hold
    exact hmaps ⟨o, base, top, rfl, ho, hv⟩
  rw [mergeOver?_of_replaced hnot] at h
  cases h
  exact .replaced hnot

/-- A merge that is not given up gives what one value gives over the other. -/
theorem overlaid_of_mergeOver? {old : Option Value} (hS : SelfContained S) (hT : SelfContained T)
    (hold : ∀ o, old = some o → Among S o) (hv : Among T v) (h : mergeOver? n old v = some w) : Overlaid old v w := by
  induction n generalizing old v w with
  | zero =>
    by_cases hmaps : ∃ o base top, old = some o ∧ o.opened = map base ∧ v.opened = map top
    · obtain ⟨o, base, top, rfl, hbase, htop⟩ := hmaps
      rw [mergeOver?_zero hbase htop] at h
      cases h
    · exact overlaid_of_not_maps hmaps h
  | succ n ih =>
    by_cases hmaps : ∃ o base top, old = some o ∧ o.opened = map base ∧ v.opened = map top
    swap
    · exact overlaid_of_not_maps hmaps h
    obtain ⟨o, base, top, rfl, hbase, htop⟩ := hmaps
    rw [mergeOver?_succ hbase htop] at h
    obtain ⟨entries, hlay, rfl⟩ := Option.map_eq_some_iff.1 h
    have hbasemap := hS.mapping o (hold o rfl base hbase) base hbase
    have htopmap := hT.mapping v (hv top htop) top htop
    have heach := laidEach_of_layEach? htopmap hlay
    refine .merged hbase htop (isMapping_of_layEach? hbasemap htopmap hlay) heach.keys_eq heach.kept
      (fun k => (lookup k entries).getD null) (fun k w hw => ?_) fun k w hw => ?_
    · obtain ⟨u, -, hfound⟩ := heach.laid k w hw
      rw [hfound]
      rfl
    · obtain ⟨u, hu, hfound⟩ := heach.laid k w hw
      rw [hfound]
      exact ih (fun o' ho' => hS.among_of_lookup (hold o rfl) hbase ho') (hT.among_of_lookup hv htop hw) hu

/-- Mappings are merged unless they hold each other's keys without end. -/
theorem mergeEntries?_eq_none_iff (hbase : Sound base) (htop : Sound top) :
    mergeEntries? base top = none ↔ Endless base top := by
  have hdeeper : mergeOver? ((map base).mappings.length * (map top).mappings.length + 1) (some (map base)) (map top) =
      none ↔ MeetFor _ (map base) (map top) := mergeOver?_eq_none_iff htop.selfContained (among_mappings (map top))
  rw [mergeOver?_succ rfl rfl, Option.map_eq_map, Option.map_eq_none_iff] at hdeeper
  rw [mergeEntries?, hdeeper]
  refine ⟨fun h => ?_, fun h => h _⟩
  exact h.of_succ.endless hbase.selfContained htop.selfContained (among_mappings _) (among_mappings _)

theorem overlaid_of_mergeEntries? (hbase : Sound base) (htop : Sound top)
    (h : mergeEntries? base top = some entries) : Overlaid (some (map base)) (map top) (map entries) := by
  refine overlaid_of_mergeOver? (n := (map base).mappings.length * (map top).mappings.length + 1) hbase.selfContained
    htop.selfContained (fun o ho => by cases ho; exact among_mappings _) (among_mappings _) ?_
  rw [mergeOver?_succ rfl rfl, ← mergeEntries?, h]
  rfl

/-! ### Values that are written out -/

theorem opened_of_ne_linked (h : ∀ cells label, v ≠ linked cells label) : v.opened = v := by
  cases v with
  | linked cells label => exact absurd rfl (h cells label)
  | _ => rfl

theorem IsNested.selfContained (h : v.IsNested) : SelfContained v.mappings := by
  induction h with
  | map mapping _ ih => exact selfContained_mappings_map mapping ih
  | other h hlinked => exact selfContained_mappings_of_ne_map h hlinked

theorem IsNested.sound (h : (Value.map entries).IsNested) : Sound entries :=
  ⟨h.mapping, fun e he => (h.inside e he).selfContained⟩

/-- Paths without end go through something below. -/
theorem MeetFor.exists_endless_below (hS : SelfContained S) (hT : SelfContained T) (hold : Among S old) (hv : Among T v)
    (h : ∀ n, MeetFor n old v) : ∃ top k v' old', v.opened = map top ∧ lookup k top = some v' ∧ Among S old' ∧
      ∀ n, MeetFor n old' v' := by
  cases h (S.length * T.length + 1) with
  | onward hbase htop hlookup hlookup' h =>
    have hold' := hS.among_of_lookup hold hbase hlookup
    exact ⟨_, _, _, _, htop, hlookup', hold', h.endless hS hT hold' (hT.among_of_lookup hv htop hlookup')⟩

theorem not_endless_of_isNested (hS : SelfContained S) (hold : Among S old) (h : v.IsNested) :
    ¬ ∀ n, MeetFor n old v := by
  induction h generalizing old with
  | other h hlinked =>
    intro hmeet
    obtain ⟨-, top, -, htop⟩ := (hmeet 0).exists_maps
    rw [opened_of_ne_linked hlinked] at htop
    exact h top htop
  | map mapping inside ih =>
    intro hmeet
    obtain ⟨top, k, v', old', htop, hlookup, hold', hmeet⟩ := MeetFor.exists_endless_below hS
      (IsNested.map mapping inside).selfContained hold (among_mappings _) hmeet
    cases htop
    obtain ⟨e, he, -, rfl⟩ := exists_mem_of_lookup hlookup
    exact ih e he hold' hmeet

/-- Nothing is endless over what is written out, or below it. -/
theorem not_endless (hbase : Sound base) (htop : Sound top)
    (h : (map base).IsNested ∨ (map top).IsNested) : ¬ Endless base top := by
  intro hmeet
  obtain h | h := h
  · exact not_endless_of_isNested htop.selfContained (among_mappings _) h fun n => (hmeet n).symm
  · exact not_endless_of_isNested hbase.selfContained (among_mappings _) h hmeet

/-- The merge along the entries gives what one value gives over another one. -/
theorem overlaid_mergeOver {old : Option Value} (hold : ∀ o, old = some o → o.IsNested) (h : v.IsNested) :
    Overlaid old v (mergeOver old v) := by
  induction h generalizing old with
  | other h hlinked =>
    rw [mergeOver_of_ne_map h]
    refine .replaced fun _ top _ => ?_
    rw [opened_of_ne_linked hlinked]
    exact h top
  | @map top mapping inside ih =>
    rw [mergeOver_map mapping]
    cases old with
    | none =>
      change Overlaid none (map top) (map (mergeEntries [] top))
      rw [mergeEntries_nil_left mapping]
      exact .replaced fun _ _ hnone => by cases hnone
    | some o =>
      cases hold o rfl with
      | @map base hmapping hinside =>
        refine .merged rfl rfl (isMapping_mergeEntries hmapping mapping) (keys_mergeEntries _ _) (fun k hk => ?_)
          (fun k => mergeOver (lookup k base) ((lookup k top).getD null)) (fun k w hw => ?_) fun k w hw => ?_
        · rw [entriesOf, lookup_mergeEntries mapping, hk, laidOver]
        · rw [entriesOf, lookup_mergeEntries mapping, hw, laidOver]
          rfl
        · obtain ⟨e, he, -, rfl⟩ := exists_mem_of_lookup hw
          rw [hw]
          exact ih e he fun o' ho' => (IsNested.map hmapping hinside).of_lookup ho'
      | other hother hlinked =>
        have hentries : entriesOf (some o) = [] := by
          cases o with
          | map base => exact absurd rfl (hother base)
          | _ => rfl
        rw [hentries, mergeEntries_nil_left mapping]
        refine .replaced fun base _ hmap => ?_
        rw [Option.map_some, opened_of_ne_linked hlinked] at hmap
        exact absurd (Option.some.inj hmap) (hother base)

/-- Mappings that are written out are merged along their entries. -/
theorem mergeEntries?_of_isNested (hbase : (map base).IsNested) (htop : (map top).IsNested) :
    mergeEntries? base top = some (mergeEntries base top) := by
  cases hmerge : mergeEntries? base top with
  | none =>
    rw [mergeEntries?_eq_none_iff hbase.sound htop.sound] at hmerge
    exact absurd hmerge (not_endless hbase.sound htop.sound (.inl hbase))
  | some entries =>
    have hmerged := overlaid_of_mergeEntries? hbase.sound htop.sound hmerge
    have hover : Overlaid (some (map base)) (map top) (mergeOver (some (map base)) (map top)) :=
      overlaid_mergeOver (fun o ho => by cases ho; exact hbase) htop
    rw [mergeOver] at hover
    rw [map.inj (hmerged.unique hover)]

end PromptMarkup.Value
