import Mathlib.Data.List.Nodup
import PromptMarkup.Build.Run
import PromptMarkup.Proofs.Files.Changes
import PromptMarkup.Proofs.Files.Paths

/-!
# The sources of a build and their report

A build compiles each source once (`nodup_discoverSources`), and different sources have different texts.  So the
report of their results does not depend on the order in which these come in (`BuildReport.ofResults_eq_of_perm`).
-/

namespace PromptMarkup

/-- Sources that are all different, also in their texts. -/
structure Distinct (sources : List Path) : Prop where
  nodup : sources.Nodup
  normal : ∀ s ∈ sources, s.IsNormal

theorem Distinct.perm {ss ts : List Path} (h : Distinct ss) (hp : ts.Perm ss) : Distinct ts where
  nodup := hp.nodup_iff.2 h.nodup
  normal s hs := h.normal s (hp.mem_iff.1 hs)

/-! ### Discovery -/

theorem nodup_eraseDups {α : Type} [BEq α] [LawfulBEq α] : (l : List α) → l.eraseDups.Nodup
  | [] => by simp [List.eraseDups]
  | a :: as => by
    rw [List.eraseDups_cons, List.nodup_cons]
    exact ⟨by simp, nodup_eraseDups _⟩
  termination_by l => l.length
  decreasing_by exact Nat.lt_succ_of_le (List.length_filter_le _ _)

theorem sublist_of_filterAuxM {α ε : Type} {f : α → Except ε Bool} {xs acc ys : List α}
    (h : List.filterAuxM f xs acc = .ok ys) : ∃ zs : List α, zs.Sublist xs ∧ ys = zs.reverse ++ acc := by
  induction xs generalizing acc with
  | nil =>
    cases h
    exact ⟨[], .slnil, rfl⟩
  | cons x xs ih =>
    obtain ⟨b, -, h⟩ := Except.bind_eq_ok.1 h
    obtain ⟨zs, hzs, rfl⟩ := ih h
    cases b with
    | false => exact ⟨zs, hzs.cons x, rfl⟩
    | true => exact ⟨x :: zs, hzs.cons_cons x, by simp⟩

theorem sublist_of_filterM {α ε : Type} {f : α → Except ε Bool} {xs ys : List α} (h : xs.filterM f = .ok ys) :
    ys.Sublist xs := by
  obtain ⟨zs, hzs, h⟩ := Except.bind_eq_ok.1 h
  cases h
  obtain ⟨ws, hws, rfl⟩ := sublist_of_filterAuxM hzs
  simpa using hws

namespace FileSystem

/-- What stands in a directory by a name. -/
theorem exists_mem_of_mem_namesIn {fs : FileSystem} {l : Location} {name : String} (hn : name ∈ fs.namesIn l) :
    ∃ n, (l ++ [name], n) ∈ fs.nodes := by
  obtain ⟨⟨m, n⟩, hm, hlast⟩ := List.mem_filterMap.1 hn
  split at hlast
  · rename_i hl
    refine ⟨n, ?_⟩
    rwa [← hl.1, List.dropLast_append_getLast? _ hlast]
  · cases hlast

theorem WellFormed.nodup_namesIn {fs : FileSystem} (h : fs.WellFormed) (l : Location) : (fs.namesIn l).Nodup := by
  rw [namesIn, List.Nodup, List.pairwise_filterMap]
  refine (List.pairwise_map.1 h.distinct).imp fun {e e'} hne name hname name' hname' => ?_
  split at hname
  · rename_i hl
    split at hname'
    · rename_i hl'
      rintro rfl
      apply hne
      rw [← List.dropLast_append_getLast? _ hname, ← List.dropLast_append_getLast? _ hname', hl.1, hl'.1]
    · cases hname'
  · cases hname

end FileSystem

/-- The sources in a directory are named by what stands there. -/
theorem sublist_presentSources {fs : FileSystem} {directory : Path} {sources : List Path}
    (hs : presentSources fs directory = .ok sources) : sources = [] ∨ ∃ l,
      sources.Sublist (((fs.namesIn l).filter isSourceName).map fun name =>
        ⟨directory.anchor, directory.parts ++ [name]⟩) := by
  rw [presentSources] at hs
  split at hs
  · cases hs
  · cases hs
  dsimp only at hs
  split at hs
  · rename_i ps hps
    cases hs
    have hsub := sublist_of_filterM hps
    cases hl : fs.directory? directory with
    | none =>
      rw [hl] at hsub
      exact .inl (by simpa using hsub)
    | some l =>
      rw [hl] at hsub
      exact .inr ⟨l, hsub⟩
  · cases hs

/-- A build compiles each source once. -/
theorem nodup_discoverSources {fs : FileSystem} (h : fs.WellFormed) {directory : Path} {names : Option (List String)}
    {sources : List Path} (hs : discoverSources fs directory names = .ok sources) : sources.Nodup := by
  cases names with
  | some names =>
    cases hs
    exact (List.mergeSort_perm _ _).nodup_iff.2 (nodup_eraseDups _)
  | none =>
    obtain ⟨ps, hps, rfl⟩ := Except.map_eq_ok.1 hs
    refine (List.mergeSort_perm _ _).nodup_iff.2 ?_
    obtain rfl | ⟨l, hsub⟩ := sublist_presentSources hps
    · exact List.nodup_nil
    · refine List.Nodup.sublist hsub (List.Nodup.map (fun name name' heq => ?_) ((h.nodup_namesIn l).filter _))
      simpa using heq

theorem isNormal_of_mem_presentSources {fs : FileSystem} (h : fs.WellFormed) {directory : Path}
    (hd : directory.IsNormal) {sources : List Path} (hs : presentSources fs directory = .ok sources) {s : Path}
    (hmem : s ∈ sources) : s.IsNormal := by
  obtain rfl | ⟨l, hsub⟩ := sublist_presentSources hs
  · exact absurd hmem List.not_mem_nil
  obtain ⟨name, hname, rfl⟩ := List.mem_map.1 (hsub.subset hmem)
  obtain ⟨n, hn⟩ := FileSystem.exists_mem_of_mem_namesIn (List.mem_filter.1 hname).1
  obtain ⟨⟨hempty, hdot, -⟩, hslash⟩ := h.plain _ hn name (by simp)
  intro s hs
  obtain hs | hs := List.mem_append.1 hs
  · exact hd s hs
  · obtain rfl := List.mem_singleton.1 hs
    exact ⟨hempty, hdot, hslash⟩

theorem distinct_discoverSources {fs : FileSystem} (h : fs.WellFormed) {directory : Path} (hd : directory.IsNormal)
    {names : Option (List String)} {sources : List Path} (hs : discoverSources fs directory names = .ok sources) :
    Distinct sources where
  nodup := nodup_discoverSources h hs
  normal s hmem := by
    cases names with
    | some names =>
      cases hs
      obtain ⟨name, -, rfl⟩ := List.mem_map.1 (List.mem_eraseDups.1 ((List.mergeSort_perm _ _).mem_iff.1 hmem))
      exact hd.child _
    | none =>
      obtain ⟨ps, hps, rfl⟩ := Except.map_eq_ok.1 hs
      exact isNormal_of_mem_presentSources h hd hps ((List.mergeSort_perm _ _).mem_iff.1 hmem)

/-! ### The report -/

/-- The report of results does not depend on the order in which they come in. -/
theorem BuildReport.ofResults_eq_of_perm {sources : List Path} (h : Distinct sources) {result : Path → DocumentResult}
    (hsource : ∀ s, (result s).source = s) {results : List DocumentResult}
    (hp : results.Perm (sources.map result)) : ofResults results = ofResults (sources.map result) := by
  have hsorted (rs : List DocumentResult) : (rs.mergeSort fun r s => r.source.text ≤ s.source.text).Pairwise
      fun r s => r.source.text ≤ s.source.text := by
    simpa using @List.pairwise_mergeSort _ (fun r s : DocumentResult => decide (r.source.text ≤ s.source.text))
      (fun a b c hab hbc => by simpa using String.le_trans (by simpa using hab) (by simpa using hbc))
      (fun a b => by simpa using String.le_total _ _) rs
  rw [ofResults, ofResults, BuildReport.mk.injEq]
  refine List.Perm.eq_of_pairwise ?_ (hsorted _) (hsorted _)
    ((List.mergeSort_perm _ _).trans (hp.trans (List.mergeSort_perm _ _).symm))
  intro r s hr hs hrs hsr
  obtain ⟨a, ha, rfl⟩ := List.mem_map.1 (hp.mem_iff.1 ((List.mergeSort_perm _ _).mem_iff.1 hr))
  obtain ⟨b, hb, rfl⟩ := List.mem_map.1 ((List.mergeSort_perm _ _).mem_iff.1 hs)
  rw [hsource, hsource] at hrs hsr
  rw [Path.eq_of_text_eq (h.normal a ha) (h.normal b hb) (String.le_antisymm hrs hsr)]

end PromptMarkup
