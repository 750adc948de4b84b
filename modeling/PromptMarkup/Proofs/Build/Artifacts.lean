import PromptMarkup.Build.Run
import PromptMarkup.Proofs.Files.Storing
import PromptMarkup.Proofs.Inclusion.Lookups

/-!
# Artifacts of documents that are independent

If the documents of a build keep out of each other's way (`Independent`), then after some of them have been built the
files are those before with these artifacts stored in them (`filesAfter`).  Every other document is compiled there to
what it is compiled to before (`Independent.transform_filesAfter`), and its artifact goes where it would have gone first
(`Independent.storeArtifact_filesAfter`).
-/

namespace PromptMarkup

open FileSystem

/-! ### Where artifacts go -/

/-- The path of a source's artifact. -/
def artifactPath (settings : BuildSettings) (source : Path) : Path :=
  settings.outputDirectory.child (artifactName settings source)

/-- The files once the output directory has been made, as far as it can be. -/
def prepared (settings : BuildSettings) (fs : FileSystem) : FileSystem :=
  (fs.makeDirectories settings.outputDirectory).1

/-- Where the artifact of a source is stored once the output directory is there, or why it is not. -/
def artifactPlace (settings : BuildSettings) (fs : FileSystem) (source : Path) : Except Files.Fault Location :=
  (prepared settings fs).place (artifactPath settings source)

/-- No two documents of a build have their artifacts at one place, and none is looked for where an artifact is stored:
not a source and not what a directive leads to. -/
structure Separate (settings : BuildSettings) (fs : FileSystem) (sources : List Path) : Prop where
  outputs : ∀ s ∈ sources, ∀ s' ∈ sources, ∀ l, artifactPlace settings fs s = .ok l →
    artifactPlace settings fs s' = .ok l → s = s'
  lookups : ∀ s ∈ sources, ∀ t, fs.view.LooksFor s t → ∀ s' ∈ sources, artifactPlace settings fs s' ≠ .ok t

/-- The documents of a build keep out of each other's way also on the way to their artifacts.  The walk to an artifact
does not stop at another one, making the output directory does not change what a load finds, and where the directory
cannot be made, a second attempt leaves the files alone and fails as the first one did. -/
structure Independent (settings : BuildSettings) (fs : FileSystem) (sources : List Path) : Prop
    extends Separate settings fs sources where
  through : ∀ s ∈ sources, ∀ s' ∈ sources, ∀ l, artifactPlace settings fs s' = .ok l →
    (prepared settings fs).stop? true maxLinks ((prepared settings fs).start (artifactPath settings s))
      (artifactPath settings s).parts = some l →
    artifactPlace settings fs s = .ok l
  found : ∀ s ∈ sources, ∀ t, fs.view.LooksFor s t → (prepared settings fs).hasFile t = fs.hasFile t
  directory : (prepared settings fs).makeDirectories settings.outputDirectory =
    (prepared settings fs, (fs.makeDirectories settings.outputDirectory).2)

/-- Documents with artifacts at places of their own are independent if the output directory can be made, each artifact
has its place there, and loads find the same once the directory is made. -/
theorem Separate.independent {settings : BuildSettings} {fs : FileSystem} {sources : List Path}
    (h : Separate settings fs sources) (hmade : (fs.makeDirectories settings.outputDirectory).2 = .ok ())
    (hplaces : ∀ s ∈ sources, ∃ l, artifactPlace settings fs s = .ok l)
    (hfound : ∀ s ∈ sources, ∀ t, fs.view.LooksFor s t → (prepared settings fs).hasFile t = fs.hasFile t) :
    Independent settings fs sources where
  toSeparate := h
  through s hs _ _ l _ hstop := by
    obtain ⟨m, hm⟩ := hplaces s hs
    cases (isFree_of_place hm).2.symm.trans hstop
    exact hm
  found := hfound
  directory := by
    have hthere : (prepared settings fs).isDirectory settings.outputDirectory = .ok true :=
      isDirectory_of_makeDirectories (Prod.ext rfl hmade)
    rw [makeDirectories_of_isDirectory hthere, hmade]

section

variable (settings : BuildSettings) (fs : FileSystem) (source : Path)

/-- The text of a source that is compiled and has a safe name for its artifact. -/
def artifactText? : Option String :=
  if isSafeName (artifactName settings source) then (transform fs source).toOption else none

/-- What is stored for a source: the place and the bytes of its artifact. -/
def artifact? : Option (Location × List UInt8) := do
  let content ← artifactText? settings fs source
  let _ ← (fs.makeDirectories settings.outputDirectory).2.toOption
  let l ← (artifactPlace settings fs source).toOption
  return (l, (payload (Text.codePoints content)).1)

/-- The files after some sources have been built, one after another. -/
def filesAfter (built : List Path) : FileSystem :=
  (if built.any fun s => (artifactText? settings fs s).isSome then prepared settings fs else fs).store
    (built.filterMap (artifact? settings fs))

/-- The result of a source whose artifact has been opened: it fails if what it was compiled to cannot be encoded. -/
def openedResult (content : String) : DocumentResult :=
  match (payload (Text.codePoints content)).2 with
  | .ok () => { source, output := some (artifactPath settings source), ok := true }
  | .error e => .failed source e

/-- The result of a source that is built before the others. -/
def documentResult : DocumentResult :=
  match transform fs source with
  | .error e => .failed source e
  | .ok content =>
    if isSafeName (artifactName settings source) then
      match (fs.makeDirectories settings.outputDirectory).2, artifactPlace settings fs source with
      | .error f, _ => .failed source (.files f)
      | .ok (), .error f => .failed source (.files f)
      | .ok (), .ok _ => openedResult settings source content
    else .failed source (.unsafeName (artifactName settings source))

end

variable {settings : BuildSettings} {fs files made : FileSystem} {source : Path} {sources built : List Path}

theorem source_openedResult (settings : BuildSettings) (source : Path) (content : String) :
    (openedResult settings source content).source = source := by
  rw [openedResult]
  split <;> rfl

theorem source_documentResult : (documentResult settings fs source).source = source := by
  rw [documentResult]
  split
  · rfl
  · split
    · split
      · rfl
      · rfl
      · exact source_openedResult settings source _
    · rfl

/-! ### Writing one artifact -/

section

variable {after : FileSystem} {directory : Path} {name : String} {l : Location} {f : Files.Fault}

theorem writeArtifact_of_not_isSafeName (hsafe : isSafeName name = false) (files : FileSystem) (directory : Path)
    (content : List CodePoint) : writeArtifact files directory name content = (files, .error (.unsafeName name)) := by
  rw [writeArtifact, hsafe]
  rfl

theorem writeArtifact_of_not_made (hsafe : isSafeName name = true)
    (hmade : files.makeDirectories directory = (made, .error f)) (content : List CodePoint) :
    writeArtifact files directory name content = (made, .error (.files f)) := by
  rw [writeArtifact, hsafe, hmade]
  rfl

theorem writeArtifact_of_no_place (hsafe : isSafeName name = true)
    (hmade : files.makeDirectories directory = (made, .ok ())) (hl : made.place (directory.child name) = .error f)
    (content : List CodePoint) : writeArtifact files directory name content = (made, .error (.files f)) := by
  rw [writeArtifact, hsafe, hmade]
  simp only [if_true, write_eq, hl]
  rfl

/-- The artifact is put where its path leads once the directory has been made. -/
theorem writeArtifact_of_place (hsafe : isSafeName name = true)
    (hmade : files.makeDirectories directory = (made, .ok ())) (hl : made.place (directory.child name) = .ok l)
    (content : List CodePoint) : writeArtifact files directory name content =
      (made.put l (.file (payload content).1), (payload content).2.map fun _ => directory.child name) := by
  rw [writeArtifact, hsafe, hmade]
  simp only [if_true, write_eq, hl]
  rfl

variable {content : String}

/-- What becomes of a source whose artifact is opened. -/
theorem storeArtifact_of_opened
    (h : writeArtifact files settings.outputDirectory (artifactName settings source) (Text.codePoints content) =
      (after, (payload (Text.codePoints content)).2.map fun _ => artifactPath settings source)) :
    storeArtifact settings source (.ok content) files = (after, openedResult settings source content) := by
  unfold storeArtifact openedResult
  dsimp only
  rw [h]
  cases (payload (Text.codePoints content)).2 <;> rfl

theorem storeArtifact_of_error {e : Failure}
    (h : writeArtifact files settings.outputDirectory (artifactName settings source) (Text.codePoints content) =
      (after, .error e)) :
    storeArtifact settings source (.ok content) files = (after, .failed source e) := by
  unfold storeArtifact
  dsimp only
  rw [h]

end

/-- Writing what a source was compiled to, where the output directory and the place of the artifact are what they would
have been at first. -/
theorem storeArtifact_eq
    (hdirectory : files.makeDirectories settings.outputDirectory =
      (made, (fs.makeDirectories settings.outputDirectory).2))
    (hplace : made.place (artifactPath settings source) = artifactPlace settings fs source) :
    storeArtifact settings source (transform fs source) files =
      (if (artifactText? settings fs source).isSome then made.store (artifact? settings fs source).toList else files,
        documentResult settings fs source) := by
  unfold documentResult artifact? artifactText?
  cases transform fs source with
  | error e =>
    have hnone : (if isSafeName (artifactName settings source) = true then (.error e : Except Failure String).toOption
        else none) = none := ite_self none
    rw [hnone]
    rfl
  | ok content =>
    cases hsafe : isSafeName (artifactName settings source) with
    | false =>
      rw [storeArtifact_of_error (writeArtifact_of_not_isSafeName hsafe _ _ _)]
      simp
    | true =>
      cases hmade : (fs.makeDirectories settings.outputDirectory).2 with
      | error f =>
        rw [hmade] at hdirectory
        rw [storeArtifact_of_error (writeArtifact_of_not_made hsafe hdirectory _)]
        simp [Except.toOption, store]
      | ok u =>
        rw [hmade] at hdirectory
        cases hl : artifactPlace settings fs source with
        | error f =>
          rw [storeArtifact_of_error (writeArtifact_of_no_place hsafe hdirectory (hplace.trans hl) _)]
          simp [Except.toOption, store]
        | ok l =>
          rw [storeArtifact_of_opened (writeArtifact_of_place hsafe hdirectory (hplace.trans hl) _)]
          simp [Except.toOption, store]

/-! ### Files with artifacts in them -/

theorem artifactPlace_of_artifact? {a : Location × List UInt8} (ha : artifact? settings fs source = some a) :
    artifactPlace settings fs source = .ok a.1 := by
  obtain ⟨content, -, ha⟩ := Option.bind_eq_some_iff.1 ha
  obtain ⟨-, -, ha⟩ := Option.bind_eq_some_iff.1 ha
  obtain ⟨l, hl, ha⟩ := Option.bind_eq_some_iff.1 ha
  cases ha
  exact Except.toOption_eq_some.1 hl

theorem exists_mem_of_mem_artifacts {a : Location × List UInt8} (ha : a ∈ built.filterMap (artifact? settings fs)) :
    ∃ s ∈ built, artifactPlace settings fs s = .ok a.1 := by
  obtain ⟨s, hs, ha⟩ := List.mem_filterMap.1 ha
  exact ⟨s, hs, artifactPlace_of_artifact? ha⟩

theorem isFree_of_mem_artifacts : ∀ a ∈ built.filterMap (artifact? settings fs), (prepared settings fs).IsFree a.1 := by
  intro a ha
  obtain ⟨s, -, hs⟩ := exists_mem_of_mem_artifacts ha
  exact (isFree_of_place hs).1

theorem stored_artifacts (settings : BuildSettings) (fs : FileSystem) (built : List Path) :
    Stored (prepared settings fs) ((prepared settings fs).store (built.filterMap (artifact? settings fs)))
      ((built.filterMap (artifact? settings fs)).map (·.1)) :=
  stored_store isFree_of_mem_artifacts

/-- Before the first attempt to make the output directory, nothing has been stored. -/
theorem filesAfter_cases (settings : BuildSettings) (fs : FileSystem) (built : List Path) :
    (filesAfter settings fs built = fs ∧ built.filterMap (artifact? settings fs) = [] ∧
        (built.any fun s => (artifactText? settings fs s).isSome) = false) ∨
      filesAfter settings fs built = (prepared settings fs).store (built.filterMap (artifact? settings fs)) ∧
        (built.any fun s => (artifactText? settings fs s).isSome) = true := by
  rw [filesAfter]
  cases hany : built.any fun s => (artifactText? settings fs s).isSome with
  | true => exact .inr ⟨rfl, rfl⟩
  | false =>
    have hnone : built.filterMap (artifact? settings fs) = [] := by
      rw [List.filterMap_eq_nil_iff]
      intro s hs
      have htext : artifactText? settings fs s = none := by simpa using List.any_eq_false.1 hany s hs
      rw [artifact?, htext]
      rfl
    exact .inl ⟨by rw [hnone]; rfl, hnone, rfl⟩

namespace Independent

variable (h : Independent settings fs sources) (hb : built ⊆ sources)
include h

/-- The output directory is made where artifacts are stored as it is made at first. -/
theorem makeDirectories_filesAfter : (filesAfter settings fs built).makeDirectories settings.outputDirectory =
    ((prepared settings fs).store (built.filterMap (artifact? settings fs)),
      (fs.makeDirectories settings.outputDirectory).2) := by
  obtain ⟨hfiles, hnone, -⟩ | ⟨hfiles, -⟩ := filesAfter_cases settings fs built
  · rw [hfiles, hnone]
    rfl
  rw [hfiles]
  cases hmade : (fs.makeDirectories settings.outputDirectory).2 with
  | ok u =>
    have hdirectory : (prepared settings fs).isDirectory settings.outputDirectory = .ok true :=
      isDirectory_of_makeDirectories (Prod.ext rfl hmade)
    exact makeDirectories_of_isDirectory ((stored_artifacts settings fs built).isDirectory hdirectory)
  | error f =>
    -- Nothing is stored where the directory cannot be made, and the next attempt fails as the first one did.
    have hnone : built.filterMap (artifact? settings fs) = [] := by
      rw [List.filterMap_eq_nil_iff]
      intro s _
      rw [artifact?, hmade]
      cases artifactText? settings fs s <;> rfl
    rw [hnone, ← hmade]
    exact h.directory

variable (hs : source ∈ sources)
include hs hb

/-- The artifact of a source that has not been built goes where it would have gone first. -/
theorem place_filesAfter (hnew : source ∉ built) :
    ((prepared settings fs).store (built.filterMap (artifact? settings fs))).place (artifactPath settings source) =
      artifactPlace settings fs source := by
  refine (stored_artifacts settings fs built).place fun l hstop hl => ?_
  obtain ⟨a, ha, rfl⟩ := List.mem_map.1 hl
  obtain ⟨s', hs', hplace⟩ := exists_mem_of_mem_artifacts ha
  have hown := h.through source hs s' (hb hs') a.1 hplace hstop
  exact hnew (h.outputs source hs s' (hb hs') a.1 hown hplace ▸ hs')

/-- Writing the artifact of a source adds it to those that are there. -/
theorem storeArtifact_filesAfter (hnew : source ∉ built) :
    storeArtifact settings source (transform fs source) (filesAfter settings fs built) =
      (filesAfter settings fs (built ++ [source]), documentResult settings fs source) := by
  rw [storeArtifact_eq h.makeDirectories_filesAfter (h.place_filesAfter hb hs hnew)]
  congr 1
  cases htext : artifactText? settings fs source with
  | none =>
    have hnone : artifact? settings fs source = none := by
      rw [artifact?, htext]
      rfl
    rw [filesAfter, filesAfter]
    simp [htext, hnone]
  | some content =>
    have hany : (built ++ [source]).any (fun s => (artifactText? settings fs s).isSome) = true := by simp [htext]
    rw [filesAfter, filesAfter, hany, List.filterMap_append]
    cases ha : artifact? settings fs source <;> simp [ha, store]

/-- Documents that have been built do not change what another one is compiled to. -/
theorem loadsSame_filesAfter (hw : fs.WellFormed) :
    fs.view.LoadsSame (filesAfter settings fs built).view source := by
  obtain ⟨hfiles, -⟩ | ⟨hfiles, -⟩ := filesAfter_cases settings fs built
  · rw [hfiles]
    exact ⟨rfl, fun _ => rfl, fun _ _ => rfl, fun _ _ _ => rfl⟩
  -- First the output directory was made, and then artifacts were stored.
  have hgrown : Grown fs (prepared settings fs) := grown_makeDirectories fs settings.outputDirectory
  have hstored := stored_artifacts settings fs built
  have hfound : ∀ l ∈ (prepared settings fs).files,
      ∃ bs, (prepared settings fs).follow (Path.absolute l) = .ok (.found l (.file bs)) := by
    intro l hl
    obtain ⟨bs, hbs⟩ := hw.follow_of_mem_files ((hgrown.files l).1 hl)
    exact ⟨bs, hgrown.follow_found hbs⟩
  have hnot {t : Location} (ht : fs.view.LooksFor source t) :
      t ∉ (built.filterMap (artifact? settings fs)).map (·.1) := by
    intro hmem
    obtain ⟨a, ha, rfl⟩ := List.mem_map.1 hmem
    obtain ⟨s', hs', hplace⟩ := exists_mem_of_mem_artifacts ha
    exact h.lookups source hs a.1 ht s' (hb hs') hplace
  have hread {t : Location} (ht : fs.view.LooksFor source t) (hfile : fs.hasFile t = .ok true) :
      (filesAfter settings fs built).read (Path.absolute t) = fs.read (Path.absolute t) := by
    have hfile' : (prepared settings fs).hasFile t = .ok true := (h.found source hs t ht).trans hfile
    rw [hfiles, hstored.read hfound (hnot ht) hfile', hgrown.read hfile]
  have hdecoders : (filesAfter settings fs built).decoders = fs.decoders := by
    rw [hfiles]
    exact hstored.decoders.trans hgrown.decoders
  constructor
  · funext p
    rw [hfiles]
    exact (resolve_congr hgrown.link_iff hgrown.current p).trans (resolve_congr hstored.link_iff hstored.current p)
  · intro t ht
    rw [hfiles]
    exact ((hstored.hasFile hfound (hnot ht)).trans (h.found source hs t ht)).symm
  · exact fun ht hfile => (document_congr (hread ht hfile)).symm
  · exact fun encoding ht hfile => (text_congr hdecoders (hread ht hfile) encoding).symm

theorem transform_filesAfter (hw : fs.WellFormed) :
    transform (filesAfter settings fs built) source = transform fs source := by
  rw [transform, transform, loadDocument, loadDocument, loadFresh_congr (h.loadsSame_filesAfter hb hs hw)]

end Independent

theorem Separate.nodup_artifacts (h : Separate settings fs sources) (hd : sources.Nodup) :
    ((sources.filterMap (artifact? settings fs)).map (·.1)).Nodup := by
  rw [List.Nodup, List.pairwise_map, List.pairwise_filterMap]
  refine hd.imp_of_mem ?_
  intro s s' hs hs' hne a ha a' ha' heq
  have hplace' := artifactPlace_of_artifact? ha'
  rw [← heq] at hplace'
  exact hne (h.outputs s hs s' hs' a.1 (artifactPlace_of_artifact? ha) hplace')

/-- The order in which sources have been built does not matter for what stands where. -/
theorem Separate.node?_filesAfter_perm (h : Separate settings fs sources) (hd : sources.Nodup)
    (hp : built.Perm sources) (l : Location) :
    (filesAfter settings fs built).node? l = (filesAfter settings fs sources).node? l := by
  have hartifacts : (built.filterMap (artifact? settings fs)).Perm (sources.filterMap (artifact? settings fs)) :=
    hp.filterMap _
  have hany : (built.any fun s => (artifactText? settings fs s).isSome) =
      sources.any fun s => (artifactText? settings fs s).isSome := hp.any_eq
  obtain ⟨hfiles, -, hnone⟩ | ⟨hfiles, hsome⟩ := filesAfter_cases settings fs sources
  · obtain ⟨hfiles', -⟩ | ⟨-, hsome'⟩ := filesAfter_cases settings fs built
    · rw [hfiles, hfiles']
    · rw [hany, hnone] at hsome'
      cases hsome'
  · obtain ⟨-, -, hnone'⟩ | ⟨hfiles', -⟩ := filesAfter_cases settings fs built
    · rw [hany, hsome] at hnone'
      cases hnone'
    · rw [hfiles, hfiles']
      exact node?_store_perm isFree_of_mem_artifacts hartifacts (h.nodup_artifacts hd) l

end PromptMarkup
