import Mathlib.Logic.Relation
import PromptMarkup.Proofs.Build.Prompts
import PromptMarkup.Proofs.Build.Sources

/-!
# Builds with several workers

Workers take sources in any order.  Each document is compiled against the files as they are then, and written later on,
and other documents may be compiled and written in between (`Progress.Step`).  For documents that are independent,
whatever the schedule, the report and the files are those of a build that takes one source after another
(`build_eq_of_steps`).

Documents with artifacts at places of their own need not be independent: where the output directory cannot be made,
the attempts for different documents can fail in different ways, and the schedule decides which document gets which
(`build_blockedDirectory`).
-/

namespace PromptMarkup

/-- A build under way: the files, the sources that wait, those that have been compiled with what became of them, and the
results so far. -/
structure Progress where
  files : FileSystem
  waiting : List Path
  running : List (Path × Except Failure String)
  finished : List DocumentResult

namespace Progress

/-- A build before its first step. -/
def start (fs : FileSystem) (sources : List Path) : Progress := ⟨fs, sources, [], []⟩

/-- One step of a build by a number of workers: a free worker takes a source and compiles it, or a worker writes what it
has compiled. -/
inductive Step (settings : BuildSettings) (workers : Nat) : Progress → Progress → Prop where
  | compile {p : Progress} {source : Path} {rest : List Path} (h : p.waiting.Perm (source :: rest))
      (hfree : p.running.length < workers) :
    Step settings workers p
      { p with waiting := rest, running := (source, transform p.files source) :: p.running }
  | write {p : Progress} {source : Path} {compiled : Except Failure String} {rest : List (Path × Except Failure String)}
      (h : p.running.Perm ((source, compiled) :: rest)) :
    Step settings workers p
      { p with
        files := (storeArtifact settings source compiled p.files).1
        running := rest
        finished := p.finished ++ [(storeArtifact settings source compiled p.files).2] }

variable {settings : BuildSettings} {workers : Nat} {fs : FileSystem} {sources built : List Path} {p q : Progress}

/-- A build takes two steps for each source, and so it ends. -/
theorem wellFounded_step (settings : BuildSettings) (workers : Nat) :
    WellFounded fun q p => Step settings workers p q := by
  refine Subrelation.wf ?_ (measure fun p : Progress => 2 * p.waiting.length + p.running.length).wf
  intro q p h
  show 2 * q.waiting.length + q.running.length < 2 * p.waiting.length + p.running.length
  cases h with
  | compile h _ =>
    have hlength := h.length_eq
    simp only [List.length_cons] at hlength ⊢
    omega
  | write h =>
    have hlength := h.length_eq
    simp only [List.length_cons] at hlength ⊢
    omega

/-- A build that cannot take another step has no work left. -/
theorem eq_nil_of_not_step (hworkers : 0 < workers) (h : ∀ q, ¬ Step settings workers p q) :
    p.waiting = [] ∧ p.running = [] := by
  have hrunning : p.running = [] := by
    cases hr : p.running with
    | nil => rfl
    | cons r rest => exact absurd (.write (by rw [hr])) (h _)
  refine ⟨?_, hrunning⟩
  cases hw : p.waiting with
  | nil => rfl
  | cons source rest => exact absurd (.compile (by rw [hw]) (by rwa [hrunning])) (h _)

/-- A build in which some sources have been built, in the order of their results. -/
structure Reached (settings : BuildSettings) (fs : FileSystem) (sources built : List Path) (p : Progress) :
    Prop where
  files : p.files = filesAfter settings fs built
  finished : p.finished = built.map (documentResult settings fs)
  running : ∀ r ∈ p.running, r.2 = transform fs r.1
  sources : (built ++ (p.running.map (·.1) ++ p.waiting)).Perm sources

theorem reached_start (settings : BuildSettings) (fs : FileSystem) (sources : List Path) :
    Reached settings fs sources [] (.start fs sources) where
  files := rfl
  finished := rfl
  running := by simp [start]
  sources := .refl _

section

variable (hw : fs.WellFormed) (h : Independent settings fs sources) (hd : sources.Nodup)
include hw h hd

/-- A step of independent documents does what it would have done at first. -/
theorem Reached.step (hp : p.Reached settings fs sources built) (hstep : Step settings workers p q) :
    ∃ built', q.Reached settings fs sources built' := by
  have hsub : built ⊆ sources := fun s hs => hp.sources.subset (List.mem_append_left _ hs)
  cases hstep with
  | @compile source rest hwaiting hfree =>
    -- The source goes from those that wait to those that run, so the sources are the same ones.
    have hperm : (built ++ (p.running.map (·.1) ++ source :: rest)).Perm sources :=
      (((hwaiting.symm).append_left _).append_left _).trans hp.sources
    have hsource : source ∈ sources := hperm.subset (by simp)
    refine ⟨built, hp.files, hp.finished, ?_, ?_⟩
    · refine List.forall_mem_cons.2 ⟨?_, hp.running⟩
      rw [hp.files]
      exact h.transform_filesAfter hsub hsource hw
    · exact (List.perm_middle.symm.append_left built).trans hperm
  | @write source compiled rest hrunning =>
    -- It was compiled as it would have been at first, and no other document has its artifact.
    have hperm : (built ++ (source :: rest.map (·.1) ++ p.waiting)).Perm sources :=
      ((((hrunning.map (·.1)).symm).append_right _).append_left _).trans hp.sources
    have hsource : source ∈ sources := hperm.subset (by simp)
    have hnew : source ∉ built := by
      have hnodup := hperm.nodup_iff.2 hd
      exact fun hs => (List.nodup_append.1 hnodup).2.2 source hs source (by simp) rfl
    obtain ⟨hcompiled, hrest⟩ := List.forall_mem_cons.1 fun r hr => hp.running r (hrunning.mem_iff.2 hr)
    have hstored : storeArtifact settings source compiled p.files =
        (filesAfter settings fs (built ++ [source]), documentResult settings fs source) := by
      rw [hp.files, ← h.storeArtifact_filesAfter hsub hsource hnew]
      exact congrArg (storeArtifact settings source · _) hcompiled
    refine ⟨built ++ [source], ?_, ?_, hrest, ?_⟩
    · exact congrArg Prod.fst hstored
    · show p.finished ++ [_] = _
      rw [hstored, hp.finished, List.map_append]
      rfl
    · rw [List.append_assoc]
      exact hperm

/-- However far a build of independent documents has come, some sources have been built as they would have been at
first. -/
theorem exists_reached (hrun : Relation.ReflTransGen (Step settings workers) (.start fs sources) p) :
    ∃ built, p.Reached settings fs sources built := by
  induction hrun with
  | refl => exact ⟨[], reached_start settings fs sources⟩
  | tail _ hstep ih =>
    obtain ⟨built, hp⟩ := ih
    exact hp.step hw h hd hstep

end

end Progress

theorem filesAfter_nil (settings : BuildSettings) (fs : FileSystem) : filesAfter settings fs [] = fs := rfl

/-- Independent documents that are built one after another. -/
theorem buildAll_filesAfter (hw : fs.WellFormed) (h : Independent settings fs sources) (hd : sources.Nodup)
    (rest : List Path) (hsources : (built ++ rest).Perm sources) :
    buildAll settings rest (filesAfter settings fs built) =
      (filesAfter settings fs (built ++ rest), rest.map (documentResult settings fs)) := by
  induction rest generalizing built with
  | nil => rw [List.append_nil, buildAll, List.map_nil]
  | cons source rest ih =>
    have hsub : built ⊆ sources := fun s hs => hsources.subset (List.mem_append_left _ hs)
    have hsource : source ∈ sources := hsources.subset (by simp)
    have hnew : source ∉ built := fun hs =>
      (List.nodup_append.1 (hsources.nodup_iff.2 hd)).2.2 source hs source (by simp) rfl
    have hrest : ((built ++ [source]) ++ rest).Perm sources := by rwa [List.append_assoc]
    rw [buildAll, buildOne, h.transform_filesAfter hsub hsource hw, h.storeArtifact_filesAfter hsub hsource hnew]
    simp only [ih hrest, List.append_assoc, List.singleton_append, List.map_cons]

/-- A build of independent documents ends, and whatever its workers do when, it ends with the report and the files of a
build that takes one source after another. -/
theorem build_eq_of_steps {only : List String} (hw : fs.WellFormed) (hn : settings.sourceDirectory.IsNormal)
    (hsources : discoverSources fs settings.sourceDirectory (selectedNames settings only) = .ok sources)
    (h : Independent settings fs sources) (hworkers : 0 < workers) :
    WellFounded (fun q p => Progress.Step settings workers p q) ∧
      ∀ p, Relation.ReflTransGen (Progress.Step settings workers) (.start fs sources) p →
        (∀ q, ¬ Progress.Step settings workers p q) → ∀ results, results.Perm p.finished →
          (build settings only fs).2 = .ok (.ofResults results) ∧
            ∀ l, p.files.node? l = (build settings only fs).1.node? l := by
  have hdistinct := distinct_discoverSources hw hn hsources
  have hsequential : buildAll settings sources (filesAfter settings fs []) = _ :=
    buildAll_filesAfter hw h hdistinct.nodup sources (.refl _)
  rw [filesAfter_nil, List.nil_append] at hsequential
  refine ⟨Progress.wellFounded_step settings workers, fun p hrun hend results hresults => ?_⟩
  obtain ⟨built, hp⟩ := Progress.exists_reached hw h hdistinct.nodup hrun
  obtain ⟨hwaiting, hrunning⟩ := Progress.eq_nil_of_not_step hworkers hend
  have hbuilt : built.Perm sources := by
    have hperm := hp.sources
    rwa [hwaiting, hrunning, List.map_nil, List.append_nil, List.append_nil] at hperm
  have hreport : results.Perm (sources.map (documentResult settings fs)) := by
    rw [hp.finished] at hresults
    exact hresults.trans (hbuilt.map _)
  simp only [build, hsources, hsequential]
  refine ⟨?_, fun l => ?_⟩
  · rw [BuildReport.ofResults_eq_of_perm hdistinct (fun s => source_documentResult) hreport]
  · rw [hp.files]
    exact h.node?_filesAfter_perm hdistinct.nodup hbuilt l

/-- The end of a build in which two workers compile two sources, and the one with the second source writes first. -/
def Progress.swapped (settings : BuildSettings) (fs : FileSystem) (a b : Path) : Progress :=
  let second := storeArtifact settings b (transform fs b) fs
  let first := storeArtifact settings a (transform fs a) second.1
  ⟨first.1, [], [], [second.2, first.2]⟩

theorem Progress.steps_swapped (settings : BuildSettings) (fs : FileSystem) (a b : Path) :
    Relation.ReflTransGen (Step settings 2) (.start fs [a, b]) (.swapped settings fs a b) := by
  have hcompileFirst : Step settings 2 (start fs [a, b]) ⟨fs, [b], [(a, transform fs a)], []⟩ :=
    .compile (.refl _) (by simp [start])
  have hcompileSecond : Step settings 2 ⟨fs, [b], [(a, transform fs a)], []⟩
      ⟨fs, [], [(b, transform fs b), (a, transform fs a)], []⟩ := .compile (.refl _) (by simp)
  have hwriteSecond : Step settings 2 ⟨fs, [], [(b, transform fs b), (a, transform fs a)], []⟩
      ⟨(storeArtifact settings b (transform fs b) fs).1, [], [(a, transform fs a)],
        [(storeArtifact settings b (transform fs b) fs).2]⟩ := .write (.refl _)
  have hwriteFirst : Step settings 2 ⟨(storeArtifact settings b (transform fs b) fs).1, [], [(a, transform fs a)],
        [(storeArtifact settings b (transform fs b) fs).2]⟩ (swapped settings fs a b) := .write (.refl _)
  exact .tail (.tail (.tail (.single hcompileFirst) hcompileSecond) hwriteSecond) hwriteFirst

theorem Progress.not_step_swapped (settings : BuildSettings) (fs : FileSystem) (a b : Path) (workers : Nat)
    (q : Progress) : ¬ Step settings workers (swapped settings fs a b) q := by
  intro h
  cases h with
  | compile h _ => exact absurd h.length_eq (by simp [swapped])
  | write h => exact absurd h.length_eq (by simp [swapped])

/-! ### Two prompts -/

section

open FileSystem

/-- Two prompts, one of which includes a text. -/
def twoPrompts : FileSystem where
  current := []
  nodes := [
    (["a.xml"], .file (Encoding.Utf8.encode (promptText "<xi:include parse='text' href='t.txt'/>"))),
    (["b.xml"], .file (Encoding.Utf8.encode (promptText "B"))),
    (["t.txt"], .file (Encoding.Utf8.encode "A"))]

namespace twoPrompts

/-- Settings with an output directory that is not there. -/
def settings : BuildSettings := settingsInto ["out"]

theorem makeDirectories : twoPrompts.makeDirectories settings.outputDirectory =
    (twoPrompts.put ["out"] .directory, .ok ()) := by
  have hw : twoPrompts.walk false maxLinks (twoPrompts.start ⟨.here, ["out"]⟩) ["out"] = .ok (.absent ["out"]) :=
    walk_nothing rfl (Plain.isEntry (by decide)) rfl
  rw [FileSystem.makeDirectories, settings, settingsInto, makeAll, makeDirectory, hw]
  rfl

theorem place {name : String} (hname : Plain name)
    (hnone : (twoPrompts.put ["out"] .directory).node? ["out", name] = none) :
    (prepared settings twoPrompts).place ⟨.here, ["out", name]⟩ = .ok ["out", name] := by
  have hnull : hasNull ⟨.here, ["out", name]⟩ = false := by
    simpa [hasNull] using hname.2.2.2.1
  have hw : (prepared settings twoPrompts).follow ⟨.here, ["out", name]⟩ = .ok (.absent ["out", name]) := by
    rw [prepared, makeDirectories]
    show (twoPrompts.put ["out"] .directory).walk true maxLinks [] ["out", name] = _
    rw [walk_entry rfl (Plain.isEntry (by decide)) (n := .directory) rfl (by simp),
      walk_nothing rfl hname.isEntry hnone]
    rfl
  rw [FileSystem.place, hnull, hw]
  rfl

theorem artifactPlace_first : artifactPlace settings twoPrompts firstSource = .ok ["out", "a.md"] :=
  place (by decide) rfl

theorem artifactPlace_second : artifactPlace settings twoPrompts secondSource = .ok ["out", "b.md"] :=
  place (by decide) rfl

theorem holds_first : twoPrompts.Holds firstSource ["a.xml"]
    (promptElement (.element "" includeName [("parse", "text"), ("href", "t.txt")] (.text "") (.text ""))) :=
  holds_here rfl (by decide) rfl parse_promptText_include

theorem holds_second : twoPrompts.Holds secondSource ["b.xml"] (promptElement (.text "B")) :=
  holds_here rfl (by decide) rfl (parse_promptText "B" (by simp))

theorem leads_text : twoPrompts.view.Leads ["a.xml"] [("parse", "text"), ("href", "t.txt")] (.text "utf-8") ["t.txt"] :=
  ⟨⟨"t.txt", .text "utf-8"⟩, by decide, rfl, target_top (by decide) rfl (by decide)⟩

theorem eq_of_looksFor_first {t : Location} (h : twoPrompts.view.LooksFor firstSource t) :
    t = ["a.xml"] ∨ t = ["t.txt"] := by
  have hdirective : ∀ a ∈ (promptElement (.element "" includeName [("parse", "text"), ("href", "t.txt")] (.text "")
      (.text ""))).content.directives, a = [("parse", "text"), ("href", "t.txt")] := by decide
  have halone (u : Location) : ¬ twoPrompts.view.Includes ["a.xml"] u := by
    rintro ⟨e, he, a, ha, hu⟩
    cases holds_first.document.symm.trans he
    rw [hdirective a ha] at hu
    cases (hu.unique leads_text).1
  obtain ht | ⟨a, ha, mode, ht⟩ := h.eq_or_leads holds_first.resolve holds_first.document halone
  · exact .inl ht
  · rw [hdirective a ha] at ht
    exact .inr (ht.unique leads_text).2

theorem eq_of_looksFor_second {t : Location} (h : twoPrompts.view.LooksFor secondSource t) : t = ["b.xml"] := by
  have hnone : (promptElement (.text "B")).content.directives = [] := by decide
  have halone (u : Location) : ¬ twoPrompts.view.Includes ["b.xml"] u := by
    rintro ⟨e, he, a, ha, hu⟩
    cases holds_second.document.symm.trans he
    rw [hnone] at ha
    cases ha
  obtain ht | ⟨a, ha, -⟩ := h.eq_or_leads holds_second.resolve holds_second.document halone
  · exact ht
  · rw [hnone] at ha
    cases ha

theorem independent : Independent settings twoPrompts [firstSource, secondSource] := by
  have hlooks : ∀ s ∈ [firstSource, secondSource], ∀ t, twoPrompts.view.LooksFor s t →
      t = ["a.xml"] ∨ t = ["t.txt"] ∨ t = ["b.xml"] := by
    simp only [List.forall_mem_cons, List.not_mem_nil, false_implies, implies_true, and_true]
    refine ⟨fun t ht => ?_, fun t ht => .inr (.inr (eq_of_looksFor_second ht))⟩
    obtain rfl | rfl := eq_of_looksFor_first ht <;> simp
  have hplaces : ∀ s ∈ [firstSource, secondSource], ∃ name,
      artifactPlace settings twoPrompts s = .ok ["out", name] := by
    simp only [List.forall_mem_cons, List.not_mem_nil, false_implies, implies_true, and_true]
    exact ⟨⟨_, artifactPlace_first⟩, ⟨_, artifactPlace_second⟩⟩
  have hapart (l : Location) (hl : artifactPlace settings twoPrompts firstSource = .ok l) :
      artifactPlace settings twoPrompts secondSource ≠ .ok l := by
    rw [artifactPlace_first] at hl
    rw [artifactPlace_second, ← hl]
    simp
  refine Separate.independent ⟨?_, ?_⟩ (by rw [makeDirectories]) ?_ ?_
  · intro s hs s' hs' l hl hl'
    simp only [List.mem_cons, List.not_mem_nil, or_false] at hs hs'
    obtain rfl | rfl := hs <;> obtain rfl | rfl := hs'
    · rfl
    · exact absurd hl' (hapart l hl)
    · exact absurd hl (hapart l hl')
    · rfl
  · intro s hs t ht s' hs' hl
    obtain ⟨name, hplace⟩ := hplaces s' hs'
    cases hplace.symm.trans hl
    obtain h | h | h := hlooks s hs _ ht <;> simp at h
  · intro s hs
    obtain ⟨name, hplace⟩ := hplaces s hs
    exact ⟨_, hplace⟩
  · intro s hs t ht
    rw [prepared, makeDirectories]
    obtain rfl | rfl | rfl := hlooks s hs t ht <;>
      exact (hasFile_top (by decide) rfl).trans (hasFile_top (by decide) rfl).symm

end twoPrompts

open twoPrompts in
/-- Two workers that finish in the other order build the two prompts as one worker does. -/
theorem build_twoPrompts :
    let p := Progress.swapped settings twoPrompts firstSource secondSource
    (build settings ["a", "b"] twoPrompts).2 = .ok (.ofResults p.finished) ∧
      ∀ l, p.files.node? l = (build settings ["a", "b"] twoPrompts).1.node? l :=
  (build_eq_of_steps (by decide) (by decide) (discoverSources_settingsInto _ _) independent
    (by decide : 0 < 2)).2 _ (Progress.steps_swapped _ _ _ _) (Progress.not_step_swapped _ _ _ _ _) _ (.refl _)

/-- Writing an artifact fails as making the output directory does. -/
theorem storeArtifact_eq_failed {settings : BuildSettings} {fs made : FileSystem} {f : Files.Fault}
    (h : fs.makeDirectories settings.outputDirectory = (made, .error f)) {source : Path}
    (hsafe : isSafeName (artifactName settings source) = true) (content : String) :
    storeArtifact settings source (.ok content) fs = (made, .failed source (.files f)) := by
  unfold storeArtifact
  simp only [writeArtifact, hsafe, if_true, h]

/-- A file that stands where an output directory is to be made. -/
def blockedDirectory : FileSystem where
  current := []
  nodes := [
    (["a.xml"], .file (Encoding.Utf8.encode (promptText "A"))),
    (["b.xml"], .file (Encoding.Utf8.encode (promptText "B"))),
    (["f"], .file [])]

namespace blockedDirectory

/-- Settings with an output directory below the file. -/
def settings : BuildSettings := settingsInto ["x", "..", "f", "y"]

theorem wellFormed : blockedDirectory.WellFormed := by decide

/-- The files once the first attempt to make the output directory has failed. -/
def attempted : FileSystem := blockedDirectory.put ["x"] .directory

theorem walk_missing (p : List String) (hp : p ≠ []) :
    blockedDirectory.walk false maxLinks [] ("x" :: p) = .error .notFound := by
  rw [walk_nothing rfl (Plain.isEntry (by decide)) rfl, if_neg hp]

theorem walk_attempted (follow : Bool) (p : List String) :
    attempted.walk follow maxLinks [] ("x" :: ".." :: p) = attempted.walk follow maxLinks [] p := by
  rw [walk_entry rfl (Plain.isEntry (by decide)) (n := .directory) rfl (by simp), walk_up rfl]
  rfl

theorem makeDirectory_missing (p : List String) (hp : p ≠ []) (hnull : hasNull ⟨.here, "x" :: p⟩ = false) :
    blockedDirectory.makeDirectory ⟨.here, "x" :: p⟩ = .error (.refused .notFound (Path.text ⟨.here, "x" :: p⟩)) := by
  have hw : blockedDirectory.walk false maxLinks (blockedDirectory.start ⟨.here, "x" :: p⟩) ("x" :: p) =
    .error .notFound := walk_missing p hp
  rw [makeDirectory, hnull]
  simp only [hw]
  rfl

theorem makeAll_above : blockedDirectory.makeAll .here ["x", ".."] = (attempted, .ok ()) := by
  have hfirst : blockedDirectory.makeAll .here ["x"] = (attempted, .ok ()) := by
    have hw : blockedDirectory.walk false maxLinks (blockedDirectory.start ⟨.here, ["x"]⟩) ["x"] =
        .ok (.absent ["x"]) := walk_nothing rfl (Plain.isEntry (by decide)) rfl
    rw [makeAll, makeDirectory, hw]
    rfl
  have hthere : attempted.isDirectory ⟨.here, ["x", ".."]⟩ = .ok true :=
    isDirectory_eq_ok.2 ⟨by decide, [], (walk_attempted true []).trans (by rw [walk]; rfl)⟩
  rw [makeAll, makeDirectory_missing [".."] (by decide) (by decide)]
  simp only [List.dropLast, hfirst, ensureDirectory, makeDirectory_of_isDirectory hthere]
  rw [hthere]
  rfl

/-- The first attempt makes a directory on the way, and fails where the file stands. -/
theorem makeDirectories : blockedDirectory.makeDirectories settings.outputDirectory =
    (attempted, .error (.refused .alreadyExists "x/../f")) := by
  have hw (follow : Bool) : attempted.walk follow maxLinks (attempted.start ⟨.here, ["x", "..", "f"]⟩)
      ["x", "..", "f"] = .ok (.found ["f"] (.file [])) := by
    show attempted.walk follow maxLinks [] _ = _
    rw [walk_attempted, walk_entry rfl (Plain.isEntry (by decide)) (n := .file []) rfl (by simp), walk]
    rfl
  have hfile : attempted.ensureDirectory ⟨.here, ["x", "..", "f"]⟩ = .error (.refused .alreadyExists "x/../f") := by
    have hmade : attempted.makeDirectory ⟨.here, ["x", "..", "f"]⟩ = .error (.refused .alreadyExists "x/../f") := by
      rw [makeDirectory, if_neg (by decide), hw]
      rfl
    have hno : attempted.isDirectory ⟨.here, ["x", "..", "f"]⟩ = .ok false := by
      rw [isDirectory, ask, if_neg (by decide), status, follow, hw]
    rw [ensureDirectory, hmade]
    simp only [hno]
    rfl
  rw [FileSystem.makeDirectories, settings, settingsInto, makeAll,
    makeDirectory_missing ["..", "f", "y"] (by decide) (by decide)]
  simp only [List.dropLast]
  rw [makeAll, makeDirectory_missing ["..", "f"] (by decide) (by decide)]
  simp only [List.dropLast, makeAll_above, hfile]
  rfl

theorem walk_blocked (follow : Bool) (p : List String) :
    attempted.walk follow maxLinks (attempted.start ⟨.here, "x" :: ".." :: "f" :: "y" :: p⟩)
      ("x" :: ".." :: "f" :: "y" :: p) = .error .notDirectory := by
  show attempted.walk follow maxLinks [] _ = _
  rw [walk_attempted, walk_entry rfl (Plain.isEntry (by decide)) (n := .file []) rfl (by simp), walk_below_file rfl]

/-- From then on the attempts fail because of the way to the file. -/
theorem makeDirectories_attempted : attempted.makeDirectories settings.outputDirectory =
    (attempted, .error (.refused .notDirectory "x/../f/y")) := by
  have hmade : attempted.makeDirectory ⟨.here, ["x", "..", "f", "y"]⟩ = .error (.refused .notDirectory "x/../f/y") := by
    rw [makeDirectory, if_neg (by decide), walk_blocked]
    rfl
  have hno : attempted.isDirectory ⟨.here, ["x", "..", "f", "y"]⟩ = .ok false := by
    rw [isDirectory, ask, if_neg (by decide), status, follow, walk_blocked]
  rw [FileSystem.makeDirectories, settings, settingsInto, makeAll, hmade]
  simp only [hno]

theorem separate : Separate settings blockedDirectory [firstSource, secondSource] := by
  have hplace (name : String) (hname : hasNull ⟨.here, ["x", "..", "f", "y", name]⟩ = false) (l : Location) :
      (prepared settings blockedDirectory).place ⟨.here, ["x", "..", "f", "y", name]⟩ ≠ .ok l := by
    rw [prepared, makeDirectories, place, if_neg (by simp [hname]), follow, walk_blocked]
    simp
  have hnone : ∀ s ∈ [firstSource, secondSource], ∀ l, artifactPlace settings blockedDirectory s ≠ .ok l := by
    intro s hs l
    simp only [List.mem_cons, List.not_mem_nil, or_false] at hs
    obtain rfl | rfl := hs
    · exact hplace "a.md" (by decide) l
    · exact hplace "b.md" (by decide) l
  exact ⟨fun s hs s' _ l h => absurd h (hnone s hs l), fun _ _ t _ s' hs' => hnone s' hs' t⟩

theorem exists_transform (fs : FileSystem) (source : Path) (title : String) {l : Location}
    (h : fs.Holds source l (promptElement (.text title)))
    (htree : (Document.ofTree (some source) (promptElement (.text title))).toOption.isSome = true) :
    ∃ content, transform fs source = .ok content := by
  obtain ⟨d, hd⟩ := Option.isSome_iff_exists.1 htree
  have hload : loadDocument fs source = .ok d := by
    rw [loadDocument, Except.bind_ok (loadFresh_of_directives_eq_nil h rfl), Except.toOption_eq_some.1 hd]
  exact ⟨d.render, by rw [transform, hload]⟩

end blockedDirectory

open blockedDirectory in
/-- Documents with artifacts at places of their own can share a failure all the same: whichever is written first gets
the one, and the other document gets the other. -/
theorem build_blockedDirectory :
    let blocked : Failure := .files (.refused .alreadyExists "x/../f")
    let noWay : Failure := .files (.refused .notDirectory "x/../f/y")
    let p := Progress.swapped settings blockedDirectory firstSource secondSource
    blockedDirectory.WellFormed ∧ settings.sourceDirectory.IsNormal ∧
      discoverSources blockedDirectory settings.sourceDirectory (selectedNames settings ["a", "b"]) =
        .ok [firstSource, secondSource] ∧
      Separate settings blockedDirectory [firstSource, secondSource] ∧
      Relation.ReflTransGen (Progress.Step settings 2) (.start blockedDirectory [firstSource, secondSource]) p ∧
      (∀ q, ¬ Progress.Step settings 2 p q) ∧
      p.finished = [.failed secondSource blocked, .failed firstSource noWay] ∧
      (build settings ["a", "b"] blockedDirectory).2 =
        .ok (.ofResults [.failed firstSource blocked, .failed secondSource noWay]) ∧
      (build settings ["a", "b"] blockedDirectory).2 ≠ .ok (.ofResults p.finished) := by
  intro blocked noWay p
  have hfirst {source : Path} (hsafe : isSafeName (artifactName settings source) = true) (content : String) :=
    storeArtifact_eq_failed makeDirectories hsafe content
  have hlast {source : Path} (hsafe : isSafeName (artifactName settings source) = true) (content : String) :=
    storeArtifact_eq_failed makeDirectories_attempted hsafe content
  obtain ⟨a, ha⟩ := exists_transform blockedDirectory firstSource "A"
    (holds_here rfl (by decide) rfl (parse_promptText "A" (by simp))) (by decide)
  obtain ⟨b, hb⟩ := exists_transform blockedDirectory secondSource "B"
    (holds_here rfl (by decide) rfl (parse_promptText "B" (by simp))) (by decide)
  obtain ⟨b', hb'⟩ := exists_transform attempted secondSource "B"
    (holds_here rfl (by decide) rfl (parse_promptText "B" (by simp))) (by decide)
  have hend : p.finished = [.failed secondSource blocked, .failed firstSource noWay] := by
    simp only [p, Progress.swapped]
    rw [hb, hfirst (by decide), ha, hlast (by decide)]
  have hsources : discoverSources blockedDirectory settings.sourceDirectory (selectedNames settings ["a", "b"]) =
      .ok [firstSource, secondSource] := discoverSources_settingsInto _ _
  have hbuild : (build settings ["a", "b"] blockedDirectory).2 =
      .ok (.ofResults [.failed firstSource blocked, .failed secondSource noWay]) := by
    simp only [build, hsources, buildAll, buildOne]
    rw [ha, hfirst (by decide)]
    simp only
    rw [hb', hlast (by decide)]
  refine ⟨wellFormed, by decide, hsources, separate, Progress.steps_swapped _ _ _ _,
    Progress.not_step_swapped _ _ _ _ _, hend, hbuild, ?_⟩
  rw [hbuild, hend]
  intro heq
  have hperm : [DocumentResult.failed firstSource blocked, .failed secondSource noWay].Perm
      [.failed secondSource blocked, .failed firstSource noWay] := by
    rw [Except.ok.injEq, BuildReport.ofResults, BuildReport.ofResults, BuildReport.mk.injEq] at heq
    exact (List.mergeSort_perm _ _).symm.trans (.trans (.of_eq heq) (List.mergeSort_perm _ _))
  have hmem : DocumentResult.failed firstSource blocked ∈ [.failed secondSource blocked, .failed firstSource noWay] :=
    hperm.subset List.mem_cons_self
  revert hmem
  decide

end

end PromptMarkup
