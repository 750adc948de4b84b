import PromptMarkup.Proofs.Build.Inputs
import PromptMarkup.Proofs.Build.Names

/-!
# Artifacts that are kept

If no two documents of a build have their artifacts at one place, then whatever its workers do when, a document that is
reported as built has its own Markdown where its result says (`Kept`, `read_output`).  Each step keeps what has been
written: an artifact goes where it would have gone first, and not to the place of another one
(`storeArtifact_cases`).

Sources in different directories may share a stem, though, and then both are reported as built, and the Markdown of one
is lost (`build_sameStem`).
-/

namespace PromptMarkup

open FileSystem

section

variable {settings : BuildSettings} {fs files : FileSystem} {source : Path} {sources : List Path} {ls : List Location}
  {l : Location}

/-! ### Where an artifact goes -/

/-- Artifacts that have been written do not change where another one goes. -/
theorem Filled.place_eq (hw : fs.WellFormed) (h : Filled settings fs sources ls files)
    (hthere : (prepared settings fs).isDirectory settings.outputDirectory = .ok true)
    (hsafe : isSafeName (artifactName settings source) = true)
    (hl : files.place (artifactPath settings source) = .ok l) : artifactPlace settings fs source = .ok l := by
  obtain hown | ⟨-, hnone, bs, hfound⟩ := h.place_cases hl
  · exact hown
  -- The walk starts in a directory, so nothing but a file on its way could make it end.
  obtain ⟨-, d, hd⟩ := isDirectory_eq_ok.1 hthere
  have hstart : (prepared settings fs).start (artifactPath settings source) =
      (prepared settings fs).start settings.outputDirectory := by
    rw [artifactPath, child_of_isSafeName hsafe]
    rfl
  have hhere : ∃ n, (prepared settings fs).node? ((prepared settings fs).start (artifactPath settings source)) =
      some n := by
    rw [hstart]
    exact exists_node?_of_walk hd
  have hafter : files.start (artifactPath settings source) =
      (prepared settings fs).start (artifactPath settings source) := by rw [start, h.current, start]
  rw [follow, hafter] at hfound
  exact absurd hfound (h.walk_ne_ok (hw.rooted.makeDirectories _) hhere hnone _)

/-- Writing a document fails and makes directories at most, or stores what it gives in the place of its artifact. -/
theorem storeArtifact_cases (hw : fs.WellFormed) (h : Underway settings fs sources files) (source : Path)
    (compiled : Except Failure String) :
    (∃ made e, Grown files made ∧ storeArtifact settings source compiled files = (made, .failed source e)) ∨
      ∃ made content l, Grown files made ∧ compiled = .ok content ∧ artifactPlace settings fs source = .ok l ∧
        made.place (artifactPath settings source) = .ok l ∧
        storeArtifact settings source compiled files =
          (made.put l (.file (payload (Text.codePoints content)).1), openedResult settings source content) := by
  cases compiled with
  | error e => exact .inl ⟨files, e, grown_refl files, rfl⟩
  | ok content =>
    have hgrown := grown_makeDirectories files settings.outputDirectory
    obtain ⟨⟨ls, hmade⟩, hthere⟩ := h.makeDirectories
    obtain ⟨e, hw'⟩ | ⟨e, hw'⟩ | ⟨l, hsafe, hok, hl, hw'⟩ :=
      writeArtifact_cases files settings.outputDirectory (artifactName settings source) (Text.codePoints content)
    · exact .inl ⟨files, e, grown_refl files, storeArtifact_of_error hw'⟩
    · exact .inl ⟨_, e, hgrown, storeArtifact_of_error hw'⟩
    · exact .inr ⟨_, content, l, hgrown, rfl, hmade.place_eq hw (hthere hok) hsafe hl, hl, storeArtifact_of_opened hw'⟩

/-! ### What a run keeps -/

namespace Progress

variable {workers : Nat} {first p q : Progress}

/-- At some time of a run a source waited, and it would have been compiled to this then. -/
def Compiled (settings : BuildSettings) (workers : Nat) (first p : Progress) (source : Path)
    (compiled : Except Failure String) : Prop :=
  ∃ q, Relation.ReflTransGen (Step settings workers) first q ∧ source ∈ q.waiting ∧
    transform q.files source = compiled ∧ Relation.ReflTransGen (Step settings workers) q p

theorem Compiled.tail {compiled : Except Failure String} (h : Compiled settings workers first p source compiled)
    (hstep : Step settings workers p q) : Compiled settings workers first q source compiled := by
  obtain ⟨w, hw, hwaiting, hcompiled, hp⟩ := h
  exact ⟨w, hw, hwaiting, hcompiled, hp.tail hstep⟩

/-- A result names the artifact of its source, and what the source was compiled to is in the place of the artifact. -/
structure Written (settings : BuildSettings) (workers : Nat) (fs : FileSystem) (sources : List Path) (p : Progress)
    (r : DocumentResult) : Prop where
  output : r.output = some (artifactPath settings r.source)
  holds : ∃ content bs l, Compiled settings workers (.start fs sources) p r.source (.ok content) ∧
    Encoding.Utf8.encodePoints (Text.codePoints content) = .ok bs ∧ artifactPlace settings fs r.source = .ok l ∧
    p.files.follow (artifactPath settings r.source) = .ok (.found l (.file bs))

/-- What has been written stays written by a step that leaves the place of its artifact alone. -/
theorem Written.tail {r : DocumentResult} (h : p.Written settings workers fs sources r)
    (hstep : Step settings workers p q)
    (hstays : ∀ l bs, artifactPlace settings fs r.source = .ok l →
      p.files.follow (artifactPath settings r.source) = .ok (.found l (.file bs)) →
      q.files.follow (artifactPath settings r.source) = .ok (.found l (.file bs))) :
    q.Written settings workers fs sources r := by
  obtain ⟨content, bs, l, hcompiled, hbs, hplace, hfollow⟩ := h.holds
  exact ⟨h.output, content, bs, l, hcompiled.tail hstep, hbs, hplace, hstays l bs hplace hfollow⟩

/-- Every document that is reported as built has its own Markdown in the place of its artifact. -/
structure Kept (settings : BuildSettings) (workers : Nat) (fs : FileSystem) (sources : List Path) (p : Progress) :
    Prop where
  running : ∀ r ∈ p.running, Compiled settings workers (.start fs sources) p r.1 r.2
  finished : ∀ r ∈ p.finished, r.ok = true → p.Written settings workers fs sources r

section

variable (hw : fs.WellFormed) (hd : sources.Nodup)
  (hapart : ∀ s ∈ sources, ∀ s' ∈ sources, ∀ l, artifactPlace settings fs s = .ok l →
    artifactPlace settings fs s' = .ok l → s = s')
include hw hd hapart

theorem Kept.step (hrun : Relation.ReflTransGen (Step settings workers) (.start fs sources) p)
    (h : p.Kept settings workers fs sources) (hstep : Step settings workers p q) :
    q.Kept settings workers fs sources := by
  have hold : ∀ r ∈ p.finished, r.source ∈ sources := fun r hr =>
    (perm_sources hrun).subset (List.mem_append_left _ (List.mem_map_of_mem hr))
  have hkept := hstep
  cases hstep with
  | @compile source rest hwaiting hfree =>
    refine ⟨List.forall_mem_cons.2 ⟨?_, fun r hr => (h.running r hr).tail hkept⟩, fun r hr hok => ?_⟩
    · exact ⟨p, hrun, hwaiting.mem_iff.2 List.mem_cons_self, rfl, .single hkept⟩
    · exact (h.finished r hr hok).tail hkept fun _ _ _ hfollow => hfollow
  | @write source compiled rest hrunning =>
    obtain ⟨hsource, hrest⟩ := List.forall_mem_cons.1 fun r hr => h.running r (hrunning.mem_iff.2 hr)
    have hmem : source ∈ sources := mem_of_mem_running hrun (hrunning.mem_iff.2 List.mem_cons_self)
    refine ⟨fun r hr => (hrest r hr).tail hkept, fun r hr hok => ?_⟩
    obtain ⟨made, e, hgrown, hstored⟩ | ⟨made, content, l, hgrown, rfl, hplace, hl, hstored⟩ :=
      storeArtifact_cases hw (underway hrun) source compiled
    · simp only [hstored] at hkept hr ⊢
      obtain hr | hr := List.mem_append.1 hr
      · exact (h.finished r hr hok).tail hkept fun _ _ _ hfollow => hgrown.follow_found hfollow
      · rw [List.mem_singleton.1 hr] at hok
        cases hok
    · have hput := stored_put (isFree_of_place hl).1 (payload (Text.codePoints content)).1
      simp only [hstored] at hkept hr ⊢
      obtain hr | hr := List.mem_append.1 hr
      · -- The source has not been built before, and only it has its artifact there.
        have hnew : r.source ≠ source := by
          have hnodup := (perm_sources hrun).nodup_iff.2 hd
          have hrun' : source ∈ p.running.map (·.1) ++ p.waiting :=
            List.mem_append_left _ ((hrunning.map (·.1)).mem_iff.2 List.mem_cons_self)
          exact (List.nodup_append.1 hnodup).2.2 _ (List.mem_map_of_mem hr) _ hrun'
        refine (h.finished r hr hok).tail hkept fun l' bs hplace' hfollow => ?_
        have hother : l' ∉ [l] := by
          rw [List.mem_singleton]
          rintro rfl
          exact hnew (hapart r.source (hold r hr) source hmem l' hplace' hplace)
        exact hput.follow_found (hgrown.follow_found hfollow) hother
      · rw [List.mem_singleton.1 hr] at hok ⊢
        have hfollow := hput.follow_place (by rw [node?_put (isFree_of_place hl).1.ne_nil, if_pos rfl]) hl
        obtain ⟨bs, hbs, hpayload⟩ | ⟨u, -, hpayload⟩ := payload_cases (Text.codePoints content)
        · simp only [openedResult, hpayload] at hfollow hkept ⊢
          exact ⟨rfl, content, bs, l, hsource.tail hkept, hbs, hplace, hfollow⟩
        · simp only [openedResult, hpayload] at hok
          cases hok

/-- However far a build has come, it has kept what it has written. -/
theorem kept (hrun : Relation.ReflTransGen (Step settings workers) (.start fs sources) p) :
    p.Kept settings workers fs sources := by
  induction hrun with
  | refl => exact ⟨by simp [start], by simp [start]⟩
  | tail hrun hstep ih => exact ih.step hw hd hapart hrun hstep

end

end Progress

/-! ### What a build reports -/

/-- A result of a build under way is true to the files: a document that is reported as built was compiled
to what its artifact holds. -/
def DocumentResult.Accurate (settings : BuildSettings) (workers : Nat) (first p : Progress) (r : DocumentResult) :
    Prop :=
  r.ok = true → r.output = some (artifactPath settings r.source) ∧
    ∃ content bs, Progress.Compiled settings workers first p r.source (.ok content) ∧
      Encoding.Utf8.encodePoints (Text.codePoints content) = .ok bs ∧
      p.files.read (artifactPath settings r.source) = .ok bs

theorem Progress.Kept.accurate {workers : Nat} {p : Progress} (h : p.Kept settings workers fs sources) :
    ∀ r ∈ p.finished, r.Accurate settings workers (.start fs sources) p := by
  intro r hr hok
  obtain ⟨content, bs, l, hcompiled, hbs, hplace, hfollow⟩ := (h.finished r hr hok).holds
  exact ⟨(h.finished r hr hok).output, content, bs, hcompiled, hbs, read_of_follow (hasNull_of_place hplace) hfollow⟩

/-- Two sources share the path of their artifacts if they share their name, and besides only if these are `.xml` and
`.xml.xml`; sources found in a directory do not share a name.  If no two sources have their artifacts at one place, then
every result of a build is true to the files, whatever its workers do when. -/
theorem read_output {only : List String} (hw : fs.WellFormed)
    (hsources : discoverSources fs settings.sourceDirectory (selectedNames settings only) = .ok sources) :
    (∀ s ∈ sources, ∀ s' ∈ sources, isSafeName (artifactName settings s) = true →
        isSafeName (artifactName settings s') = true →
        (artifactPath settings s = artifactPath settings s' ↔
          s.name = s'.name ∨ (s.name = ".xml" ∧ s'.name = ".xml.xml") ∨ (s.name = ".xml.xml" ∧ s'.name = ".xml"))) ∧
      (selectedNames settings only = none → ∀ s ∈ sources, ∀ s' ∈ sources, s.name = s'.name → s = s') ∧
      ((∀ s ∈ sources, ∀ s' ∈ sources, ∀ l, artifactPlace settings fs s = .ok l →
          artifactPlace settings fs s' = .ok l → s = s') →
        ∀ workers p, Relation.ReflTransGen (Progress.Step settings workers) (.start fs sources) p →
          ∀ r ∈ p.finished, r.Accurate settings workers (.start fs sources) p) ∧
      ∃ p, Relation.ReflTransGen (Progress.Step settings 1) (.start fs sources) p ∧
        build settings only fs = (p.files, .ok (.ofResults p.finished)) := by
  refine ⟨fun s hs s' hs' => artifactPath_eq_iff hsources hs hs', fun hnone s hs s' hs' => ?_,
    fun hapart workers p hrun => (Progress.kept hw (nodup_discoverSources hw hsources) hapart hrun).accurate,
    exists_steps_build hsources⟩
  rw [hnone] at hsources
  exact eq_of_name_eq hsources hs hs'

end

open twoPrompts in
/-- Two workers that finish in the other order leave the second of two prompts its own Markdown. -/
theorem read_twoPrompts_swapped :
    let p := Progress.swapped settings twoPrompts firstSource secondSource
    let output : Path := ⟨.here, ["out", "b.md"]⟩
    let r : DocumentResult := { source := secondSource, output := some output, ok := true }
    r ∈ p.finished ∧ ∃ content bs, p.files.read output = .ok bs ∧
      Encoding.Utf8.encodePoints (Text.codePoints content) = .ok bs ∧
      Progress.Compiled settings 2 (.start twoPrompts [firstSource, secondSource]) p secondSource (.ok content) := by
  intro p output r
  have hpath : artifactPath settings secondSource = output := by decide
  have hr : r ∈ p.finished := by
    have htransform : transform twoPrompts secondSource = .ok (promptArtifact "B") :=
      transform_of_holds holds_second rfl (by decide)
    have hresult : documentResult settings twoPrompts secondSource = r := by
      have hopened : openedResult settings secondSource (promptArtifact "B") = r := by
        rw [openedResult_of_mark_notMem (by decide), hpath]
      rw [documentResult, htransform, twoPrompts.makeDirectories, artifactPlace_second]
      exact hopened
    rw [← hresult]
    exact List.mem_cons.2 (.inl (congrArg Prod.snd (storeArtifact_eq rfl rfl)).symm)
  obtain ⟨-, -, hkept, -⟩ := read_output (by decide) (discoverSources_settingsInto twoPrompts ["out"])
  obtain ⟨-, content, bs, hcompiled, hbs, hread⟩ :=
    hkept independent.outputs 2 p (Progress.steps_swapped _ _ _ _) r hr rfl
  exact ⟨hr, content, bs, hpath ▸ hread, hbs, hcompiled⟩

/-! ### Sources that share a stem -/

/-- Two prompts with one name in different directories. -/
def sameStem : FileSystem where
  current := []
  nodes := [
    (["a.xml"], .file (Encoding.Utf8.encode (promptText "A"))),
    (["sub"], .directory),
    (["sub", "a.xml"], .file (Encoding.Utf8.encode (promptText "B")))]

namespace sameStem

def nestedSource : Path := ⟨.here, ["sub", "a.xml"]⟩

/-- Settings that put the artifacts beside the first prompt. -/
def settings : BuildSettings := settingsInto []

theorem wellFormed : sameStem.WellFormed := by decide

theorem discoverSources_settings : discoverSources sameStem settings.sourceDirectory
    (selectedNames settings ["a", "sub/a"]) = .ok [firstSource, nestedSource] := by
  have hnamed : namedSources ⟨.here, []⟩ ["a", "sub/a"] = [firstSource, nestedSource] := by decide
  have hsorted : Path.sort [firstSource, nestedSource] = [firstSource, nestedSource] :=
    List.mergeSort_of_pairwise (by decide)
  show Except.ok (Path.sort (namedSources ⟨.here, []⟩ ["a", "sub/a"])) = _
  rw [hnamed, hsorted]

/-- The files once the first prompt has been built. -/
def halfway : FileSystem := sameStem.put ["a.md"] (.file (Encoding.Utf8.encode (promptArtifact "A")))

theorem wellFormed_halfway : halfway.WellFormed := by decide

theorem transform_first : transform sameStem firstSource = .ok (promptArtifact "A") :=
  transform_of_holds (holds_here rfl (by decide) rfl (parse_promptText "A" (by simp))) rfl (by decide)

theorem transform_nested : transform halfway nestedSource = .ok (promptArtifact "B") := by
  have hholds : halfway.Holds (Path.absolute ["sub", "a.xml"]) ["sub", "a.xml"] (promptElement (.text "B")) :=
    wellFormed_halfway.holds (by simp [halfway, sameStem, put]) (parse_promptText "B" (by simp))
  exact transform_of_holds { hholds with resolve := (resolve_here rfl _).trans hholds.resolve } rfl (by decide)

theorem buildOne_first : buildOne settings firstSource sameStem =
    (halfway, { source := firstSource, output := some ⟨.here, ["a.md"]⟩, ok := true }) :=
  buildOne_top rfl transform_first (by decide) (by decide) rfl (by decide) (by decide) (.inl rfl)

theorem buildOne_nested : buildOne settings nestedSource halfway =
    (halfway.put ["a.md"] (.file (Encoding.Utf8.encode (promptArtifact "B"))),
      { source := nestedSource, output := some ⟨.here, ["a.md"]⟩, ok := true }) :=
  buildOne_top rfl transform_nested (by decide) (by decide) rfl (by decide) (by decide) (.inr ⟨_, rfl⟩)

end sameStem

open sameStem in
/-- Two prompts that share a stem are both reported as built, and the Markdown of the first is lost. -/
theorem build_sameStem :
    let output : Path := ⟨.here, ["a.md"]⟩
    sameStem.WellFormed ∧
      discoverSources sameStem settings.sourceDirectory (selectedNames settings ["a", "sub/a"]) =
        .ok [firstSource, nestedSource] ∧
      artifactPath settings firstSource = output ∧ artifactPath settings nestedSource = output ∧
      (build settings ["a", "sub/a"] sameStem).2 = .ok ⟨[{ source := firstSource, output := some output, ok := true },
        { source := nestedSource, output := some output, ok := true }]⟩ ∧
      transform sameStem firstSource = .ok (promptArtifact "A") ∧
      (build settings ["a", "sub/a"] sameStem).1.read (Path.absolute ["a.md"]) =
        .ok (Encoding.Utf8.encode (promptArtifact "B")) ∧
      Encoding.Utf8.encode (promptArtifact "B") ≠ Encoding.Utf8.encode (promptArtifact "A") := by
  intro output
  have hbuild : build settings ["a", "sub/a"] sameStem =
      (halfway.put ["a.md"] (.file (Encoding.Utf8.encode (promptArtifact "B"))),
        .ok ⟨[{ source := firstSource, output := some output, ok := true },
          { source := nestedSource, output := some output, ok := true }]⟩) := by
    simp only [build, discoverSources_settings, buildAll, buildOne_first, buildOne_nested, BuildReport.ofResults]
    rw [List.mergeSort_of_pairwise (by decide)]
  refine ⟨wellFormed, discoverSources_settings, by decide, by decide, ?_, transform_first, ?_,
    by decide +kernel⟩
  · rw [hbuild]
  · rw [hbuild]
    exact read_top (by decide) (by rw [node?_put (by simp), if_pos rfl])

end PromptMarkup
