import PromptMarkup.Proofs.Build.Schedule
import PromptMarkup.Proofs.Files.Making

/-!
# Failures of single documents

What becomes of one document does not keep the others from being built: a build ends with one result for each source,
whatever its workers do when (`Progress.perm_sources`).  And a document is built wholly or not at all
(`allOrNothing_storeArtifact`): one that cannot be compiled leaves the files alone, one that cannot be written leaves
at most directories on the way to its artifact, and one that is written changes its artifact besides.
-/

namespace PromptMarkup

open FileSystem

section

variable {settings : BuildSettings} {fs : FileSystem} {source : Path} {sources : List Path}

/-! ### Writing one artifact -/

/-- Writing an artifact is refused before anything is done, or fails once the directory has been made as far as it can
be, or puts bytes where the path of the artifact leads. -/
theorem writeArtifact_cases (fs : FileSystem) (directory : Path) (name : String) (content : List CodePoint) :
    (∃ e, writeArtifact fs directory name content = (fs, .error e)) ∨
      (∃ e, writeArtifact fs directory name content = ((fs.makeDirectories directory).1, .error e)) ∨
      ∃ l, isSafeName name = true ∧ (fs.makeDirectories directory).2 = .ok () ∧
        (fs.makeDirectories directory).1.place (directory.child name) = .ok l ∧
        writeArtifact fs directory name content =
          ((fs.makeDirectories directory).1.put l (.file (payload content).1),
            (payload content).2.map fun _ => directory.child name) := by
  cases hsafe : isSafeName name with
  | false => exact .inl ⟨_, writeArtifact_of_not_isSafeName hsafe fs directory content⟩
  | true =>
    right
    cases hmade : (fs.makeDirectories directory).2 with
    | error f => exact .inl ⟨_, writeArtifact_of_not_made hsafe (Prod.ext rfl hmade) content⟩
    | ok u =>
      cases hl : (fs.makeDirectories directory).1.place (directory.child name) with
      | error f => exact .inl ⟨_, writeArtifact_of_no_place hsafe (Prod.ext rfl hmade) hl content⟩
      | ok l => exact .inr ⟨l, rfl, rfl, rfl, writeArtifact_of_place hsafe (Prod.ext rfl hmade) hl content⟩

/-- A text is stored as its bytes, or as none where it cannot be encoded. -/
theorem payload_cases (content : List CodePoint) :
    (∃ bs, Encoding.Utf8.encodePoints content = .ok bs ∧ payload content = (bs, .ok ())) ∨
      ∃ u, Encoding.Utf8.encodePoints content = .error u ∧ payload content = ([], .error (.encoding u.fault)) := by
  rw [payload]
  cases h : Encoding.Utf8.encodePoints content with
  | ok bs => exact .inl ⟨bs, rfl, rfl⟩
  | error u => exact .inr ⟨u, rfl, rfl⟩

/-- A step that builds a document wholly or not at all, unless what it was compiled to cannot be encoded. -/
structure AllOrNothing (settings : BuildSettings) (source : Path) (files : FileSystem)
    (compiled : Except Failure String) (step : FileSystem × DocumentResult) : Prop where
  /-- A document that cannot be compiled leaves the files alone. -/
  notCompiled : ∀ e, compiled = .error e →
    step = (files, { source, ok := false, error := some e.text, errorClass := some e.className, chain := e.chain })
  /-- A document that cannot be written leaves at most directories on the way to its artifact, or it cannot be encoded
  and its artifact has been made or emptied. -/
  notWritten : ∀ content e, compiled = .ok content →
    (writeArtifact files settings.outputDirectory (source.stem ++ settings.extension) (Text.codePoints content)).2 =
      .error e →
    step.2 = { source, ok := false, error := some e.text, errorClass := some e.className, chain := e.chain } ∧
      (Made files step.1 settings.outputDirectory ∨
        ∃ u l, Encoding.Utf8.encodePoints (Text.codePoints content) = .error u ∧ e = .encoding u.fault ∧
          Puts files step.1 settings.outputDirectory
            (settings.outputDirectory.child (source.stem ++ settings.extension)) [] l)
  /-- A document that is written changes its artifact, and makes directories on the way. -/
  written : ∀ content output, compiled = .ok content →
    (writeArtifact files settings.outputDirectory (source.stem ++ settings.extension) (Text.codePoints content)).2 =
      .ok output →
    output = settings.outputDirectory.child (source.stem ++ settings.extension) ∧
      step.2 = { source, output := some output, ok := true } ∧
      ∃ bs l, Encoding.Utf8.encodePoints (Text.codePoints content) = .ok bs ∧
        Puts files step.1 settings.outputDirectory output bs l

theorem allOrNothing_storeArtifact (settings : BuildSettings) (source : Path) (files : FileSystem)
    (compiled : Except Failure String) :
    AllOrNothing settings source files compiled (storeArtifact settings source compiled files) where
  notCompiled := by
    rintro e rfl
    rfl
  notWritten := by
    rintro content e rfl he
    obtain ⟨e', h⟩ | ⟨e', h⟩ | ⟨l, -, -, hl, h⟩ :=
      writeArtifact_cases files settings.outputDirectory (artifactName settings source) (Text.codePoints content)
    · cases (congrArg Prod.snd h).symm.trans he
      rw [storeArtifact_of_error h]
      exact ⟨rfl, .inl (made_refl files _)⟩
    · cases (congrArg Prod.snd h).symm.trans he
      rw [storeArtifact_of_error h]
      exact ⟨rfl, .inl (made_makeDirectories files _)⟩
    · -- The artifact was opened, so it is the text that could not be encoded.
      obtain ⟨bs, -, hpayload⟩ | ⟨u, hu, hpayload⟩ := payload_cases (Text.codePoints content)
      · rw [hpayload] at h
        cases (congrArg Prod.snd h).symm.trans he
      · rw [hpayload] at h
        cases (congrArg Prod.snd h).symm.trans he
        rw [storeArtifact_of_error h]
        exact ⟨rfl, .inr ⟨u, l, hu, rfl, (made_makeDirectories files settings.outputDirectory).put hl []⟩⟩
  written := by
    rintro content output rfl ho
    obtain ⟨e', h⟩ | ⟨e', h⟩ | ⟨l, -, -, hl, h⟩ :=
      writeArtifact_cases files settings.outputDirectory (artifactName settings source) (Text.codePoints content)
    · cases (congrArg Prod.snd h).symm.trans ho
    · cases (congrArg Prod.snd h).symm.trans ho
    obtain ⟨bs, hbs, hpayload⟩ | ⟨u, -, hpayload⟩ := payload_cases (Text.codePoints content)
    · rw [storeArtifact_of_opened h, openedResult]
      rw [hpayload] at h ⊢
      cases (congrArg Prod.snd h).symm.trans ho
      exact ⟨rfl, rfl, bs, l, hbs, (made_makeDirectories files settings.outputDirectory).put hl bs⟩
    · rw [hpayload] at h
      cases (congrArg Prod.snd h).symm.trans ho

/-! ### One result for each source -/

theorem source_storeArtifact (settings : BuildSettings) (source : Path) (compiled : Except Failure String)
    (files : FileSystem) : (storeArtifact settings source compiled files).2.source = source := by
  cases compiled with
  | error e => rfl
  | ok content =>
    unfold storeArtifact
    dsimp only
    split <;> rfl

/-- However far a build has come, its results and the sources that it is still to build are those that it started
with. -/
theorem Progress.perm_sources {workers : Nat} {p : Progress}
    (hrun : Relation.ReflTransGen (Step settings workers) (.start fs sources) p) :
    (p.finished.map (·.source) ++ (p.running.map (·.1) ++ p.waiting)).Perm sources := by
  induction hrun with
  | refl => exact .refl _
  | tail _ hstep ih =>
    cases hstep with
    | compile hwaiting _ =>
      exact (List.perm_middle.symm.append_left _).trans
        ((((hwaiting.symm).append_left _).append_left _).trans ih)
    | write hrunning =>
      simp only [List.map_append, List.map_cons, List.map_nil, source_storeArtifact, List.append_assoc]
      exact ((((hrunning.map (·.1)).symm).append_right _).append_left _).trans ih

theorem map_source_buildAll (settings : BuildSettings) (sources : List Path) (fs : FileSystem) :
    (buildAll settings sources fs).2.map (·.source) = sources := by
  induction sources generalizing fs with
  | nil => rfl
  | cons source rest ih =>
    simp only [buildAll, List.map_cons, ih]
    rw [buildOne, source_storeArtifact]

/-- A report with one result for each source, whose exit code says whether some source failed. -/
structure BuildReport.Covers (report : BuildReport) (sources : List Path) : Prop where
  perm : (report.results.map (·.source)).Perm sources
  exitCode : report.exitCode = 1 ↔ ∃ s ∈ sources, ∃ r ∈ report.results, r.source = s ∧ r.ok = false
  exitCode_le : report.exitCode ≤ 1

theorem BuildReport.covers_ofResults {results : List DocumentResult} (h : (results.map (·.source)).Perm sources) :
    (ofResults results).Covers sources := by
  have hperm : ((ofResults results).results.map (·.source)).Perm sources :=
    ((List.mergeSort_perm _ _).map _).trans h
  refine ⟨hperm, ?_, ?_⟩
  · have hfailed : (ofResults results).exitCode = 1 ↔ ∃ r ∈ (ofResults results).results, r.ok = false := by
      simp [BuildReport.exitCode, failures]
    rw [hfailed]
    constructor
    · rintro ⟨r, hr, hok⟩
      exact ⟨r.source, hperm.mem_iff.1 (List.mem_map.2 ⟨r, hr, rfl⟩), r, hr, rfl, hok⟩
    · rintro ⟨s, -, r, hr, -, hok⟩
      exact ⟨r, hr, hok⟩
  · rw [BuildReport.exitCode]
    split <;> simp

/-- A build of sources that have been found reports on each of them, whatever its workers do when, and each document is
built wholly or not at all. -/
theorem build_allOrNothing {only : List String}
    (hsources : discoverSources fs settings.sourceDirectory (selectedNames settings only) = .ok sources) :
    (∃ report, (build settings only fs).2 = .ok report ∧ report.Covers sources) ∧
      (∀ workers p, 0 < workers → Relation.ReflTransGen (Progress.Step settings workers) (.start fs sources) p →
        (∀ q, ¬ Progress.Step settings workers p q) → (BuildReport.ofResults p.finished).Covers sources) ∧
      ∀ source files, AllOrNothing settings source files (transform files source)
        (buildOne settings source files) := by
  refine ⟨?_, ?_, fun source files => allOrNothing_storeArtifact settings source files _⟩
  · refine ⟨.ofResults (buildAll settings sources fs).2, ?_, ?_⟩
    · simp only [build, hsources]
    · exact BuildReport.covers_ofResults (.of_eq (map_source_buildAll settings sources fs))
  · intro workers p hworkers hrun hend
    obtain ⟨hwaiting, hrunning⟩ := Progress.eq_nil_of_not_step hworkers hend
    have hperm := Progress.perm_sources hrun
    rw [hwaiting, hrunning, List.map_nil, List.append_nil, List.append_nil] at hperm
    exact BuildReport.covers_ofResults hperm

/-- Where the output directory cannot be made, both prompts are reported, and a file that stands in the way stays. -/
theorem exists_report_blockedDirectory :
    (∃ report, (build blockedDirectory.settings ["a", "b"] blockedDirectory).2 = .ok report ∧
      report.Covers [firstSource, secondSource]) ∧
      AllOrNothing blockedDirectory.settings firstSource blockedDirectory (transform blockedDirectory firstSource)
        (buildOne blockedDirectory.settings firstSource blockedDirectory) := by
  obtain ⟨hreport, -, hstep⟩ := build_allOrNothing (discoverSources_settingsInto blockedDirectory ["x", "..", "f", "y"])
  exact ⟨hreport, hstep firstSource blockedDirectory⟩

end

/-! ### An artifact that is lost -/

/-- A prompt that includes its title in an encoding with escapes, and an artifact of it from before. -/
def unpairedPrompt : FileSystem where
  current := []
  nodes := [
    (["a.xml"], .file (Encoding.Utf8.encode
      (promptText "<xi:include parse='text' href='t.txt' encoding='raw_unicode_escape'/>"))),
    (["t.txt"], .file (Encoding.Utf8.encode "A\\ud800")),
    (["a.md"], .file (Encoding.Utf8.encode "A\n"))]

namespace unpairedPrompt

/-- The attributes of the directive for the title. -/
def directive : List (String × String) :=
  [("parse", "text"), ("href", "t.txt"), ("encoding", "raw_unicode_escape")]

/-- The title: a letter and half of a pair. -/
def title : String := Text.held [.char 'A', .surrogate 0]

/-- Settings that put the artifact beside the prompt. -/
def settings : BuildSettings := settingsInto []

theorem holds_prompt : unpairedPrompt.Holds firstSource ["a.xml"]
    (promptElement (.element "" includeName directive (.text "") (.text ""))) :=
  holds_here rfl (by decide) rfl (by rw [Encoding.Utf8.encode_eq_bytes]; decide +kernel)

theorem leads_title : unpairedPrompt.view.Leads ["a.xml"] directive (.text "raw_unicode_escape") ["t.txt"] :=
  ⟨⟨"t.txt", .text "raw_unicode_escape"⟩, Except.toOption_eq_some.1 (by decide), rfl,
    target_top (by decide) rfl (by decide)⟩

theorem text_title : unpairedPrompt.text ["t.txt"] "raw_unicode_escape" = .ok title := by
  have htext : unpairedPrompt.text ["t.txt"] "raw_unicode_escape" = .ok (Text.withLineFeeds title) :=
    text_top (by decide) rfl (by decide +kernel)
  rwa [show Text.withLineFeeds title = title by decide] at htext

theorem transform_prompt : transform unpairedPrompt firstSource = .ok (promptArtifact title) := by
  have hone : unpairedPrompt.view.OneEncoding firstSource := View.oneEncoding_of_forall "raw_unicode_escape" (by
    simp only [unpairedPrompt, Encoding.Utf8.encode_eq_bytes]
    decide +kernel) _
  exact transform_of_loadFresh
    (loadFresh_includedTitle holds_prompt hone leads_title (hasFile_top (by decide) rfl) text_title) (by decide)

theorem buildOne_prompt : buildOne settings firstSource unpairedPrompt =
    (unpairedPrompt.put ["a.md"] (.file (payload (Text.codePoints (promptArtifact title))).1),
      openedResult settings firstSource (promptArtifact title)) :=
  buildOne_top rfl transform_prompt (by decide) (by decide) rfl (by decide) (by decide) (.inr ⟨_, rfl⟩)

end unpairedPrompt

open unpairedPrompt in
/-- A prompt with half of a pair in its title is compiled, cannot be written, and has lost its artifact from before. -/
theorem buildOne_unpairedPrompt :
    unpairedPrompt.text ["t.txt"] "raw_unicode_escape" = .ok title ∧
      Text.codePoints title = [.char 'A', .surrogate 0] ∧
      (∃ content, transform unpairedPrompt firstSource = .ok content) ∧
      (buildOne settings firstSource unpairedPrompt).2.ok = false ∧
      unpairedPrompt.read (Path.absolute ["a.md"]) = .ok (Encoding.Utf8.encode "A\n") ∧
      (buildOne settings firstSource unpairedPrompt).1.read (Path.absolute ["a.md"]) = .ok [] := by
  have hpayload : (payload (Text.codePoints (promptArtifact title))).1 = [] := by decide
  refine ⟨text_title, Text.codePoints_held _, ⟨_, transform_prompt⟩, ?_, read_top (by decide) rfl, ?_⟩
  · rw [buildOne_prompt]
    decide
  · rw [buildOne_prompt, hpayload]
    exact read_top (by decide) (by rw [node?_put (by simp), if_pos rfl])

end PromptMarkup
