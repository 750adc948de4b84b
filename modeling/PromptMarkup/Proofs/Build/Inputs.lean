import PromptMarkup.Proofs.Build.Isolation

/-!
# What a build leaves as it was

Whatever its workers do when, a build makes directories where nothing was and stores files in the places of artifacts
(`Underway`, `Progress.underway`).  So a path that led to a file leads to the same file with the same bytes, unless the
file is in the place of an artifact (`Underway.follow_found`).  In particular the sources and what they include stay as
they were, if none of them is where an artifact goes (`read_input`).

Nothing keeps artifacts from going there: a prompt whose artifact has its own name, in its own directory, is replaced by
its artifact (`build_replacedSource`).
-/

namespace PromptMarkup

open FileSystem

section

variable {settings : BuildSettings} {fs files : FileSystem} {source : Path} {sources : List Path} {ls : List Location}
  {l : Location} {p : Path}

/-- The output directory has been made as far as it can be, and files have been stored in places of artifacts. -/
structure Filled (settings : BuildSettings) (fs : FileSystem) (sources : List Path) (ls : List Location)
    (after : FileSystem) : Prop extends Stored (prepared settings fs) after ls where
  places : ∀ l ∈ ls, ∃ s ∈ sources, artifactPlace settings fs s = .ok l
  directory : after = prepared settings fs ∨
    (prepared settings fs).isDirectory settings.outputDirectory = .ok true

/-- The files of a build under way: as they were, or with artifacts in the output directory. -/
def Underway (settings : BuildSettings) (fs : FileSystem) (sources : List Path) (files : FileSystem) : Prop :=
  files = fs ∨ ∃ ls, Filled settings fs sources ls files

theorem filled_prepared (settings : BuildSettings) (fs : FileSystem) (sources : List Path) :
    Filled settings fs sources [] (prepared settings fs) where
  toStored := stored_refl _ _
  places := by simp
  directory := .inl rfl

/-- Where the output directory has been made, another attempt leaves the files alone. -/
theorem Filled.makeDirectories (h : Filled settings fs sources ls files) :
    (files.makeDirectories settings.outputDirectory).1 = files ∧
      ((files.makeDirectories settings.outputDirectory).2 = .ok () →
        (prepared settings fs).isDirectory settings.outputDirectory = .ok true) := by
  obtain hfiles | hthere := h.directory
  · obtain ⟨hsame, hok⟩ := makeDirectories_again fs settings.outputDirectory
    rw [hfiles]
    exact ⟨hsame, fun hmade => isDirectory_of_makeDirectories (Prod.ext rfl (hok.1 hmade))⟩
  · rw [makeDirectories_of_isDirectory (h.isDirectory hthere)]
    exact ⟨rfl, fun _ => hthere⟩

theorem Underway.makeDirectories (h : Underway settings fs sources files) :
    (∃ ls, Filled settings fs sources ls (files.makeDirectories settings.outputDirectory).1) ∧
      ((files.makeDirectories settings.outputDirectory).2 = .ok () →
        (prepared settings fs).isDirectory settings.outputDirectory = .ok true) := by
  obtain rfl | ⟨ls, h⟩ := h
  · refine ⟨⟨[], filled_prepared settings files sources⟩, fun hmade => ?_⟩
    exact isDirectory_of_makeDirectories (Prod.ext rfl hmade)
  · obtain ⟨hsame, hthere⟩ := h.makeDirectories
    rw [hsame]
    exact ⟨⟨ls, h⟩, hthere⟩

/-- An artifact goes to its own place or to that of another one. -/
theorem Filled.exists_place (h : Filled settings fs sources ls files) (hs : source ∈ sources)
    (hl : files.place (artifactPath settings source) = .ok l) : ∃ s ∈ sources, artifactPlace settings fs s = .ok l := by
  obtain hown | ⟨hmem, -⟩ := h.place_cases hl
  · exact ⟨source, hs, hown⟩
  · exact h.places l hmem

theorem Filled.put (h : Filled settings fs sources ls files) (hl : files.IsFree l)
    (hplace : ∃ s ∈ sources, artifactPlace settings fs s = .ok l)
    (hthere : (prepared settings fs).isDirectory settings.outputDirectory = .ok true) (bs : List UInt8) :
    Filled settings fs sources (ls ++ [l]) (files.put l (.file bs)) where
  toStored := h.toStored.trans (stored_put hl bs)
  places m hm := by
    obtain hm | hm := List.mem_append.1 hm
    · exact h.places m hm
    · rwa [List.mem_singleton.1 hm]
  directory := .inr hthere

/-! ### Steps and runs -/

/-- Writing a document keeps to the output directory and to the places of artifacts. -/
theorem underway_storeArtifact (h : Underway settings fs sources files) (hs : source ∈ sources)
    (compiled : Except Failure String) :
    Underway settings fs sources (storeArtifact settings source compiled files).1 := by
  cases compiled with
  | error e => exact h
  | ok content =>
    obtain ⟨⟨ls, hmade⟩, hthere⟩ := h.makeDirectories
    obtain ⟨e, hw⟩ | ⟨e, hw⟩ | ⟨l, -, hok, hl, hw⟩ :=
      writeArtifact_cases files settings.outputDirectory (artifactName settings source) (Text.codePoints content)
    · rw [storeArtifact_of_error hw]
      exact h
    · rw [storeArtifact_of_error hw]
      exact .inr ⟨ls, hmade⟩
    · rw [storeArtifact_of_opened hw]
      exact .inr ⟨_, hmade.put (isFree_of_place hl).1 (hmade.exists_place hs hl) (hthere hok) _⟩

namespace Progress

variable {workers : Nat} {p : Progress}

theorem mem_of_mem_running (hrun : Relation.ReflTransGen (Step settings workers) (.start fs sources) p)
    {r : Path × Except Failure String} (hr : r ∈ p.running) : r.1 ∈ sources :=
  (perm_sources hrun).subset (by simp [List.mem_map_of_mem hr])

/-- However far a build has come, it has kept to the output directory and to the places of artifacts. -/
theorem underway (hrun : Relation.ReflTransGen (Step settings workers) (.start fs sources) p) :
    Underway settings fs sources p.files := by
  induction hrun with
  | refl => exact .inl rfl
  | tail hrun hstep ih =>
    cases hstep with
    | compile _ _ => exact ih
    | write hrunning =>
      exact underway_storeArtifact ih (mem_of_mem_running hrun (hrunning.mem_iff.2 List.mem_cons_self)) _

/-- Building the sources one after another is a run of a build. -/
theorem steps_buildAll (settings : BuildSettings) (sources : List Path) (fs : FileSystem)
    (done : List DocumentResult) :
    Relation.ReflTransGen (Step settings 1) ⟨fs, sources, [], done⟩
      ⟨(buildAll settings sources fs).1, [], [], done ++ (buildAll settings sources fs).2⟩ := by
  induction sources generalizing fs done with
  | nil =>
    rw [buildAll, List.append_nil]
  | cons source rest ih =>
    have hcompile : Step settings 1 ⟨fs, source :: rest, [], done⟩
        ⟨fs, rest, [(source, transform fs source)], done⟩ := .compile (.refl _) (by simp)
    have hwrite : Step settings 1 ⟨fs, rest, [(source, transform fs source)], done⟩
        ⟨(buildOne settings source fs).1, rest, [], done ++ [(buildOne settings source fs).2]⟩ := .write (.refl _)
    have hrest := ih (buildOne settings source fs).1 (done ++ [(buildOne settings source fs).2])
    rw [List.append_assoc] at hrest
    exact .head hcompile (.head hwrite hrest)

end Progress

/-- A build of sources that have been found is a run of one worker. -/
theorem exists_steps_build {only : List String}
    (hsources : discoverSources fs settings.sourceDirectory (selectedNames settings only) = .ok sources) :
    ∃ p, Relation.ReflTransGen (Progress.Step settings 1) (.start fs sources) p ∧
      build settings only fs = (p.files, .ok (.ofResults p.finished)) := by
  refine ⟨_, Progress.steps_buildAll settings sources fs [], ?_⟩
  simp only [build, hsources, List.nil_append]

/-! ### What stays -/

/-- Files of a build under way differ from those before in directories that are new and in the places of artifacts. -/
theorem Underway.node?_cases (h : Underway settings fs sources files) (l : Location) :
    files.node? l = fs.node? l ∨ (fs.node? l = none ∧ files.node? l = some .directory) ∨
      ∃ s ∈ sources, artifactPlace settings fs s = .ok l := by
  obtain rfl | ⟨ls, h⟩ := h
  · exact .inl rfl
  obtain hsame | ⟨hl, -⟩ := h.node? l
  · rw [hsame]
    obtain hsame | hmade := (grown_makeDirectories fs settings.outputDirectory).node? l
    · exact .inl hsame
    · exact .inr (.inl hmade)
  · exact .inr (.inr (h.places l hl))

/-- A path that led to a file leads to it with the same bytes, unless an artifact goes there. -/
theorem Underway.follow_found (h : Underway settings fs sources files) {bs : List UInt8}
    (hp : fs.follow p = .ok (.found l (.file bs))) (hl : ∀ s ∈ sources, artifactPlace settings fs s ≠ .ok l) :
    files.follow p = .ok (.found l (.file bs)) := by
  obtain rfl | ⟨ls, h⟩ := h
  · exact hp
  have hprepared : (prepared settings fs).follow p = .ok (.found l (.file bs)) :=
    (grown_makeDirectories fs settings.outputDirectory).follow_found hp
  refine h.toStored.follow_found hprepared fun hmem => ?_
  obtain ⟨s, hs, hplace⟩ := h.places l hmem
  exact hl s hs hplace

/-- A build leaves its sources and what they include as they were, if none of them is where an artifact goes.  Besides,
whatever it changes is a new directory or in the place of an artifact. -/
theorem read_input {only : List String} (hw : fs.WellFormed)
    (hsources : discoverSources fs settings.sourceDirectory (selectedNames settings only) = .ok sources)
    (hapart : ∀ s ∈ sources, ∀ t, fs.view.LooksFor s t → ∀ s' ∈ sources, artifactPlace settings fs s' ≠ .ok t)
    (hfiles : files = (build settings only fs).1 ∨ ∃ workers p,
      Relation.ReflTransGen (Progress.Step settings workers) (.start fs sources) p ∧ files = p.files) :
    (∀ s ∈ sources, ∀ t, fs.view.LooksFor s t → fs.hasFile t = .ok true →
        files.read (Path.absolute t) = fs.read (Path.absolute t)) ∧
      ∀ l, files.node? l = fs.node? l ∨ (fs.node? l = none ∧ files.node? l = some .directory) ∨
        ∃ s ∈ sources, artifactPlace settings fs s = .ok l := by
  have hunderway : Underway settings fs sources files := by
    obtain rfl | ⟨workers, p, hrun, rfl⟩ := hfiles
    · obtain ⟨p, hrun, hbuild⟩ := exists_steps_build hsources
      rw [hbuild]
      exact Progress.underway hrun
    · exact Progress.underway hrun
  refine ⟨fun s hs t ht hfile => ?_, hunderway.node?_cases⟩
  obtain ⟨bs, hbs⟩ := hw.follow_of_mem_files (mem_files_of_hasFile hfile)
  exact read_congr ((hunderway.follow_found hbs (hapart s hs t ht)).trans hbs.symm)

open twoPrompts in
/-- A text that one of two prompts includes is the same after the prompts have been built. -/
theorem read_twoPrompts : twoPrompts.view.LooksFor firstSource ["t.txt"] ∧
    (build twoPrompts.settings ["a", "b"] twoPrompts).1.read (Path.absolute ["t.txt"]) =
      twoPrompts.read (Path.absolute ["t.txt"]) := by
  have hlooks : twoPrompts.view.LooksFor firstSource ["t.txt"] :=
    .directive (.root holds_first.resolve) holds_first.document (by decide) leads_text
  obtain ⟨hread, -⟩ := read_input (by decide) (discoverSources_settingsInto twoPrompts ["out"])
    independent.lookups (.inl rfl)
  exact ⟨hlooks, hread firstSource (by simp) ["t.txt"] hlooks (hasFile_top (by decide) rfl)⟩

end

/-! ### A source that is replaced -/

/-- A prompt in the directory that artifacts go to. -/
def replacedSource : FileSystem where
  current := []
  nodes := [(["a.xml"], .file (Encoding.Utf8.encode (promptText "A")))]

namespace replacedSource

/-- Settings that give artifacts the names of sources. -/
def given : Value := .map [(.str "source_dir", .str "."), (.str "output_dir", .str "."),
  (.str "output_extension", .str ".xml")]

def settings : BuildSettings where
  sourceDirectory := ⟨.here, []⟩
  outputDirectory := ⟨.here, []⟩
  extension := ".xml"
  workers := none
  inventory := none

theorem ofValue_given : BuildSettings.ofValue given = .valid settings := rfl

theorem discoverSources_settings : discoverSources replacedSource settings.sourceDirectory
    (selectedNames settings ["a"]) = .ok [firstSource] := by
  have hnamed : namedSources ⟨.here, []⟩ ["a"] = [firstSource] := by decide
  show Except.ok (Path.sort (namedSources ⟨.here, []⟩ ["a"])) = _
  rw [hnamed, Path.sort, List.mergeSort_singleton]

theorem buildOne_firstSource : buildOne settings firstSource replacedSource =
    (replacedSource.put ["a.xml"] (.file (Encoding.Utf8.encode (promptArtifact "A"))),
      { source := firstSource, output := some firstSource, ok := true }) := by
  have hfile : replacedSource.node? ["a.xml"] = some (.file (Encoding.Utf8.encode (promptText "A"))) := rfl
  have htransform : transform replacedSource firstSource = .ok (promptArtifact "A") :=
    transform_of_holds (holds_here rfl (by decide) hfile (parse_promptText "A" (by simp))) rfl (by decide)
  exact buildOne_top rfl htransform (by decide) (by decide) rfl (by decide) (by decide) (.inr ⟨_, hfile⟩)

end replacedSource

open replacedSource in
/-- With settings that are valid, the artifact of a prompt replaces the prompt. -/
theorem build_replacedSource :
    BuildSettings.ofValue given = .valid settings ∧ replacedSource.WellFormed ∧
      discoverSources replacedSource settings.sourceDirectory (selectedNames settings ["a"]) = .ok [firstSource] ∧
      replacedSource.view.LooksFor firstSource ["a.xml"] ∧ replacedSource.hasFile ["a.xml"] = .ok true ∧
      (build settings ["a"] replacedSource).2 =
        .ok ⟨[{ source := firstSource, output := some firstSource, ok := true }]⟩ ∧
      (build settings ["a"] replacedSource).1.read (Path.absolute ["a.xml"]) =
        .ok (Encoding.Utf8.encode (promptArtifact "A")) ∧
      (build settings ["a"] replacedSource).1.read (Path.absolute ["a.xml"]) ≠
        replacedSource.read (Path.absolute ["a.xml"]) := by
  have hfile : replacedSource.node? ["a.xml"] = some (.file (Encoding.Utf8.encode (promptText "A"))) := rfl
  have hbuild : build settings ["a"] replacedSource =
      (replacedSource.put ["a.xml"] (.file (Encoding.Utf8.encode (promptArtifact "A"))),
        .ok ⟨[{ source := firstSource, output := some firstSource, ok := true }]⟩) := by
    simp only [build, discoverSources_settings, buildAll, buildOne_firstSource, BuildReport.ofResults,
      List.mergeSort_singleton]
  have hread : (build settings ["a"] replacedSource).1.read (Path.absolute ["a.xml"]) =
      .ok (Encoding.Utf8.encode (promptArtifact "A")) := by
    rw [hbuild]
    exact read_top (by decide) (by rw [node?_put (by simp), if_pos rfl])
  refine ⟨ofValue_given, by decide, discoverSources_settings, ?_, hasFile_top (by decide) hfile, ?_, hread, ?_⟩
  · exact .root ((resolve_here rfl _).trans (resolve_top (by decide) hfile))
  · rw [hbuild]
  · rw [hread, read_top (by decide) hfile, Encoding.Utf8.encode_eq_bytes, Encoding.Utf8.encode_eq_bytes]
    decide

end PromptMarkup
