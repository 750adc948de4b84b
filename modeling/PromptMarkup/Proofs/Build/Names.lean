import PromptMarkup.Proofs.Build.Artifacts
import PromptMarkup.Proofs.Build.Sources

/-!
# Names of sources and of artifacts

The artifact of a source is named by the source's stem.  So two sources that have been found share the path of their
artifacts if they share their file name, and besides only if these names are `.xml` and `.xml.xml`
(`artifactPath_eq_iff`).  Files found in a directory have different names; sources that are asked for by name may lie in
different directories.
-/

namespace PromptMarkup

open FileSystem

/-! ### Safe names -/

section

variable {name name' : String}

theorem notMem_of_isSafeName (h : isSafeName name = true) : name ≠ "" ∧ '/' ∉ name.toList := by
  simp only [isSafeName, Bool.and_eq_true, Bool.not_eq_true'] at h
  obtain ⟨⟨⟨hempty, hslash⟩, -⟩, -⟩ := h
  exact ⟨by rintro rfl; simp at hempty, by simpa using hslash⟩

/-- A safe name leads from a directory to what lies directly in it. -/
theorem child_of_isSafeName (h : isSafeName name = true) (p : Path) :
    p.child name = ⟨p.anchor, p.parts ++ Path.partsOf name⟩ := by
  obtain ⟨hne, hslash⟩ := notMem_of_isSafeName h
  obtain ⟨c, r, hc⟩ := List.exists_cons_of_ne_nil (l := name.toList) (by simpa using hne)
  have hanchor : Anchor.ofChars name.toList = .here := by
    have hfirst : c ≠ '/' := by
      rintro rfl
      exact hslash (by simp [hc])
    rw [hc]
    simp [Anchor.ofChars, hfirst]
  rw [Path.child, Path.append, Path.ofString, hanchor]
  rfl

theorem partsOf_of_isSafeName (h : isSafeName name = true) :
    Path.partsOf name = if name = "." then [] else [name] := by
  split
  · rename_i hdot
    rw [hdot]
    rfl
  · rename_i hdot
    obtain ⟨hne, hslash⟩ := notMem_of_isSafeName h
    exact Path.partsOf_of_isPart ⟨hne, hdot, hslash⟩

theorem child_eq_child_iff (h : isSafeName name = true) (h' : isSafeName name' = true) (p : Path) :
    p.child name = p.child name' ↔ name = name' := by
  refine ⟨fun heq => ?_, fun heq => by rw [heq]⟩
  rw [child_of_isSafeName h, child_of_isSafeName h', Path.mk.injEq, List.append_cancel_left_eq,
    partsOf_of_isSafeName h, partsOf_of_isSafeName h'] at heq
  have hparts := heq.2
  split at hparts <;> split at hparts
  · rename_i hdot hdot'
    rw [hdot, hdot']
  · cases hparts
  · cases hparts
  · exact List.singleton_inj.1 hparts

end

/-! ### Names of sources -/

theorem isSourceName_iff {name : String} : isSourceName name = true ↔ sourceEnding.toList <:+ name.toList := by
  rw [isSourceName, List.isSuffixOf_iff_suffix]

/-- Characters with the ending of a source are a part of a path, if there is no slash among them. -/
theorem isPart_of_suffix {cs : List Char} (hcs : sourceEnding.toList <:+ cs) (hslash : '/' ∉ cs) :
    Path.IsPart (String.ofList cs) := by
  have hlong (short : String) (hshort : short.length < sourceEnding.length) : String.ofList cs ≠ short := by
    rintro rfl
    have hlength := hcs.length_le
    simp only [String.length_ofList, String.length_toList] at hshort hlength
    omega
  exact ⟨hlong "" (by decide), hlong "." (by decide), by simpa using hslash⟩

/-- The last part of a text with the ending of a source has it too, because there is no slash in the ending. -/
theorem exists_partsOf_eq {name : String} (h : isSourceName name = true) :
    ∃ ps cs, Path.partsOf name = ps ++ [String.ofList cs] ∧ sourceEnding.toList <:+ cs := by
  have hending := isSourceName_iff.1 h
  by_cases hslash : '/' ∈ name.toList
  · obtain ⟨before, after, hsplit, hafter⟩ := List.eq_append_cons_of_mem (List.mem_reverse.2 hslash)
    have hname : name.toList = after.reverse ++ '/' :: before.reverse := by
      rw [← List.reverse_reverse name.toList, hsplit]
      simp
    have hbefore : '/' ∉ before.reverse := by simpa using hafter
    have hcs : sourceEnding.toList <:+ before.reverse := by
      rw [hname] at hending
      obtain hshort | hlong := List.suffix_or_suffix_of_suffix hending (List.suffix_append _ _)
      · obtain heq | hshort := List.suffix_cons_iff.1 hshort
        · exact absurd (heq ▸ List.mem_cons_self : '/' ∈ sourceEnding.toList) (by decide)
        · exact hshort
      · exact absurd (hlong.subset List.mem_cons_self) (by decide)
    have hpart := isPart_of_suffix hcs hbefore
    refine ⟨Path.partsOf (String.ofList after.reverse), before.reverse, ?_, hcs⟩
    rw [Path.partsOf, Text.parts, hname, Text.splitOn_append_cons, Text.splitOn_of_notMem hbefore, List.map_append,
      List.filter_append, Path.partsOf, Text.parts, String.toList_ofList]
    simp [hpart.ne_empty, hpart.ne_dot]
  · refine ⟨[], name.toList, ?_, hending⟩
    have hpart := isPart_of_suffix hending hslash
    rw [String.ofList_toList] at hpart ⊢
    rw [Path.partsOf_of_isPart hpart, List.nil_append]

/-- A source that is asked for has the name of a source, in whatever directory. -/
theorem isSourceName_child {name : String} (h : isSourceName name = true) (directory : Path) :
    isSourceName (directory.child name).name = true := by
  obtain ⟨ps, cs, hparts, hcs⟩ := exists_partsOf_eq h
  have hname : (directory.child name).name = String.ofList cs := by
    rw [Path.child, Path.append]
    split <;> simp [Path.name, Path.ofString, hparts]
  rw [hname, isSourceName_iff, String.toList_ofList]
  exact hcs

theorem isSourceName_sourceName (name : String) : isSourceName (sourceName name) = true := by
  rw [sourceName]
  split
  · assumption
  · rw [isSourceName_iff, String.toList_append]
    exact List.suffix_append _ _

theorem mem_of_mem_presentSources {fs : FileSystem} {directory : Path} {sources : List Path} {s : Path}
    (h : presentSources fs directory = .ok sources) (hs : s ∈ sources) :
    ∃ name, isSourceName name = true ∧ s = ⟨directory.anchor, directory.parts ++ [name]⟩ := by
  rw [presentSources] at h
  split at h
  · cases h
  · cases h
  dsimp only at h
  split at h
  · rename_i ps hps
    cases h
    obtain ⟨name, hname, rfl⟩ := List.mem_map.1 ((sublist_of_filterM hps).subset hs)
    exact ⟨name, (List.mem_filter.1 hname).2, rfl⟩
  · cases h

/-- Whatever a build compiles has the name of a source. -/
theorem isSourceName_of_mem_discoverSources {fs : FileSystem} {directory : Path} {names : Option (List String)}
    {sources : List Path} (h : discoverSources fs directory names = .ok sources) {s : Path} (hs : s ∈ sources) :
    isSourceName s.name = true := by
  cases names with
  | some names =>
    cases h
    obtain ⟨name, -, rfl⟩ := List.mem_map.1 (List.mem_eraseDups.1 ((List.mergeSort_perm _ _).mem_iff.1 hs))
    exact isSourceName_child (isSourceName_sourceName name) directory
  | none =>
    obtain ⟨ps, hps, rfl⟩ := Except.map_eq_ok.1 h
    obtain ⟨name, hname, rfl⟩ := mem_of_mem_presentSources hps ((List.mergeSort_perm _ _).mem_iff.1 hs)
    simpa [Path.name] using hname

/-- Sources that lie in one directory are told apart by their names. -/
theorem eq_of_name_eq {fs : FileSystem} {directory : Path} {sources : List Path}
    (h : discoverSources fs directory none = .ok sources) {s s' : Path} (hs : s ∈ sources) (hs' : s' ∈ sources)
    (heq : s.name = s'.name) : s = s' := by
  obtain ⟨ps, hps, rfl⟩ := Except.map_eq_ok.1 h
  obtain ⟨name, -, rfl⟩ := mem_of_mem_presentSources hps ((List.mergeSort_perm _ _).mem_iff.1 hs)
  obtain ⟨name', -, rfl⟩ := mem_of_mem_presentSources hps ((List.mergeSort_perm _ _).mem_iff.1 hs')
  obtain rfl : name = name' := by simpa [Path.name] using heq
  rfl

/-! ### Stems -/

/-- The stem of a source is its name without the ending, unless the ending is all there is. -/
theorem splitName_of_isSourceName {name : String} (h : isSourceName name = true) :
    ∃ base, name = String.ofList base ++ sourceEnding ∧
      (Path.splitName name).1 = if base = [] then sourceEnding else String.ofList base := by
  obtain ⟨base, hbase⟩ := isSourceName_iff.1 h
  have hname : name = String.ofList base ++ sourceEnding := by
    rw [← String.toList_inj, ← hbase, String.toList_append, String.toList_ofList]
  refine ⟨base, hname, ?_⟩
  have hreversed : name.toList.reverse = 'l' :: 'm' :: 'x' :: '.' :: base.reverse := by
    rw [← hbase, List.reverse_append]
    rfl
  rw [Path.splitName, hreversed]
  cases base with
  | nil => simp [hname]
  | cons c r => simp

/-- Two sources have one stem if they have one name, and besides only with these names. -/
theorem splitName_eq_iff {name name' : String} (h : isSourceName name = true) (h' : isSourceName name' = true) :
    (Path.splitName name).1 = (Path.splitName name').1 ↔
      name = name' ∨ (name = ".xml" ∧ name' = ".xml.xml") ∨ (name = ".xml.xml" ∧ name' = ".xml") := by
  constructor
  · intro heq
    obtain ⟨base, rfl, hstem⟩ := splitName_of_isSourceName h
    obtain ⟨base', rfl, hstem'⟩ := splitName_of_isSourceName h'
    rw [hstem, hstem'] at heq
    split at heq <;> split at heq
    · rename_i hbase hbase'
      rw [hbase, hbase']
      exact .inl rfl
    · rename_i hbase _
      rw [hbase, ← heq]
      exact .inr (.inl ⟨rfl, rfl⟩)
    · rename_i _ hbase'
      rw [hbase', heq]
      exact .inr (.inr ⟨rfl, rfl⟩)
    · rw [heq]
      exact .inl rfl
  · rintro (rfl | ⟨rfl, rfl⟩ | ⟨rfl, rfl⟩)
    · rfl
    · decide
    · decide

/-- Two sources that have been found share the path of their artifacts if they share their name, and besides only with
these names. -/
theorem artifactPath_eq_iff {settings : BuildSettings} {fs : FileSystem} {directory : Path}
    {names : Option (List String)} {sources : List Path} (h : discoverSources fs directory names = .ok sources)
    {s s' : Path} (hs : s ∈ sources) (hs' : s' ∈ sources) (hsafe : isSafeName (artifactName settings s) = true)
    (hsafe' : isSafeName (artifactName settings s') = true) :
    artifactPath settings s = artifactPath settings s' ↔
      s.name = s'.name ∨ (s.name = ".xml" ∧ s'.name = ".xml.xml") ∨ (s.name = ".xml.xml" ∧ s'.name = ".xml") := by
  rw [artifactPath, artifactPath, child_eq_child_iff hsafe hsafe', artifactName, artifactName, String.append_left_inj,
    Path.stem, Path.stem]
  exact splitName_eq_iff (isSourceName_of_mem_discoverSources h hs) (isSourceName_of_mem_discoverSources h hs')

end PromptMarkup
