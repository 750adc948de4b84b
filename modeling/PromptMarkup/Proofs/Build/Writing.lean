import PromptMarkup.Proofs.Build.Isolation
import PromptMarkup.Proofs.Build.Names
import PromptMarkup.Proofs.Encoding.CodePoints

/-!
# Writing an artifact

An artifact is written as a whole or not at all (`Writes`): a refused name leaves the files alone, an attempt that fails
leaves at most directories, and one that succeeds leaves the text where it says, right in the directory.  Another
attempt changes nothing and succeeds if the first one did (`writeArtifact_again`), and the text is read back as it was
(`writes_writeArtifact`).

Only a text with half of a pair, which cannot be encoded, empties an artifact that was there or leaves an empty one
(`writeArtifact_unpaired`).
-/

namespace PromptMarkup

open FileSystem

variable {fs : FileSystem} {directory : Path} {name : String} {l : Location}

/-! ### Names -/

/-- A name that could lead out of its directory, or that is none: it is empty or has a slash, a backslash or two dots in
a row. -/
def IsUnsafeName (name : String) : Prop :=
  name = "" ∨ '/' ∈ name.toList ∨ '\\' ∈ name.toList ∨ ['.', '.'] <:+: name.toList

theorem hasDoubleDot_iff {cs : List Char} : hasDoubleDot cs = true ↔ ['.', '.'] <:+: cs := by
  fun_induction hasDoubleDot cs with
  | case1 rest => exact iff_of_true rfl (List.prefix_append ['.', '.'] rest).isInfix
  | case2 c rest hno ih =>
    rw [ih, List.infix_cons_iff]
    refine ⟨.inr, Or.rec (fun hprefix => ?_) id⟩
    obtain ⟨after, hafter⟩ := hprefix
    obtain ⟨rfl, rfl⟩ := List.cons.inj hafter
    exact absurd rfl (hno after rfl)
  | case3 => simp

theorem isSafeName_eq_false_iff : isSafeName name = false ↔ IsUnsafeName name := by
  have hempty : name.toList.isEmpty = true ↔ name = "" := by simp
  rw [IsUnsafeName, isSafeName, ← hempty, ← hasDoubleDot_iff]
  simp only [Bool.and_eq_false_iff, Bool.not_eq_false', List.contains_iff_mem, or_assoc]

/-! ### One attempt -/

/-- An attempt to write an artifact, with the files that it leaves. -/
structure Writes (fs : FileSystem) (directory : Path) (name : String) (content : List CodePoint)
    (outcome : FileSystem × Except Failure Path) : Prop where
  /-- A name that could lead out of the directory is refused, and nothing is made, not even the directory. -/
  refused : IsUnsafeName name → ∃ e, outcome = (fs, .error e) ∧ e.className = "ValueError" ∧
    e.text = "Invalid artifact filename: '" ++ name ++ "'"
  /-- An attempt that fails leaves all files as they were, and makes directories on the way to the artifact at most; or
  the text cannot be encoded, and the artifact has been made or emptied. -/
  failed : ∀ e, outcome.2 = .error e → Made fs outcome.1 directory ∨
    ∃ u l, Encoding.Utf8.encodePoints content = .error u ∧ e = .encoding u.fault ∧
      Puts fs outcome.1 directory ⟨directory.anchor, directory.parts ++ [name]⟩ [] l
  /-- The artifact lies right in the directory, which is there with all above it.  The file that its path leads to has
  the text; else only directories have been made on the way to it. -/
  written : ∀ path, outcome.2 = .ok path →
    path = ⟨directory.anchor, directory.parts ++ [name]⟩ ∧
      (∀ part, part <+: directory.parts → outcome.1.isDirectory ⟨directory.anchor, part⟩ = .ok true) ∧
      ∃ bs l, Encoding.Utf8.encodePoints content = .ok bs ∧ outcome.1.read path = .ok bs ∧
        Puts fs outcome.1 directory path bs l

theorem writeArtifact_of_isUnsafeName (h : IsUnsafeName name) (fs : FileSystem) (directory : Path)
    (content : List CodePoint) : writeArtifact fs directory name content = (fs, .error (.unsafeName name)) :=
  writeArtifact_of_not_isSafeName (isSafeName_eq_false_iff.2 h) fs directory content

/-- No file can be written in place of the directory itself. -/
theorem child_eq_of_place (hsafe : isSafeName name = true) (hdirectory : fs.isDirectory directory = .ok true)
    (hl : fs.place (directory.child name) = .ok l) :
    directory.child name = ⟨directory.anchor, directory.parts ++ [name]⟩ := by
  rw [child_of_isSafeName hsafe, partsOf_of_isSafeName hsafe] at hl ⊢
  split at hl
  · next hdot =>
    obtain ⟨hnull, d, hd⟩ := isDirectory_eq_ok.1 hdirectory
    rw [List.append_nil, place, hnull, hd] at hl
    cases hl
  · next hdot => rw [if_neg hdot]

theorem writes_once (fs : FileSystem) (directory : Path) (name : String) (content : List CodePoint) :
    Writes fs directory name content (writeArtifact fs directory name content) where
  refused hname := ⟨_, writeArtifact_of_isUnsafeName hname fs directory content, rfl, rfl⟩
  failed e he := by
    obtain ⟨e', h⟩ | ⟨e', h⟩ | ⟨l, hsafe, hok, hl, h⟩ := writeArtifact_cases fs directory name content
    · rw [h]
      exact .inl (made_refl fs directory)
    · rw [h]
      exact .inl (made_makeDirectories fs directory)
    -- The artifact has been opened, so it is the text that cannot be encoded.
    obtain ⟨bs, -, hpayload⟩ | ⟨u, hu, hpayload⟩ := payload_cases content
    · rw [hpayload] at h
      cases (congrArg Prod.snd h).symm.trans he
    · rw [hpayload] at h
      cases (congrArg Prod.snd h).symm.trans he
      have hthere : (fs.makeDirectories directory).1.isDirectory directory = .ok true :=
        isDirectory_of_makeDirectories (Prod.ext rfl hok)
      rw [h, ← child_eq_of_place hsafe hthere hl]
      exact .inr ⟨u, l, hu, rfl, (made_makeDirectories fs directory).put hl []⟩
  written path hwritten := by
    obtain ⟨e', h⟩ | ⟨e', h⟩ | ⟨l, hsafe, hok, hl, h⟩ := writeArtifact_cases fs directory name content
    · cases (congrArg Prod.snd h).symm.trans hwritten
    · cases (congrArg Prod.snd h).symm.trans hwritten
    obtain ⟨bs, hbs, hpayload⟩ | ⟨u, -, hpayload⟩ := payload_cases content
    · rw [hpayload] at h
      cases (congrArg Prod.snd h).symm.trans hwritten
      rw [h]
      have hthere : (fs.makeDirectories directory).1.isDirectory directory = .ok true :=
        isDirectory_of_makeDirectories (Prod.ext rfl hok)
      have hstored := stored_put (isFree_of_place hl).1 bs
      have hputs := (made_makeDirectories fs directory).put hl bs
      refine ⟨child_eq_of_place hsafe hthere hl, fun part hpart => ?_, bs, l, hbs, ?_, hputs⟩
      · exact isDirectory_of_prefix (hstored.isDirectory hthere) hpart
      · exact read_of_follow (hasNull_of_place hl) hputs.follow
    · rw [hpayload] at h
      cases (congrArg Prod.snd h).symm.trans hwritten

/-! ### Another attempt -/

/-- A second attempt leaves the files alone, and succeeds if the first one did. -/
theorem writeArtifact_again (fs : FileSystem) (directory : Path) (name : String) (content : List CodePoint) :
    (writeArtifact (writeArtifact fs directory name content).1 directory name content).1 =
        (writeArtifact fs directory name content).1 ∧
      ∀ path, (writeArtifact fs directory name content).2 = .ok path →
        (writeArtifact (writeArtifact fs directory name content).1 directory name content).2 = .ok path := by
  obtain ⟨hagain, hagainOk⟩ := makeDirectories_again fs directory
  obtain ⟨e, h⟩ | ⟨e, h⟩ | ⟨l, hsafe, hok, hl, h⟩ := writeArtifact_cases fs directory name content
  · simp only [h]
    exact ⟨trivial, fun path hpath => by cases hpath⟩
  · simp only [h]
    refine ⟨?_, fun path hpath => by cases hpath⟩
    obtain ⟨e', h'⟩ | ⟨e', h'⟩ | ⟨l, hsafe, hok, hl, h'⟩ :=
      writeArtifact_cases (fs.makeDirectories directory).1 directory name content
    · rw [h']
    · rw [h', hagain]
    · -- The first attempt would have opened the artifact too.
      rw [hagain] at hl h'
      rw [writeArtifact_of_place hsafe (Prod.ext rfl (hagainOk.1 hok)) hl content] at h
      rw [h', (Prod.ext_iff.1 h).1]
  · have hthere : (fs.makeDirectories directory).1.isDirectory directory = .ok true :=
      isDirectory_of_makeDirectories (Prod.ext rfl hok)
    have hfree := (isFree_of_place hl).1
    have hstored := stored_put hfree (payload content).1
    have hfollow := hstored.follow_place (by rw [node?_put hfree.ne_nil, if_pos rfl]) hl
    have hplace := place_of_follow (hasNull_of_place hl) hfollow
    have hmade := makeDirectories_of_isDirectory (hstored.isDirectory hthere)
    simp only [h]
    rw [writeArtifact_of_place hsafe hmade hplace content, put_put]
    exact ⟨rfl, fun path hpath => hpath⟩

/-- An artifact is written as a whole or not at all, unless its text cannot be encoded.  Writing it once more changes
nothing, and what has been written is read back as the text that it was. -/
theorem writes_writeArtifact (fs : FileSystem) (directory : Path) (name : String) (content : List CodePoint) :
    Writes fs directory name content (writeArtifact fs directory name content) ∧
      (writeArtifact (writeArtifact fs directory name content).1 directory name content).1 =
        (writeArtifact fs directory name content).1 ∧
      ∀ path, (writeArtifact fs directory name content).2 = .ok path →
        (writeArtifact (writeArtifact fs directory name content).1 directory name content).2 = .ok path ∧
        ∃ bs s, (writeArtifact fs directory name content).1.read path = .ok bs ∧
          Encoding.Utf8.decode bs = .ok s ∧ s.toList.map .char = content := by
  have honce := writes_once fs directory name content
  obtain ⟨hsame, hok⟩ := writeArtifact_again fs directory name content
  refine ⟨honce, hsame, fun path hpath => ⟨hok path hpath, ?_⟩⟩
  obtain ⟨-, -, bs, l, hbs, hread, -⟩ := honce.written path hpath
  obtain ⟨s, hs, hcontent⟩ := Encoding.Utf8.decode_of_encodePoints hbs
  exact ⟨bs, s, hread, hs, hcontent⟩

/-- An artifact from before. -/
def oldArtifact : FileSystem where
  current := []
  nodes := [(["a.md"], .file (Encoding.Utf8.encode "A\n"))]

namespace oldArtifact

theorem writeArtifact_eq (content : List CodePoint) : writeArtifact oldArtifact ⟨.here, []⟩ "a.md" content =
    (oldArtifact.put ["a.md"] (.file (payload content).1),
      (payload content).2.map fun _ => ⟨.here, ["a.md"]⟩) :=
  writeArtifact_top rfl (by decide) (by decide) (by decide) (.inr ⟨_, rfl⟩) content

end oldArtifact

/-- An artifact that replaces one from before is read back. -/
theorem writes_oldArtifact :
    ∃ path, (writeArtifact oldArtifact ⟨.here, []⟩ "a.md" [.char 'B', .char '\n']).2 = .ok path ∧
      ∃ bs s, (writeArtifact oldArtifact ⟨.here, []⟩ "a.md" [.char 'B', .char '\n']).1.read path = .ok bs ∧
        Encoding.Utf8.decode bs = .ok s ∧ s.toList.map CodePoint.char = [.char 'B', .char '\n'] := by
  have hpath : (writeArtifact oldArtifact ⟨.here, []⟩ "a.md" [.char 'B', .char '\n']).2 = .ok ⟨.here, ["a.md"]⟩ := by
    rw [oldArtifact.writeArtifact_eq]
    rfl
  exact ⟨_, hpath, ((writes_writeArtifact oldArtifact ⟨.here, []⟩ "a.md" _).2.2 _ hpath).2⟩

/-- A text with half of a pair is not written, and the artifact from before is emptied. -/
theorem writeArtifact_unpaired :
    let outcome := writeArtifact oldArtifact ⟨.here, []⟩ "a.md" [.char 'B', .surrogate 0, .char '\n']
    (∃ e, outcome.2 = .error e ∧ e.className = "UnicodeEncodeError") ∧
      oldArtifact.read (Path.absolute ["a.md"]) = .ok (Encoding.Utf8.encode "A\n") ∧
      outcome.1.read (Path.absolute ["a.md"]) = .ok [] := by
  intro outcome
  have houtcome : outcome = _ := oldArtifact.writeArtifact_eq _
  rw [houtcome]
  refine ⟨⟨_, rfl, rfl⟩, read_top (by decide) rfl, ?_⟩
  exact read_top (by decide) (by rw [node?_put (by simp), if_pos rfl]; rfl)

end PromptMarkup
