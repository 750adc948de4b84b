import PromptMarkup.Proofs.Document.Whereabouts
import PromptMarkup.Proofs.Files.Relocated
import PromptMarkup.Proofs.Inclusion.Simulation
import PromptMarkup.Proofs.Inclusion.Visit

/-!
# Sources at another place

Where the sources stand does not show in what they are compiled to.  If the directives of the documents below a
directory stay below it, and there are no links, then a load below the directory and the same load below a copy of it
go in step.  The main result: they give the same tree and the same Markdown, or they fail with the same class and with
the same chain, told from the one directory or from the other (`loadFresh_copyTree`).
-/

namespace PromptMarkup

/-- A directive in a document, which stands at a place below a directory, stays below the directory: its path is
relative, and none of its parts leads out. -/
def StaysBelow (q : Location) (a : List (String × String)) : Prop :=
  ∀ x, Directive.ofAttributes a = .ok x → (Path.ofString x.href).anchor = .here ∧
    FileSystem.descend q.dropLast (Path.ofString x.href).parts ≠ none

/-- The same failure in one directory and in another: of the same class, and with the same chain told from there. -/
structure Failure.Relocated (d d' : Location) (f f' : Failure) : Prop where
  className : f.className = f'.className
  chain : ∃ qs : List Location, f.chain = qs.map (fun q => Path.absolute (d ++ q)) ∧
    f'.chain = qs.map (fun q => Path.absolute (d' ++ q))

/-- The same reason why a file could not be read, which may be told in other words. -/
inductive Unread.SameClass : Unread → Unread → Prop where
  | cause {c c' : Cause} (h : c.category = c'.category) : SameClass (.cause c) (.cause c')
  | encoding (f : Encoding.Fault) : SameClass (.encoding f) (.encoding f)

namespace FileSystem

variable {fs fs' : FileSystem} {d d' q : Location}

/-- The same place below two directories. -/
def SamePlace (d d' l m : Location) : Prop := ∃ q, Downward q ∧ l = d ++ q ∧ m = d' ++ q

theorem exists_of_forall₂_samePlace {chain chain' : Chain} (h : List.Forall₂ (SamePlace d d') chain chain') :
    ∃ qs : List Location, chain = qs.map (d ++ ·) ∧ chain' = qs.map (d' ++ ·) := by
  induction h with
  | nil => exact ⟨[], rfl, rfl⟩
  | cons hplace _ ih =>
    obtain ⟨q, -, rfl, rfl⟩ := hplace
    obtain ⟨qs, rfl, rfl⟩ := ih
    exact ⟨q :: qs, rfl, rfl⟩

theorem relocated_of_forall₂ {chain chain' : Chain} (h : List.Forall₂ (SamePlace d d') chain chain') {f f' : Failure}
    (hclass : f.className = f'.className) (hf : f.chain = chain.paths) (hf' : f'.chain = chain'.paths) :
    f.Relocated d d' f' := by
  obtain ⟨qs, rfl, rfl⟩ := exists_of_forall₂_samePlace h
  refine ⟨hclass, qs, ?_, ?_⟩
  · rw [hf, Chain.paths, List.map_map]
    rfl
  · rw [hf', Chain.paths, List.map_map]
    rfl

theorem relocated_of_chain_eq_nil {f f' : Failure} (hclass : f.className = f'.className) (hf : f.chain = [])
    (hf' : f'.chain = []) : f.Relocated d d' f' := ⟨hclass, [], hf, hf'⟩

theorem relocated_unread {u u' : Unread} (h : u.SameClass u') {l m : Location} {chain chain' : Chain}
    (hchain : List.Forall₂ (SamePlace d d') chain chain') :
    (u.failure l chain).Relocated d d' (u'.failure m chain') := by
  cases h with
  | cause h => exact relocated_of_forall₂ hchain (congrArg FaultClass.name h) rfl rfl
  | encoding f => exact relocated_of_chain_eq_nil rfl rfl rfl

/-- The directory itself is no file. -/
theorem Linkless.hasFile_ne (h : fs.Linkless d) : fs.hasFile d ≠ .ok true := by
  intro hfile
  obtain ⟨-, l, bs, hfollow⟩ := exists_follow_of_hasFile hfile
  have hwalk := h.walk_into true maxLinks []
  rw [List.append_nil, walk, h.way d (List.prefix_refl d)] at hwalk
  cases hfollow.symm.trans hwalk

namespace Mirrors

variable (h : Mirrors fs fs' d d')
include h

/-- A file is the same document in both directories, or none in both. -/
theorem document (hq : Downward q) :
    Paired Unread.SameClass Eq (fs.document (d ++ q)) (fs'.document (d' ++ q)) := by
  have hread := h.read hq
  rw [FileSystem.document, FileSystem.document]
  generalize fs.read (Path.absolute (d ++ q)) = x, fs'.read (Path.absolute (d' ++ q)) = y at hread
  cases hread with
  | error h => exact .error (.cause rfl)
  | ok h =>
    subst h
    dsimp only
    split
    · exact .error (.cause rfl)
    · exact .error (.encoding _)
    · exact .ok rfl

/-- A file is the same text in both directories, or none in both. -/
theorem text (hq : Downward q) (encoding : String) :
    Paired Unread.SameClass Eq (fs.text (d ++ q) encoding) (fs'.text (d' ++ q) encoding) := by
  have hread := h.read hq
  rw [FileSystem.text, FileSystem.text, h.decoders]
  generalize fs.read (Path.absolute (d ++ q)) = x, fs'.read (Path.absolute (d' ++ q)) = y at hread
  cases hread with
  | error h => exact .error (.cause rfl)
  | ok h =>
    subst h
    dsimp only
    split
    · split
      · exact .error (.cause rfl)
      · exact .error (.cause rfl)
      · exact .error (.cause rfl)
      · exact .error (.encoding _)
    · exact .ok rfl

/-- A directive that stays below its directory refers to the same place in both. -/
theorem paired_target (hq : Downward q) (hne : q ≠ []) {href : String} (hhref : (Path.ofString href).anchor = .here)
    (hdescend : descend q.dropLast (Path.ofString href).parts ≠ none) :
    Paired (fun f f' => f.className = f'.className) (SamePlace d d') (fs.view.target href (d ++ q))
      (fs'.view.target href (d' ++ q)) := by
  obtain ⟨r, hr⟩ := Option.ne_none_iff_exists'.1 hdescend
  rw [h.left.target hq hne hhref hr, h.right.target hq hne hhref hr]
  split
  · exact .error rfl
  · have hparts : ∀ n ∈ (Path.ofString href).parts, n ≠ "" ∧ n ≠ "." := fun n hn =>
      ⟨(Path.isPart_of_mem_partsOf hn).ne_empty, (Path.isPart_of_mem_partsOf hn).ne_dot⟩
    exact .ok ⟨r, downward_descend hq.dropLast hparts hr, rfl, rfl⟩

/-- What corresponds below the two directories: the same places, the same directives, and failures of the same class. -/
def correspondence (hin : ∀ {q e}, Downward q → fs.hasFile (d ++ q) = .ok true → fs.document (d ++ q) = .ok e →
      ∀ a ∈ e.content.directives, StaysBelow q a) : Correspondence fs.view fs'.view where
  place := SamePlace d d'
  directive l _ a b := a = b ∧ ∃ q, q ≠ [] ∧ l = d ++ q ∧ StaysBelow q a
  fault f f' := f.className = f'.className
  failure := Failure.Relocated d d'
  place_unique := by
    rintro _ _ _ _ ⟨q, -, rfl, rfl⟩ ⟨q', -, rfl, rfl⟩
    rw [List.append_cancel_left_eq, List.append_cancel_left_eq]
  target := by
    rintro _ _ a _ ⟨q, hq, rfl, rfl⟩ ⟨rfl, q', hne, heq, hstays⟩
    obtain rfl := List.append_cancel_left heq
    cases hx : Directive.ofAttributes a with
    | error cause => exact .error rfl
    | ok x =>
      obtain ⟨hhref, hdescend⟩ := hstays x hx
      exact .ok ⟨rfl, h.paired_target hq hne hhref hdescend⟩
  hasFile := by
    rintro _ _ ⟨q, hq, rfl, rfl⟩
    exact h.hasFile hq
  document := by
    rintro _ _ chain chain' ⟨q, hq, rfl, rfl⟩ hfile hchain
    have hne : q ≠ [] := by
      rintro rfl
      rw [List.append_nil] at hfile
      exact h.left.hasFile_ne hfile
    refine ((h.document hq).mapError fun u u' hu => relocated_unread hu hchain).mono (fun _ _ => id) ?_
    rintro e _ he - rfl
    have hdocument : fs.document (d ++ q) = .ok e := Except.mapError_eq_ok.1 he
    exact Element.alike_refl fun a ha => ⟨rfl, q, hne, rfl, hin hq hfile hdocument a ha⟩
  text := by
    rintro _ _ a b _ _ encoding chain chain' - - - - ⟨r, hr, rfl, rfl⟩ hchain
    exact (h.text hr encoding).mapError fun u u' hu => relocated_unread hu hchain
  failure_files hf := relocated_of_chain_eq_nil hf rfl rfl
  failure_at cause _ hchain := relocated_of_forall₂ hchain rfl rfl rfl
  failure_unresolved _ _ hchain := relocated_of_forall₂ hchain rfl rfl rfl
  failure_circular := by
    intro chain chain' hchain
    obtain ⟨qs, rfl, rfl⟩ := exists_of_forall₂_samePlace hchain
    refine ⟨rfl, qs.dropLast, ?_, ?_⟩
    · simp [Failure.chain, Fault.circular, Chain.paths, List.map_dropLast, Function.comp_def]
    · simp [Failure.chain, Fault.circular, Chain.paths, List.map_dropLast, Function.comp_def]
  failure_name := relocated_of_chain_eq_nil rfl rfl rfl

end Mirrors

/-- A directory without links whose documents have only directives that stay below it. -/
structure SelfContained (fs : FileSystem) (d : Location) : Prop where
  directory : fs.node? d = some .directory
  noLink : ∀ q target, fs.node? (d ++ q) ≠ some (.link target)
  staysBelow : ∀ {q e}, d ++ q ∈ fs.files → fs.document (d ++ q) = .ok e → ∀ a ∈ e.content.directives, StaysBelow q a

/-- Below directories that hold the same, loads and compilations of the same document come to the same end. -/
theorem Mirrors.loadFresh (h : Mirrors fs fs' d d')
    (hin : ∀ {q e}, Downward q → fs.hasFile (d ++ q) = .ok true → fs.document (d ++ q) = .ok e →
      ∀ a ∈ e.content.directives, StaysBelow q a)
    {root root' : Path} (hq : Downward q) (hroot : fs.resolve root = .ok (d ++ q))
    (hroot' : fs'.resolve root' = .ok (d' ++ q)) :
    Paired (Failure.Relocated d d') Eq (PromptMarkup.loadFresh fs root) (PromptMarkup.loadFresh fs' root') ∧
      Paired (Failure.Relocated d d') Eq (transform fs root) (transform fs' root') := by
  have hload : Paired (Failure.Relocated d d') Eq (PromptMarkup.loadFresh fs root)
      (PromptMarkup.loadFresh fs' root') := by
    refine (h.correspondence hin).loadFresh ?_
    have hleft : fs.view.resolve root = .ok (d ++ q) := hroot
    have hright : fs'.view.resolve root' = .ok (d' ++ q) := hroot'
    rw [hleft, hright]
    exact .ok ⟨q, hq, rfl, rfl⟩
  refine ⟨hload, paired_transform hload fun f f' hf => ?_⟩
  -- A fault of the vocabulary has no chain, and gets the source that it is compiled from.
  rcases hf with ⟨hclass, qs, hchain, hchain'⟩ | hread
  · exact ⟨by simpa using hclass, qs, by simpa using hchain, by simpa using hchain'⟩
  · obtain ⟨hf, hf'⟩ := hread.chains
    exact relocated_of_chain_eq_nil (by simpa using hread.className) (by simpa using hf) (by simpa using hf')

/-- What a directory holds after it has been copied stays below it as before. -/
theorem SelfContained.staysBelow_copyTree {e : Element} (hd : fs.SelfContained d)
    (hcopy : Mirrors fs (fs.copyTree d d') d d) (hq : Downward q)
    (hfile : (fs.copyTree d d').hasFile (d ++ q) = .ok true) (he : (fs.copyTree d d').document (d ++ q) = .ok e) :
    ∀ a ∈ e.content.directives, StaysBelow q a := by
  have hfiles : d ++ q ∈ fs.files := (hcopy.files q).1 (mem_files_of_hasFile hfile)
  have hdocument := (hcopy.document hq).toOption_eq
  rw [he] at hdocument
  exact hd.staysBelow hfiles (Except.toOption_eq_some.1 hdocument)

end FileSystem

open FileSystem in
/-- A document below a directory and the same one below a copy of the directory give the same tree and the same
Markdown.  Where one of them fails, so does the other, with the same class and the same chain told from the other
directory.  The document below the directory may be loaded before the copy is made or after that. -/
theorem loadFresh_copyTree {fs g : FileSystem} {d d' q : Location} {root root' : Path} (hfs : fs.WellFormed)
    (hd : fs.SelfContained d) (hd' : fs.Vacant d') (hout : ¬ d <+: d') (hg : g = fs ∨ g = fs.copyTree d d')
    (hq : Downward q) (hroot : g.resolve root = .ok (d ++ q))
    (hroot' : (fs.copyTree d d').resolve root' = .ok (d' ++ q)) :
    Paired (Failure.Relocated d d') Eq (loadFresh g root) (loadFresh (fs.copyTree d d') root') ∧
      Paired (Failure.Relocated d d') Eq (transform g root) (transform (fs.copyTree d d') root') := by
  have hlinkless : fs.Linkless d := hfs.linkless hd.directory hd.noLink
  have hcopy : Mirrors fs (fs.copyTree d d') d d' := mirrors_copyTree hlinkless hd' hfs
  rcases hg with rfl | rfl
  · exact hcopy.loadFresh (fun _ hfile he => hd.staysBelow (mem_files_of_hasFile hfile) he) hq hroot hroot'
  · have hleft : Mirrors fs (fs.copyTree d d') d d := mirrors_copyTree_left hlinkless hd' hout
    exact (hcopy.trans hleft).loadFresh (hd.staysBelow_copyTree hleft) hq hroot hroot'

/-- A directory with a prompt that includes a document of a directory below, by a path with a detour. -/
def nestedPrompt : FileSystem where
  current := []
  nodes := [
    (["p"], .directory),
    (["p", "a.xml"], .file (Encoding.Utf8.encode
      "<prompt xmlns:xi='http://www.w3.org/2001/XInclude'><xi:include href='./x/../sub/b.xml'/></prompt>")),
    (["p", "sub"], .directory),
    (["p", "sub", "b.xml"], .file (Encoding.Utf8.encode "<rule/>"))]

namespace nestedPrompt

/-- A copy of the directory, in a directory that is made for it. -/
abbrev copied : FileSystem := nestedPrompt.copyTree ["p"] ["q", "r"]

theorem wellFormed : nestedPrompt.WellFormed := by decide

theorem wellFormed_copied : copied.WellFormed := by decide

theorem parse_prompt :
    (Xml.parse (Encoding.Utf8.encode
      "<prompt xmlns:xi='http://www.w3.org/2001/XInclude'><xi:include href='./x/../sub/b.xml'/></prompt>")).toOption =
      some ⟨"prompt", [], .element "" includeName [("href", "./x/../sub/b.xml")] (.text "") (.text "")⟩ := by
  rw [Encoding.Utf8.encode_eq_bytes]
  decide +kernel

theorem parse_rule : (Xml.parse (Encoding.Utf8.encode "<rule/>")).toOption = some ⟨"rule", [], .text ""⟩ := by
  rw [Encoding.Utf8.encode_eq_bytes]
  decide

theorem holds_prompt : nestedPrompt.Holds (Path.absolute ["p", "a.xml"]) ["p", "a.xml"]
    ⟨"prompt", [], .element "" includeName [("href", "./x/../sub/b.xml")] (.text "") (.text "")⟩ :=
  wellFormed.holds (by simp [nestedPrompt]) parse_prompt

theorem holds_rule :
    nestedPrompt.Holds (Path.absolute ["p", "sub", "b.xml"]) ["p", "sub", "b.xml"] ⟨"rule", [], .text ""⟩ :=
  wellFormed.holds (by simp [nestedPrompt]) parse_rule

theorem selfContained : nestedPrompt.SelfContained ["p"] where
  directory := rfl
  noLink := by
    intro q target hq
    have hmem : (["p"] ++ q, Node.link target) ∈ nestedPrompt.nodes := FileSystem.mem_of_node? (by simp) hq
    simp [nestedPrompt] at hmem
  staysBelow := by
    intro q e hq he a ha
    have hq : q = ["a.xml"] ∨ q = ["sub", "b.xml"] := by
      simpa [nestedPrompt, FileSystem.files] using hq
    rcases hq with rfl | rfl
    · obtain rfl := Except.ok.inj (he.symm.trans holds_prompt.document)
      obtain rfl : a = [("href", "./x/../sub/b.xml")] := List.mem_singleton.1 ha
      intro x hx
      obtain rfl : x = ⟨"./x/../sub/b.xml", .elements⟩ := by
        have hread : Directive.ofAttributes [("href", "./x/../sub/b.xml")] = .ok ⟨"./x/../sub/b.xml", .elements⟩ := by
          decide
        exact Except.ok.inj (hx.symm.trans hread)
      decide
    · obtain rfl := Except.ok.inj (he.symm.trans holds_rule.document)
      cases ha

theorem vacant : nestedPrompt.Vacant ["q", "r"] where
  absent := rfl
  plain := by decide
  way := by
    intro p hp
    have hp : p = [] ∨ p = ["q"] ∨ p = ["q", "r"] := by simpa using (List.mem_inits p _).2 hp
    rcases hp with rfl | rfl | rfl
    · exact .inr rfl
    · exact .inl rfl
    · exact .inl rfl

theorem loadFresh_prompt :
    loadFresh nestedPrompt (Path.absolute ["p", "a.xml"]) =
      .ok ⟨"prompt", [], .ofElement ⟨"rule", [], .text ""⟩⟩ := by
  have hlinkless := wellFormed.linkless selfContained.directory selfContained.noLink
  have htarget : nestedPrompt.view.target "./x/../sub/b.xml" ["p", "a.xml"] = .ok ["p", "sub", "b.xml"] :=
    hlinkless.target (q := ["a.xml"]) (r := ["sub", "b.xml"]) (by decide) (by decide) (by decide) (by decide)
  have hlead : nestedPrompt.view.Leads ["p", "a.xml"] [("href", "./x/../sub/b.xml")] .elements ["p", "sub", "b.xml"] :=
    ⟨⟨"./x/../sub/b.xml", .elements⟩, by decide, rfl, htarget⟩
  rw [loadFresh_of_only_directive holds_prompt.resolve holds_prompt.hasFile holds_prompt.document hlead (by decide)
    holds_rule.hasFile holds_rule.document rfl]
  decide

end nestedPrompt

open nestedPrompt in
/-- The prompt of a copied directory is loaded as the tree that the prompt of the directory is loaded as. -/
theorem loadFresh_nestedPrompt_copied :
    nestedPrompt.WellFormed ∧ nestedPrompt.SelfContained ["p"] ∧ nestedPrompt.Vacant ["q", "r"] ∧
      ¬ ["p"] <+: ["q", "r"] ∧ FileSystem.Downward ["a.xml"] ∧
      nestedPrompt.resolve (Path.absolute ["p", "a.xml"]) = .ok ["p", "a.xml"] ∧
      copied.resolve (Path.absolute ["q", "r", "a.xml"]) = .ok ["q", "r", "a.xml"] ∧
      loadFresh copied (Path.absolute ["q", "r", "a.xml"]) = .ok ⟨"prompt", [], .ofElement ⟨"rule", [], .text ""⟩⟩ ∧
      Paired (Failure.Relocated ["p"] ["q", "r"]) Eq (transform nestedPrompt (Path.absolute ["p", "a.xml"]))
        (transform copied (Path.absolute ["q", "r", "a.xml"])) := by
  have hcopied : copied.resolve (Path.absolute ["q", "r", "a.xml"]) = .ok ["q", "r", "a.xml"] :=
    (wellFormed_copied.holds (by decide) parse_prompt).resolve
  obtain ⟨hload, htransform⟩ := loadFresh_copyTree (q := ["a.xml"]) wellFormed selfContained vacant (by decide)
    (.inl rfl) (by decide) holds_prompt.resolve hcopied
  refine ⟨wellFormed, selfContained, vacant, by decide, by decide, holds_prompt.resolve, hcopied, ?_, htransform⟩
  have hsame := hload.toOption_eq
  rw [loadFresh_prompt] at hsame
  exact Except.toOption_eq_some.1 hsame.symm

end PromptMarkup
