import PromptMarkup.Proofs.Document.Whereabouts
import PromptMarkup.Proofs.Files.Relocated
import PromptMarkup.Proofs.Files.Rewritten
import PromptMarkup.Proofs.Inclusion.Remaining
import PromptMarkup.Proofs.Inclusion.Session
import PromptMarkup.Proofs.Inclusion.Simulation

/-!
# What counts of a directive

A directive counts by what it refers to: the location that its path leads to, whatever the path is, and the elements or
the text in an encoding that it asks for.  Neither the other attributes nor what stands inside it matters.  The main
result: files whose documents differ only in this way are loaded and compiled alike, from any path that leads to the
root document (`loadFresh_eq_of_meansSame`).  The root element of a document is no directive in this sense, since it is
not looked at, so it has to be the same (`loadFresh_directiveInRoot_ne`).
-/

namespace PromptMarkup

/-- Attributes that mean the same in a document: directives that refer to the same location and ask for the same, or
none for the same reason. -/
def View.SameMeaning (v : View) (l : Location) (a b : List (String × String)) : Prop :=
  Paired Eq (fun x y => x.mode = y.mode ∧ v.target x.href l = v.target y.href l)
    (Directive.ofAttributes a) (Directive.ofAttributes b)

theorem View.sameMeaning_refl (v : View) (l : Location) (a : List (String × String)) : v.SameMeaning l a a := by
  rw [SameMeaning]
  cases Directive.ofAttributes a with
  | error cause => exact .error rfl
  | ok d => exact .ok ⟨rfl, rfl⟩

namespace FileSystem

variable {fs fs' : FileSystem} {ls : List Location}

/-- Files and links are the same, but for the contents of some files.  A file whose document is not as it was has one
that differs only inside directives, and these mean the same.  A file with other contents is none that a document
includes as a text. -/
structure MeansSame (fs fs' : FileSystem) (ls : List Location) : Prop where
  rewritten : Rewritten fs fs' ls
  documents : ∀ {l}, fs.hasFile l = .ok true → fs'.document l = fs.document l ∨
    ∃ e e', fs.document l = .ok e ∧ fs'.document l = .ok e' ∧ e.Alike (fs.view.SameMeaning l) e'
  texts : ∀ {l t encoding k}, fs.hasFile l = .ok true → fs.view.IncludesText l t encoding →
    fs.LeadsTo (Path.absolute t) k → k ∉ ls

namespace MeansSame

/-- Attributes of a directive of a document correspond to those that mean the same. -/
def Corresponds (fs : FileSystem) (l m : Location) (a b : List (String × String)) : Prop :=
  l = m ∧ fs.hasFile l = .ok true ∧ (∃ e, fs.document l = .ok e ∧ a ∈ e.content.directives) ∧
    fs.view.SameMeaning l a b

variable (h : MeansSame fs fs' ls)
include h

theorem target (href : String) (l : Location) : fs'.view.target href l = fs.view.target href l :=
  h.rewritten.resolve _

/-- The documents of a file are alike. -/
theorem paired_document {l : Location} (hl : fs.hasFile l = .ok true) (chain : Chain) :
    Paired Eq (Element.Alike (Corresponds fs l l)) (fs.view.readDocument l chain) (fs'.view.readDocument l chain) := by
  have hcorresponds {e : Element} (he : fs.document l = .ok e) :
      ∀ a ∈ e.content.directives, ∀ b, fs.view.SameMeaning l a b → Corresponds fs l l a b :=
    fun a ha b hab => ⟨rfl, hl, ⟨e, he, ha⟩, hab⟩
  rcases h.documents hl with hsame | ⟨e, e', he, he', halike⟩
  · have hread : fs'.view.readDocument l chain = fs.view.readDocument l chain := by
      rw [View.readDocument, View.readDocument]
      exact congrArg _ hsame
    rw [hread]
    cases hd : fs.view.readDocument l chain with
    | error f => exact .error rfl
    | ok e =>
      have he : fs.document l = .ok e := View.readDocument_eq_ok.1 hd
      exact .ok (Element.alike_refl fun a ha => hcorresponds he a ha a (View.sameMeaning_refl _ l a))
  · rw [View.readDocument_eq_ok.2 he, View.readDocument_eq_ok.2 he']
    exact .ok (halike.mono (hcorresponds he))

/-- A text that is included is the same. -/
theorem text {l t : Location} {encoding : String} (hl : fs.hasFile l = .ok true)
    (ht : fs.view.IncludesText l t encoding) : fs'.text t encoding = fs.text t encoding :=
  text_congr h.rewritten.decoders (h.rewritten.read fun _ hk => h.texts hl ht hk) encoding

/-- Places and failures correspond to themselves, and directives to those that mean the same. -/
def correspondence : Correspondence fs.view fs'.view where
  place := Eq
  directive := Corresponds fs
  fault := Eq
  failure := Eq
  place_unique := by
    rintro l _ l' _ rfl rfl
    exact Iff.rfl
  target := by
    rintro l _ a b rfl ⟨-, -, -, hab⟩
    refine hab.mono (fun _ _ => id) fun x y _ _ hxy => ⟨hxy.1, ?_⟩
    rw [h.target, hxy.2]
    exact .refl fun _ _ => rfl
  hasFile := by
    rintro l _ rfl
    have hfile : fs'.view.hasFile l = fs.view.hasFile l := h.rewritten.hasFile l
    rw [hfile]
    exact .refl fun _ _ => rfl
  document := by
    rintro l _ chain chain' rfl hl hchain
    rw [List.forall₂_eq_eq_eq] at hchain
    subst hchain
    exact h.paired_document hl chain
  text := by
    rintro l _ a b t _ encoding chain chain' rfl ⟨-, hl, ⟨e, he, ha⟩, -⟩ ht - rfl hchain
    rw [List.forall₂_eq_eq_eq] at hchain
    subst hchain
    have hread : fs'.view.readText t encoding chain = fs.view.readText t encoding chain := by
      rw [View.readText, View.readText]
      exact congrArg _ (h.text hl ⟨e, he, a, ha, ht⟩)
    rw [hread]
    exact .refl fun _ _ => rfl
  failure_files := by
    rintro f _ rfl
    rfl
  failure_at := by
    rintro l _ chain chain' cause rfl hchain
    rw [List.forall₂_eq_eq_eq] at hchain
    rw [hchain]
  failure_unresolved := by
    rintro l _ t _ chain chain' rfl rfl hchain
    rw [List.forall₂_eq_eq_eq] at hchain
    rw [hchain]
  failure_circular := by
    rintro chain chain' hchain
    rw [List.forall₂_eq_eq_eq] at hchain
    rw [hchain]
  failure_name := rfl

end MeansSame

end FileSystem

/-- Files whose documents differ only inside directives that mean the same are loaded alike from any two paths to the
root document: there is the same tree, or the same failure with the same chain.  Compiled they give the same Markdown,
or none. -/
theorem loadFresh_eq_of_meansSame {fs fs' : FileSystem} {ls : List Location} (h : fs.MeansSame fs' ls)
    {root root' : Path} (hroot : fs.resolve root = fs.resolve root') :
    loadFresh fs root = loadFresh fs' root' ∧ (transform fs root).toOption = (transform fs' root').toOption := by
  have hresolve : fs'.view.resolve root' = fs.view.resolve root := (h.rewritten.resolve root').trans hroot.symm
  have hload : Paired Eq Eq (loadFresh fs root) (loadFresh fs' root') := by
    refine h.correspondence.loadFresh ?_
    rw [hresolve]
    exact .refl fun _ _ => rfl
  have htransform : Paired (fun _ _ => True) Eq (transform fs root) (transform fs' root') :=
    paired_transform hload fun _ _ _ => trivial
  exact ⟨hload.eq, htransform.toOption_eq⟩

/-! ### A directive that is written in another way -/

/-- The prompt that includes a document, the directive being written in another way: the path takes a detour, and there
is a note with another directive inside. -/
def rewrittenDirective : FileSystem :=
  includingPrompt.put ["a.xml"] (.file (Encoding.Utf8.encode
    ("<prompt xmlns:xi='http://www.w3.org/2001/XInclude'><xi:include href=' .//b.xml ' note='1'>"
      ++ "see <xi:include href='c.xml'/></xi:include></prompt>")))

namespace rewrittenDirective

theorem sameMeaning :
    includingPrompt.view.SameMeaning ["a.xml"] [("href", "b.xml")] [("href", " .//b.xml "), ("note", "1")] := by
  have ha : Directive.ofAttributes [("href", "b.xml")] = .ok ⟨"b.xml", .elements⟩ := by decide
  have hb : Directive.ofAttributes [("href", " .//b.xml "), ("note", "1")] = .ok ⟨".//b.xml", .elements⟩ := by decide
  have hpath : Path.ofString "b.xml" = Path.ofString ".//b.xml" := by decide
  rw [View.SameMeaning, ha, hb]
  refine .ok ⟨rfl, ?_⟩
  rw [View.target, View.target, Path.child, Path.child, hpath]

/-- No document of the prompt includes a text. -/
theorem not_includesText {l t : Location} {encoding : String} : ¬ includingPrompt.view.IncludesText l t encoding := by
  intro ht
  obtain ⟨e, he, hmem⟩ := ht.exists_document
  have hnone : ∀ e ∈ includingPrompt.documents, e.content.textEncodings = [] := by
    simp only [includingPrompt, Encoding.Utf8.encode_eq_bytes]
    decide
  rw [hnone e (FileSystem.mem_documents he)] at hmem
  cases hmem

theorem meansSame : includingPrompt.MeansSame rewrittenDirective [["a.xml"]] where
  rewritten := FileSystem.rewritten_put rfl _
  documents := by
    intro l hl
    have hl : l ∈ [["a.xml"], ["b.xml"]] := FileSystem.mem_files_of_hasFile hl
    rcases List.mem_cons.1 hl with rfl | hl
    · refine .inr ⟨⟨"prompt", [], .element "" includeName [("href", "b.xml")] (.text "") (.text "")⟩,
        ⟨"prompt", [], .element "" includeName [("href", " .//b.xml "), ("note", "1")]
          (.element "see " includeName [("href", "c.xml")] (.text "") (.text "")) (.text "")⟩, ?_, ?_, ?_⟩
      · exact FileSystem.document_top (by decide) rfl (by rw [Encoding.Utf8.encode_eq_bytes]; decide)
      · exact FileSystem.document_top (by decide) rfl (by rw [Encoding.Utf8.encode_eq_bytes]; decide +kernel)
      · exact ⟨rfl, rfl, .directive "" sameMeaning _ _ (.text "")⟩
    · obtain rfl := List.mem_singleton.1 hl
      have hb : (Xml.parse (Encoding.Utf8.encode "<rule/>")).toOption = some ⟨"rule", [], .text ""⟩ := by
        rw [Encoding.Utf8.encode_eq_bytes]
        decide
      have hbefore : includingPrompt.document ["b.xml"] = .ok ⟨"rule", [], .text ""⟩ :=
        FileSystem.document_top (by decide) rfl hb
      have hafter : rewrittenDirective.document ["b.xml"] = .ok ⟨"rule", [], .text ""⟩ :=
        FileSystem.document_top (by decide) rfl hb
      exact .inl (hafter.trans hbefore.symm)
  texts _ ht := absurd ht not_includesText

theorem resolve_detour :
    includingPrompt.resolve (Path.absolute ["a.xml"]) = includingPrompt.resolve (Path.ofString "./x/../a.xml") := by
  have hpath : Path.ofString "./x/../a.xml" = ⟨.here, ["x", "..", "a.xml"]⟩ := by decide
  have hnoLink : ∀ q target, includingPrompt.node? ([] ++ q) ≠ some (.link target) := by
    intro q target hq
    by_cases hne : q = []
    · rw [hne] at hq
      cases hq
    · have hmem : (q, Node.link target) ∈ includingPrompt.nodes := FileSystem.mem_of_node? hne hq
      simp [includingPrompt] at hmem
  have hwellFormed : includingPrompt.WellFormed := by decide
  have hlinkless : includingPrompt.Linkless [] := hwellFormed.linkless rfl hnoLink
  have hdescend : FileSystem.descend [] ["x", "..", "a.xml"] = some ["a.xml"] := by decide
  rw [hpath, FileSystem.resolve_here rfl, FileSystem.resolve_top (by decide) rfl]
  exact (hlinkless.resolve_append (by decide) hdescend).symm

end rewrittenDirective

/-- Written in another way the directive is loaded as before, and the root document may be named with a detour. -/
theorem loadFresh_rewrittenDirective :
    includingPrompt.MeansSame rewrittenDirective [["a.xml"]] ∧
      includingPrompt.resolve (Path.absolute ["a.xml"]) = includingPrompt.resolve (Path.ofString "./x/../a.xml") ∧
      loadFresh rewrittenDirective (Path.ofString "./x/../a.xml") =
        .ok ⟨"prompt", [], .ofElement ⟨"rule", [], .text ""⟩⟩ ∧
      (transform includingPrompt (Path.absolute ["a.xml"])).toOption =
        (transform rewrittenDirective (Path.ofString "./x/../a.xml")).toOption := by
  have hsame := loadFresh_eq_of_meansSame rewrittenDirective.meansSame rewrittenDirective.resolve_detour
  rw [includingPrompt.load_prompt] at hsame
  exact ⟨rewrittenDirective.meansSame, rewrittenDirective.resolve_detour, hsame.1.symm, hsame.2⟩

/-! ### A directive as a root element -/

/-- The prompt that is nothing but a directive, with another directive inside. -/
def directiveInRoot : FileSystem :=
  directiveAsRoot.put ["a.xml"] (.file (Encoding.Utf8.encode
    ("<xi:include xmlns:xi='http://www.w3.org/2001/XInclude' href='b.xml'>"
      ++ "<xi:include href='b.xml'/></xi:include>")))

namespace directiveInRoot

/-- The root element of the prompt, with what stands inside. -/
def prompt (content : Content) : Element := ⟨includeName, [("href", "b.xml")], content⟩

theorem holds_prompt : directiveInRoot.Holds (Path.absolute ["a.xml"]) ["a.xml"]
    (prompt (.element "" includeName [("href", "b.xml")] (.text "") (.text ""))) :=
  FileSystem.holds_top (by decide) rfl (by rw [Encoding.Utf8.encode_eq_bytes]; decide +kernel)

theorem load_prompt :
    loadFresh directiveInRoot (Path.absolute ["a.xml"]) = .ok (prompt (.ofElement ⟨"prompt", [], .text ""⟩)) := by
  have hlead : directiveInRoot.view.Leads ["a.xml"] [("href", "b.xml")] .elements ["b.xml"] :=
    ⟨⟨"b.xml", .elements⟩, by decide, rfl, FileSystem.target_top (by decide) rfl (by decide)⟩
  have hdocument : directiveInRoot.document ["b.xml"] = .ok ⟨"prompt", [], .text ""⟩ :=
    FileSystem.document_top (by decide) rfl (by rw [Encoding.Utf8.encode_eq_bytes]; decide)
  rw [loadFresh_of_only_directive holds_prompt.resolve holds_prompt.hasFile holds_prompt.document hlead (by decide)
    (FileSystem.hasFile_top (by decide) rfl) hdocument rfl]
  decide

end directiveInRoot

/-- A directive inside a directive is acted on where the outer one is the root element: the prompt is the same but for
what stands inside its one directive, and it is loaded as another tree. -/
theorem loadFresh_directiveInRoot_ne :
    FileSystem.Rewritten directiveAsRoot directiveInRoot [["a.xml"]] ∧
      (∃ e e', directiveAsRoot.document ["a.xml"] = .ok e ∧ directiveInRoot.document ["a.xml"] = .ok e' ∧
        e.name = includeName ∧ e'.name = includeName ∧ e'.attributes = e.attributes) ∧
      loadFresh directiveAsRoot (Path.absolute ["a.xml"]) ≠ loadFresh directiveInRoot (Path.absolute ["a.xml"]) := by
  have hn : FileSystem.Plain "a.xml" := by decide
  have hbefore : directiveAsRoot.document ["a.xml"] = .ok (directiveInRoot.prompt (.text "")) :=
    FileSystem.document_top hn rfl (by rw [Encoding.Utf8.encode_eq_bytes]; decide)
  refine ⟨FileSystem.rewritten_put rfl _, ⟨_, _, hbefore, directiveInRoot.holds_prompt.document, rfl, rfl, rfl⟩, ?_⟩
  rw [loadFresh_directiveAsRoot, directiveInRoot.load_prompt]
  decide

end PromptMarkup
