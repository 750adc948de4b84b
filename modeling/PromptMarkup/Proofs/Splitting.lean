import PromptMarkup.Compile
import PromptMarkup.Proofs.Document.ContentArea
import PromptMarkup.Proofs.Inclusion.Cycles
import PromptMarkup.Proofs.Inclusion.Outline

/-!
# Splitting a document into fragments

A prompt may be written in one document, or its sections may be distributed over files that it includes.  Either way it
loads as the same document and compiles to the same Markdown (`transform_eq_of_distributes`).  The two loads track each
other: outside the content area they do the same, and in it both come to the same sections.
-/

namespace PromptMarkup

/-- One prompt written twice at the same place: in `whole` its sections stand in the content area of the one document,
in `parts` an outline distributes them over the document and other files.  What directives outside the content area lead
to is the same in both. -/
structure Distributes (whole parts : FileSystem) (source : Path) (l : Location) (f : Shell) (c : Content)
    (o : Outline) : Prop where
  holdsWhole : whole.Holds source l (f.fill c)
  holdsParts : parts.Holds source l (f.fill o.written)
  area : localName? f.area = some "content"
  sections : ∀ s ∈ o.sections, s.IsWhole
  elements : c.elements = o.sections
  stored : o.Stored parts l
  distinct : (l :: o.files).Nodup
  outside : parts.view.LooksSame whole l f.outside

/-- Two trees are the same but for what stands between the elements of the content area. -/
def SameSections (e e' : Element) : Prop :=
  ∃ (f : Shell) (c c' : Content), localName? f.area = some "content" ∧ c.elements = c'.elements ∧
    e = f.fill c ∧ e' = f.fill c'

namespace Loading

variable {v w : View}

/-- Documents at one place that are different are read each as it is. -/
theorem tracks_documents {l : Location} {e e' : Element} (he : v.document l = .ok e) (he' : w.document l = .ok e')
    (chain : Chain) :
    Tracks v w (fun x y => x = e ∧ y = e') (document v l chain) (document w l chain) := by
  intro c d hcd
  obtain ⟨hx, hc, htc⟩ := outcome_document_of_truthful hcd.left l chain
  obtain ⟨hy, hd, htd⟩ := outcome_document_of_truthful hcd.right l chain
  refine ⟨?_, hc, hd, fun t => ?_⟩
  · rw [hx, hy, View.readDocument_eq_ok.2 he, View.readDocument_eq_ok.2 he']
    exact .ok ⟨rfl, rfl⟩
  · rw [htc, htd, hcd.texts]

/-- The visits of two root elements with one shell track each other if those of their content areas do. -/
theorem tracks_compose_fill {l : Location} {f : Shell} (hf : localName? f.area = some "content") {c d : Content}
    (hs : v.LooksSame w l f.outside)
    (harea : Tracks v w (fun x y => x.elements = y.elements) (compose v l [l] c) (compose w l [l] d)) :
    Tracks v w (fun x y => SameSections { f.fill c with content := x } { f.fill d with content := y })
      (compose v l [l] (f.fill c).content) (compose w l [l] (f.fill d).content) := by
  have hn : f.area ≠ includeName := by
    intro h
    rw [h, show localName? includeName = some "include" by decide] at hf
    exact absurd hf (by decide)
  have hmet {b : List (String × String)} (hb : b ∈ f.outside.directives) : v.Meets l f.outside l b := .here hb
  have hfront := tracks_compose hs.foundSame l [l] f.front (fun b hb => hmet (by simp [Shell.outside, hb])) (by simp)
  have hback := tracks_compose hs.foundSame l [l] f.back (fun b hb => hmet (by simp [Shell.outside, hb])) (by simp)
  simp only [Shell.fill, compose_append, compose_element _ l [l] hn]
  refine hfront.bind fun front front' h => ?_
  subst h
  simp only [bind_assoc]
  refine harea.bind fun x y hxy => hback.bind fun back back' h => ?_
  subst h
  exact tracks_pure ⟨{ f with front, back }, x, y, hf, hxy, rfl, rfl⟩

end Loading

/-- Loading a document that is distributed over files gives the tree of the whole document, but for what stands between
the elements of the content area. -/
theorem Distributes.matching_load {whole parts : FileSystem} {source : Path} {l : Location} {f : Shell} {c : Content}
    {o : Outline} (h : Distributes whole parts source l f c o) :
    Matching SameSections (loadFresh parts source) (loadFresh whole source) := by
  have hsections : ∀ s ∈ c.elements, includeName ∉ s.names := by
    rw [h.elements]
    exact fun s hs => (h.sections s hs).names
  have hlone : ∀ m ∈ o.files, m ∉ [l] := by
    intro m hm hml
    obtain rfl : m = l := by simpa using hml
    exact (List.nodup_cons.1 h.distinct).1 hm
  -- In its own area the split document comes to the sections of the outline, and the whole one has them already.
  have harea : Loading.Tracks parts whole (fun x y => x.elements = y.elements) (Loading.compose parts l [l] o.written)
      (Loading.compose whole l [l] c) := by
    rw [Loading.compose_of_directives_eq_nil _ l [l] (Content.directives_eq_nil_of_elements hsections)]
    refine (Loading.gives_compose_written FileSystem.isSome_localName?_of_document o h.stored h.sections hlone
      (List.nodup_cons.1 h.distinct).2).tracks fun x hx => ?_
    rw [hx, h.elements]
  have hload : Loading.Tracks parts whole SameSections (load parts source) (load whole source) := by
    have hresolve : parts.view.resolve source = .ok l := h.holdsParts.resolve
    have hresolve' : whole.view.resolve source = .ok l := h.holdsWhole.resolve
    have hfile : parts.view.hasFile l = .ok true := h.holdsParts.hasFile
    have hfile' : whole.view.hasFile l = .ok true := h.holdsWhole.hasFile
    rw [Loading.load_eq, Loading.load_eq, hresolve, hresolve']
    refine (Loading.tracks_lift (r := fun m m' => m = l ∧ m' = l) (.ok ⟨rfl, rfl⟩)).bind ?_
    rintro _ _ ⟨rfl, rfl⟩
    rw [hfile, hfile']
    refine (Loading.tracks_lift (r := fun b b' => b = true ∧ b' = true) (.ok ⟨rfl, rfl⟩)).bind ?_
    rintro _ _ ⟨rfl, rfl⟩
    simp only [if_true]
    refine (Loading.tracks_documents h.holdsParts.document h.holdsWhole.document _).bind ?_
    rintro _ _ ⟨rfl, rfl⟩
    exact (Loading.tracks_compose_fill h.area h.outside harea).bind fun x y hxy => Loading.tracks_pure hxy
  exact (hload {} {} (Cache.alike_empty _ _)).1

/-- A document and its distribution over files are read as the same document, with the same faults, and compile to the
same Markdown. -/
theorem transform_eq_of_distributes {whole parts : FileSystem} {source : Path} {l : Location} {f : Shell} {c : Content}
    {o : Outline} (h : Distributes whole parts source l f c o) :
    loadDocument parts source = loadDocument whole source ∧ transform parts source = transform whole source := by
  have hdocument : loadDocument parts source = loadDocument whole source := by
    have hm := h.matching_load
    rw [loadDocument, loadDocument]
    revert hm
    cases loadFresh parts source <;> cases loadFresh whole source <;> intro hm
    · cases hm
      rfl
    · cases hm
    · cases hm
    · obtain ⟨f', x, y, hf, hxy, rfl, rfl⟩ | _ := hm
      exact Document.ofTree_fill_congr hf hxy (some source)
  exact ⟨hdocument, by rw [transform, transform, hdocument]⟩

/-! ### A prompt in three files -/

/-- A prompt with three sections, in one document. -/
def undividedPrompt : FileSystem where
  current := []
  nodes := [
    (["a.xml"], .file (Encoding.Utf8.encode
      ("<prompt><metadata/><header><title>T</title></header><content><questions><title>Q</title></questions>"
        ++ "<workflow><title>W</title></workflow><instructions><title>I</title></instructions></content></prompt>")))]

/-- The prompt in parts: one section in the document, one in a fragment, and one in a file that the fragment
includes. -/
def dividedPrompt : FileSystem where
  current := []
  nodes := [
    (["a.xml"], .file (Encoding.Utf8.encode
      ("<prompt><metadata/><header><title>T</title></header><content>first: "
        ++ "<include xmlns='http://www.w3.org/2001/XInclude' href='f.xml'/> last: "
        ++ "<instructions><title>I</title></instructions></content></prompt>"))),
    (["f.xml"], .file (Encoding.Utf8.encode
      ("<fragment><questions><title>Q</title></questions> and "
        ++ "<include xmlns='http://www.w3.org/2001/XInclude' href='w.xml'/></fragment>"))),
    (["w.xml"], .file (Encoding.Utf8.encode "<workflow><title>W</title></workflow>"))]

namespace dividedPrompt

/-- A section that only has a title. -/
def titled (name title : String) : Element := ⟨name, [], .element "" "title" [] (.text title) (.text "")⟩

/-- What the prompt has around its content area. -/
def shell : Shell where
  name := "prompt"
  front := .element "" "metadata" [] (.text "") (.element "" "header" [] (titled "" "T").content (.text ""))
  area := "content"
  back := .text ""

/-- The three sections next to each other. -/
def area : Content :=
  .ofElement (titled "questions" "Q") ++ .ofElement (titled "workflow" "W") ++ .ofElement (titled "instructions" "I")

/-- Where the sections stand in the prompt in parts. -/
def outline : Outline :=
  .fragment "first: " [("href", "f.xml")] (.text "") ["f.xml"] "fragment" []
    (.here "" (titled "questions" "Q")
      (.single " and " [("href", "w.xml")] (.text "") ["w.xml"] (titled "workflow" "W") (.done "")))
    (.here " last: " (titled "instructions" "I") (.done ""))

theorem leads {n m : String} {bs : List UInt8} (hn : FileSystem.Plain n)
    (h : dividedPrompt.node? [n] = some (.file bs)) (hp : Path.ofString n = ⟨.here, [n]⟩)
    (hd : Directive.ofAttributes [("href", n)] = .ok ⟨n, .elements⟩) :
    dividedPrompt.view.Leads [m] [("href", n)] .elements [n] :=
  ⟨⟨n, .elements⟩, hd, rfl, FileSystem.target_top hn h hp⟩

theorem stored : outline.Stored dividedPrompt ["a.xml"] :=
  ⟨leads (by decide) rfl (by decide) (Except.toOption_eq_some.1 (by decide)),
    FileSystem.hasFile_top (by decide) rfl, by decide,
    FileSystem.document_top (by decide) rfl (by rw [Encoding.Utf8.encode_eq_bytes]; decide +kernel),
    ⟨leads (by decide) rfl (by decide) (Except.toOption_eq_some.1 (by decide)),
      FileSystem.hasFile_top (by decide) rfl,
      FileSystem.document_top (by decide) rfl (by rw [Encoding.Utf8.encode_eq_bytes]; decide), trivial⟩,
    trivial⟩

theorem distributes :
    Distributes undividedPrompt dividedPrompt (Path.absolute ["a.xml"]) ["a.xml"] shell area outline where
  holdsWhole := FileSystem.holds_top (by decide) rfl (by rw [Encoding.Utf8.encode_eq_bytes]; decide +kernel)
  holdsParts := FileSystem.holds_top (by decide) rfl (by rw [Encoding.Utf8.encode_eq_bytes]; decide +kernel)
  area := by decide
  sections := by
    intro s hs
    obtain rfl | rfl | rfl : s = titled "questions" "Q" ∨ s = titled "workflow" "W" ∨
        s = titled "instructions" "I" := by simpa [outline, Outline.sections] using hs
    all_goals exact ⟨by decide, by decide⟩
  elements := rfl
  stored := stored
  distinct := by decide
  outside := View.looksSame_of_directives_eq_nil (by decide)

end dividedPrompt

theorem transform_dividedPrompt :
    loadDocument dividedPrompt (Path.absolute ["a.xml"]) = loadDocument undividedPrompt (Path.absolute ["a.xml"]) ∧
      transform dividedPrompt (Path.absolute ["a.xml"]) = transform undividedPrompt (Path.absolute ["a.xml"]) :=
  transform_eq_of_distributes dividedPrompt.distributes

end PromptMarkup
