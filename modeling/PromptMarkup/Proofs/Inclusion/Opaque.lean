import PromptMarkup.Proofs.Files.Rewritten
import PromptMarkup.Proofs.Inclusion.Lookups
import PromptMarkup.Proofs.Inclusion.Skeleton

/-!
# Included texts are opaque

What stands in a file that is included as a text shows only in the texts of a loaded tree: whatever it is, markup and
directives among it, the elements, their attributes and their order are the same (`loadFresh_rewritten`).  With all
texts empty the two loads find the same, and what they load then is the skeleton of what they load otherwise.
-/

namespace PromptMarkup

namespace View

variable {v : View} {root : Path} {l t : Location}

theorem exists_document_of_skeleton {e : Element} (h : v.skeleton.document l = .ok e) :
    ∃ f, v.document l = .ok f ∧ f.skeleton = e := Except.map_eq_ok.1 h

/-- Without texts a document includes the same documents. -/
theorem includes_of_skeleton (h : v.skeleton.Includes l t) : v.Includes l t := by
  obtain ⟨e, he, a, ha, ht⟩ := h
  obtain ⟨f, hf, rfl⟩ := exists_document_of_skeleton he
  exact ⟨f, hf, a, by rwa [Element.directives_skeleton] at ha, ht⟩

theorem reaches_of_skeleton (h : v.skeleton.Reaches root t) : v.Reaches root t := by
  obtain ⟨l, hl, hreach⟩ := h
  exact ⟨l, hl, hreach.lift id fun _ _ => includes_of_skeleton⟩

/-- A directive met without texts is one of a document that the root document reaches. -/
theorem Meets.exists_document_of_skeleton {e : Element} (hr : v.resolve root = .ok l)
    (he : v.skeleton.document l = .ok e) {k : Location} {a : List (String × String)}
    (h : v.skeleton.Meets l e.content k a) :
    ∃ f, v.Reaches root k ∧ v.document k = .ok f ∧ a ∈ f.content.directives := by
  obtain ⟨g, hk, hg, ha⟩ := Meets.exists_document (v := v.skeleton) hr he h
  obtain ⟨f, hf, rfl⟩ := View.exists_document_of_skeleton hg
  exact ⟨f, reaches_of_skeleton hk, hf, by rwa [Element.directives_skeleton] at ha⟩

end View

namespace FileSystem

variable {fs fs' : FileSystem} {ls : List Location} {root : Path} {l t : Location} {e : Element}

/-- The files with other contents are none that are read as documents, and where one of them is included as a text it
can be read so before and after. -/
structure TextsOnly (fs fs' : FileSystem) (ls : List Location) (root : Path) : Prop where
  rewritten : Rewritten fs fs' ls
  documents : ∀ {t l}, fs.view.Reaches root t → fs.LeadsTo (Path.absolute t) l → l ∉ ls
  texts : ∀ {k t l encoding}, fs.view.Reaches root k → fs.view.IncludesText k t encoding →
    fs.LeadsTo (Path.absolute t) l → l ∈ ls →
      (∃ s, fs.text t encoding = .ok s) ∧ ∃ s, fs'.text t encoding = .ok s

namespace TextsOnly

variable (h : TextsOnly fs fs' ls root)
include h

/-- The documents that the root document reaches are the same. -/
theorem document (ht : fs.view.Reaches root t) : fs'.document t = fs.document t :=
  document_congr (h.rewritten.read fun _ hl => h.documents ht hl)

/-- A text that is included is the same, or there is one before and after. -/
theorem text {k : Location} {encoding : String} (hk : fs.view.Reaches root k)
    (ht : fs.view.IncludesText k t encoding) :
    fs.view.skeleton.text t encoding = fs'.view.skeleton.text t encoding := by
  obtain hsame | ⟨l, hl, hlead, -⟩ := h.rewritten.follow (Path.absolute t)
  · exact congrArg ((fun _ => "") <$> ·) (text_congr h.rewritten.decoders (read_congr hsame) encoding).symm
  · obtain ⟨⟨s, hs⟩, s', hs'⟩ := h.texts hk ht hlead hl
    have hbefore : fs.view.skeleton.text t encoding = .ok "" := Except.map_eq_ok.2 ⟨s, hs, rfl⟩
    have hafter : fs'.view.skeleton.text t encoding = .ok "" := Except.map_eq_ok.2 ⟨s', hs', rfl⟩
    rw [hbefore, hafter]

/-- Without texts the two loads find the same. -/
theorem foundSame (hr : fs.resolve root = .ok l) (he : fs.view.skeleton.document l = .ok e) :
    fs.view.skeleton.FoundSame fs'.view.skeleton l e.content where
  target _ _ := (h.rewritten.resolve _).symm
  hasFile _ _ := (h.rewritten.hasFile _).symm
  text hm ht _ := by
    obtain ⟨f, hk, hf, ha⟩ := hm.exists_document_of_skeleton hr he
    exact h.text hk ⟨f, hf, _, ha, ht⟩
  document hm ht _ _ := by
    obtain ⟨f, hk, hf, ha⟩ := hm.exists_document_of_skeleton hr he
    exact congrArg (Element.skeleton <$> ·) (h.document (hk.includes ⟨f, hf, _, ha, ht⟩)).symm

end TextsOnly

end FileSystem

/-- Loads before and after files that are included as texts get other contents fail alike, or give trees with the same
elements, with the same attributes and in the same order. -/
theorem loadFresh_rewritten {fs fs' : FileSystem} {ls : List Location} {root : Path}
    (h : FileSystem.TextsOnly fs fs' ls root) :
    Matching (fun e e' => e.skeleton = e'.skeleton) (loadFresh fs root) (loadFresh fs' root) := by
  have hload : loadFresh fs.view.skeleton root = loadFresh fs'.view.skeleton root :=
    loadFresh_eq_of_foundSame (h.rewritten.resolve root).symm (fun _ => (h.rewritten.hasFile _).symm)
      (fun hr _ => congrArg (Element.skeleton <$> ·) (h.document (.root hr)).symm) h.foundSame
  rw [loadFresh_skeleton, loadFresh_skeleton] at hload
  exact Matching.of_map_eq hload

/-! ### A prompt that quotes a text -/

/-- A prompt that includes a text. -/
def quotingPrompt : FileSystem where
  current := []
  nodes := [
    (["a.xml"], .file (Encoding.Utf8.encode ("<prompt xmlns:xi='http://www.w3.org/2001/XInclude'>It says: "
      ++ "<xi:include parse='text' href='t.txt'/></prompt>"))),
    (["t.txt"], .file (Encoding.Utf8.encode "nothing"))]

/-- The prompt with markup in its text, an entity and a directive among it. -/
def quotingMarkup : FileSystem :=
  quotingPrompt.put ["t.txt"]
    (.file (Encoding.Utf8.encode "</prompt><rule id='1'/>&amp;<xi:include href='a.xml'/>"))

namespace quotingPrompt

/-- The root element of the prompt. -/
def prompt : Element :=
  ⟨"prompt", [], .element "It says: " includeName [("parse", "text"), ("href", "t.txt")] (.text "") (.text "")⟩

theorem holds_prompt : quotingPrompt.Holds (Path.absolute ["a.xml"]) ["a.xml"] prompt :=
  FileSystem.holds_top (by decide) rfl (by rw [Encoding.Utf8.encode_eq_bytes]; decide +kernel)

theorem leads_text :
    quotingPrompt.view.Leads ["a.xml"] [("parse", "text"), ("href", "t.txt")] (.text "utf-8") ["t.txt"] :=
  ⟨⟨"t.txt", .text "utf-8"⟩, by decide, rfl, FileSystem.target_top (by decide) rfl (by decide)⟩

theorem text : quotingPrompt.text ["t.txt"] "utf-8" = .ok "nothing" :=
  FileSystem.text_top (s := "nothing") (by decide) rfl (by decide +kernel)

/-- The one directive of the prompt asks for the text in UTF-8. -/
theorem eq_of_leads {e : Element} {a : List (String × String)} {mode : InclusionMode} {t : Location}
    (he : quotingPrompt.document ["a.xml"] = .ok e) (ha : a ∈ e.content.directives)
    (ht : quotingPrompt.view.Leads ["a.xml"] a mode t) : mode = .text "utf-8" ∧ t = ["t.txt"] := by
  cases holds_prompt.document.symm.trans he
  have hdirectives : prompt.content.directives = [[("parse", "text"), ("href", "t.txt")]] := by decide
  rw [hdirectives, List.mem_singleton] at ha
  subst ha
  exact ht.unique leads_text

theorem eq_of_reaches {t : Location} (h : quotingPrompt.view.Reaches (Path.absolute ["a.xml"]) t) : t = ["a.xml"] := by
  refine h.eq_of_alone holds_prompt.resolve fun u ⟨e, he, a, ha, hu⟩ => ?_
  cases (eq_of_leads he ha hu).1

theorem textsOnly : FileSystem.TextsOnly quotingPrompt quotingMarkup [["t.txt"]] (Path.absolute ["a.xml"]) where
  rewritten := FileSystem.rewritten_put rfl _
  documents := by
    rintro t l ht ⟨bs, hbs⟩ hl
    rw [eq_of_reaches ht, FileSystem.follow_top (by decide) rfl] at hbs
    cases hbs
    exact absurd hl (by decide)
  texts := by
    rintro k t l encoding hk ⟨e, he, a, ha, ht⟩ - -
    rw [eq_of_reaches hk] at he ht
    obtain ⟨hmode, rfl⟩ := eq_of_leads he ha ht
    cases hmode
    exact ⟨⟨_, text⟩, _, FileSystem.text_top (s := "</prompt><rule id='1'/>&amp;<xi:include href='a.xml'/>")
      (by decide) rfl (by decide +kernel)⟩

theorem load_prompt :
    loadFresh quotingPrompt (Path.absolute ["a.xml"]) = .ok ⟨"prompt", [], .text "It says: nothing"⟩ := by
  have htext : quotingPrompt.view.readText ["t.txt"] "utf-8" [["a.xml"], ["t.txt"]] = .ok "nothing" :=
    View.readText_eq_ok.2 text
  rw [loadFresh, Loading.outcome_load_of_document holds_prompt, prompt, Loading.compose_include,
    Loading.inclusion_text leads_text (FileSystem.hasFile_top (by decide) rfl), Loading.compose_text]
  simp only [map_eq_pure_bind, List.cons_append, List.nil_append, Loading.outcome_bind, Loading.outcome_text,
    Loading.fetch, List.lookup_nil, htext, Loading.outcome_pure]
  decide

end quotingPrompt

/-- With markup in the text the prompt is loaded as well, and the markup adds no element. -/
theorem exists_loadFresh_quotingMarkup :
    ∃ e, loadFresh quotingMarkup (Path.absolute ["a.xml"]) = .ok e ∧ e.skeleton = ⟨"prompt", [], .text ""⟩ := by
  have h := loadFresh_rewritten quotingPrompt.textsOnly
  rw [quotingPrompt.load_prompt] at h
  cases hmarkup : loadFresh quotingMarkup (Path.absolute ["a.xml"]) with
  | error f =>
    rw [hmarkup] at h
    cases h
  | ok e =>
    rw [hmarkup] at h
    obtain ⟨h⟩ := h
    exact ⟨e, rfl, h.symm⟩

end PromptMarkup
