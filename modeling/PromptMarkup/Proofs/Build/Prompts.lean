import PromptMarkup.Proofs.Build.Artifacts
import PromptMarkup.Proofs.Encoding.CodePoints
import PromptMarkup.Proofs.Inclusion.Refinement

/-!
# Small prompts

Prompts that have a title and no sections, also one that is included (`loadFresh_includedTitle`), settings for building
them, and what is built from them beside the other files (`buildOne_top`).
-/

namespace PromptMarkup

open FileSystem

/-- Settings for sources in the current directory and artifacts elsewhere. -/
def settingsInto (outputDirectory : List String) : BuildSettings where
  sourceDirectory := ⟨.here, []⟩
  outputDirectory := ⟨.here, outputDirectory⟩
  extension := ".md"
  workers := some 2
  inventory := none

def firstSource : Path := ⟨.here, ["a.xml"]⟩

def secondSource : Path := ⟨.here, ["b.xml"]⟩

theorem discoverSources_settingsInto (fs : FileSystem) (outputDirectory : List String) :
    discoverSources fs (settingsInto outputDirectory).sourceDirectory
      (selectedNames (settingsInto outputDirectory) ["a", "b"]) = .ok [firstSource, secondSource] := by
  have hnamed : namedSources ⟨.here, []⟩ ["a", "b"] = [firstSource, secondSource] := by decide
  have hsorted : Path.sort [firstSource, secondSource] = [firstSource, secondSource] :=
    List.mergeSort_of_pairwise (by decide)
  show Except.ok (Path.sort (namedSources ⟨.here, []⟩ ["a", "b"])) = _
  rw [hnamed, hsorted]

/-- The text of a prompt with a title. -/
def promptText (title : String) : String :=
  "<prompt xmlns:xi='http://www.w3.org/2001/XInclude'><metadata description='d'/><header><title>" ++ title
    ++ "</title></header><content/></prompt>"

/-- A prompt with a title, as an element. -/
def promptElement (title : Content) : Element :=
  ⟨"prompt", [], .element "" "metadata" [("description", "d")] (.text "")
    (.element "" "header" [] (.element "" "title" [] title (.text ""))
      (.element "" "content" [] (.text "") (.text "")))⟩

/-- The text of a prompt with a plain title is that of the element. -/
theorem parse_promptText : ∀ title ∈ ["A", "B"],
    (Xml.parse (Encoding.Utf8.encode (promptText title))).toOption = some (promptElement (.text title)) := by
  simp only [Encoding.Utf8.encode_eq_bytes]
  decide +kernel

/-- So is that of a prompt which includes its title. -/
theorem parse_promptText_include :
    (Xml.parse (Encoding.Utf8.encode (promptText "<xi:include parse='text' href='t.txt'/>"))).toOption =
      some (promptElement (.element "" includeName [("parse", "text"), ("href", "t.txt")] (.text "") (.text ""))) := by
  rw [Encoding.Utf8.encode_eq_bytes]
  decide +kernel

theorem holds_here {fs : FileSystem} (hcurrent : fs.current = []) {name : String} {bs : List UInt8} {e : Element}
    (hname : Plain name) (hfile : fs.node? [name] = some (.file bs)) (hparse : (Xml.parse bs).toOption = some e) :
    fs.Holds ⟨.here, [name]⟩ [name] e :=
  { holds_top hname hfile hparse with resolve := (resolve_here hcurrent [name]).trans (resolve_top hname hfile) }

section

variable {settings : BuildSettings} {fs : FileSystem} {source : Path} {l t : Location} {e : Element} {content : String}

/-! ### What they are compiled to -/

/-- The Markdown of a prompt with a plain title. -/
def promptArtifact (title : String) : String :=
  "---\ndescription: d\nglobs:\nalwaysApply:\n---\n# " ++ title ++ "\n"

theorem transform_of_loadFresh (h : loadFresh fs source = .ok e)
    (hrendered : (Document.ofTree (some source) e).toOption.map Document.render = some content) :
    transform fs source = .ok content := by
  obtain ⟨d, hd, rfl⟩ := Option.map_eq_some_iff.1 hrendered
  rw [transform, loadDocument, Except.bind_ok h, Except.toOption_eq_some.1 hd]

/-- What a document compiles to that includes nothing. -/
theorem transform_of_holds (h : fs.Holds source l e) (hnone : e.content.directives = [])
    (hrendered : (Document.ofTree (some source) e).toOption.map Document.render = some content) :
    transform fs source = .ok content :=
  transform_of_loadFresh (loadFresh_of_directives_eq_nil h hnone) hrendered

/-- A prompt whose title is a text that it includes. -/
theorem loadFresh_includedTitle {attributes : List (String × String)} {encoding s : String}
    (h : fs.Holds source l (promptElement (.element "" includeName attributes (.text "") (.text ""))))
    (hone : fs.view.OneEncoding source) (ht : fs.view.Leads l attributes (.text encoding) t)
    (hf : fs.hasFile t = .ok true) (hs : fs.text t encoding = .ok s) :
    loadFresh fs source = .ok (promptElement (.text s)) := by
  have hread : fs.view.readText t encoding [l, t] = .ok s := View.readText_eq_ok.2 hs
  rw [loadFresh_eq_composition _ _ hone, View.composition_of_document h]
  have hname {n : String} (hn : n ∈ ["metadata", "header", "title", "content"]) : n ≠ includeName := by
    revert n
    decide
  simp only [promptElement, View.compose_element _ _ _ (hname (by decide : "metadata" ∈ _)),
    View.compose_element _ _ _ (hname (by decide : "header" ∈ _)),
    View.compose_element _ _ _ (hname (by decide : "title" ∈ _)),
    View.compose_element _ _ _ (hname (by decide : "content" ∈ _)), View.compose_include,
    View.inclusion_text ht hf, View.compose_text, List.cons_append, List.nil_append, hread]
  simp [bind, Except.bind, pure, Except.pure, Functor.map, Except.map, Content.prepend]

/-! ### What is built from them -/

/-- Writing an artifact beside the other files at the top. -/
theorem writeArtifact_top {name : String} (hcurrent : fs.current = []) (hsafe : isSafeName name = true)
    (hpath : Path.child ⟨.here, []⟩ name = ⟨.here, [name]⟩) (hname : Plain name) (hfree : fs.IsFree [name])
    (content : List CodePoint) : writeArtifact fs ⟨.here, []⟩ name content =
      (fs.put [name] (.file (payload content).1), (payload content).2.map fun _ => ⟨.here, [name]⟩) := by
  have hthere : fs.isDirectory ⟨.here, []⟩ = .ok true := by
    refine isDirectory_eq_ok.2 ⟨rfl, fs.current, ?_⟩
    rw [FileSystem.follow, hcurrent]
    show fs.walk true maxLinks fs.current [] = _
    rw [walk, hcurrent]
    rfl
  have hplace : fs.place (Path.child ⟨.here, []⟩ name) = .ok [name] := by
    have hnull : hasNull ⟨.here, [name]⟩ = false := by simpa [hasNull] using hname.2.2.2.1
    have hstart : fs.start ⟨.here, [name]⟩ = [] := hcurrent
    rw [hpath, place, hnull, FileSystem.follow, hstart]
    obtain hnone | ⟨bs, hfile⟩ := hfree
    · rw [walk_nothing rfl hname.isEntry hnone]
      rfl
    · rw [walk_entry rfl hname.isEntry hfile (by simp), walk]
      simp only [List.nil_append, hfile]
      rfl
  rw [writeArtifact_of_place hsafe (makeDirectories_of_isDirectory hthere) hplace, hpath]

/-- Building a document whose artifact goes beside the other files at the top. -/
theorem buildOne_top {name : String} (hcurrent : fs.current = []) (htransform : transform fs source = .ok content)
    (hartifact : artifactName settings source = name) (hsafe : isSafeName name = true)
    (hout : settings.outputDirectory = ⟨.here, []⟩) (hpath : Path.child ⟨.here, []⟩ name = ⟨.here, [name]⟩)
    (hname : Plain name) (hfree : fs.IsFree [name]) :
    buildOne settings source fs =
      (fs.put [name] (.file (payload (Text.codePoints content)).1), openedResult settings source content) := by
  have hwritten := writeArtifact_top hcurrent hsafe hpath hname hfree (Text.codePoints content)
  rw [← hpath, ← hout, ← hartifact] at hwritten
  rw [buildOne, htransform, storeArtifact_of_opened hwritten, hartifact]

theorem payload_codePoints (h : CodePoint.mark ∉ content.toList) :
    payload (Text.codePoints content) = (Encoding.Utf8.encode content, .ok ()) := by
  rw [payload, Encoding.Utf8.encodePoints_codePoints h]

theorem openedResult_of_mark_notMem (h : CodePoint.mark ∉ content.toList) :
    openedResult settings source content = { source, output := some (artifactPath settings source), ok := true } := by
  rw [openedResult, payload_codePoints h]

end

end PromptMarkup
