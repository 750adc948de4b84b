import PromptMarkup.Proofs.Inclusion.Chains
import PromptMarkup.Proofs.Inclusion.Twins
import PromptMarkup.Proofs.Xml.Names

/-!
# What stops a load

A load ends with a tree whose names are all well formed, or with a structural fault that says in which document it
arose, or because an operation on the files or a decoding failed in a way that is no fault of the taxonomy
(`FileSystem.Outside`).  The proof is an induction on the composition that the load comes to (`ends_compose`): the chain
stays a route to the document at hand, so what stops the composition there is traced to the root document.  The main
results are `ends_loadFresh`, and that the faults of a load are truthful (`exists_isTruthful_of_load`).
-/

namespace PromptMarkup

/-- What can stop a load that is no fault: where a path leads, or whether a file stands there, cannot be told; the
encoding that a document declares cannot be read; or a text is asked for in an encoding that never gives one, that asks
for a byte order mark which is not there, or whose decoder fails in a way of its own. -/
inductive FileSystem.Outside (fs : FileSystem) (source : Path) : Failure → Prop where
  | root {f} (h : fs.resolve source = .error f) : Outside fs source (.files f)
  | rootFile {l f} (hl : fs.resolve source = .ok l) (h : fs.hasFile l = .error f) : Outside fs source (.files f)
  | target {l e a d f} (hl : fs.view.Reaches source l) (he : fs.document l = .ok e) (ha : a ∈ e.content.directives)
      (hd : Directive.ofAttributes a = .ok d) (h : fs.view.target d.href l = .error f) : Outside fs source (.files f)
  | targetFile {l e a mode t f} (hl : fs.view.Reaches source l) (he : fs.document l = .ok e)
      (ha : a ∈ e.content.directives) (ht : fs.view.Leads l a mode t) (h : fs.hasFile t = .error f) :
      Outside fs source (.files f)
  | document {l bs f} (hl : fs.view.Reaches source l) (hr : fs.read (Path.absolute l) = .ok bs)
      (h : Xml.parse bs = .error (.encoding f)) : Outside fs source (.encoding f)
  | text {l t encoding bs f} (hl : fs.view.Reaches source l) (ht : fs.view.IncludesText l t encoding)
      (hr : fs.read (Path.absolute t) = .ok bs) (h : Encoding.decode fs.decoders encoding bs = .error f)
      (hf : Encoding.Escapes fs.decoders encoding bs f) : Outside fs source (.encoding f)

/-- What can stop a load: a structural fault with a source, or something outside the taxonomy. -/
def FileSystem.Stops (fs : FileSystem) (source : Path) (f : Failure) : Prop :=
  (∃ fault : Fault, f = .fault fault ∧ .structural ∈ fault.category.families ∧ fault.source.isSome) ∨
    fs.Outside source f

/-- What can stop the composition of a root document: a fault that is traced to it, or something outside the
taxonomy. -/
def FileSystem.StopsFrom (fs : FileSystem) (source : Path) (root : Location) (f : Failure) : Prop :=
  (∃ fault : Fault, f = .fault fault ∧ fs.view.Traced root fault) ∨ fs.Outside source f

theorem FileSystem.stopsFrom_fault {fs : FileSystem} {source : Path} {root : Location} {f : Fault}
    (h : fs.view.Traced root f) : fs.StopsFrom source root (.fault f) :=
  .inl ⟨f, rfl, h⟩

theorem FileSystem.named_document {fs : FileSystem} {l : Location} {e : Element} (h : fs.document l = .ok e) :
    Xml.Named e.names := by
  unfold document at h
  split at h
  · cases h
  · split at h
    · cases h
    · cases h
    · cases h
      exact Xml.names_of_parse ‹_›

namespace View

variable {v : View} {document : Location} {chain : Chain}

/-- Why a directive does not lead to a file. -/
theorem locate_error {href : String} {f : Failure} (h : v.locate href document chain = .error f) :
    (∃ g, v.target href document = .error g ∧ f = .files g) ∨
      (∃ t g, v.target href document = .ok t ∧ v.hasFile t = .error g ∧ f = .files g) ∨
      ∃ t, v.target href document = .ok t ∧ v.hasFile t = .ok false ∧
        f = .fault (.unresolved (Path.absolute t) (Path.absolute document) chain.paths) := by
  cases ht : v.target href document with
  | error g =>
    rw [locate_of_target_error ht] at h
    cases h
    exact .inl ⟨g, rfl, rfl⟩
  | ok t =>
    cases hf : v.hasFile t with
    | error g =>
      rw [locate_of_hasFile_error ht hf] at h
      cases h
      exact .inr (.inl ⟨t, g, rfl, hf, rfl⟩)
    | ok b =>
      cases b with
      | true =>
        rw [locate_of_hasFile ht hf] at h
        cases h
      | false =>
        rw [locate_of_not_hasFile ht hf] at h
        cases h
        exact .inr (.inr ⟨t, rfl, hf, rfl⟩)

end View

namespace FileSystem

variable {fs : FileSystem} {source : Path} {c : Cache} {root l t : Location} {chain : Chain}

theorem ends_readDocument (hc : c.Truthful fs) (hl : fs.view.Reaches source l) (hr : fs.view.Route root chain l) :
    Except.Ends (fun e => fs.document l = .ok e) (fs.StopsFrom source root)
      ((fs.view.recalling c).readDocument l chain) := by
  have hread : (fs.view.recalling c).readDocument l chain = (fs.document l).mapError (·.failure l chain) := by
    rw [View.readDocument, hc]
    rfl
  rw [hread]
  refine Except.ends_mapError (fun _ he => he) fun u hu => ?_
  obtain ⟨_, rfl⟩ | ⟨_, rfl⟩ | ⟨bs, f, hread, hp, rfl⟩ := document_error hu
  · exact stopsFrom_fault (.document hr hu)
  · exact stopsFrom_fault (.document hr hu)
  · exact .inr (.document hl hread hp)

theorem ends_readText {encoding : String} (hl : fs.view.Reaches source l) (hr : fs.view.Route root chain l)
    (ht : fs.view.IncludesText l t encoding) :
    Except.Ends (fun _ => True) (fs.StopsFrom source root)
      ((fs.view.recalling c).readText t encoding (chain ++ [t])) := by
  cases hk : c.texts.lookup t with
  | some s =>
    rw [View.readText, View.recalling_text_of_lookup hk]
    exact Except.ends_ok trivial
  | none =>
    have hread : (fs.view.recalling c).readText t encoding (chain ++ [t]) =
        (fs.text t encoding).mapError (·.failure t (chain ++ [t])) := by
      simp [View.readText, View.recalling, hk, view]
    rw [hread]
    refine Except.ends_mapError (fun _ _ => trivial) fun u hu => ?_
    obtain ⟨_, rfl⟩ | ⟨bs, f, hread, hdecode, hf, rfl⟩ := text_error hu
    · exact stopsFrom_fault (.text hr ht hu)
    · exact .inr (.text hl ht hread hdecode hf)

/-- A directive leads to a file, or there is something wrong with it or with where it leads. -/
theorem ends_locate {e : Element} {a : List (String × String)} {d : Directive}
    (hl : fs.view.Reaches source l) (hr : fs.view.Route root chain l) (he : fs.document l = .ok e)
    (ha : a ∈ e.content.directives) (hd : Directive.ofAttributes a = .ok d) :
    Except.Ends (fun t => fs.view.Leads l a d.mode t.1) (fs.StopsFrom source root)
      ((fs.view.recalling c).locate d.href l chain) where
  ok ht := ⟨d, hd, rfl, (View.locate_eq_ok ht).1⟩
  error hf := by
    obtain ⟨g, ht, rfl⟩ | ⟨t, g, ht, hg, rfl⟩ | ⟨t, ht, hg, rfl⟩ := View.locate_error hf
    · exact .inr (.target hl he ha hd ht)
    · exact .inr (.targetFile hl he ha ⟨d, hd, rfl, ht⟩ hg)
    · exact stopsFrom_fault (.unresolved hr he ha ⟨d, hd, rfl, ht⟩ hg)

theorem ends_readDirective {e : Element} {a : List (String × String)} (hr : fs.view.Route root chain l)
    (he : fs.document l = .ok e) (ha : a ∈ e.content.directives) :
    Except.Ends (fun d => Directive.ofAttributes a = .ok d) (fs.StopsFrom source root) (Directive.read a l chain) :=
  Except.ends_mapError (fun _ hd => hd) fun _ h => stopsFrom_fault (.directive hr he ha h)

theorem ends_spliced {e : Element} (h : Xml.Named e.names) :
    Except.Ends (fun c : Content => Xml.Named c.names) (fs.StopsFrom source root) e.spliced := by
  obtain ⟨n, hn⟩ := Option.isSome_iff_exists.1 (h e.name List.mem_cons_self)
  rw [Element.spliced, localName, hn]
  show Except.Ends _ _ (if n = fragmentName then _ else _)
  split
  · refine Except.ends_ok ?_
    rw [Content.names_dropLeading]
    exact fun m hm => h m (List.mem_cons_of_mem _ hm)
  · refine Except.ends_ok ?_
    rwa [Element.names_ofElement]

/-- A directive stands for content, or for what stops the composition of the document that it includes. -/
theorem ends_inclusion (hc : c.Truthful fs) {e : Element} {a : List (String × String)}
    (hl : fs.view.Reaches source l) (hr : fs.view.Route root chain l) (he : fs.document l = .ok e)
    (ha : a ∈ e.content.directives)
    (ih : ∀ t ∈ fs.files, ¬ chain.contains t = true → ∀ (e' : Element), fs.document t = .ok e' →
      fs.view.Reaches source t → fs.view.Route root (chain ++ [t]) t →
      Except.Ends (fun r : Content => Xml.Named r.names) (fs.StopsFrom source root)
        ((fs.view.recalling c).compose t (chain ++ [t]) e'.content)) :
    Except.Ends (fun r : Content => Xml.Named r.names) (fs.StopsFrom source root)
      ((fs.view.recalling c).inclusion l chain a) := by
  unfold View.inclusion
  refine (ends_readDirective hr he ha).bind fun d hd => (ends_locate hl hr he ha hd).bind ?_
  rintro ⟨t, htf⟩ ht
  cases hm : d.mode with
  | text encoding =>
    rw [hm] at ht
    exact (ends_readText hl hr ⟨e, he, a, ha, ht⟩).map fun s _ => List.forall_mem_nil _
  | elements =>
    rw [hm] at ht
    have hincludes : fs.view.Includes l t := ⟨e, he, a, ha, ht⟩
    by_cases hct : chain.contains t = true
    · simp only [hct, if_true]
      exact Except.ends_error (stopsFrom_fault (.circular hr hincludes (by simpa using hct)))
    · simp only [hct, Bool.false_eq_true, if_false]
      have htl : fs.view.Reaches source t := hl.includes hincludes
      have htr : fs.view.Route root (chain ++ [t]) t := hr.append hincludes (by simpa using hct)
      refine (ends_readDocument hc htl htr).bind fun e' he' =>
        (ih t htf hct e' he' htl htr).bind fun content hnamed => ?_
      exact ends_spliced (List.forall_mem_cons.2 ⟨(List.forall_mem_cons.1 (named_document he')).1, hnamed⟩)

/-- The composition of content of a document that the root document leads to by a route. -/
theorem ends_compose (hc : c.Truthful fs) (document : Location) (chain : Chain) (content : Content)
    (hl : fs.view.Reaches source document) (hr : fs.view.Route root chain document)
    (hh : fs.view.Holds document content) (hn : Xml.Named content.names) :
    Except.Ends (fun r : Content => Xml.Named r.names) (fs.StopsFrom source root)
      ((fs.view.recalling c).compose document chain content) := by
  induction document, chain, content using View.compose.induct (v := fs.view.recalling c) with
  | case1 document chain s =>
    rw [View.compose_text]
    exact Except.ends_ok (List.forall_mem_nil _)
  | case2 document chain before inside rest ih =>
    rw [View.compose_comment]
    exact (ih hl hr hh hn).bind fun r hr => Except.ends_ok hr
  | case3 document chain before attributes content rest ihRest ihRoot =>
    have hrest := ihRest hl hr (hh.mono (by simp [Content.directives])) fun m hm => hn m (by simp [Content.names, hm])
    obtain ⟨e, he, hsub⟩ := hh
    have ha : attributes ∈ e.content.directives := hsub (by simp [Content.directives])
    have hincluded := ends_inclusion hc hl hr he ha fun t htf hct e' he' htl htr =>
      ihRoot t htf hct e' htl htr (.document he') (List.forall_mem_cons.1 (named_document he')).2
    rw [View.compose_include]
    refine hincluded.bind fun i hi => hrest.bind fun r hr => Except.ends_ok ?_
    simpa [Xml.Named, or_imp, forall_and] using ⟨hi, hr⟩
  | case4 document chain before name attributes content rest hne ihContent ihRest =>
    have hnames : (localName? name).isSome ∧ Xml.Named content.names ∧ Xml.Named rest.names := by
      simpa [Content.names, Xml.Named, or_imp, forall_and] using hn
    rw [View.compose_element _ _ _ hne]
    refine (ihContent hl hr (hh.mono ?_) hnames.2.1).bind fun r hr' =>
      (ihRest hl hr (hh.mono ?_) hnames.2.2).bind fun r' hr'' => Except.ends_ok ?_
    · simp [Content.directives, hne]
    · simp [Content.directives, hne]
    · simpa [Content.names, Xml.Named, or_imp, forall_and] using ⟨hnames.1, hr', hr''⟩

/-- The composition of a root document that is a file. -/
theorem ends_composition_of_hasFile (hc : c.Truthful fs) (hr : fs.resolve source = .ok root)
    (hf : fs.hasFile root = .ok true) :
    Except.Ends (fun e => Xml.Named e.names) (fs.StopsFrom source root) ((fs.view.recalling c).composition source) := by
  have hl : fs.view.Reaches source root := .root hr
  have hroute := View.Route.root_document fs.view root
  rw [View.composition_of_hasFile (v := fs.view.recalling c) hr hf]
  refine (ends_readDocument hc hl hroute).bind fun e he => ?_
  obtain ⟨hname, hcontent⟩ := List.forall_mem_cons.1 (named_document he)
  exact (ends_compose hc root [root] e.content hl hroute (.document he) hcontent).bind fun r hr =>
    Except.ends_ok (List.forall_mem_cons.2 ⟨hname, hr⟩)

/-- A fault of a load from a file is truthful, whatever the loader has read of the files before. -/
theorem exists_isTruthful_of_load {fs : FileSystem} {source : Path} {root : Location} {c : Cache} {f : Fault}
    (hc : c.Truthful fs) (hr : fs.resolve source = .ok root) (hf : fs.hasFile root = .ok true)
    (h : ((load fs source).outcome c).1 = .error (.fault f)) : ∃ chain last, f.IsTruthful fs root chain last := by
  have ho := Loading.explained_load fs c source
  rw [ho.eq] at h
  obtain ⟨fault, hfault, ht⟩ | hout := (ends_composition_of_hasFile (ho.grows.document.trans hc) hr hf).error h
  · cases hfault
    exact ht.exists_isTruthful
  · cases hout

end FileSystem

/-- A prompt that includes a fragment which includes a file that is not there. -/
def missingFile : FileSystem where
  current := []
  nodes := [
    (["a.xml"], .file (Encoding.Utf8.encode
      "<prompt xmlns:xi='http://www.w3.org/2001/XInclude'><xi:include href='f.xml'/></prompt>")),
    (["f.xml"], .file (Encoding.Utf8.encode
      "<fragment xmlns:xi='http://www.w3.org/2001/XInclude'><xi:include href='g.xml'/></fragment>"))]

namespace missingFile

theorem holds_prompt : missingFile.Holds (Path.absolute ["a.xml"]) ["a.xml"]
    ⟨"prompt", [], .element "" includeName [("href", "f.xml")] (.text "") (.text "")⟩ :=
  FileSystem.holds_top (by decide) rfl (by rw [Encoding.Utf8.encode_eq_bytes]; decide)

theorem document_fragment : missingFile.view.document ["f.xml"] =
    .ok ⟨"fragment", [], .element "" includeName [("href", "g.xml")] (.text "") (.text "")⟩ :=
  FileSystem.document_top (by decide) rfl (by rw [Encoding.Utf8.encode_eq_bytes]; decide)

theorem leads_fragment : missingFile.view.Leads ["a.xml"] [("href", "f.xml")] .elements ["f.xml"] :=
  ⟨⟨"f.xml", .elements⟩, Except.toOption_eq_some.1 (by decide), rfl,
    FileSystem.target_top (by decide) rfl (by decide)⟩

/-- What the fragment refers to is not there. -/
theorem inclusion_missing : missingFile.view.inclusion ["f.xml"] [["a.xml"], ["f.xml"]] [("href", "g.xml")] =
    .error (.fault (.unresolved (Path.absolute ["g.xml"]) (Path.absolute ["f.xml"])
      (Chain.paths [["a.xml"], ["f.xml"]]))) := by
  have hd : Directive.read [("href", "g.xml")] ["f.xml"] [["a.xml"], ["f.xml"]] = .ok ⟨"g.xml", .elements⟩ :=
    Directive.read_eq_ok.2 (Except.toOption_eq_some.1 (by decide))
  have ht : missingFile.view.target "g.xml" ["f.xml"] = .ok ["g.xml"] :=
    FileSystem.target_top_of_absent (by decide) rfl (by decide)
  have hf : missingFile.view.hasFile ["g.xml"] = .ok false := FileSystem.hasFile_top_of_absent (by decide) rfl
  rw [View.inclusion, Except.bind_ok hd, View.locate_of_not_hasFile ht hf]
  rfl

/-- That stops the composition of the fragment, and with it what the fragment stands for. -/
theorem inclusion_fragment : missingFile.view.inclusion ["a.xml"] [["a.xml"]] [("href", "f.xml")] =
    .error (.fault (.unresolved (Path.absolute ["g.xml"]) (Path.absolute ["f.xml"])
      (Chain.paths [["a.xml"], ["f.xml"]]))) := by
  have hread : missingFile.view.readDocument ["f.xml"] ([["a.xml"]] ++ [["f.xml"]]) = .ok _ :=
    View.readDocument_eq_ok.2 document_fragment
  rw [View.inclusion_elements leads_fragment (FileSystem.hasFile_top (by decide) rfl), if_neg (by decide),
    Except.bind_ok hread, View.compose_include, List.singleton_append, Except.bind_error inclusion_missing]
  rfl

theorem load : loadFresh missingFile (Path.absolute ["a.xml"]) =
    .error (.fault (.unresolved (Path.absolute ["g.xml"]) (Path.absolute ["f.xml"])
      (Chain.paths [["a.xml"], ["f.xml"]]))) := by
  have hone : missingFile.view.OneEncoding (Path.absolute ["a.xml"]) := View.oneEncoding_of_forall "utf-8" (by
    simp only [missingFile, Encoding.Utf8.encode_eq_bytes]
    decide) _
  rw [loadFresh_eq_composition _ _ hone, View.composition_of_document holds_prompt, View.compose_include,
    Except.bind_error inclusion_fragment]
  rfl

end missingFile

/-- The chain leads to the fragment, which includes the missing file. -/
theorem exists_isTruthful_missingFile : ∃ chain last, Fault.IsTruthful missingFile ["a.xml"]
    (.unresolved (Path.absolute ["g.xml"]) (Path.absolute ["f.xml"]) (Chain.paths [["a.xml"], ["f.xml"]])) chain last :=
  FileSystem.exists_isTruthful_of_load (c := {}) rfl missingFile.holds_prompt.resolve
    missingFile.holds_prompt.hasFile missingFile.load

end PromptMarkup
