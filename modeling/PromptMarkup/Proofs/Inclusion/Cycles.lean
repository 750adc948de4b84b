import PromptMarkup.Proofs.Inclusion.Refinement
import PromptMarkup.Proofs.Xml.Names

/-!
# Cycles are detected exactly

A load looks only whether a document is on the chain that leads to it.  That is enough: if nothing else is
wrong with what a root document leads to, its load fails if and only if the documents that it leads to form a
cycle (`loadFresh_ok_iff_not_cyclic`).  A chain is a walk from the root document, so a document that is met on
it closes a cycle.  Conversely, a composition visits every walk, and one that succeeds meets no document of its
chain (`settles_compose`).
-/

namespace PromptMarkup

/-- A root with a local name stands for something. -/
theorem Element.exists_spliced {e : Element} (h : (localName? e.name).isSome) : ∃ c, e.spliced = .ok c := by
  obtain ⟨n, hn⟩ := Option.isSome_iff_exists.1 h
  rw [spliced, localName, hn]
  by_cases hf : n = fragmentName
  · exact ⟨e.content.dropLeading, by simp [hf, bind, Except.bind, pure, Except.pure]⟩
  · exact ⟨.ofElement e, by simp [hf, bind, Except.bind, pure, Except.pure]⟩

namespace View

/-- The documents that a root document leads to form a cycle. -/
def Cyclic (v : View) (root : Path) : Prop := ∃ l, v.Reaches root l ∧ Relation.TransGen v.Includes l l

/-- Nothing is wrong with what a root document leads to: the documents can be read and their elements have
local names, the directives refer to files, and the texts can be decoded. -/
structure Intact (v : View) (root : Path) : Prop where
  file : ∃ l, v.resolve root = .ok l ∧ v.hasFile l = .ok true
  document : ∀ {l}, v.Reaches root l → ∃ e, v.document l = .ok e
  directive : ∀ {l e a}, v.Reaches root l → v.document l = .ok e → a ∈ e.content.directives →
    ∃ mode t, v.Leads l a mode t ∧ v.hasFile t = .ok true
  text : ∀ {l t encoding}, v.Reaches root l → v.IncludesText l t encoding → ∃ s, v.text t encoding = .ok s

/-- No walk from a document meets a chain or a cycle. -/
def Clear (v : View) (chain : Chain) (t : Location) : Prop :=
  ∀ u, Relation.ReflTransGen v.Includes t u → u ∉ chain ∧ ¬ Relation.TransGen v.Includes u u

/-- No walk through the directives in content of a document meets a chain or a cycle. -/
def Passes (v : View) (document : Location) (chain : Chain) (c : Content) : Prop :=
  ∀ a ∈ c.directives, ∀ t, v.Leads document a .elements t → v.Clear chain t

/-- A computation either gives something, and then a statement holds, or fails because of a cycle, and then
there is one. -/
def Settles {α : Type} (v : View) (root : Path) (x : Except Failure α) (p : Prop) : Prop :=
  (∃ a, x = .ok a ∧ p) ∨ (∃ paths, x = .error (.fault (.circular paths)) ∧ v.Cyclic root)

variable {v : View} {root : Path} {document t : Location} {chain : Chain}

section

variable {α β : Type} {x : Except Failure α} {p q : Prop}

theorem Settles.of_ok {a : α} (h : x = .ok a) (hp : p) : v.Settles root x p := .inl ⟨a, h, hp⟩

theorem Settles.of_cyclic (paths : List Path) (h : v.Cyclic root) :
    v.Settles root (.error (.fault (.circular paths)) : Except Failure α) p := .inr ⟨paths, rfl, h⟩

/-- What is settled first and what is settled then hold together. -/
theorem Settles.bind {f : α → Except Failure β} (hx : v.Settles root x p)
    (hf : ∀ a, x = .ok a → p → v.Settles root (f a) q) : v.Settles root (x >>= f) q := by
  obtain ⟨a, ha, hp⟩ | ⟨paths, hx, hc⟩ := hx
  · rw [Except.bind_ok ha]
    exact hf a ha hp
  · rw [Except.bind_error hx]
    exact .of_cyclic paths hc

end

/-- A document is clear of a chain if it is not on it and what it includes is clear of the chain that it makes
longer. -/
theorem Clear.of_passes {e : Element} (hd : v.document t = .ok e) (ht : t ∉ chain)
    (h : v.Passes t (chain ++ [t]) e.content) : v.Clear chain t := by
  have hclear {m : Location} (hm : v.Includes t m) : v.Clear (chain ++ [t]) m := by
    obtain ⟨e', he, a, ha, hl⟩ := hm
    obtain rfl : e = e' := by simpa [hd] using he
    exact h a ha m hl
  intro u hu
  obtain rfl | ⟨m, hm, hu⟩ := Relation.ReflTransGen.cases_head hu
  · refine ⟨ht, fun hcycle => ?_⟩
    -- A cycle through `t` leads from what `t` includes back to the chain that `t` ends.
    obtain ⟨m, hm, hback⟩ := Relation.TransGen.head'_iff.1 hcycle
    exact (hclear hm t hback).1 (by simp)
  · obtain ⟨hchain, hcycle⟩ := hclear hm u hu
    exact ⟨fun h => hchain (by simp [h]), hcycle⟩

section

variable {a : List (String × String)} {before inside name : String} {attributes : List (String × String)}
  {content rest : Content}

theorem passes_text (s : String) : v.Passes document chain (.text s) :=
  fun _ ha => by simp [Content.directives] at ha

theorem passes_include (hi : ∀ t, v.Leads document attributes .elements t → v.Clear chain t)
    (hr : v.Passes document chain rest) :
    v.Passes document chain (.element before includeName attributes content rest) := by
  intro a ha
  obtain rfl | ha := List.mem_cons.1 (by simpa [Content.directives] using ha)
  · exact hi
  · exact hr a ha

theorem passes_element (hn : name ≠ includeName) (hc : v.Passes document chain content)
    (hr : v.Passes document chain rest) :
    v.Passes document chain (.element before name attributes content rest) := by
  intro a ha
  obtain ha | ha : a ∈ content.directives ∨ a ∈ rest.directives := by simpa [Content.directives, hn] using ha
  · exact hc a ha
  · exact hr a ha

end

/-- A chain of documents that lead to a document, each of which is reached from a root document. -/
structure Descends (v : View) (root : Path) (chain : Chain) (document : Location) : Prop where
  reaches : v.Reaches root document
  leads : ∀ m ∈ chain, Relation.ReflTransGen v.Includes m document

theorem Descends.includes (h : v.Descends root chain document) (ht : v.Includes document t) :
    v.Descends root (chain ++ [t]) t where
  reaches := h.reaches.includes ht
  leads := by
    intro m hm
    obtain hm | rfl : m ∈ chain ∨ m = t := by simpa using hm
    · exact (h.leads m hm).tail ht
    · exact .refl

/-- A document on the chain that is included once more closes a cycle. -/
theorem Descends.cyclic (h : v.Descends root chain document) (ht : v.Includes document t) (hc : t ∈ chain) :
    v.Cyclic root :=
  ⟨document, h.reaches, .head' ht (h.leads t hc)⟩

section

variable (hi : v.Intact root) (hn : ∀ {l e}, v.document l = .ok e → (localName? e.name).isSome)
include hi hn

/-- A directive is settled once the documents that it includes are. -/
theorem settles_inclusion (hd : v.Descends root chain document) {e : Element} (he : v.document document = .ok e)
    {a : List (String × String)} (ha : a ∈ e.content.directives)
    (ih : ∀ t ∈ v.files, ¬ chain.contains t → ∀ (root' : Element), v.document t = .ok root' →
      v.Descends root (chain ++ [t]) t →
      v.Settles root (v.compose t (chain ++ [t]) root'.content) (v.Passes t (chain ++ [t]) root'.content)) :
    v.Settles root (v.inclusion document chain a) (∀ t, v.Leads document a .elements t → v.Clear chain t) := by
  obtain ⟨mode, t, hl, hf⟩ := hi.directive hd.reaches he ha
  cases mode with
  | text encoding =>
    rw [inclusion_text hl hf]
    obtain ⟨s, hs⟩ := hi.text hd.reaches ⟨e, he, a, ha, hl⟩
    refine .of_ok (a := .text s) (Except.map_eq_ok.2 ⟨s, readText_eq_ok.2 hs, rfl⟩) fun u hu => ?_
    exact nomatch (hl.unique hu).1
  | elements =>
    have ht : v.Includes document t := ⟨e, he, a, ha, hl⟩
    rw [inclusion_elements hl hf]
    split
    · rename_i hc
      exact .of_cyclic _ (hd.cyclic ht (by simpa using hc))
    · rename_i hc
      have hdt := hd.includes ht
      obtain ⟨root', hroot⟩ := hi.document hdt.reaches
      rw [Except.bind_ok (readDocument_eq_ok.2 hroot)]
      refine (ih t (v.mem_files hf) hc root' hroot hdt).bind fun content _ hp => ?_
      have hname := hn hroot
      obtain ⟨included, hs⟩ := Element.exists_spliced (e := { root' with content }) hname
      refine .of_ok hs fun u hu => ?_
      obtain rfl := (hl.unique hu).2
      exact .of_passes hroot (by simpa using hc) hp

/-- Composing content of a document meets every cycle that the content leads to, and fails for no other reason. -/
theorem settles_compose (document : Location) (chain : Chain) (content : Content)
    (hd : v.Descends root chain document) (hh : v.Holds document content) :
    v.Settles root (v.compose document chain content) (v.Passes document chain content) := by
  -- The chain stays a walk to the document at hand, so a target on it closes a cycle.
  induction document, chain, content using compose.induct (v := v) with
  | case1 document chain s =>
    rw [compose_text]
    exact .of_ok rfl (passes_text s)
  | case2 document chain before inside rest ih =>
    rw [compose_comment]
    exact (ih hd hh).bind fun r _ hp => .of_ok rfl hp
  | case3 document chain before attributes content rest ihRest ihRoot =>
    rw [compose_include]
    have hrest := ihRest hd (hh.mono (by simp [Content.directives]))
    obtain ⟨e, he, hsub⟩ := hh
    have ha : attributes ∈ e.content.directives := hsub (by simp [Content.directives])
    have hincluded := settles_inclusion hi hn hd he ha fun t ht hc root' hr hdt =>
      ihRoot t ht hc root' hdt (.document hr)
    exact hincluded.bind fun _ _ hp => hrest.bind fun _ _ hr => .of_ok rfl (passes_include hp hr)
  | case4 document chain before name attributes content rest hne ihContent ihRest =>
    rw [compose_element v document chain hne]
    refine (ihContent hd (hh.mono ?_)).bind fun _ _ hc => (ihRest hd (hh.mono ?_)).bind fun _ _ hr =>
      .of_ok rfl (passes_element hne hc hr)
    · simp [Content.directives, hne]
    · simp [Content.directives, hne]

/-- The composition of a root document fails if and only if the document leads to a cycle. -/
theorem settles_composition : v.Settles root (v.composition root) (¬ v.Cyclic root) := by
  obtain ⟨l, hl, hf⟩ := hi.file
  obtain ⟨e, he⟩ := hi.document (.root hl)
  have hd : v.Descends root [l] l := ⟨.root hl, by simp [Relation.ReflTransGen.refl]⟩
  rw [composition, Except.bind_ok (Except.mapError_eq_ok.2 hl), Except.bind_ok (Except.mapError_eq_ok.2 hf),
    if_pos rfl, Except.bind_ok (readDocument_eq_ok.2 he)]
  refine (settles_compose hi hn l [l] e.content hd (.document he)).bind fun _ _ hp => .of_ok rfl ?_
  -- The root document itself is clear of the empty chain, so no walk from it meets a cycle.
  rintro ⟨m, ⟨r, hr, hm⟩, hcycle⟩
  obtain rfl : l = r := by simpa [hl] using hr
  have hclear : v.Clear [] l := .of_passes he (by simp) hp
  exact (hclear m hm).2 hcycle

end

theorem cyclic_congr {w : View} (hr : v.resolve = w.resolve) (hd : v.document = w.document) :
    v.Cyclic = w.Cyclic := by
  funext root
  simp only [Cyclic, reaches_congr hr hd, includes_congr hr hd]

/-- What is intact remains so for a loader that has read some of it. -/
theorem Intact.recalling {c : Cache} (h : v.Intact root) (hd : (v.recalling c).document = v.document) :
    (v.recalling c).Intact root := by
  have hr := reaches_congr (v := v.recalling c) (w := v) rfl hd
  have ht := includesText_congr (v := v.recalling c) (w := v) rfl hd
  constructor
  · exact h.file
  · rw [hr, hd]
    exact h.document
  · rw [hr, hd]
    exact h.directive
  · rw [hr, ht]
    intro l t encoding hl hlt
    cases hs : c.texts.lookup t with
    | some s => exact ⟨s, recalling_text_of_lookup hs encoding⟩
    | none =>
      obtain ⟨s, hs'⟩ := h.text hl hlt
      exact ⟨s, by simp [View.recalling, hs, hs']⟩

end View

theorem FileSystem.isSome_localName?_of_document {fs : FileSystem} {l : Location} {e : Element}
    (h : fs.document l = .ok e) : (localName? e.name).isSome := by
  unfold document at h
  split at h
  · cases h
  · split at h
    · cases h
    · cases h
    · cases h
      exact Xml.names_of_parse ‹_› _ List.mem_cons_self

/-- If nothing else is wrong with what a root document leads to, then its load succeeds if and only if the
documents form no cycle, and fails because of a cycle otherwise. -/
theorem loadFresh_ok_iff_not_cyclic {fs : FileSystem} {root : Path} (h : fs.view.Intact root) :
    ((∃ e, loadFresh fs root = .ok e) ↔ ¬ fs.view.Cyclic root) ∧
      (fs.view.Cyclic root → ∃ paths, loadFresh fs root = .error (.fault (.circular paths))) := by
  have ho := Loading.explained_load fs {} root
  have hd := ho.grows.document
  have hcyclic := View.cyclic_congr (v := fs.view.recalling ((load fs root).outcome {}).2) (w := fs) rfl hd
  have hnamed {l : Location} {e : Element} (he : fs.document l = .ok e) : (localName? e.name).isSome :=
    FileSystem.isSome_localName?_of_document he
  have hsettles := View.settles_composition (h.recalling hd) (fun he => hnamed (hd ▸ he))
  rw [← ho.eq, View.Settles, hcyclic] at hsettles
  rw [loadFresh]
  obtain ⟨e, he, hc⟩ | ⟨paths, hp, hc⟩ := hsettles
  · exact ⟨⟨fun _ => hc, fun _ => ⟨e, he⟩⟩, fun h => absurd h hc⟩
  · refine ⟨⟨?_, fun h => absurd hc h⟩, fun _ => ⟨paths, hp⟩⟩
    rintro ⟨e, he⟩
    rw [hp] at he
    cases he

namespace sharedFragment

theorem resolve_prompt : sharedFragment.resolve (Path.absolute ["a.xml"]) = .ok ["a.xml"] :=
  FileSystem.resolve_top (by decide) rfl

theorem hasFile_prompt : sharedFragment.hasFile ["a.xml"] = .ok true := FileSystem.hasFile_top (by decide) rfl

theorem hasFile_fragment : sharedFragment.hasFile ["f.xml"] = .ok true := FileSystem.hasFile_top (by decide) rfl

theorem hasFile_text : sharedFragment.hasFile ["t.txt"] = .ok true := FileSystem.hasFile_top (by decide) rfl

theorem text : sharedFragment.text ["t.txt"] "utf-8" = .ok (Text.withLineFeeds "z") :=
  FileSystem.text_top (by decide) rfl (by decide +kernel)

theorem document_prompt : sharedFragment.document ["a.xml"] = .ok {
    name := "prompt"
    content := .element "1" includeName [("href", "f.xml")] (.text "")
      (.element "2" includeName [("href", "f.xml")] (.text "") (.text "3")) } :=
  FileSystem.document_top (by decide) rfl (by rw [Encoding.Utf8.encode_eq_bytes]; decide)

theorem document_fragment : sharedFragment.document ["f.xml"] = .ok {
    name := "fragment"
    content := .element "x" "rule" [] (.text "")
      (.element "y" includeName [("parse", "text"), ("href", "t.txt")] (.text "") (.text "")) } :=
  FileSystem.document_top (by decide) rfl (by rw [Encoding.Utf8.encode_eq_bytes]; decide)

theorem leads_prompt : sharedFragment.view.Leads ["a.xml"] [("href", "f.xml")] .elements ["f.xml"] :=
  ⟨⟨"f.xml", .elements⟩, Except.toOption_eq_some.1 (by decide), rfl,
    FileSystem.target_top (by decide) rfl (by decide)⟩

theorem leads_fragment :
    sharedFragment.view.Leads ["f.xml"] [("parse", "text"), ("href", "t.txt")] (.text "utf-8") ["t.txt"] :=
  ⟨⟨"t.txt", .text "utf-8"⟩, Except.toOption_eq_some.1 (by decide), rfl,
    FileSystem.target_top (by decide) rfl (by decide)⟩

section

variable {e : Element} {a : List (String × String)} {t : Location}

theorem eq_of_mem_prompt (he : sharedFragment.document ["a.xml"] = .ok e) (ha : a ∈ e.content.directives) :
    a = [("href", "f.xml")] := by
  obtain rfl := Except.ok.inj (document_prompt.symm.trans he)
  simpa [Content.directives] using ha

theorem eq_of_mem_fragment (he : sharedFragment.document ["f.xml"] = .ok e) (ha : a ∈ e.content.directives) :
    a = [("parse", "text"), ("href", "t.txt")] := by
  obtain rfl := Except.ok.inj (document_fragment.symm.trans he)
  simpa [Content.directives, includeName] using ha

theorem eq_of_includes_prompt (h : sharedFragment.view.Includes ["a.xml"] t) : t = ["f.xml"] := by
  obtain ⟨e, he, a, ha, hl⟩ := h
  obtain rfl := eq_of_mem_prompt he ha
  exact (hl.unique leads_prompt).2

theorem not_includes_fragment : ¬ sharedFragment.view.Includes ["f.xml"] t := by
  rintro ⟨e, he, a, ha, hl⟩
  obtain rfl := eq_of_mem_fragment he ha
  exact nomatch (hl.unique leads_fragment).1

theorem eq_or_eq_of_reaches (h : sharedFragment.view.Reaches (Path.absolute ["a.xml"]) t) :
    t = ["a.xml"] ∨ t = ["f.xml"] := by
  obtain ⟨l, hl, h⟩ := h
  obtain rfl := Except.ok.inj (resolve_prompt.symm.trans hl)
  induction h with
  | refl => exact .inl rfl
  | tail _ ht ih =>
    obtain rfl | rfl := ih
    · exact .inr (eq_of_includes_prompt ht)
    · exact absurd ht not_includes_fragment

end

theorem intact : sharedFragment.view.Intact (Path.absolute ["a.xml"]) where
  file := ⟨["a.xml"], resolve_prompt, hasFile_prompt⟩
  document h := by
    obtain rfl | rfl := eq_or_eq_of_reaches h
    · exact ⟨_, document_prompt⟩
    · exact ⟨_, document_fragment⟩
  directive h he ha := by
    obtain rfl | rfl := eq_or_eq_of_reaches h
    · obtain rfl := eq_of_mem_prompt he ha
      exact ⟨_, _, leads_prompt, hasFile_fragment⟩
    · obtain rfl := eq_of_mem_fragment he ha
      exact ⟨_, _, leads_fragment, hasFile_text⟩
  text h := by
    rintro ⟨e, he, a, ha, hl⟩
    obtain rfl | rfl := eq_or_eq_of_reaches h
    · obtain rfl := eq_of_mem_prompt he ha
      exact nomatch (hl.unique leads_prompt).1
    · obtain rfl := eq_of_mem_fragment he ha
      obtain ⟨hm, rfl⟩ := hl.unique leads_fragment
      cases hm
      exact ⟨_, text⟩

theorem not_cyclic : ¬ sharedFragment.view.Cyclic (Path.absolute ["a.xml"]) := by
  rintro ⟨l, hl, hcycle⟩
  obtain ⟨m, hm, hback⟩ := Relation.TransGen.head'_iff.1 hcycle
  obtain rfl | rfl := eq_or_eq_of_reaches hl
  · obtain rfl := eq_of_includes_prompt hm
    obtain h | ⟨_, h, -⟩ := Relation.ReflTransGen.cases_head hback
    · exact absurd h (by decide)
    · exact not_includes_fragment h
  · exact not_includes_fragment hm

end sharedFragment

/-- A fragment that is included twice makes no cycle. -/
theorem exists_loadFresh_sharedFragment : ∃ e, loadFresh sharedFragment (Path.absolute ["a.xml"]) = .ok e :=
  (loadFresh_ok_iff_not_cyclic sharedFragment.intact).1.2 sharedFragment.not_cyclic

end PromptMarkup
