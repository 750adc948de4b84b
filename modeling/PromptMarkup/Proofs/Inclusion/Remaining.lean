import PromptMarkup.Proofs.Inclusion.Refinement

/-!
# Directives that remain

A directive gives way to what it includes, but the root element of a document is not looked at: if it is a
directive itself, it stays, and takes its place in the composed tree.  The main result: these roots are the
only directives that remain (`mem_names_load`).
-/

namespace PromptMarkup

namespace View

/-- The root element of a document is a directive. -/
def RootDirective (v : View) (l : Location) : Prop := ∃ e, v.document l = .ok e ∧ e.name = includeName

/-- A document leads to one whose root element is a directive. -/
def LeadsToRootDirective (v : View) (l : Location) : Prop :=
  ∃ t, Relation.ReflTransGen v.Includes l t ∧ v.RootDirective t

variable {v : View} {document : Location} {chain : Chain}

/-- A directive in content of a document leads to a document whose root element is a directive. -/
def LeavesDirective (v : View) (document : Location) (c : Content) : Prop :=
  ∃ a ∈ c.directives, ∃ t, v.Leads document a .elements t ∧ v.LeadsToRootDirective t

theorem leadsToRootDirective_iff {l : Location} {e : Element} (h : v.document l = .ok e) :
    v.LeadsToRootDirective l ↔ e.name = includeName ∨ v.LeavesDirective l e.content := by
  constructor
  · rintro ⟨t, hl, ht⟩
    obtain rfl | ⟨m, ⟨e', he, a, ha, hm⟩, hl⟩ := Relation.ReflTransGen.cases_head hl
    · obtain ⟨e', he, hn⟩ := ht
      obtain rfl : e = e' := by simpa [h] using he
      exact .inl hn
    · obtain rfl : e = e' := by simpa [h] using he
      exact .inr ⟨a, ha, m, hm, t, hl, ht⟩
  · rintro (hn | ⟨a, ha, m, hm, t, hl, ht⟩)
    · exact ⟨l, .refl, e, h, hn⟩
    · exact ⟨t, .head ⟨e, h, a, ha, hm⟩ hl, ht⟩

@[simp] theorem leavesDirective_text (s : String) : ¬ v.LeavesDirective document (.text s) := by
  simp [LeavesDirective, Content.directives]

@[simp] theorem leavesDirective_comment (before inside : String) (rest : Content) :
    v.LeavesDirective document (.comment before inside rest) ↔ v.LeavesDirective document rest := Iff.rfl

@[simp] theorem leavesDirective_include (before : String) (attributes : List (String × String))
    (content rest : Content) :
    v.LeavesDirective document (.element before includeName attributes content rest) ↔
      (∃ t, v.Leads document attributes .elements t ∧ v.LeadsToRootDirective t) ∨
        v.LeavesDirective document rest := by
  simp [LeavesDirective, Content.directives]

theorem leavesDirective_element {name : String} (hn : name ≠ includeName) (before : String)
    (attributes : List (String × String)) (content rest : Content) :
    v.LeavesDirective document (.element before name attributes content rest) ↔
      v.LeavesDirective document content ∨ v.LeavesDirective document rest := by
  simp [LeavesDirective, Content.directives, hn, or_and_right, exists_or]

theorem localName_includeName : localName includeName = .ok "include" := by
  rw [localName, show localName? includeName = some "include" by decide]

/-- A root that gives its children away is not a directive, whose local name is another. -/
theorem mem_names_spliced {root : Element} {c : Content} (h : root.spliced = .ok c) :
    includeName ∈ c.names ↔ includeName ∈ root.names := by
  obtain ⟨n, hn, h⟩ := Except.bind_eq_ok.1 h
  split at h
  · cases h
    subst n
    have : root.name ≠ includeName := by
      intro h
      rw [h, localName_includeName] at hn
      exact absurd hn (by simp [fragmentName])
    simp [Element.names, this.symm]
  · cases h
    simp

/-- What a directive stands for holds a directive if and only if it leads to a document with such a root,
given that this is so of the documents that it leads to. -/
theorem mem_names_inclusion {attributes : List (String × String)} {included : Content}
    (ih : ∀ t ∈ v.files, ¬ chain.contains t → ∀ (root : Element) {content : Content},
      v.compose t (chain ++ [t]) root.content = .ok content →
        (includeName ∈ content.names ↔ v.LeavesDirective t root.content))
    (h : v.inclusion document chain attributes = .ok included) :
    includeName ∈ included.names ↔ ∃ t, v.Leads document attributes .elements t ∧ v.LeadsToRootDirective t := by
  obtain ⟨mode, t, hl, hf⟩ := exists_leads_of_inclusion h
  cases mode with
  | text encoding =>
    rw [inclusion_text hl hf] at h
    obtain ⟨s, -, rfl⟩ := Except.map_eq_ok.1 h
    have : ¬ ∃ t, v.Leads document attributes .elements t ∧ v.LeadsToRootDirective t := by
      rintro ⟨u, hu, -⟩
      cases (hl.unique hu).1
    simp [Content.names, this]
  | elements =>
    rw [inclusion_elements hl hf] at h
    split at h
    · cases h
    · rename_i hc
      obtain ⟨root, hr, h⟩ := Except.bind_eq_ok.1 h
      obtain ⟨content, hcontent, h⟩ := Except.bind_eq_ok.1 h
      have : (∃ u, v.Leads document attributes .elements u ∧ v.LeadsToRootDirective u) ↔
          v.LeadsToRootDirective t := by
        refine ⟨?_, fun h => ⟨t, hl, h⟩⟩
        rintro ⟨u, hu, h⟩
        rwa [(hl.unique hu).2]
      rw [mem_names_spliced h, this, leadsToRootDirective_iff (readDocument_eq_ok.1 hr),
        ← ih t (v.mem_files hf) hc root hcontent, Element.names, List.mem_cons, eq_comm]

/-- Composed content holds a directive if and only if a directive in the content leads to a document with such
a root. -/
theorem mem_names_compose {content r : Content} (h : v.compose document chain content = .ok r) :
    includeName ∈ r.names ↔ v.LeavesDirective document content := by
  -- What a directive brings in is known by induction at the document that it leads to, on the longer chain.
  induction document, chain, content using compose.induct (v := v) generalizing r with
  | case1 document chain s =>
    rw [compose_text] at h
    cases h
    simp [Content.names]
  | case2 document chain before inside rest ih =>
    rw [compose_comment] at h
    obtain ⟨rest', hr, h⟩ := Except.bind_eq_ok.1 h
    cases h
    simpa [Content.names] using ih hr
  | case3 document chain before attributes content rest ihRest ihRoot =>
    rw [compose_include] at h
    obtain ⟨included, hi, h⟩ := Except.bind_eq_ok.1 h
    obtain ⟨rest', hr, h⟩ := Except.bind_eq_ok.1 h
    cases h
    have := mem_names_inclusion ihRoot hi
    simp [this, ihRest hr]
  | case4 document chain before name attributes content rest hn ihContent ihRest =>
    rw [compose_element v document chain hn] at h
    obtain ⟨content', hc, h⟩ := Except.bind_eq_ok.1 h
    obtain ⟨rest', hr, h⟩ := Except.bind_eq_ok.1 h
    cases h
    simp [Content.names, Ne.symm hn, leavesDirective_element hn, ihContent hc, ihRest hr]

/-- The composition of a root document holds a directive if and only if the document leads to one whose root
element is a directive. -/
theorem mem_names_composition {root : Path} {e : Element} (h : v.composition root = .ok e) :
    includeName ∈ e.names ↔ ∃ l, v.Reaches root l ∧ v.RootDirective l := by
  obtain ⟨l, hl, h⟩ := Except.bind_eq_ok.1 h
  obtain ⟨b, -, h⟩ := Except.bind_eq_ok.1 h
  split at h
  · obtain ⟨e', he, h⟩ := Except.bind_eq_ok.1 h
    obtain ⟨content, hc, h⟩ := Except.bind_eq_ok.1 h
    cases h
    have hr : v.resolve root = .ok l := Except.mapError_eq_ok.1 hl
    have hreach : (∃ t, v.Reaches root t ∧ v.RootDirective t) ↔ v.LeadsToRootDirective l := by
      simp [Reaches, LeadsToRootDirective, hr]
    rw [hreach, leadsToRootDirective_iff (readDocument_eq_ok.1 he), ← mem_names_compose hc, Element.names,
      List.mem_cons, eq_comm]
  · cases h

end View

/-- The directives that a load leaves: they stand where the root element of a document is a directive, and
nowhere else. -/
theorem mem_names_load {v : View} {c : Cache} {root : Path} {e : Element}
    (h : ((load v root).outcome c).1 = .ok e) :
    includeName ∈ e.names ↔ ∃ l, (v.recalling c).Reaches root l ∧ (v.recalling c).RootDirective l := by
  have ho := Loading.explained_load v c root
  rw [ho.eq] at h
  have hd := ho.grows.document
  have hr := View.reaches_congr (v := v.recalling ((load v root).outcome c).2) (w := v.recalling c) rfl hd
  rw [View.mem_names_composition h]
  simp only [hr, View.RootDirective, hd]

/-- A root element without children is loaded as it is. -/
theorem loadFresh_of_childless {v : View} {root : Path} {l : Location} {e : Element} (hr : v.resolve root = .ok l)
    (hf : v.hasFile l = .ok true) (hd : v.document l = .ok e) (hc : e.content.slots.children = []) :
    loadFresh v root = .ok e := by
  have hs : resolve v l [l] 0 e.content.slots = pure e.content.slots := resolve_none (by simp [hc])
  have hr' : (v.resolve root).mapError Failure.files = .ok l := Except.mapError_eq_ok.2 hr
  have hf' : (v.hasFile l).mapError Failure.files = .ok true := Except.mapError_eq_ok.2 hf
  simp [loadFresh, load, hr', hf', Loading.outcome_bind, Loading.outcome_document, Loading.fetch,
    View.readDocument_eq_ok.2 hd, hs, Slots.content_slots]

/-- A prompt that is nothing but a directive. -/
def directiveAsRoot : FileSystem where
  current := []
  nodes := [
    (["a.xml"], .file (Encoding.Utf8.encode
      "<xi:include xmlns:xi='http://www.w3.org/2001/XInclude' href='b.xml'/>")),
    (["b.xml"], .file (Encoding.Utf8.encode "<prompt/>"))]

theorem loadFresh_directiveAsRoot :
    loadFresh directiveAsRoot (Path.absolute ["a.xml"]) =
      .ok { name := includeName, attributes := [("href", "b.xml")] } := by
  have hn : FileSystem.Plain "a.xml" := by decide
  have hf : directiveAsRoot.node? ["a.xml"] = some (.file _) := rfl
  exact loadFresh_of_childless (FileSystem.resolve_top hn hf) (FileSystem.hasFile_top hn hf)
    (FileSystem.document_top hn hf (by rw [Encoding.Utf8.encode_eq_bytes]; decide)) rfl

/-- A prompt that is nothing but a directive loads as a tree that holds one. -/
theorem exists_loadFresh_directiveAsRoot :
    ∃ e, loadFresh directiveAsRoot (Path.absolute ["a.xml"]) = .ok e ∧ includeName ∈ e.names :=
  ⟨_, loadFresh_directiveAsRoot, List.mem_cons_self⟩

/-- The directive that remains of such a prompt is the root element of a document that the prompt leads to. -/
theorem exists_rootDirective_directiveAsRoot :
    ∃ l, directiveAsRoot.view.Reaches (Path.absolute ["a.xml"]) l ∧ directiveAsRoot.view.RootDirective l :=
  (mem_names_load (c := {}) loadFresh_directiveAsRoot).1 List.mem_cons_self

end PromptMarkup
