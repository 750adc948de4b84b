import PromptMarkup.Proofs.Inclusion.Twins

/-!
# Sections distributed over files

The sections of a content area may stand in the document itself, in fragments that it includes, in fragments of these,
or each in a file of its own.  An `Outline` says which section stands where, and with which texts around it.  The main
result: composing what an outline writes into a document gives content with the sections of the outline, in their
order, whatever the texts are (`gives_compose_written`).
-/

namespace PromptMarkup

namespace Content

theorem directives_eq_nil_of_names {c : Content} (h : includeName ∉ c.names) : c.directives = [] := by
  induction c with
  | text s => rfl
  | comment b i r ih => exact ih h
  | element b n a c r ihc ihr =>
    have hn : includeName ≠ n ∧ includeName ∉ c.names ∧ includeName ∉ r.names := by simpa [names] using h
    rw [directives, if_neg hn.1.symm, ihc hn.2.1, ihr hn.2.2, List.append_nil]

/-- Content whose elements hold no directives holds none. -/
theorem directives_eq_nil_of_elements {c : Content} (h : ∀ e ∈ c.elements, includeName ∉ e.names) :
    c.directives = [] := by
  induction c with
  | text s => rfl
  | comment b i r ih => exact ih h
  | element b n a c r _ ih =>
    obtain ⟨he, hr⟩ := List.forall_mem_cons.1 h
    have hn : includeName ≠ n ∧ includeName ∉ c.names := by simpa [Element.names] using he
    rw [directives, if_neg hn.1.symm, directives_eq_nil_of_names hn.2, ih hr, List.append_nil]

end Content

/-- An element that can stand for a section: it is no fragment, and holds no directive. -/
structure Element.IsWhole (e : Element) : Prop where
  name : localName? e.name ≠ some fragmentName
  names : includeName ∉ e.names

/-- Where sections stand.  Each item has the text before it, and a directive has its attributes and what is written
inside it. -/
inductive Outline where
  /-- No more sections: the text behind the last one. -/
  | done (text : String)
  /-- A section in the document itself. -/
  | here (before : String) (s : Element) (rest : Outline)
  /-- A directive for a file with one section as its root. -/
  | single (before : String) (attributes : List (String × String)) (inside : Content) (file : Location) (s : Element)
      (rest : Outline)
  /-- A directive for a file with a fragment of some sections. -/
  | fragment (before : String) (attributes : List (String × String)) (inside : Content) (file : Location)
      (rootName : String) (rootAttributes : List (String × String)) (sections rest : Outline)

namespace Outline

/-- What is written into the document. -/
def written : Outline → Content
  | done text => .text text
  | here before s rest => .element before s.name s.attributes s.content rest.written
  | single before attributes inside _ _ rest => .element before includeName attributes inside rest.written
  | fragment before attributes inside _ _ _ _ rest => .element before includeName attributes inside rest.written

/-- The sections in order. -/
def sections : Outline → List Element
  | done _ => []
  | here _ s rest => s :: rest.sections
  | single _ _ _ _ s rest => s :: rest.sections
  | fragment _ _ _ _ _ _ inner rest => inner.sections ++ rest.sections

/-- The files that sections stand in, apart from the document. -/
def files : Outline → List Location
  | done _ => []
  | here _ _ rest => rest.files
  | single _ _ _ file _ rest => file :: rest.files
  | fragment _ _ _ file _ _ inner rest => file :: (inner.files ++ rest.files)

/-- The files hold what the outline says, and each directive leads from its own document to its file. -/
def Stored (v : View) (document : Location) : Outline → Prop
  | done _ => True
  | here _ _ rest => rest.Stored v document
  | single _ attributes _ file s rest =>
    v.Leads document attributes .elements file ∧ v.hasFile file = .ok true ∧ v.document file = .ok s ∧
      rest.Stored v document
  | fragment _ attributes _ file rootName rootAttributes inner rest =>
    v.Leads document attributes .elements file ∧ v.hasFile file = .ok true ∧
      localName? rootName = some fragmentName ∧ v.document file = .ok ⟨rootName, rootAttributes, inner.written⟩ ∧
      inner.Stored v file ∧ rest.Stored v document

end Outline

namespace Loading

variable {α β : Type} {v : View} {p : α → Prop} {q : β → Prop}

/-- From truthful caches a computation gives a result of some kind, and keeps no more texts. -/
def Gives (v : View) (p : α → Prop) (x : Loading α) : Prop :=
  ∀ c, c.Truthful v →
    ∃ a, (x.outcome c).1 = .ok a ∧ p a ∧ (x.outcome c).2.Truthful v ∧ (x.outcome c).2.texts = c.texts

theorem gives_lift {x : Except Failure α} {a : α} (hx : x = .ok a) (ha : p a) : Gives v p (liftM x) := by
  intro c hc
  rw [outcome_lift]
  exact ⟨a, hx, ha, hc, rfl⟩

theorem gives_pure {a : α} (ha : p a) : Gives v p (pure a) := gives_lift rfl ha

theorem Gives.bind {x : Loading α} {f : α → Loading β} (hx : Gives v p x) (hf : ∀ a, p a → Gives v q (f a)) :
    Gives v q (x >>= f) := by
  intro c hc
  obtain ⟨a, ha, hp, hc', ht⟩ := hx c hc
  rw [outcome_bind]
  rcases hxc : x.outcome c with ⟨o, c'⟩
  rw [hxc] at ha hc' ht
  obtain rfl : o = .ok a := ha
  obtain ⟨b, hb, hq, hc'', ht'⟩ := hf a hp c' hc'
  exact ⟨b, hb, hq, hc'', ht'.trans ht⟩

theorem gives_document {l : Location} {e : Element} (h : v.document l = .ok e) (chain : Chain) :
    Gives v (e = ·) (document v l chain) := by
  intro c hc
  obtain ⟨ho, hc', ht⟩ := outcome_document_of_truthful hc l chain
  exact ⟨e, ho.trans (View.readDocument_eq_ok.2 h), rfl, hc', ht⟩

/-- A computation that only gives something tracks one that has its result already. -/
theorem Gives.tracks {w : View} {r : α → β → Prop} {x : Loading α} {b : β} (hx : Gives v p x)
    (h : ∀ a, p a → r a b) : Tracks v w r x (pure b) := by
  intro c d hcd
  obtain ⟨a, ha, hp, hc, ht⟩ := hx c hcd.left
  rw [ha]
  exact ⟨.ok (h a hp), hc, hcd.right, fun t => by rw [ht]; exact hcd.texts t⟩

/-- Composing what an outline writes gives its sections. -/
theorem gives_compose_written (hnamed : ∀ {l e}, v.document l = .ok e → (localName? e.name).isSome) (o : Outline)
    {document : Location} {chain : Chain} (hst : o.Stored v document) (hs : ∀ s ∈ o.sections, s.IsWhole)
    (hchain : ∀ f ∈ o.files, f ∉ chain) (hnodup : o.files.Nodup) :
    Gives v (fun c => c.elements = o.sections) (compose v document chain o.written) := by
  induction o generalizing document chain with
  | done text =>
    rw [Outline.written, compose_text]
    exact gives_pure rfl
  | here before s rest ih =>
    obtain ⟨hsec, hrest⟩ := List.forall_mem_cons.1 hs
    have hn : includeName ≠ s.name ∧ includeName ∉ s.content.names := by simpa [Element.names] using hsec.names
    rw [Outline.written, compose_element v document chain hn.1.symm,
      compose_of_directives_eq_nil v document chain (Content.directives_eq_nil_of_names hn.2), pure_bind]
    refine (ih hst hrest hchain hnodup).bind fun c hc => gives_pure ?_
    rw [Content.elements, hc, Outline.sections]
  | single before attributes inside file s rest ih =>
    obtain ⟨hlead, hfile, hdoc, hst⟩ := hst
    obtain ⟨hsec, hrest⟩ := List.forall_mem_cons.1 hs
    obtain ⟨hfc, hchain⟩ := List.forall_mem_cons.1 hchain
    have hc : s.content.directives = [] :=
      Content.directives_eq_nil_of_names fun h => hsec.names (List.mem_cons_of_mem _ h)
    -- The root of the file is no fragment, so it is included as it stands.
    obtain ⟨n, hn⟩ := Option.isSome_iff_exists.1 (hnamed hdoc)
    have hnf : n ≠ fragmentName := fun h => hsec.name (by rw [hn, h])
    have hspliced : s.spliced = .ok (.ofElement s) := by
      rw [Element.spliced, localName, hn]
      show (if n = fragmentName then _ else _) = _
      rw [if_neg hnf]
      rfl
    rw [Outline.written, compose_include, inclusion_elements hlead hfile hfc]
    simp only [bind_assoc]
    refine (gives_document hdoc _).bind ?_
    rintro _ rfl
    rw [compose_of_directives_eq_nil v file (chain ++ [file]) hc, pure_bind]
    refine (gives_lift (p := (Content.ofElement s = ·)) hspliced rfl).bind ?_
    rintro _ rfl
    refine (ih hst hrest hchain (List.nodup_cons.1 hnodup).2).bind fun c hc => gives_pure ?_
    simp [hc, Outline.sections]
  | fragment before attributes inside file rootName rootAttributes inner rest ihInner ihRest =>
    obtain ⟨hlead, hfile, hname, hdoc, hinner, hst⟩ := hst
    obtain ⟨hfc, hchain⟩ := List.forall_mem_cons.1 hchain
    obtain ⟨hfn, hnd⟩ := List.nodup_cons.1 hnodup
    obtain ⟨hndi, hndr, -⟩ := List.nodup_append.1 hnd
    have hspliced (c : Content) : Element.spliced ⟨rootName, rootAttributes, c⟩ = .ok c.dropLeading := by
      rw [Element.spliced, localName, hname]
      rfl
    have hinnerChain : ∀ f ∈ inner.files, f ∉ chain ++ [file] := by
      intro f hf hm
      obtain hm | rfl : f ∈ chain ∨ f = file := by simpa using hm
      · exact hchain f (List.mem_append_left _ hf) hm
      · exact hfn (List.mem_append_left _ hf)
    rw [Outline.written, compose_include, inclusion_elements hlead hfile hfc]
    simp only [bind_assoc]
    refine (gives_document hdoc _).bind ?_
    rintro _ rfl
    refine (ihInner hinner (fun s h => hs s (List.mem_append_left _ h)) hinnerChain hndi).bind fun c hc => ?_
    refine (gives_lift (p := (c.dropLeading = ·)) (hspliced c) rfl).bind ?_
    rintro _ rfl
    refine (ihRest hst (fun s h => hs s (List.mem_append_right _ h))
      (fun f hf => hchain f (List.mem_append_right _ hf)) hndr).bind fun d hd => gives_pure ?_
    simp [hc, hd, Outline.sections]

end Loading

end PromptMarkup
