import Mathlib.Data.List.Forall2
import PromptMarkup.Document.OfTree
import PromptMarkup.Except
import PromptMarkup.Proofs.Matching
import PromptMarkup.Proofs.Text.Leaf

/-!
# Edits of the presentation

A prompt can be laid out in many ways.  `Edit` says which changes of an element concern its presentation only, given the
role that the element has where it stands: the texts between the children of a structural element, the layout of leaf
text, namespaces, children that are not looked up, and whether a value of the metadata is an attribute or an element.
The key fact: the children of one name are the same ones after an edit, or edited in their turn (`Edit.children`).
-/

namespace PromptMarkup

/-- What an element of a prompt is read as.  Its place decides it. -/
inductive Role where
  | prompt | metadata | header | toc | content
  | rule | notes | examples | template | questions | option | workflow | step
  | guidance | guidanceHeader | restrictions | rules
  | plainOption | note | leaf | code
  | other
  deriving DecidableEq

namespace Role

/-- The children that are looked up in an element, with what they are read as. -/
def lookups : Role → List (String × Role)
  | prompt => [("metadata", metadata), ("header", header), ("content", content), ("table-of-contents", toc)]
  | metadata => [("description", leaf), ("globs", leaf), ("always-apply", leaf)]
  | header => [("title", leaf), ("role", leaf), ("description", leaf)]
  | toc => [("entry", leaf)]
  | content => [("rule", rule), ("template", template), ("questions", questions), ("workflow", workflow),
      ("instructions", guidance), ("output-requirements", guidance)]
  | rule => [("notes", notes), ("examples", examples), ("title", leaf), ("subtitle", leaf), ("description", leaf)]
  | notes => [("note", note)]
  | examples => [("good", code), ("bad", code)]
  | template => [("title", leaf), ("description", leaf), ("body", code)]
  | questions => [("option", option), ("title", leaf), ("subtitle", leaf), ("description", leaf)]
  | option => [("text", leaf), ("description", leaf)]
  | workflow => [("step", step), ("title", leaf), ("subtitle", leaf), ("description", leaf)]
  | step => [("code", code), ("title", leaf), ("description", leaf)]
  | guidance => [("header", guidanceHeader), ("title", leaf), ("restrictions", restrictions), ("rules", rules),
      ("description", leaf)]
  | guidanceHeader => [("title", leaf)]
  | restrictions => [("description", leaf), ("restriction", leaf)]
  | rules => [("rule", leaf)]
  | plainOption | note | leaf | code | other => []

/-- What a child of the given local name is read as. -/
def child (r : Role) (name : String) : Role := (r.lookups.lookup name).getD other

/-- An element is structural if children are looked up in it; what stands between them is not read. -/
def IsStructural (r : Role) : Prop := r.lookups ≠ []

instance (r : Role) : Decidable r.IsStructural := inferInstanceAs (Decidable (r.lookups ≠ []))

/-- An element is a leaf if its text is read without its layout. -/
def IsLeaf (r : Role) : Prop := r = leaf ∨ r = note ∨ r = plainOption

/-- The attributes that hold leaf text. -/
def leafKeys : Role → List String
  | metadata => ["description", "globs", "alwaysApply"]
  | note => ["term"]
  | _ => []

end Role

/-- An element has a child with the local name of the text of an option. -/
def Element.HasText (e : Element) : Prop := ∃ c ∈ e.content.elements, localName? c.name = some "text"

instance (e : Element) : Decidable e.HasText := inferInstanceAs (Decidable (∃ c ∈ e.content.elements, _))

/-- What a child is read as.  An option with a text child is structural, and any other one is a leaf. -/
def Role.ofChild (r : Role) (c : Element) : Role :=
  match (localName? c.name).map r.child with
  | none => other
  | some option => if c.HasText then option else plainOption
  | some s => s

/-- The values of the metadata, each with the attribute and the child that may hold it. -/
def metadataFields : List (String × String) :=
  [("description", "description"), ("globs", "globs"), ("alwaysApply", "always-apply")]

/-- A change of an element that concerns its presentation only. -/
inductive Edit : Role → Element → Element → Prop where
  /-- Nothing changes. -/
  | refl (r e) : Edit r e e
  /-- The text that stands directly in a structural element is replaced. -/
  | texts {r n as c c'} (hr : r.IsStructural) (h : c.elements = c'.elements) : Edit r ⟨n, as, c⟩ ⟨n, as, c'⟩
  /-- The character data of a leaf is replaced by other data with the same words.  An option stays one without a text
  child. -/
  | words {r n as c c'} (hr : r.IsLeaf) (h : Text.words c.chars.toList = Text.words c'.chars.toList)
      (ho : r = .plainOption → c.elements.map Element.name = c'.elements.map Element.name) :
      Edit r ⟨n, as, c⟩ ⟨n, as, c'⟩
  /-- An attribute that holds leaf text is replaced by one with the same words. -/
  | value {r n p key v v' q c} (hk : key ∈ r.leafKeys) (h : Text.words v.toList = Text.words v'.toList) :
      Edit r ⟨n, p ++ (key, v) :: q, c⟩ ⟨n, p ++ (key, v') :: q, c⟩
  /-- The name moves to another namespace. -/
  | rename {r n n' l as c} (h : localName? n = some l) (h' : localName? n' = some l) : Edit r ⟨n, as, c⟩ ⟨n', as, c⟩
  /-- A structural element that is not the content area gets a child that is not looked up. -/
  | add {r n as b a x l} (hr : r.IsStructural) (hc : r ≠ .content) (hx : localName? x.name = some l)
      (hl : r.child l = .other) : Edit r ⟨n, as, b ++ a⟩ ⟨n, as, b ++ (Content.ofElement x ++ a)⟩
  /-- An attribute of the metadata becomes a child where there is no such child. -/
  | nest {n p key v q b a x name} (hk : (key, name) ∈ metadataFields) (hp : ∀ c ∈ p, c.1 ≠ key)
      (ha : ∀ c ∈ (b ++ a).elements, localName? c.name ≠ some name) (hx : localName? x.name = some name)
      (h : Text.words v.toList = Text.words x.chars.toList) :
      Edit .metadata ⟨n, p ++ (key, v) :: q, b ++ a⟩ ⟨n, p ++ q, b ++ (Content.ofElement x ++ a)⟩
  /-- A child is edited. -/
  | child {r n as b a x x'} (h : Edit (r.ofChild x) x x') :
      Edit r ⟨n, as, b ++ (Content.ofElement x ++ a)⟩ ⟨n, as, b ++ (Content.ofElement x' ++ a)⟩

namespace Role

theorem child_of_lookups_eq_nil {r : Role} (h : r.lookups = []) (name : String) : r.child name = other := by
  rw [child, h]
  rfl

theorem IsLeaf.lookups_eq_nil {r : Role} (h : r.IsLeaf) : r.lookups = [] := by
  obtain rfl | rfl | rfl := h <;> rfl

theorem ofChild_of_lookups_eq_nil {r : Role} (h : r.lookups = []) (c : Element) : r.ofChild c = other := by
  unfold ofChild
  cases localName? c.name with
  | none => rfl
  | some name => simp only [Option.map_some, child_of_lookups_eq_nil h]

theorem ofChild_option {c : Element} (hc : localName? c.name = some "option") :
    questions.ofChild c = if c.HasText then option else plainOption := by
  rw [ofChild, hc]
  rfl

theorem ofChild_of_child {r s : Role} {c : Element} {name : String} (hc : localName? c.name = some name)
    (hs : r.child name = s) (ho : s ≠ option) : r.ofChild c = s := by
  unfold ofChild
  rw [hc, Option.map_some, hs]
  cases s <;> first | rfl | exact absurd rfl ho

end Role

/-! ### The children of one name -/

namespace Element

/-- The children whose local name is the given one. -/
def named (es : List Element) (name : String) : List Element := es.filter fun c => localName? c.name == some name

theorem localName?_of_mem_named {es : List Element} {name : String} {c : Element} (h : c ∈ named es name) :
    localName? c.name = some name := by simpa using (List.mem_filter.1 h).2

variable {e e' : Element} {name : String}

theorem namedChildren_of_forall (h : ∀ c ∈ e.content.elements, localName? c.name ≠ none) :
    e.namedChildren = .ok (e.content.elements.map fun c => ((localName? c.name).getD "", c)) := by
  unfold namedChildren
  generalize e.content.elements = es at h ⊢
  induction es with
  | nil => rfl
  | cons c es ih =>
    obtain ⟨hc, hes⟩ := List.forall_mem_cons.1 h
    obtain ⟨n, hn⟩ := Option.ne_none_iff_exists'.1 hc
    have hlocal : localName c.name = .ok n := by rw [localName, hn]
    rw [List.mapM_cons, hlocal, ih hes, List.map_cons, hn]
    rfl

theorem children_of_forall (h : ∀ c ∈ e.content.elements, localName? c.name ≠ none) (name : String) :
    e.children name = .ok (named e.content.elements name) := by
  have hnamed : (named e.content.elements name) =
      e.content.elements.filter fun c => (localName? c.name).getD "" == name := by
    refine List.filter_congr fun c hc => ?_
    obtain ⟨n, hn⟩ := Option.ne_none_iff_exists'.1 (h c hc)
    rw [hn]
    rfl
  rw [children, namedChildren_of_forall h, hnamed]
  show Except.ok _ = Except.ok _
  rw [List.filter_map, List.map_map]
  exact congrArg _ (List.map_id _)

theorem children_of_exists (h : ∃ c ∈ e.content.elements, localName? c.name = none) (name : String) :
    e.children name = .error .malformedName := by
  have hnamed : e.namedChildren = .error .malformedName := by
    unfold namedChildren
    generalize e.content.elements = es at h ⊢
    induction es with
    | nil => simp at h
    | cons c es ih =>
      rw [List.mapM_cons]
      cases hn : localName? c.name with
      | none =>
        rw [localName, hn]
        rfl
      | some n =>
        rw [ih (by simpa [hn] using h), localName, hn]
        rfl
  rw [children, hnamed]
  rfl

/-- The children of a name are related if those with that name are, and if the names are malformed in both or in
none. -/
theorem matching_children {r : List Element → List Element → Prop}
    (hn : (∃ c ∈ e.content.elements, localName? c.name = none) ↔ ∃ c ∈ e'.content.elements, localName? c.name = none)
    (h : r (named e.content.elements name) (named e'.content.elements name)) :
    Matching r (e.children name) (e'.children name) := by
  by_cases hm : ∃ c ∈ e.content.elements, localName? c.name = none
  · rw [children_of_exists hm, children_of_exists (hn.1 hm)]
    exact .error _
  · have hm' := mt hn.2 hm
    rw [children_of_forall fun c hc hnone => hm ⟨c, hc, hnone⟩, children_of_forall fun c hc hnone => hm' ⟨c, hc, hnone⟩]
    exact .ok h

end Element

/-! ### What an edit keeps -/

theorem Element.chars_around (n : String) (as : List (String × String)) (b : Content) (x : Element) (a : Content) :
    Element.chars ⟨n, as, b ++ (Content.ofElement x ++ a)⟩ = b.chars ++ (x.chars ++ a.chars) := by
  simp [Content.chars_append, Content.ofElement, Content.chars, Element.chars]

namespace Edit

variable {r : Role} {e e' : Element} {name : String}

theorem localName?_eq (h : Edit r e e') : localName? e.name = localName? e'.name := by
  cases h with
  | rename h h' => exact h.trans h'.symm
  | _ => rfl

/-- Below what is not looked up only names change. -/
theorem chars_eq (h : Edit r e e') (hr : r = .other) : e.chars = e'.chars := by
  induction h with
  | refl | value | rename => rfl
  | texts h | add h => exact absurd (by rw [hr]; rfl) h
  | words h => subst hr; obtain h | h | h := h <;> cases h
  | nest => cases hr
  | @child r n as b a x x' h ih =>
    subst hr
    rw [Element.chars_around, Element.chars_around, ih (Role.ofChild_of_lookups_eq_nil rfl x)]

/-- The attributes change only where they hold leaf text. -/
theorem attribute?_eq (h : Edit r e e') (hr : r.leafKeys = []) (key : String) :
    e.attribute? key = e'.attribute? key := by
  cases h with
  | value hk => rw [hr] at hk; cases hk
  | nest => cases hr
  | _ => rfl

theorem leaf_eq (h : Edit r e e') (hr : r.IsLeaf) : e.leaf = e'.leaf := by
  cases h with
  | refl | value | rename => rfl
  | texts h | add h => exact absurd hr.lookups_eq_nil h
  | words _ h => exact Text.leaf_congr h
  | nest => obtain h | h | h := hr <;> cases h
  | child h =>
    have hchars := h.chars_eq (Role.ofChild_of_lookups_eq_nil hr.lookups_eq_nil _)
    rw [Element.leaf, Element.chars_around, hchars, ← Element.chars_around]
    rfl

theorem code_eq (h : Edit .code e e') : e.code = e'.code := by
  cases h with
  | refl | rename => rfl
  | texts h | add h => exact absurd rfl h
  | words h => obtain h | h | h := h <;> cases h
  | value hk => cases hk
  | child h =>
    have hchars := h.chars_eq (Role.ofChild_of_lookups_eq_nil rfl _)
    rw [Element.code, Element.chars_around, hchars, ← Element.chars_around]
    rfl

/-- The children of an option without a text child keep their local names. -/
theorem localNames_eq (h : Edit .plainOption e e') :
    e.content.elements.map (localName? ·.name) = e'.content.elements.map (localName? ·.name) := by
  cases h with
  | texts h | add h => exact absurd rfl h
  | words _ _ ho =>
    have hnames := congrArg (List.map localName?) (ho rfl)
    rwa [List.map_map, List.map_map] at hnames
  | child h => simp [h.localName?_eq]
  | _ => rfl

theorem leafAttribute_replace {n n' key k v v' : String} {p q : List (String × String)} {c c' : Content}
    (h : Text.words v.toList = Text.words v'.toList) :
    Element.leafAttribute ⟨n, p ++ (key, v) :: q, c⟩ k = Element.leafAttribute ⟨n', p ++ (key, v') :: q, c'⟩ k := by
  simp only [Element.leafAttribute, Element.attribute?, List.find?_append, List.find?_cons]
  cases p.find? fun a => a.1 == k with
  | some a => rfl
  | none =>
    cases key == k with
    | true => exact Text.leaf_congr h
    | false => rfl

theorem leafAttribute_remove {n n' key k v : String} {p q : List (String × String)} {c c' : Content} (hk : key ≠ k) :
    Element.leafAttribute ⟨n, p ++ (key, v) :: q, c⟩ k = Element.leafAttribute ⟨n', p ++ q, c'⟩ k := by
  simp only [Element.leafAttribute, Element.attribute?, List.find?_append, List.find?_cons, beq_eq_false_iff_ne.2 hk]

theorem term_eq (h : Edit .note e e') : e.leafAttribute "term" = e'.leafAttribute "term" := by
  cases h with
  | value _ h => exact leafAttribute_replace h
  | _ => rfl

/-! ### The children that are looked up -/

/-- A child of the given name and what an edit of its parent leaves of it. -/
def Edited (r : Role) (name : String) (c c' : Element) : Prop :=
  localName? c.name = some name ∧ Edit (r.ofChild c) c c'

theorem forall₂_edited_named (r : Role) (name : String) (es : List Element) :
    List.Forall₂ (Edited r name) (Element.named es name) (Element.named es name) :=
  List.forall₂_same.2 fun _ hc => ⟨Element.localName?_of_mem_named hc, .refl _ _⟩

theorem matching_children_of_elements_eq (h : e.content.elements = e'.content.elements) :
    Matching (List.Forall₂ (Edited r name)) (e.children name) (e'.children name) := by
  refine Element.matching_children (by rw [h]) ?_
  rw [h]
  exact forall₂_edited_named r name _

section

variable {n n' l : String} {as as' : List (String × String)} {b a : Content} {x x' : Element}

theorem matching_children_add (hx : localName? x.name = some l) (hl : l ≠ name) :
    Matching (List.Forall₂ (Edited r name)) (Element.children ⟨n, as, b ++ a⟩ name)
      (Element.children ⟨n', as', b ++ (Content.ofElement x ++ a)⟩ name) := by
  have hnamed : Element.named (b.elements ++ x :: a.elements) name = Element.named (b.elements ++ a.elements) name := by
    simp [Element.named, hx, hl]
  refine Element.matching_children ?_ ?_
  · simp [hx, or_and_right, exists_or]
  · simp only [Content.elements_append, Content.elements_ofElement, List.singleton_append, hnamed]
    exact forall₂_edited_named r name _

theorem matching_children_child (h : Edit (r.ofChild x) x x') :
    Matching (List.Forall₂ (Edited r name)) (Element.children ⟨n, as, b ++ (Content.ofElement x ++ a)⟩ name)
      (Element.children ⟨n', as', b ++ (Content.ofElement x' ++ a)⟩ name) := by
  have hname := h.localName?_eq
  refine Element.matching_children ?_ ?_
  · simp [hname, or_and_right, exists_or]
  · simp only [Content.elements_append, Content.elements_ofElement, List.singleton_append, Element.named,
      List.filter_append, List.filter_cons, ← hname]
    refine List.rel_append (forall₂_edited_named r name _) ?_
    by_cases hx : localName? x.name = some name
    · simp only [hx, beq_self_eq_true, if_true]
      exact .cons ⟨hx, h⟩ (forall₂_edited_named r name _)
    · simp only [beq_eq_false_iff_ne.2 hx, Bool.false_eq_true, if_false]
      exact forall₂_edited_named r name _

end

/-- The children of a name that is looked up are the ones before, each of them as it was or edited. -/
theorem children (h : Edit r e e') (hm : r ≠ .metadata) (hl : r.child name ≠ .other) :
    Matching (List.Forall₂ (Edited r name)) (e.children name) (e'.children name) := by
  cases h with
  | refl | value | rename => exact matching_children_of_elements_eq rfl
  | texts _ h => exact matching_children_of_elements_eq h
  | words hr => exact absurd (Role.child_of_lookups_eq_nil hr.lookups_eq_nil name) hl
  | add _ _ hx hl' =>
    refine matching_children_add hx ?_
    rintro rfl
    exact hl hl'
  | nest => exact absurd rfl hm
  | child h => exact matching_children_child h

theorem child? (h : Edit r e e') (hm : r ≠ .metadata) (hl : r.child name ≠ .other) :
    Matching (Option.Rel (Edited r name)) (e.child? name) (e'.child? name) := by
  refine (h.children hm hl).bind fun cs cs' hcs => .ok ?_
  cases hcs with
  | nil => exact .none
  | cons hc _ => exact .some hc

end Edit

end PromptMarkup
