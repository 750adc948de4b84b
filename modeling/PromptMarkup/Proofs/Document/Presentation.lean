import Mathlib.Logic.Relation
import PromptMarkup.Proofs.Document.Edits

/-!
# Presentation does not matter

Edits of the presentation leave what is read from an element as it was, one lemma for each function that reads.  A tree
is therefore read as the same document, or with the same failure, after any number of edits (`ofTree_eq_of_edits`).
-/

namespace PromptMarkup

namespace Edit

variable {r s : Role} {e e' c c' : Element} {cs cs' : List Element} {name : String} {source : Option Path}
  {path : String}

theorem Edited.edit (h : Edited r name c c') (hs : r.child name = s) (ho : s ≠ .option) : Edit s c c' := by
  rw [← Role.ofChild_of_child h.1 hs ho]
  exact h.2

theorem Edited.leaf_eq (h : Edited r name c c') (hl : r.child name = .leaf) : c.leaf = c'.leaf :=
  (h.edit hl (by decide)).leaf_eq (.inl rfl)

theorem map_leaf_eq (h : List.Forall₂ (Edited r name) cs cs') (hl : r.child name = .leaf) :
    cs.map Element.leaf = cs'.map Element.leaf := by
  induction h with
  | nil => rfl
  | cons hc _ ih => rw [List.map_cons, List.map_cons, hc.leaf_eq hl, ih]

theorem mapM_numbered_eq {α : Type} {p : Element → Element → Prop} {f g : Nat × Element → Except Failure α}
    (h : List.Forall₂ p cs cs') (hfg : ∀ i a b, p a b → f (i, a) = g (i, b)) :
    (numbered cs).mapM f = (numbered cs').mapM g := by
  unfold numbered
  generalize 1 = k
  induction h generalizing k with
  | nil => rfl
  | cons hc _ ih =>
    simp only [List.zipIdx_cons, List.map_cons, List.mapM_cons]
    rw [hfg _ _ _ hc, ih]

/-! ### Lookups -/

theorem require (h : Edit r e e') (name : String) (hm : r ≠ .metadata) (hl : r.child name ≠ .other) :
    Matching (Edited r name) (Reading.require source e name path) (Reading.require source e' name path) := by
  refine (h.child? hm hl).bind fun o o' ho => ?_
  cases ho with
  | none => exact .error _
  | some hc => exact .ok hc

theorem requireLeaf_eq (h : Edit r e e') (name : String) (hm : r ≠ .metadata) (hl : r.child name = .leaf) :
    Reading.requireLeaf source e name path = Reading.requireLeaf source e' name path := by
  refine (h.require name hm (by simp [hl])).bind_eq fun c c' hc => ?_
  rw [hc.leaf_eq hl]

theorem optionalLeaf_eq (h : Edit r e e') (name : String) (hm : r ≠ .metadata) (hl : r.child name = .leaf) :
    Reading.optionalLeaf e name = Reading.optionalLeaf e' name := by
  refine (h.child? hm (by simp [hl])).bind_eq fun o o' ho => ?_
  cases ho with
  | none => rfl
  | some hc => exact congrArg Except.ok (hc.leaf_eq hl)

theorem integer?_eq (h : Edit r e e') (hr : r.leafKeys = []) (name : String) :
    Reading.integer? source e name path = Reading.integer? source e' name path := by
  rw [Reading.integer?, h.attribute?_eq hr, ← Reading.integer?]

theorem map_code_eq {o o' : Option Element} (h : Option.Rel (Edited r name) o o') (hc : r.child name = .code) :
    o.map Element.code = o'.map Element.code := by
  cases h with
  | none => rfl
  | some h => exact congrArg some (h.edit hc (by decide)).code_eq

/-! ### Metadata and table of contents -/

theorem metadataValue_eq_of_children {key : String}
    (h : Matching (List.Forall₂ (Edited .metadata name)) (e.children name) (e'.children name))
    (hl : Role.metadata.child name = .leaf) (hk : e.leafAttribute key = e'.leafAttribute key) :
    Reading.metadataValue e name key = Reading.metadataValue e' name key := by
  refine (h.bind fun cs cs' hcs => ?_ : Matching (Option.Rel (Edited .metadata name)) _ _).bind_eq fun o o' ho => ?_
  · cases hcs with
    | nil => exact .ok .none
    | cons hc _ => exact .ok (.some hc)
  · cases ho with
    | none => exact congrArg Except.ok hk
    | some hc => exact congrArg Except.ok (hc.leaf_eq hl)

/-- A child that takes the place of an attribute is read as that was. -/
theorem metadataValue_nest {n key v : String} {p q : List (String × String)} {b a : Content} {x : Element}
    (hp : ∀ c ∈ p, c.1 ≠ key) (ha : ∀ c ∈ (b ++ a).elements, localName? c.name ≠ some name)
    (hx : localName? x.name = some name) (h : Text.words v.toList = Text.words x.chars.toList) :
    Reading.metadataValue ⟨n, p ++ (key, v) :: q, b ++ a⟩ name key =
      Reading.metadataValue ⟨n, p ++ q, b ++ (Content.ofElement x ++ a)⟩ name key := by
  have hnone : Element.named (b.elements ++ a.elements) name = [] := by
    rw [Content.elements_append] at ha
    exact List.filter_eq_nil_iff.2 fun c hc => by simpa using ha c hc
  have hone : Element.named (b.elements ++ x :: a.elements) name = [x] := by
    rw [Element.named, List.filter_append, List.append_eq_nil_iff] at hnone
    simp [Element.named, List.filter_append, hnone.1, hnone.2, hx]
  have hchildren : Matching (fun cs cs' => cs = [] ∧ cs' = [x])
      (Element.children ⟨n, p ++ (key, v) :: q, b ++ a⟩ name)
      (Element.children ⟨n, p ++ q, b ++ (Content.ofElement x ++ a)⟩ name) := by
    refine Element.matching_children ?_ ?_
    · simp [hx, or_and_right, exists_or]
    · simp only [Content.elements_append, Content.elements_ofElement, List.singleton_append]
      exact ⟨hnone, hone⟩
  have hchild? : Matching (fun o o' => o = none ∧ o' = some x)
      (Element.child? ⟨n, p ++ (key, v) :: q, b ++ a⟩ name)
      (Element.child? ⟨n, p ++ q, b ++ (Content.ofElement x ++ a)⟩ name) := by
    refine hchildren.bind ?_
    rintro _ _ ⟨rfl, rfl⟩
    exact .ok ⟨rfl, rfl⟩
  refine hchild?.bind_eq ?_
  rintro _ _ ⟨rfl, rfl⟩
  have hp : p.find? (fun c => c.1 == key) = none := List.find?_eq_none.2 fun c hc => by simpa using hp c hc
  have hv : Element.leafAttribute ⟨n, p ++ (key, v) :: q, b ++ a⟩ key = x.leaf := by
    simp only [Element.leafAttribute, Element.attribute?, List.find?_append, hp, Option.none_or, List.find?_cons,
      beq_self_eq_true, Option.map_some]
    exact Text.leaf_congr h
  simp only [hv]

theorem metadataValue_eq {key : String} (h : Edit .metadata e e') (hk : (key, name) ∈ metadataFields) :
    Reading.metadataValue e name key = Reading.metadataValue e' name key := by
  have hl : Role.metadata.child name = .leaf := by
    simp only [metadataFields, List.mem_cons, List.mem_nil_iff, Prod.mk.injEq, or_false] at hk
    obtain ⟨-, rfl⟩ | ⟨-, rfl⟩ | ⟨-, rfl⟩ := hk <;> rfl
  cases h with
  | refl => rfl
  | texts _ h => exact metadataValue_eq_of_children (matching_children_of_elements_eq h) hl rfl
  | words hr => obtain h | h | h := hr <;> cases h
  | value _ h => exact metadataValue_eq_of_children (matching_children_of_elements_eq rfl) hl (leafAttribute_replace h)
  | rename => exact metadataValue_eq_of_children (matching_children_of_elements_eq rfl) hl rfl
  | add _ _ hx hother =>
    refine metadataValue_eq_of_children (matching_children_add hx ?_) hl rfl
    rintro rfl
    rw [hl] at hother
    cases hother
  | @nest n p key' v q b a x name' hk' hp ha hx h =>
    by_cases hn : name' = name
    · subst hn
      obtain rfl : key' = key := by
        simp only [metadataFields, List.mem_cons, List.mem_nil_iff, Prod.mk.injEq, or_false] at hk hk'
        obtain ⟨rfl, rfl⟩ | ⟨rfl, rfl⟩ | ⟨rfl, rfl⟩ := hk <;> simpa using hk'
      exact metadataValue_nest hp ha hx h
    · refine metadataValue_eq_of_children (matching_children_add hx hn) hl (leafAttribute_remove ?_)
      rintro rfl
      simp only [metadataFields, List.mem_cons, List.mem_nil_iff, Prod.mk.injEq, or_false] at hk hk'
      obtain ⟨rfl, rfl⟩ | ⟨rfl, rfl⟩ | ⟨rfl, rfl⟩ := hk <;> exact hn (by simpa using hk')
  | child h => exact metadataValue_eq_of_children (matching_children_child h) hl rfl

theorem metadata_eq (h : Edit .metadata e e') : Reading.metadata e = Reading.metadata e' := by
  rw [Reading.metadata, h.metadataValue_eq (by decide), h.metadataValue_eq (by decide), h.metadataValue_eq (by decide)]
  rfl

theorem toc_eq (h : Edit .toc e e') : Reading.toc e = Reading.toc e' := by
  refine (h.children (by decide) (by decide)).bind_eq fun es es' hes => ?_
  rw [map_leaf_eq hes rfl, h.attribute?_eq rfl]

/-! ### Sections -/

theorem notes_eq (h : Edit .rule e e') : Reading.notes source e path = Reading.notes source e' path := by
  refine (h.child? (by decide) (by decide)).bind_eq fun o o' ho => ?_
  cases ho with
  | none => rfl
  | some hc =>
    have hnotes : Edit .notes _ _ := hc.edit rfl (by decide)
    refine (hnotes.children (by decide) (by decide)).bind_eq fun ns ns' hns =>
      mapM_numbered_eq hns fun i n n' hn => ?_
    have hnote : Edit .note n n' := hn.edit rfl (by decide)
    simp only [hnote.term_eq, hnote.leaf_eq (.inr (.inl rfl))]

theorem examples_eq (h : Edit .rule e e') : Reading.examples e = Reading.examples e' := by
  refine (h.child? (by decide) (by decide)).bind_eq fun o o' ho => ?_
  cases ho with
  | none => rfl
  | some hc =>
    have hx : Edit .examples _ _ := hc.edit rfl (by decide)
    refine (hx.child? (by decide) (by decide)).bind_eq fun g g' hg =>
      (hx.child? (by decide) (by decide)).bind_eq fun b b' hb => ?_
    rw [map_code_eq hg rfl, map_code_eq hb rfl]

theorem rule_eq (h : Edit .rule e e') : Reading.rule source e path = Reading.rule source e' path := by
  simp only [Reading.rule, h.integer?_eq rfl, h.notes_eq, h.examples_eq, h.requireLeaf_eq "title" (by decide) rfl,
    h.requireLeaf_eq "subtitle" (by decide) rfl, h.requireLeaf_eq "description" (by decide) rfl]

theorem template_eq (h : Edit .template e e') : Reading.template source e path = Reading.template source e' path := by
  rw [Reading.template, h.requireLeaf_eq "title" (by decide) rfl, h.requireLeaf_eq "description" (by decide) rfl]
  refine bind_congr fun title => bind_congr fun description =>
    (h.require "body" (by decide) (by decide)).bind_eq fun body body' hb => ?_
  rw [(hb.edit rfl (by decide) : Edit .code body body').code_eq]

/-- An option has no text child, or it cannot be told. -/
theorem matching_child?_text (h : Edit .plainOption e e') (ht : ¬ e.HasText) :
    Matching (fun o o' => o = none ∧ o' = none) (e.child? "text") (e'.child? "text") := by
  have hnames (o : Option String) :
      (∃ c ∈ e.content.elements, localName? c.name = o) ↔ ∃ c ∈ e'.content.elements, localName? c.name = o := by
    rw [← List.mem_map, h.localNames_eq, List.mem_map]
  have hnil (es : List Element) (hes : ¬ ∃ c ∈ es, localName? c.name = some "text") : Element.named es "text" = [] :=
    List.filter_eq_nil_iff.2 fun c hc htext => hes ⟨c, hc, by simpa using htext⟩
  have hchildren : Matching (fun cs cs' => cs = [] ∧ cs' = []) (e.children "text") (e'.children "text") :=
    Element.matching_children (hnames none) ⟨hnil _ ht, hnil _ (mt (hnames (some "text")).2 ht)⟩
  refine hchildren.bind ?_
  rintro _ _ ⟨rfl, rfl⟩
  exact .ok ⟨rfl, rfl⟩

theorem choice_eq_of_plain (h : Edit .plainOption e e') (ht : ¬ e.HasText) :
    Reading.choice source e path = Reading.choice source e' path := by
  refine (matching_child?_text h ht).bind_eq ?_
  rintro _ _ ⟨rfl, rfl⟩
  simp only [h.leaf_eq (.inr (.inr rfl))]

theorem child?_ne_none (h : ∃ c ∈ e.content.elements, localName? c.name = some name) : e.child? name ≠ .ok none := by
  intro hnone
  obtain ⟨cs, hcs, hhead⟩ := Except.bind_eq_ok.1 hnone
  have hempty : cs = [] := List.head?_eq_none_iff.1 (Except.ok.inj hhead)
  by_cases hm : ∃ c ∈ e.content.elements, localName? c.name = none
  · rw [Element.children_of_exists hm] at hcs
    cases hcs
  · rw [Element.children_of_forall fun c hc hn => hm ⟨c, hc, hn⟩, Except.ok.injEq, hempty] at hcs
    obtain ⟨c, hc, hname⟩ := h
    exact List.filter_eq_nil_iff.1 hcs c hc (by simp [hname])

theorem choice_eq (h : Edit .option e e') (ht : e.HasText) :
    Reading.choice source e path = Reading.choice source e' path := by
  rw [Reading.choice, h.optionalLeaf_eq "description" (by decide) rfl]
  have htext : Matching (Option.Rel (Edited .option "text")) (e.child? "text") (e'.child? "text") :=
    h.child? (by decide) (by decide)
  refine (htext.mono fun o o' ho hoo => And.intro ho hoo).bind_eq ?_
  rintro o o' ⟨ho, hoo⟩
  cases hoo with
  | none => exact absurd ho (child?_ne_none ht)
  | some hc => simp only [hc.leaf_eq rfl]

theorem questions_eq (h : Edit .questions e e') :
    Reading.questions source e path = Reading.questions source e' path := by
  rw [Reading.questions, h.requireLeaf_eq "title" (by decide) rfl, h.optionalLeaf_eq "subtitle" (by decide) rfl,
    h.optionalLeaf_eq "description" (by decide) rfl]
  refine (h.children (by decide) (by decide)).bind_eq fun os os' hos => ?_
  rw [mapM_numbered_eq hos]
  intro i o o' ho
  have hedit := ho.2
  rw [Role.ofChild_option ho.1] at hedit
  by_cases ht : o.HasText
  · rw [if_pos ht] at hedit
    exact hedit.choice_eq ht
  · rw [if_neg ht] at hedit
    exact hedit.choice_eq_of_plain ht

theorem step_eq (h : Edit .step e e') (place : Nat) :
    Reading.step source e place path = Reading.step source e' place path := by
  rw [Reading.step, h.integer?_eq rfl, h.requireLeaf_eq "title" (by decide) rfl,
    h.optionalLeaf_eq "description" (by decide) rfl]
  refine bind_congr fun number => (h.child? (by decide) (by decide)).bind_eq fun c c' hc => ?_
  rw [map_code_eq hc rfl]

theorem workflow_eq (h : Edit .workflow e e') : Reading.workflow source e path = Reading.workflow source e' path := by
  rw [Reading.workflow, h.requireLeaf_eq "title" (by decide) rfl, h.optionalLeaf_eq "subtitle" (by decide) rfl,
    h.optionalLeaf_eq "description" (by decide) rfl]
  refine (h.children (by decide) (by decide)).bind_eq fun ss ss' hss => ?_
  rw [mapM_numbered_eq hss]
  intro i s s' hs
  exact (hs.edit rfl (by decide) : Edit .step s s').step_eq i

theorem guidanceTitle_eq (h : Edit .guidance e e') :
    Reading.guidanceTitle source e path = Reading.guidanceTitle source e' path := by
  rw [Reading.guidanceTitle, h.optionalLeaf_eq "title" (by decide) rfl]
  refine (h.child? (by decide) (by decide)).bind_eq fun o o' ho => ?_
  cases ho with
  | none => rfl
  | some hc =>
    have hh : Edit .guidanceHeader _ _ := hc.edit rfl (by decide)
    simp only [hh.optionalLeaf_eq "title" (by decide) rfl]

theorem restrictions_eq (h : Edit .restrictions e e') : Reading.restrictions e = Reading.restrictions e' := by
  rw [Reading.restrictions, h.optionalLeaf_eq "description" (by decide) rfl]
  refine bind_congr fun description => (h.children (by decide) (by decide)).bind_eq fun rs rs' hrs => ?_
  rw [map_leaf_eq hrs rfl]

/-- The rules that are listed in words. -/
theorem bind_rules_eq {α : Type} {k : List String → Except Failure α} (h : Edit .guidance e e') :
    (e.child? "rules" >>= fun o => match o with
      | some r => (·.map Element.leaf) <$> r.children "rule" >>= k
      | none => pure [] >>= k) =
    (e'.child? "rules" >>= fun o => match o with
      | some r => (·.map Element.leaf) <$> r.children "rule" >>= k
      | none => pure [] >>= k) := by
  refine (h.child? (by decide) (by decide)).bind_eq fun o o' ho => ?_
  cases ho with
  | none => rfl
  | some hc =>
    have hr : Edit .rules _ _ := hc.edit rfl (by decide)
    simp only [map_eq_pure_bind, bind_assoc, pure_bind]
    refine (hr.children (by decide) (by decide)).bind_eq fun rs rs' hrs => ?_
    rw [map_leaf_eq hrs rfl]

theorem guidance_eq (h : Edit .guidance e e') : Reading.guidance source e path = Reading.guidance source e' path := by
  rw [Reading.guidance, h.guidanceTitle_eq, h.optionalLeaf_eq "description" (by decide) rfl]
  refine bind_congr fun title => (h.child? (by decide) (by decide)).bind_eq fun o o' ho => ?_
  cases ho with
  | none => exact h.bind_rules_eq
  | some hc =>
    have hr : Edit .restrictions _ _ := hc.edit rfl (by decide)
    dsimp only
    rw [hr.restrictions_eq]
    exact bind_congr fun restrictions => h.bind_rules_eq

theorem section?_eq (h : Edit (Role.content.ofChild e) e e') (hn : localName? e.name = some name) :
    Reading.section? source name e path = Reading.section? source name e' path := by
  have hrole (s : Role) (hs : Role.content.child name = s) (ho : s ≠ .option) : Edit s e e' := by
    rwa [Role.ofChild_of_child hn hs ho] at h
  unfold Reading.section?
  split
  · rw [(hrole .rule rfl (by decide)).rule_eq]
  · rw [(hrole .template rfl (by decide)).template_eq]
  · rw [(hrole .questions rfl (by decide)).questions_eq]
  · rw [(hrole .workflow rfl (by decide)).workflow_eq]
  · rw [(hrole .guidance rfl (by decide)).guidance_eq]
  · rw [(hrole .guidance rfl (by decide)).guidance_eq]
  · rfl

theorem sections_around (h : Edit (Role.content.ofChild e) e e') (names : List String) (seen : List Int)
    (es fs : List Element) :
    Reading.sections source path names seen (es ++ e :: fs) =
      Reading.sections source path names seen (es ++ e' :: fs) := by
  induction es generalizing names seen with
  | nil =>
    simp only [List.nil_append, Reading.sections]
    rw [localName, localName, ← h.localName?_eq]
    cases hn : localName? e.name with
    | none => rfl
    | some name => rw [Except.bind_ok rfl, Except.bind_ok rfl, h.section?_eq hn]
  | cons d es ih => simp only [List.cons_append, Reading.sections, ih]

theorem sections_eq (h : Edit .content e e') :
    Reading.sections source path [] [] e.content.elements = Reading.sections source path [] [] e'.content.elements := by
  cases h with
  | texts _ h => exact congrArg _ h
  | words hr => obtain h | h | h := hr <;> cases h
  | add _ hc => exact absurd rfl hc
  | child h =>
    simp only [Content.elements_append, Content.elements_ofElement, List.singleton_append]
    exact h.sections_around [] [] _ _
  | _ => rfl

theorem content_eq (h : Edit .prompt e e') : Reading.content source e = Reading.content source e' := by
  refine (h.child? (by decide) (by decide)).bind_eq fun o o' ho => ?_
  cases ho with
  | none => rfl
  | some hc => exact (hc.edit rfl (by decide) : Edit .content _ _).sections_eq

theorem bind_toc_eq {α : Type} {k : Option TableOfContents → Except Failure α} (h : Edit .prompt e e') :
    (e.child? "table-of-contents" >>= fun o => match o with
      | some t => (Reading.toc t).map some >>= k
      | none => pure none >>= k) =
    (e'.child? "table-of-contents" >>= fun o => match o with
      | some t => (Reading.toc t).map some >>= k
      | none => pure none >>= k) := by
  refine (h.child? (by decide) (by decide)).bind_eq fun o o' ho => ?_
  cases ho with
  | none => rfl
  | some hc =>
    dsimp only
    rw [(hc.edit rfl (by decide) : Edit .toc _ _).toc_eq]

theorem ofTree_eq (h : Edit .prompt e e') : Document.ofTree source e = Document.ofTree source e' := by
  rw [Document.ofTree, localName, h.localName?_eq, ← localName, h.content_eq]
  refine bind_congr fun name => ?_
  by_cases hn : name ≠ rootName
  · rw [if_pos hn, if_pos hn]
    rfl
  rw [if_neg hn, if_neg hn]
  refine (h.require "metadata" (by decide) (by decide)).bind_eq fun m m' hm => ?_
  rw [(hm.edit rfl (by decide) : Edit .metadata m m').metadata_eq]
  refine bind_congr fun metadata => (h.require "header" (by decide) (by decide)).bind_eq fun d d' hd => ?_
  have hheader : Edit .header d d' := hd.edit rfl (by decide)
  rw [hheader.requireLeaf_eq "title" (by decide) rfl, hheader.optionalLeaf_eq "role" (by decide) rfl,
    hheader.optionalLeaf_eq "description" (by decide) rfl]
  exact bind_congr fun title => bind_congr fun sections => bind_congr fun role => bind_congr fun description =>
    h.bind_toc_eq

end Edit

/-- A tree is read as the same document, or with the same failure, after any number of edits of its presentation. -/
theorem Document.ofTree_eq_of_edits (source : Option Path) {root root' : Element}
    (h : Relation.EqvGen (Edit .prompt) root root') : Document.ofTree source root = Document.ofTree source root' := by
  induction h with
  | rel _ _ h => exact h.ofTree_eq
  | refl => rfl
  | symm _ _ _ ih => exact ih.symm
  | trans _ _ _ _ _ ih ih' => exact ih.trans ih'

/-- A prompt with metadata and a title, and layout between its parts. -/
def titledPrompt (name layout : String) (metadata title : Element) : Element :=
  ⟨name, [], .text layout ++ (.ofElement metadata ++
    (.ofElement ⟨"header", [], .text "" ++ (.ofElement title ++ .text "")⟩ ++ .text layout))⟩

/-- A prompt on one line. -/
def compactPrompt : Element :=
  titledPrompt "prompt" "" ⟨"metadata", [("description", "about this")], .text ""⟩ ⟨"title", [], .text "A title"⟩

/-- The same prompt in a namespace and on several lines, with a nested value. -/
def spaciousPrompt : Element :=
  titledPrompt "\x7burn:p\x7dprompt" "\n  "
    ⟨"metadata", [], .ofElement ⟨"description", [], .text "\n    about  this"⟩⟩
    ⟨"title", [], .text "\n    A\ttitle\n  "⟩

theorem edits_compactPrompt : Relation.EqvGen (Edit .prompt) compactPrompt spaciousPrompt := by
  have hmetadata : Role.prompt.ofChild ⟨"metadata", [("description", "about this")], .text ""⟩ = .metadata :=
    Role.ofChild_of_child (show localName? "metadata" = some "metadata" by decide) rfl (by decide)
  have hheader (c : Content) : Role.prompt.ofChild ⟨"header", [], c⟩ = .header :=
    Role.ofChild_of_child (show localName? "header" = some "header" by decide) rfl (by decide)
  have htitle : Role.header.ofChild ⟨"title", [], .text "A title"⟩ = .leaf :=
    Role.ofChild_of_child (show localName? "title" = some "title" by decide) rfl (by decide)
  have hnest : Edit .metadata ⟨"metadata", [("description", "about this")], .text ""⟩
      ⟨"metadata", [], .ofElement ⟨"description", [], .text "\n    about  this"⟩⟩ :=
    .nest (p := []) (q := []) (b := .text "") (a := .text "") List.mem_cons_self (by simp)
      (by simp [Content.elements])
      (by decide) (by decide)
  have hwords : Edit .leaf ⟨"title", [], .text "A title"⟩ ⟨"title", [], .text "\n    A\ttitle\n  "⟩ :=
    .words (.inl rfl) (by decide) (by simp)
  have hwords : Edit .header ⟨"header", [], .text "" ++ (.ofElement ⟨"title", [], .text "A title"⟩ ++ .text "")⟩
      ⟨"header", [], .text "" ++ (.ofElement ⟨"title", [], .text "\n    A\ttitle\n  "⟩ ++ .text "")⟩ :=
    .child (htitle ▸ hwords)
  have first : Edit .prompt compactPrompt ⟨"\x7burn:p\x7dprompt", [], compactPrompt.content⟩ :=
    .rename (l := "prompt") (by decide) (by decide)
  refine .trans _ _ _ (.rel _ _ first) ?_
  refine .trans _ _ _ (.rel _ _ (.child (b := .text "") (hmetadata ▸ hnest))) ?_
  refine .trans _ _ _ (.rel _ _ (.child (b := .text "" ++ .ofElement _) (a := .text "") (hheader _ ▸ hwords))) ?_
  exact .rel _ _ (.texts (by decide) rfl)

/-- Both prompts are read as one document. -/
theorem ofTree_spaciousPrompt : Relation.EqvGen (Edit .prompt) compactPrompt spaciousPrompt ∧
    Document.ofTree none compactPrompt = Document.ofTree none spaciousPrompt :=
  ⟨edits_compactPrompt, Document.ofTree_eq_of_edits none edits_compactPrompt⟩

end PromptMarkup
