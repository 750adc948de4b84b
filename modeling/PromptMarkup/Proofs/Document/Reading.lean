import PromptMarkup.Document.OfTree
import PromptMarkup.Except
import PromptMarkup.Proofs.Text.Leaf

/-!
# What is read from a tree

A document that is read from a tree has leaf texts as they are read, none of them empty that must be there, and no two
rules with one number.  A tree that cannot be read as a document is a schema fault with the source of the document,
unless a name in it opens a namespace that it does not close.  Both are proved together, one lemma for each function
that reads (`reads_ofTree`).
-/

namespace PromptMarkup

/-- A leaf text of a document, which must be there or may be empty. -/
inductive LeafText where
  | required (s : String)
  | optional (s : String)

/-- A text as it is read from a leaf. -/
def LeafText.IsRead : LeafText → Prop
  | required s => Text.leaf s = s ∧ s ≠ ""
  | optional s => Text.leaf s = s

/-- The text itself. -/
def LeafText.text : LeafText → String
  | required s => s
  | optional s => s

theorem LeafText.IsRead.leaf_text {t : LeafText} (h : t.IsRead) : Text.leaf t.text = t.text := by
  cases t with
  | required s => exact h.1
  | optional s => exact h

/-- Texts as they are read from leaves. -/
def AllRead (ts : List LeafText) : Prop := ∀ t ∈ ts, t.IsRead

@[simp] theorem allRead_nil : AllRead [] := List.forall_mem_nil _

@[simp] theorem allRead_cons {t : LeafText} {ts : List LeafText} : AllRead (t :: ts) ↔ t.IsRead ∧ AllRead ts :=
  List.forall_mem_cons

@[simp] theorem allRead_append {ts us : List LeafText} : AllRead (ts ++ us) ↔ AllRead ts ∧ AllRead us :=
  List.forall_mem_append

@[simp] theorem allRead_map {α : Type} {xs : List α} {f : α → LeafText} :
    AllRead (xs.map f) ↔ ∀ x ∈ xs, (f x).IsRead := List.forall_mem_map

@[simp] theorem allRead_flatMap {α : Type} {xs : List α} {f : α → List LeafText} :
    AllRead (xs.flatMap f) ↔ ∀ x ∈ xs, AllRead (f x) := by
  simp only [AllRead, List.mem_flatMap]
  exact ⟨fun h x hx t ht => h t ⟨x, hx, ht⟩, fun h t ⟨x, hx, ht⟩ => h x hx t ht⟩

/-! ### The leaf texts of a document -/

def Metadata.leafTexts (m : Metadata) : List LeafText :=
  [.optional m.description, .optional m.globs, .optional m.alwaysApply]

def TableOfContents.leafTexts (t : TableOfContents) : List LeafText := t.entries.map .optional

def Note.leafTexts (n : Note) : List LeafText := [.required n.term, .optional n.description]

def Rule.leafTexts (r : Rule) : List LeafText :=
  [.required r.title, .required r.subtitle, .required r.description] ++ r.notes.flatMap Note.leafTexts

def Template.leafTexts (t : Template) : List LeafText := [.required t.title, .required t.description]

def Choice.leafTexts (c : Choice) : List LeafText := [.required c.text, .optional c.description]

def Questions.leafTexts (q : Questions) : List LeafText :=
  [.required q.title, .optional q.subtitle, .optional q.description] ++ q.options.flatMap Choice.leafTexts

def Step.leafTexts (s : Step) : List LeafText := [.required s.title, .optional s.description]

def Workflow.leafTexts (w : Workflow) : List LeafText :=
  [.required w.title, .optional w.subtitle, .optional w.description] ++ w.steps.flatMap Step.leafTexts

def Restrictions.leafTexts (r : Restrictions) : List LeafText := .optional r.description :: r.items.map .optional

def Guidance.leafTexts (g : Guidance) : List LeafText :=
  [.required g.title, .optional g.description] ++ g.restrictions.toList.flatMap Restrictions.leafTexts
    ++ g.rules.map .optional

def Section.leafTexts : Section → List LeafText
  | .rule r => r.leafTexts
  | .template t => t.leafTexts
  | .questions q => q.leafTexts
  | .workflow w => w.leafTexts
  | .instructions g => g.leafTexts
  | .outputRequirements g => g.leafTexts

def Document.leafTexts (d : Document) : List LeafText :=
  d.metadata.leafTexts ++ [.required d.title, .optional d.role, .optional d.description]
    ++ d.toc.toList.flatMap TableOfContents.leafTexts ++ d.sections.flatMap Section.leafTexts

/-- A document as it is read from a tree. -/
structure Document.WellRead (d : Document) : Prop where
  leafTexts : AllRead d.leafTexts
  numbers : (d.rules.map Rule.number).Nodup

theorem Document.firstRepeated_eq_none {seen ns : List Int} (hn : ns.Nodup) (hs : ∀ n ∈ ns, n ∉ seen) :
    firstRepeated seen ns = none := by
  induction ns generalizing seen with
  | nil => rfl
  | cons n ns ih =>
    obtain ⟨hn, hns⟩ := List.nodup_cons.1 hn
    obtain ⟨hseen, hs⟩ := List.forall_mem_cons.1 hs
    rw [firstRepeated, if_neg hseen]
    refine ih hns fun m hm => ?_
    rw [List.mem_cons, not_or]
    exact ⟨fun h => hn (h ▸ hm), hs m hm⟩

/-- No two rules of a document that was read from a tree have one number. -/
theorem Document.WellRead.repeatedNumber?_eq_none {d : Document} (h : d.WellRead) : d.repeatedNumber? = none :=
  firstRepeated_eq_none h.numbers fun _ _ => List.not_mem_nil

/-! ### Readings -/

/-- What can stop a reading: a schema fault with the given source, or a name in the element that is not closed. -/
def Stops (source : Option Path) (e : Element) (f : Failure) : Prop :=
  (f = .malformedName ∧ ∃ n ∈ e.names, localName? n = none) ∨
    ∃ fault : Fault, f = .fault fault ∧ .schema ∈ fault.category.families ∧ fault.source = source

/-- A reading of an element gives something right, or is stopped. -/
abbrev Reads {α : Type} (source : Option Path) (e : Element) (p : α → Prop) (x : Except Failure α) : Prop :=
  Except.Ends p (Stops source e) x

section

variable {α β γ : Type} {source : Option Path} {e c : Element} {p : α → Prop} {q : β → Prop} {r : γ → Prop}

theorem reads_ok {a : α} (h : p a) : Reads source e p (.ok a) := Except.ends_ok h

theorem reads_fault {f : Fault} (h : .schema ∈ f.category.families) (hs : f.source = source) :
    Reads source e p (.error (.fault f)) :=
  Except.ends_error (.inr ⟨f, rfl, h, hs⟩)

theorem reads_missing (path : String) : Reads source e p (.error (.fault (.missing path source))) :=
  reads_fault (of_decide_eq_true rfl) rfl

/-- What stops the reading of a part stops the reading of the whole. -/
theorem Reads.inside {x : Except Failure α} (hx : Reads source c p x) (h : c.names ⊆ e.names) : Reads source e p x :=
  hx.imp_error fun _ hf => hf.imp_left fun hf => ⟨hf.1, hf.2.imp fun _ hn => ⟨h hn.1, hn.2⟩⟩

/-- What is read in one of two ways, and used after that. -/
theorem Reads.bind_match {o : Option Element} {f : Element → Except Failure β} {g : Except Failure β}
    {k : β → Except Failure γ} :
    (∀ a, o = some a → Reads source e q (f a)) → (o = none → Reads source e q g) →
      (∀ b, q b → Reads source e r (k b)) →
      Reads source e r (match o with
        | some a => f a >>= k
        | none => g >>= k) := by
  intro hf hg hk
  cases o with
  | some a => exact (hf a rfl).bind hk
  | none => exact (hg rfl).bind hk

end

theorem Content.names_subset_of_mem_elements {c : Content} {e : Element} (h : e ∈ c.elements) : e.names ⊆ c.names := by
  induction c with
  | text s => cases h
  | comment b i r ih => exact ih h
  | element b n a d r _ ih =>
    obtain rfl | h := List.mem_cons.1 h
    · exact List.subset_append_left _ _
    · exact List.subset_append_of_subset_right _ (ih h)

namespace Reading

variable {source : Option Path} {e : Element}

theorem reads_localName {n : String} (hn : n ∈ e.names) : Reads source e (fun _ => True) (localName n) := by
  rw [localName]
  cases h : localName? n with
  | some m => exact reads_ok trivial
  | none => exact Except.ends_error (.inl ⟨rfl, n, hn, h⟩)

theorem reads_namedChildren : Reads source e (fun cs => ∀ c ∈ cs, c.2.names ⊆ e.names) e.namedChildren := by
  refine Except.ends_mapM fun c hc => ?_
  have hsub : c.names ⊆ e.names :=
    List.subset_cons_of_subset _ (Content.names_subset_of_mem_elements hc)
  exact (reads_localName (hsub List.mem_cons_self)).bind fun n _ => reads_ok hsub

theorem reads_children (name : String) : Reads source e (fun cs => ∀ c ∈ cs, c.names ⊆ e.names) (e.children name) := by
  refine reads_namedChildren.bind fun cs hcs => reads_ok fun c hc => ?_
  obtain ⟨nc, hnc, rfl⟩ := List.mem_map.1 hc
  exact hcs nc (List.mem_filter.1 hnc).1

theorem reads_child? (name : String) : Reads source e (fun o => ∀ c, o = some c → c.names ⊆ e.names) (e.child? name) :=
  (reads_children name).bind fun _ hcs => reads_ok fun c hc => hcs c (List.mem_of_head? hc)

theorem reads_require (name path : String) :
    Reads source e (fun c => c.names ⊆ e.names) (require source e name path) := by
  refine (reads_child? name).bind fun o ho => ?_
  cases o with
  | some c => exact reads_ok (ho c rfl)
  | none => exact reads_missing _

theorem reads_requireLeaf (name path : String) :
    Reads source e (fun s => (LeafText.required s).IsRead) (requireLeaf source e name path) := by
  refine (reads_require name path).bind fun c _ => ?_
  by_cases hc : c.leaf = ""
  · rw [if_pos hc]
    exact reads_missing _
  · rw [if_neg hc]
    exact reads_ok ⟨Text.leaf_leaf _, hc⟩

theorem leaf_empty : Text.leaf "" = "" := rfl

theorem isRead_leaf (e : Element) : (LeafText.optional e.leaf).IsRead := Text.leaf_leaf _

theorem leaf_leafOf (o : Option Element) : Text.leaf (leafOf o) = leafOf o := by
  cases o with
  | none => exact leaf_empty
  | some c => exact Text.leaf_leaf _

theorem leaf_leafAttribute (e : Element) (name : String) :
    Text.leaf (e.leafAttribute name) = e.leafAttribute name := by
  unfold Element.leafAttribute
  split
  · rfl
  · exact Text.leaf_leaf _

theorem reads_optionalLeaf (name : String) :
    Reads source e (fun s => (LeafText.optional s).IsRead) (optionalLeaf e name) :=
  (reads_child? name).bind fun o _ => reads_ok (leaf_leafOf o)

theorem reads_integer? (name path : String) : Reads source e (fun _ => True) (integer? source e name path) := by
  unfold integer?
  split
  · exact reads_ok trivial
  · split
    · exact reads_ok trivial
    · exact reads_fault (of_decide_eq_true rfl) rfl

theorem reads_metadata : Reads source e (fun m => AllRead m.leafTexts) (metadata e) := by
  have hvalue (child key : String) :
      Reads source e (fun s => (LeafText.optional s).IsRead) (metadataValue e child key) := by
    refine (reads_child? child).bind fun o _ => ?_
    cases o with
    | some c => exact reads_ok (Text.leaf_leaf _)
    | none => exact reads_ok (leaf_leafAttribute e key)
  exact (hvalue _ _).bind fun d hd => (hvalue _ _).bind fun g hg => (hvalue _ _).bind fun a ha =>
    reads_ok (by simp [Metadata.leafTexts, hd, hg, ha])

theorem reads_toc : Reads source e (fun t => AllRead t.leafTexts) (toc e) :=
  (reads_children "entry").bind fun es _ => reads_ok (by
    simp only [TableOfContents.leafTexts, List.map_map, allRead_map]
    exact fun e _ => isRead_leaf e)

theorem reads_notes (path : String) :
    Reads source e (fun ns => AllRead (ns.flatMap Note.leafTexts)) (notes source e path) := by
  refine (reads_child? "notes").bind fun o ho => ?_
  cases o with
  | none => exact reads_ok (by simp)
  | some c =>
    refine Reads.inside (((reads_children "note").bind fun ns _ => ?_).imp fun ns h => allRead_flatMap.2 h) (ho c rfl)
    refine Except.ends_mapM ?_
    rintro ⟨i, n⟩ -
    by_cases ht : n.leafAttribute "term" = ""
    · simp only [ht, if_true]
      exact reads_missing _
    · simp only [ht, if_false]
      refine reads_ok ?_
      simp only [Note.leafTexts, allRead_cons, allRead_nil, and_true]
      exact ⟨⟨leaf_leafAttribute n "term", ht⟩, isRead_leaf n⟩

theorem reads_examples : Reads source e (fun _ => True) (examples e) := by
  refine (reads_child? "examples").bind fun o ho => ?_
  cases o with
  | none => exact reads_ok trivial
  | some c =>
    exact Reads.inside ((reads_child? "good").bind fun _ _ => (reads_child? "bad").bind fun _ _ => reads_ok trivial)
      (ho c rfl)

theorem reads_rule (path : String) : Reads source e (fun r => AllRead r.leafTexts) (rule source e path) := by
  refine (reads_integer? "id" path).bind fun o _ => ?_
  cases o with
  | none => exact reads_fault (of_decide_eq_true rfl) rfl
  | some number =>
    refine (reads_notes path).bind fun ns hns => reads_examples.bind fun x _ =>
      (reads_requireLeaf "title" path).bind fun title ht => (reads_requireLeaf "subtitle" path).bind fun subtitle hs =>
        (reads_requireLeaf "description" path).bind fun description hd => reads_ok ?_
    simp only [Rule.leafTexts, allRead_append, allRead_cons, allRead_nil, and_true]
    exact ⟨⟨ht, hs, hd⟩, hns⟩

theorem reads_template (path : String) : Reads source e (fun t => AllRead t.leafTexts) (template source e path) :=
  (reads_requireLeaf "title" path).bind fun title ht =>
    (reads_requireLeaf "description" path).bind fun description hd =>
      (reads_require "body" path).bind fun body _ => reads_ok (by simp [Template.leafTexts, ht, hd])

theorem reads_choice (path : String) : Reads source e (fun c => AllRead c.leafTexts) (choice source e path) := by
  have hrest (c : Choice) (hc : AllRead [.optional c.text, .optional c.description]) :
      Reads source e (fun c => AllRead c.leafTexts) (do
        if c.text = "" then throw (.fault (.missing (path ++ "/text") source))
        return c) := by
    dsimp only
    split
    · exact reads_missing _
    · next ht => exact reads_ok (by simpa [Choice.leafTexts, LeafText.IsRead, ht] using hc)
  refine (reads_child? "text").bind fun o _ => ?_
  cases o with
  | some t =>
    refine (reads_optionalLeaf "description").bind fun d hd => ?_
    refine Except.Ends.bind (p := fun c : Choice => AllRead [.optional c.text, .optional c.description]) ?_ hrest
    exact reads_ok (by simpa using ⟨isRead_leaf t, hd⟩)
  | none =>
    refine Except.Ends.bind (p := fun c : Choice => AllRead [.optional c.text, .optional c.description]) ?_ hrest
    exact reads_ok (by simpa [LeafText.IsRead] using ⟨isRead_leaf e, rfl⟩)

theorem mem_of_mem_numbered {α : Type} {xs : List α} {p : Nat × α} (h : p ∈ numbered xs) : p.2 ∈ xs := by
  obtain ⟨⟨a, i⟩, ha, rfl⟩ := List.mem_map.1 h
  exact List.fst_mem_of_mem_zipIdx ha

theorem reads_questions (path : String) : Reads source e (fun q => AllRead q.leafTexts) (questions source e path) := by
  refine (reads_children "option").bind fun os hos => ?_
  refine Except.Ends.bind (p := fun cs => ∀ c ∈ cs, AllRead c.leafTexts) (Except.ends_mapM ?_) fun options ho => ?_
  · rintro ⟨i, o⟩ ho
    exact (reads_choice _).inside (hos o (mem_of_mem_numbered ho))
  refine (reads_requireLeaf "title" path).bind fun title ht => (reads_optionalLeaf "subtitle").bind fun subtitle hs =>
    (reads_optionalLeaf "description").bind fun description hd => reads_ok ?_
  simp only [Questions.leafTexts, allRead_append, allRead_cons, allRead_nil, and_true, allRead_flatMap]
  exact ⟨⟨ht, hs, hd⟩, ho⟩

theorem reads_step (place : Nat) (path : String) :
    Reads source e (fun s => AllRead s.leafTexts) (step source e place path) :=
  (reads_integer? "number" path).bind fun _ _ => (reads_child? "code").bind fun _ _ =>
    (reads_requireLeaf "title" path).bind fun title ht => (reads_optionalLeaf "description").bind fun description hd =>
      reads_ok (by simp [Step.leafTexts, ht, hd])

theorem reads_workflow (path : String) : Reads source e (fun w => AllRead w.leafTexts) (workflow source e path) := by
  refine (reads_children "step").bind fun es hes => ?_
  refine Except.Ends.bind (p := fun ss => ∀ s ∈ ss, AllRead s.leafTexts) (Except.ends_mapM ?_) fun steps hst => ?_
  · rintro ⟨i, s⟩ hs
    exact (reads_step i _).inside (hes s (mem_of_mem_numbered hs))
  refine (reads_requireLeaf "title" path).bind fun title ht => (reads_optionalLeaf "subtitle").bind fun subtitle hs =>
    (reads_optionalLeaf "description").bind fun description hd => reads_ok ?_
  simp only [Workflow.leafTexts, allRead_append, allRead_cons, allRead_nil, and_true, allRead_flatMap]
  exact ⟨⟨ht, hs, hd⟩, hst⟩

theorem reads_guidanceTitle (path : String) :
    Reads source e (fun s => (LeafText.required s).IsRead) (guidanceTitle source e path) := by
  have hrest (title : String) (ht : (LeafText.optional title).IsRead) :
      Reads source e (fun s => (LeafText.required s).IsRead)
        (if title = "" then throw (.fault (.missing (path ++ "/header/title") source)) else pure title) := by
    split
    · exact reads_missing _
    · next hne => exact reads_ok ⟨ht, hne⟩
  refine (reads_child? "header").bind fun o ho => ?_
  refine Reads.bind_match (q := fun s : String => (LeafText.optional s).IsRead)
    (fun h hh => (reads_optionalLeaf "title").inside (ho h hh)) (fun _ => reads_ok leaf_empty) fun inHeader hin => ?_
  dsimp only
  split
  · exact (reads_optionalLeaf "title").bind hrest
  · exact hrest inHeader hin

theorem reads_restrictions : Reads source e (fun r => AllRead r.leafTexts) (restrictions e) :=
  (reads_optionalLeaf "description").bind fun d hd => (reads_children "restriction").bind fun items _ =>
    reads_ok (by
      simp only [Restrictions.leafTexts, allRead_cons, List.map_map, allRead_map]
      exact ⟨hd, fun e _ => isRead_leaf e⟩)

theorem reads_guidance (path : String) : Reads source e (fun g => AllRead g.leafTexts) (guidance source e path) := by
  refine (reads_guidanceTitle path).bind fun title ht => (reads_child? "restrictions").bind fun o ho => ?_
  refine Reads.bind_match (q := fun (o : Option Restrictions) => AllRead (o.toList.flatMap Restrictions.leafTexts))
    (fun r hr => ?_) (fun _ => reads_ok (by simp)) fun restrictions hr => ?_
  · exact Reads.inside (reads_restrictions.map (f := some) fun r hr => by simpa using hr) (ho r hr)
  refine (reads_child? "rules").bind fun o ho => ?_
  refine Reads.bind_match (q := fun rs => AllRead (rs.map .optional))
    (fun r hr => ?_) (fun _ => reads_ok (by simp)) fun rules hrules => ?_
  · refine Reads.inside ((reads_children "rule").map fun rs _ => ?_) (ho r hr)
    simp only [List.map_map, allRead_map]
    exact fun e _ => isRead_leaf e
  refine (reads_optionalLeaf "description").bind fun description hd => reads_ok ?_
  simp only [Guidance.leafTexts, allRead_append, allRead_cons, allRead_nil, and_true]
  exact ⟨⟨⟨ht, hd⟩, hr⟩, hrules⟩

theorem reads_section? (name path : String) :
    Reads source e (fun s => AllRead s.leafTexts) (section? source name e path) := by
  unfold section?
  split
  · exact (reads_rule path).map fun _ h => h
  · exact (reads_template path).map fun _ h => h
  · exact (reads_questions path).map fun _ h => h
  · exact (reads_workflow path).map fun _ h => h
  · exact (reads_guidance path).map fun _ h => h
  · exact (reads_guidance path).map fun _ h => h
  · exact reads_fault (of_decide_eq_true rfl) rfl

/-- The numbers of the rules among some sections. -/
def ruleNumbers (ss : List Section) : List Int := (ss.filterMap Section.rule?).map Rule.number

/-- A rule's number is kept only if it is new. -/
theorem reads_checkNumber (seen : List Int) (s : Section) (path : String) :
    Reads source e (fun seen' => seen' = ruleNumbers [s] ++ seen ∧ ∀ n ∈ ruleNumbers [s], n ∉ seen)
      (checkNumber source seen s path) := by
  unfold checkNumber
  cases hr : s.rule? with
  | none => exact reads_ok (by simp [ruleNumbers, hr])
  | some r =>
    by_cases hseen : r.number ∈ seen
    · simp only [hseen, if_true]
      exact reads_fault (of_decide_eq_true rfl) rfl
    · simp only [hseen, if_false]
      exact reads_ok (by simp [ruleNumbers, hr, hseen])

theorem reads_sections (path : String) (names : List String) (seen : List Int) {es : List Element}
    (hes : ∀ c ∈ es, c.names ⊆ e.names) :
    Reads source e (fun ss => (∀ s ∈ ss, AllRead s.leafTexts) ∧ (ruleNumbers ss).Nodup ∧ ∀ n ∈ ruleNumbers ss, n ∉ seen)
      (sections source path names seen es) := by
  induction es generalizing names seen with
  | nil => exact reads_ok (by simp [ruleNumbers])
  | cons c es ih =>
    obtain ⟨hc, hes⟩ := List.forall_mem_cons.1 hes
    refine (reads_localName (hc List.mem_cons_self)).bind fun name _ =>
      ((reads_section? name _).inside hc).bind fun s hs =>
        (reads_checkNumber seen s _).bind fun seen' ⟨hseen', hnew⟩ =>
          (ih _ seen' hes).bind fun rest hrest => reads_ok ?_
    obtain ⟨hread, hnodup, hdisjoint⟩ := hrest
    -- The numbers of the rest are none of those seen before, and the section's own is one of these now.
    have hsplit : ruleNumbers (s :: rest) = ruleNumbers [s] ++ ruleNumbers rest := by
      simp only [ruleNumbers, ← List.map_append, ← List.filterMap_append, List.singleton_append]
    have hone : (ruleNumbers [s]).Nodup := by
      cases hr : s.rule? <;> simp [ruleNumbers, hr]
    subst hseen'
    rw [hsplit]
    refine ⟨List.forall_mem_cons.2 ⟨hs, hread⟩, List.nodup_append.2 ⟨hone, hnodup, ?_⟩, ?_⟩
    · rintro n hn _ hn' rfl
      exact hdisjoint n hn' (List.mem_append_left _ hn)
    · intro n hn
      obtain hn | hn := List.mem_append.1 hn
      · exact hnew n hn
      · exact fun h => hdisjoint n hn (List.mem_append_right _ h)

theorem reads_content :
    Reads source e (fun ss => (∀ s ∈ ss, AllRead s.leafTexts) ∧ (ruleNumbers ss).Nodup) (content source e) := by
  refine (reads_child? "content").bind fun o ho => ?_
  cases o with
  | none => exact reads_ok (by simp [ruleNumbers])
  | some c =>
    refine (reads_sections _ [] [] fun d hd => ?_).imp fun ss h => ⟨h.1, h.2.1⟩
    exact List.Subset.trans (List.subset_cons_of_subset _ (Content.names_subset_of_mem_elements hd)) (ho c rfl)

end Reading

open Reading in
/-- What is read from a tree is a document as it should be, or a schema fault with the source of the document, unless a
name in the tree opens a namespace that it does not close. -/
theorem reads_ofTree (source : Option Path) (root : Element) :
    Reads source root Document.WellRead (Document.ofTree source root) := by
  refine (reads_localName List.mem_cons_self).bind fun name _ => ?_
  by_cases hn : name ≠ rootName
  · rw [if_pos hn]
    exact reads_fault (of_decide_eq_true rfl) rfl
  rw [if_neg hn]
  refine (reads_require "metadata" rootName).bind fun m hm => (reads_metadata.inside hm).bind fun metadata hmetadata =>
    (reads_require "header" rootName).bind fun header hheader =>
      ((reads_requireLeaf "title" _).inside hheader).bind fun title htitle =>
        reads_content.bind fun sections hsections =>
          ((reads_optionalLeaf "role").inside hheader).bind fun role hrole =>
            ((reads_optionalLeaf "description").inside hheader).bind fun description hdescription =>
              (reads_child? "table-of-contents").bind fun o ho => ?_
  refine Reads.bind_match (q := fun o : Option TableOfContents => AllRead (o.toList.flatMap TableOfContents.leafTexts))
    (fun t ht => ?_) (fun _ => reads_ok (by simp)) fun toc htoc => reads_ok ?_
  · exact Reads.inside (reads_toc.map (f := some) fun t ht => by simpa using ht) (ho t ht)
  refine ⟨?_, hsections.2⟩
  simp only [Document.leafTexts, allRead_append, allRead_cons, allRead_nil, and_true, allRead_flatMap]
  exact ⟨⟨⟨hmetadata, htitle, hrole, hdescription⟩, by simpa using htoc⟩, hsections.1⟩

end PromptMarkup
