import PromptMarkup.Compile
import PromptMarkup.Proofs.Document.Faults
import PromptMarkup.Proofs.Matching

/-!
# The whereabouts of an element

Where an element stands, in which document and by which path, is put into the faults and shows nowhere else.  Read as
standing elsewhere, an element gives the same, or a fault of the same class (`Reading.paired_section?`), and so does a
whole document (`Document.paired_ofTree`).  So the Markdown of a prompt depends on the tree that is loaded, and on
nothing else (`paired_transform`).
-/

namespace PromptMarkup

namespace Failure

/-- Failures of a reading of the same class.  They have no chains, and what they say of the whereabouts may differ. -/
structure SameClass (e e' : Failure) : Prop where
  className : e.className = e'.className
  chains : e.chain = [] ∧ e'.chain = []

/-- The same failure, with a source if it is a fault that had none. -/
def sourced (source : Path) : Failure → Failure
  | fault f => fault (f.withSource source)
  | e => e

@[simp] theorem className_sourced (source : Path) (e : Failure) : (e.sourced source).className = e.className := by
  cases e <;> rfl

@[simp] theorem chain_sourced (source : Path) (e : Failure) : (e.sourced source).chain = e.chain := by
  cases e <;> rfl

end Failure

namespace Reading

open Failure (SameClass)

section

variable {α β : Type}

/-- What has no faults is read as before. -/
theorem paired_quiet {p : α → Prop} {x : Except Failure α} (h : Quiet p x) : Paired SameClass Eq x x := by
  refine .refl fun e he => ?_
  rw [h.error he]
  exact ⟨rfl, rfl, rfl⟩

theorem paired_pure (a : α) : Paired SameClass Eq (pure a) (pure a) := .ok rfl

theorem paired_fault {f f' : Fault} (h : f.category = f'.category) (hchain : f.chain = []) (hchain' : f'.chain = []) :
    Paired SameClass Eq (.error (.fault f) : Except Failure α) (.error (.fault f')) :=
  .error ⟨congrArg FaultClass.name h, hchain, hchain'⟩

theorem paired_missing {path path' : String} {source source' : Option Path} :
    Paired SameClass Eq (.error (.fault (.missing path source)) : Except Failure α)
      (.error (.fault (.missing path' source'))) :=
  paired_fault rfl rfl rfl

/-- A reading in two parts gives the same with two sources if both parts do. -/
theorem paired_bind {x y : Except Failure α} {f g : α → Except Failure β} (h : Paired SameClass Eq x y)
    (hfg : ∀ a, Paired SameClass Eq (f a) (g a)) : Paired SameClass Eq (x >>= f) (y >>= g) :=
  h.bind fun a _ hab => hab ▸ hfg a

theorem paired_quiet_bind {p : α → Prop} {x : Except Failure α} {f g : α → Except Failure β} (h : Quiet p x)
    (hfg : ∀ a, Paired SameClass Eq (f a) (g a)) : Paired SameClass Eq (x >>= f) (x >>= g) :=
  paired_bind (paired_quiet h) hfg

theorem paired_ite {c : Prop} [Decidable c] {x x' y y' : Except Failure α} (h : Paired SameClass Eq x x')
    (h' : Paired SameClass Eq y y') : Paired SameClass Eq (if c then x else y) (if c then x' else y') := by
  by_cases hc : c
  · rwa [if_pos hc, if_pos hc]
  · rwa [if_neg hc, if_neg hc]

/-- What is read from a child if there is one, and made up if there is none, has no faults with a source. -/
theorem paired_bind_match {o : Option Element} {x : Element → Except Failure α} {y : Except Failure α}
    {f g : α → Except Failure β} (hx : ∀ e, Quiet (fun _ => True) (x e)) (hy : Quiet (fun _ => True) y)
    (hfg : ∀ a, Paired SameClass Eq (f a) (g a)) :
    Paired SameClass Eq (match o with | some e => x e >>= f | none => y >>= f)
      (match o with | some e => x e >>= g | none => y >>= g) := by
  cases o with
  | some e => exact paired_quiet_bind (hx e) hfg
  | none => exact paired_quiet_bind hy hfg

theorem paired_mapM {f g : α → Except Failure β} (h : ∀ a, Paired SameClass Eq (f a) (g a)) (as : List α) :
    Paired SameClass Eq (as.mapM f) (as.mapM g) := by
  induction as with
  | nil => exact .ok rfl
  | cons a as ih =>
    rw [List.mapM_cons, List.mapM_cons]
    exact paired_bind (h a) fun b => paired_bind ih fun bs => .ok rfl

end

variable {s s' : Option Path} {e : Element} {name path path' : String}

theorem quiet_localName : Quiet (fun _ => True) (localName name) := by
  rw [localName]
  cases localName? name with
  | some n => exact Except.ends_ok trivial
  | none => exact Except.ends_error rfl

theorem quiet_child : Quiet (fun _ => True) (e.child? name) :=
  (e.quiet_children name).bind fun _ _ => Except.ends_ok trivial

theorem quiet_leaf : Quiet (fun _ => True) (optionalLeaf e name) :=
  quiet_child.bind fun _ _ => Except.ends_ok trivial

theorem paired_require : Paired SameClass Eq (require s e name path) (require s' e name path') := by
  refine paired_quiet_bind quiet_child fun c => ?_
  cases c with
  | none => exact paired_missing
  | some c => exact paired_pure c

theorem paired_requireLeaf : Paired SameClass Eq (requireLeaf s e name path) (requireLeaf s' e name path') :=
  paired_bind paired_require fun c => paired_ite paired_missing (paired_pure c.leaf)

theorem paired_integer? : Paired SameClass Eq (integer? s e name path) (integer? s' e name path') := by
  unfold integer?
  split
  · exact .ok rfl
  · split
    · exact .ok rfl
    · exact paired_fault rfl rfl rfl

theorem paired_notes : Paired SameClass Eq (notes s e path) (notes s' e path') := by
  refine paired_quiet_bind quiet_child fun ns => ?_
  cases ns with
  | none => exact paired_pure []
  | some ns =>
    refine paired_quiet_bind (ns.quiet_children "note") fun cs => paired_mapM (fun p => ?_) _
    exact paired_ite paired_missing (.ok rfl)

theorem paired_rule : Paired SameClass Eq (rule s e path) (rule s' e path') := by
  refine paired_bind paired_integer? fun number => ?_
  cases number with
  | none => exact paired_fault rfl rfl rfl
  | some n =>
    refine paired_bind (paired_pure n) fun number => ?_
    refine paired_bind paired_notes fun notes => paired_quiet_bind (quiet_examples e) fun code => ?_
    refine paired_bind paired_requireLeaf fun title => paired_bind paired_requireLeaf fun subtitle => ?_
    exact paired_bind paired_requireLeaf fun description => .ok rfl

theorem paired_template : Paired SameClass Eq (template s e path) (template s' e path') := by
  refine paired_bind paired_requireLeaf fun title => paired_bind paired_requireLeaf fun description => ?_
  exact paired_bind paired_require fun body => .ok rfl

theorem paired_choice : Paired SameClass Eq (choice s e path) (choice s' e path') := by
  refine paired_quiet_bind quiet_child fun t => ?_
  cases t with
  | none => exact paired_bind (paired_pure _) fun c => paired_ite paired_missing (paired_pure c)
  | some t =>
    refine paired_quiet_bind quiet_leaf fun description => ?_
    exact paired_bind (paired_pure _) fun c => paired_ite paired_missing (paired_pure c)

theorem paired_questions : Paired SameClass Eq (questions s e path) (questions s' e path') := by
  refine paired_quiet_bind (e.quiet_children "option") fun os => ?_
  refine paired_bind (paired_mapM (fun _ => paired_choice) _) fun choices => ?_
  refine paired_bind paired_requireLeaf fun title => paired_quiet_bind quiet_leaf fun subtitle => ?_
  exact paired_quiet_bind quiet_leaf fun description => .ok rfl

theorem paired_step {place : Nat} : Paired SameClass Eq (step s e place path) (step s' e place path') := by
  refine paired_bind paired_integer? fun number => paired_quiet_bind quiet_child fun code => ?_
  exact paired_bind paired_requireLeaf fun title => paired_quiet_bind quiet_leaf fun description => .ok rfl

theorem paired_workflow : Paired SameClass Eq (workflow s e path) (workflow s' e path') := by
  refine paired_quiet_bind (e.quiet_children "step") fun es => ?_
  refine paired_bind (paired_mapM (fun _ => paired_step) _) fun steps => ?_
  refine paired_bind paired_requireLeaf fun title => paired_quiet_bind quiet_leaf fun subtitle => ?_
  exact paired_quiet_bind quiet_leaf fun description => .ok rfl

theorem paired_guidanceTitle : Paired SameClass Eq (guidanceTitle s e path) (guidanceTitle s' e path') := by
  refine paired_quiet_bind quiet_child fun h => ?_
  refine paired_bind_match (fun h => quiet_leaf) (Except.ends_ok trivial) fun inHeader => paired_ite ?_ ?_
  · exact paired_quiet_bind quiet_leaf fun title => paired_ite paired_missing (paired_pure title)
  · exact paired_bind (paired_pure inHeader) fun title => paired_ite paired_missing (paired_pure title)

theorem paired_guidance : Paired SameClass Eq (guidance s e path) (guidance s' e path') := by
  refine paired_bind paired_guidanceTitle fun title => paired_quiet_bind quiet_child fun o => ?_
  refine paired_bind_match (fun r => (quiet_restrictions r).map fun _ _ => trivial) (Except.ends_ok trivial) fun _ => ?_
  refine paired_quiet_bind quiet_child fun o => ?_
  refine paired_bind_match (fun r => (r.quiet_children "rule").map fun _ _ => trivial) (Except.ends_ok trivial)
    fun _ => ?_
  exact paired_quiet_bind quiet_leaf fun description => .ok rfl

/-- The section that an element is read as does not depend on where the element stands. -/
theorem paired_section? : Paired SameClass Eq (section? s name e path) (section? s' name e path') := by
  unfold section?
  split
  · exact paired_rule.map fun _ _ h => congrArg _ h
  · exact paired_template.map fun _ _ h => congrArg _ h
  · exact paired_questions.map fun _ _ h => congrArg _ h
  · exact paired_workflow.map fun _ _ h => congrArg _ h
  · exact paired_guidance.map fun _ _ h => congrArg _ h
  · exact paired_guidance.map fun _ _ h => congrArg _ h
  · exact paired_fault rfl rfl rfl

theorem paired_checkNumber {seen : List Int} {x : Section} :
    Paired SameClass Eq (checkNumber s seen x path) (checkNumber s' seen x path') := by
  unfold checkNumber
  split
  · exact .ok rfl
  · exact paired_ite (paired_fault rfl rfl rfl) (.ok rfl)

theorem paired_sections {names : List String} {seen : List Int} {es : List Element} :
    Paired SameClass Eq (sections s path names seen es) (sections s' path' names seen es) := by
  induction es generalizing names seen with
  | nil => exact .ok rfl
  | cons e es ih =>
    rw [sections, sections]
    refine paired_quiet_bind quiet_localName fun name => paired_bind paired_section? fun x => ?_
    exact paired_bind paired_checkNumber fun seen => paired_bind ih fun rest => .ok rfl

theorem paired_content : Paired SameClass Eq (content s e) (content s' e) := by
  refine paired_quiet_bind quiet_child fun c => ?_
  cases c with
  | none => exact paired_pure []
  | some c => exact paired_sections

end Reading

open Reading in
/-- The document that a tree stands for does not depend on the source of the tree. -/
theorem Document.paired_ofTree (s s' : Option Path) (e : Element) :
    Paired Failure.SameClass Eq (Document.ofTree s e) (Document.ofTree s' e) := by
  refine paired_quiet_bind quiet_localName fun name => paired_ite (paired_fault rfl rfl rfl) ?_
  refine paired_bind paired_require fun m => paired_quiet_bind (quiet_metadata m) fun metadata => ?_
  refine paired_bind paired_require fun header => paired_bind paired_requireLeaf fun title => ?_
  refine paired_bind paired_content fun sections => ?_
  refine paired_quiet_bind quiet_leaf fun role => paired_quiet_bind quiet_leaf fun description => ?_
  refine paired_quiet_bind quiet_child fun o => ?_
  exact paired_bind_match (fun t => (quiet_toc t).map fun _ _ => trivial) (Except.ends_ok trivial) fun _ => .ok rfl

theorem transform_eq_mapError (fs : FileSystem) (source : Path) :
    transform fs source = Document.render <$> (loadDocument fs source).mapError (·.sourced source) := by
  rw [transform]
  rcases loadDocument fs source with e | d
  · cases e <;> rfl
  · rfl

/-- Prompts whose loads give the same tree have the same Markdown or none.  Where the loads fail alike, or the tree is
no document, the compilations fail alike. -/
theorem paired_transform {fs fs' : FileSystem} {source source' : Path} {r r' : Failure → Failure → Prop}
    (hload : Paired r Eq (loadFresh fs source) (loadFresh fs' source'))
    (hr : ∀ e e', r e e' ∨ e.SameClass e' → r' (e.sourced source) (e'.sourced source')) :
    Paired r' Eq (transform fs source) (transform fs' source') := by
  have hdocument : Paired (fun e e' => r e e' ∨ e.SameClass e') Eq (loadDocument fs source)
      (loadDocument fs' source') := by
    refine (hload.mono (fun _ _ => .inl) fun _ _ _ _ h => h).bind fun e e' he => ?_
    subst he
    exact (Document.paired_ofTree (some source) (some source') e).mono (fun _ _ => .inr) fun _ _ _ _ h => h
  rw [transform_eq_mapError, transform_eq_mapError]
  exact (hdocument.mapError hr).map fun d d' h => congrArg Document.render h

end PromptMarkup
