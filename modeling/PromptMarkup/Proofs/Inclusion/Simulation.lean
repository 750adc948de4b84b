import Mathlib.Data.List.Forall2
import PromptMarkup.Proofs.Inclusion.Twins

/-!
# Loads that go in step

Two loads of different files go in step if what they meet corresponds: each place of one to a place of the other, each
directive to a directive that leads to the corresponding place, each failure to a failure.  `Correspondence` says what
has to correspond, and nothing else about the files matters.  The main result: the outcomes correspond then, and where
they are trees they are the same tree (`Correspondence.loadFresh`).
-/

namespace PromptMarkup

/-! ### Content that differs inside directives -/

/-- Content that differs at most inside directives, whose attributes are related by `r`.  What follows a directive is
outside it. -/
inductive Content.Alike (r : List (String × String) → List (String × String) → Prop) : Content → Content → Prop where
  | text (s : String) : Alike r (.text s) (.text s)
  | comment (before inside : String) {rest rest'} (hrest : Alike r rest rest') :
      Alike r (.comment before inside rest) (.comment before inside rest')
  | element (before : String) {name : String} (hn : name ≠ includeName) (attributes) {content content' rest rest'}
      (hcontent : Alike r content content') (hrest : Alike r rest rest') :
      Alike r (.element before name attributes content rest) (.element before name attributes content' rest')
  | directive (before : String) {a b} (h : r a b) (content content' : Content) {rest rest'}
      (hrest : Alike r rest rest') :
      Alike r (.element before includeName a content rest) (.element before includeName b content' rest')

/-- Elements of the same name and attributes whose contents differ at most inside directives. -/
structure Element.Alike (r : List (String × String) → List (String × String) → Prop) (e e' : Element) : Prop where
  name : e.name = e'.name
  attributes : e.attributes = e'.attributes
  content : Content.Alike r e.content e'.content

section

variable {r r' : List (String × String) → List (String × String) → Prop}

theorem Content.alike_refl {c : Content} (h : ∀ a ∈ c.directives, r a a) : Alike r c c := by
  induction c with
  | text s => exact .text s
  | comment before inside rest ih => exact .comment before inside (ih h)
  | element before name attributes content rest ihContent ihRest =>
    by_cases hn : name = includeName
    · subst hn
      simp only [directives, if_true, List.singleton_append, List.forall_mem_cons] at h
      exact .directive before h.1 content content (ihRest h.2)
    · simp only [directives, if_neg hn, List.forall_mem_append] at h
      exact .element before hn attributes (ihContent h.1) (ihRest h.2)

/-- The relation of the attributes matters only for the directives that the content has. -/
theorem Content.Alike.mono {c c' : Content} (h : Alike r c c') (hr : ∀ a ∈ c.directives, ∀ b, r a b → r' a b) :
    Alike r' c c' := by
  induction h with
  | text s => exact .text s
  | comment before inside hrest ih => exact .comment before inside (ih hr)
  | element before hn attributes hcontent hrest ihContent ihRest =>
    simp only [directives, if_neg hn, List.forall_mem_append] at hr
    exact .element before hn attributes (ihContent hr.1) (ihRest hr.2)
  | directive before h content content' hrest ih =>
    simp only [directives, if_true, List.singleton_append, List.forall_mem_cons] at hr
    exact .directive before (hr.1 _ h) content content' (ih hr.2)

theorem Element.alike_refl {e : Element} (h : ∀ a ∈ e.content.directives, r a a) : Alike r e e :=
  ⟨rfl, rfl, Content.alike_refl h⟩

theorem Element.Alike.mono {e e' : Element} (h : Alike r e e')
    (hr : ∀ a ∈ e.content.directives, ∀ b, r a b → r' a b) : Alike r' e e' :=
  ⟨h.name, h.attributes, h.content.mono hr⟩

end

/-! ### What corresponds -/

/-- What corresponds in two views: places one to one, directives at corresponding places, faults of the files and
failures.  A failure that arises at a place corresponds to the same failure at the corresponding place. -/
structure Correspondence (v w : View) where
  place : Location → Location → Prop
  directive : Location → Location → List (String × String) → List (String × String) → Prop
  fault : Files.Fault → Files.Fault → Prop
  failure : Failure → Failure → Prop
  place_unique : ∀ {l m l' m'}, place l m → place l' m' → (l = l' ↔ m = m')
  target : ∀ {l m a b}, place l m → directive l m a b →
    Paired Eq (fun x y => x.mode = y.mode ∧ Paired fault place (v.target x.href l) (w.target y.href m))
      (Directive.ofAttributes a) (Directive.ofAttributes b)
  hasFile : ∀ {l m}, place l m → Paired fault Eq (v.hasFile l) (w.hasFile m)
  document : ∀ {l m} {chain chain' : Chain}, place l m → v.hasFile l = .ok true → List.Forall₂ place chain chain' →
    Paired failure (Element.Alike (directive l m)) (v.readDocument l chain) (w.readDocument m chain')
  text : ∀ {l m a b t u encoding} {chain chain' : Chain}, place l m → directive l m a b →
    v.Leads l a (.text encoding) t → v.hasFile t = .ok true → place t u → List.Forall₂ place chain chain' →
    Paired failure Eq (v.readText t encoding chain) (w.readText u encoding chain')
  failure_files : ∀ {f f'}, fault f f' → failure (.files f) (.files f')
  failure_at : ∀ {l m} {chain chain' : Chain} (cause : Cause), place l m → List.Forall₂ place chain chain' →
    failure (.fault { cause, source := some (Path.absolute l), chain := chain.paths })
      (.fault { cause, source := some (Path.absolute m), chain := chain'.paths })
  failure_unresolved : ∀ {l m t u} {chain chain' : Chain}, place l m → place t u → List.Forall₂ place chain chain' →
    failure (.fault (.unresolved (Path.absolute t) (Path.absolute l) chain.paths))
      (.fault (.unresolved (Path.absolute u) (Path.absolute m) chain'.paths))
  failure_circular : ∀ {chain chain' : Chain}, List.Forall₂ place chain chain' →
    failure (.fault (.circular chain.paths)) (.fault (.circular chain'.paths))
  failure_name : failure .malformedName .malformedName

namespace Correspondence

variable {v w : View} (k : Correspondence v w)

/-- Two caches: the documents are as they are, and texts at corresponding places are the same. -/
structure Caches (c d : Cache) : Prop where
  left : c.Truthful v
  right : d.Truthful w
  texts : ∀ {l m}, k.place l m → c.texts.lookup l = d.texts.lookup m

/-- Two computations go in step: from corresponding caches their outcomes correspond, and so do the caches that they
leave. -/
def InStep {α β : Type} (r : α → β → Prop) (x : Loading α) (y : Loading β) : Prop :=
  ∀ c d, k.Caches c d →
    Paired k.failure r (x.outcome c).1 (y.outcome d).1 ∧ k.Caches (x.outcome c).2 (y.outcome d).2

section

variable {k} {α β γ δ : Type} {r : α → β → Prop} {s : γ → δ → Prop}

theorem inStep_lift {x : Except Failure α} {y : Except Failure β} (h : Paired k.failure r x y) :
    k.InStep r (liftM x) (liftM y) := by
  intro c d hcd
  rw [Loading.outcome_lift, Loading.outcome_lift]
  exact ⟨h, hcd⟩

theorem inStep_pure {a : α} {b : β} (h : r a b) : k.InStep r (pure a) (pure b) := inStep_lift (.ok h)

theorem InStep.bind {x : Loading α} {y : Loading β} {f : α → Loading γ} {g : β → Loading δ} (hx : k.InStep r x y)
    (hf : ∀ a b, r a b → k.InStep s (f a) (g b)) : k.InStep s (x >>= f) (y >>= g) := by
  intro c d hcd
  obtain ⟨ho, hc⟩ := hx c d hcd
  rw [Loading.outcome_bind, Loading.outcome_bind]
  rcases hxc : x.outcome c with ⟨o, c'⟩
  rcases hyd : y.outcome d with ⟨o', d'⟩
  rw [hxc, hyd] at ho hc
  cases ho with
  | ok h => exact hf _ _ h c' d' hc
  | error h => exact ⟨.error h, hc⟩

end

variable {l m t u : Location} {chain chain' : Chain}

/-- Corresponding places are on corresponding chains or not. -/
theorem mem_iff (ht : k.place t u) (hchain : List.Forall₂ k.place chain chain') : t ∈ chain ↔ u ∈ chain' := by
  induction hchain with
  | nil => simp
  | cons h _ ih => rw [List.mem_cons, List.mem_cons, ih, k.place_unique ht h]

theorem forall₂_concat (ht : k.place t u) (hchain : List.Forall₂ k.place chain chain') :
    List.Forall₂ k.place (chain ++ [t]) (chain' ++ [u]) := by
  induction hchain with
  | nil => exact .cons ht .nil
  | cons h _ ih => exact .cons h ih

/-! ### Reading -/

theorem inStep_document (hl : k.place l m) (hfile : v.hasFile l = .ok true)
    (hchain : List.Forall₂ k.place chain chain') :
    k.InStep (Element.Alike (k.directive l m)) (Loading.document v l chain) (Loading.document w m chain') := by
  intro c d hcd
  obtain ⟨hx, hc, htc⟩ := Loading.outcome_document_of_truthful hcd.left l chain
  obtain ⟨hy, hd, htd⟩ := Loading.outcome_document_of_truthful hcd.right m chain'
  refine ⟨?_, hc, hd, fun hp => ?_⟩
  · rw [hx, hy]
    exact k.document hl hfile hchain
  · rw [htc, htd]
    exact hcd.texts hp

/-- A text that is kept at a place is kept at the corresponding one. -/
theorem Caches.addText {c d : Cache} (h : k.Caches c d) (hl : k.place l m) (s : String) :
    k.Caches { c with texts := (l, s) :: c.texts } { d with texts := (m, s) :: d.texts } where
  left := h.left
  right := h.right
  texts := by
    intro l' m' hp
    by_cases hl' : l' = l
    · have hm' : m' = m := (k.place_unique hp hl).1 hl'
      rw [hl', hm', List.lookup_cons_self, List.lookup_cons_self]
    · have hm' : m' ≠ m := fun h => hl' ((k.place_unique hp hl).2 h)
      simp only [List.lookup_cons, beq_false_of_ne hl', beq_false_of_ne hm']
      exact h.texts hp

theorem inStep_text {encoding : String} (ht : k.place t u)
    (hread : Paired k.failure Eq (v.readText t encoding chain) (w.readText u encoding chain')) :
    k.InStep Eq (Loading.text v t encoding chain) (Loading.text w u encoding chain') := by
  intro c d hcd
  rw [Loading.outcome_text, Loading.outcome_text]
  unfold Loading.fetch
  rw [hcd.texts ht]
  cases d.texts.lookup u with
  | some s => exact ⟨.ok rfl, hcd⟩
  | none =>
    generalize v.readText t encoding chain = x, w.readText u encoding chain' = y at hread
    cases hread with
    | error h => exact ⟨.error h, hcd⟩
    | ok h =>
      subst h
      exact ⟨.ok rfl, hcd.addText k ht _⟩

/-- Corresponding directives can be read or not, and what they refer to is found in both or in neither. -/
theorem paired_locate {href href' : String} (hl : k.place l m) (hchain : List.Forall₂ k.place chain chain')
    (h : Paired k.fault k.place (v.target href l) (w.target href' m)) :
    Paired k.failure (fun x y => k.place x.1 y.1 ∧ v.target href l = .ok x.1 ∧ v.hasFile x.1 = .ok true)
      (v.locate href l chain) (w.locate href' m chain') := by
  rcases hv : v.target href l with f | t <;> rcases hw : w.target href' m with f' | u <;> rw [hv, hw] at h
  · cases h with
    | error h =>
      rw [View.locate_of_target_error hv, View.locate_of_target_error hw]
      exact .error (k.failure_files h)
  · cases h
  · cases h
  · cases h with
    | ok ht =>
      have hfile := k.hasFile ht
      rcases hvf : v.hasFile t with f | b <;> rcases hwf : w.hasFile u with f' | b' <;> rw [hvf, hwf] at hfile
      · cases hfile with
        | error h =>
          rw [View.locate_of_hasFile_error hv hvf, View.locate_of_hasFile_error hw hwf]
          exact .error (k.failure_files h)
      · cases hfile
      · cases hfile
      · cases hfile with
        | ok h =>
          subst h
          cases b with
          | true =>
            rw [View.locate_of_hasFile hv hvf, View.locate_of_hasFile hw hwf]
            exact .ok ⟨ht, rfl, hvf⟩
          | false =>
            rw [View.locate_of_not_hasFile hv hvf, View.locate_of_not_hasFile hw hwf]
            exact .error (k.failure_unresolved hl ht hchain)

theorem paired_read {a b : List (String × String)} (hl : k.place l m) (hchain : List.Forall₂ k.place chain chain')
    (h : k.directive l m a b) :
    Paired k.failure (fun x y => Directive.ofAttributes a = .ok x ∧ x.mode = y.mode ∧
        Paired k.fault k.place (v.target x.href l) (w.target y.href m))
      (Directive.read a l chain) (Directive.read b m chain') := by
  have hread := (k.target hl h).mapError (k := k.failure)
    (i := fun cause => .fault { cause, source := some (Path.absolute l), chain := chain.paths })
    (j := fun cause => .fault { cause, source := some (Path.absolute m), chain := chain'.paths })
    fun cause cause' h => h ▸ k.failure_at cause hl hchain
  exact hread.mono (fun _ _ h => h) fun x y hx _ h => ⟨Directive.read_eq_ok.1 hx, h⟩

/-! ### Composing -/

theorem paired_spliced (root : Element) : Paired k.failure Eq root.spliced root.spliced := by
  refine .refl fun e he => ?_
  rw [Element.spliced, localName] at he
  cases hn : localName? root.name with
  | none =>
    rw [hn] at he
    cases he
    exact k.failure_name
  | some n =>
    rw [hn] at he
    change (if n = fragmentName then _ else _) = _ at he
    split at he <;> cases he

/-- Corresponding directives stand for the same, if the documents that they include are composed in step. -/
theorem inStep_inclusion {a b : List (String × String)} (hl : k.place l m)
    (hchain : List.Forall₂ k.place chain chain') (h : k.directive l m a b)
    (ih : ∀ t ∈ v.files, ¬ chain.contains t = true → ∀ (e : Element) {u : Location} {c : Content}, k.place t u →
      Content.Alike (k.directive t u) e.content c →
      k.InStep Eq (Loading.compose v t (chain ++ [t]) e.content) (Loading.compose w u (chain' ++ [u]) c)) :
    k.InStep Eq (Loading.inclusion v l chain a) (Loading.inclusion w m chain' b) := by
  unfold Loading.inclusion
  refine (inStep_lift (k.paired_read hl hchain h)).bind ?_
  rintro x y ⟨hx, hmode, htarget⟩
  refine (inStep_lift (k.paired_locate hl hchain htarget)).bind ?_
  rintro ⟨t, htv⟩ ⟨u, htw⟩ ⟨htu, ht, hfile⟩
  have hchain' := k.forall₂_concat htu hchain
  rw [← hmode]
  cases hm : x.mode with
  | text encoding =>
    have hlead : v.Leads l a (.text encoding) t := ⟨x, hx, hm, ht⟩
    simp only [map_eq_pure_bind]
    refine (k.inStep_text htu (k.text hl h hlead hfile htu hchain')).bind fun s s' hs => ?_
    rw [hs]
    exact inStep_pure rfl
  | elements =>
    have hmem := k.mem_iff htu hchain
    by_cases hc : t ∈ chain
    · simp only [List.contains_iff_mem, hc, hmem.1 hc, if_true]
      exact inStep_lift (.error (k.failure_circular hchain'))
    · simp only [List.contains_iff_mem, hc, mt hmem.2 hc, if_false]
      refine (k.inStep_document htu hfile hchain').bind fun e e' he => ?_
      refine (ih t htv (by simpa using hc) e htu he.content).bind fun c c' hcc => ?_
      rw [hcc, he.name, he.attributes]
      exact inStep_lift (k.paired_spliced _)

/-- Contents that differ at most inside directives are composed in step, if these correspond. -/
theorem inStep_compose {content content' : Content} (hl : k.place l m) (hchain : List.Forall₂ k.place chain chain')
    (h : Content.Alike (k.directive l m) content content') :
    k.InStep Eq (Loading.compose v l chain content) (Loading.compose w m chain' content') := by
  induction l, chain, content using View.compose.induct (v := v) generalizing m chain' content' with
  | case1 l chain s =>
    cases h
    rw [Loading.compose_text, Loading.compose_text]
    exact inStep_pure rfl
  | case2 l chain before inside rest ih =>
    cases h with
    | comment _ _ hrest =>
      rw [Loading.compose_comment, Loading.compose_comment, map_eq_pure_bind, map_eq_pure_bind]
      refine (ih hl hchain hrest).bind fun r r' hr => ?_
      rw [hr]
      exact inStep_pure rfl
  | case3 l chain before attributes content rest ihRest ihRoot =>
    cases h with
    | element _ hn => exact absurd rfl hn
    | directive _ ha _ _ hrest =>
      have hincluded := k.inStep_inclusion hl hchain ha fun t htf hc e u c htu halike =>
        ihRoot t htf hc e htu (k.forall₂_concat htu hchain) halike
      rw [Loading.compose_include, Loading.compose_include]
      refine hincluded.bind fun i i' hi => (ihRest hl hchain hrest).bind fun r r' hr => ?_
      rw [hi, hr]
      exact inStep_pure rfl
  | case4 l chain before name attributes content rest hn ihContent ihRest =>
    cases h with
    | directive => exact absurd rfl hn
    | element _ _ _ hcontent hrest =>
      rw [Loading.compose_element _ _ _ hn, Loading.compose_element _ _ _ hn]
      refine (ihContent hl hchain hcontent).bind fun c c' hc => (ihRest hl hchain hrest).bind fun r r' hr => ?_
      rw [hc, hr]
      exact inStep_pure rfl

/-- Loads of corresponding root documents have corresponding outcomes: the same tree, or failures that correspond. -/
theorem loadFresh {root root' : Path} (hroot : Paired k.fault k.place (v.resolve root) (w.resolve root')) :
    Paired k.failure Eq (PromptMarkup.loadFresh v root) (PromptMarkup.loadFresh w root') := by
  have hload : k.InStep Eq (load v root) (load w root') := by
    rw [Loading.load_eq, Loading.load_eq]
    have hfiles : ∀ f f', k.fault f f' → k.failure (.files f) (.files f') := fun _ _ => k.failure_files
    refine (inStep_lift (hroot.mapError hfiles)).bind fun l m hl => ?_
    have hb := ((k.hasFile hl).mono (fun _ _ h => h) fun b b' hb _ h => (⟨h, hb⟩ : b = b' ∧ v.hasFile l = .ok b))
    refine (inStep_lift (hb.mapError hfiles)).bind ?_
    rintro b _ ⟨rfl, hfile⟩
    cases b with
    | false => exact inStep_lift (.error (k.failure_at .sourceNotFound hl .nil))
    | true =>
      have hchain : List.Forall₂ k.place [l] [m] := .cons hl .nil
      simp only [if_true]
      refine (k.inStep_document hl hfile hchain).bind fun e e' he => ?_
      refine (k.inStep_compose hl hchain he.content).bind fun c c' hc => ?_
      rw [hc, he.name, he.attributes]
      exact inStep_pure rfl
  exact (hload {} {} ⟨rfl, rfl, fun _ => rfl⟩).1

end Correspondence

end PromptMarkup
