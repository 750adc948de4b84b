import Mathlib.Logic.Function.Iterate
import PromptMarkup.Inclusion.Splice
import PromptMarkup.Proofs.Inclusion.Graph
import PromptMarkup.Proofs.Inclusion.Recall

/-!
# The resolution of documents, step by step

A load as a machine (`Resolution.step`): it visits the children of one element, while the visits that this one
interrupts wait.  A step looks at one child, or goes back to the visit that waits.  Nothing here recurses, so
whether the machine comes to an end is a question.  The main result is that it does, for every root path and
whatever has been read before, and with the outcome of the load (`Resolution.load_terminates`).  On the way the chain
of every visit is a list of files without repetitions, and every step enters a child, enters a document that is not on
the chain, or leaves a visit with one child less to pass.
-/

namespace PromptMarkup

namespace Resolution

/-- A visit of the children of an element: the document that the element stands in, the position that the visit has
got to, and the children as they are by then. -/
structure Visit where
  document : Location
  chain : Chain
  index : Nat
  parent : Slots

namespace Visit

/-- How many children there are still to pass. -/
def left (a : Visit) : Nat := a.parent.children.length - a.index

/-- The child is left behind as it is. -/
def pass (a : Visit) : Visit := { a with index := a.index + 1 }

/-- The child is left behind with other content. -/
def putContent (a : Visit) (c : Content) : Visit :=
  { a with index := a.index + 1, parent := a.parent.setContent a.index c }

/-- A text takes the place of the child.  The position stays, and the next child has moved to it. -/
def putText (a : Visit) (s : String) : Visit :=
  { a with parent := (a.parent.erase a.index).addText a.index s }

/-- Children, none perhaps, and a text behind them take the place of the child. -/
def putBranches (a : Visit) (bs : List Branch) (tail : String) : Visit :=
  { a with
    index := a.index + bs.length
    parent := ((a.parent.erase a.index).insert a.index bs).addText (a.index + bs.length) tail }

variable {a : Visit} (h : a.index < a.parent.children.length)
include h

/-- One child less is to be passed once it is left behind. -/
theorem left_pass : a.pass.left + 1 = a.left := by
  simp only [left, pass]
  omega

theorem left_putContent (c : Content) : (a.putContent c).left + 1 = a.left := by
  simp only [left, putContent, Slots.length_setContent]
  omega

/-- The position stays, but there is a child less behind it. -/
theorem left_putText (s : String) : (a.putText s).left + 1 = a.left := by
  have hl := Slots.length_erase h
  simp only [left, putText, Slots.length_addText]
  omega

/-- As many children are put before the new position as it has moved. -/
theorem left_putBranches (bs : List Branch) (tail : String) : (a.putBranches bs tail).left + 1 = a.left := by
  have hl := Slots.length_erase h
  have hi : a.index ≤ (a.parent.erase a.index).children.length := by omega
  simp only [left, putBranches, Slots.length_addText, Slots.length_insert hi]
  omega

end Visit

/-- A visit that waits at a child: for the visit of the child, or for that of the document which the child includes.
That document comes with its root element and with the text behind the child. -/
inductive Frame where
  | child (visit : Visit)
  | document (visit : Visit) (root : Element) (tail : String)

/-- The visit that waits. -/
def Frame.visit : Frame → Visit
  | child a => a
  | document a _ _ => a

/-- The visit under way, those that wait for it, the last one first, and the root element of the root document. -/
structure State where
  visit : Visit
  waiting : List Frame
  root : Element

namespace State

/-- The visit of an element that is a child. -/
def enterChild (s : State) (e : Element) : State :=
  { s with
    visit := { s.visit with index := 0, parent := e.content.slots }
    waiting := .child s.visit :: s.waiting }

/-- The visit of a document that is included. -/
def enterDocument (s : State) (l : Location) (root : Element) (tail : String) : State :=
  { s with
    visit := ⟨l, s.visit.chain ++ [l], 0, root.content.slots⟩
    waiting := .document s.visit root tail :: s.waiting }

/-- The visit goes on, or another one does in its place. -/
def goOn (s : State) (a : Visit) (ws : List Frame) : State := { s with visit := a, waiting := ws }

end State

/-- The visit of the root document. -/
def enterRoot (v : View) (root : Path) : Loading State := do
  let l ← liftM ((v.resolve root).mapError Failure.files)
  if ← liftM ((v.hasFile l).mapError Failure.files) then
    let e ← Loading.document v l [l]
    return ⟨⟨l, [l], 0, e.content.slots⟩, [], e⟩
  else throw (.fault { cause := .sourceNotFound, source := some (Path.absolute l) })

/-- What is done at a directive: the text that it includes takes its place, or the document that it includes is
entered. -/
def expand (v : View) (s : State) (attributes : List (String × String)) (tail : String) : Loading State := do
  let a := s.visit
  let d ← liftM (Directive.read attributes a.document a.chain)
  let l ← liftM (v.locate d.href a.document a.chain)
  match d.mode with
  | .text encoding =>
    let t ← Loading.text v l.1 encoding (a.chain ++ [l.1])
    return s.goOn (a.putText (t ++ tail)) s.waiting
  | .elements =>
    if a.chain.contains l.1 then
      throw (.fault (.circular (Chain.paths (a.chain ++ [l.1]))))
    else
      let root ← Loading.document v l.1 (a.chain ++ [l.1])
      return s.enterDocument l.1 root tail

/-- What is done behind the last child: the last visit that waits goes on, or there is the composed root element. -/
def goBack (s : State) : Loading (Element ⊕ State) :=
  match s.waiting with
  | [] => return .inl { s.root with content := s.visit.parent.content }
  | .child w :: ws => return .inr (s.goOn (w.putContent s.visit.parent.content) ws)
  | .document w root tail :: ws => do
    let branches ← liftM (contribution { root with content := s.visit.parent.content })
    return .inr (s.goOn (w.putBranches branches tail) ws)

/-- What is done in a state. -/
def next (v : View) (s : State) : Loading (Element ⊕ State) :=
  match s.visit.parent.children[s.visit.index]? with
  | none => goBack s
  | some ⟨.comment _, _⟩ => return .inr (s.goOn s.visit.pass s.waiting)
  | some ⟨.element e, tail⟩ =>
    if e.name = includeName then .inr <$> expand v s e.attributes tail
    else return .inr (s.enterChild e)

/-- A load before it has begun, on its way, or ended, and what has been read. -/
inductive Config where
  | begin (root : Path) (read : Cache)
  | running (s : State) (read : Cache)
  | ended (outcome : Except Failure Element × Cache)

/-- The configuration after a step with this outcome. -/
def Config.ofOutcome : Except Failure (Element ⊕ State) × Cache → Config
  | (.ok (.inr s), c) => .running s c
  | (.ok (.inl e), c) => .ended (.ok e, c)
  | (.error f, c) => .ended (.error f, c)

/-- One step of a load. -/
def step (v : View) : Config → Config
  | .begin root c => .ofOutcome ((Sum.inr <$> enterRoot v root : Loading (Element ⊕ State)).outcome c)
  | .running s c => .ofOutcome ((next v s).outcome c)
  | .ended o => .ended o

/-! ### What a step preserves -/

/-- The chain of a visit is a list of files without repetitions.  It ends with the document. -/
structure Visit.Sound (v : View) (a : Visit) : Prop where
  nodup : a.chain.Nodup
  hasFile : ∀ l ∈ a.chain, v.hasFile l = .ok true
  last : a.chain.getLast? = some a.document

/-- The visit under way and those that wait are sound, and those that wait do so at a child. -/
structure State.Sound (v : View) (s : State) : Prop where
  visit : s.visit.Sound v
  waiting : ∀ w ∈ s.waiting, w.visit.Sound v ∧ w.visit.index < w.visit.parent.children.length

/-- A load on its way is in a sound state. -/
def Config.Sound (v : View) : Config → Prop
  | .running s _ => s.Sound v
  | _ => True

/-- How a load proceeds from one configuration to the next. -/
inductive Advances (v : View) : Config → Config → Prop where
  | entersRoot {root c l e c'} (hf : v.hasFile l = .ok true) :
      Advances v (.begin root c) (.running ⟨⟨l, [l], 0, e.content.slots⟩, [], e⟩ c')
  | entersChild {s : State} {c e tail} (h : s.visit.parent.children[s.visit.index]? = some ⟨.element e, tail⟩) :
      Advances v (.running s c) (.running (s.enterChild e) c)
  | entersDocument {s : State} {c l root tail c'} (hi : s.visit.index < s.visit.parent.children.length)
      (hf : v.hasFile l = .ok true) (hc : l ∉ s.visit.chain) :
      Advances v (.running s c) (.running (s.enterDocument l root tail) c')
  | passes {s : State} {c a c'} (hd : a.document = s.visit.document) (hc : a.chain = s.visit.chain)
      (hl : a.left + 1 = s.visit.left) : Advances v (.running s c) (.running (s.goOn a s.waiting) c')
  | goesBack {s : State} {c w ws a} (hi : s.visit.left = 0) (hw : s.waiting = w :: ws)
      (hd : a.document = w.visit.document) (hc : a.chain = w.visit.chain) (hl : a.left + 1 = w.visit.left) :
      Advances v (.running s c) (.running (s.goOn a ws) c)
  | completes {s : State} {c} (hi : s.visit.left = 0) (hw : s.waiting = []) :
      Advances v (.running s c) (.ended (.ok { s.root with content := s.visit.parent.content }, c))
  | failsAtRoot {root c f c'} : Advances v (.begin root c) (.ended (.error f, c'))
  | fails {s c f c'} : Advances v (.running s c) (.ended (.error f, c'))
  | stays {o} : Advances v (.ended o) (.ended o)

section

variable {v : View}

/-- A step in two parts ends the load if the first part fails, and goes on with the second part otherwise. -/
theorem ofOutcome_bind {α : Type} {p : Config → Prop} {x : Loading α} {f : α → Loading (Element ⊕ State)} {c : Cache}
    (herror : ∀ e c', p (.ended (.error e, c')))
    (hok : ∀ a c', x.outcome c = (.ok a, c') → p (.ofOutcome ((f a).outcome c'))) :
    p (.ofOutcome ((x >>= f).outcome c)) := by
  rw [Loading.outcome_bind]
  rcases hx : x.outcome c with ⟨e | a, c'⟩
  · exact herror e c'
  · exact hok a c' hx

theorem ofOutcome_lift_bind {α : Type} {p : Config → Prop} {x : Except Failure α} {f : α → Loading (Element ⊕ State)}
    {c : Cache} (herror : ∀ e c', p (.ended (.error e, c'))) (hok : ∀ a, x = .ok a → p (.ofOutcome ((f a).outcome c))) :
    p (.ofOutcome ((liftM x >>= f).outcome c)) := by
  refine ofOutcome_bind herror fun a c' h => ?_
  rw [Loading.outcome_lift] at h
  cases h
  exact hok a rfl

/-- The root document is entered if it is a file that can be read. -/
theorem advances_begin (root : Path) (c : Cache) : Advances v (.begin root c) (step v (.begin root c)) := by
  have hfails : ∀ e c', Advances v (.begin root c) (.ended (.error e, c')) := fun _ _ => .failsAtRoot
  rw [step, map_eq_pure_bind, enterRoot, bind_assoc]
  refine ofOutcome_lift_bind hfails fun l _ => ?_
  rw [bind_assoc]
  refine ofOutcome_lift_bind hfails fun b hb => ?_
  have hf : v.hasFile l = .ok b := Except.mapError_eq_ok.1 hb
  cases b with
  | false => exact .failsAtRoot
  | true =>
    rw [if_pos rfl, bind_assoc]
    refine ofOutcome_bind hfails fun e c' _ => ?_
    exact .entersRoot hf

/-- At a directive the text that it includes is put in its place, or a document is entered that is not on the chain. -/
theorem advances_expand {s : State} (c : Cache) (hi : s.visit.index < s.visit.parent.children.length)
    (attributes : List (String × String)) (tail : String) :
    Advances v (.running s c)
      (.ofOutcome ((Sum.inr <$> expand v s attributes tail : Loading (Element ⊕ State)).outcome c)) := by
  have hfails : ∀ e c', Advances v (.running s c) (.ended (.error e, c')) := fun _ _ => .fails
  rw [map_eq_pure_bind, expand, bind_assoc]
  refine ofOutcome_lift_bind hfails fun d _ => ?_
  rw [bind_assoc]
  refine ofOutcome_lift_bind hfails fun l hl => ?_
  have hf : v.hasFile l.1 = .ok true := (View.locate_eq_ok hl).2
  cases d.mode with
  | text encoding =>
    rw [bind_assoc]
    refine ofOutcome_bind hfails fun t c' _ => ?_
    exact .passes rfl rfl (Visit.left_putText hi (t ++ tail))
  | elements =>
    by_cases hc : s.visit.chain.contains l.1 = true
    · simp only [hc, if_true]
      exact .fails
    · simp only [hc, Bool.false_eq_true, if_false, bind_assoc]
      refine ofOutcome_bind hfails fun root c' _ => ?_
      exact .entersDocument hi hf (by simpa using hc)

/-- Behind the last child the last visit that waits leaves its own child behind. -/
theorem advances_goBack {s : State} (hs : s.Sound v) (c : Cache) (hi : s.visit.left = 0) :
    Advances v (.running s c) (.ofOutcome ((goBack s).outcome c)) := by
  obtain ⟨visit, waiting, root⟩ := s
  cases waiting with
  | nil => exact .completes hi rfl
  | cons w ws =>
    have hw : w.visit.index < w.visit.parent.children.length := (hs.waiting w (List.mem_cons_self ..)).2
    cases w with
    | child w => exact .goesBack hi rfl rfl rfl (Visit.left_putContent hw _)
    | document w root' tail =>
      refine ofOutcome_lift_bind (fun _ _ => .fails) fun branches _ => ?_
      exact .goesBack hi rfl rfl rfl (Visit.left_putBranches hw branches tail)

/-- Every step from a sound state advances the load. -/
theorem advances_running {s : State} (hs : s.Sound v) (c : Cache) :
    Advances v (.running s c) (step v (.running s c)) := by
  have hstep : step v (.running s c) = .ofOutcome ((next v s).outcome c) := rfl
  rw [hstep, next]
  cases h : s.visit.parent.children[s.visit.index]? with
  | none =>
    have hl := List.getElem?_eq_none_iff.1 h
    exact advances_goBack hs c (Nat.sub_eq_zero_of_le hl)
  | some b =>
    have hi : s.visit.index < s.visit.parent.children.length := (List.getElem?_eq_some_iff.1 h).1
    obtain ⟨e | inside, tail⟩ := b
    · by_cases hn : e.name = includeName
      · simp only [hn, if_true]
        exact advances_expand c hi e.attributes tail
      · simp only [hn, if_false]
        exact .entersChild h
    · exact .passes rfl rfl (Visit.left_pass hi)

/-- What a configuration advances to is sound again. -/
theorem Advances.sound {x y : Config} (h : Advances v x y) (hx : x.Sound v) : y.Sound v := by
  cases h with
  | entersRoot hf =>
    refine ⟨⟨List.pairwise_singleton _ _, fun l hl => ?_, rfl⟩, fun w hw => nomatch hw⟩
    rw [List.mem_singleton.1 hl]
    exact hf
  | @entersChild s c e tail h =>
    have hi : s.visit.index < s.visit.parent.children.length := (List.getElem?_eq_some_iff.1 h).1
    exact ⟨⟨hx.visit.nodup, hx.visit.hasFile, hx.visit.last⟩, List.forall_mem_cons.2 ⟨⟨hx.visit, hi⟩, hx.waiting⟩⟩
  | @entersDocument s c l root tail c' hi hf hc =>
    -- The document is not on the chain, so it can be put at the end of it.
    have hnodup : (s.visit.chain ++ [l]).Nodup := by
      refine List.nodup_append.2 ⟨hx.visit.nodup, List.pairwise_singleton _ l, fun m hm k hk hmk => hc ?_⟩
      rwa [← List.mem_singleton.1 hk, ← hmk]
    have hfiles : ∀ m ∈ s.visit.chain ++ [l], v.hasFile m = .ok true := by
      intro m hm
      rcases List.mem_append.1 hm with hm | hm
      · exact hx.visit.hasFile m hm
      · rw [List.mem_singleton.1 hm]
        exact hf
    exact ⟨⟨hnodup, hfiles, List.getLast?_concat⟩, List.forall_mem_cons.2 ⟨⟨hx.visit, hi⟩, hx.waiting⟩⟩
  | passes hd hc hl =>
    refine ⟨⟨?_, ?_, ?_⟩, hx.waiting⟩
    · exact hc ▸ hx.visit.nodup
    · exact hc ▸ hx.visit.hasFile
    · exact hc ▸ hd ▸ hx.visit.last
  | goesBack hi hw hd hc hl =>
    have hwaiting := hx.waiting
    rw [hw] at hwaiting
    obtain ⟨⟨hvisit, -⟩, hrest⟩ := List.forall_mem_cons.1 hwaiting
    refine ⟨⟨?_, ?_, ?_⟩, hrest⟩
    · exact hc ▸ hvisit.nodup
    · exact hc ▸ hvisit.hasFile
    · exact hc ▸ hd ▸ hvisit.last
  | completes => trivial
  | failsAtRoot => trivial
  | fails => trivial
  | stays => trivial

/-- Every step advances the load. -/
theorem advances_step {x : Config} (hx : x.Sound v) : Advances v x (step v x) := by
  cases x with
  | begin root c => exact advances_begin root c
  | running s c => exact advances_running hx c
  | ended o => exact .stays

/-- Along a run of a load every configuration is sound. -/
theorem sound_iterate (root : Path) (c : Cache) (n : Nat) : ((step v)^[n] (.begin root c)).Sound v := by
  induction n with
  | zero => trivial
  | succ n ih =>
    rw [Function.iterate_succ_apply']
    exact (advances_step ih).sound ih

end

/-! ### A run comes to an end -/

/-- Steps lead from one configuration to another. -/
def LeadsTo (v : View) (x y : Config) : Prop := ∃ n, (step v)^[n] x = y

namespace LeadsTo

variable {v : View} {x y z : Config}

theorem refl (x : Config) : LeadsTo v x x := ⟨0, rfl⟩

theorem of_step (h : step v x = y) : LeadsTo v x y := ⟨1, h⟩

theorem trans (h : LeadsTo v x y) (h' : LeadsTo v y z) : LeadsTo v x z := by
  obtain ⟨m, rfl⟩ := h
  obtain ⟨n, rfl⟩ := h'
  exact ⟨n + m, Function.iterate_add_apply (step v) n m x⟩

end LeadsTo

/-- Steps from a configuration have an outcome: where that is a result, they lead to a configuration that `p` allows
for it, and where it is a failure, they end the load with it. -/
def Arrives {α : Type} (v : View) (p : α → Cache → Config → Prop) (x : Config) : Except Failure α × Cache → Prop
  | (.ok y, c) => ∃ z, p y c z ∧ LeadsTo v x z
  | (.error f, c) => LeadsTo v x (.ended (.error f, c))

theorem Arrives.of_leadsTo {α : Type} {v : View} {p : α → Cache → Config → Prop} {x y : Config}
    {o : Except Failure α × Cache} (hxy : LeadsTo v x y) (h : Arrives v p y o) : Arrives v p x o := by
  obtain ⟨f | a, c⟩ := o
  · exact hxy.trans h
  · obtain ⟨z, hz, hyz⟩ := h
    exact ⟨z, hz, hxy.trans hyz⟩

/-- Steps that start with a computation have the outcome of another one. -/
def Runs {α : Type} (v : View) (m : Loading (Element ⊕ State)) (r : Loading α) (p : α → Cache → Config → Prop) : Prop :=
  ∀ c, Arrives v p (.ofOutcome (m.outcome c)) (r.outcome c)

namespace Runs

variable {α β : Type} {v : View} {m : Loading (Element ⊕ State)} {p : α → Cache → Config → Prop}

theorem throw (f : Failure) : Runs v (liftM (Except.error f : Except Failure (Element ⊕ State)))
    (liftM (Except.error f : Except Failure α)) p :=
  fun _ => .refl _

theorem pure {s : State} {y : α} (h : ∀ c, p y c (.running s c)) : Runs v (pure (.inr s)) (pure y) p :=
  fun c => ⟨.running s c, h c, .refl _⟩

/-- Both computations may start with the same one. -/
theorem bind {x : Loading β} {g : β → Loading (Element ⊕ State)} {f : β → Loading α}
    (h : ∀ y, Runs v (g y) (f y) p) : Runs v (x >>= g) (x >>= f) p := by
  intro c
  rw [Loading.outcome_bind, Loading.outcome_bind]
  rcases x.outcome c with ⟨e | y, c'⟩
  · exact .refl _
  · exact h y c'

/-- A state goes on with what is done in it. -/
theorem of_next {s : State} {r : Loading α} (h : Runs v (next v s) r p) : Runs v (Pure.pure (.inr s)) r p := by
  intro c
  have hstep : LeadsTo v (.running s c) (.ofOutcome ((next v s).outcome c)) := .of_step rfl
  exact (h c).of_leadsTo hstep

/-- Where the first part of a computation is run to a state, the second part goes on from there. -/
theorem andThen {q : β → Cache → Config → Prop} {r : Loading β} {f : β → Loading α} (h : Runs v m r q)
    (hf : ∀ y c x, q y c x → ∃ s, x = .running s c ∧ Runs v (next v s) (f y) p) : Runs v m (r >>= f) p := by
  intro c
  have hc := h c
  rw [Loading.outcome_bind]
  rcases hr : r.outcome c with ⟨e | y, c'⟩
  · rw [hr] at hc
    exact hc
  · rw [hr] at hc
    obtain ⟨x, hx, hl⟩ := hc
    obtain ⟨s, rfl, hs⟩ := hf y c' x hx
    exact (of_next hs c').of_leadsTo hl

end Runs

/-- The configurations in which a visit has got behind the last child. -/
def Behind (document : Location) (chain : Chain) (waiting : List Frame) (root : Element) (parent : Slots) (c : Cache)
    (x : Config) : Prop :=
  ∃ index, parent.children[index]? = none ∧ x = .running ⟨⟨document, chain, index, parent⟩, waiting, root⟩ c

/-- Behind the last child the load goes back. -/
theorem Behind.exists_next {v : View} {document : Location} {chain : Chain} {waiting : List Frame} {root : Element}
    {parent : Slots} {c : Cache} {x : Config} (h : Behind document chain waiting root parent c x) :
    ∃ s, x = .running s c ∧ next v s = goBack ⟨⟨document, chain, 0, parent⟩, waiting, root⟩ := by
  obtain ⟨index, hi, rfl⟩ := h
  refine ⟨_, rfl, ?_⟩
  simp only [next, hi]
  rfl

/-- A visit gets behind the last child with the children that the resolution gives, whatever waits for it. -/
theorem runs_resolve (v : View) (document : Location) (chain : Chain) (index : Nat) (parent : Slots)
    (waiting : List Frame) (root : Element) :
    Runs v (pure (.inr ⟨⟨document, chain, index, parent⟩, waiting, root⟩)) (resolve v document chain index parent)
      (Behind document chain waiting root) := by
  -- The visits that wait are those whose resolution has not come to its end; the induction is on the resolution.
  induction document, chain, index, parent using resolve.induct (v := v) generalizing waiting root with
  | case1 document chain index parent hb =>
    rw [resolve_none hb]
    exact .pure fun c => ⟨index, hb, rfl⟩
  | case2 document chain index parent inside tail hb ih =>
    rw [resolve_comment hb]
    refine .of_next ?_
    simp only [next, hb]
    exact ih waiting root
  | case3 document chain index parent e tail hb hn ihText ihRoot ihRest =>
    rw [resolve_include hb hn]
    refine .of_next ?_
    simp only [next, hb, hn, if_true, map_eq_pure_bind, expand, bind_assoc]
    refine .bind fun d => .bind fun l => ?_
    cases d.mode with
    | text encoding =>
      simp only [bind_assoc, pure_bind]
      exact .bind fun s => ihText s waiting root
    | elements =>
      by_cases hc : chain.contains l.1 = true
      · simp only [hc, if_true]
        exact .throw _
      · simp only [hc, Bool.false_eq_true, if_false, bind_assoc, pure_bind]
        refine .bind fun included => ?_
        refine (ihRoot l l.2 hc included _ root).andThen fun resolved c x hx => ?_
        obtain ⟨s, rfl, hs⟩ := hx.exists_next (v := v)
        refine ⟨s, rfl, ?_⟩
        rw [hs]
        exact .bind fun branches => ihRest branches waiting root
  | case4 document chain index parent e tail hb hn ihContent ihRest =>
    rw [resolve_element hb hn]
    refine .of_next ?_
    simp only [next, hb, hn, if_false]
    refine (ihContent _ root).andThen fun resolved c x hx => ?_
    obtain ⟨s, rfl, hs⟩ := hx.exists_next (v := v)
    refine ⟨s, rfl, ?_⟩
    rw [hs]
    exact ihRest resolved waiting root

/-- A load comes to its end, with its outcome. -/
theorem runs_load (v : View) (root : Path) :
    Runs v (Sum.inr <$> enterRoot v root) (load v root) (fun e c x => x = .ended (.ok e, c)) := by
  rw [map_eq_pure_bind, enterRoot, load]
  simp only [bind_assoc]
  refine .bind fun l => .bind fun b => ?_
  cases b with
  | false => exact .throw _
  | true =>
    simp only [if_true, bind_assoc, pure_bind]
    refine .bind fun e => (runs_resolve v l [l] 0 e.content.slots [] e).andThen fun resolved c x hx => ?_
    obtain ⟨s, rfl, hs⟩ := hx.exists_next (v := v)
    refine ⟨s, rfl, ?_⟩
    rw [hs]
    exact fun c => ⟨_, rfl, .refl _⟩

/-- A load of any root path from whatever has been read before comes to its end after finitely many steps, with its
outcome.  On the way the chain of every visit is a list of files without repetitions, and every step advances the load,
also where a text or an empty fragment is put in a directive's place and the position stays. -/
theorem load_terminates (fs : FileSystem) (root : Path) (c : Cache) :
    (∃ n, (step fs)^[n] (.begin root c) = .ended ((load fs root).outcome c)) ∧
      ∀ n, ((step fs)^[n] (.begin root c)).Sound fs ∧
        Advances fs ((step fs)^[n] (.begin root c)) ((step fs)^[n + 1] (.begin root c)) := by
  have hsound := sound_iterate (v := fs) root c
  constructor
  · have hbegin : LeadsTo fs (.begin root c)
        (.ofOutcome ((Sum.inr <$> enterRoot fs root : Loading (Element ⊕ State)).outcome c)) := .of_step rfl
    have hrun := runs_load fs root c
    rcases hload : (load fs root).outcome c with ⟨f | e, c'⟩
    · rw [hload] at hrun
      exact hbegin.trans hrun
    · rw [hload] at hrun
      obtain ⟨x, rfl, hrun⟩ := hrun
      exact hbegin.trans hrun
  · intro n
    rw [Function.iterate_succ_apply']
    exact ⟨hsound n, advances_step (hsound n)⟩

end Resolution

end PromptMarkup
