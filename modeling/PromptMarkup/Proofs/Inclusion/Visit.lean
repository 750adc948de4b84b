import PromptMarkup.Inclusion.Splice
import PromptMarkup.Proofs.Inclusion.Composition
import PromptMarkup.Proofs.Inclusion.Refinement

/-!
# A visit as a recursion over content

A visit edits slots in place and goes on behind what it has put there.  The same computation, read for read, is a
recursion over mixed content (`Loading.compose`): what stands before the index is not looked at again, so it only
stands in front of the result (`resolve_eq`).  Unlike `View.compose` this recursion keeps what it reads.
-/

namespace PromptMarkup

namespace Loading

/-- The content of a document with its directives replaced, what is read on the way being kept.  `chain` ends with
the document. -/
def compose (v : View) (document : Location) (chain : Chain) (c : Content) : Loading Content :=
  match c with
  | .text s => return .text s
  | .comment before inside rest => do
    return .comment before inside (← compose v document chain rest)
  | .element before name attributes content rest => do
    if name = includeName then
      let d ← liftM (Directive.read attributes document chain)
      let ⟨l, _⟩ ← liftM (v.locate d.href document chain)
      let included ←
        match d.mode with
        | .text encoding => Content.text <$> Loading.text v l encoding (chain ++ [l])
        | .elements =>
          if chain.contains l then
            throw (.fault (.circular (Chain.paths (chain ++ [l]))))
          else
            let root ← Loading.document v l (chain ++ [l])
            let content ← compose v l (chain ++ [l]) root.content
            liftM (Element.spliced { root with content })
      let rest ← compose v document chain rest
      return .text before ++ included ++ rest
    else
      let content ← compose v document chain content
      let rest ← compose v document chain rest
      return .element before name attributes content rest
  termination_by ((v.offChain chain).length, c)
  decreasing_by
    all_goals first
      | exact Prod.Lex.left _ _ (View.offChain_append_lt ‹_ ∈ v.files› ‹¬_›)
      | exact Prod.Lex.right _ (by simp only [Content.comment.sizeOf_spec]; omega)
      | exact Prod.Lex.right _ (by simp only [Content.element.sizeOf_spec]; omega)

/-- What a directive in a document stands for. -/
def inclusion (v : View) (document : Location) (chain : Chain) (attributes : List (String × String)) :
    Loading Content := do
  let d ← liftM (Directive.read attributes document chain)
  let l ← liftM (v.locate d.href document chain)
  match d.mode with
  | .text encoding => Content.text <$> Loading.text v l.1 encoding (chain ++ [l.1])
  | .elements =>
    if chain.contains l.1 then
      throw (.fault (.circular (Chain.paths (chain ++ [l.1]))))
    else
      let root ← Loading.document v l.1 (chain ++ [l.1])
      let content ← compose v l.1 (chain ++ [l.1]) root.content
      liftM (Element.spliced { root with content })

section

variable {v : View} {document t : Location} {chain : Chain} {attributes : List (String × String)}

/-- A directive that includes elements, at a file that is not on the chain. -/
theorem inclusion_elements (h : v.Leads document attributes .elements t) (hf : v.hasFile t = .ok true)
    (hc : t ∉ chain) :
    inclusion v document chain attributes =
      (do
        let root ← Loading.document v t (chain ++ [t])
        let content ← compose v t (chain ++ [t]) root.content
        liftM (Element.spliced { root with content })) := by
  obtain ⟨d, hd, hm, ht⟩ := h
  have hcontains : chain.contains t = false := by simpa using hc
  rw [inclusion, Directive.read_eq_ok.2 hd]
  show (liftM (v.locate d.href document chain) : Loading { l // l ∈ v.files }) >>= _ = _
  rw [View.locate_of_hasFile ht hf, hm]
  show (if chain.contains t = true then _ else _) = _
  rw [hcontains]
  rfl

/-- A directive that includes a text, at a file. -/
theorem inclusion_text {encoding : String} (h : v.Leads document attributes (.text encoding) t)
    (hf : v.hasFile t = .ok true) :
    inclusion v document chain attributes = Content.text <$> Loading.text v t encoding (chain ++ [t]) := by
  obtain ⟨d, hd, hm, ht⟩ := h
  rw [inclusion, Directive.read_eq_ok.2 hd]
  show (liftM (v.locate d.href document chain) : Loading { l // l ∈ v.files }) >>= _ = _
  rw [View.locate_of_hasFile ht hf, hm]
  rfl

end

section

variable (v : View) (document : Location) (chain : Chain)

theorem compose_text (s : String) : compose v document chain (.text s) = pure (.text s) := by
  rw [compose]

theorem compose_comment (before inside : String) (rest : Content) :
    compose v document chain (.comment before inside rest) =
      (.comment before inside ·) <$> compose v document chain rest := by
  rw [compose, map_eq_pure_bind]

theorem compose_include (before : String) (attributes : List (String × String)) (content rest : Content) :
    compose v document chain (.element before includeName attributes content rest) =
      (do
        let included ← inclusion v document chain attributes
        let rest ← compose v document chain rest
        return .text before ++ included ++ rest) := by
  rw [compose, if_pos rfl, inclusion]
  simp only [bind_assoc]
  refine bind_congr fun d => bind_congr fun l => ?_
  cases d.mode with
  | text encoding => rfl
  | elements =>
    by_cases hc : chain.contains l.1 = true
    · simp only [hc, if_true]
    · simp only [hc, Bool.false_eq_true, if_false, bind_assoc]

theorem compose_element {name : String} (hn : name ≠ includeName) (before : String)
    (attributes : List (String × String)) (content rest : Content) :
    compose v document chain (.element before name attributes content rest) =
      (do
        let content ← compose v document chain content
        let rest ← compose v document chain rest
        return .element before name attributes content rest) := by
  rw [compose, if_neg hn]

/-- Text in front of content stays in front of its composition. -/
theorem compose_prepend (s : String) (c : Content) :
    compose v document chain (c.prepend s) = (·.prepend s) <$> compose v document chain c := by
  cases c with
  | text t => rw [Content.prepend, compose_text, compose_text, map_pure]; rfl
  | comment b i r =>
    rw [Content.prepend, compose_comment, compose_comment, Functor.map_map]
    rfl
  | element b n a c r =>
    rw [Content.prepend]
    by_cases hn : n = includeName
    · subst hn
      rw [compose_include, compose_include]
      simp only [map_bind, map_pure, Content.text_append, ← Content.prepend_append, Content.prepend_prepend]
    · rw [compose_element v document chain hn, compose_element v document chain hn]
      simp only [map_bind, map_pure, Content.prepend]

/-- Contents one after the other are composed one after the other. -/
theorem compose_append (c d : Content) :
    compose v document chain (c ++ d) =
      (do
        let c ← compose v document chain c
        let d ← compose v document chain d
        return c ++ d) := by
  induction c with
  | text s =>
    simp only [Content.text_append, compose_prepend, compose_text, pure_bind, map_eq_pure_bind]
  | comment b i r ih =>
    simp only [Content.comment_append, compose_comment, ih, map_eq_pure_bind, bind_assoc, pure_bind]
  | element b n a c r _ ih =>
    by_cases hn : n = includeName
    · subst hn
      simp only [Content.element_append, compose_include, ih, bind_assoc, pure_bind, Content.append_assoc]
    · simp only [Content.element_append, compose_element v document chain hn, ih, bind_assoc, pure_bind]

/-- Content without directives is left as it is. -/
theorem compose_of_directives_eq_nil {c : Content} (h : c.directives = []) :
    compose v document chain c = pure c := by
  induction c with
  | text s => exact compose_text v document chain s
  | comment b i r ih =>
    rw [compose_comment, ih h, map_pure]
  | element b n a c r ihc ihr =>
    by_cases hn : n = includeName
    · simp [Content.directives, hn] at h
    · have hcr : c.directives = [] ∧ r.directives = [] := by simpa [Content.directives, hn] using h
      rw [compose_element v document chain hn, ihc hcr.1, ihr hcr.2, pure_bind, pure_bind]

end

/-! ### The visit of slots -/

section

variable (v : View) (document : Location) (chain : Chain) {s : Slots} {i : Nat} {tail : String}

theorem compose_back_comment {inside : String} (h : s.children[i]? = some ⟨.comment inside, tail⟩) :
    compose v document chain (s.back i) =
      (Branch.content "" [⟨.comment inside, tail⟩] ++ ·) <$> compose v document chain (s.back (i + 1)) := by
  rw [Slots.back_of_getElem? h, compose_append]
  simp only [Branch.content, compose_comment, compose_text, pure_bind, map_eq_pure_bind]

theorem compose_back_include {e : Element} (h : s.children[i]? = some ⟨.element e, tail⟩)
    (hn : e.name = includeName) :
    compose v document chain (s.back i) =
      (do
        let included ← inclusion v document chain e.attributes
        let rest ← compose v document chain (s.back (i + 1))
        return included ++ .text tail ++ rest) := by
  rw [Slots.back_of_getElem? h, compose_append]
  simp only [Branch.content, hn, compose_include, compose_text, bind_assoc, pure_bind,
    Content.text_append, Content.prepend_empty]

theorem compose_back_element {e : Element} (h : s.children[i]? = some ⟨.element e, tail⟩)
    (hn : e.name ≠ includeName) :
    compose v document chain (s.back i) =
      (do
        let content ← compose v document chain e.content
        let rest ← compose v document chain (s.back (i + 1))
        return Branch.content "" [⟨.element { e with content }, tail⟩] ++ rest) := by
  rw [Slots.back_of_getElem? h, compose_append]
  simp only [Branch.content, compose_element v document chain hn, compose_text, bind_assoc, pure_bind]

theorem compose_slots (c : Content) :
    (fun r => (c.slots.front 0 ++ r).slots) <$> compose v document chain (c.slots.back 0) =
      Content.slots <$> compose v document chain c := by
  have hc := Slots.front_append_back c.slots 0
  rw [Slots.content_slots, Slots.front_zero, Content.text_append] at hc
  calc (fun r => (c.slots.front 0 ++ r).slots) <$> compose v document chain (c.slots.back 0)
      = Content.slots <$> (·.prepend c.slots.text) <$> compose v document chain (c.slots.back 0) := by
        rw [Functor.map_map]
        rfl
    _ = Content.slots <$> compose v document chain c := by rw [← compose_prepend, hc]

end

/-- Visiting an element from a position on puts the composition of what stands there behind what is left of it. -/
theorem resolve_eq (v : View) (document : Location) (chain : Chain) (index : Nat) (parent : Slots)
    (hi : index ≤ parent.children.length) :
    resolve v document chain index parent =
      (fun r => (parent.front index ++ r).slots) <$> compose v document chain (parent.back index) := by
  -- Every case of the visit moves a child from the part behind the index to the part before it.
  induction document, chain, index, parent using resolve.induct (v := v) with
  | case1 document chain index parent hb =>
    have hl : parent.children.length ≤ index := List.getElem?_eq_none_iff.1 hb
    rw [resolve_none hb, Slots.front_of_length_le hl, Slots.back_of_length_le hl, compose_text, map_pure,
      Content.append_empty, Slots.slots_content]
  | case2 document chain index parent inside tail hb ih =>
    have hi' : index < parent.children.length := (List.getElem?_eq_some_iff.1 hb).1
    rw [resolve_comment hb, ih hi', compose_back_comment v document chain hb, Functor.map_map]
    simp only [Slots.front_succ_of_getElem? hb, Content.append_assoc]
  | case3 document chain index parent e tail hb hn ihText ihRoot ihRest =>
    have hi' : index < parent.children.length := (List.getElem?_eq_some_iff.1 hb).1
    have hl := Slots.length_erase hi'
    rw [resolve_include hb hn, compose_back_include v document chain hb hn, inclusion]
    simp only [bind_assoc, map_bind, map_pure]
    refine bind_congr fun d => bind_congr fun l => ?_
    cases d.mode with
    | text encoding =>
      simp only [map_eq_pure_bind, bind_assoc, pure_bind]
      refine bind_congr fun s => ?_
      rw [ihText s (by rw [Slots.length_addText]; omega), Slots.back_erase_addText hb, Slots.front_erase_addText hb,
        map_eq_pure_bind]
      simp only [Content.append_assoc, Content.text_append, Content.prepend_append, Content.prepend_prepend]
    | elements =>
      by_cases hc : chain.contains l.1 = true
      · simp only [hc, if_true]
        rfl
      · simp only [hc, Bool.false_eq_true, if_false, bind_assoc]
        refine bind_congr fun root => ?_
        rw [ihRoot l.1 l.2 hc root (Nat.zero_le _), compose_slots]
        simp only [map_eq_pure_bind, bind_assoc, pure_bind, Slots.content_slots, ← content_contribution]
        refine bind_congr fun content => ?_
        have hbehind (branches : List Branch) := ihRest branches
          (by rw [Slots.length_addText, Slots.length_insert (by omega)]; omega)
        simp only [Slots.back_erase_insert hb, Slots.front_erase_insert hb] at hbehind
        cases contribution { root with content } with
        | error e => rfl
        | ok branches =>
          show resolve v document chain _ _ = _
          rw [hbehind branches, map_eq_pure_bind]
          simp only [Content.append_assoc]
          rfl
  | case4 document chain index parent e tail hb hn ihContent ihRest =>
    have hi' : index < parent.children.length := (List.getElem?_eq_some_iff.1 hb).1
    rw [resolve_element hb hn, compose_back_element v document chain hb hn, ihContent (Nat.zero_le _),
      compose_slots]
    simp only [map_eq_pure_bind, bind_assoc, pure_bind]
    refine bind_congr fun content => ?_
    rw [ihRest content.slots (by rw [Slots.length_setContent]; exact hi')]
    simp only [map_eq_pure_bind, Slots.back_setContent, Slots.front_setContent hb, Slots.content_slots,
      Content.append_assoc]
    rfl

/-- A load reads its root document and composes its content. -/
theorem load_eq (v : View) (root : Path) :
    load v root =
      (do
        let l ← liftM ((v.resolve root).mapError Failure.files)
        if ← liftM ((v.hasFile l).mapError Failure.files) then
          let e ← Loading.document v l [l]
          let content ← compose v l [l] e.content
          return { e with content }
        else throw (.fault { cause := .sourceNotFound, source := some (Path.absolute l) })) := by
  unfold load
  refine bind_congr fun l => bind_congr fun b => ?_
  cases b with
  | false => rfl
  | true =>
    simp only [if_true]
    refine bind_congr fun e => ?_
    rw [resolve_eq v l [l] 0 e.content.slots (Nat.zero_le _), compose_slots]
    simp only [map_eq_pure_bind, bind_assoc, pure_bind, Slots.content_slots]

/-- What a load of a document gives is the composition of its content, made with the document in the cache. -/
theorem outcome_load_of_hasFile {v : View} {root : Path} {l : Location} {e : Element} (hr : v.resolve root = .ok l)
    (hf : v.hasFile l = .ok true) (he : v.document l = .ok e) :
    ((load v root).outcome {}).1 =
      ({ e with content := · }) <$> ((compose v l [l] e.content).outcome { documents := [(l, e)] }).1 := by
  have hr : (v.resolve root).mapError Failure.files = .ok l := Except.mapError_eq_ok.2 hr
  have hf : (v.hasFile l).mapError Failure.files = .ok true := Except.mapError_eq_ok.2 hf
  have hd : v.readDocument l [l] = .ok e := View.readDocument_eq_ok.2 he
  rw [load_eq]
  simp only [hr, outcome_bind, outcome_lift, hf, if_true, outcome_document, fetch, List.lookup_nil, hd]
  rcases (compose v l [l] e.content).outcome { documents := [(l, e)] } with ⟨_ | _, _⟩ <;> rfl

theorem outcome_load_of_document {fs : FileSystem} {root : Path} {l : Location} {e : Element} (h : fs.Holds root l e) :
    ((load fs root).outcome {}).1 =
      ({ e with content := · }) <$> ((compose fs l [l] e.content).outcome { documents := [(l, e)] }).1 :=
  outcome_load_of_hasFile (v := fs.view) h.resolve h.hasFile h.document

end Loading

/-- A document without directives is loaded as it is. -/
theorem loadFresh_of_directives_eq_nil {fs : FileSystem} {root : Path} {l : Location} {e : Element}
    (h : fs.Holds root l e) (hd : e.content.directives = []) : loadFresh fs root = .ok e := by
  rw [loadFresh, Loading.outcome_load_of_document h, Loading.compose_of_directives_eq_nil _ _ _ hd,
    Loading.outcome_pure]
  rfl

/-- A root element with a directive as its only child is loaded with what the directive stands for in its place. -/
theorem loadFresh_of_only_directive {v : View} {root : Path} {l t : Location} {name : String}
    {attributes a : List (String × String)} {inside : Content} {e : Element} (hr : v.resolve root = .ok l)
    (hf : v.hasFile l = .ok true)
    (hd : v.document l = .ok ⟨name, attributes, .element "" includeName a inside (.text "")⟩)
    (ht : v.Leads l a .elements t) (hne : t ≠ l) (hfile : v.hasFile t = .ok true) (he : v.document t = .ok e)
    (hnone : e.content.directives = []) :
    loadFresh v root = (fun c => ⟨name, attributes, .text "" ++ c ++ .text ""⟩) <$> e.spliced := by
  have hread : v.readDocument t ([l] ++ [t]) = .ok e := View.readDocument_eq_ok.2 he
  have hlookup (f : Element) : List.lookup t [(l, f)] = none := by
    simp [List.lookup_cons, beq_false_of_ne hne]
  rw [loadFresh, Loading.outcome_load_of_hasFile hr hf hd, Loading.compose_include,
    Loading.inclusion_elements ht hfile (by simpa using hne), Loading.compose_text]
  simp only [bind_assoc, Loading.outcome_bind, Loading.outcome_document, Loading.fetch, hlookup, hread,
    Loading.compose_of_directives_eq_nil _ _ _ hnone, Loading.outcome_pure, Loading.outcome_lift]
  cases e.spliced <;> rfl

end PromptMarkup
