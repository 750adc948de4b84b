import PromptMarkup.Inclusion.Splice
import PromptMarkup.Proofs.Inclusion.Composition
import PromptMarkup.Proofs.Inclusion.Graph
import PromptMarkup.Proofs.Inclusion.Recall

/-!
# Splicing in place gives the composition

A visit changes an element under a moving index.  What stands before the index is final, and what stands from
it on is still the document's own, so a visit follows the composition of the part behind the index
(`follows_resolve`), whatever the directives there turn into.  The main result is `loadFresh_eq_composition`: a
fresh load and the composition have the same outcome, tree or failure, as long as no text is asked for in two
encodings.
-/

namespace PromptMarkup

/-- What a root contributes as children is what it stands for. -/
theorem content_contribution (root : Element) :
    Branch.content "" <$> contribution root = root.spliced := by
  unfold contribution Element.spliced
  cases localName root.name with
  | error e => rfl
  | ok n =>
    by_cases hn : n = fragmentName
    · subst hn
      show Except.ok _ = Except.ok _
      rw [Slots.content_children_slots]
    · simp [hn, bind, Except.bind, pure, Except.pure, Functor.map, Except.map, Branch.content,
        Content.ofElement]

namespace View

variable (v : View) (document : Location) (chain : Chain)

theorem compose_back_comment {s : Slots} {i : Nat} {inside tail : String}
    (h : s.children[i]? = some ⟨.comment inside, tail⟩) :
    v.compose document chain (s.back i) =
      (Branch.content "" [⟨.comment inside, tail⟩] ++ ·) <$> v.compose document chain (s.back (i + 1)) := by
  rw [Slots.back_of_getElem? h, compose_append]
  simp only [Branch.content, compose_comment, compose_text]
  rfl

theorem compose_back_include {s : Slots} {i : Nat} {e : Element} {tail : String}
    (h : s.children[i]? = some ⟨.element e, tail⟩) (hn : e.name = includeName) :
    v.compose document chain (s.back i) =
      (do
        let included ← v.inclusion document chain e.attributes
        let rest ← v.compose document chain (s.back (i + 1))
        return included ++ .text tail ++ rest) := by
  rw [Slots.back_of_getElem? h, compose_append]
  simp only [Branch.content, hn, compose_include, compose_text, bind_assoc, pure_bind,
    Content.text_append, Content.prepend_empty]

theorem compose_back_element {s : Slots} {i : Nat} {e : Element} {tail : String}
    (h : s.children[i]? = some ⟨.element e, tail⟩) (hn : e.name ≠ includeName) :
    v.compose document chain (s.back i) =
      (do
        let content ← v.compose document chain e.content
        let rest ← v.compose document chain (s.back (i + 1))
        return Branch.content "" [⟨.element { e with content }, tail⟩] ++ rest) := by
  rw [Slots.back_of_getElem? h, compose_append]
  simp only [Branch.content, compose_element v document chain hn, compose_text, bind_assoc, pure_bind]

/-- Visiting the children of an element composes its content. -/
theorem compose_slots (c : Content) :
    (fun r => (c.slots.front 0 ++ r).slots) <$> v.compose document chain (c.slots.back 0) =
      Content.slots <$> v.compose document chain c := by
  have hc := Slots.front_append_back c.slots 0
  rw [Slots.content_slots, Slots.front_zero, Content.text_append] at hc
  calc (fun r => (c.slots.front 0 ++ r).slots) <$> v.compose document chain (c.slots.back 0)
      = Content.slots <$> (·.prepend c.slots.text) <$> v.compose document chain (c.slots.back 0) := by
        rw [Functor.map_map]
        rfl
    _ = Content.slots <$> v.compose document chain c := by rw [← compose_prepend, hc]

end View

namespace Slots

theorem directives_back_slots (c : Content) : (c.slots.back 0).directives = c.directives := by
  have := congrArg Content.directives (front_append_back c.slots 0)
  simpa [Content.directives] using this

variable {s : Slots} {i : Nat} {tail : String}

theorem directives_back_comment {inside : String} (h : s.children[i]? = some ⟨.comment inside, tail⟩) :
    (s.back i).directives = (s.back (i + 1)).directives := by
  rw [back_of_getElem? h, Content.directives_append]
  simp [Branch.content, Content.directives]

theorem directives_back_element {e : Element} (h : s.children[i]? = some ⟨.element e, tail⟩)
    (hn : e.name ≠ includeName) :
    (s.back i).directives = e.content.directives ++ (s.back (i + 1)).directives := by
  rw [back_of_getElem? h, Content.directives_append]
  simp [Branch.content, Content.directives, hn]

theorem directives_back_include {e : Element} (h : s.children[i]? = some ⟨.element e, tail⟩)
    (hn : e.name = includeName) :
    (s.back i).directives = e.attributes :: (s.back (i + 1)).directives := by
  rw [back_of_getElem? h, Content.directives_append]
  simp [Branch.content, Content.directives, hn]

/-- What stands in a directive's place stands behind what was there before it. -/
theorem front_erase_addText {b : Branch} (h : s.children[i]? = some b) (t : String) :
    ((s.erase i).addText i t).front i = s.front i ++ .text t := by
  have hi := (List.getElem?_eq_some_iff.1 h).1
  have hl := length_erase hi
  rw [front_addText (by omega), front_erase hi]

theorem front_erase_insert {b : Branch} (h : s.children[i]? = some b) (bs : List Branch) (t : String) :
    (((s.erase i).insert i bs).addText (i + bs.length) t).front (i + bs.length) =
      s.front i ++ Branch.content "" bs ++ .text t := by
  have hi := (List.getElem?_eq_some_iff.1 h).1
  have hl := length_erase hi
  rw [front_addText (by rw [length_insert (by omega)]; omega), front_insert (by omega), front_erase hi]

end Slots

namespace Loading

variable {v : View} {c₀ : Cache} {documents : Location → Prop} {reads : Location → String → Prop}

/-- Visiting an element from a position on follows composing what stands there, behind what is left of it. -/
theorem follows_resolve (hcl : (v.recalling c₀).Closed documents reads) (document : Location) (chain : Chain)
    (index : Nat) (parent : Slots) (hd : documents document)
    (hh : (v.recalling c₀).Holds document (parent.back index)) (hi : index ≤ parent.children.length) :
    Follows v (v.recalling c₀) reads (resolve v document chain index parent)
      (fun c => (fun r => (parent.front index ++ r).slots) <$>
        (v.recalling c).compose document chain (parent.back index)) := by
  -- The induction is on the visit: every case moves a child from the part behind the index to the part before it.
  induction document, chain, index, parent using resolve.induct (v := v) with
  | case1 document chain index parent hb =>
    have hl : parent.children.length ≤ index := List.getElem?_eq_none_iff.1 hb
    rw [resolve_none hb, Slots.front_of_length_le hl, Slots.back_of_length_le hl]
    refine (follows_pure parent).congr fun c => ?_
    simp [View.compose_text, pure, Except.pure, Functor.map, Except.map]
  | case2 document chain index parent inside tail hb ih =>
    have hi' : index < parent.children.length := (List.getElem?_eq_some_iff.1 hb).1
    rw [resolve_comment hb]
    refine (ih hd (hh.mono ?_) hi').congr fun c => ?_
    · rw [Slots.directives_back_comment hb]
      exact List.Subset.refl _
    · rw [View.compose_back_comment _ document chain hb, Functor.map_map]
      simp only [Slots.front_succ_of_getElem? hb, Content.append_assoc]
  | case3 document chain index parent e tail hb hn ihText ihRoot ihRest =>
    have hi' : index < parent.children.length := (List.getElem?_eq_some_iff.1 hb).1
    have hl := Slots.length_erase hi'
    have ha : e.attributes ∈ (parent.back index).directives := by simp [Slots.directives_back_include hb hn]
    have hrest : (v.recalling c₀).Holds document (parent.back (index + 1)) :=
      hh.mono (by rw [Slots.directives_back_include hb hn]; exact List.subset_cons_self _ _)
    rw [resolve_include hb hn]
    simp only [View.compose_back_include _ document chain hb hn, View.inclusion, bind_assoc, map_bind, map_pure]
    refine follows_lift_bind fun d hr => follows_lift_bind fun l hloc => ?_
    have hlead : (v.recalling c₀).Leads document e.attributes d.mode l.1 := .of_locate hr hloc
    cases hm : d.mode with
    | text encoding =>
      rw [hm] at hlead
      have hreads := hcl.includesText hd (hh.includesText ha hlead)
      refine ((follows_text hreads _).bind fun s => ihText s hd ?_ ?_).congr fun c => ?_
      · rw [Slots.back_erase_addText hb]
        exact hrest
      · rw [Slots.length_addText]
        omega
      · simp only [Slots.back_erase_addText hb, Slots.front_erase_addText hb, map_eq_pure_bind, bind_assoc,
          pure_bind, Content.append_assoc, Content.text_append, Content.prepend_prepend]
    | elements =>
      rw [hm] at hlead
      have ht := hcl.includes hd (hh.includes ha hlead)
      by_cases hc : chain.contains l.1 = true
      · simp only [hc, if_true]
        exact follows_lift (.error _)
      · simp only [hc, Bool.false_eq_true, if_false]
        -- The included document is visited by itself and on a longer chain; only its result is put into `parent`.
        have hroot {root : Element} (hr : (v.recalling c₀).document l.1 = .ok root) :
            Follows v (v.recalling c₀) reads (resolve v l (chain ++ [l.1]) 0 root.content.slots)
              (fun c => Content.slots <$> (v.recalling c).compose l.1 (chain ++ [l.1]) root.content) := by
          refine (ihRoot l l.2 hc root ht ?_ (Nat.zero_le _)).congr fun c => View.compose_slots _ _ _ _
          exact (View.Holds.document hr).mono (by rw [Slots.directives_back_slots]; exact List.Subset.refl _)
        have hbehind (branches : List Branch) := ihRest branches hd
          (by rw [Slots.back_erase_insert hb]; exact hrest)
          (by rw [Slots.length_addText, Slots.length_insert (by omega)]; omega)
        simp only [Slots.back_erase_insert hb, Slots.front_erase_insert hb] at hbehind
        refine (follows_document_bind fun root hr => (hroot hr).bind fun resolved =>
          (follows_lift _).bind fun branches => hbehind branches).congr fun c => ?_
        simp only [bind_assoc, Slots.content_slots, ← content_contribution, map_eq_pure_bind,
          Content.append_assoc, pure_bind]
  | case4 document chain index parent e tail hb hn ihContent ihRest =>
    have hi' : index < parent.children.length := (List.getElem?_eq_some_iff.1 hb).1
    have hs := Slots.directives_back_element hb hn
    rw [resolve_element hb hn]
    refine ((ihContent hd (hh.mono ?_) (Nat.zero_le _)).bind fun resolved => ihRest resolved hd ?_ ?_).congr
      fun c => ?_
    · rw [Slots.directives_back_slots, hs]
      exact List.subset_append_left _ _
    · rw [Slots.back_setContent]
      exact hh.mono (by rw [hs]; exact List.subset_append_right _ _)
    · rw [Slots.length_setContent]
      exact hi'
    · rw [View.compose_back_element _ document chain hb hn, View.compose_slots]
      simp only [map_bind, map_pure, bind_map_left, Slots.back_setContent, Slots.front_setContent hb,
        Slots.content_slots, Content.append_assoc]
      rfl

/-- A load follows the composition. -/
theorem follows_load (hcl : (v.recalling c₀).Closed documents reads) (root : Path)
    (hroot : ∀ {l}, v.resolve root = .ok l → documents l) :
    Follows v (v.recalling c₀) reads (load v root) (fun c => (v.recalling c).composition root) := by
  unfold load View.composition
  refine follows_lift_bind fun l hl => follows_lift_bind fun b _ => ?_
  have hd : documents l := hroot (Except.mapError_eq_ok.1 hl)
  cases b with
  | false => exact follows_lift (.error _)
  | true =>
    simp only [if_true]
    refine (follows_document_bind fun e he => ?_)
    have hh := (View.Holds.document he).mono (d := e.content.slots.back 0)
      (by rw [Slots.directives_back_slots]; exact List.Subset.refl _)
    refine ((follows_resolve hcl l [l] 0 e.content.slots hd hh (Nat.zero_le _)).bind
      fun resolved => follows_pure _).congr fun c => ?_
    rw [View.compose_slots]
    simp only [map_eq_pure_bind, bind_assoc, pure_bind, Slots.content_slots]
    rfl

/-- Whatever has been read before, the composition explains the outcome of a load. -/
theorem explained_load (v : View) (c : Cache) (root : Path) :
    Explained v (fun _ _ => True) c ((load v root).outcome c) (fun c => (v.recalling c).composition root) := by
  have hcl : (v.recalling c).Closed (fun _ => True) (fun _ _ => True) :=
    ⟨fun _ _ => trivial, fun _ _ => trivial⟩
  exact follows_load hcl root (fun _ => trivial) c rfl

end Loading

/-! ### What the composition depends on -/

namespace View

variable {v : View} {c d : Cache} {documents : Location → Prop} {reads : Location → String → Prop}

/-- Composition depends on the documents that are included and on the texts that they include. -/
theorem compose_congr (hdoc : (v.recalling c).document = (v.recalling d).document)
    (hcl : (v.recalling d).Closed documents reads)
    (htext : ∀ {l encoding}, reads l encoding → (v.recalling c).text l encoding = (v.recalling d).text l encoding)
    (document : Location) (chain : Chain) (content : Content) (hd : documents document)
    (hh : (v.recalling d).Holds document content) :
    (v.recalling c).compose document chain content = (v.recalling d).compose document chain content := by
  induction document, chain, content using compose.induct (v := v) with
  | case1 document chain s => rw [compose_text, compose_text]
  | case2 document chain before inside rest ih =>
    rw [compose_comment, compose_comment, ih hd hh]
  | case3 document chain before attributes content rest ihRest ihRoot =>
    have ha : attributes ∈ (Content.element before includeName attributes content rest).directives := by
      simp [Content.directives]
    rw [compose_include, compose_include, ihRest hd (hh.mono (by simp [Content.directives]))]
    congr 1
    unfold inclusion
    refine Except.bind_congr_ok fun dir hr => Except.bind_congr_ok fun l hl => ?_
    have hlead := Leads.of_locate (v := v.recalling d) hr hl
    cases hm : dir.mode with
    | text encoding =>
      rw [hm] at hlead
      simp only [readText, htext (hcl.includesText hd (hh.includesText ha hlead))]
    | elements =>
      rw [hm] at hlead
      -- The included document is one of `documents` again, which are closed under inclusion.
      have ht := hcl.includes hd (hh.includes ha hlead)
      by_cases hc : chain.contains l.1 = true
      · simp only [hc, if_true]
      · simp only [hc, Bool.false_eq_true, if_false, readDocument, hdoc]
        refine Except.bind_congr_ok fun root hroot => ?_
        rw [ihRoot l l.2 hc root ht (.document (readDocument_eq_ok.1 hroot))]
  | case4 document chain before name attributes content rest hn ihContent ihRest =>
    rw [compose_element _ _ _ hn, compose_element _ _ _ hn, ihContent hd (hh.mono ?_), ihRest hd (hh.mono ?_)]
    · simp [Content.directives, hn]
    · simp [Content.directives, hn]

theorem composition_congr (hdoc : (v.recalling c).document = (v.recalling d).document)
    (hcl : (v.recalling d).Closed documents reads)
    (htext : ∀ {l encoding}, reads l encoding → (v.recalling c).text l encoding = (v.recalling d).text l encoding)
    {root : Path} (hroot : ∀ {l}, v.resolve root = .ok l → documents l) :
    (v.recalling c).composition root = (v.recalling d).composition root := by
  unfold composition
  refine Except.bind_congr_ok fun l hl => Except.bind_congr_ok fun b _ => ?_
  have hd : documents l := hroot (Except.mapError_eq_ok.1 hl)
  cases b with
  | false => rfl
  | true =>
    simp only [if_true, readDocument, hdoc]
    refine Except.bind_congr_ok fun e he => ?_
    rw [compose_congr hdoc hcl htext l [l] e.content hd (.document (readDocument_eq_ok.1 he))]

/-- No two directives that a root document leads to ask for the text of one file in two encodings. -/
def OneEncoding (v : View) (root : Path) : Prop :=
  ∀ {l m t encoding encoding'}, v.Reaches root l → v.Reaches root m →
    v.IncludesText l t encoding → v.IncludesText m t encoding' → encoding = encoding'

/-- Files whose documents name one encoding only ask for no text in two. -/
theorem oneEncoding_of_forall {fs : FileSystem} (encoding : String)
    (h : ∀ e ∈ fs.documents, ∀ x ∈ e.content.textEncodings, x = encoding) (root : Path) :
    fs.view.OneEncoding root := by
  intro l m t x y _ _ hx hy
  obtain ⟨e, he, hxe⟩ := hx.exists_document
  obtain ⟨f, hf, hyf⟩ := hy.exists_document
  rw [h e (FileSystem.mem_documents he) x hxe, h f (FileSystem.mem_documents hf) y hyf]

end View

/-- A load that reads everything anew gives the composition, tree or failure. -/
theorem loadFresh_eq_composition (v : View) (root : Path) (h : v.OneEncoding root) :
    loadFresh v root = v.composition root := by
  have hcl : (v.recalling {}).Closed (v.Reaches root) (fun t encoding =>
      ∃ l, v.Reaches root l ∧ v.IncludesText l t encoding) :=
    ⟨fun hl ht => hl.includes ht, fun hl ht => ⟨_, hl, ht⟩⟩
  have ho := Loading.follows_load hcl root (fun hr => .root hr) {} rfl
  rw [loadFresh, ho.eq]
  refine View.composition_congr ho.grows.document hcl (fun {t encoding} hr => ?_) (fun hr => .root hr)
  -- A text that was kept was read in some encoding that was asked for, and only one was.
  cases hs : ((load v root).outcome {}).2.texts.lookup t with
  | none => simp [View.recalling, hs]
  | some s =>
    obtain hs' | ⟨encoding', ⟨m, hm, htm⟩, hv⟩ := ho.grows.read hs
    · cases hs'
    · obtain ⟨l, hl, htl⟩ := hr
      rw [View.recalling_text_of_lookup hs, h hl hm htl htm]
      exact hv.symm

/-- A prompt that includes a fragment twice, which has a text of its own and includes another. -/
def sharedFragment : FileSystem where
  current := []
  nodes := [
    (["a.xml"], .file (Encoding.Utf8.encode ("<prompt xmlns:xi='http://www.w3.org/2001/XInclude'>1"
      ++ "<xi:include href='f.xml'/>2<xi:include href='f.xml'/>3</prompt>"))),
    (["f.xml"], .file (Encoding.Utf8.encode ("<fragment xmlns:xi='http://www.w3.org/2001/XInclude'>x<rule/>y"
      ++ "<xi:include parse='text' href='t.txt'/></fragment>"))),
    (["t.txt"], .file (Encoding.Utf8.encode "z"))]

theorem sharedFragment.oneEncoding (root : Path) : sharedFragment.view.OneEncoding root :=
  View.oneEncoding_of_forall "utf-8" (by
    simp only [sharedFragment, Encoding.Utf8.encode_eq_bytes]
    decide) root

theorem loadFresh_sharedFragment :
    sharedFragment.view.OneEncoding (Path.ofString "a.xml") ∧
      loadFresh sharedFragment (Path.ofString "a.xml") =
        sharedFragment.view.composition (Path.ofString "a.xml") :=
  ⟨sharedFragment.oneEncoding _, loadFresh_eq_composition _ _ (sharedFragment.oneEncoding _)⟩

end PromptMarkup
