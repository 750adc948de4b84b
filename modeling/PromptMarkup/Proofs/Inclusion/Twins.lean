import PromptMarkup.Proofs.Inclusion.Visit
import PromptMarkup.Proofs.Matching

/-!
# Two views that look the same

Two runs, each with a loader and files of its own, track each other if their outcomes match and the loaders keep the
same texts.  The key facts: tracking is kept by sequencing (`Tracks.bind`), and visits of the same content track each
other as long as what the directives met there lead to is found the same (`tracks_compose`).
-/

namespace PromptMarkup

namespace View

/-- The directives that a visit of content meets, with the documents that they stand in.  The content is that of the
root document, which is on every chain and therefore not visited again. -/
inductive Meets (v : View) (root : Location) (c : Content) : Location → List (String × String) → Prop where
  | here {a} (h : a ∈ c.directives) : Meets v root c root a
  | there {l a t e b} (h : Meets v root c l a) (ht : v.Leads l a .elements t) (hr : t ≠ root)
      (he : v.document t = .ok e) (hb : b ∈ e.content.directives) : Meets v root c t b

/-- What the directives met from content of the root document lead to looks the same in two views. -/
structure LooksSame (v w : View) (root : Location) (c : Content) : Prop where
  target : ∀ {l a d}, v.Meets root c l a → Directive.ofAttributes a = .ok d → v.target d.href l = w.target d.href l
  hasFile : ∀ {l a mode t}, v.Meets root c l a → v.Leads l a mode t → v.hasFile t = w.hasFile t
  text : ∀ {l a t encoding}, v.Meets root c l a → v.Leads l a (.text encoding) t → v.text t encoding = w.text t encoding
  document : ∀ {l a t}, v.Meets root c l a → v.Leads l a .elements t → t ≠ root → v.document t = w.document t

/-- What the directives met from content of the root document lead to is found the same in two views.  How a location
would be read where no file is found does not matter. -/
structure FoundSame (v w : View) (root : Location) (c : Content) : Prop where
  target : ∀ {l a d}, v.Meets root c l a → Directive.ofAttributes a = .ok d → v.target d.href l = w.target d.href l
  hasFile : ∀ {l a mode t}, v.Meets root c l a → v.Leads l a mode t → v.hasFile t = w.hasFile t
  text : ∀ {l a t encoding}, v.Meets root c l a → v.Leads l a (.text encoding) t → v.hasFile t = .ok true →
    v.text t encoding = w.text t encoding
  document : ∀ {l a t}, v.Meets root c l a → v.Leads l a .elements t → t ≠ root → v.hasFile t = .ok true →
    v.document t = w.document t

theorem LooksSame.foundSame {v w : View} {root : Location} {c : Content} (h : v.LooksSame w root c) :
    v.FoundSame w root c where
  target := h.target
  hasFile := h.hasFile
  text ha ht _ := h.text ha ht
  document ha ht hr _ := h.document ha ht hr

/-- Content without directives leads to nothing. -/
theorem looksSame_of_directives_eq_nil {v w : View} {root : Location} {c : Content} (h : c.directives = []) :
    v.LooksSame w root c := by
  have hm {l : Location} {a : List (String × String)} : ¬ v.Meets root c l a := by
    intro hm
    induction hm with
    | here ha => simp [h] at ha
    | there _ _ _ _ _ ih => exact ih
  exact ⟨fun h => absurd h hm, fun h => absurd h hm, fun h => absurd h hm, fun h => absurd h hm⟩

/-- A directive refers to the same file in two views. -/
theorem matching_locate {v w : View} {href : String} {document : Location} (chain : Chain)
    (ht : v.target href document = w.target href document)
    (hf : ∀ t, v.target href document = .ok t → v.hasFile t = w.hasFile t) :
    Matching (fun l m => l.1 = m.1) (v.locate href document chain) (w.locate href document chain) := by
  cases hv : v.target href document with
  | error f =>
    rw [locate_of_target_error hv, locate_of_target_error (ht ▸ hv)]
    exact .error _
  | ok t =>
    have hw : w.target href document = .ok t := ht ▸ hv
    have hft := hf t hv
    cases hfile : v.hasFile t with
    | error f =>
      rw [locate_of_hasFile_error hv hfile, locate_of_hasFile_error hw (hft ▸ hfile)]
      exact .error _
    | ok b =>
      cases b with
      | true =>
        rw [locate_of_hasFile hv hfile, locate_of_hasFile hw (hft ▸ hfile)]
        exact .ok rfl
      | false =>
        rw [locate_of_not_hasFile hv hfile, locate_of_not_hasFile hw (hft ▸ hfile)]
        exact .error _

end View

/-- A cache holds documents only as they are. -/
def Cache.Truthful (v : View) (c : Cache) : Prop := (v.recalling c).document = v.document

/-- Two caches of loaders with views of their own: the documents are as they are, and the texts are the same. -/
structure Cache.Alike (v w : View) (c d : Cache) : Prop where
  left : c.Truthful v
  right : d.Truthful w
  texts : ∀ t, c.texts.lookup t = d.texts.lookup t

theorem Cache.alike_empty (v w : View) : Cache.Alike v w {} {} := ⟨rfl, rfl, fun _ => rfl⟩

namespace Loading

variable {α β γ δ : Type} {v w : View}

/-- With a truthful cache a document is read as it is, and no text is added. -/
theorem outcome_document_of_truthful {c : Cache} (h : c.Truthful v) (l : Location) (chain : Chain) :
    ((document v l chain).outcome c).1 = v.readDocument l chain ∧
      ((document v l chain).outcome c).2.Truthful v ∧ ((document v l chain).outcome c).2.texts = c.texts := by
  have hfollows : Follows v (v.recalling c) (fun _ _ => True) (document v l chain) _ := follows_document l chain
  have ho := hfollows c rfl
  have hd : (v.recalling ((document v l chain).outcome c).2).document = v.document := ho.grows.document.trans h
  refine ⟨?_, hd, ?_⟩
  · rw [ho.eq, View.readDocument, hd, View.readDocument]
  · rw [outcome_document]

/-- Two computations track each other: from alike caches their outcomes match, and they leave alike caches. -/
def Tracks (v w : View) (r : α → β → Prop) (x : Loading α) (y : Loading β) : Prop :=
  ∀ c d, Cache.Alike v w c d →
    Matching r (x.outcome c).1 (y.outcome d).1 ∧ Cache.Alike v w (x.outcome c).2 (y.outcome d).2

theorem tracks_lift {r : α → β → Prop} {x : Except Failure α} {y : Except Failure β} (h : Matching r x y) :
    Tracks v w r (liftM x) (liftM y) := by
  intro c d hcd
  rw [outcome_lift, outcome_lift]
  exact ⟨h, hcd⟩

theorem tracks_pure {r : α → β → Prop} {a : α} {b : β} (h : r a b) : Tracks v w r (pure a) (pure b) :=
  tracks_lift (.ok h)

theorem Tracks.bind {r : α → β → Prop} {s : γ → δ → Prop} {x : Loading α} {y : Loading β} {f : α → Loading γ}
    {g : β → Loading δ} (hx : Tracks v w r x y) (hf : ∀ a b, r a b → Tracks v w s (f a) (g b)) :
    Tracks v w s (x >>= f) (y >>= g) := by
  intro c d hcd
  obtain ⟨ho, hc⟩ := hx c d hcd
  rw [outcome_bind, outcome_bind]
  rcases hxc : x.outcome c with ⟨o, c'⟩
  rcases hyd : y.outcome d with ⟨o', d'⟩
  rw [hxc, hyd] at ho hc
  cases ho with
  | ok h => exact hf _ _ h c' d' hc
  | error e => exact ⟨.error e, hc⟩

theorem tracks_document {l : Location} (h : v.document l = w.document l) (chain : Chain) :
    Tracks v w (fun e f => e = f ∧ v.document l = .ok e) (document v l chain) (document w l chain) := by
  intro c d hcd
  obtain ⟨hx, hc, htc⟩ := outcome_document_of_truthful hcd.left l chain
  obtain ⟨hy, hd, htd⟩ := outcome_document_of_truthful hcd.right l chain
  refine ⟨?_, hc, hd, fun t => ?_⟩
  · have hread : w.readDocument l chain = v.readDocument l chain := by rw [View.readDocument, ← h, View.readDocument]
    rw [hx, hy, hread]
    exact (Matching.refl _).mono fun e f he hef => ⟨hef, View.readDocument_eq_ok.1 he⟩
  · rw [htc, htd, hcd.texts]

theorem tracks_text {l : Location} {encoding : String} (h : v.text l encoding = w.text l encoding) (chain : Chain) :
    Tracks v w Eq (text v l encoding chain) (text w l encoding chain) := by
  intro c d hcd
  have hread : w.readText l encoding chain = v.readText l encoding chain := by rw [View.readText, ← h, View.readText]
  rw [outcome_text, outcome_text, hread]
  unfold fetch
  rw [← hcd.texts l]
  cases c.texts.lookup l with
  | some s => exact ⟨.ok rfl, hcd⟩
  | none =>
    cases v.readText l encoding chain with
    | error e => exact ⟨.error e, hcd⟩
    | ok s =>
      refine ⟨.ok rfl, hcd.left, hcd.right, fun t => ?_⟩
      simp only [List.lookup_cons, hcd.texts]

/-- A directive stands for the same in two views, if it leads to what is found the same and the visits of the documents
that it includes track each other. -/
theorem tracks_inclusion {root : Location} {c₀ : Content} (hs : v.FoundSame w root c₀) {document : Location}
    {chain : Chain} {a : List (String × String)} (ha : v.Meets root c₀ document a) (hr : root ∈ chain)
    (ih : ∀ t ∈ v.files, ¬ chain.contains t = true → ∀ (e : Element),
      (∀ b ∈ e.content.directives, v.Meets root c₀ t b) →
      Tracks v w Eq (compose v t (chain ++ [t]) e.content) (compose w t (chain ++ [t]) e.content)) :
    Tracks v w Eq (inclusion v document chain a) (inclusion w document chain a) := by
  unfold inclusion
  refine (tracks_lift ((Matching.refl _).mono (s := fun d d' => d = d' ∧ Directive.ofAttributes a = .ok d)
    fun d d' hd hdd => ⟨hdd, Directive.read_eq_ok.1 hd⟩)).bind ?_
  rintro d _ ⟨rfl, hd⟩
  have hlocate := View.matching_locate chain (hs.target ha hd) (fun t ht => hs.hasFile ha ⟨d, hd, rfl, ht⟩)
  refine (tracks_lift (hlocate.mono (s := fun l m => l.1 = m.1 ∧ v.target d.href document = .ok l.1 ∧
    v.hasFile l.1 = .ok true) fun l m hl hlm => ⟨hlm, View.locate_eq_ok hl⟩)).bind ?_
  rintro ⟨t, htv⟩ ⟨u, htw⟩ ⟨htu, ht, hfile⟩
  obtain rfl : t = u := htu
  have hlead : v.Leads document a d.mode t := ⟨d, hd, rfl, ht⟩
  cases hmode : d.mode with
  | text encoding =>
    rw [hmode] at hlead
    simp only [map_eq_pure_bind]
    refine (tracks_text (hs.text ha hlead hfile) (chain ++ [t])).bind fun s s' h => ?_
    rw [h]
    exact tracks_pure rfl
  | elements =>
    rw [hmode] at hlead
    by_cases hc : chain.contains t = true
    · simp only [hc, if_true]
      exact tracks_lift (.error _)
    · -- The root document is on the chain, so the included document is another one.
      have htr : t ≠ root := by
        rintro rfl
        exact hc (by simpa using hr)
      simp only [hc, Bool.false_eq_true, if_false]
      refine (tracks_document (hs.document ha hlead htr hfile) (chain ++ [t])).bind ?_
      rintro e _ ⟨rfl, he⟩
      refine (ih t htv hc e fun b hb => .there ha hlead htr he hb).bind fun c c' h => ?_
      rw [h]
      exact tracks_lift (.refl _)

/-- Visits of the same content track each other, if what it leads to is found the same. -/
theorem tracks_compose {root : Location} {c₀ : Content} (hs : v.FoundSame w root c₀) (document : Location)
    (chain : Chain) (content : Content) (hm : ∀ a ∈ content.directives, v.Meets root c₀ document a)
    (hr : root ∈ chain) :
    Tracks v w Eq (compose v document chain content) (compose w document chain content) := by
  induction document, chain, content using View.compose.induct (v := v) with
  | case1 document chain s =>
    rw [compose_text, compose_text]
    exact tracks_pure rfl
  | case2 document chain before inside rest ih =>
    rw [compose_comment, compose_comment, map_eq_pure_bind, map_eq_pure_bind]
    refine (ih hm hr).bind fun r r' hrest => ?_
    rw [hrest]
    exact tracks_pure rfl
  | case3 document chain before attributes content rest ihRest ihRoot =>
    have ha : v.Meets root c₀ document attributes := hm attributes (by simp [Content.directives])
    have hincluded := tracks_inclusion hs ha hr fun t htf hc e hmeets =>
      ihRoot t htf hc e hmeets (List.mem_append_left [t] hr)
    rw [compose_include, compose_include]
    refine hincluded.bind fun i i' hi => (ihRest (fun a h => hm a (by simp [Content.directives, h])) hr).bind
      fun r r' hrest => ?_
    rw [hi, hrest]
    exact tracks_pure rfl
  | case4 document chain before name attributes content rest hn ihContent ihRest =>
    rw [compose_element _ _ _ hn, compose_element _ _ _ hn]
    refine (ihContent (fun a h => hm a ?_) hr).bind fun c c' hc => (ihRest (fun a h => hm a ?_) hr).bind
      fun r r' hrest => ?_
    · simp [Content.directives, hn, h]
    · simp [Content.directives, hn, h]
    · rw [hc, hrest]
      exact tracks_pure rfl

end Loading

end PromptMarkup
