import PromptMarkup.Proofs.Inclusion.Twins

/-!
# What a load looks for

A load looks for the file of its root document and for those that the directives of the documents it reaches lead to.
Nothing else about the files matters to it (`loadFresh_congr`): if each of these locations is found or not found as
before, and read as before where it is found, the load comes to the same end.
-/

namespace PromptMarkup

namespace View

/-- The locations where a load looks for a file. -/
inductive LooksFor (v : View) (root : Path) : Location → Prop where
  | root {l} (h : v.resolve root = .ok l) : LooksFor v root l
  | directive {l e a mode t} (hl : v.Reaches root l) (he : v.document l = .ok e) (ha : a ∈ e.content.directives)
      (ht : v.Leads l a mode t) : LooksFor v root t

/-- A document that includes no other one is looked for with what its own directives lead to. -/
theorem LooksFor.eq_or_leads {v : View} {root : Path} {l t : Location} {e : Element} (h : v.LooksFor root t)
    (hr : v.resolve root = .ok l) (he : v.document l = .ok e) (halone : ∀ u, ¬ v.Includes l u) :
    t = l ∨ ∃ a ∈ e.content.directives, ∃ mode, v.Leads l a mode t := by
  cases h with
  | root hr' =>
    cases hr.symm.trans hr'
    exact .inl rfl
  | @directive k f a mode _ hk hf ha ht =>
    obtain rfl := hk.eq_of_alone hr halone
    cases he.symm.trans hf
    exact .inr ⟨a, ha, mode, ht⟩

/-- Whatever a load looks for is found the same in two views, and read the same where it is found. -/
structure LoadsSame (v w : View) (root : Path) : Prop where
  resolve : v.resolve = w.resolve
  hasFile : ∀ {t}, v.LooksFor root t → v.hasFile t = w.hasFile t
  document : ∀ {t}, v.LooksFor root t → v.hasFile t = .ok true → v.document t = w.document t
  text : ∀ {t} (encoding : String), v.LooksFor root t → v.hasFile t = .ok true → v.text t encoding = w.text t encoding

variable {v w : View} {root : Path} {l : Location} {e : Element}

/-- The directives met from a root document are those of documents that it reaches. -/
theorem Meets.exists_document (hr : v.resolve root = .ok l) (he : v.document l = .ok e) {k : Location}
    {a : List (String × String)} (h : v.Meets l e.content k a) :
    ∃ f, v.Reaches root k ∧ v.document k = .ok f ∧ a ∈ f.content.directives := by
  induction h with
  | here ha => exact ⟨e, .root hr, he, ha⟩
  | there _ ht _ hf hb ih =>
    obtain ⟨g, hk, hg, ha⟩ := ih
    exact ⟨_, hk.includes ⟨g, hg, _, ha, ht⟩, hf, hb⟩

theorem LoadsSame.foundSame (h : v.LoadsSame w root) (hr : v.resolve root = .ok l) (he : v.document l = .ok e) :
    v.FoundSame w l e.content := by
  have hlooks {k : Location} {a : List (String × String)} {mode : InclusionMode} {t : Location}
      (hm : v.Meets l e.content k a) (ht : v.Leads k a mode t) : v.LooksFor root t := by
    obtain ⟨f, hk, hf, ha⟩ := hm.exists_document hr he
    exact .directive hk hf ha ht
  constructor
  · intro k a d _ _
    rw [target, target, h.resolve]
  · exact fun hm ht => h.hasFile (hlooks hm ht)
  · exact fun hm ht => h.text _ (hlooks hm ht)
  · exact fun hm ht _ => h.document (hlooks hm ht)

end View

/-- A load comes to the same end in two views if its root document is the same in both, and what that leads to is found
the same. -/
theorem loadFresh_eq_of_foundSame {v w : View} {root : Path} (hresolve : v.resolve root = w.resolve root)
    (hroot : ∀ {l}, v.resolve root = .ok l → v.hasFile l = w.hasFile l)
    (hdocument : ∀ {l}, v.resolve root = .ok l → v.hasFile l = .ok true → v.document l = w.document l)
    (hfound : ∀ {l e}, v.resolve root = .ok l → v.document l = .ok e → v.FoundSame w l e.content) :
    loadFresh v root = loadFresh w root := by
  have htracks : Loading.Tracks v w Eq (load v root) (load w root) := by
    rw [Loading.load_eq, Loading.load_eq, ← hresolve]
    refine (Loading.tracks_lift ((Matching.refl _).mono (s := fun l m => l = m ∧ v.resolve root = .ok l)
      fun l m hl hlm => ⟨hlm, Except.mapError_eq_ok.1 hl⟩)).bind ?_
    rintro l _ ⟨rfl, hr⟩
    rw [← hroot hr]
    refine (Loading.tracks_lift ((Matching.refl _).mono (s := fun b b' => b = b' ∧ v.hasFile l = .ok b)
      fun b b' hb hbb => ⟨hbb, Except.mapError_eq_ok.1 hb⟩)).bind ?_
    rintro b _ ⟨rfl, hfile⟩
    cases b with
    | false => exact Loading.tracks_lift (.error _)
    | true =>
      simp only [if_true]
      refine (Loading.tracks_document (hdocument hr hfile) [l]).bind ?_
      rintro e _ ⟨rfl, he⟩
      refine (Loading.tracks_compose (hfound hr he) l [l] e.content (fun a ha => .here ha) (by simp)).bind ?_
      intro c c' hc
      rw [hc]
      exact Loading.tracks_pure rfl
  exact (htracks {} {} (Cache.alike_empty v w)).1.eq

/-- A load comes to the same end in two views in which it finds the same. -/
theorem loadFresh_congr {v w : View} {root : Path} (h : v.LoadsSame w root) : loadFresh v root = loadFresh w root :=
  loadFresh_eq_of_foundSame (by rw [h.resolve]) (fun hr => h.hasFile (.root hr)) (fun hr => h.document (.root hr))
    h.foundSame

end PromptMarkup
