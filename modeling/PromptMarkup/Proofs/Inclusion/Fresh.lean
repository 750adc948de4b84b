import PromptMarkup.Inclusion.Splice
import PromptMarkup.Proofs.Inclusion.Recall

/-!
# A loader that has read something is a fresh one on what it recalls

A load from a cache has the outcome of a load from an empty cache, if the files are seen as the cache recalls
them, and it reads the same documents and texts beyond those that the cache holds (`outcome_load`).
-/

namespace PromptMarkup

/-- A table is an old one with what is new; where both have an entry, it is the same. -/
def Extends {β : Type} (old new all : List (Location × β)) : Prop :=
  ∀ l, all.lookup l = (old.lookup l).or (new.lookup l) ∧
    (∀ x y, old.lookup l = some x → new.lookup l = some y → x = y)

namespace Extends

variable {β : Type} {old new all : List (Location × β)} {l : Location} {x : β}

theorem refl (old : List (Location × β)) : Extends old [] old := fun l => by simp

/-- What an old table has is taken from there, whether or not it is read as new.  What it does not have is new. -/
theorem fetch (h : Extends old new all) (l : Location) (read read' : Except Failure β)
    (hold : ∀ x, old.lookup l = some x → read' = .ok x) (hnew : old.lookup l = none → read' = read) :
    (Loading.fetch all l read).1 = (Loading.fetch new l read').1 ∧
      Extends old (Loading.fetch new l read').2 (Loading.fetch all l read).2 := by
  obtain ⟨hall, hsame⟩ := h l
  unfold Loading.fetch
  cases hl : old.lookup l with
  | some x =>
    rw [hall, hl, hold x hl]
    cases hn : new.lookup l with
    | none =>
      refine ⟨rfl, fun m => ?_⟩
      by_cases hm : m = l
      · subst hm
        simp [hall, hl]
      · simpa [List.lookup_cons, beq_false_of_ne hm] using h m
    | some y =>
      rw [hsame x y hl hn]
      exact ⟨rfl, h⟩
  | none =>
    rw [hall, hl, hnew hl, Option.none_or]
    cases new.lookup l with
    | some x => exact ⟨rfl, h⟩
    | none =>
      cases read with
      | error e => exact ⟨rfl, h⟩
      | ok x =>
        refine ⟨rfl, fun m => ?_⟩
        by_cases hm : m = l
        · subst hm
          simp [hl]
        · simpa [List.lookup_cons, beq_false_of_ne hm] using h m

end Extends

/-- A cache holds what an old one and a new one hold. -/
structure Cache.Extends (old new all : Cache) : Prop where
  documents : PromptMarkup.Extends old.documents new.documents all.documents
  texts : PromptMarkup.Extends old.texts new.texts all.texts

namespace Loading

/-- A computation from a cache that extends an old one matches a computation from what is new: the outcomes
are the same, and so is what they read. -/
def Matches {α : Type} (old : Cache) (x y : Loading α) : Prop :=
  ∀ new all, Cache.Extends old new all →
    (x.outcome all).1 = (y.outcome new).1 ∧ Cache.Extends old (y.outcome new).2 (x.outcome all).2

variable {α β : Type} {v : View} {old : Cache}

theorem matches_lift (x : Except Failure α) : Matches old (liftM x) (liftM x) := by
  intro new all h
  rw [outcome_lift, outcome_lift]
  exact ⟨rfl, h⟩

theorem matches_pure (a : α) : Matches old (pure a) (pure a) := matches_lift (.ok a)

theorem Matches.bind {x y : Loading α} {f g : α → Loading β} (hx : Matches old x y)
    (hf : ∀ a, Matches old (f a) (g a)) : Matches old (x >>= f) (y >>= g) := by
  intro new all h
  obtain ⟨ho, hc⟩ := hx new all h
  rw [outcome_bind, outcome_bind]
  rcases hxa : x.outcome all with ⟨o, all'⟩
  rcases hyn : y.outcome new with ⟨o', new'⟩
  rw [hxa, hyn] at ho hc
  obtain rfl : o = o' := ho
  cases o with
  | error e => exact ⟨rfl, hc⟩
  | ok a => exact hf a new' all' hc

theorem matches_document (l : Location) (chain : Chain) :
    Matches old (document v l chain) (document (v.recalling old) l chain) := by
  intro new all h
  rw [outcome_document, outcome_document]
  obtain ⟨ho, hd⟩ := h.documents.fetch l (v.readDocument l chain) ((v.recalling old).readDocument l chain)
    (fun _ hl => View.readDocument_eq_ok.2 (View.recalling_document_of_lookup hl))
    (fun hl => by simp [View.readDocument, View.recalling, hl])
  exact ⟨ho, hd, h.texts⟩

theorem matches_text (l : Location) (encoding : String) (chain : Chain) :
    Matches old (text v l encoding chain) (text (v.recalling old) l encoding chain) := by
  intro new all h
  rw [outcome_text, outcome_text]
  obtain ⟨ho, ht⟩ := h.texts.fetch l (v.readText l encoding chain) ((v.recalling old).readText l encoding chain)
    (fun _ hl => View.readText_eq_ok.2 (View.recalling_text_of_lookup hl encoding))
    (fun hl => by simp [View.readText, View.recalling, hl])
  exact ⟨ho, h.documents, ht⟩

theorem matches_resolve (document : Location) (chain : Chain) (index : Nat) (parent : Slots) :
    Matches old (resolve v document chain index parent)
      (resolve (v.recalling old) document chain index parent) := by
  -- Both loaders visit the same children; they differ only in where they take a document or a text from.
  induction document, chain, index, parent using resolve.induct (v := v) with
  | case1 document chain index parent hb =>
    rw [resolve_none hb, resolve_none hb]
    exact matches_pure parent
  | case2 document chain index parent inside tail hb ih =>
    rw [resolve_comment hb, resolve_comment hb]
    exact ih
  | case3 document chain index parent e tail hb hn ihText ihRoot ihRest =>
    rw [resolve_include hb hn, resolve_include hb hn]
    refine (matches_lift _).bind fun d => (matches_lift (v.locate d.href document chain)).bind fun l => ?_
    cases d.mode with
    | text encoding => exact (matches_text _ _ _).bind ihText
    | elements =>
      by_cases hc : chain.contains l.1 = true
      · simp only [hc, if_true]
        exact matches_lift (.error _)
      · simp only [hc, Bool.false_eq_true, if_false]
        exact (matches_document _ _).bind fun root => (ihRoot l l.2 hc root).bind fun resolved =>
          (matches_lift _).bind ihRest
  | case4 document chain index parent e tail hb hn ihContent ihRest =>
    rw [resolve_element hb hn, resolve_element hb hn]
    exact ihContent.bind ihRest

theorem matches_load (root : Path) : Matches old (load v root) (load (v.recalling old) root) := by
  unfold load
  refine (matches_lift ((v.resolve root).mapError Failure.files)).bind fun l =>
    (matches_lift ((v.hasFile l).mapError Failure.files)).bind fun b => ?_
  cases b with
  | false => exact matches_lift (.error _)
  | true =>
    exact (matches_document l [l]).bind fun e =>
      (matches_resolve l [l] 0 e.content.slots).bind fun _ => matches_pure _

/-- The outcome of a load from a cache is that of a fresh load on what the cache recalls, and what it reads is
added to the cache. -/
theorem outcome_load (v : View) (c : Cache) (root : Path) :
    ((load v root).outcome c).1 = loadFresh (v.recalling c) root ∧
      Cache.Extends c ((load (v.recalling c) root).outcome {}).2 ((load v root).outcome c).2 :=
  matches_load root {} c ⟨.refl _, .refl _⟩

end Loading

end PromptMarkup
