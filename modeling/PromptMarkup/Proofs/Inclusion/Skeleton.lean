import PromptMarkup.Proofs.Inclusion.Visit

/-!
# Skeletons of trees

A tree without its texts is its skeleton: the elements with their names and attributes, and the comments, in their
order.  A loader never looks at the texts between elements, nor at those that it includes.  So it makes no difference
whether texts are dropped from what it reads or from the tree that it loads (`loadFresh_skeleton`): every reading and
every visit mirrors the one among skeletons (`Loading.Mirrors`).
-/

namespace PromptMarkup

namespace Content

/-- Content without its texts. -/
def skeleton : Content → Content
  | text _ => text ""
  | element _ name attributes content rest => element "" name attributes content.skeleton rest.skeleton
  | comment _ inside rest => comment "" inside rest.skeleton

@[simp] theorem skeleton_prepend (s : String) (c : Content) : (c.prepend s).skeleton = c.skeleton := by
  cases c <;> rfl

@[simp] theorem skeleton_append (c d : Content) : (c ++ d).skeleton = c.skeleton ++ d.skeleton := by
  induction c with
  | text s => simp [skeleton]
  | element b n a c r _ ih => simp [skeleton, ih]
  | comment b i r ih => simp [skeleton, ih]

@[simp] theorem skeleton_dropLeading (c : Content) : c.dropLeading.skeleton = c.skeleton.dropLeading := by
  cases c <;> rfl

/-- Texts hold no directives. -/
@[simp] theorem directives_skeleton (c : Content) : c.skeleton.directives = c.directives := by
  induction c with
  | text s => rfl
  | comment b i r ih => exact ih
  | element b n a c r ihc ihr => simp [skeleton, directives, ihc, ihr]

end Content

/-- An element without the texts in it. -/
def Element.skeleton (e : Element) : Element := { e with content := e.content.skeleton }

@[simp] theorem Element.directives_skeleton (e : Element) : e.skeleton.content.directives = e.content.directives :=
  e.content.directives_skeleton

theorem Element.spliced_skeleton (e : Element) : e.skeleton.spliced = Content.skeleton <$> e.spliced := by
  have hname : e.skeleton.name = e.name := rfl
  rw [spliced, spliced, hname, map_bind]
  refine bind_congr fun n => ?_
  split
  · exact congrArg Except.ok e.content.skeleton_dropLeading.symm
  · rfl

/-- What a loader sees if all texts are empty. -/
def View.skeleton (v : View) : View :=
  { v with
    document := fun l => Element.skeleton <$> v.document l
    text := fun l encoding => (fun _ => "") <$> v.text l encoding }

/-- What has been read, without the texts. -/
def Cache.skeleton (c : Cache) : Cache where
  documents := c.documents.map fun e => (e.1, e.2.skeleton)
  texts := c.texts.map fun e => (e.1, "")

namespace Loading

variable {α β γ δ : Type} {v : View}

/-- A computation mirrors another: from a cache without texts its outcome and what it keeps are those of the other,
without texts. -/
def Mirrors (f : α → β) (x : Loading α) (y : Loading β) : Prop :=
  ∀ c, y.outcome c.skeleton = (f <$> (x.outcome c).1, (x.outcome c).2.skeleton)

theorem mirrors_lift (f : α → β) (x : Except Failure α) : Mirrors f (liftM x) (liftM (f <$> x)) := by
  intro c
  rw [outcome_lift, outcome_lift]

/-- What does not depend on texts mirrors itself. -/
theorem mirrors_same (x : Except Failure α) : Mirrors id (liftM x) (liftM x) := by
  have h := mirrors_lift id x
  rwa [id_map] at h

theorem mirrors_pure {f : α → β} {a : α} {b : β} (h : f a = b) : Mirrors f (pure a) (pure b) := by
  subst h
  exact mirrors_lift f (.ok a)

theorem Mirrors.bind {f : α → β} {g : γ → δ} {x : Loading α} {y : Loading β} {h : α → Loading γ} {k : β → Loading δ}
    (hx : Mirrors f x y) (hk : ∀ a, Mirrors g (h a) (k (f a))) : Mirrors g (x >>= h) (y >>= k) := by
  intro c
  rw [outcome_bind, outcome_bind, hx c]
  rcases x.outcome c with ⟨_ | a, c'⟩
  · rfl
  · exact hk a c'

theorem Mirrors.map {f : α → β} {g : γ → δ} {x : Loading α} {y : Loading β} {h : α → γ} {k : β → δ}
    (hx : Mirrors f x y) (hk : ∀ a, g (h a) = k (f a)) : Mirrors g (h <$> x) (k <$> y) := by
  rw [map_eq_pure_bind, map_eq_pure_bind]
  exact hx.bind fun a => mirrors_pure (hk a)

/-- A table whose entries are changed one by one is looked up and extended like the table itself. -/
theorem fetch_map (f : α → β) (table : List (Location × α)) (l : Location) (read : Except Failure α) :
    fetch (table.map fun e => (e.1, f e.2)) l (f <$> read) =
      (f <$> (fetch table l read).1, (fetch table l read).2.map fun e => (e.1, f e.2)) := by
  have hlookup : (table.map fun e => (e.1, f e.2)).lookup l = (table.lookup l).map f := by
    induction table with
    | nil => rfl
    | cons e table ih =>
      rw [List.map_cons, List.lookup_cons, List.lookup_cons, ih]
      cases l == e.1 <;> rfl
  unfold fetch
  rw [hlookup]
  cases table.lookup l with
  | some x => rfl
  | none => cases read <;> rfl

theorem mirrors_document (l : Location) (chain : Chain) :
    Mirrors Element.skeleton (document v l chain) (document v.skeleton l chain) := by
  intro c
  have hread : v.skeleton.readDocument l chain = Element.skeleton <$> v.readDocument l chain :=
    Except.mapError_map _ _ _
  have hfetch := fetch_map Element.skeleton c.documents l (v.readDocument l chain)
  rw [outcome_document, outcome_document, hread]
  simp only [Cache.skeleton, hfetch]

theorem mirrors_text (l : Location) (encoding : String) (chain : Chain) :
    Mirrors (fun _ => "") (text v l encoding chain) (text v.skeleton l encoding chain) := by
  intro c
  have hread : v.skeleton.readText l encoding chain = (fun _ => "") <$> v.readText l encoding chain :=
    Except.mapError_map _ _ _
  have hfetch := fetch_map (fun _ => "") c.texts l (v.readText l encoding chain)
  rw [outcome_text, outcome_text, hread]
  simp only [Cache.skeleton, hfetch]

/-- What stands in a directive's place is mirrored, if the visits of the documents that it includes are. -/
theorem mirrors_inclusion {document : Location} {chain : Chain} {a : List (String × String)}
    (ih : ∀ t ∈ v.files, ¬ chain.contains t = true → ∀ e : Element,
      Mirrors Content.skeleton (compose v t (chain ++ [t]) e.content)
        (compose v.skeleton t (chain ++ [t]) e.skeleton.content)) :
    Mirrors Content.skeleton (inclusion v document chain a) (inclusion v.skeleton document chain a) := by
  unfold inclusion
  refine (mirrors_same _).bind fun d => (mirrors_same (v.locate d.href document chain)).bind fun l => ?_
  dsimp only [id_eq]
  cases d.mode with
  | text encoding => exact (mirrors_text l.1 encoding (chain ++ [l.1])).map fun _ => rfl
  | elements =>
    by_cases hc : chain.contains l.1 = true
    · simp only [hc, if_true]
      exact mirrors_lift _ (.error _)
    · simp only [hc, Bool.false_eq_true, if_false]
      refine (mirrors_document l.1 (chain ++ [l.1])).bind fun e => (ih l.1 l.2 hc e).bind fun content => ?_
      have hspliced := Element.spliced_skeleton { e with content }
      rw [Element.skeleton] at hspliced
      rw [Element.skeleton, hspliced]
      exact mirrors_lift _ _

/-- A visit of content is mirrored by a visit of its skeleton. -/
theorem mirrors_compose (document : Location) (chain : Chain) (content : Content) :
    Mirrors Content.skeleton (compose v document chain content)
      (compose v.skeleton document chain content.skeleton) := by
  induction document, chain, content using View.compose.induct (v := v) with
  | case1 document chain s =>
    rw [Content.skeleton, compose_text, compose_text]
    exact mirrors_pure rfl
  | case2 document chain before inside rest ih =>
    rw [Content.skeleton, compose_comment, compose_comment]
    exact ih.map fun _ => rfl
  | case3 document chain before attributes content rest ihRest ihRoot =>
    rw [Content.skeleton, compose_include, compose_include]
    refine (mirrors_inclusion fun t ht hc e => ihRoot t ht hc e).bind fun i => ihRest.bind fun r => mirrors_pure ?_
    simp
  | case4 document chain before name attributes content rest hn ihContent ihRest =>
    rw [Content.skeleton, compose_element _ _ _ hn, compose_element _ _ _ hn]
    exact ihContent.bind fun c => ihRest.bind fun r => mirrors_pure rfl

theorem mirrors_load (root : Path) : Mirrors Element.skeleton (load v root) (load v.skeleton root) := by
  rw [load_eq, load_eq]
  refine (mirrors_same ((v.resolve root).mapError Failure.files)).bind fun l => ?_
  refine (mirrors_same ((v.hasFile l).mapError Failure.files)).bind fun b => ?_
  cases b with
  | false => exact mirrors_lift _ (.error _)
  | true =>
    exact (mirrors_document l [l]).bind fun e => (mirrors_compose l [l] e.content).bind fun c => mirrors_pure rfl

end Loading

/-- Dropping the texts of a loaded tree gives what is loaded if all texts are dropped before. -/
theorem loadFresh_skeleton (v : View) (root : Path) :
    loadFresh v.skeleton root = Element.skeleton <$> loadFresh v root := by
  have hmirrors := Loading.mirrors_load (v := v) root {}
  exact congrArg Prod.fst hmirrors

end PromptMarkup
