import PromptMarkup.Inclusion.Loading

/-!
# What has been read explains the outcome

A loader with a cache sees the files as `View.recalling` shows them: what has been read reads as it did.  A
computation follows a plain one (`Loading.Follows`) if its outcome is that of the plain one on what the cache
holds in the end.  The key facts: following is kept by sequencing (`Follows.bind`), and reading a document or a
text through the cache follows reading it (`follows_document_bind`, `follows_text`).
-/

namespace PromptMarkup

namespace View

/-- The view of a loader that has read something: that reads as it did, the rest as it is. -/
def recalling (v : View) (c : Cache) : View :=
  { v with
    document := fun l =>
      match c.documents.lookup l with
      | some e => .ok e
      | none => v.document l
    text := fun l encoding =>
      match c.texts.lookup l with
      | some s => .ok s
      | none => v.text l encoding }

theorem readDocument_eq_ok {v : View} {l : Location} {chain : Chain} {e : Element} :
    v.readDocument l chain = .ok e ↔ v.document l = .ok e := by
  rw [readDocument, Except.mapError_eq_ok]

theorem readText_eq_ok {v : View} {l : Location} {encoding : String} {chain : Chain} {s : String} :
    v.readText l encoding chain = .ok s ↔ v.text l encoding = .ok s := by
  rw [readText, Except.mapError_eq_ok]

@[simp] theorem recalling_empty (v : View) : v.recalling {} = v := rfl

theorem recalling_document_of_lookup {v : View} {c : Cache} {l : Location} {e : Element}
    (h : c.documents.lookup l = some e) : (v.recalling c).document l = .ok e := by
  simp [recalling, h]

theorem recalling_text_of_lookup {v : View} {c : Cache} {l : Location} {s : String}
    (h : c.texts.lookup l = some s) (encoding : String) : (v.recalling c).text l encoding = .ok s := by
  simp [recalling, h]

end View

/-- How a cache may grow: documents keep looking the same, texts are kept, and a text that is new was read in
one of the encodings that `reads` allows for its file. -/
structure Cache.Grows (v : View) (reads : Location → String → Prop) (c c' : Cache) : Prop where
  document : (v.recalling c').document = (v.recalling c).document
  kept : ∀ {l s}, c.texts.lookup l = some s → c'.texts.lookup l = some s
  read : ∀ {l s}, c'.texts.lookup l = some s →
    c.texts.lookup l = some s ∨ ∃ encoding, reads l encoding ∧ v.text l encoding = .ok s

namespace Cache.Grows

variable {v : View} {reads : Location → String → Prop} {c d e : Cache}

theorem refl (c : Cache) : Grows v reads c c := ⟨rfl, id, .inl⟩

theorem trans (h : Grows v reads c d) (h' : Grows v reads d e) : Grows v reads c e where
  document := h'.document.trans h.document
  kept hl := h'.kept (h.kept hl)
  read hl := (h'.read hl).elim h.read .inr

/-- A document that has been read may be kept. -/
theorem addDocument {l : Location} {root : Element} (hn : c.documents.lookup l = none)
    (h : v.document l = .ok root) :
    Grows v reads c { c with documents := (l, root) :: c.documents } where
  document := by
    funext m
    by_cases hm : m = l
    · subst hm
      simp [View.recalling, hn, h]
    · simp [View.recalling, List.lookup_cons, beq_false_of_ne hm]
  kept := id
  read := .inl

/-- A text that has been read in an allowed encoding may be kept. -/
theorem addText {l : Location} {s encoding : String} (hn : c.texts.lookup l = none)
    (hr : reads l encoding) (h : v.text l encoding = .ok s) :
    Grows v reads c { c with texts := (l, s) :: c.texts } where
  document := rfl
  kept := by
    intro m t hm
    have : m ≠ l := by rintro rfl; simp [hn] at hm
    simpa [List.lookup_cons, beq_false_of_ne this] using hm
  read := by
    intro m t hm
    by_cases hml : m = l
    · subst hml
      simp only [List.lookup_cons, beq_self_eq_true, Option.some.injEq] at hm
      exact .inr ⟨encoding, hr, hm ▸ h⟩
    · simp only [List.lookup_cons, beq_false_of_ne hml] at hm
      exact .inl hm

end Cache.Grows

namespace Loading

variable {α β : Type}

@[simp] theorem outcome_pure (a : α) (c : Cache) : (pure a : Loading α).outcome c = (.ok a, c) := rfl

@[simp] theorem outcome_lift (x : Except Failure α) (c : Cache) :
    (liftM x : Loading α).outcome c = (x, c) := by
  cases x <;> rfl

theorem outcome_bind (x : Loading α) (f : α → Loading β) (c : Cache) :
    (x >>= f).outcome c =
      match x.outcome c with
      | (.ok a, c') => (f a).outcome c'
      | (.error e, c') => (.error e, c') := by
  have hb : (x >>= f).outcome c =
      (ExceptT.bindCont f (x.outcome c).1 : StateM Cache _).run (x.outcome c).2 := rfl
  rw [hb]
  rcases x.outcome c with ⟨_ | _, _⟩ <;> rfl

@[simp] theorem outcome_get (c : Cache) : (get : Loading Cache).outcome c = (.ok c, c) := rfl

/-- Takes an entry from a table, or reads it and keeps it. -/
def fetch {β : Type} (table : List (Location × β)) (l : Location) (read : Except Failure β) :
    Except Failure β × List (Location × β) :=
  match table.lookup l with
  | some x => (.ok x, table)
  | none =>
    match read with
    | .ok x => (.ok x, (l, x) :: table)
    | .error e => (.error e, table)

theorem outcome_document (v : View) (l : Location) (chain : Chain) (c : Cache) :
    (document v l chain).outcome c =
      let r := fetch c.documents l (v.readDocument l chain)
      (r.1, { c with documents := r.2 }) := by
  rw [document]
  unfold fetch
  cases h : c.documents.lookup l with
  | some root => simp only [outcome_bind, outcome_get, outcome_pure, h]
  | none =>
    simp only [outcome_bind, outcome_get, h, outcome_lift]
    cases v.readDocument l chain <;> rfl

theorem outcome_text (v : View) (l : Location) (encoding : String) (chain : Chain) (c : Cache) :
    (text v l encoding chain).outcome c =
      let r := fetch c.texts l (v.readText l encoding chain)
      (r.1, { c with texts := r.2 }) := by
  rw [text]
  unfold fetch
  cases h : c.texts.lookup l with
  | some s => simp only [outcome_bind, outcome_get, outcome_pure, h]
  | none =>
    simp only [outcome_bind, outcome_get, h, outcome_lift]
    cases v.readText l encoding chain <;> rfl

/-! ### Computations that follow plain ones -/

/-- An outcome that starts from a cache is explained by a plain computation: the cache grows; a result is the
plain one's on what any later cache recalls, and a failure is the plain one's on what the cache recalls in the
end. -/
structure Explained (v : View) (reads : Location → String → Prop) (c : Cache) (o : Except Failure α × Cache)
    (y : Cache → Except Failure α) : Prop where
  grows : Cache.Grows v reads c o.2
  ok : ∀ {a}, o.1 = .ok a → ∀ {c'}, Cache.Grows v reads o.2 c' → y c' = .ok a
  error : ∀ {e}, o.1 = .error e → y o.2 = .error e

/-- The outcome is the plain one's on what the cache recalls in the end. -/
theorem Explained.eq {v : View} {reads : Location → String → Prop} {c : Cache} {o : Except Failure α × Cache}
    {y : Cache → Except Failure α} (h : Explained v reads c o y) : o.1 = y o.2 := by
  cases ho : o.1 with
  | error e => exact (h.error ho).symm
  | ok a => exact (h.ok ho (.refl _)).symm

/-- A computation follows a plain one if the plain one explains its outcomes from all caches with which the
documents look as `seen` shows them. -/
def Follows (v seen : View) (reads : Location → String → Prop) (x : Loading α)
    (y : Cache → Except Failure α) : Prop :=
  ∀ c, (v.recalling c).document = seen.document → Explained v reads c (x.outcome c) y

variable {v seen : View} {reads : Location → String → Prop}

theorem Follows.congr {x : Loading α} {y z : Cache → Except Failure α} (hx : Follows v seen reads x y)
    (h : ∀ c, y c = z c) : Follows v seen reads x z := by
  obtain rfl : y = z := funext h
  exact hx

theorem follows_lift (x : Except Failure α) : Follows v seen reads (liftM x) (fun _ => x) := by
  intro c _
  rw [outcome_lift]
  exact ⟨.refl c, fun h _ _ => h, fun h => h⟩

theorem follows_pure (a : α) : Follows v seen reads (pure a) (fun _ => .ok a) := follows_lift (.ok a)

/-- What follows the parts follows the whole.  The second part may rely on what the first one gives. -/
theorem Follows.bind_of {x : Loading α} {y : Cache → Except Failure α} {f : α → Loading β}
    {g : Cache → α → Except Failure β} {p : α → Prop} (hx : Follows v seen reads x y)
    (hp : ∀ c a, (v.recalling c).document = seen.document → (x.outcome c).1 = .ok a → p a)
    (hf : ∀ a, p a → Follows v seen reads (f a) (fun c => g c a)) :
    Follows v seen reads (x >>= f) (fun c => y c >>= g c) := by
  intro c hc
  have hxc := hx c hc
  have hpc := hp c
  rw [outcome_bind]
  rcases h : x.outcome c with ⟨e | a, c₁⟩
  · rw [h] at hxc
    refine ⟨hxc.grows, fun h' => (nomatch h'), fun h' => ?_⟩
    cases h'
    rw [hxc.error rfl]
    rfl
  · rw [h] at hxc hpc
    have hfc := hf a (hpc a hc rfl) c₁ (hxc.grows.document.trans hc)
    have hy {c'} (hg : Cache.Grows v reads c₁ c') : y c' >>= g c' = g c' a := by rw [hxc.ok rfl hg]; rfl
    -- The first part gives its result on all later caches, so also on the one that the second part leaves.
    refine ⟨hxc.grows.trans hfc.grows, fun h' c' hg => ?_, fun h' => ?_⟩
    · rw [hy (hfc.grows.trans hg)]
      exact hfc.ok h' hg
    · rw [hy hfc.grows]
      exact hfc.error h'

theorem Follows.bind {x : Loading α} {y : Cache → Except Failure α} {f : α → Loading β}
    {g : Cache → α → Except Failure β} (hx : Follows v seen reads x y)
    (hf : ∀ a, Follows v seen reads (f a) (fun c => g c a)) :
    Follows v seen reads (x >>= f) (fun c => y c >>= g c) :=
  hx.bind_of (p := fun _ => True) (fun _ _ _ _ => trivial) (fun a _ => hf a)

theorem follows_lift_bind {x : Except Failure α} {f : α → Loading β} {g : Cache → α → Except Failure β}
    (hf : ∀ a, x = .ok a → Follows v seen reads (f a) (fun c => g c a)) :
    Follows v seen reads (liftM x >>= f) (fun c => x >>= g c) :=
  (follows_lift x).bind_of (fun _ _ _ h => by simpa using h) hf

/-- Reading a document through the cache follows reading it. -/
theorem follows_document (l : Location) (chain : Chain) :
    Follows v seen reads (document v l chain) (fun c => (v.recalling c).readDocument l chain) := by
  intro c _
  rw [outcome_document]
  unfold fetch
  cases hl : c.documents.lookup l with
  | some e =>
    refine ⟨.refl c, fun h c' hg => ?_, fun h => (nomatch h)⟩
    cases h
    rw [View.readDocument, hg.document, View.recalling_document_of_lookup hl]
    rfl
  | none =>
    have hv : (v.recalling c).readDocument l chain = v.readDocument l chain := by
      simp [View.readDocument, View.recalling, hl]
    cases hr : v.readDocument l chain with
    | error e => exact ⟨.refl c, fun h => (nomatch h), fun h => by rw [hv, hr]; exact h⟩
    | ok e =>
      have hg : Cache.Grows v reads c _ := .addDocument hl (View.readDocument_eq_ok.1 hr)
      refine ⟨hg, fun h c' hg' => ?_, fun h => (nomatch h)⟩
      rw [View.readDocument, hg'.document, hg.document, ← View.readDocument, hv, hr]
      exact h

/-- What is read is the document as it is seen. -/
theorem follows_document_bind {l : Location} {chain : Chain} {f : Element → Loading β}
    {g : Cache → Element → Except Failure β}
    (hf : ∀ e, seen.document l = .ok e → Follows v seen reads (f e) (fun c => g c e)) :
    Follows v seen reads (document v l chain >>= f) (fun c => (v.recalling c).readDocument l chain >>= g c) := by
  refine (follows_document l chain).bind_of (fun c e hc h => ?_) hf
  have hx : Explained v reads c _ _ := follows_document l chain c hc
  have := View.readDocument_eq_ok.1 (hx.ok h (.refl _))
  rwa [hx.grows.document, hc] at this

/-- Reading a text through the cache follows reading it, if its encoding is an allowed one. -/
theorem follows_text {l : Location} {encoding : String} (h : reads l encoding) (chain : Chain) :
    Follows v seen reads (text v l encoding chain) (fun c => (v.recalling c).readText l encoding chain) := by
  intro c _
  rw [outcome_text]
  unfold fetch
  cases hl : c.texts.lookup l with
  | some s =>
    refine ⟨.refl c, fun hs c' hg => ?_, fun h => (nomatch h)⟩
    rw [View.readText, View.recalling_text_of_lookup (hg.kept hl)]
    exact hs
  | none =>
    have hv : (v.recalling c).readText l encoding chain = v.readText l encoding chain := by
      simp [View.readText, View.recalling, hl]
    cases hr : v.readText l encoding chain with
    | error e => exact ⟨.refl c, fun h => (nomatch h), fun h => by rw [hv, hr]; exact h⟩
    | ok s =>
      refine ⟨.addText hl h (View.readText_eq_ok.1 hr), fun hs c' hg => ?_, fun h => (nomatch h)⟩
      rw [View.readText, View.recalling_text_of_lookup (hg.kept (s := s) (by simp))]
      exact hs

end Loading

end PromptMarkup
