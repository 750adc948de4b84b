/-!
# Outcomes

How the outcome of a computation that may fail depends on those of its parts.
-/

namespace PromptMarkup.Except

theorem toOption_eq_some {ε α : Type} {x : Except ε α} {a : α} : x.toOption = some a ↔ x = .ok a := by
  cases x <;> simp [Except.toOption]

theorem mapError_eq_ok {ε ε' α : Type} {f : ε → ε'} {x : Except ε α} {a : α} :
    x.mapError f = .ok a ↔ x = .ok a := by
  cases x with
  | error e => constructor <;> intro h <;> cases h
  | ok b => constructor <;> intro h <;> cases h <;> rfl

theorem exists_error_of_mapError {ε ε' α : Type} {f : ε → ε'} {x : Except ε α} {e : ε'} (h : x.mapError f = .error e) :
    ∃ d, x = .error d := by
  cases x with
  | error d => exact ⟨d, rfl⟩
  | ok a => cases h

theorem mapError_map {ε ε' α β : Type} (f : α → β) (g : ε → ε') (x : Except ε α) :
    (f <$> x).mapError g = f <$> x.mapError g := by
  cases x <;> rfl

theorem bind_eq_ok {ε α β : Type} {x : Except ε α} {f : α → Except ε β} {b : β} :
    x >>= f = .ok b ↔ ∃ a, x = .ok a ∧ f a = .ok b := by
  cases x <;> simp [bind, Except.bind]

theorem bind_ok {ε α β : Type} {x : Except ε α} {f : α → Except ε β} {a : α} (h : x = .ok a) : x >>= f = f a := by
  rw [h]
  rfl

theorem bind_error {ε α β : Type} {x : Except ε α} {f : α → Except ε β} {e : ε} (h : x = .error e) :
    x >>= f = .error e := by
  rw [h]
  rfl

theorem map_eq_ok {ε α β : Type} {x : Except ε α} {f : α → β} {b : β} :
    f <$> x = .ok b ↔ ∃ a, x = .ok a ∧ f a = b := by
  cases x <;> simp [Functor.map, Except.map]

theorem map_eq_error {ε α β : Type} {x : Except ε α} {f : α → β} {e : ε} : x.map f = .error e ↔ x = .error e := by
  cases x <;> simp [Except.map]

/-- What follows a computation matters only where that gives something. -/
theorem bind_congr_ok {ε α β : Type} {x : Except ε α} {f g : α → Except ε β} (h : ∀ a, x = .ok a → f a = g a) :
    x >>= f = x >>= g := by
  cases x with
  | error e => rfl
  | ok a => exact h a rfl

/-- A computation ends with a result of one kind or an error of another. -/
structure Ends {ε α : Type} (p : α → Prop) (q : ε → Prop) (x : Except ε α) : Prop where
  ok : ∀ {a}, x = .ok a → p a
  error : ∀ {e}, x = .error e → q e

section

variable {ε α β : Type} {p : α → Prop} {p' : β → Prop} {q : ε → Prop}

theorem ends_ok {a : α} (h : p a) : Ends p q (.ok a) where
  ok ha := by
    cases ha
    exact h
  error he := by cases he

theorem ends_error {e : ε} (h : q e) : Ends p q (.error e) where
  ok ha := by cases ha
  error he := by
    cases he
    exact h

theorem Ends.imp {r : α → Prop} {x : Except ε α} (hx : Ends p q x) (h : ∀ a, p a → r a) : Ends r q x :=
  ⟨fun ha => h _ (hx.ok ha), hx.error⟩

theorem Ends.imp_error {r : ε → Prop} {x : Except ε α} (hx : Ends p q x) (h : ∀ e, q e → r e) : Ends p r x :=
  ⟨hx.ok, fun he => h _ (hx.error he)⟩

theorem Ends.bind {x : Except ε α} {f : α → Except ε β} (hx : Ends p q x) (hf : ∀ a, p a → Ends p' q (f a)) :
    Ends p' q (x >>= f) := by
  cases x with
  | ok a => exact hf a (hx.ok rfl)
  | error e => exact ends_error (hx.error rfl)

theorem Ends.map {x : Except ε α} {f : α → β} (hx : Ends p q x) (hf : ∀ a, p a → p' (f a)) : Ends p' q (f <$> x) :=
  match x, hx with
  | .ok _, hx => ends_ok (hf _ (hx.ok rfl))
  | .error _, hx => ends_error (hx.error rfl)

theorem ends_mapError {δ : Type} {x : Except δ α} {f : δ → ε} (ha : ∀ a, x = .ok a → p a)
    (hd : ∀ d, x = .error d → q (f d)) : Ends p q (x.mapError f) := by
  cases x with
  | ok a => exact ends_ok (ha a rfl)
  | error d => exact ends_error (hd d rfl)

theorem ends_mapM {xs : List α} {f : α → Except ε β} (h : ∀ a ∈ xs, Ends p' q (f a)) :
    Ends (fun bs => ∀ b ∈ bs, p' b) q (xs.mapM f) := by
  induction xs with
  | nil => exact ends_ok (List.forall_mem_nil _)
  | cons a as ih =>
    obtain ⟨ha, has⟩ := List.forall_mem_cons.1 h
    rw [List.mapM_cons]
    exact ha.bind fun b hb => (ih has).bind fun bs hbs => ends_ok (List.forall_mem_cons.2 ⟨hb, hbs⟩)

end

end PromptMarkup.Except
