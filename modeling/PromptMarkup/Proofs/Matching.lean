import PromptMarkup.Fault

/-!
# Matching outcomes

Two computations that may fail are compared by their outcomes: both fail alike, or both give something, and the
results are related.  Where the failures are not the same but related as well, the outcomes are paired.
-/

namespace PromptMarkup

/-- Two outcomes match: both are failures, the same one, or both are results, which are related. -/
inductive Matching {α β : Type} (r : α → β → Prop) : Except Failure α → Except Failure β → Prop where
  | ok {a b} (h : r a b) : Matching r (.ok a) (.ok b)
  | error (e : Failure) : Matching r (.error e) (.error e)

namespace Matching

variable {α β γ δ : Type} {r : α → β → Prop} {s : γ → δ → Prop} {x : Except Failure α} {y : Except Failure β}

theorem refl (x : Except Failure α) : Matching Eq x x := by
  cases x with
  | ok a => exact .ok rfl
  | error e => exact .error e

/-- Outcomes that match with equal results are equal. -/
theorem eq {x y : Except Failure α} (h : Matching Eq x y) : x = y := by
  cases h with
  | ok h => rw [h]
  | error e => rfl

/-- Outcomes that are equal once the results are mapped match. -/
theorem of_map_eq {f : α → γ} {g : β → γ} (h : f <$> x = g <$> y) : Matching (fun a b => f a = g b) x y := by
  cases x with
  | error e =>
    cases y with
    | error e' =>
      cases h
      exact .error e
    | ok b => cases h
  | ok a =>
    cases y with
    | error e => cases h
    | ok b => exact .ok (Except.ok.inj h)

theorem mono {s : α → β → Prop} (h : Matching r x y) (hrs : ∀ a b, x = .ok a → r a b → s a b) : Matching s x y := by
  cases h with
  | ok h => exact .ok (hrs _ _ rfl h)
  | error e => exact .error e

theorem bind {f : α → Except Failure γ} {g : β → Except Failure δ} (h : Matching r x y)
    (hf : ∀ a b, r a b → Matching s (f a) (g b)) : Matching s (x >>= f) (y >>= g) := by
  cases h with
  | ok h => exact hf _ _ h
  | error e => exact .error e

theorem bind_eq {f : α → Except Failure γ} {g : β → Except Failure γ} (h : Matching r x y)
    (hf : ∀ a b, r a b → f a = g b) : x >>= f = y >>= g := by
  cases h with
  | ok h => exact hf _ _ h
  | error e => rfl

end Matching

/-- Two outcomes are paired: both are errors or both are results, and they are related as such. -/
inductive Paired {ε ε' α β : Type} (f : ε → ε' → Prop) (r : α → β → Prop) : Except ε α → Except ε' β → Prop where
  | ok {a b} (h : r a b) : Paired f r (.ok a) (.ok b)
  | error {e e'} (h : f e e') : Paired f r (.error e) (.error e')

namespace Paired

variable {ε ε' α β γ δ : Type} {f : ε → ε' → Prop} {r : α → β → Prop} {s : γ → δ → Prop} {x : Except ε α}
  {y : Except ε' β}

theorem refl {f : ε → ε → Prop} {x : Except ε α} (h : ∀ e, x = .error e → f e e) : Paired f Eq x x := by
  cases x with
  | ok a => exact .ok rfl
  | error e => exact .error (h e rfl)

/-- Outcomes that are paired by equality are equal. -/
theorem eq {x y : Except ε α} (h : Paired Eq Eq x y) : x = y := by
  cases h with
  | ok h => rw [h]
  | error h => rw [h]

/-- Outcomes that are paired have the same result or none. -/
theorem toOption_eq {f : ε → ε' → Prop} {x : Except ε α} {y : Except ε' α} (h : Paired f Eq x y) :
    x.toOption = y.toOption := by
  cases h with
  | ok h =>
    subst h
    rfl
  | error h => rfl

theorem mono {f' : ε → ε' → Prop} {r' : α → β → Prop} (h : Paired f r x y) (hf : ∀ e e', f e e' → f' e e')
    (hr : ∀ a b, x = .ok a → y = .ok b → r a b → r' a b) : Paired f' r' x y := by
  cases h with
  | ok h => exact .ok (hr _ _ rfl rfl h)
  | error h => exact .error (hf _ _ h)

theorem mapError {ι κ : Type} {k : ι → κ → Prop} {i : ε → ι} {j : ε' → κ} (h : Paired f r x y)
    (hf : ∀ e e', f e e' → k (i e) (j e')) : Paired k r (x.mapError i) (y.mapError j) := by
  cases h with
  | ok h => exact .ok h
  | error h => exact .error (hf _ _ h)

theorem map {i : α → γ} {j : β → δ} (h : Paired f r x y) (hij : ∀ a b, r a b → s (i a) (j b)) :
    Paired f s (i <$> x) (j <$> y) := by
  cases h with
  | ok h => exact .ok (hij _ _ h)
  | error h => exact .error h

theorem bind {i : α → Except ε γ} {j : β → Except ε' δ} (h : Paired f r x y)
    (hij : ∀ a b, r a b → Paired f s (i a) (j b)) : Paired f s (x >>= i) (y >>= j) := by
  cases h with
  | ok h => exact hij _ _ h
  | error h => exact .error h

end Paired

end PromptMarkup
