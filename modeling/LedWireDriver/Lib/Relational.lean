/-
  LedWireDriver.Lib.Relational — two programs that run alike.

  `Alike E R V x y`: from states related by `R` both programs return, with values related by
  `V`, or both fail, with faults related by `E`; the states they leave are related by `R`
  again. There is one rule for each building block of `Prog`.
-/

import LedWireDriver.Lib.Fallible

namespace LedWireDriver.Fallible

variable {ε ε' ε₁ ε₁' σ τ σ₁ τ₁ α β γ δ : Type}

inductive Outcomes (E : Fault ε → Fault ε' → Prop) (R : σ → τ → Prop) (V : α → β → Prop) :
    EStateM.Result (Fault ε) σ α → EStateM.Result (Fault ε') τ β → Prop
  | ok {a : α} {b : β} {s : σ} {t : τ} : V a b → R s t → Outcomes E R V (.ok a s) (.ok b t)
  | error {e : Fault ε} {e' : Fault ε'} {s : σ} {t : τ} : E e e' → R s t → Outcomes E R V (.error e s) (.error e' t)

def Alike (E : Fault ε → Fault ε' → Prop) (R : σ → τ → Prop) (V : α → β → Prop) (x : Prog ε σ α)
    (y : Prog ε' τ β) : Prop :=
  ∀ s t, R s t → Outcomes E R V (x s) (y t)

variable {E : Fault ε → Fault ε' → Prop} {R : σ → τ → Prop} {V : α → β → Prop} {W : γ → δ → Prop}
  {x : Prog ε σ α} {y : Prog ε' τ β}

namespace Alike

theorem pure {a : α} {b : β} (h : V a b) : Alike E R V (pure a) (pure b) := fun _ _ hr => .ok h hr

theorem fail {e : ε} {e' : ε'} (h : E (.error e) (.error e')) : Alike E R V (fail e) (fail e') := fun _ _ hr =>
  .error h hr

theorem get : Alike E R R get get := fun _ _ hr => .ok hr hr

theorem modify {f : σ → σ} {g : τ → τ} (h : ∀ s t, R s t → R (f s) (g t)) :
    Alike E R Eq (modify f) (modify g) := fun s t hr =>
  .ok rfl (h s t hr)

theorem bind {k : α → Prog ε σ γ} {l : β → Prog ε' τ δ} (hx : Alike E R V x y)
    (hk : ∀ a b, V a b → Alike E R W (k a) (l b)) : Alike E R W (x >>= k) (y >>= l) := by
  intro s t hr
  have h := hx s t hr
  rw [bind_apply, bind_apply]
  generalize x s = p, y t = q at h
  cases h with
  | ok hv hr' => exact hk _ _ hv _ _ hr'
  | error he hr' => exact .error he hr'

/-- The same result on both sides. -/
theorem lift {E : Fault ε → Fault ε → Prop} (h : ∀ e, E e e) (z : Except (Fault ε) α) :
    Alike E R Eq (lift z) (lift z) := by
  intro s t hr
  cases z with
  | ok a => exact .ok rfl hr
  | error e => exact .error (h e) hr

theorem mapErr {E' : Fault ε₁ → Fault ε₁' → Prop} {f : ε → ε₁} {g : ε' → ε₁'} (hx : Alike E R V x y)
    (h : ∀ e e', E e e' → E' (e.map f) (e'.map g)) : Alike E' R V (mapErr f x) (mapErr g y) := by
  intro s t hr
  have hx := hx s t hr
  unfold Fallible.mapErr
  generalize x s = p, y t = q at hx
  cases hx with
  | ok hv hr' => exact .ok hv hr'
  | error he hr' => exact .error (h _ _ he) hr'

theorem zoom {R' : σ₁ → τ₁ → Prop} {get : σ₁ → σ} {get' : τ₁ → τ} {put : σ → σ₁ → σ₁} {put' : τ → τ₁ → τ₁}
    (hx : Alike E R V x y) (hget : ∀ s t, R' s t → R (get s) (get' t))
    (hput : ∀ s t s' t', R' s t → R s' t' → R' (put s' s) (put' t' t)) :
    Alike E R' V (zoom get put x) (zoom get' put' y) := by
  intro s t hr
  have hx := hx _ _ (hget s t hr)
  unfold Fallible.zoom
  generalize x (get s) = p, y (get' t) = q at hx
  cases hx with
  | ok hv hr' => exact .ok hv (hput _ _ _ _ hr hr')
  | error he hr' => exact .error he (hput _ _ _ _ hr hr')

theorem borrowing {R' : σ₁ → τ₁ → Prop} {s₀ : σ} {t₀ : τ} {release : σ → σ₁ → σ₁} {release' : τ → τ₁ → τ₁}
    (hx : Alike E R V x y) (h0 : R s₀ t₀)
    (hrel : ∀ s t s' t', R' s t → R s' t' → R' (release s' s) (release' t' t)) :
    Alike E R' V (borrowing s₀ release x) (borrowing t₀ release' y) := by
  intro s t hr
  have hx := hx _ _ h0
  unfold Fallible.borrowing
  generalize x s₀ = p, y t₀ = q at hx
  cases hx with
  | ok hv hr' => exact .ok hv (hrel _ _ _ _ hr hr')
  | error he hr' => exact .error he (hrel _ _ _ _ hr hr')

/-- A program runs like itself. -/
theorem refl (x : Prog ε σ α) : Alike Eq Eq Eq x x := by
  intro s s' hs
  subst hs
  cases x s with
  | ok a s' => exact .ok rfl rfl
  | error e s' => exact .error rfl rfl

end Alike

end LedWireDriver.Fallible
