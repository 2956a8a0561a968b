/-
  LedWireDriver.Lib.Fallible — programs over one mutable state that return, fail with an
  error of their own, or panic.

  A function on `&mut S` with result `Result<A, E>` is a `Prog E S A`: whatever it did to
  the state before it failed stays done. A panic (an index out of bounds, an `expect`, an
  `unreachable!`) is a `Fault` of its own, so that "never panics" is a statement.
  - `zoom` runs a program on one field of a larger state.
  - `borrowing` runs a program on a local value that is released when the scope ends, on
    every exit: a guard dropped at the end of its borrow.
  - `forM_ok` is the invariant rule for a loop whose body never fails, `foldlM_ok` the one
    for a fallible fold that succeeds, and `foldlM_prefix` the one for a fallible fold that
    stops at the first item it fails on.
-/

namespace LedWireDriver.Fallible

/-- How a program stops without a value. -/
inductive Fault (ε : Type) where
  | error (e : ε)
  | panic
  deriving DecidableEq, Repr

def Fault.map {ε ε' : Type} (f : ε → ε') : Fault ε → Fault ε'
  | .error e => .error (f e)
  | .panic => .panic

abbrev Prog (ε σ α : Type) := EStateM (Fault ε) σ α

variable {ε ε' σ τ α β γ : Type}

/-! ## Building blocks -/

/-- `return Err(e)` -/
def fail (e : ε) : Prog ε σ α := throw (.error e)

/-- `?` on a result that does not touch the state. -/
def lift (x : Except (Fault ε) α) : Prog ε σ α := fun s =>
  match x with
  | .ok a => .ok a s
  | .error e => .error e s

def mapErr (f : ε → ε') (x : Prog ε σ α) : Prog ε' σ α := fun s =>
  match x s with
  | .ok a s' => .ok a s'
  | .error e s' => .error (e.map f) s'

def zoom (get : τ → σ) (put : σ → τ → τ) (x : Prog ε σ α) : Prog ε τ α := fun t =>
  match x (get t) with
  | .ok a s => .ok a (put s t)
  | .error e s => .error e (put s t)

def borrowing (local₀ : τ) (release : τ → σ → σ) (x : Prog ε τ α) : Prog ε σ α := fun s =>
  match x local₀ with
  | .ok a t => .ok a (release t s)
  | .error e t => .error e (release t s)

/-- `xs[i]` on a fixed-size array: out of bounds is a panic. -/
def index {n : Nat} (xs : Vector α n) (i : Nat) : Except (Fault ε) α :=
  match xs[i]? with
  | some x => .ok x
  | none => .error .panic

/-- `xs[i] = x` on a fixed-size array. -/
def store {n : Nat} (xs : Vector α n) (i : Nat) (x : α) : Except (Fault ε) (Vector α n) :=
  if h : i < n then .ok (xs.set i x h) else .error .panic

/-- `.expect(..)` / `.unwrap()` -/
def expect : Option α → Except (Fault ε) α
  | some a => .ok a
  | none => .error .panic

/-- `.ok_or(e)` -/
def okOr (x : Option α) (e : ε) : Except (Fault ε) α :=
  match x with
  | some a => .ok a
  | none => .error (.error e)

/-- `if c { return Err(e) }` -/
def rejectIf (c : Prop) [Decidable c] (e : ε) : Except (Fault ε) Unit :=
  if c then .error (.error e) else .ok ()

/-- `assert!(c)` -/
def assert (c : Prop) [Decidable c] : Except (Fault ε) Unit :=
  if c then .ok () else .error .panic

/-! ## Running -/

section Run

variable (s : σ)

@[simp] theorem pure_apply (a : α) : (pure a : Prog ε σ α) s = .ok a s := rfl
@[simp] theorem get_apply : (get : Prog ε σ σ) s = .ok s s := rfl
@[simp] theorem set_apply (s' : σ) : (set s' : Prog ε σ PUnit) s = .ok ⟨⟩ s' := rfl
@[simp] theorem modify_apply (f : σ → σ) : (modify f : Prog ε σ PUnit) s = .ok ⟨⟩ (f s) := rfl
@[simp] theorem fail_apply (e : ε) : (fail e : Prog ε σ α) s = .error (.error e) s := rfl

theorem bind_apply (x : Prog ε σ α) (f : α → Prog ε σ β) :
    (x >>= f) s = match x s with
      | .ok a s' => f a s'
      | .error e s' => .error e s' := by
  show EStateM.bind x f s = _
  unfold EStateM.bind
  cases x s <;> rfl

@[simp] theorem lift_ok (a : α) : (lift (.ok a) : Prog ε σ α) s = .ok a s := rfl
@[simp] theorem lift_error (e : Fault ε) : (lift (.error e) : Prog ε σ α) s = .error e s := rfl

theorem lift_state {x : Except (Fault ε) α} {s t : σ} {a : α} (h : lift x s = .ok a t) : t = s := by
  cases x with
  | ok a => cases h; rfl
  | error e => cases h

variable {s}

theorem bind_ok {x : Prog ε σ α} {f : α → Prog ε σ β} {a : α} {t : σ} (h : x s = .ok a t) :
    (x >>= f) s = f a t := by
  rw [bind_apply, h]

theorem bind_error {x : Prog ε σ α} {f : α → Prog ε σ β} {e : Fault ε} {s' : σ} (h : x s = .error e s') :
    (x >>= f) s = .error e s' := by
  rw [bind_apply, h]

/-- After `x` the two continuations run alike. -/
theorem bind_congr_ok {x : Prog ε σ α} {f g : α → Prog ε σ β} (h : ∀ a t, x s = .ok a t → f a t = g a t) :
    (x >>= f) s = (x >>= g) s := by
  rw [bind_apply, bind_apply]
  cases hx : x s with
  | ok a t => exact h a t hx
  | error e t => rfl

theorem if_apply_pos {c : Prop} [Decidable c] (h : c) (x y : Prog ε σ α) : (if c then x else y) s = x s := by
  rw [if_pos h]

theorem if_apply_neg {c : Prop} [Decidable c] (h : ¬c) (x y : Prog ε σ α) : (if c then x else y) s = y s := by
  rw [if_neg h]

theorem mapErr_ok {f : ε → ε'} {x : Prog ε σ α} {a : α} {s' : σ} (h : x s = .ok a s') :
    mapErr f x s = .ok a s' := by
  unfold mapErr; rw [h]

theorem mapErr_error {f : ε → ε'} {x : Prog ε σ α} {e : Fault ε} {s' : σ} (h : x s = .error e s') :
    mapErr f x s = .error (e.map f) s' := by
  unfold mapErr; rw [h]

theorem zoom_ok {get : τ → σ} {put : σ → τ → τ} {x : Prog ε σ α} {t : τ} {a : α} {s' : σ}
    (h : x (get t) = .ok a s') : zoom get put x t = .ok a (put s' t) := by
  unfold zoom; rw [h]

theorem zoom_error {get : τ → σ} {put : σ → τ → τ} {x : Prog ε σ α} {t : τ} {e : Fault ε} {s' : σ}
    (h : x (get t) = .error e s') : zoom get put x t = .error e (put s' t) := by
  unfold zoom; rw [h]

theorem borrowing_ok {release : τ → σ → σ} {x : Prog ε τ α} {t t' : τ} {a : α} (h : x t = .ok a t') :
    borrowing t release x s = .ok a (release t' s) := by
  unfold borrowing; rw [h]

theorem borrowing_error {release : τ → σ → σ} {x : Prog ε τ α} {t t' : τ} {e : Fault ε} (h : x t = .error e t') :
    borrowing t release x s = .error e (release t' s) := by
  unfold borrowing; rw [h]

end Run

@[simp] theorem ok_bind (a : α) (f : α → Except (Fault ε) β) : (Except.ok a >>= f) = f a := rfl
@[simp] theorem error_bind (e : Fault ε) (f : α → Except (Fault ε) β) : (Except.error e >>= f) = .error e := rfl

theorem rejectIf_pos {c : Prop} [Decidable c] (h : c) (e : ε) : rejectIf c e = .error (.error e) := if_pos h
theorem rejectIf_neg {c : Prop} [Decidable c] (h : ¬c) (e : ε) : rejectIf c e = .ok () := if_neg h
theorem assert_pos {c : Prop} [Decidable c] (h : c) : (assert c : Except (Fault ε) Unit) = .ok () := if_pos h
theorem assert_neg {c : Prop} [Decidable c] (h : ¬c) : (assert c : Except (Fault ε) Unit) = .error .panic := if_neg h

/-! ## Fixed-size arrays -/

section Arrays

variable {n : Nat} (xs : Vector α n) {i : Nat}

theorem index_ok (h : i < n) : index xs i = (.ok xs[i] : Except (Fault ε) α) := by
  simp [index, h]

theorem store_ok (x : α) (h : i < n) : store xs i x = (.ok (xs.set i x h) : Except (Fault ε) (Vector α n)) := by
  simp [store, h]

end Arrays

/-! ## Loops -/

/-- A loop whose body never fails and keeps `I` (of the items done so far) ends in the state
    that `I` of all of them determines. -/
theorem forM_ok {f : α → Prog ε σ PUnit} (I : List α → σ → Prop) {l : List α} {s t : σ} (h0 : I [] s)
    (step : ∀ pre x post s, l = pre ++ x :: post → I pre s → ∃ s', f x s = .ok ⟨⟩ s' ∧ I (pre ++ [x]) s')
    (last : ∀ s', I l s' → s' = t) : l.forM f s = .ok ⟨⟩ t := by
  suffices ∀ post pre s, l = pre ++ post → I pre s → post.forM f s = .ok ⟨⟩ t from this l [] s rfl h0
  intro post
  induction post with
  | nil =>
    intro pre s hx hi
    rw [last s (by simpa [hx] using hi)]
    rfl
  | cons x post ih =>
    intro pre s hx hi
    obtain ⟨s₁, hf, hi₁⟩ := step pre x post s hx hi
    show (f x >>= fun _ => post.forM f) s = _
    rw [bind_ok hf]
    exact ih (pre ++ [x]) s₁ (by simp [hx]) hi₁

/-- A fallible fold whose every step succeeds and keeps `I` continues with `I` of all items. -/
theorem foldlM_ok {f : β → α → Except (Fault ε) β} {k : β → Except (Fault ε) γ} {Q : γ → Prop}
    (I : List α → β → Prop) {l : List α} {b : β} (h0 : I [] b)
    (step : ∀ pre x post b, l = pre ++ x :: post → I pre b → ∃ b', f b x = .ok b' ∧ I (pre ++ [x]) b')
    (last : ∀ b', I l b' → ∃ c, k b' = .ok c ∧ Q c) : ∃ c, (l.foldlM f b >>= k) = .ok c ∧ Q c := by
  suffices ∀ post pre b, l = pre ++ post → I pre b → ∃ c, (post.foldlM f b >>= k) = .ok c ∧ Q c from
    this l [] b rfl h0
  intro post
  induction post with
  | nil => intro pre b hx hi; exact last b (by simpa [hx] using hi)
  | cons x post ih =>
    intro pre b hx hi
    obtain ⟨b₁, hf, hi₁⟩ := step pre x post b hx hi
    rw [List.foldlM_cons, hf]
    exact ih (pre ++ [x]) b₁ (by simp [hx]) hi₁

/-- The invariant is about the items done: the fold gets through them all, or fails on the
    one after those it got through. -/
theorem foldlM_prefix {f : β → α → Except (Fault ε) β} (I : List α → β → Prop)
    (hstep : ∀ pre b a b', I pre b → f b a = .ok b' → I (pre ++ [a]) b') {pre : List α} {b : β} (h0 : I pre b)
    (l : List α) :
    (∃ b', l.foldlM f b = .ok b' ∧ I (pre ++ l) b') ∨
    ∃ mid a post b' e, l = mid ++ a :: post ∧ I (pre ++ mid) b' ∧ f b' a = .error e ∧ l.foldlM f b = .error e := by
  induction l generalizing pre b with
  | nil => exact Or.inl ⟨b, rfl, by rwa [List.append_nil]⟩
  | cons a l ih =>
    rw [List.foldlM_cons]
    cases ha : f b a with
    | error e => exact Or.inr ⟨[], a, l, b, e, rfl, by rwa [List.append_nil], ha, rfl⟩
    | ok b₁ =>
      rcases ih (hstep pre b a b₁ h0 ha) with ⟨b', hl, hI⟩ | ⟨mid, a', post, b', e, rfl, hI, he, hl⟩
      · exact Or.inl ⟨b', hl, by rwa [List.append_assoc] at hI⟩
      · exact Or.inr ⟨a :: mid, a', post, b', e, rfl, by rwa [List.append_assoc] at hI, he, hl⟩

end LedWireDriver.Fallible
