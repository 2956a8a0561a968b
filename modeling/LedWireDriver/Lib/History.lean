/-
  LedWireDriver.Lib.History — labelled runs and what their histories say.

  A history is the list of a run's labels, oldest first, and grows at its end.
  - `Since φ ψ h`: some event of `h` satisfies `ψ` (which may look at what came before
    that event) and every later one satisfies `φ`. `since_snoc` unfolds it by the last
    event, so that an invariant "this state component is this `Since`" is kept step by
    step.
  - `tally ψ h`: how many events of `h` satisfy `ψ`, which may look at what came before them.
  - `Run step s h s'`: the steps of `h` lead from `s` to `s'`. `Run.inv` is the invariant
    rule, `Run.history` the rule for a relation between state and history, and
    `Run.simulate` carries a run of one system to a run of another.
-/

import Mathlib.Data.List.Induction
import Mathlib.Data.Set.Basic

namespace LedWireDriver.History

variable {α β : Type*}

/-! ## Past-time operators -/

def Since (φ : α → Prop) (ψ : List α → α → Prop) (h : List α) : Prop :=
  ∃ pre e post, h = pre ++ e :: post ∧ ψ pre e ∧ ∀ x ∈ post, φ x

@[simp] theorem since_nil (φ : α → Prop) (ψ : List α → α → Prop) : ¬ Since φ ψ [] := by
  rintro ⟨pre, e, post, h, -⟩
  simp at h

theorem since_snoc {φ : α → Prop} {ψ : List α → α → Prop} {h : List α} {x : α} :
    Since φ ψ (h ++ [x]) ↔ ψ h x ∨ (φ x ∧ Since φ ψ h) := by
  constructor
  · rintro ⟨pre, e, post, hx, hψ, hφ⟩
    rcases List.eq_nil_or_concat post with rfl | ⟨post, y, rfl⟩
    · obtain ⟨rfl, rfl⟩ : h = pre ∧ x = e := by simpa using hx
      exact Or.inl hψ
    · rw [List.concat_eq_append, ← List.cons_append, ← List.append_assoc] at hx
      obtain ⟨rfl, hy⟩ := List.append_inj' hx rfl
      obtain rfl : x = y := by simpa using hy
      exact Or.inr ⟨hφ x (by simp), pre, e, post, rfl, hψ, fun z hz => hφ z (by simp [hz])⟩
  · rintro (hψ | ⟨hx, pre, e, post, rfl, hψ, hφ⟩)
    · exact ⟨h, x, [], rfl, hψ, by simp⟩
    · refine ⟨pre, e, post ++ [x], by simp, hψ, fun z hz => ?_⟩
      rcases List.mem_append.mp hz with hz | hz
      · exact hφ z hz
      · obtain rfl : z = x := by simpa using hz
        exact hx

/-- An event of a kind that occurs occurs for a last time. -/
theorem since_last {φ : α → Prop} {h : List α} (he : ∃ x ∈ h, φ x) : Since (¬φ ·) (fun _ x => φ x) h := by
  induction h using List.reverseRecOn with
  | nil => simp at he
  | append_singleton h x ih =>
    rw [since_snoc]
    by_cases hx : φ x
    · exact Or.inl hx
    · obtain ⟨y, hy, hφ⟩ := he
      rcases List.mem_append.mp hy with hy | hy
      · exact Or.inr ⟨hx, ih ⟨y, hy, hφ⟩⟩
      · obtain rfl : y = x := by simpa using hy
        exact absurd hφ hx

theorem not_since {φ : α → Prop} {ψ : List α → α → Prop} {h : List α} :
    ¬Since φ ψ h ↔ ∀ pre e post, h = pre ++ e :: post → ψ pre e → ∃ x ∈ post, ¬φ x := by
  unfold Since
  push Not
  rfl

theorem since_congr {φ χ : α → Prop} {ψ θ : List α → α → Prop} {h : List α} (hφ : ∀ x ∈ h, φ x ↔ χ x)
    (hψ : ∀ pre e post, h = pre ++ e :: post → (ψ pre e ↔ θ pre e)) : Since φ ψ h ↔ Since χ θ h := by
  refine exists_congr fun pre => exists_congr fun e => exists_congr fun post => and_congr_right fun hh => ?_
  rw [hψ pre e post hh]
  refine and_congr_right fun _ => forall₂_congr fun x hx => hφ x ?_
  rw [hh]; simp [hx]

theorem since_map (f : α → β) {φ : β → Prop} {ψ : List β → β → Prop} {h : List α} :
    Since φ ψ (h.map f) ↔ Since (fun x => φ (f x)) (fun pre e => ψ (pre.map f) (f e)) h := by
  induction h using List.reverseRecOn with
  | nil => simp
  | append_singleton h x ih => rw [List.map_append, List.map_singleton, since_snoc, since_snoc, ih]

/-! ## Counting -/

section Tally

open Classical in
/-- The events of `h` that satisfy `ψ` after `pre` and the events before them. -/
noncomputable def tallyFrom (ψ : List α → α → Prop) : List α → List α → Nat
  | _, [] => 0
  | pre, e :: h => (if ψ pre e then 1 else 0) + tallyFrom ψ (pre ++ [e]) h

noncomputable def tally (ψ : List α → α → Prop) (h : List α) : Nat := tallyFrom ψ [] h

variable {ψ θ : List α → α → Prop} {h : List α}

@[simp] theorem tally_nil : tally ψ [] = 0 := rfl

open Classical in
theorem tally_snoc {x : α} : tally ψ (h ++ [x]) = tally ψ h + if ψ h x then 1 else 0 := by
  suffices ∀ pre, tallyFrom ψ pre (h ++ [x]) = tallyFrom ψ pre h + if ψ (pre ++ h) x then 1 else 0 from this []
  induction h with
  | nil => intro pre; simp [tallyFrom]
  | cons e h ih =>
    intro pre
    rw [List.cons_append, tallyFrom, tallyFrom, ih, List.append_assoc, Nat.add_assoc]
    rfl

open Classical in
theorem tally_congr (hψ : ∀ pre e post, h = pre ++ e :: post → (ψ pre e ↔ θ pre e)) : tally ψ h = tally θ h := by
  induction h using List.reverseRecOn with
  | nil => rfl
  | append_singleton h x ih =>
    rw [tally_snoc, tally_snoc, ih fun pre e post hh => hψ pre e (post ++ [x]) (by simp [hh]),
      if_congr (hψ h x [] rfl) rfl rfl]

theorem tally_map (f : α → β) {ψ : List β → β → Prop} :
    tally ψ (h.map f) = tally (fun pre e => ψ (pre.map f) (f e)) h := by
  induction h using List.reverseRecOn with
  | nil => rfl
  | append_singleton h x ih => rw [List.map_append, List.map_singleton, tally_snoc, tally_snoc, ih]

end Tally

/-! ## Runs -/

section Run

variable {S T L M : Type*}

inductive Run (step : S → L → S → Prop) : S → List L → S → Prop
  | nil (s : S) : Run step s [] s
  | snoc {s s' s'' : S} {h : List L} {l : L} : Run step s h s' → step s' l s'' → Run step s (h ++ [l]) s''

variable {step : S → L → S → Prop} {s s' : S} {h : List L}

theorem run_nil_iff : Run step s [] s' ↔ s = s' := by
  constructor
  · intro hr
    generalize he : ([] : List L) = h₀ at hr
    cases hr with
    | nil => rfl
    | snoc => simp at he
  · rintro rfl; exact .nil s

theorem run_snoc_iff {l : L} : Run step s (h ++ [l]) s' ↔ ∃ m, Run step s h m ∧ step m l s' := by
  constructor
  · intro hr
    generalize he : h ++ [l] = h₀ at hr
    cases hr with
    | nil => simp at he
    | snoc hr hs =>
      obtain ⟨rfl, rfl⟩ : h = _ ∧ l = _ := by simpa using he
      exact ⟨_, hr, hs⟩
  · rintro ⟨m, hr, hs⟩; exact .snoc hr hs

/-- A run splits at every point of its history. -/
theorem run_append_iff {h' : List L} : Run step s (h ++ h') s' ↔ ∃ m, Run step s h m ∧ Run step m h' s' := by
  induction h' using List.reverseRecOn generalizing s' with
  | nil => simp [run_nil_iff]
  | append_singleton h' l ih =>
    rw [← List.append_assoc, run_snoc_iff]
    constructor
    · rintro ⟨m', hr, hs⟩
      obtain ⟨m, h₁, h₂⟩ := ih.mp hr
      exact ⟨m, h₁, .snoc h₂ hs⟩
    · rintro ⟨m, h₁, h₂⟩
      obtain ⟨m', h₂, hs⟩ := run_snoc_iff.mp h₂
      exact ⟨m', ih.mpr ⟨m, h₁, h₂⟩, hs⟩

/-- What every step keeps, every run keeps. -/
theorem Run.inv {I : S → Prop} (keep : ∀ s l s', I s → step s l s' → I s') (hr : Run step s h s')
    (h0 : I s) : I s' := by
  induction hr with
  | nil => exact h0
  | snoc _ hs ih => exact keep _ _ _ ih hs

/-- A relation between state and history that every step extends holds at the end of
    every run. -/
theorem Run.history {P : List L → S → Prop} (hr : Run step s h s') (h0 : P [] s)
    (keep : ∀ h m l m', Run step s h m → P h m → step m l m' → P (h ++ [l]) m') : P h s' := by
  induction hr with
  | nil => exact h0
  | snoc hr hs ih => exact keep _ _ _ _ hr ih hs

/-- If every step from a state with `I` is matched, through `f` and `g`, by a step of the
    other system and keeps `I`, so is every run. -/
theorem Run.simulate {step' : T → M → T → Prop} {I : S → Prop} (f : S → T) (g : L → M)
    (sim : ∀ s l s', I s → step s l s' → step' (f s) (g l) (f s') ∧ I s') (hr : Run step s h s') (h0 : I s) :
    Run step' (f s) (h.map g) (f s') ∧ I s' := by
  induction hr with
  | nil => exact ⟨.nil _, h0⟩
  | snoc _ hs ih =>
    obtain ⟨hr', hi⟩ := ih
    obtain ⟨hs', hi'⟩ := sim _ _ _ hi hs
    rw [List.map_append, List.map_singleton]
    exact ⟨.snoc hr' hs', hi'⟩

end Run

end LedWireDriver.History
