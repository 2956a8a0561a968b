/-
  LedWireDriver.Spec.Delivery — what becomes of an update in a committed-batch transport
  (see `LedWireDriver.Spec.Batching`).

  Over every finite run:
  - `written_eq`: no update is lost or sent twice. Every published write of a channel was
    carried by exactly one accepted batch, was merged into a later one, or is still dirty
    or pending.

  Over every endless run that is fair (`Fair`: services come again and again, an owned
  batch is completed, a transport that is offered batches again and again accepts again and
  again, completions are reported only for what is owned):
  - `dirty_committed`: under commits that come again and again, a dirty channel is committed.
  - `pending_carried`: a pending channel is carried by an accepted batch.
-/

import LedWireDriver.Lib.LeadsTo
import LedWireDriver.Spec.Batching

namespace LedWireDriver.Batching

open Filter History Temporal

variable {ι P : Type*} {next : P → P} {phase₀ : ι → P} {c : ι}

/-! ## Conservation -/

open Classical in
/-- How many writes of `c` were published. -/
noncomputable def written (c : ι) (h : List (Label ι P)) : Nat := h.countP fun e => decide (e.Writes c)

/-- Two updates of `c` become one: a write over a dirty channel, or a commit of a dirty
    channel that is still pending. -/
def Merges (c : ι) (pre : List (Label ι P)) (e : Label ι P) : Prop :=
  e.Writes c ∧ Uncommitted c pre ∨ e.Commits ∧ Uncommitted c pre ∧ Unsent c pre

open Classical in
theorem written_snoc (c : ι) (h : List (Label ι P)) (e : Label ι P) :
    written c (h ++ [e]) = written c h + if e.Writes c then 1 else 0 := by
  simp [written, List.countP_append, List.countP_cons]

open Classical in
theorem written_eq {h : List (Label ι P)} {s : State ι P} (hr : Run (Step next) (init phase₀) h s) (c : ι) :
    written c h = carried c h + tally (Merges c) h + (if c ∈ s.dirty then 1 else 0) +
      if c ∈ s.pending then 1 else 0 := by
  refine hr.history (P := fun h s => written c h = carried c h + tally (Merges c) h +
    (if c ∈ s.dirty then 1 else 0) + if c ∈ s.pending then 1 else 0) (by simp [written, carried, init]) ?_
  intro h m l m' hr ih hs
  have hmerges : Merges c h l ↔ l.Writes c ∧ c ∈ m.dirty ∨ l.Commits ∧ c ∈ m.dirty ∧ c ∈ m.pending := by
    unfold Merges
    rw [mem_dirty hr c, mem_pending hr c]
  rw [written_snoc, carried_snoc, tally_snoc, if_congr hmerges rfl rfl, ih]
  generalize tally (Merges c) h = merged
  cases hs with
  | wrote c' =>
    by_cases hc : c' = c
    · subst hc
      by_cases hdirty : c' ∈ m.dirty
      · simp [Label.Writes, Label.Carries, Label.Commits, hdirty]
        omega
      · simp [Label.Writes, Label.Carries, Label.Commits, hdirty]
        omega
    · have hc' : c ≠ c' := fun e => hc e.symm
      simp [Label.Writes, Label.Carries, Label.Commits, hc, hc']
  | committed =>
    by_cases hdirty : c ∈ m.dirty
    · by_cases hpending : c ∈ m.pending
      · simp [Label.Writes, Label.Carries, Label.Commits, hdirty, hpending]
        omega
      · simp [Label.Writes, Label.Carries, Label.Commits, hdirty, hpending]
    · simp [Label.Writes, Label.Carries, Label.Commits, hdirty]
  | started =>
    by_cases hdirty : c ∈ m.dirty <;> by_cases hpending : c ∈ m.pending <;>
      simp [Label.Writes, Label.Carries, Label.Commits, State.accept, hdirty, hpending] <;> omega
  | _ => simp [Label.Writes, Label.Carries, Label.Commits]

/-! ## Endless runs -/

namespace Label

/-- A service that surfaced nothing. -/
def Serves : Label ι P → Prop
  | rested | refused _ | started _ => True
  | _ => False

/-- A batch was offered to the transport. -/
def Offers : Label ι P → Prop
  | refused _ | started _ => True
  | _ => False

theorem Starts.offers {l : Label ι P} (h : l.Starts) : l.Offers := by
  cases l <;> first | exact h | trivial

end Label

structure Endless (next : P → P) (phase₀ : ι → P) (s : Nat → State ι P) (l : Nat → Label ι P) : Prop where
  start : s 0 = init phase₀
  step : ∀ n, Step next (s n) (l n) (s (n + 1))

structure Fair (l : Nat → Label ι P) : Prop where
  serves : ∃ᶠ n in atTop, (l n).Serves
  completes : ∀ n, (l n).Starts → ∃ m, n < m ∧ (l m).Completes
  accepts : (∃ᶠ n in atTop, (l n).Offers) → ∃ᶠ n in atTop, (l n).Starts
  solicited : ∀ n, l n ≠ .strayed

namespace Endless

variable {s : Nat → State ι P} {l : Nat → Label ι P} (hr : Endless next phase₀ s l)
include hr

theorem stray_free (hsolicited : ∀ n, l n ≠ .strayed) (n : Nat) : (s n).stray = false := by
  induction n with
  | zero => rw [hr.start]; rfl
  | succ n ih =>
    have hs := hr.step n
    generalize s n = m, l n = e, s (n + 1) = m', hsolicited n = hne at *
    cases hs with
    | strayed => exact absurd rfl hne
    | surfaced => rfl
    | _ => exact ih

/-- An owned batch stays owned until its completion is reported. -/
theorem awaiting_unless : Unless (fun n => (s n).Awaiting) (fun n => (l n).Completes) := by
  intro n hawait
  have hs := hr.step n
  show (s (n + 1)).Awaiting ∨ (l n).Completes
  change (s n).Awaiting at hawait
  generalize s n = m, l n = e, s (n + 1) = m' at *
  cases hs with
  | rested _ hno | refused _ hno | started _ hno => exact absurd hawait hno
  | completed | strayed => exact Or.inr trivial
  | _ => exact Or.inl hawait

/-- A free transport stays free until it accepts a batch. -/
theorem free_unless : Unless (fun n => ¬(s n).Awaiting) (fun n => (l n).Starts) := by
  intro n hfree
  have hs := hr.step n
  show ¬(s (n + 1)).Awaiting ∨ (l n).Starts
  change ¬(s n).Awaiting at hfree
  generalize s n = m, l n = e, s (n + 1) = m' at *
  cases hs with
  | started => exact Or.inr trivial
  | rested | refused | completed => exact Or.inl (by simp [State.Awaiting])
  | strayed hf => exact Or.inl (by simp [State.Awaiting, hf])
  | _ => exact Or.inl hfree

theorem awaiting_started {n : Nat} (hs : (l n).Starts) : (s (n + 1)).Awaiting := by
  have hstep := hr.step n
  generalize s n = m, l n = e, s (n + 1) = m' at *
  cases hstep with
  | started => exact ⟨_, rfl⟩
  | _ => cases hs

theorem free_completed {n : Nat} (hc : (l n).Completes) : ¬(s (n + 1)).Awaiting := by
  have hstep := hr.step n
  generalize s n = m, l n = e, s (n + 1) = m' at *
  cases hstep with
  | completed => simp [State.Awaiting]
  | strayed hf => simp [State.Awaiting, hf]
  | _ => cases hc

/-- What is owned was accepted, and not completed since. -/
theorem started_of_awaiting {n : Nat} (hawait : (s n).Awaiting) :
    ∃ k < n, (l k).Starts ∧ ∀ j, k < j → j < n → ¬(l j).Completes := by
  induction n with
  | zero =>
    rw [hr.start] at hawait
    obtain ⟨m, hm⟩ := hawait
    cases hm
  | succ n ih =>
    by_cases hs : (l n).Starts
    · exact ⟨n, by omega, hs, fun j hk hj => by omega⟩
    have hprev : (s n).Awaiting := by
      by_contra hfree
      rcases hr.free_unless n hfree with hno | hst
      · exact hno hawait
      · exact hs hst
    obtain ⟨k, hk, hst, hno⟩ := ih hprev
    refine ⟨k, by omega, hst, fun j hkj hj => ?_⟩
    rcases Nat.lt_succ_iff_lt_or_eq.mp hj with hj | rfl
    · exact hno j hkj hj
    · exact fun hc => hr.free_completed hc hawait

/-- The transport is free again and again. -/
theorem free_later (hcompletes : ∀ n, (l n).Starts → ∃ m, n < m ∧ (l m).Completes) (n : Nat) :
    ∃ m, n ≤ m ∧ ¬(s m).Awaiting := by
  by_cases hawait : (s n).Awaiting
  · obtain ⟨k, hk, hst, hno⟩ := hr.started_of_awaiting hawait
    obtain ⟨m, hkm, hc⟩ := hcompletes k hst
    refine ⟨m + 1, ?_, hr.free_completed hc⟩
    by_contra hlt
    exact hno m hkm (by omega) hc
  · exact ⟨n, le_refl n, hawait⟩

theorem dirty_committed (hcommits : ∃ᶠ n in atTop, (l n).Commits) :
    LeadsTo (fun n => c ∈ (s n).dirty) (fun n => (l n).Commits ∧ c ∈ (s (n + 1)).pending) := by
  refine Unless.leadsTo_of_frequently ?_ hcommits ?_
  · intro n hd
    have hs := hr.step n
    show c ∈ (s (n + 1)).dirty ∨ (l n).Commits ∧ c ∈ (s (n + 1)).pending
    change c ∈ (s n).dirty at hd
    generalize s n = m, l n = e, s (n + 1) = m' at *
    cases hs with
    | wrote => exact Or.inl (Set.mem_insert_of_mem _ hd)
    | committed => exact Or.inr ⟨trivial, Set.mem_union_right _ hd⟩
    | _ => exact Or.inl hd
  · intro n hd hc
    have hs := hr.step n
    generalize s n = m, l n = e, s (n + 1) = m' at *
    cases hs with
    | committed => exact ⟨trivial, Set.mem_union_right _ hd⟩
    | _ => cases hc

/-- A service offers the pending batch when the transport is free. -/
theorem offers_of_serves (hsolicited : ∀ n, l n ≠ .strayed) {n : Nat} (hp : c ∈ (s n).pending)
    (hfree : ¬(s n).Awaiting) (hs : (l n).Serves) : (l n).Offers := by
  have hstray := hr.stray_free hsolicited n
  have hstep := hr.step n
  generalize s n = m, l n = e, s (n + 1) = m' at *
  cases hstep with
  | rested _ _ hnone => rw [hnone] at hp; cases hp
  | waited _ hawait => exact absurd hawait hfree
  | refused | started => trivial
  | _ => cases hs

/-- A pending channel is carried: while it is not, the pending batch is offered again and
    again. -/
theorem pending_carried (hf : Fair l) : LeadsTo (fun n => c ∈ (s n).pending) (fun n => (l n).Carries c) := by
  refine Unless.leadsTo_of_asked ?_ ?_ hf.accepts ?_
  · intro n hp
    have hs := hr.step n
    show c ∈ (s (n + 1)).pending ∨ (l n).Carries c
    change c ∈ (s n).pending at hp
    generalize s n = m, l n = e, s (n + 1) = m' at *
    cases hs with
    | committed => exact Or.inl (Set.mem_union_left _ hp)
    | started => exact Or.inr hp
    | _ => exact Or.inl hp
  · intro n hp
    rw [frequently_atTop]
    intro k
    obtain ⟨i, hi, hfree⟩ := hr.free_later hf.completes (max n k)
    -- from here on the transport is free until it accepts
    by_cases hst : ∃ j, i ≤ j ∧ (l j).Starts
    · obtain ⟨j, hj, hst⟩ := hst
      exact ⟨j, by omega, hst.offers⟩
    · push Not at hst
      obtain ⟨j, hj, hserve⟩ := frequently_atTop.mp hf.serves i
      refine ⟨j, by omega, hr.offers_of_serves hf.solicited (hp j (by omega)) ?_ hserve⟩
      exact hr.free_unless.forever hfree hst j hj
  · intro n hp hst
    have hs := hr.step n
    generalize s n = m, l n = e, s (n + 1) = m' at *
    cases hs with
    | started => exact hp
    | _ => cases hst

end Endless

end LedWireDriver.Batching
