/-
  LedWireDriver.Spec.Batching — what a committed-batch transport is for.

  Channels (any type `ι`) are written at any time; a commit promotes everything written
  since the last one to pending; a service hands the whole pending set to the transport
  when the transport is free. The transport accepts (`started`) or refuses (`refused`) the
  batch, and owns an accepted one until its completion is reported and a service retires
  it. A completion reported while nothing is owned is latched (`stray`) and surfaced by the
  next runtime call, which then does nothing else. Each channel has a phase (any type `P`)
  that moves on by `next` with every accepted batch that carries the channel; a write is
  stamped with the phase of that moment.

  Over every run from an initial state, as functions of the history alone:
  - `mem_dirty` / `mem_pending`: which channels are dirty and pending.
  - `awaiting_iff`, `flight_eq`: when the transport is taken, and by which batch.
  - `stray_iff`, `stray_free`: when a violation is latched, and that nothing is owned then.
  - `phase_eq`: a channel's phase counts the accepted batches that carried it.
  - `rewritten_iff`, `carried_le_one`: what a write made while its channel is pending does
    to the batch, and to the stamp of the data it carries.
-/

import Mathlib.Data.Set.Insert
import LedWireDriver.Lib.History

namespace LedWireDriver.Batching

open History

variable {ι P : Type*}

structure State (ι P : Type*) where
  dirty : Set ι
  pending : Set ι
  /-- The batch the transport owns, and whether its completion was reported. -/
  flight : Option (Set ι × Bool)
  stray : Bool
  phase : ι → P

inductive Label (ι P : Type*) where
  /-- A write was published, stamped with a phase. -/
  | wrote (c : ι) (p : P)
  | committed
  /-- A runtime call did nothing but surface the latched violation. -/
  | surfaced
  /-- A runtime call failed for another reason. -/
  | failed
  /-- A service offered no batch. -/
  | rested
  | refused (m : Set ι)
  | started (m : Set ι)
  /-- A completion was reported while a batch was owned. -/
  | completed
  /-- A completion was reported while none was. -/
  | strayed
  /-- Nothing the protocol sees. -/
  | silent

namespace Label

def Writes (c : ι) : Label ι P → Prop
  | wrote c' _ => c' = c
  | _ => False

def Commits : Label ι P → Prop
  | committed => True
  | _ => False

def Starts : Label ι P → Prop
  | started _ => True
  | _ => False

/-- An accepted batch that carries `c`. -/
def Carries (c : ι) : Label ι P → Prop
  | started m => c ∈ m
  | _ => False

def Completes : Label ι P → Prop
  | completed | strayed => True
  | _ => False

theorem Writes.not_carries {c c' : ι} {l : Label ι P} (h : l.Writes c) : ¬l.Carries c' := by
  cases l <;> simp [Writes, Carries] at h ⊢

/-- A write, commit or service: the calls that surface a latched violation. -/
def Runtime : Label ι P → Prop
  | completed | strayed | silent => False
  | _ => True

end Label

def init (phase₀ : ι → P) : State ι P := ⟨∅, ∅, none, false, phase₀⟩

/-- The transport owns a batch whose completion has not been reported. -/
def State.Awaiting (s : State ι P) : Prop := ∃ m, s.flight = some (m, false)

open Classical in
/-- The pending batch was accepted. -/
noncomputable def State.accept (next : P → P) (s : State ι P) : State ι P :=
  { s with flight := some (s.pending, false), pending := ∅,
           phase := fun c => if c ∈ s.pending then next (s.phase c) else s.phase c }

inductive Step (next : P → P) : State ι P → Label ι P → State ι P → Prop
  | wrote (s : State ι P) (c : ι) : s.stray = false →
      Step next s (.wrote c (s.phase c)) { s with dirty := insert c s.dirty }
  | committed (s : State ι P) : s.stray = false →
      Step next s .committed { s with dirty := ∅, pending := s.pending ∪ s.dirty }
  | surfaced (s : State ι P) : s.stray = true → Step next s .surfaced { s with stray := false }
  | failed (s : State ι P) : s.stray = false → Step next s .failed s
  | waited (s : State ι P) : s.stray = false → s.Awaiting → Step next s .rested s
  | rested (s : State ι P) : s.stray = false → ¬s.Awaiting → s.pending = ∅ →
      Step next s .rested { s with flight := none }
  | refused (s : State ι P) : s.stray = false → ¬s.Awaiting → s.pending.Nonempty →
      Step next s (.refused s.pending) { s with flight := none }
  | started (s : State ι P) : s.stray = false → ¬s.Awaiting → s.pending.Nonempty →
      Step next s (.started s.pending) (s.accept next)
  | completed (s : State ι P) (m : Set ι) (b : Bool) : s.flight = some (m, b) →
      Step next s .completed { s with flight := some (m, true) }
  | strayed (s : State ι P) : s.flight = none → Step next s .strayed { s with stray := true }
  | silent (s : State ι P) : Step next s .silent s

variable {next : P → P} {phase₀ : ι → P} {s : State ι P} {h : List (Label ι P)}

/-! ## Dirty and pending -/

/-- `c` was written and not committed since. -/
def Uncommitted (c : ι) (h : List (Label ι P)) : Prop := Since (¬·.Commits) (fun _ e => e.Writes c) h

/-- `c` was committed and no batch was accepted since. -/
def Unsent (c : ι) (h : List (Label ι P)) : Prop :=
  Since (¬·.Starts) (fun pre e => e.Commits ∧ Uncommitted c pre) h

theorem mem_dirty (hr : Run (Step next) (init phase₀) h s) (c : ι) : c ∈ s.dirty ↔ Uncommitted c h := by
  refine hr.history (P := fun h s => c ∈ s.dirty ↔ Uncommitted c h) (by simp [init, Uncommitted]) ?_
  intro h m l m' _ ih hs
  unfold Uncommitted at ih ⊢
  rw [since_snoc, ← ih]
  cases hs <;> simp [Label.Writes, Label.Commits, State.accept, eq_comm]

theorem mem_pending (hr : Run (Step next) (init phase₀) h s) (c : ι) : c ∈ s.pending ↔ Unsent c h := by
  refine hr.history (P := fun h s => c ∈ s.pending ↔ Unsent c h) (by simp [init, Unsent]) ?_
  intro h m l m' hr ih hs
  unfold Unsent at ih ⊢
  rw [since_snoc, ← ih, ← mem_dirty hr c]
  cases hs <;> simp [Label.Starts, Label.Commits, State.accept, or_comm]

/-! ## The transport -/

theorem awaiting_iff (hr : Run (Step next) (init phase₀) h s) :
    s.Awaiting ↔ Since (¬·.Completes) (fun _ e => e.Starts) h := by
  refine hr.history (P := fun h s => s.Awaiting ↔ Since (¬·.Completes) (fun _ e => e.Starts) h)
    (by simp [init, State.Awaiting]) ?_
  intro h m l m' _ ih hs
  rw [since_snoc, ← ih]
  cases hs with
  | strayed hf => simp [Label.Completes, Label.Starts, State.Awaiting, hf]
  | rested _ hw => simp [Label.Completes, Label.Starts, hw]; simp [State.Awaiting]
  | refused _ hw => simp [Label.Completes, Label.Starts, hw]; simp [State.Awaiting]
  | _ => simp [Label.Completes, Label.Starts, State.Awaiting, State.accept]

/-- The batch in flight is the last one accepted, and its flag says whether a completion was
    reported since. -/
theorem flight_eq (hr : Run (Step next) (init phase₀) h s) {m : Set ι} {b : Bool} (hf : s.flight = some (m, b)) :
    ∃ pre post, h = pre ++ .started m :: post ∧ (∀ x ∈ post, ¬x.Starts) ∧ (b = true ↔ ∃ x ∈ post, x.Completes) := by
  refine hr.history (P := fun h s => ∀ m b, s.flight = some (m, b) → ∃ pre post, h = pre ++ .started m :: post ∧
    (∀ x ∈ post, ¬x.Starts) ∧ (b = true ↔ ∃ x ∈ post, x.Completes)) (by simp [init]) ?_ m b hf
  intro h t l t' _ ih hs m b hf
  -- a step that keeps the batch and its flag, and reports nothing
  have keep : t'.flight = t.flight → ¬l.Starts → ¬l.Completes → ∃ pre post, h ++ [l] = pre ++ .started m :: post ∧
      (∀ x ∈ post, ¬x.Starts) ∧ (b = true ↔ ∃ x ∈ post, x.Completes) := by
    intro he hl hc
    obtain ⟨pre, post, rfl, hpost, hb⟩ := ih m b (he ▸ hf)
    refine ⟨pre, post ++ [l], by simp, ?_, ?_⟩
    · simpa [or_imp, forall_and] using ⟨hpost, hl⟩
    · rw [hb]; simp [or_and_right, exists_or, hc]
  cases hs with
  | started =>
    simp only [State.accept, Option.some.injEq, Prod.mk.injEq] at hf
    obtain ⟨rfl, rfl⟩ := hf
    exact ⟨h, [], rfl, by simp, by simp⟩
  | completed m' b' hf' =>
    simp only [Option.some.injEq, Prod.mk.injEq] at hf
    obtain ⟨rfl, rfl⟩ := hf
    obtain ⟨pre, post, rfl, hpost, -⟩ := ih _ _ hf'
    refine ⟨pre, post ++ [.completed], by simp, ?_, ?_⟩
    · simpa [or_imp, forall_and, Label.Starts] using hpost
    · simp [or_and_right, exists_or, Label.Completes]
  | strayed hf' => rw [hf'] at hf; cases hf
  | rested | refused => cases hf
  | _ => exact keep rfl (by simp [Label.Starts]) (by simp [Label.Completes])

/-! ## Stray completions -/

theorem stray_iff (hr : Run (Step next) (init phase₀) h s) :
    s.stray = true ↔ Since (¬·.Runtime) (fun _ e => e = .strayed) h := by
  refine hr.history (P := fun h s => s.stray = true ↔ Since (¬·.Runtime) (fun _ e => e = .strayed) h)
    (by simp [init]) ?_
  intro h m l m' _ ih hs
  rw [since_snoc, ← ih]
  cases hs <;> simp_all [Label.Runtime, State.accept]

theorem stray_free (hr : Run (Step next) (init phase₀) h s) (hs : s.stray = true) : s.flight = none := by
  refine hr.inv (I := fun s => s.stray = true → s.flight = none) ?_ (by simp [init]) hs
  intro s l s' ih hstep hs'
  cases hstep with
  | strayed hf => exact hf
  | completed m b hf => simp [ih hs'] at hf
  | started h => simp [State.accept, h] at hs'
  | surfaced => simp at hs'
  | _ => first | exact ih hs' | rfl

/-! ## Phases -/

open Classical in
/-- How many accepted batches carried `c`. -/
noncomputable def carried (c : ι) (h : List (Label ι P)) : Nat := h.countP fun e => decide (e.Carries c)

open Classical in
theorem carried_append (c : ι) (h h' : List (Label ι P)) : carried c (h ++ h') = carried c h + carried c h' := by
  simp [carried, List.countP_append]

open Classical in
theorem carried_cons (c : ι) (e : Label ι P) (h : List (Label ι P)) :
    carried c (e :: h) = carried c h + if e.Carries c then 1 else 0 := by
  simp [carried, List.countP_cons]

open Classical in
theorem carried_snoc (c : ι) (h : List (Label ι P)) (e : Label ι P) :
    carried c (h ++ [e]) = carried c h + if e.Carries c then 1 else 0 := by
  rw [carried_append, carried_cons]; simp [carried]

theorem phase_eq (hr : Run (Step next) (init phase₀) h s) (c : ι) : s.phase c = next^[carried c h] (phase₀ c) := by
  refine hr.history (P := fun h s => s.phase c = next^[carried c h] (phase₀ c)) (by simp [init, carried]) ?_
  intro h m l m' _ ih hs
  rw [carried_snoc]
  cases hs with
  | started =>
    by_cases hc : c ∈ m.pending
    · simp [State.accept, Label.Carries, hc, ih, Function.iterate_succ_apply']
    · simp [State.accept, Label.Carries, hc, ih]
  | _ => simpa [Label.Carries] using ih

/-! ## Writes to a channel that is still pending -/

/-- A channel is pending and dirty at once exactly when it was written while it was pending,
    with no commit and no accepted batch since. -/
theorem rewritten_iff (hr : Run (Step next) (init phase₀) h s) (c : ι) :
    c ∈ s.pending ∧ c ∈ s.dirty ↔ Since (fun e => ¬e.Commits ∧ ¬e.Starts) (fun pre e => e.Writes c ∧ Unsent c pre) h := by
  refine hr.history (P := fun h s => c ∈ s.pending ∧ c ∈ s.dirty ↔
    Since (fun e => ¬e.Commits ∧ ¬e.Starts) (fun pre e => e.Writes c ∧ Unsent c pre) h) (by simp [init]) ?_
  intro h m l m' hr ih hs
  rw [since_snoc, ← ih, ← mem_pending hr c]
  cases hs with
  | wrote c' =>
    simp only [Set.mem_insert_iff, Label.Writes, Label.Commits, Label.Starts, not_false_eq_true, and_self, true_and]
    rw [eq_comm (a := c)]
    tauto
  | _ => simp [Label.Writes, Label.Commits, Label.Starts, State.accept]

open Classical in
/-- What the last write of a channel, and the write before it, can still put on the wire:
    every batch that carries the channel uses up one of the two. -/
theorem carried_add_le {m : State ι P} {c : ι} (hr : Run (Step next) m h s) (hn : ∀ e ∈ h, ¬e.Writes c) :
    carried c h + (if c ∈ s.dirty then 1 else 0) + (if c ∈ s.pending then 1 else 0) ≤
      (if c ∈ m.dirty then 1 else 0) + (if c ∈ m.pending then 1 else 0) := by
  refine hr.history (P := fun h s => (∀ e ∈ h, ¬e.Writes c) →
    carried c h + (if c ∈ s.dirty then 1 else 0) + (if c ∈ s.pending then 1 else 0) ≤
      (if c ∈ m.dirty then 1 else 0) + (if c ∈ m.pending then 1 else 0)) (by simp [carried]) ?_ hn
  intro h t l t' _ ih hs hn
  have ih := ih fun e he => hn e (by simp [he])
  have hl := hn l (by simp)
  rw [carried_snoc]
  cases hs with
  | wrote c' =>
    have hc : c ≠ c' := fun e => hl e.symm
    simpa [Label.Carries, hc] using ih
  | committed =>
    refine le_trans ?_ ih
    by_cases hd : c ∈ t.dirty <;> by_cases hp : c ∈ t.pending <;> simp [Label.Carries, hd, hp]
  | started =>
    refine le_trans ?_ ih
    by_cases hd : c ∈ t.dirty <;> by_cases hp : c ∈ t.pending <;> simp [Label.Carries, State.accept, hd, hp]
  | _ => simpa [Label.Carries] using ih

open Classical in
/-- Between the last write of a pending channel and now at most one accepted batch carried
    it, and none did unless the channel was pending at the write already. -/
theorem carried_le_one {pre post : List (Label ι P)} {e : Label ι P} {c : ι}
    (hr : Run (Step next) (init phase₀) (pre ++ e :: post) s) (he : e.Writes c) (hn : ∀ x ∈ post, ¬x.Writes c)
    (hp : c ∈ s.pending) : carried c post ≤ 1 ∧ (carried c post ≠ 0 → Unsent c pre ∧ c ∉ s.dirty) := by
  obtain ⟨m, hm, hpost⟩ := run_append_iff.mp (show Run _ _ ((pre ++ [e]) ++ post) _ by simpa using hr)
  obtain ⟨t, ht, hs⟩ := run_snoc_iff.mp hm
  have hle := carried_add_le hpost hn
  have hpend : c ∈ m.pending ↔ Unsent c pre := by
    rw [← mem_pending ht c]
    cases hs <;> first | rfl | cases he
  rw [hpend, if_pos hp] at hle
  have hdirty : (if c ∈ m.dirty then 1 else 0) ≤ 1 := by split <;> simp
  have hunsent : (if Unsent c pre then 1 else 0) ≤ 1 := by split <;> simp
  refine ⟨by omega, fun hc => ⟨?_, fun hd => ?_⟩⟩
  · by_contra hu
    rw [if_neg hu] at hle
    omega
  · rw [if_pos hd] at hle
    omega

end LedWireDriver.Batching
