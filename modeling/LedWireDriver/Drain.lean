/-
  LedWireDriver.Drain — no reachable state is a dead end.

  `next` is what is due in a ready state: to surface a violation, to commit what is dirty,
  to deliver the completion the driver waits for, to service. Each such call leaves less to
  do (`Effect.advances`), as long as the backend accepts what it is offered; so from every
  state of every run six calls at most lead back to the state of a driver just
  configured, and transmit what was dirty or pending, all of it in one batch (`drains`).
-/

import LedWireDriver.Completion
import LedWireDriver.Ingress

namespace LedWireDriver

open Words Api Engine Pack

/-! ## What is due -/

namespace Engine

/-- How many calls it takes to see a transfer off. -/
def TransferState.work : TransferState → Nat
  | .idle => 0
  | .inFlight true _ => 1
  | .inFlight false _ => 2

namespace ReadyState

/-- The call that is due. -/
def next (r : ReadyState) : Option Op :=
  if r.ingressViolation = true ∨ r.dirtyMask.bits ≠ 0 then some .commit
  else
    match r.transfer with
    | .inFlight false _ => some (.onBackendEvent .transferComplete)
    | .inFlight true _ => some .service
    | .idle => if r.pendingMask.bits ≠ 0 then some .service else none

/-- How many calls are due from here on. -/
def work (r : ReadyState) : Nat :=
  (if r.ingressViolation then 1 else 0) + (if r.dirtyMask.bits ≠ 0 then 1 else 0) +
    if r.pendingMask.bits ||| r.dirtyMask.bits = 0 then r.transfer.work else 2 + max 1 r.transfer.work

/-- The batch that would carry everything written and not yet sent. -/
def outstanding (r : ReadyState) : List UInt32 :=
  if r.pendingMask.bits ||| r.dirtyMask.bits = 0 then [] else [r.pendingMask.bits ||| r.dirtyMask.bits]

/-- The calls that are due, with what makes them so. -/
inductive Due (r : ReadyState) : Op → Prop
  | surface : r.ingressViolation = true → Due r .commit
  | commit : r.ingressViolation = false → r.dirtyMask.bits ≠ 0 → Due r .commit
  | complete {mask : ChannelMask} : r.ingressViolation = false → r.dirtyMask.bits = 0 →
      r.transfer = .inFlight false mask → Due r (.onBackendEvent .transferComplete)
  | start : r.ingressViolation = false → r.dirtyMask.bits = 0 → r.transfer.Free → r.pendingMask.bits ≠ 0 → Due r .service
  | retire {mask : ChannelMask} : r.ingressViolation = false → r.dirtyMask.bits = 0 →
      r.transfer = .inFlight true mask → r.pendingMask.bits = 0 → Due r .service

theorem next_cases (r : ReadyState) : r.next = none ∧ r = .new ∨ ∃ op, r.next = some op ∧ Due r op := by
  obtain ⟨transfer, ⟨dirty⟩, ⟨pending⟩, violation⟩ := r
  cases violation with
  | true => exact Or.inr ⟨_, by simp [next], .surface rfl⟩
  | false =>
    by_cases hd : dirty = 0
    case neg => exact Or.inr ⟨_, by simp [next, hd], .commit rfl hd⟩
    by_cases hp : pending = 0
    · rcases transfer with _ | ⟨_ | _, mask⟩
      · exact Or.inl ⟨by simp [next, hd, hp], by rw [hd, hp]; rfl⟩
      · exact Or.inr ⟨_, by simp [next, hd], .complete rfl hd rfl⟩
      · exact Or.inr ⟨_, by simp [next, hd], .retire rfl hd rfl hp⟩
    · rcases transfer with _ | ⟨_ | _, mask⟩
      · exact Or.inr ⟨_, by simp [next, hd, hp], .start rfl hd (by intro _ h; cases h) hp⟩
      · exact Or.inr ⟨_, by simp [next, hd], .complete rfl hd rfl⟩
      · exact Or.inr ⟨_, by simp [next, hd], .start rfl hd (by intro _ h; cases h) hp⟩

theorem Due.work_pos {r : ReadyState} {op : Op} (h : r.Due op) : 0 < r.work := by
  unfold work
  cases h with
  | surface hv =>
    rw [hv, if_pos rfl]
    omega
  | commit _ hd =>
    rw [if_pos hd]
    omega
  | complete _ hd ht | retire _ hd ht =>
    rw [ht, TransferState.work]
    split <;> split <;> split <;> omega
  | start _ hd _ hp =>
    rw [hd, UInt32.or_zero, if_neg hp]
    omega

theorem work_le (r : ReadyState) : r.work ≤ 6 := by
  have htransfer : r.transfer.work ≤ 2 := by
    rcases r.transfer with _ | ⟨_ | _, mask⟩ <;> simp [TransferState.work]
  unfold work
  split <;> split <;> split <;> omega

end ReadyState

end Engine

/-! ## One call -/

/-- The batch a call was accepted for. -/
def BackendCall.acceptedMask : BackendCall → Option UInt32
  | .submitChannels m (.ok .started) => some m
  | _ => none

/-- The backend accepts every batch it is offered. -/
def Accepting (calls : List BackendCall) : Prop := ∀ call ∈ calls, call.isSubmit = true → call.acceptedMask.isSome = true

instance (calls : List BackendCall) : Decidable (Accepting calls) :=
  inferInstanceAs (Decidable (∀ call ∈ calls, call.isSubmit = true → call.acceptedMask.isSome = true))

theorem Accepting.reply {calls : List BackendCall} (h : Accepting calls) {m : UInt32}
    {reply : Except BackendError StartTransfer} (hm : .submitChannels m reply ∈ calls) : reply = .ok .started := by
  have hsome := h _ hm rfl
  rcases reply with _ | _ | _
  · cases hsome
  · rfl
  · cases hsome

variable {B : Type} [LedBackend B] {f : Features} {r : ReadyState} {t : Transition B}

/-- The call `t` from `r` gets on with what is due. -/
structure Advances (r : ReadyState) (t : Transition B) (r' : ReadyState) : Prop where
  lifecycle : t.after.engine.lifecycle = .ready r'
  work : r'.work < r.work
  sent : t.calls.filterMap (·.acceptedMask) ++ r'.outstanding = r.outstanding
  result : r.ingressViolation = false → t.result = .ok () ∧ r'.ingressViolation = false

theorem TransferState.work_free {transfer : TransferState} (h : transfer.Free) : transfer.work ≤ 1 := by
  rcases transfer with _ | ⟨_ | _, mask⟩
  · exact Nat.zero_le 1
  · exact absurd rfl (h mask)
  · exact le_refl 1

/-- With an accepting backend, a call that is due leaves less to do. -/
theorem Effect.advances (h : Effect f r t) (hdue : r.Due t.op) (ha : Accepting t.calls) : ∃ r', Advances r t r' := by
  generalize hop : t.op = op at hdue
  cases hdue with
  | surface hv =>
    obtain ⟨hcalls, -, hafter⟩ := h.inert (by rw [hop]; trivial) hv
    refine ⟨{ r with ingressViolation := false }, by rw [hafter]; rfl, ?_, by rw [hcalls]; rfl, fun hv' => ?_⟩
    · simp only [ReadyState.work, hv, if_true, Bool.false_eq_true, if_false]
      omega
    · rw [hv] at hv'
      cases hv'
  | commit hv hd =>
    obtain ⟨hres, hcalls, hafter⟩ := h.commits hop hv
    refine ⟨_, by rw [hafter]; rfl, ?_, ?_, fun _ => ⟨hres, ?_⟩⟩
    · simp only [ReadyState.work, ChannelMask.zero, hv, if_pos hd, UInt32.or_zero, ne_eq, not_true_eq_false,
        Bool.false_eq_true, if_false]
      omega
    · rw [hcalls]
      simp [ReadyState.outstanding, ChannelMask.zero]
    · exact hv
  | complete hv hd ht =>
    cases h with
    | completed =>
      refine ⟨_, rfl, ?_, rfl, fun _ => ⟨rfl, ?_⟩⟩
      · simp only [ReadyState.work, ht, TransferState.work, hd, if_neg (not_not.mpr rfl)]
        split <;> split <;> omega
      · exact hv
    | strayed _ _ ht' =>
      rw [ht] at ht'
      cases ht'
    | foreign hh =>
      cases hop
      cases hh
    | surfaced hrt =>
      cases hop
      exact hrt.elim
    | _ => cases hop
  | start hv hd ht hp =>
    obtain ⟨reply, backend, hcalls, hres, hafter⟩ := h.offers hop hv ht hp
    obtain rfl := ha.reply (m := r.pendingMask.bits) (by rw [hcalls]; exact List.mem_singleton_self _)
    refine ⟨_, by rw [hafter]; rfl, ?_, ?_, fun _ => ⟨hres, ?_⟩⟩
    · have hfree := TransferState.work_free ht
      simp only [ReadyState.work, ChannelMask.zero, hd, UInt32.or_zero, if_neg hp, if_true, TransferState.work]
      omega
    · rw [hcalls]
      simp [BackendCall.acceptedMask, ReadyState.outstanding, ChannelMask.zero, hd, hp]
    · exact hv
  | retire hv hd ht hp =>
    obtain ⟨hres, hcalls, hafter⟩ := h.rests hop hv (by rw [ht]; intro _ h; cases h) hp
    refine ⟨_, by rw [hafter]; rfl, ?_, by rw [hcalls]; rfl, fun _ => ⟨hres, ?_⟩⟩
    · simp only [ReadyState.work, ht, hd, hp, UInt32.or_zero, if_true, TransferState.work]
      omega
    · exact hv

/-! ## The calls that are due -/

namespace Api.Driver

/-- The call that is due. -/
def next {B : Type} (d : Driver B .ready) : Option Op :=
  match d.engine.lifecycle with
  | .ready r => r.next
  | _ => none

/-- The calls that are due, one after the other, at most `n` of them. -/
def drain (f : Features) : Nat → Driver (Recorder B) .ready → List Op
  | 0, _ => []
  | n + 1, d =>
    match d.next with
    | some op => op :: drain f n (d.transition f op).after
    | none => []

variable {setup : PreparedSetup} {handles : ConfiguredChannels} {d : Driver (Recorder B) .ready}

omit [LedBackend B] in
theorem next_eq (hr : d.engine.lifecycle = .ready r) : d.next = r.next := by
  unfold next
  rw [hr]

/-- What the calls `ops` on `d`, whose ready state is `r`, come to. -/
structure Drains (f : Features) (d : Driver (Recorder B) .ready) (r : ReadyState) (ops : List Op) : Prop where
  lifecycle : (d.afterOps f ops).engine.lifecycle = .ready .new
  /-- Everything dirty or pending is transmitted, in one batch. -/
  sent : ((d.trace f ops).flatMap (·.calls)).filterMap (·.acceptedMask) = r.outstanding
  /-- Only a violation latched before is reported. -/
  result : r.ingressViolation = false → ∀ t ∈ d.trace f ops, t.result = .ok ()
  /-- A completion is delivered only for a batch that awaits it. -/
  solicited : ∀ t ∈ d.trace f ops, t.Completes → ∃ mask, t.before.Carries false mask

omit [LedBackend B] in
theorem Due.carries (hr : d.engine.lifecycle = .ready r) {op : Op} (hdue : r.Due op)
    (hop : op = .onBackendEvent .transferComplete) : ∃ mask, d.Carries false mask := by
  cases hdue with
  | complete _ _ ht => exact ⟨_, r, hr, ht⟩
  | _ => cases hop

theorem drains_nil (hr : d.engine.lifecycle = .ready .new) : Drains f d .new [] :=
  ⟨hr, rfl, fun _ t ht => by simp [trace] at ht, fun t ht => by simp [trace] at ht⟩

/-- A call that is due, and then what is due after it. -/
theorem Drains.cons {r' : ReadyState} {op : Op} {ops : List Op} (hr : d.engine.lifecycle = .ready r) (hdue : r.Due op)
    (ha : Advances r (d.transition f op) r') (h : Drains f (d.transition f op).after r' ops) :
    Drains f d r (op :: ops) where
  lifecycle := h.lifecycle
  sent := by
    rw [trace, List.flatMap_cons, List.filterMap_append, h.sent, ha.sent]
  result := by
    intro hv t ht
    obtain ⟨hres, hv'⟩ := ha.result hv
    rcases List.mem_cons.mp ht with rfl | ht
    · exact hres
    · exact h.result hv' t ht
  solicited := by
    intro t ht hcomp
    rcases List.mem_cons.mp ht with rfl | ht
    · rw [transition_before]
      exact Due.carries hr hdue (by rwa [Transition.Completes, transition_op] at hcomp)
    · exact h.solicited t ht hcomp

theorem Configured.drains_from (hc : Configured setup handles d) (f : Features) (pre : List Op) (n : Nat)
    (hr : (d.afterOps f pre).engine.lifecycle = .ready r) (hn : r.work ≤ n)
    (ha : ∀ t ∈ (d.afterOps f pre).trace f ((d.afterOps f pre).drain f n), Accepting t.calls) :
    Drains f (d.afterOps f pre) r ((d.afterOps f pre).drain f n) := by
  induction n generalizing pre r with
  | zero =>
    rcases r.next_cases with ⟨-, rfl⟩ | ⟨op, -, hdue⟩
    · exact drains_nil hr
    · exact absurd hdue.work_pos (by omega)
  | succ n ih =>
    rcases r.next_cases with ⟨hnext, rfl⟩ | ⟨op, hnext, hdue⟩
    · simp only [drain, next_eq hr, hnext]
      exact drains_nil hr
    · simp only [drain, next_eq hr, hnext] at ha ⊢
      obtain ⟨r₀, hi, he⟩ := hc.reached (f := f) pre
      obtain rfl : r₀ = r := EngineLifecycle.ready.inj (hi.lifecycle.symm.trans hr)
      obtain ⟨r', hadv⟩ := (he op).advances (by rwa [transition_op]) (ha _ (List.mem_cons_self ..))
      have hrest := ih (pre ++ [op]) (r := r') (by rw [afterOps_snoc]; exact hadv.lifecycle)
        (by have := hadv.work; omega) (by
          rw [afterOps_snoc]
          exact fun t ht => ha t (List.mem_cons_of_mem _ ht))
      rw [afterOps_snoc] at hrest
      exact .cons hr hdue hadv hrest

theorem drain_length (n : Nat) (d : Driver (Recorder B) .ready) : (d.drain f n).length ≤ n := by
  induction n generalizing d with
  | zero => exact le_refl 0
  | succ n ih =>
    unfold drain
    split
    · exact Nat.succ_le_succ (ih _)
    · exact Nat.zero_le _

/-- From every state of every run, six due calls at most lead back to the ready state of a driver
    just configured, if the backend accepts what they offer. -/
theorem drains (hc : Configured setup handles d) (f : Features) (ops : List Op)
    (ha : ∀ t ∈ (d.afterOps f ops).trace f ((d.afterOps f ops).drain f 6), Accepting t.calls) :
    ∃ r, (d.afterOps f ops).engine.lifecycle = .ready r ∧ ((d.afterOps f ops).drain f 6).length ≤ 6 ∧
      Drains f (d.afterOps f ops) r ((d.afterOps f ops).drain f 6) := by
  obtain ⟨r, hi, -⟩ := hc.reached (f := f) ops
  exact ⟨r, hi.lifecycle, drain_length 6 _, hc.drains_from f ops 6 hi.lifecycle r.work_le ha⟩

open TestSupport in
/-- A write, and then a completion that no batch awaits. -/
def strayed : Driver (Recorder TestSupport.FakeBackend) .ready :=
  pair.1.afterOps .default [.writeRgb48 (handle 0) frame, .onBackendEvent .transferComplete]

open TestSupport in
theorem drains_strayed : ∃ r, strayed.engine.lifecycle = .ready r ∧ (strayed.drain .default 6).length ≤ 6 ∧
    Drains .default strayed r (strayed.drain .default 6) :=
  drains pair_configured .default [.writeRgb48 (handle 0) frame, .onBackendEvent .transferComplete]
    (by decide +kernel)

end Api.Driver

end LedWireDriver
