/-
  LedWireDriver.Transport — who owns the transport.

  `Ownership` is what one call may do to the transfer, and to the backend's transport,
  against the history before it; `ownership` proves it of every call of every run of a
  configured driver.
-/

import LedWireDriver.Commit

namespace LedWireDriver

open Words History Batching Api Engine Pack

/-- The call `t` made after the calls `ts`, from the ready state `r` to `r'`. -/
structure Ownership {B : Type} (ts : List (Transition B)) (t : Transition B) (r r' : ReadyState) : Prop where
  once : t.calls.countP (·.isSubmit) ≤ 1
  by_service : ∀ m, t.Submits m → t.op = .service
  /-- Exactly when a service invokes `submit_channels`. -/
  submits : t.op = .service → ((∃ m, t.Submits m) ↔ r.ingressViolation = false ∧
    (∀ pre s post, ts = pre ++ s :: post → (∃ m, s.Starts m) → ∃ x ∈ post, x.Completes) ∧ r.pendingMask.bits ≠ 0)
  /-- The batch in flight is the last one answered `Started`, and its flag says whether a
      `TransferComplete` was delivered since. -/
  records : ∀ complete mask, r.transfer = .inFlight complete mask → ∃ pre s post, ts = pre ++ s :: post ∧
    s.Starts mask.bits ∧ (∀ x ∈ post, ∀ m, ¬x.Starts m) ∧ (complete = true ↔ ∃ x ∈ post, x.Completes)
  starts : ∀ m, t.Starts m → r'.transfer = .inFlight false ⟨m⟩
  /-- Only a service that surfaces nothing and follows `TransferComplete` touches the batch
      in flight. -/
  keeps : ∀ complete mask, r.transfer = .inFlight complete mask →
    (∃ complete', r'.transfer = .inFlight complete' mask) ∨
      (t.op = .service ∧ r.ingressViolation = false ∧ complete = true)
  /-- Such a service retires it, whatever its own submission is answered. -/
  retires : t.op = .service → r.ingressViolation = false → ∀ mask, r.transfer = .inFlight true mask →
    (∀ m, ¬t.Starts m) → r'.transfer = .idle

variable {B : Type} [LedBackend B] {f : Features} {setup : PreparedSetup} {handles : ConfiguredChannels}
  {d : Driver (Recorder B) .ready} {r r' : ReadyState}

/-! ## One call -/

section Step

variable {t : Transition B}

theorem Effect.service_submits (h : Effect f r t) (hop : t.op = .service) :
    (∃ m, t.Submits m) ↔ r.ingressViolation = false ∧ r.transfer.Free ∧ r.pendingMask.bits ≠ 0 := by
  constructor
  · intro hx
    obtain ⟨m, hm⟩ := hx
    obtain ⟨-, hv, ht, rfl, hp⟩ := h.submits hm
    exact ⟨hv, ht, hp⟩
  · intro hx
    obtain ⟨hv, ht, hp⟩ := hx
    cases h with
    | refused | unsubmitted | started => exact ⟨_, _, List.mem_singleton_self _⟩
    | surfaced _ hv' => rw [hv] at hv'; cases hv'
    | waited _ ht' => exact absurd ht' (ht _)
    | rested _ _ hp' => exact absurd hp' hp
    | foreign hh => cases hop; cases hh
    | _ => cases hop

theorem Effect.started_transfer (h : Effect f r t) (hr' : t.after.engine.lifecycle = .ready r') {m : UInt32}
    (hs : t.Starts m) : r'.transfer = .inFlight false ⟨m⟩ := by
  cases h with
  | unwritten _ _ _ _ hw => exact absurd hs (hw.no_submit.1 m _)
  | wrote _ _ _ _ hw => exact absurd hs (hw.no_submit.1 m _)
  | started =>
    cases hr'
    obtain rfl : m = r.pendingMask.bits := by simpa [Transition.Starts] using hs
    rfl
  | _ => simp [Transition.Starts] at hs

theorem Effect.keeps_transfer (h : Effect f r t) (hr : t.before.engine.lifecycle = .ready r)
    (hr' : t.after.engine.lifecycle = .ready r') {complete : Bool} {mask : ChannelMask}
    (ht : r.transfer = .inFlight complete mask) :
    (∃ complete', r'.transfer = .inFlight complete' mask) ∨
      (t.op = .service ∧ r.ingressViolation = false ∧ complete = true) := by
  have hfree : r.transfer.Free → complete = true := fun hf => by
    cases complete
    · exact absurd ht (hf mask)
    · rfl
  cases h with
  | found | foreign | unregistered | unwritten | waited | signalled =>
    obtain rfl : r = r' := EngineLifecycle.ready.inj (hr.symm.trans hr')
    exact Or.inl ⟨_, ht⟩
  | surfaced | wrote | committed => cases hr'; exact Or.inl ⟨_, ht⟩
  | rested hv hf | refused _ hv hf | unsubmitted _ _ hv hf | started _ hv hf => exact Or.inr ⟨rfl, hv, hfree hf⟩
  | completed event backend ht' =>
    cases hr'
    rw [ht] at ht'
    cases ht'
    exact Or.inl ⟨_, rfl⟩
  | strayed event backend ht' => rw [ht] at ht'; cases ht'

theorem Effect.retires_transfer (h : Effect f r t) (hr' : t.after.engine.lifecycle = .ready r') (hop : t.op = .service)
    (hv : r.ingressViolation = false) {mask : ChannelMask} (ht : r.transfer = .inFlight true mask)
    (hs : ∀ m, ¬t.Starts m) : r'.transfer = .idle := by
  cases h with
  | surfaced _ hv' => rw [hv] at hv'; cases hv'
  | waited _ ht' => rw [ht] at ht'; cases ht'
  | rested | refused | unsubmitted => cases hr'; rfl
  | started => exact absurd (List.mem_singleton_self _) (hs _)
  | foreign hh => cases hop; cases hh
  | _ => cases hop

end Step

/-! ## Runs -/

namespace Api.Driver

theorem Configured.records (hc : Configured setup handles d) (ops : List Op)
    (hr : (d.afterOps f ops).engine.lifecycle = .ready r) {complete : Bool} {mask : ChannelMask}
    (ht : r.transfer = .inFlight complete mask) :
    ∃ pre s post, d.trace f ops = pre ++ s :: post ∧ s.Starts mask.bits ∧ (∀ x ∈ post, ∀ m, ¬x.Starts m) ∧
      (complete = true ↔ ∃ x ∈ post, x.Completes) := by
  have ho := observed (f := f) hc.inv ops
  have hf : (d.afterOps f ops).engine.abstraction.flight = some (channels mask.bits, complete) := by
    rw [LedEngine.abstraction_ready hr]
    exact congrArg TransferState.flight ht
  obtain ⟨lpre, lpost, hsplit, hno, hcomp⟩ := flight_eq (hc.run ops) hf
  obtain ⟨pre, rest, htrace, rfl, hrest⟩ := List.map_eq_append_iff.mp hsplit
  obtain ⟨s, post, rfl, hs, rfl⟩ := List.map_eq_cons_iff.mp hrest
  rw [htrace] at ho
  refine ⟨pre, s, post, htrace, ((ho s (by simp)).started _).mpr hs, ?_, ?_⟩
  · intro x hx m hm
    exact hno x.label (List.mem_map_of_mem hx) ((ho x (by simp [hx])).starts_iff.mpr ⟨m, hm⟩)
  · rw [hcomp]
    simp only [List.mem_map, exists_exists_and_eq_and]
    exact exists_congr fun x => and_congr_right fun hx => (ho x (by simp [hx])).completes

/-- The transport is free exactly when every batch ever answered `Started` was completed. -/
theorem Configured.free_iff (hc : Configured setup handles d) (ops : List Op)
    (hr : (d.afterOps f ops).engine.lifecycle = .ready r) :
    r.transfer.Free ↔ ∀ pre s post, d.trace f ops = pre ++ s :: post → (∃ m, s.Starts m) → ∃ x ∈ post, x.Completes := by
  have ho := observed (f := f) hc.inv ops
  have hawait := awaiting_iff (hc.run (f := f) ops)
  rw [since_map, since_congr (χ := (¬·.Completes)) (θ := fun _ s => ∃ m, s.Starts m)] at hawait
  · rw [TransferState.free_iff, show r.transfer.flight = (d.afterOps f ops).engine.abstraction.flight by
      rw [LedEngine.abstraction_ready hr]; rfl]
    refine (not_congr hawait).trans (not_since.trans ?_)
    simp only [not_not]
  · intro t ht
    rw [(ho t ht).completes]
  · intro pre t post htrace
    exact (ho t (by rw [htrace]; simp)).starts_iff

theorem ownership (hc : Configured setup handles d) (ops : List Op) (op : Op) :
    ∃ r r', (d.afterOps f ops).engine.lifecycle = .ready r ∧
      ((d.afterOps f ops).transition f op).after.engine.lifecycle = .ready r' ∧
      Ownership (d.trace f ops) ((d.afterOps f ops).transition f op) r r' := by
  obtain ⟨r, hi, he⟩ := hc.reached (f := f) ops
  have hi' : Inv setup ((d.afterOps f ops).transition f op).before.engine r := by rwa [transition_before]
  have ho := (he op).observes hi'
  obtain ⟨r', hr'⟩ := (he op).inv hi'
  refine ⟨r, r', hi.lifecycle, hr'.lifecycle, ?_⟩
  refine
    { once := ho.submits_once
      by_service := fun m hm => ((he op).submits hm).1
      submits := fun hop => ?_
      records := fun complete mask ht => hc.records ops hi.lifecycle ht
      starts := fun m hm => (he op).started_transfer hr'.lifecycle hm
      keeps := fun complete mask ht => (he op).keeps_transfer hi'.lifecycle hr'.lifecycle ht
      retires := fun hop hv mask ht hs => (he op).retires_transfer hr'.lifecycle hop hv ht hs }
  rw [(he op).service_submits hop, hc.free_iff ops hi.lifecycle]

open TestSupport in
theorem ownership_pair :
    ((pair.1.afterOps .default rewriting).transition .default .service).Submits 1 ∧
      ∃ r', ((pair.1.afterOps .default rewriting).transition .default .service).after.engine.lifecycle = .ready r' ∧
        r'.transfer = .inFlight false ⟨1⟩ := by
  have hstarts : ((pair.1.afterOps .default rewriting).transition .default .service).Starts 1 := by
    unfold Transition.Starts
    decide +kernel
  obtain ⟨_, r', -, hr', ho⟩ := ownership pair_configured rewriting .service
  exact ⟨rewriting_submits, r', hr', ho.starts 1 hstarts⟩

end Api.Driver

end LedWireDriver
