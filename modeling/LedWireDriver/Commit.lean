/-
  LedWireDriver.Commit — which writes a submitted batch carries.

  `dirty_iff` and `pending_iff` read the two masks of any reached state off the history of
  calls. A service submits exactly the pending mask, so that a channel is submitted if and
  only if it was written, committed and not accepted since (`submits_iff_unsent`); a channel
  rewritten between its commit and its acceptance goes out with the later write in its
  buffer (`submits_dirty_iff`).
-/

import LedWireDriver.Refinement
import LedWireDriver.TestSupport

namespace LedWireDriver

open Words History Batching Api Engine Pack

variable {B : Type} [LedBackend B] {f : Features}

/-- A batch is offered by a service only, and is the pending mask. -/
theorem Effect.submits {r : ReadyState} {t : Transition B} {m : UInt32} (h : Effect f r t) (hs : t.Submits m) :
    t.op = .service ∧ r.ingressViolation = false ∧ r.transfer.Free ∧ m = r.pendingMask.bits ∧ m ≠ 0 := by
  obtain ⟨reply, hs⟩ := hs
  cases h with
  | unwritten _ _ _ _ hw => exact absurd hs (hw.no_submit.1 m reply)
  | wrote _ _ _ _ hw => exact absurd hs (hw.no_submit.1 m reply)
  | refused _ hv ht hp | unsubmitted _ _ hv ht hp | started _ hv ht hp =>
    obtain ⟨rfl, -⟩ : m = r.pendingMask.bits ∧ _ := by simpa using hs
    exact ⟨rfl, hv, ht, rfl, hp⟩
  | _ => simp at hs

namespace Api.Driver

variable {setup : PreparedSetup} {handles : ConfiguredChannels} {d : Driver (Recorder B) .ready} {r : ReadyState}

theorem Configured.dirty_iff (hc : Configured setup handles d) (ops : List Op)
    (hr : (d.afterOps f ops).engine.lifecycle = .ready r) (c : ChannelId) :
    has r.dirtyMask.bits c.asIndex = true ↔ Transition.Uncommitted c (d.trace f ops) := by
  rw [← uncommitted_iff (observed hc.inv ops), ← mem_dirty (hc.run ops), LedEngine.abstraction_ready hr]
  rfl

theorem Configured.pending_iff (hc : Configured setup handles d) (ops : List Op)
    (hr : (d.afterOps f ops).engine.lifecycle = .ready r) (c : ChannelId) :
    has r.pendingMask.bits c.asIndex = true ↔ Transition.Unsent c (d.trace f ops) := by
  rw [← unsent_iff (observed hc.inv ops), ← mem_pending (hc.run ops), LedEngine.abstraction_ready hr]
  rfl

/-- No committed update is lost or submitted twice. -/
theorem submits_iff_unsent (hc : Configured setup handles d) (ops : List Op) (op : Op) {m : UInt32}
    (hs : ((d.afterOps f ops).transition f op).Submits m) (c : ChannelId) :
    has m c.asIndex = true ↔
      ∃ pre w mid k post, d.trace f ops = pre ++ w :: mid ++ k :: post ∧ w.WritesOk c ∧
        (∀ t ∈ mid, ¬t.CommitsOk) ∧ k.CommitsOk ∧ ∀ t ∈ post, ∀ m, ¬t.Starts m := by
  obtain ⟨r, hi, he⟩ := hc.reached (f := f) ops
  obtain ⟨-, -, -, rfl, -⟩ := (he op).submits hs
  exact hc.pending_iff ops hi.lifecycle c

open TestSupport in
theorem submits_iff_unsent_pair :
    ((pair.1.afterOps .default rewriting).transition .default .service).Submits 1 ∧
      ∃ pre w mid k post, pair.1.trace .default rewriting = pre ++ w :: mid ++ k :: post ∧ w.WritesOk ⟨0⟩ ∧
        (∀ t ∈ mid, ¬t.CommitsOk) ∧ k.CommitsOk ∧ ∀ t ∈ post, ∀ m, ¬t.Starts m :=
  ⟨rewriting_submits, (submits_iff_unsent pair_configured rewriting .service rewriting_submits ⟨0⟩).mp (by decide)⟩

/-! ## Writes between a commit and its batch -/

/-- `c` was written while it was committed and not accepted, with no `Ok` commit and no
    `Started` since. -/
def Rewritten (c : ChannelId) (ts : List (Transition B)) : Prop :=
  ∃ pre w post, ts = pre ++ w :: post ∧ w.WritesOk c ∧ Transition.Unsent c pre ∧
    ∀ t ∈ post, ¬t.CommitsOk ∧ ∀ m, ¬t.Starts m

omit [LedBackend B] in
theorem rewritten_history {ts : List (Transition B)} {c : ChannelId} (ho : ∀ t ∈ ts, Observes t t.label) :
    Since (fun e => ¬e.Commits ∧ ¬e.Starts) (fun pre e => e.Writes c ∧ Batching.Unsent c pre) (ts.map Transition.label) ↔
      Rewritten c ts := by
  rw [since_map, since_congr (χ := fun t => ¬t.CommitsOk ∧ ∀ m, ¬t.Starts m)
    (θ := fun pre t => t.WritesOk c ∧ Transition.Unsent c pre)]
  · simp only [Since, Rewritten, and_assoc]
  · intro t ht
    rw [(ho t ht).commits, (ho t ht).starts_iff, not_exists]
  · intro pre t post hx
    subst hx
    rw [(ho t (by simp)).writes, unsent_iff fun x hx => ho x (by simp [hx])]

/-- The dirty channels are those with an uncommitted write, at every point of a run; and a
    submitted channel is dirty exactly when it was rewritten after the commit that the batch
    carries. -/
theorem submits_dirty_iff (hc : Configured setup handles d) (ops : List Op)
    (hr : (d.afterOps f ops).engine.lifecycle = .ready r) :
    (∀ c : ChannelId, has r.dirtyMask.bits c.asIndex = true ↔ Transition.Uncommitted c (d.trace f ops)) ∧
      ∀ (op : Op) (m : UInt32), ((d.afterOps f ops).transition f op).Submits m →
        (∀ c : ChannelId, has m c.asIndex = true ∧ has r.dirtyMask.bits c.asIndex = true ↔
          Rewritten c (d.trace f ops)) ∧
        (m &&& r.dirtyMask.bits = 0 ↔ ∀ c, ¬Rewritten c (d.trace f ops)) := by
  obtain ⟨r', hi, he⟩ := hc.reached (f := f) ops
  obtain rfl : r' = r := by rw [hi.lifecycle] at hr; exact EngineLifecycle.ready.inj hr
  refine ⟨hc.dirty_iff ops hr, fun op m hs => ?_⟩
  obtain ⟨-, -, -, rfl, -⟩ := (he op).submits hs
  have hiff : ∀ c : ChannelId, has r'.pendingMask.bits c.asIndex = true ∧ has r'.dirtyMask.bits c.asIndex = true ↔
      Rewritten c (d.trace f ops) := by
    intro c
    rw [← rewritten_history (observed hc.inv ops), ← rewritten_iff (hc.run ops) c, LedEngine.abstraction_ready hr]
    rfl
  refine ⟨hiff, ?_⟩
  rw [← channels_eq_empty, Set.eq_empty_iff_forall_notMem]
  refine forall_congr' fun c => ?_
  rw [← hiff c, mem_channels, has_and, Bool.and_eq_true]

open TestSupport in
theorem submits_dirty_iff_pair :
    Transition.Uncommitted ⟨0⟩ (pair.1.trace .default rewriting) ∧ Rewritten ⟨0⟩ (pair.1.trace .default rewriting) := by
  obtain ⟨hdirty, hsubmits⟩ := submits_dirty_iff pair_configured rewriting rewriting_ready
  exact ⟨(hdirty ⟨0⟩).mp (by decide), ((hsubmits .service 1 rewriting_submits).1 ⟨0⟩).mp (by decide)⟩

open TestSupport in
/-- Written, committed and written again: the batch goes out while channel 0 is dirty. -/
theorem pair_not_isolated :
    Configured pairSetup pair.2 pair.1 ∧
      (pair.1.afterOps .default rewriting).engine.lifecycle = .ready ⟨.idle, ⟨1⟩, ⟨1⟩, false⟩ ∧
      ((pair.1.afterOps .default rewriting).transition .default .service).Submits 1 ∧
      Transition.Uncommitted ⟨0⟩ (pair.1.trace .default rewriting) :=
  ⟨pair_configured, rewriting_ready, rewriting_submits, (pair_configured.dirty_iff _ rewriting_ready ⟨0⟩).mp (by decide)⟩

end Api.Driver

end LedWireDriver
