/-
  LedWireDriver.Atomicity — a write happens whole or not at all.

  `write_rgb48` is two engine calls around the backend's publish. Once the publish returned
  `Ok` the second call cannot fail, and the channel's dirty bit is set; a write that fails
  published nothing, leaves the driver as it was up to the violation it may have surfaced,
  and gives every slice it looked at back unchanged unless the publish itself failed
  (`write_atomic`).
-/

import LedWireDriver.Routing

namespace LedWireDriver

open Words Api Engine Pack

variable {B : Type} [LedBackend B] {f : Features}

/-! ## What the calls of a write say -/

section Calls

variable {record : ChannelState} {pixels : List Rgb48} {reply : Except RuntimeError Unit} {calls : List BackendCall}

/-- A write returns `Ok` exactly when its lease's publish did. -/
theorem WriteCalls.published_iff (h : WriteCalls B f record pixels reply calls) :
    (∃ bytes, .publish bytes (.ok ()) ∈ calls) ↔ reply = .ok () := by
  cases h <;> simp

/-- Without a publish, every slice went back as it was. -/
theorem WriteCalls.untouched (h : WriteCalls B f record pixels reply calls)
    (hp : ∀ bytes start, .publish bytes start ∉ calls) {exposed written : List UInt8}
    (hm : .bytesMut exposed written ∈ calls) : written = exposed := by
  cases h with
  | failed | busy | wrongChannel => simp at hm
  | wrongLength =>
    simp only [List.mem_cons, reduceCtorEq, List.not_mem_nil, false_or, or_false, BackendCall.bytesMut.injEq] at hm
    rw [hm.1, hm.2]
  | mismatch =>
    simp only [List.mem_cons, reduceCtorEq, List.not_mem_nil, false_or, or_false, BackendCall.bytesMut.injEq] at hm
    rcases hm with hm | hm <;> rw [hm.1, hm.2]
  | unpublished | published => simp at hp

end Calls

/-! ## One write -/

/-- The write `t` through an own handle, from the ready state `r`. -/
structure Atomic (channel : Channel) (r : ReadyState) (t : Transition B) : Prop where
  published : ∀ bytes, .publish bytes (.ok ()) ∈ t.calls →
    t.result = .ok () ∧ t.after = (t.before.withBackend t.after.engine.backend).withReady
      { r with dirtyMask := ⟨r.dirtyMask.bits ||| bit channel.asIndex⟩ }
  failed : ∀ e, t.result = .error e → (∀ bytes, .publish bytes (.ok ()) ∉ t.calls) ∧
    t.after = (t.before.withBackend t.after.engine.backend).withReady { r with ingressViolation := false }
  untouched : ∀ e, t.result = .error e → (∀ bytes err, .publish bytes (.error err) ∉ t.calls) →
    ∀ exposed written, .bytesMut exposed written ∈ t.calls → written = exposed

theorem Effect.atomic {setup : PreparedSetup} {r : ReadyState} {t : Transition B} {channel : Channel}
    {pixels : List Rgb48} (h : Effect f r t) (hi : Inv setup t.before.engine r) (hop : t.op = .writeRgb48 channel pixels)
    (ho : channel.owner = t.before.driverId) : Atomic channel r t := by
  -- a write that finds no violation latched has none to clear
  have hclear : r.ingressViolation = false → ∀ backend, (t.before.withBackend backend).withReady
      { r with ingressViolation := false } = t.before.withBackend backend := by
    intro hv backend
    have hr : { r with ingressViolation := false } = r := by rw [← hv]
    rw [hr]
    show (⟨_, LedEngine.withReady { t.before.engine with backend } r⟩ : Driver (Recorder B) .ready) = _
    rw [LedEngine.withReady_self (e := { t.before.engine with backend }) hi.lifecycle]
    rfl
  cases h with
  | foreign hh hne =>
    cases hop
    cases hh
    exact absurd ho hne
  | surfaced hrt hv =>
    refine ⟨by simp, fun e _ => ⟨by simp, rfl⟩, by simp⟩
  | unregistered _ hv =>
    refine ⟨by simp, fun e _ => ⟨by simp, (hclear hv _).symm⟩, by simp⟩
  | @unwritten d _ _ record err calls backend _ hv _ hw =>
    have hnone : ∀ bytes, BackendCall.publish bytes (.ok ()) ∉ calls := by
      intro bytes hm
      cases hw.published_iff.mp ⟨bytes, hm⟩
    refine ⟨fun bytes hm => absurd hm (hnone bytes), fun e _ => ⟨hnone, (hclear hv backend).symm⟩, ?_⟩
    intro e _ herr exposed written
    refine hw.untouched fun bytes start => ?_
    cases start with
    | ok => exact hnone bytes
    | error err => exact herr bytes err
  | wrote backend =>
    cases hop
    refine ⟨fun bytes _ => ⟨rfl, rfl⟩, ?_, ?_⟩
    · intro e he
      cases he
    · intro e he
      cases he
  | _ => cases hop

namespace Api.Driver

variable {setup : PreparedSetup} {handles : ConfiguredChannels} {d : Driver (Recorder B) .ready}

theorem write_atomic (hc : Configured setup handles d) (ops : List Op) (channel : Channel) (pixels : List Rgb48)
    (ho : channel.owner = d.driverId) : ∃ r, (d.afterOps f ops).engine.lifecycle = .ready r ∧
      Atomic channel r ((d.afterOps f ops).transition f (.writeRgb48 channel pixels)) := by
  obtain ⟨r, hi, he⟩ := hc.reached (f := f) ops
  refine ⟨r, hi.lifecycle, (he (.writeRgb48 channel pixels)).atomic (by rwa [transition_before]) (transition_op _) ?_⟩
  rw [transition_before, hc.driverId, ho]

open TestSupport in
/-- Channel 1 joins the dirty channel 0. -/
theorem write_atomic_pair :
    .publish [0, 0, 1, 0, 255, 0] (.ok ()) ∈
        ((pair.1.afterOps bayer rewriting).transition bayer (.writeRgb48 (handle 1) frame)).calls ∧
      ((pair.1.afterOps bayer rewriting).transition bayer (.writeRgb48 (handle 1) frame)).result = .ok () ∧
      ((pair.1.afterOps bayer rewriting).transition bayer (.writeRgb48 (handle 1) frame)).after.engine.lifecycle =
        .ready ⟨.idle, ⟨3⟩, ⟨1⟩, false⟩ := by
  have hready : (pair.1.afterOps bayer rewriting).engine.lifecycle = .ready ⟨.idle, ⟨1⟩, ⟨1⟩, false⟩ := by
    decide +kernel
  have hpublish : .publish [0, 0, 1, 0, 255, 0] (.ok ()) ∈
      ((pair.1.afterOps bayer rewriting).transition bayer (.writeRgb48 (handle 1) frame)).calls := by decide +kernel
  obtain ⟨r, hr, ha⟩ := write_atomic (f := bayer) pair_configured rewriting (handle 1) frame (by decide +kernel)
  cases hready.symm.trans hr
  obtain ⟨hresult, hafter⟩ := ha.published _ hpublish
  exact ⟨hpublish, hresult, by rw [hafter]; rfl⟩

end Api.Driver

end LedWireDriver
