/-
  LedWireDriver.Configure — configuration, from `Driver::new` to the finalised driver.

  `configure_prepared` on a driver that is still registering either does nothing but fail
  (its own checks), or makes one `configure_channels` call and commits exactly the setup
  (`configurePrepared_fits`, `configurePrepared_unfit`). `configuring_inv` is the invariant
  of every sequence of calls: until one returns `Ok` the table is empty; from then on the
  driver is the committed one and no call changes it.
-/

import LedWireDriver.Api.DriverProofs
import LedWireDriver.Run

namespace LedWireDriver

open Fallible Words Api Engine Pack

namespace Engine

def ChannelState.fresh (s : ChannelState) : ChannelState := { s with framePhase := .zero }

/-- What a configured engine keeps: the committed records up to their phases, and masks of
    registered channels. -/
structure Inv {B : Type} (setup : PreparedSetup) (e : LedEngine B) (r : ReadyState) : Prop where
  lifecycle : e.lifecycle = .ready r
  maxChannels_le : e.maxChannels ≤ driverMaxChannels
  fits : ∀ b ∈ setup.bindings.toList, Fits e.maxChannels e.maxBytesPerChannel b
  table : ∀ i, (e.channels.lookup i).map ChannelState.fresh = (bindingAt setup.bindings.toList i).map recordOf
  dirty : Registered e.channels e.maxChannels r.dirtyMask
  pending : Registered e.channels e.maxChannels r.pendingMask
  flight : ∀ complete mask, r.transfer = .inFlight complete mask →
    mask.bits ≠ 0 ∧ Registered e.channels e.maxChannels mask

/-- A record is the one of its binding, up to the phase. -/
theorem Inv.binding {B : Type} {setup : PreparedSetup} {e : LedEngine B} {r : ReadyState} (hi : Inv setup e r) {i : Nat}
    {record : ChannelState} (hl : e.channels.lookup i = some record) :
    ∃ b, bindingAt setup.bindings.toList i = some b ∧ record.fresh = recordOf b := by
  have h := hi.table i
  rw [hl, Option.map_some, eq_comm, Option.map_eq_some_iff] at h
  obtain ⟨b, hb, hrec⟩ := h
  exact ⟨b, hb, hrec.symm⟩

theorem Inv.record {B : Type} {setup : PreparedSetup} {e : LedEngine B} {r : ReadyState} (hi : Inv setup e r) {i : Nat}
    {record : ChannelState} (hl : e.channels.lookup i = some record) :
    i < e.maxChannels ∧ record.lenPixels < UInt16.size := by
  obtain ⟨b, hb, hrec⟩ := hi.binding hl
  obtain ⟨hmem, hid⟩ := bindingAt_mem hb
  have hlen : record.lenPixels = b.pixels.toNat := congrArg ChannelState.lenPixels hrec
  exact ⟨hid ▸ (hi.fits b hmem).1, hlen ▸ b.pixels.toNat_lt⟩

theorem Inv.index_lt {B : Type} {setup : PreparedSetup} {e : LedEngine B} {r : ReadyState} (hi : Inv setup e r) {i : Nat}
    {record : ChannelState} (hl : e.channels.lookup i = some record) : i < 32 :=
  lt_of_lt_of_le (hi.record hl).1 (le_trans hi.maxChannels_le (by decide : driverMaxChannels ≤ 32))

section

variable {B : Type} {setup : PreparedSetup} {e : LedEngine B} {r r' : ReadyState} {backend : B}

/-- A step that leaves the table alone and only names registered channels keeps `Inv`. -/
theorem Inv.set (hi : Inv setup e r) (hd : Registered e.channels e.maxChannels r'.dirtyMask)
    (hp : Registered e.channels e.maxChannels r'.pendingMask)
    (hf : ∀ complete mask, r'.transfer = .inFlight complete mask →
      mask.bits ≠ 0 ∧ Registered e.channels e.maxChannels mask) :
    Inv setup { e with backend, lifecycle := .ready r' } r' :=
  ⟨rfl, hi.maxChannels_le, hi.fits, hi.table, hd, hp, hf⟩

theorem Inv.withBackend (hi : Inv setup e r) : Inv setup { e with backend } r :=
  ⟨hi.lifecycle, hi.maxChannels_le, hi.fits, hi.table, hi.dirty, hi.pending, hi.flight⟩

/-- Accepting the pending batch keeps `Inv`: only the phases of the records move. -/
theorem Inv.accepted (hi : Inv setup e r) (hp : r.pendingMask.bits ≠ 0) :
    ∃ r', Inv setup (e.accepted r backend) r' := by
  have hreg : ∀ mask, Registered e.channels e.maxChannels mask →
      Registered (e.channels.advanced r.pendingMask) e.maxChannels mask := by
    intro mask h i hb
    obtain ⟨hlt, hs⟩ := h i hb
    rw [RegistrationTable.lookup_advanced]
    split <;> simp [hlt, hs]
  refine ⟨_, rfl, hi.maxChannels_le, hi.fits, fun i => ?_, hreg _ hi.dirty, registered_zero _ _, ?_⟩
  · rw [← hi.table]
    show ((e.channels.advanced r.pendingMask).lookup i).map _ = _
    rw [RegistrationTable.lookup_advanced]
    split
    · rw [Option.map_map]; rfl
    · rfl
  · intro complete mask h
    cases h
    exact ⟨hp, hreg _ hi.pending⟩

end

namespace LedEngine

/-- An engine waiting for its configuration. -/
structure Registering {B : Type} (e : LedEngine B) : Prop where
  lifecycle : e.lifecycle = .registering
  maxChannels_le : e.maxChannels ≤ driverMaxChannels
  table : e.channels = .new

variable {B : Type} [LedBackend B] {e : LedEngine B} {setup : PreparedSetup}

/-- The engine once `plan` is committed. -/
def configuredWith (e : LedEngine B) (plan : RegistrationPlan) (backend : B) : LedEngine B :=
  { e with backend, lifecycle := .ready .new, channels := ⟨plan.records⟩ }

theorem configurePrepared_fits (driverId : DriverId) (he : e.Registering)
    (hf : ∀ b ∈ setup.bindings.toList, Fits e.maxChannels e.maxBytesPerChannel b) :
    ∃ plan, plan.Stages driverId setup.bindings.toList ∧
      configurePrepared setup driverId e =
        match LedBackend.configureChannels (setup.bindings.toList.map specOf) e.backend with
        | (.ok _, backend) => .ok (.fromEntries plan.handles) (e.configuredWith plan backend)
        | (.error err, backend) => .error (.error (.backend err)) { e with backend } := by
  obtain ⟨plan, hplan, hs⟩ := RegistrationPlan.fromPreparedSetup_ok driverId hf
  have hreg : e.isRegistering = true := by simp [isRegistering, he.lifecycle]
  have hbuild : e.buildRegistrationPlan setup driverId = .ok plan := by
    simp [buildRegistrationPlan, hreg, hplan]
  refine ⟨plan, hs, ?_⟩
  unfold configurePrepared
  rw [bind_ok (get_apply _), hbuild, bind_ok (lift_ok _ _)]
  rcases hc : LedBackend.configureChannels (setup.bindings.toList.map specOf) e.backend with ⟨reply, backend⟩
  rw [← hs.specs] at hc
  cases reply with
  | error err =>
    refine bind_error ?_
    unfold applyRegistrationPlan
    rw [bind_ok (get_apply _), if_apply_neg (by simp [hreg]), bind_error (callBackend_error hc)]
  | ok =>
    have happly : applyRegistrationPlan plan e = .ok ⟨⟩ { e with backend, channels := ⟨plan.records⟩ } := by
      unfold applyRegistrationPlan
      rw [bind_ok (get_apply _), if_apply_neg (by simp [hreg]), bind_ok (callBackend_ok hc), bind_ok (get_apply _)]
      refine zoom_ok (t := { e with backend }) ?_
      rw [he.table]
      exact RegistrationPlan.commitPlan_ok hs setup.valid he.maxChannels_le fun b hb => (hf b hb).1
    rw [bind_ok happly]
    unfold enterReadyState
    have hnot : ¬({ e with backend, channels := ⟨plan.records⟩ } : LedEngine B).isReady = true := by
      simp [isReady, he.lifecycle]
    rw [bind_ok (x := do if (← get).isReady then pure () else modify fun e => { e with lifecycle := .ready .new })
      (a := ⟨⟩) (t := e.configuredWith plan backend)]
    · rfl
    · rw [bind_ok (get_apply _), if_apply_neg hnot]
      rfl

theorem configurePrepared_unfit (driverId : DriverId) (he : e.Registering)
    (hf : ¬∀ b ∈ setup.bindings.toList, Fits e.maxChannels e.maxBytesPerChannel b) :
    ∃ err, configurePrepared setup driverId e = .error (.error err) e ∧
      ∃ b ∈ setup.bindings.toList, Misfit e.maxChannels e.maxBytesPerChannel b err := by
  obtain ⟨err, hplan, herr⟩ := RegistrationPlan.fromPreparedSetup_error driverId hf
  have hreg : e.isRegistering = true := by simp [isRegistering, he.lifecycle]
  have hbuild : e.buildRegistrationPlan setup driverId = .error (.error err) := by
    simp [buildRegistrationPlan, hreg, hplan]
  refine ⟨err, ?_, herr⟩
  unfold configurePrepared
  rw [bind_ok (get_apply _), hbuild, bind_error (lift_error _ _)]

end LedEngine

end Engine

namespace Api.Driver

variable {B : Type} {d : Driver B .configuring} {setup : PreparedSetup} {handles : ConfiguredChannels}

/-! ## What a committed driver is -/

/-- The driver holds exactly the configuration `setup`, and `handles` are its handles. -/
structure Committed (setup : PreparedSetup) (handles : ConfiguredChannels) (d : Driver B .configuring) : Prop where
  lifecycle : d.engine.lifecycle = .ready .new
  maxChannels_le : d.engine.maxChannels ≤ driverMaxChannels
  fits : ∀ b ∈ setup.bindings.toList, Fits d.engine.maxChannels d.engine.maxBytesPerChannel b
  table : ∀ i, d.engine.channels.lookup i = (bindingAt setup.bindings.toList i).map recordOf
  handles : ∀ id : ChannelId, handles.get id =
    (bindingAt setup.bindings.toList id.asIndex).map fun b => ⟨d.driverId, b.logicalChannel⟩

theorem committed_of_stages {plan : RegistrationPlan} {backend : B} (he : d.engine.Registering)
    (hf : ∀ b ∈ setup.bindings.toList, Fits d.engine.maxChannels d.engine.maxBytesPerChannel b)
    (hs : plan.Stages d.driverId setup.bindings.toList) :
    Committed setup (.fromEntries plan.handles) { d with engine := d.engine.configuredWith plan backend } := by
  refine ⟨rfl, he.maxChannels_le, hf, hs.records, fun id => ?_⟩
  unfold ConfiguredChannels.get ConfiguredChannels.fromEntries
  by_cases hi : id.asIndex < driverMaxChannels
  · simp only [Vector.getElem?_eq_getElem hi, Option.join_some, hs.handles _ hi]
  · have hnone : bindingAt setup.bindings.toList id.asIndex = none := by
      cases hb : bindingAt setup.bindings.toList id.asIndex with
      | none => rfl
      | some b =>
        obtain ⟨hmem, hid⟩ := bindingAt_mem hb
        have := setup.valid.logical_lt b hmem
        omega
    rw [hnone, Vector.getElem?_eq_none (by omega)]
    rfl

theorem Committed.inv (h : Committed setup handles d) : Inv setup d.engine .new :=
  ⟨h.lifecycle, h.maxChannels_le, h.fits, fun i => by
    rw [h.table, Option.map_map]
    rfl, registered_zero _ _, registered_zero _ _, by simp [ReadyState.new]⟩

theorem Committed.isReady (h : Committed setup handles d) : d.engine.isReady = true := by
  simp [LedEngine.isReady, h.lifecycle]

variable [LedBackend B]

/-! ## One call -/

theorem configure_empty (h : setup.isEmpty = true) :
    configurePrepared setup d = .error (.error (expected .emptyConfiguration)) d := by
  unfold configurePrepared
  rw [if_apply_pos h, fail_apply]

theorem configure_again (hne : ¬setup.isEmpty = true) (h : d.engine.isConfigurationCommitted = true) :
    configurePrepared setup d = .error (.error (expected .alreadyConfigured)) d := by
  unfold configurePrepared
  rw [if_apply_neg hne, bind_ok (get_apply _), if_apply_pos h, fail_apply]

theorem configure_unfit (hne : ¬setup.isEmpty = true) (he : d.engine.Registering)
    (hf : ¬∀ b ∈ setup.bindings.toList, Fits d.engine.maxChannels d.engine.maxBytesPerChannel b) :
    configurePrepared setup d = .error (.error (expected .invalidBinding)) d := by
  obtain ⟨err, hrun, b, -, herr⟩ := LedEngine.configurePrepared_unfit d.driverId he hf
  unfold configurePrepared
  rw [if_apply_neg hne, bind_ok (get_apply _),
    if_apply_neg (by simp [LedEngine.isConfigurationCommitted, LedEngine.isReady, he.lifecycle]), onEngine_error hrun]
  cases herr <;> rfl

theorem configure_fits (hne : ¬setup.isEmpty = true) (he : d.engine.Registering)
    (hf : ∀ b ∈ setup.bindings.toList, Fits d.engine.maxChannels d.engine.maxBytesPerChannel b) :
    ∃ plan, plan.Stages d.driverId setup.bindings.toList ∧
      configurePrepared setup d =
        match LedBackend.configureChannels (setup.bindings.toList.map specOf) d.engine.backend with
        | (.ok _, backend) => .ok (.fromEntries plan.handles) { d with engine := d.engine.configuredWith plan backend }
        | (.error .invalidBinding, backend) => .error (.error (expected .invalidBinding)) (d.withBackend backend)
        | (.error (.transportFault _), backend) => .error (.error (expected .backend)) (d.withBackend backend) := by
  obtain ⟨plan, hs, hrun⟩ := LedEngine.configurePrepared_fits d.driverId he hf
  refine ⟨plan, hs, ?_⟩
  unfold configurePrepared
  rw [if_apply_neg hne, bind_ok (get_apply _),
    if_apply_neg (by simp [LedEngine.isConfigurationCommitted, LedEngine.isReady, he.lifecycle])]
  rcases hc : LedBackend.configureChannels (setup.bindings.toList.map specOf) d.engine.backend with ⟨reply, backend⟩
  rw [hc] at hrun
  cases reply with
  | ok => exact onEngine_ok hrun
  | error err =>
    rw [onEngine_error hrun]
    cases err <;> rfl

/-! ## Sequences of calls -/

theorem new_eq (driverId : DriverId) (backend : B) :
    Driver.new driverId backend =
      match LedBackend.init backend with
      | (.ok _, backend') =>
        .ok ⟨driverId, { LedEngine.new backend with backend := backend', lifecycle := .registering }⟩
      | (.error _, _) => .error (.error (expected .backend)) := by
  unfold Driver.new
  rcases hi : LedBackend.init backend with ⟨reply, backend'⟩
  cases reply with
  | ok =>
    have hinit : LedEngine.init (LedEngine.new backend) =
        .ok ⟨⟩ { LedEngine.new backend with backend := backend', lifecycle := .registering } := by
      unfold LedEngine.init
      rw [bind_ok (get_apply _)]
      exact bind_ok (LedEngine.callBackend_ok (e := LedEngine.new backend) hi)
    rw [mapErr_ok hinit]
  | error err =>
    have hinit : LedEngine.init (LedEngine.new backend) =
        .error (.error (.backend err)) { LedEngine.new backend with backend := backend' } := by
      unfold LedEngine.init
      rw [bind_ok (get_apply _)]
      exact bind_error (LedEngine.callBackend_error (e := LedEngine.new backend) hi)
    rw [mapErr_error hinit]
    rfl

theorem new_registering {driverId : DriverId} {backend : B} (h : Driver.new driverId backend = .ok d) :
    d.engine.Registering ∧ d.driverId = driverId ∧
      d.engine.maxChannels = min (LedBackend.capabilities backend).maxChannels driverMaxChannels ∧
      d.engine.maxBytesPerChannel = (LedBackend.capabilities backend).maxBytesPerChannel := by
  rw [new_eq] at h
  split at h
  · cases h
    exact ⟨⟨rfl, Nat.min_le_right _ _, rfl⟩, rfl, rfl, rfl⟩
  · cases h

/-- `Driver::new` fails only if `init` did. -/
theorem new_error {driverId : DriverId} {backend : B} {e : Fault (Projected DriverInitError)}
    (h : Driver.new driverId backend = .error e) :
    e = .error (expected .backend) ∧ ∃ err, (LedBackend.init backend).1 = .error err := by
  rw [new_eq] at h
  split at h
  · cases h
  · rename_i err _ hi
    cases h
    exact ⟨rfl, err, by rw [hi]⟩

/-- What a sequence of `configure_prepared` calls keeps. -/
def ConfiguringInv (d : Driver B .configuring) : Option (PreparedSetup × ConfiguredChannels) → Prop
  | none => d.engine.Registering
  | some (setup, handles) => Committed setup handles d

theorem configuring_inv {done : Option (PreparedSetup × ConfiguredChannels)} (h : Configuring d done) :
    ConfiguringInv d done := by
  induction h with
  | new hn => exact (new_registering hn).1
  | @failed d d' done setup e _ hc ih =>
    by_cases hne : setup.isEmpty = true
    · rw [configure_empty hne] at hc; cases hc; exact ih
    cases done with
    | some c => rw [configure_again hne ih.isReady] at hc; cases hc; exact ih
    | none =>
      by_cases hf : ∀ b ∈ setup.bindings.toList, Fits d.engine.maxChannels d.engine.maxBytesPerChannel b
      · obtain ⟨plan, -, hrun⟩ := configure_fits hne ih hf
        rw [hrun] at hc
        split at hc
        · cases hc
        · cases hc; exact ⟨ih.lifecycle, ih.maxChannels_le, ih.table⟩
        · cases hc; exact ⟨ih.lifecycle, ih.maxChannels_le, ih.table⟩
      · rw [configure_unfit hne ih hf] at hc; cases hc; exact ih
  | @configured d d' done setup handles _ hc ih =>
    by_cases hne : setup.isEmpty = true
    · rw [configure_empty hne] at hc; cases hc
    cases done with
    | some c => rw [configure_again hne ih.isReady] at hc; cases hc
    | none =>
      by_cases hf : ∀ b ∈ setup.bindings.toList, Fits d.engine.maxChannels d.engine.maxBytesPerChannel b
      · obtain ⟨plan, hs, hrun⟩ := configure_fits hne ih hf
        rw [hrun] at hc
        split at hc
        · cases hc; exact committed_of_stages ih hf hs
        · cases hc
        · cases hc
      · rw [configure_unfit hne ih hf] at hc; cases hc

end Api.Driver

end LedWireDriver
