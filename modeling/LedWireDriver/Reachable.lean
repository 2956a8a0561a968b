/-
  LedWireDriver.Reachable — what holds of the engine in every state a run can reach.

  `Sound` is the invariant of a configured engine, in terms of the setup it was configured
  with: its masks name registered channels, a batch in flight is not empty, a latched
  violation finds the transport idle, and the records are the bindings. It is `Inv` of
  `LedWireDriver.Configure` with what the history adds (`stray_free`).
  `Unfailing` and `Registers` say what follows: no lookup, shift or length computation of
  the engine takes its error exit, and nothing panics (`reachable_sound`).
-/

import LedWireDriver.Ingress

namespace LedWireDriver

open Fallible Words History Batching Api Engine Pack

variable {B : Type} {f : Features}

/-! ## The invariant -/

namespace Engine

/-- What configuration with `setup` establishes and every call keeps. -/
structure Sound (setup : PreparedSetup) (e : LedEngine B) (r : ReadyState) : Prop where
  lifecycle : e.lifecycle = .ready r
  maxChannels_le : e.maxChannels ≤ driverMaxChannels
  dirty : Registered e.channels e.maxChannels r.dirtyMask
  pending : Registered e.channels e.maxChannels r.pendingMask
  submitted : ∀ complete mask, r.transfer = .inFlight complete mask →
    mask.bits ≠ 0 ∧ Registered e.channels e.maxChannels mask
  idle : r.ingressViolation = true → r.transfer = .idle
  registered : ∀ i, (e.channels.lookup i).isSome = true ↔ ∃ b ∈ setup.bindings.toList, b.logicalChannel.asIndex = i
  record : ∀ i record, e.channels.lookup i = some record → ∃ b ∈ setup.bindings.toList,
    b.logicalChannel.asIndex = i ∧ record.backendChannel = b.backendChannel ∧ record.layout = b.layout ∧
      record.lenPixels = b.pixels.toNat
  distinct : ∀ i j record record', e.channels.lookup i = some record → e.channels.lookup j = some record' →
    record.backendChannel = record'.backendChannel → i = j
  length : ∀ i record, e.channels.lookup i = some record →
    1 ≤ record.lenPixels ∧ ∀ maxBytes ∈ e.maxBytesPerChannel, 3 * record.lenPixels ≤ maxBytes.toNat

variable {setup : PreparedSetup} {e : LedEngine B} {r : ReadyState}

theorem Inv.sound (hi : Inv setup e r) (hidle : r.ingressViolation = true → r.transfer = .idle) : Sound setup e r := by
  have hrecord : ∀ i record, e.channels.lookup i = some record → ∃ b ∈ setup.bindings.toList,
      b.logicalChannel.asIndex = i ∧ record.backendChannel = b.backendChannel ∧ record.layout = b.layout ∧
        record.lenPixels = b.pixels.toNat := by
    intro i record hl
    obtain ⟨b, hb, hrec⟩ := hi.binding hl
    obtain ⟨hmem, hid⟩ := bindingAt_mem hb
    exact ⟨b, hmem, hid, congrArg ChannelState.backendChannel hrec, congrArg ChannelState.layout hrec,
      congrArg ChannelState.lenPixels hrec⟩
  refine ⟨hi.lifecycle, hi.maxChannels_le, hi.dirty, hi.pending, hi.flight, hidle, fun i => ?_, hrecord, ?_, ?_⟩
  · rw [← List.mem_map, ← bindingAt_isSome, ← Option.isSome_map (f := ChannelState.fresh), hi.table, Option.isSome_map]
  · intro i j record record' hl hl' hsame
    obtain ⟨b, hmem, rfl, hb, -⟩ := hrecord _ _ hl
    obtain ⟨b', hmem', rfl, hb', -⟩ := hrecord _ _ hl'
    rw [hb, hb'] at hsame
    rw [List.inj_on_of_nodup_map setup.valid.backend_nodup hmem hmem' hsame]
  · intro i record hl
    obtain ⟨b, hmem, -, -, -, hlen⟩ := hrecord _ _ hl
    have hpos : b.pixels.toNat ≠ 0 := fun h => setup.valid.pixels_ne b hmem (by rwa [← UInt16.toNat_inj])
    rw [hlen]
    exact ⟨by omega, (hi.fits b hmem).2⟩

end Engine

variable [LedBackend B]

/-- In a run, nothing is in flight while a violation is latched. -/
theorem Api.Driver.Configured.idle {setup : PreparedSetup} {handles : ConfiguredChannels}
    {d : Driver (Recorder B) .ready} {r : ReadyState} (hc : Configured setup handles d) (ops : List Op)
    (hi : Inv setup (d.afterOps f ops).engine r) (hv : r.ingressViolation = true) : r.transfer = .idle := by
  have hfree := stray_free (hc.run (f := f) ops)
  rw [LedEngine.abstraction_ready hi.lifecycle] at hfree
  have hflight : r.transfer.flight = none := hfree hv
  cases ht : r.transfer with
  | idle => rfl
  | inFlight complete mask =>
    rw [ht] at hflight
    cases hflight

/-! ## Registration -/

/-- What stops a registration: a binding beyond the backend's limits, or the backend. -/
inductive RegistrationFault (e : LedEngine B) (setup : PreparedSetup) : Fault EngineError → Prop
  | misfit {b : PreparedBinding} {err : EngineError} : b ∈ setup.bindings.toList →
      Misfit e.maxChannels e.maxBytesPerChannel b err → RegistrationFault e setup (.error err)
  | backend (err : BackendError) : RegistrationFault e setup (.error (.backend err))

/-- Registering `setup` never panics, and stops for no reason of the engine's own. -/
structure Registers (c : Driver B .configuring) (setup : PreparedSetup) : Prop where
  fault : c.engine.isConfigurationCommitted = false → ∀ fault e,
    LedEngine.configurePrepared setup c.driverId c.engine = .error fault e → RegistrationFault c.engine setup fault
  panics : ∀ fault c', Driver.configurePrepared setup c = .error fault c' → fault ≠ .panic
  wireBytes : ∀ b ∈ setup.bindings.toList, ∃ bytes,
    checkedMul b.pixels.toUInt32 3 = some bytes ∧ bytes.toNat = 3 * b.pixels.toNat

section Registration

variable {e : LedEngine B} {setup : PreparedSetup}

theorem Engine.LedEngine.configurePrepared_fault {driverId : DriverId} {fault : Fault EngineError} {e' : LedEngine B}
    (he : e.Registering) (h : configurePrepared setup driverId e = .error fault e') :
    RegistrationFault e setup fault := by
  by_cases hf : ∀ b ∈ setup.bindings.toList, Fits e.maxChannels e.maxBytesPerChannel b
  · obtain ⟨plan, -, hrun⟩ := configurePrepared_fits driverId he hf
    rw [hrun] at h
    split at h
    · cases h
    · cases h
      exact .backend _
  · obtain ⟨err, hrun, b, hb, hm⟩ := configurePrepared_unfit driverId he hf
    cases h.symm.trans hrun
    exact .misfit hb hm

theorem Api.Driver.Configuring.registers {c : Driver B .configuring} {done : Option (PreparedSetup × ConfiguredChannels)}
    (hc : Configuring c done) (setup : PreparedSetup) : Registers c setup := by
  have hinv := configuring_inv hc
  have hregistering : c.engine.isConfigurationCommitted = false → c.engine.Registering := by
    intro h
    cases done with
    | none => exact hinv
    | some done => cases h.symm.trans hinv.isReady
  refine ⟨fun h fault e => LedEngine.configurePrepared_fault (hregistering h), ?_, fun b _ =>
    ⟨_, PreparedSetup.wireBytes_some _, wireBytes_toNat _⟩⟩
  intro fault c' h hp
  subst hp
  by_cases hne : setup.isEmpty = true
  · cases h.symm.trans (configure_empty hne)
  cases hcommitted : c.engine.isConfigurationCommitted with
  | true => cases h.symm.trans (configure_again hne hcommitted)
  | false =>
    have he := hregistering hcommitted
    by_cases hf : ∀ b ∈ setup.bindings.toList, Fits c.engine.maxChannels c.engine.maxBytesPerChannel b
    · obtain ⟨plan, -, hrun⟩ := configure_fits hne he hf
      rw [hrun] at h
      split at h <;> cases h
    · cases h.symm.trans (configure_unfit hne he hf)

end Registration

/-! ## Runtime calls -/

/-- How a runtime call of a configured driver fails: it surfaces a violation, or the source
    or the backend is at fault. -/
def RuntimeFault (fault : Fault EngineError) : Prop := fault = latchedFault ∨ WriteFault fault

/-- The handle a call goes through was issued with the others. -/
def Op.Issued (handles : ConfiguredChannels) (op : Op) : Prop :=
  ∀ channel, op.handle? = some channel → handles.get channel.id = some channel

/-- No exit of the engine's own is taken from here. -/
structure Unfailing (f : Features) (handles : ConfiguredChannels) (d : Driver (Recorder B) .ready) (r : ReadyState) :
    Prop where
  /-- Submission offers the whole pending batch. -/
  registered : ∃ mask, d.engine.channels.registeredChannelMask d.engine.maxChannels = .ok mask ∧
    r.pendingMask.bits &&& mask.bits = r.pendingMask.bits
  shift : ∀ i < d.engine.maxChannels, i < ChannelMask.capacityBits
  /-- The record, the bit and the wire length behind an issued handle. -/
  index : ∀ id channel, handles.get id = some channel → ∃ record bytes,
    d.engine.channels.record channel.asIndex d.engine.maxChannels = .ok record ∧
    RegistrationTable.maskBit channel.asIndex = .ok ⟨bit channel.asIndex⟩ ∧
    (∀ dirty, d.engine.channels.markWritten channel.asIndex d.engine.maxChannels dirty =
      .ok ⟨dirty.bits ||| bit channel.asIndex⟩) ∧
    checkedMul (UInt32.ofNat record.lenPixels) 3 = some bytes ∧ bytes.toNat = 3 * record.lenPixels
  /-- Advancing the phases of the batch the next submission offers. -/
  advance : ∃ table, LedEngine.advanceSubmitted r.pendingMask d.engine.maxChannels d.engine.channels = .ok ⟨⟩ table
  fault : ∀ (op : Op) fault e, op.Issued handles → op.program f d.engine = .error fault e → RuntimeFault fault
  /-- A handle of another driver does not reach the engine. -/
  foreign : ∀ op channel, op.handle? = some channel → channel.owner ≠ d.driverId →
    (d.transition f op).after = d ∧ (d.transition f op).calls = []
  panics : ∀ op, (d.transition f op).result ≠ .error .panic

theorem Effect.panics {r : ReadyState} {t : Transition B} (h : Effect f r t) : t.result ≠ .error .panic := by
  intro hp
  cases h <;> cases hp

namespace Api.Driver

variable {setup : PreparedSetup} {handles : ConfiguredChannels} {d : Driver (Recorder B) .ready} {r : ReadyState}

theorem program_fault (hi : Inv setup d.engine r) (op : Op) {fault : Fault EngineError} {e : LedEngine (Recorder B)}
    (hreg : ∀ channel, op.handle? = some channel → (d.engine.channels.lookup channel.asIndex).isSome = true)
    (h : op.program f d.engine = .error fault e) : RuntimeFault fault := by
  have hr := hi.lifecycle
  cases op with
  | writeRgb48 channel pixels =>
    obtain ⟨record, hl⟩ := Option.isSome_iff_exists.mp (hreg channel rfl)
    cases hv : r.ingressViolation with
    | true =>
      cases h.symm.trans (bind_error (bind_error (LedEngine.acquire_latched hr hv)))
      exact Or.inl rfl
    | false => exact Or.inr (write_fault hi hv hl h)
  | commit =>
    cases hv : r.ingressViolation with
    | true =>
      cases h.symm.trans (LedEngine.submitDirty_latched hr hv)
      exact Or.inl rfl
    | false => cases h.symm.trans (LedEngine.submitDirty_clear hr hv)
  | service =>
    cases hv : r.ingressViolation with
    | true =>
      cases h.symm.trans (LedEngine.service_latched hr hv)
      exact Or.inl rfl
    | false =>
      by_cases ht : r.transfer.Free
      case neg =>
        unfold TransferState.Free at ht
        push Not at ht
        obtain ⟨mask, ht⟩ := ht
        cases h.symm.trans (LedEngine.service_waiting hr hv ht)
      by_cases hp : r.pendingMask.bits = 0
      · cases h.symm.trans (LedEngine.service_rest hr hv ht hp)
      · have hs := h.symm.trans (LedEngine.service_offer hr hv ht hp hi.maxChannels_le hi.pending)
        split at hs
        · cases hs
          exact Or.inr (.backend _)
        · cases hs
        · cases hs
  | channel | onBackendSignal | onBackendEvent => cases h

theorem Configured.unfailing (hc : Configured setup handles d) (ops : List Op)
    (hi : Inv setup (d.afterOps f ops).engine r) : Unfailing f handles (d.afterOps f ops) r := by
  have hlookup : ∀ id channel, handles.get id = some channel → channel.id = id ∧
      ∃ record, (d.afterOps f ops).engine.channels.lookup channel.asIndex = some record := by
    intro id channel hh
    rw [hc.handle, Option.map_eq_some_iff] at hh
    obtain ⟨b, hb, rfl⟩ := hh
    obtain ⟨-, rfl⟩ := bindingAt_id hb
    have htab := hi.table b.logicalChannel.asIndex
    rw [hb, Option.map_some, Option.map_eq_some_iff] at htab
    exact ⟨rfl, htab.imp fun _ h => h.1⟩
  have hm := hi.maxChannels_le
  obtain ⟨mask, hmask, hbits⟩ := RegistrationTable.registeredChannelMask_ok (d.afterOps f ops).engine.channels hm
  refine ⟨⟨mask, hmask, LedEngine.and_registered hi.pending hbits⟩, fun i hlt => ?_, ?_,
    ⟨_, LedEngine.advanceSubmitted_ok hm hi.pending⟩, ?_, ?_, ?_⟩
  · show i < 32
    unfold driverMaxChannels at hm
    omega
  · intro id channel hh
    obtain ⟨-, record, hl⟩ := hlookup id channel hh
    obtain ⟨hlt, hlen⟩ := hi.record hl
    obtain ⟨bytes, hbytes⟩ := LedEngine.expected_wire_bytes hlen
    exact ⟨record, bytes, RegistrationTable.record_ok hlt hm hl, RegistrationTable.maskBit_ok (hi.index_lt hl),
      fun dirty => RegistrationTable.markWritten_ok hlt hm hl, hbytes⟩
  · intro op fault e hissued
    refine program_fault hi op fun channel hop => ?_
    obtain ⟨-, record, hl⟩ := hlookup _ _ (hissued channel hop)
    rw [hl]
    rfl
  · intro op channel hop hne
    cases op <;> cases hop
    all_goals
      rw [transition_error _ (bind_error (channel_foreign hne)) (List.append_nil _).symm]
      exact ⟨rfl, rfl⟩
  · intro op
    exact (effect (f := f) hi op).panics

theorem reachable_sound (f : Features) :
    (∀ (c : Driver (Recorder B) .configuring) done setup, Configuring c done → Registers c setup) ∧
    ∀ (d : Driver (Recorder B) .ready) setup handles, Configured setup handles d → ∀ ops,
      ∃ r, Sound setup (d.afterOps f ops).engine r ∧ Unfailing f handles (d.afterOps f ops) r := by
  refine ⟨fun c done setup hc => hc.registers setup, fun d setup handles hc ops => ?_⟩
  obtain ⟨r, hi, -⟩ := hc.reached (f := f) ops
  exact ⟨r, hi.sound (hc.idle ops hi), hc.unfailing ops hi⟩

open TestSupport in
theorem reachable_sound_pair :
    Registers (fresh ⟨1⟩) pairSetup ∧ ∃ r, Sound pairSetup (pair.1.afterOps bayer lagging).engine r ∧
      Unfailing bayer pair.2 (pair.1.afterOps bayer lagging) r :=
  ⟨(reachable_sound bayer).1 (fresh ⟨1⟩) none pairSetup (fresh_configuring _),
    (reachable_sound bayer).2 pair.1 pairSetup pair.2 pair_configured lagging⟩

end Api.Driver

end LedWireDriver
