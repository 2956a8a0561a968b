/-
  LedWireDriver.Effect — everything one call on a configured driver can do.

  `WriteCalls` lists the backend calls of a channel write with what it returns, and `Effect`
  the transitions of a driver whose ready state is known: the result, the calls the backend
  receives and the driver afterwards, one constructor for each way through the engine's
  guards. `effect` says that they are all; what a run keeps is derived from it and not from
  the engine's code. The lemmas of the last section invert it: given the operation and the
  guards that decide it, what the call returns, asks and leaves.
-/

import LedWireDriver.Configure

namespace LedWireDriver

open Fallible Words Api Engine Pack

variable {B : Type} [LedBackend B] {f : Features}

/-! ## What the recorder adds -/

/-- `bytes_mut` of one lease exposes the same buffer each time. -/
def StableLeases (B : Type) [LedBackend B] : Prop :=
  ∀ (lease : WriteLease B) (bytes : List UInt8), bytes.length = (BackendWriteLease.bytesMut lease).1.length →
    (BackendWriteLease.bytesMut (fill lease bytes)).1 = bytes

theorem StableLeases.recorder (h : StableLeases B) : StableLeases (Recorder B) :=
  fun lease bytes hb => h lease.inner bytes hb

theorem StableLeases.target (h : StableLeases B) (lease : WriteLease B) :
    target lease = (BackendWriteLease.bytesMut lease).1 :=
  h lease _ rfl

namespace Recorder

variable {r r' : Recorder B} {channel : BackendChannelId}

theorem acquire_failed {err : BackendError} (h : LedBackend.acquireWriteTarget channel r = (.error err, r')) :
    r'.calls = r.calls ++ [.acquireWriteTarget channel (.error err)] := by
  simp only [LedBackend.acquireWriteTarget] at h
  split at h <;> cases h
  rfl

theorem acquire_busy (h : LedBackend.acquireWriteTarget channel r = (.ok .busy, r')) :
    r'.calls = r.calls ++ [.acquireWriteTarget channel (.ok .busy)] := by
  simp only [LedBackend.acquireWriteTarget] at h
  split at h <;> cases h
  rfl

theorem acquire_ready {lease : WriteLease (Recorder B)}
    (h : LedBackend.acquireWriteTarget channel r = (.ok (.ready lease), r')) :
    lease.calls = [] ∧
      r'.calls = r.calls ++ [.acquireWriteTarget channel (.ok (.ready (BackendWriteLease.channel lease)))] := by
  simp only [LedBackend.acquireWriteTarget] at h
  split at h <;> cases h
  exact ⟨rfl, rfl⟩

theorem publish_calls {lease lease' : WriteLease (Recorder B)} {reply : Except BackendError Unit}
    (h : BackendWriteLease.publish lease = (reply, lease')) :
    lease'.calls = lease.calls ++ [.publish (BackendWriteLease.bytesMut lease).1 reply] := by
  cases h; rfl

end Recorder

/-! ## The calls of a write -/

/-- The backend calls of a write on a channel with this record, once no violation is
    latched, and what the write returns. -/
inductive WriteCalls (B : Type) [LedBackend B] (f : Features) (record : ChannelState) (pixels : List Rgb48) :
    Except RuntimeError Unit → List BackendCall → Prop
  | failed (err : BackendError) :
      WriteCalls B f record pixels (.error .backend) [.acquireWriteTarget record.backendChannel (.error err)]
  | busy : WriteCalls B f record pixels (.error .busy) [.acquireWriteTarget record.backendChannel (.ok .busy)]
  | wrongChannel {channel : BackendChannelId} : channel ≠ record.backendChannel →
      WriteCalls B f record pixels (.error .backendContract)
        [.acquireWriteTarget record.backendChannel (.ok (.ready channel))]
  | wrongLength {exposed : List UInt8} : exposed.length ≠ 3 * record.lenPixels →
      WriteCalls B f record pixels (.error .backendContract)
        [.acquireWriteTarget record.backendChannel (.ok (.ready record.backendChannel)), .bytesMut exposed exposed]
  | mismatch {exposed target : List UInt8} : exposed.length = 3 * record.lenPixels →
      (StableLeases B → target = exposed) → pixels.length ≠ target.length / 3 →
      WriteCalls B f record pixels (.error .lengthMismatch)
        [.acquireWriteTarget record.backendChannel (.ok (.ready record.backendChannel)), .bytesMut exposed exposed,
          .bytesMut target target]
  | unpublished {exposed target bytes published : List UInt8} (err : BackendError) :
      exposed.length = 3 * record.lenPixels → (StableLeases B → target = exposed ∧ published = bytes) →
      pixels.length = target.length / 3 →
      packRgb48Active f pixels record.layout record.framePhase target = .ok ⟨⟩ bytes →
      WriteCalls B f record pixels (.error .backend)
        [.acquireWriteTarget record.backendChannel (.ok (.ready record.backendChannel)), .bytesMut exposed exposed,
          .bytesMut target bytes, .publish published (.error err)]
  | published {exposed target bytes published : List UInt8} :
      exposed.length = 3 * record.lenPixels → (StableLeases B → target = exposed ∧ published = bytes) →
      pixels.length = target.length / 3 →
      packRgb48Active f pixels record.layout record.framePhase target = .ok ⟨⟩ bytes →
      WriteCalls B f record pixels (.ok ())
        [.acquireWriteTarget record.backendChannel (.ok (.ready record.backendChannel)), .bytesMut exposed exposed,
          .bytesMut target bytes, .publish published (.ok ())]

theorem packRgb48Active_length {pixels : List Rgb48} {layout : PixelLayout} {phase : FrameEpoch}
    {target bytes : List UInt8} (hp : pixels.length = target.length / 3)
    (h : packRgb48Active f pixels layout phase target = .ok ⟨⟩ bytes) : bytes.length = target.length := by
  unfold packRgb48Active at h
  rw [packIntoBytes_ok hp] at h
  cases h
  exact packLoop_length ..

variable {record : ChannelState} {pixels : List Rgb48}

theorem Api.Written.calls {before backend : Recorder B} {reply : Except RuntimeError Unit}
    (h : Written f record pixels before reply backend) :
    ∃ calls, backend.calls = before.calls ++ calls ∧ WriteCalls B f record pixels reply calls := by
  cases h with
  | failed ha => exact ⟨_, Recorder.acquire_failed ha, .failed _⟩
  | busy ha => exact ⟨_, Recorder.acquire_busy ha, .busy⟩
  | @wrongChannel lease backend ha hc =>
    obtain ⟨hl, hb⟩ := Recorder.acquire_ready ha
    exact ⟨_, by show backend.calls ++ lease.calls = _; rw [hl, hb, List.append_nil], .wrongChannel hc⟩
  | @wrongLength lease backend ha hc hn =>
    obtain ⟨hl, hb⟩ := Recorder.acquire_ready ha
    refine ⟨_, ?_, .wrongLength hn⟩
    show backend.calls ++ (lease.calls ++ [_]) = _
    rw [hl, hb, hc, List.append_assoc]
    rfl
  | @mismatch lease backend hg hp =>
    obtain ⟨hl, hb⟩ := Recorder.acquire_ready hg.acquired
    refine ⟨_, ?_, .mismatch hg.length (fun hs => hs.recorder.target lease) hp⟩
    show backend.calls ++ (lease.calls ++ [_] ++ [_]) = _
    rw [hl, hb, hg.channel, List.append_assoc]
    rfl
  | @unpublished lease lease' backend bytes err hg hp hpack hpub =>
    obtain ⟨hl, hb⟩ := Recorder.acquire_ready hg.acquired
    refine ⟨_, ?_, .unpublished err hg.length (fun hs => ⟨hs.recorder.target lease,
      hs.recorder _ _ (packRgb48Active_length hp hpack)⟩) hp hpack⟩
    show backend.calls ++ lease'.calls = _
    rw [Recorder.publish_calls hpub]
    show backend.calls ++ (lease.calls ++ [_] ++ [_] ++ [_]) = _
    rw [hl, hb, hg.channel, List.append_assoc]
    rfl
  | @published lease lease' backend bytes hg hp hpack hpub =>
    obtain ⟨hl, hb⟩ := Recorder.acquire_ready hg.acquired
    refine ⟨_, ?_, .published hg.length (fun hs => ⟨hs.recorder.target lease,
      hs.recorder _ _ (packRgb48Active_length hp hpack)⟩) hp hpack⟩
    show backend.calls ++ lease'.calls = _
    rw [Recorder.publish_calls hpub]
    show backend.calls ++ (lease.calls ++ [_] ++ [_] ++ [_]) = _
    rw [hl, hb, hg.channel, List.append_assoc]
    rfl

/-! ## What a call does -/

namespace Op

/-- The handle a call goes through. -/
def handle? : Op → Option Channel
  | .channel c | .writeRgb48 c _ => some c
  | _ => none

/-- The calls that surface a latched violation: a write through an own handle, a commit, a
    service. -/
def Runtime (driverId : DriverId) : Op → Prop
  | .writeRgb48 c _ => c.owner = driverId
  | .commit | .service => True
  | _ => False

end Op

inductive Effect (f : Features) (r : ReadyState) : Transition B → Prop
  | found {d : Driver (Recorder B) .ready} {channel : Channel} : channel.owner = d.driverId →
      Effect f r ⟨d, .channel channel, .ok (), [], d⟩
  | foreign {d : Driver (Recorder B) .ready} {op : Op} {channel : Channel} : op.handle? = some channel →
      channel.owner ≠ d.driverId → Effect f r ⟨d, op, .error (.error (expected .invalidChannel)), [], d⟩
  | surfaced {d : Driver (Recorder B) .ready} {op : Op} : op.Runtime d.driverId → r.ingressViolation = true →
      Effect f r ⟨d, op, .error (.error (expected .backendContract)), [],
        d.withReady { r with ingressViolation := false }⟩
  | unregistered {d : Driver (Recorder B) .ready} {channel : Channel} {pixels : List Rgb48} :
      channel.owner = d.driverId → r.ingressViolation = false → d.engine.channels.lookup channel.asIndex = none →
      Effect f r ⟨d, .writeRgb48 channel pixels, .error (.error (expected .invalidChannel)), [], d⟩
  | unwritten {d : Driver (Recorder B) .ready} {channel : Channel} {pixels : List Rgb48} {record : ChannelState}
      {err : RuntimeError} {calls : List BackendCall} (backend : Recorder B) :
      channel.owner = d.driverId → r.ingressViolation = false →
      d.engine.channels.lookup channel.asIndex = some record → WriteCalls B f record pixels (.error err) calls →
      Effect f r ⟨d, .writeRgb48 channel pixels, .error (.error (expected err)), calls, d.withBackend backend⟩
  | wrote {d : Driver (Recorder B) .ready} {channel : Channel} {pixels : List Rgb48} {record : ChannelState}
      {calls : List BackendCall} (backend : Recorder B) :
      channel.owner = d.driverId → r.ingressViolation = false →
      d.engine.channels.lookup channel.asIndex = some record → WriteCalls B f record pixels (.ok ()) calls →
      Effect f r ⟨d, .writeRgb48 channel pixels, .ok (), calls,
        (d.withBackend backend).withReady { r with dirtyMask := ⟨r.dirtyMask.bits ||| bit channel.asIndex⟩ }⟩
  | committed {d : Driver (Recorder B) .ready} : r.ingressViolation = false →
      Effect f r ⟨d, .commit, .ok (), [],
        d.withReady { r with pendingMask := ⟨r.pendingMask.bits ||| r.dirtyMask.bits⟩, dirtyMask := .zero }⟩
  | waited {d : Driver (Recorder B) .ready} {mask : ChannelMask} : r.ingressViolation = false →
      r.transfer = .inFlight false mask → Effect f r ⟨d, .service, .ok (), [], d⟩
  | rested {d : Driver (Recorder B) .ready} : r.ingressViolation = false → r.transfer.Free → r.pendingMask.bits = 0 →
      Effect f r ⟨d, .service, .ok (), [], d.withReady { r with transfer := .idle }⟩
  | refused {d : Driver (Recorder B) .ready} (backend : Recorder B) : r.ingressViolation = false → r.transfer.Free →
      r.pendingMask.bits ≠ 0 →
      Effect f r ⟨d, .service, .ok (), [.submitChannels r.pendingMask.bits (.ok .busy)],
        (d.withReady { r with transfer := .idle }).withBackend backend⟩
  | unsubmitted {d : Driver (Recorder B) .ready} (err : BackendError) (backend : Recorder B) :
      r.ingressViolation = false → r.transfer.Free → r.pendingMask.bits ≠ 0 →
      Effect f r ⟨d, .service, .error (.error (expected .backend)), [.submitChannels r.pendingMask.bits (.error err)],
        (d.withReady { r with transfer := .idle }).withBackend backend⟩
  | started {d : Driver (Recorder B) .ready} (backend : Recorder B) : r.ingressViolation = false → r.transfer.Free →
      r.pendingMask.bits ≠ 0 →
      Effect f r ⟨d, .service, .ok (), [.submitChannels r.pendingMask.bits (.ok .started)],
        { d with engine := d.engine.accepted r backend }⟩
  | signalled {d : Driver (Recorder B) .ready} (signal : BackendSignal) (backend : Recorder B) :
      Effect f r ⟨d, .onBackendSignal signal, .ok (), [.onSignal signal], d.withBackend backend⟩
  | completed {d : Driver (Recorder B) .ready} {complete : Bool} {mask : ChannelMask} (event : BackendEvent)
      (backend : Recorder B) : r.transfer = .inFlight complete mask →
      Effect f r ⟨d, .onBackendEvent event, .ok (), [.onEvent event],
        (d.withBackend backend).withReady { r with transfer := .inFlight true mask }⟩
  | strayed {d : Driver (Recorder B) .ready} (event : BackendEvent) (backend : Recorder B) : r.transfer = .idle →
      Effect f r ⟨d, .onBackendEvent event, .ok (), [.onEvent event],
        (d.withBackend backend).withReady { r with ingressViolation := true }⟩

namespace Api.Driver

variable {d d' : Driver (Recorder B) .ready} {calls : List BackendCall}

theorem transition_ok (op : Op) (h : perform f op d = .ok () d')
    (hc : d'.engine.backend.calls = d.engine.backend.calls ++ calls) :
    d.transition f op = ⟨d, op, .ok (), calls, d'⟩ := by
  unfold transition
  simp only [h, hc, List.drop_left]

theorem transition_error (op : Op) {e : Fault (Projected RuntimeError)} (h : perform f op d = .error e d')
    (hc : d'.engine.backend.calls = d.engine.backend.calls ++ calls) :
    d.transition f op = ⟨d, op, .error e, calls, d'⟩ := by
  unfold transition
  simp only [h, hc, List.drop_left]

omit [LedBackend B] in
theorem channel_own {channel : Channel} (h : channel.owner = d.driverId) :
    Driver.channel channel d = .ok ⟨channel.asIndex⟩ d := by
  unfold Driver.channel
  rw [bind_ok (get_apply _), if_apply_neg (not_not.mpr h), pure_apply]

omit [LedBackend B] in
theorem channel_foreign {channel : Channel} (h : channel.owner ≠ d.driverId) :
    Driver.channel channel d = .error (.error (expected .invalidChannel)) d := by
  unfold Driver.channel
  rw [bind_ok (get_apply _), if_apply_pos h, fail_apply]

variable {setup : PreparedSetup} {r : ReadyState}

theorem effect_write (hi : Inv setup d.engine r) (channel : Channel) (pixels : List Rgb48) :
    Effect f r (d.transition f (.writeRgb48 channel pixels)) := by
  by_cases ho : channel.owner = d.driverId
  case neg =>
    rw [transition_error _ (bind_error (channel_foreign ho)) (List.append_nil _).symm]
    exact .foreign rfl ho
  have hrun : perform f (.writeRgb48 channel pixels) d = ChannelWriter.writeRgb48 f ⟨channel.asIndex⟩ pixels d :=
    bind_ok (channel_own ho)
  cases hv : r.ingressViolation with
  | true =>
    have hacq := LedEngine.acquire_latched (i := channel.asIndex) hi.lifecycle hv
    rw [transition_error _ (hrun.trans (bind_error (bind_error (onEngine_error hacq)))) (List.append_nil _).symm]
    exact .surfaced ho hv
  | false =>
    cases hl : d.engine.channels.lookup channel.asIndex with
    | none =>
      obtain ⟨err, hacq, herr⟩ := LedEngine.acquire_unregistered (LedEngine.surface_clear hi.lifecycle hv)
        hi.maxChannels_le hl
      rw [transition_error _ (hrun.trans (bind_error (bind_error (onEngine_error hacq)))) (List.append_nil _).symm]
      rcases herr with rfl | rfl <;> exact .unregistered ho hv hl
    | some record =>
      obtain ⟨hlt, hlen⟩ := hi.record hl
      obtain ⟨reply, backend, hw, hwrite⟩ := Api.writeRgb48_written f pixels hi.lifecycle hv hlt
        hi.maxChannels_le hl hlen
      obtain ⟨calls, hcalls, hwc⟩ := hw.calls
      cases reply with
      | error err =>
        rw [transition_error _ (hrun.trans hwrite) hcalls]
        exact .unwritten backend ho hv hl hwc
      | ok =>
        rw [transition_ok _ (hrun.trans hwrite) hcalls]
        exact .wrote backend ho hv hl hwc

theorem effect_service (hi : Inv setup d.engine r) : Effect f r (d.transition f .service) := by
  have hr := hi.lifecycle
  cases hv : r.ingressViolation with
  | true =>
    rw [transition_error .service (onEngine_error (LedEngine.service_latched hr hv)) (List.append_nil _).symm]
    exact .surfaced trivial hv
  | false =>
    by_cases ht : r.transfer.Free
    case neg =>
      obtain ⟨mask, ht⟩ : ∃ mask, r.transfer = .inFlight false mask := by
        unfold TransferState.Free at ht; push Not at ht; exact ht
      rw [transition_ok .service (onEngine_ok (LedEngine.service_waiting hr hv ht)) (List.append_nil _).symm]
      exact .waited hv ht
    by_cases hp : r.pendingMask.bits = 0
    · rw [transition_ok .service (onEngine_ok (LedEngine.service_rest hr hv ht hp)) (List.append_nil _).symm]
      exact .rested hv ht hp
    · have hs := LedEngine.service_offer hr hv ht hp hi.maxChannels_le hi.pending
      rcases hb : LedBackend.submitChannels r.pendingMask.bits d.engine.backend with ⟨reply, backend⟩
      have hc : backend.calls = d.engine.backend.calls ++ [.submitChannels r.pendingMask.bits reply] := by cases hb; rfl
      rw [hb] at hs
      cases reply with
      | error err =>
        rw [transition_error .service (onEngine_error hs) hc]
        exact .unsubmitted err backend hv ht hp
      | ok start =>
        cases start with
        | started =>
          rw [transition_ok .service (onEngine_ok hs) hc]
          exact .started backend hv ht hp
        | busy =>
          rw [transition_ok .service (onEngine_ok hs) hc]
          exact .refused backend hv ht hp

theorem effect_commit (hi : Inv setup d.engine r) : Effect f r (d.transition f .commit) := by
  cases hv : r.ingressViolation with
  | true =>
    rw [transition_error .commit (onEngine_error (LedEngine.submitDirty_latched hi.lifecycle hv))
      (List.append_nil _).symm]
    exact .surfaced trivial hv
  | false =>
    rw [transition_ok .commit (onEngine_ok (LedEngine.submitDirty_clear hi.lifecycle hv)) (List.append_nil _).symm]
    exact .committed hv

theorem effect_event (hi : Inv setup d.engine r) (event : BackendEvent) :
    Effect f r (d.transition f (.onBackendEvent event)) := by
  have hrun : perform f (.onBackendEvent event) d = .ok () { d with engine := d.engine.onBackendEvent event } := rfl
  cases ht : r.transfer with
  | idle =>
    rw [LedEngine.onBackendEvent_idle hi.lifecycle ht] at hrun
    rw [transition_ok _ hrun rfl]
    exact .strayed (d := d) event (LedBackend.onEvent event d.engine.backend) ht
  | inFlight complete mask =>
    rw [LedEngine.onBackendEvent_inFlight hi.lifecycle ht] at hrun
    rw [transition_ok _ hrun rfl]
    exact .completed (d := d) event (LedBackend.onEvent event d.engine.backend) ht

/-- Every call on a configured driver is one of `Effect`. -/
theorem effect (hi : Inv setup d.engine r) (op : Op) : Effect f r (d.transition f op) := by
  cases op with
  | channel channel =>
    by_cases ho : channel.owner = d.driverId
    · rw [transition_ok (.channel channel) (bind_ok (channel_own ho)) (List.append_nil _).symm]
      exact .found ho
    · rw [transition_error (.channel channel) (bind_error (channel_foreign ho)) (List.append_nil _).symm]
      exact .foreign rfl ho
  | writeRgb48 channel pixels => exact effect_write hi channel pixels
  | commit => exact effect_commit hi
  | service => exact effect_service hi
  | onBackendSignal signal =>
    rw [transition_ok (.onBackendSignal signal) rfl rfl]
    exact .signalled signal _
  | onBackendEvent event => exact effect_event hi event

end Api.Driver

/-! ## One call, by its operation -/

theorem Op.Runtime.own {op : Op} {id : DriverId} {channel : Channel} (h : op.Runtime id)
    (hop : op.handle? = some channel) : channel.owner = id := by
  cases op with
  | channel c => exact h.elim
  | writeRgb48 c pixels =>
    cases hop
    exact h
  | _ => cases hop

section Call

variable {r : ReadyState} {t : Transition B} {setup : PreparedSetup} {channel : Channel}

theorem Effect.driverId (h : Effect f r t) : t.after.driverId = t.before.driverId := by
  cases h <;> rfl

theorem Effect.limits (h : Effect f r t) :
    t.after.engine.maxChannels = t.before.engine.maxChannels ∧
      t.after.engine.maxBytesPerChannel = t.before.engine.maxBytesPerChannel := by
  cases h <;> exact ⟨rfl, rfl⟩

theorem Effect.rejects (h : Effect f r t) (hop : t.op.handle? = some channel)
    (hne : channel.owner ≠ t.before.driverId) :
    t.result = .error (.error (expected .invalidChannel)) ∧ t.calls = [] ∧ t.after = t.before := by
  cases h with
  | foreign => exact ⟨rfl, rfl, rfl⟩
  | surfaced ho => exact absurd (ho.own hop) hne
  | found ho | unregistered ho | unwritten _ ho | wrote _ ho =>
    cases hop
    exact absurd ho hne
  | _ => cases hop

/-- Surfacing invokes no backend method and changes nothing but the flag. -/
theorem Effect.inert (h : Effect f r t) (ho : t.op.Runtime t.before.driverId) (hv : r.ingressViolation = true) :
    t.calls = [] ∧ t.result = .error (.error (expected .backendContract)) ∧
      t.after = t.before.withReady { r with ingressViolation := false } := by
  cases h with
  | surfaced => exact ⟨rfl, rfl, rfl⟩
  | foreign hop hne => exact absurd (ho.own hop) hne
  | found | signalled | completed | strayed => exact ho.elim
  | unregistered _ hv' | unwritten _ _ hv' | wrote _ _ hv' | committed hv' | waited hv' | rested hv' | refused _ hv'
  | unsubmitted _ _ hv' | started _ hv' =>
    rw [hv] at hv'
    cases hv'

theorem Effect.finds (h : Effect f r t) (hop : t.op = .channel channel) :
    t.result = (if channel.owner = t.before.driverId then .ok () else .error (.error (expected .invalidChannel))) ∧
      t.calls = [] ∧ t.after = t.before := by
  cases h with
  | found ho =>
    cases hop
    exact ⟨(if_pos ho).symm, rfl, rfl⟩
  | foreign hh hne =>
    cases hop
    cases hh
    exact ⟨(if_neg hne).symm, rfl, rfl⟩
  | surfaced hrt =>
    cases hop
    exact hrt.elim
  | _ => cases hop

theorem Effect.signals {signal : BackendSignal} (h : Effect f r t) (hop : t.op = .onBackendSignal signal) :
    t.result = .ok () ∧ t.calls = [.onSignal signal] ∧ ∃ backend, t.after = t.before.withBackend backend := by
  cases h with
  | signalled signal backend =>
    cases hop
    exact ⟨rfl, rfl, backend, rfl⟩
  | foreign hh =>
    cases hop
    cases hh
  | surfaced hrt =>
    cases hop
    exact hrt.elim
  | _ => cases hop

/-- The ready state after an event. -/
def Engine.ReadyState.told (r : ReadyState) : ReadyState :=
  match r.transfer with
  | .idle => { r with ingressViolation := true }
  | .inFlight _ mask => { r with transfer := .inFlight true mask }

theorem Effect.tells (h : Effect f r t) {event : BackendEvent} (hop : t.op = .onBackendEvent event) :
    t.result = .ok () ∧ t.calls = [.onEvent event] ∧ t.after.engine.lifecycle = .ready r.told ∧
      t.after.engine.channels = t.before.engine.channels := by
  cases h with
  | completed event backend ht =>
    cases hop
    exact ⟨rfl, rfl, by simp only [ReadyState.told, ht]; rfl, rfl⟩
  | strayed event backend ht =>
    cases hop
    exact ⟨rfl, rfl, by simp only [ReadyState.told, ht]; rfl, rfl⟩
  | foreign hh =>
    cases hop
    cases hh
  | surfaced hrt =>
    cases hop
    exact hrt.elim
  | _ => cases hop

theorem Effect.commits (h : Effect f r t) (hop : t.op = .commit) (hv : r.ingressViolation = false) :
    t.result = .ok () ∧ t.calls = [] ∧ t.after = t.before.withReady
      { r with pendingMask := ⟨r.pendingMask.bits ||| r.dirtyMask.bits⟩, dirtyMask := .zero } := by
  cases h with
  | committed => exact ⟨rfl, rfl, rfl⟩
  | foreign hh =>
    cases hop
    cases hh
  | surfaced _ hv' => rw [hv] at hv'; cases hv'
  | _ => cases hop

/-- The handle is the driver's own, and its channel is registered. -/
def Api.Driver.Reaches {B : Type} (d : Driver B .ready) (channel : Channel) : Prop :=
  channel.owner = d.driverId ∧ (d.engine.channels.lookup channel.asIndex).isSome = true

/-- What a write on a registered channel returns. -/
def written (reply : Except RuntimeError Unit) : Except (Fallible.Fault (Projected RuntimeError)) Unit :=
  match reply with
  | .ok _ => .ok ()
  | .error err => .error (.error (expected err))

/-- The ready state after a write of channel `i`. -/
def Engine.ReadyState.wrote (r : ReadyState) (i : Nat) (reply : Except RuntimeError Unit) : ReadyState :=
  match reply with
  | .ok _ => { r with dirtyMask := ⟨r.dirtyMask.bits ||| bit i⟩ }
  | .error _ => r

theorem Effect.writes {pixels : List Rgb48} (h : Effect f r t) (hi : Inv setup t.before.engine r)
    (hv : r.ingressViolation = false) (hop : t.op = .writeRgb48 channel pixels) :
    (¬t.before.Reaches channel ∧ t.result = .error (.error (expected .invalidChannel)) ∧ t.calls = [] ∧
        t.after = t.before) ∨
      ∃ record reply, t.before.Reaches channel ∧ t.before.engine.channels.lookup channel.asIndex = some record ∧
        WriteCalls B f record pixels reply t.calls ∧ t.result = written reply ∧
        t.after.engine.lifecycle = .ready (r.wrote channel.asIndex reply) ∧
        t.after.engine.channels = t.before.engine.channels := by
  cases h with
  | foreign hh hne =>
    cases hop
    cases hh
    exact Or.inl ⟨fun hx => hne hx.1, rfl, rfl, rfl⟩
  | surfaced _ hv' => rw [hv] at hv'; cases hv'
  | unregistered _ _ hl =>
    cases hop
    refine Or.inl ⟨fun hx => ?_, rfl, rfl, rfl⟩
    have hsome := hx.2
    rw [hl] at hsome
    cases hsome
  | unwritten backend ho _ hl hw =>
    cases hop
    exact Or.inr ⟨_, _, ⟨ho, by rw [hl]; rfl⟩, hl, hw, rfl, hi.lifecycle, rfl⟩
  | wrote backend ho _ hl hw =>
    cases hop
    exact Or.inr ⟨_, _, ⟨ho, by rw [hl]; rfl⟩, hl, hw, rfl, rfl, rfl⟩
  | _ => cases hop

theorem Effect.writesOk (h : Effect f r t) {pixels : List Rgb48} (hop : t.op = .writeRgb48 channel pixels)
    (hres : t.result = .ok ()) :
    (t.before.engine.channels.lookup channel.asIndex).isSome = true ∧
      t.after.engine.lifecycle = .ready (r.wrote channel.asIndex (.ok ())) ∧
      t.after.engine.channels = t.before.engine.channels := by
  cases h with
  | wrote backend _ _ hl =>
    cases hop
    exact ⟨by rw [hl]; rfl, rfl, rfl⟩
  | foreign | surfaced | unregistered | unwritten => cases hres
  | _ => cases hop

theorem Effect.waits (h : Effect f r t) (hop : t.op = .service) (hv : r.ingressViolation = false)
    (ht : ¬r.transfer.Free) : t.result = .ok () ∧ t.calls = [] ∧ t.after = t.before := by
  cases h with
  | waited => exact ⟨rfl, rfl, rfl⟩
  | foreign hh =>
    cases hop
    cases hh
  | surfaced _ hv' => rw [hv] at hv'; cases hv'
  | rested _ ht' | refused _ _ ht' | unsubmitted _ _ _ ht' | started _ _ ht' => exact absurd ht' ht
  | _ => cases hop

theorem Effect.rests (h : Effect f r t) (hop : t.op = .service) (hv : r.ingressViolation = false)
    (ht : r.transfer.Free) (hp : r.pendingMask.bits = 0) :
    t.result = .ok () ∧ t.calls = [] ∧ t.after = t.before.withReady { r with transfer := .idle } := by
  cases h with
  | rested => exact ⟨rfl, rfl, rfl⟩
  | foreign hh =>
    cases hop
    cases hh
  | surfaced _ hv' => rw [hv] at hv'; cases hv'
  | waited _ ht' => exact absurd ht' (ht _)
  | refused _ _ _ hp' | unsubmitted _ _ _ _ hp' | started _ _ _ hp' => exact absurd hp hp'
  | _ => cases hop

/-- What a submission answered with `reply` returns. -/
def submitted (reply : Except BackendError StartTransfer) : Except (Fallible.Fault (Projected RuntimeError)) Unit :=
  match reply with
  | .ok _ => .ok ()
  | .error _ => .error (.error (expected .backend))

/-- The engine after a submission answered with `reply`. -/
def Engine.LedEngine.answered {B : Type} (e : LedEngine B) (r : ReadyState) (reply : Except BackendError StartTransfer)
    (backend : B) : LedEngine B :=
  match reply with
  | .ok .started => e.accepted r backend
  | _ => { e.retired r with backend }

theorem Effect.offers (h : Effect f r t) (hop : t.op = .service) (hv : r.ingressViolation = false)
    (ht : r.transfer.Free) (hp : r.pendingMask.bits ≠ 0) :
    ∃ reply backend, t.calls = [.submitChannels r.pendingMask.bits reply] ∧ t.result = submitted reply ∧
      t.after = { t.before with engine := t.before.engine.answered r reply backend } := by
  cases h with
  | refused backend => exact ⟨.ok .busy, backend, rfl, rfl, rfl⟩
  | unsubmitted err backend => exact ⟨.error err, backend, rfl, rfl, rfl⟩
  | started backend => exact ⟨.ok .started, backend, rfl, rfl, rfl⟩
  | foreign hh =>
    cases hop
    cases hh
  | surfaced _ hv' => rw [hv] at hv'; cases hv'
  | waited _ ht' => exact absurd ht' (ht _)
  | rested _ _ hp' => exact absurd hp' hp
  | _ => cases hop

end Call

end LedWireDriver
