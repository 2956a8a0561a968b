/-
  LedWireDriver.Ingress — a completion reported while nothing is in flight surfaces once, and
  leaves no trace.

  `Op.program` is what a runtime call runs on the engine, with the engine's own error
  (`perform_program`); the call surfaces the violation if that error is the latched one.
  `surfaces_iff` reads it off the engine's flag, and `Configured.latched_iff` reads the flag
  off the history of calls. `unstrayed_shadows` compares a stretch of the run with the same
  stretch without its stray events: up to the flag, the two drivers are twins.
-/

import LedWireDriver.Routing

namespace LedWireDriver

open Fallible Words History Batching Api Engine Pack

variable {B : Type} [LedBackend B] {f : Features}

/-! ## What a call runs on the engine -/

/-- The error of a call that surfaces the latched violation, before it is projected. -/
def latchedFault : Fault EngineError := .error (.backendContractViolation .transferCompleteWhileIdle)

/-- The engine operations of a runtime call. -/
def Op.program (f : Features) : Op → EngineM B Unit
  | .writeRgb48 c pixels => do
    (do
      let write ← LedEngine.acquirePreparedWrite c.asIndex
      borrowing write (fun write e => e.dropLease write.lease) do
        PreparedWrite.packRgb48Active f pixels
        PreparedWrite.publish)
    LedEngine.markChannelPublished c.asIndex
  | .commit => LedEngine.submitDirty
  | .service => LedEngine.service
  | _ => pure ()

/-- The projections of the runtime boundaries. -/
def runtimeProjections : List (EngineError → Projected RuntimeError) :=
  [mapRuntimeWritePrepareError, mapRuntimeWritePackError, mapRuntimeWritePublishError, mapRuntimeMarkPublishedError,
    mapRuntimeCommitError, mapRuntimeServiceError]

theorem projects_violation {project : EngineError → Projected RuntimeError} (h : project ∈ runtimeProjections)
    (violation : BackendContractViolation) :
    project (.backendContractViolation violation) = expected .backendContract := by
  simp only [runtimeProjections, List.mem_cons, List.not_mem_nil, or_false] at h
  rcases h with rfl | rfl | rfl | rfl | rfl | rfl <;> rfl

/-- A public fault and the engine's fault it projects. -/
def Projects (e : Fault (Projected RuntimeError)) (e' : Fault EngineError) : Prop :=
  ∃ project ∈ runtimeProjections, e = e'.map project

namespace Api.Driver

/-- The call `op` on `d` returns the `TransferCompleteWhileIdle` violation. -/
def Surfaces (f : Features) (d : Driver (Recorder B) .ready) (op : Op) : Prop :=
  ∃ e, op.program f d.engine = .error latchedFault e

/-- A driver and its engine. -/
def Runs (d : Driver B .ready) (e : LedEngine B) : Prop := d.engine = e

omit [LedBackend B] in
theorem onEngine_program {α : Type} {project : EngineError → Projected RuntimeError} (hp : project ∈ runtimeProjections)
    (x : EngineM B α) : Alike Projects Runs Eq (onEngine project x) x := by
  intro d d' hd
  subst hd
  unfold onEngine zoom mapErr
  rcases x d.engine with ⟨a, e⟩ | ⟨err, e⟩
  · exact .ok rfl rfl
  · exact .error ⟨project, hp, rfl⟩ rfl

theorem mapErr_program {α σ : Type} {project : EngineError → Projected RuntimeError} (hp : project ∈ runtimeProjections)
    (x : Prog EngineError σ α) : Alike Projects Eq Eq (mapErr project x) x := by
  intro s s' hs
  subst hs
  unfold mapErr
  rcases x s with ⟨a, e⟩ | ⟨err, e⟩
  · exact .ok rfl rfl
  · exact .error ⟨project, hp, rfl⟩ rfl

/-- A runtime call is its program on the engine, with the errors projected. -/
theorem perform_program {d : Driver (Recorder B) .ready} {op : Op} (ho : op.Runtime d.driverId) :
    Outcomes Projects Runs Eq (perform f op d) (op.program f d.engine) := by
  cases op with
  | writeRgb48 channel pixels =>
    rw [show perform f (.writeRgb48 channel pixels) d = ChannelWriter.writeRgb48 f ⟨channel.asIndex⟩ pixels d from
      bind_ok (channel_own ho)]
    refine Alike.bind (V := Eq) ?_ (fun _ _ _ => onEngine_program (by simp [runtimeProjections]) _) _ _ rfl
    refine (onEngine_program (by simp [runtimeProjections]) _).bind ?_
    intro write write' hw
    subst hw
    refine Alike.borrowing (R := Eq) ?_ rfl ?_
    · exact (mapErr_program (by simp [runtimeProjections]) _).bind fun _ _ _ =>
        mapErr_program (by simp [runtimeProjections]) _
    · intro d d' w w' hx hy
      subst hx
      subst hy
      rfl
  | commit => exact onEngine_program (by simp [runtimeProjections]) _ _ _ rfl
  | service => exact onEngine_program (by simp [runtimeProjections]) _ _ _ rfl
  | _ => exact ho.elim

end Api.Driver

/-! ## Nothing else raises it -/

/-- How a write fails when no violation is latched: on the source's length, or on what the
    backend does. -/
inductive Engine.WriteFault : Fault EngineError → Prop
  | length (expectedPixels actualPixels : Nat) :
      WriteFault (.error (.sourceLengthMismatch expectedPixels actualPixels))
  | busy : WriteFault (.error .writeBusy)
  | wrongChannel : WriteFault (.error (.backendContractViolation .wrongChannelReturned))
  | wrongLength : WriteFault (.error (.backendContractViolation .wrongTargetLength))
  | backend (err : BackendError) : WriteFault (.error (.backend err))

theorem Engine.PreparedWrite.packAndPublish_fault {w w' : PreparedWrite B} {pixels : List Rgb48}
    {fault : Fault EngineError}
    (h : (do
      packRgb48Active f pixels
      publish : Prog EngineError (PreparedWrite B) Unit) w = .error fault w') : WriteFault fault := by
  by_cases hp : pixels.length = (BackendWriteLease.bytesMut w.lease).1.length / 3
  · rw [bind_ok (packRgb48Active_ok (packIntoBytes_ok hp))] at h
    unfold publish at h
    split at h
    · cases h
    · cases h
      exact .backend _
  · rw [bind_error (packRgb48Active_mismatch hp)] at h
    cases h
    exact .length _ _

/-- A public call that returned `BackendContract` surfaced the violation, or is a write. -/
theorem Effect.contract {r : ReadyState} {t : Transition B} (h : Effect f r t)
    (hv : r.ingressViolation = false) (ht : t.result = .error (.error (expected .backendContract))) :
    ∃ channel pixels, t.op = .writeRgb48 channel pixels := by
  cases h with
  | unwritten => exact ⟨_, _, rfl⟩
  | surfaced _ hv' => rw [hv] at hv'; cases hv'
  | _ => cases ht

namespace Api.Driver

variable {d : Driver (Recorder B) .ready} {r : ReadyState} {setup : PreparedSetup} {op : Op}

theorem write_fault (hi : Inv setup d.engine r) (hv : r.ingressViolation = false) {channel : Channel}
    {pixels : List Rgb48} {record : ChannelState} {fault : Fault EngineError} {e : LedEngine (Recorder B)}
    (hl : d.engine.channels.lookup channel.asIndex = some record)
    (h : Op.program f (.writeRgb48 channel pixels) d.engine = .error fault e) : WriteFault fault := by
  obtain ⟨hlt, hlen⟩ := hi.record hl
  obtain ⟨reply, backend, ha, hacq⟩ := acquirePreparedWrite_acquired hi.lifecycle hv hlt hi.maxChannels_le hl hlen
  cases ha with
  | @granted lease _ hg =>
    rcases hpack : (do
      PreparedWrite.packRgb48Active f pixels
      PreparedWrite.publish : Prog EngineError (PreparedWrite (Recorder B)) Unit)
        ⟨record.layout, record.framePhase, LedEngine.peek lease⟩ with ⟨_, w⟩ | ⟨err, w⟩
    · have hmark : Op.program f (.writeRgb48 channel pixels) d.engine = LedEngine.markChannelPublished channel.asIndex
          (({ d.engine with backend } : LedEngine (Recorder B)).dropLease w.lease) :=
        bind_ok ((bind_ok hacq).trans (borrowing_ok hpack))
      cases h.symm.trans (hmark.trans (LedEngine.markChannelPublished_ok hi.lifecycle hv hlt hi.maxChannels_le hl))
    · cases h.symm.trans (bind_error ((bind_ok hacq).trans (borrowing_error hpack)))
      exact PreparedWrite.packAndPublish_fault hpack
  | failed =>
    cases h.symm.trans (bind_error (bind_error hacq))
    exact .backend _
  | busy =>
    cases h.symm.trans (bind_error (bind_error hacq))
    exact .busy
  | wrongChannel =>
    cases h.symm.trans (bind_error (bind_error hacq))
    exact .wrongChannel
  | wrongLength =>
    cases h.symm.trans (bind_error (bind_error hacq))
    exact .wrongLength

/-- With no violation latched, a write fails with another error. -/
theorem write_clear (hi : Inv setup d.engine r) (hv : r.ingressViolation = false) (channel : Channel)
    (pixels : List Rgb48) : ¬Surfaces f d (.writeRgb48 channel pixels) := by
  intro hs
  obtain ⟨e, he⟩ := hs
  cases hl : d.engine.channels.lookup channel.asIndex with
  | none =>
    obtain ⟨err, hacq, herr⟩ := LedEngine.acquire_unregistered (LedEngine.surface_clear hi.lifecycle hv)
      hi.maxChannels_le hl
    have h := (bind_error (bind_error hacq)).symm.trans he
    rcases herr with rfl | rfl <;> cases h
  | some record => cases write_fault hi hv hl he

theorem surfaces_result (ho : op.Runtime d.driverId) (hs : Surfaces f d op) :
    (d.transition f op).result = .error (.error (expected .backendContract)) := by
  obtain ⟨e, he⟩ := hs
  have h := perform_program (f := f) ho
  rw [he] at h
  unfold transition
  generalize perform f op d = p at h
  cases h with
  | error hp =>
    obtain ⟨project, hmem, rfl⟩ := hp
    show Except.error (Fault.error (project _)) = _
    rw [projects_violation hmem]

/-- A runtime call surfaces the violation exactly when it is latched. -/
theorem surfaces_iff (hi : Inv setup d.engine r) (ho : op.Runtime d.driverId) :
    Surfaces f d op ↔ r.ingressViolation = true := by
  have hr := hi.lifecycle
  constructor
  · intro hs
    by_contra hv
    rw [Bool.not_eq_true] at hv
    -- without the flag, only a write may return `BackendContract`
    obtain ⟨channel, pixels, h⟩ := (effect (f := f) hi op).contract hv (surfaces_result ho hs)
    rw [transition_op] at h
    subst h
    exact write_clear hi hv channel pixels hs
  · intro hv
    cases op with
    | writeRgb48 channel pixels => exact ⟨_, bind_error (bind_error (LedEngine.acquire_latched hr hv))⟩
    | commit => exact ⟨_, LedEngine.submitDirty_latched hr hv⟩
    | service => exact ⟨_, LedEngine.service_latched hr hv⟩
    | _ => exact ho.elim

end Api.Driver

/-! ## When it is latched -/

/-- A `TransferComplete` was delivered while no batch was in flight. -/
def Transition.strays (t : Transition B) : Bool :=
  match t.op, t.before.engine.lifecycle with
  | .onBackendEvent .transferComplete, .ready r => r.transfer == .idle
  | _, _ => false

/-- A completion strayed since the last runtime call. -/
def Latched (driverId : DriverId) (ts : List (Transition B)) : Prop :=
  ∃ pre e mid, ts = pre ++ e :: mid ∧ e.strays ∧ ∀ t ∈ mid, ¬t.op.Runtime driverId

omit [LedBackend B] in
theorem Transition.strays_event {t : Transition B} {r : ReadyState} {event : BackendEvent}
    (hop : t.op = .onBackendEvent event) (hr : t.before.engine.lifecycle = .ready r) :
    t.strays = true ↔ r.transfer = .idle := by
  cases event
  simp [strays, hop, hr]

omit [LedBackend B] in
theorem Transition.strays_other {t : Transition B} (hop : ∀ event, t.op ≠ .onBackendEvent event) :
    t.strays = false := by
  unfold strays
  split
  · rename_i h _
    exact absurd h (hop _)
  · rfl

theorem Effect.strays_iff {r : ReadyState} {t : Transition B} {setup : PreparedSetup} (h : Effect f r t)
    (hi : Inv setup t.before.engine r) : t.strays = true ↔ t.label = .strayed := by
  have hflight : t.before.engine.abstraction.flight = r.transfer.flight := by
    rw [LedEngine.abstraction_ready hi.lifecycle]; rfl
  by_cases hop : ∃ event, t.op = .onBackendEvent event
  · obtain ⟨event, hop⟩ := hop
    rw [Transition.strays_event hop hi.lifecycle, Transition.label_event hop, hflight]
    cases r.transfer <;> simp [TransferState.flight]
  · rw [Transition.strays_other fun event he => hop ⟨event, he⟩]
    constructor
    · intro hs
      cases hs
    · intro hl
      refine absurd ((h.observes hi).completes.mp ?_) fun hc => hop ⟨_, hc⟩
      rw [hl]
      trivial

namespace Api.Driver

variable {setup : PreparedSetup} {handles : ConfiguredChannels} {d : Driver (Recorder B) .ready} {r : ReadyState}

theorem Configured.effect_mem (hc : Configured setup handles d) {ops : List Op} {t : Transition B}
    (ht : t ∈ d.trace f ops) : ∃ r, Inv setup t.before.engine r ∧ Effect f r t ∧ t.before.driverId = d.driverId := by
  obtain ⟨pre, post, hsplit⟩ := List.append_of_mem ht
  obtain ⟨ops₁, op, -, -, -, rfl, -⟩ := trace_split hsplit
  obtain ⟨r, hi, he⟩ := hc.reached (f := f) ops₁
  rw [transition_before]
  exact ⟨r, hi, he op, hc.driverId ops₁⟩

/-- A violation is latched exactly when a completion strayed since the last runtime call. -/
theorem Configured.latched_iff (hc : Configured setup handles d) (ops : List Op)
    (hr : (d.afterOps f ops).engine.lifecycle = .ready r) :
    r.ingressViolation = true ↔ Latched d.driverId (d.trace f ops) := by
  have hstray := stray_iff (hc.run (f := f) ops)
  rw [LedEngine.abstraction_ready hr, since_map, since_congr (χ := fun t => ¬t.op.Runtime d.driverId)
    (θ := fun _ t => t.strays)] at hstray
  · exact hstray
  · intro t ht
    obtain ⟨r, hi, he, hid⟩ := hc.effect_mem ht
    rw [(he.observes hi).runtime, hid]
  · intro pre t post ht
    obtain ⟨r, hi, he, -⟩ := hc.effect_mem (t := t) (by rw [ht]; simp)
    rw [he.strays_iff hi]

end Api.Driver

/-! ## What surfacing and delivery change -/

/-- A runtime call leaves nothing latched. -/
theorem Effect.unlatched {r : ReadyState} {t : Transition B} (h : Effect f r t) (ho : t.op.Runtime t.before.driverId)
    (hr : t.before.engine.lifecycle = .ready r) :
    ∃ r', t.after.engine.lifecycle = .ready r' ∧ r'.ingressViolation = false := by
  cases h with
  | surfaced => exact ⟨_, rfl, rfl⟩
  | foreign hop hne => exact absurd (ho.own hop) hne
  | found | signalled | completed | strayed => exact ho.elim
  | unregistered _ hv | unwritten _ _ hv | waited hv => exact ⟨r, hr, hv⟩
  | wrote _ _ hv | committed hv | rested hv | refused _ hv | unsubmitted _ _ hv | started _ hv => exact ⟨_, rfl, hv⟩

/-- What an event leaves alone. -/
structure Undisturbed (t : Transition B) (r r' : ReadyState) : Prop where
  dirty : r'.dirtyMask = r.dirtyMask
  pending : r'.pendingMask = r.pendingMask
  records : t.after.engine.channels = t.before.engine.channels
  idle : r.transfer = .idle → r'.transfer = .idle
  submitted : ∀ complete mask, r.transfer = .inFlight complete mask → r'.transfer = .inFlight true mask

theorem Effect.undisturbed {r : ReadyState} {t : Transition B} {event : BackendEvent} (h : Effect f r t)
    (hop : t.op = .onBackendEvent event) : ∃ r', t.after.engine.lifecycle = .ready r' ∧ Undisturbed t r r' := by
  cases h with
  | completed _ backend ht =>
    refine ⟨_, rfl, rfl, rfl, rfl, fun hi => ?_, fun complete mask hm => ?_⟩
    · rw [ht] at hi
      cases hi
    · rw [ht] at hm
      cases hm
      rfl
  | strayed _ backend ht =>
    refine ⟨_, rfl, rfl, rfl, rfl, fun _ => ht, fun complete mask hm => ?_⟩
    rw [ht] at hm
    cases hm
  | @foreign d op channel hop' =>
    cases hop
    cases hop'
  | @surfaced d op ho =>
    cases hop
    exact ho.elim
  | _ => cases hop

/-! ## The same calls without the stray events -/

namespace Api.Driver

/-- The calls of a run but for the events that stray in it. -/
def unstrayed (f : Features) (d : Driver (Recorder B) .ready) : List Op → List Op
  | [] => []
  | op :: ops =>
    let rest := unstrayed f (d.transition f op).after ops
    if (d.transition f op).strays then rest else op :: rest

/-- Up to its flag, a driver and its twin. -/
def Shadows (rel : B → B → Prop) (d d' : Driver (Recorder B) .ready) : Prop :=
  ∃ r, d.engine.lifecycle = .ready r ∧ (d.withReady { r with ingressViolation := false }).Twin (Recorder.Alike rel) d'

variable {rel : B → B → Prop} {relLease : WriteLease B → WriteLease B → Prop} {d d' : Driver (Recorder B) .ready}
  {r : ReadyState} {op : Op}

/-- A channel lookup, and a write through a foreign handle, change nothing. -/
theorem transition_handle {channel : Channel} (d : Driver (Recorder B) .ready) (hop : op.handle? = some channel)
    (ho : ¬op.Runtime d.driverId) : (d.transition f op).after = d := by
  cases op with
  | channel c =>
    by_cases hown : c.owner = d.driverId
    · rw [transition_ok (.channel c) (bind_ok (channel_own hown)) (List.append_nil _).symm]
    · rw [transition_error (.channel c) (bind_error (channel_foreign hown)) (List.append_nil _).symm]
  | writeRgb48 c pixels =>
    rw [transition_error (.writeRgb48 c pixels) (bind_error (channel_foreign ho)) (List.append_nil _).symm]
  | _ => cases hop

/-- A call that is no runtime call, and no stray event, ignores the flag. -/
theorem transition_unlatched (hr : d.engine.lifecycle = .ready r) (ho : ¬op.Runtime d.driverId)
    (hs : ¬(d.transition f op).strays = true) : ∃ r', (d.transition f op).after.engine.lifecycle = .ready r' ∧
      (d.transition f op).after.withReady { r' with ingressViolation := false } =
        ((d.withReady { r with ingressViolation := false }).transition f op).after := by
  cases op with
  | channel channel | writeRgb48 channel pixels =>
    rw [transition_handle d rfl ho, transition_handle (d.withReady { r with ingressViolation := false }) rfl ho]
    exact ⟨r, hr, rfl⟩
  | commit | service => exact absurd trivial ho
  | onBackendSignal signal => exact ⟨r, hr, rfl⟩
  | onBackendEvent event =>
    rw [Transition.strays_event (transition_op _) (by rwa [transition_before])] at hs
    have hafter : ∀ d : Driver (Recorder B) .ready, (d.transition f (.onBackendEvent event)).after =
        { d with engine := d.engine.onBackendEvent event } := fun _ => rfl
    obtain ⟨complete, mask, ht⟩ : ∃ complete mask, r.transfer = .inFlight complete mask := by
      cases ht : r.transfer with
      | idle => exact absurd ht hs
      | inFlight complete mask => exact ⟨complete, mask, rfl⟩
    rw [hafter, hafter, LedEngine.onBackendEvent_inFlight hr ht]
    refine ⟨_, rfl, ?_⟩
    show _ = ({ d with engine := (d.engine.withReady { r with ingressViolation := false }).onBackendEvent event } :
      Driver (Recorder B) .ready)
    rw [LedEngine.onBackendEvent_inFlight (r := { r with ingressViolation := false }) rfl ht]
    rfl

/-- A stray event only sets the flag. -/
theorem transition_strayed (hb : EventBlind B rel relLease) (hr : d.engine.lifecycle = .ready r)
    (hs : (d.transition f op).strays = true)
    (h : (d.withReady { r with ingressViolation := false }).Twin (Recorder.Alike rel) d') :
    Shadows rel (d.transition f op).after d' := by
  by_cases hop : ∃ event, op = .onBackendEvent event
  · obtain ⟨event, rfl⟩ := hop
    rw [Transition.strays_event (transition_op _) (by rwa [transition_before])] at hs
    have hafter : (d.transition f (.onBackendEvent event)).after =
        { d with engine := d.engine.onBackendEvent event } := rfl
    rw [hafter, LedEngine.onBackendEvent_idle hr hs]
    obtain ⟨backend, he, hrel⟩ := h.engine
    exact ⟨_, rfl, h.driverId, backend, he, hb.blind event _ _ hrel⟩
  · rw [Transition.strays_other fun event he => hop ⟨event, by rwa [transition_op] at he⟩] at hs
    cases hs

/-- A stretch of a run with no runtime call, and the same stretch without its stray events. -/
theorem unstrayed_shadows (hb : EventBlind B rel relLease) {seg : List Op}
    (hseg : ∀ op ∈ seg, ¬op.Runtime d.driverId) (h : Shadows rel d d') :
    Shadows rel (d.afterOps f seg) (d'.afterOps f (d.unstrayed f seg)) := by
  induction seg generalizing d d' with
  | nil => exact h
  | cons op seg ih =>
    obtain ⟨r, hr, ht⟩ := h
    have ho : ¬op.Runtime d.driverId := hseg op (by simp)
    have hid : (d.transition f op).after.driverId = d.driverId := by
      cases op with
      | channel | writeRgb48 => rw [transition_handle d rfl ho]
      | commit | service => exact absurd trivial ho
      | onBackendSignal | onBackendEvent => rfl
    have hrest : ∀ o ∈ seg, ¬o.Runtime (d.transition f op).after.driverId := by
      intro o hmem
      rw [hid]
      exact hseg o (by simp [hmem])
    unfold unstrayed
    by_cases hs : (d.transition f op).strays = true
    · rw [if_pos hs]
      exact ih hrest (transition_strayed hb hr hs ht)
    · rw [if_neg hs]
      obtain ⟨r', hr', he⟩ := transition_unlatched hr ho hs
      refine ih hrest ⟨r', hr', ?_⟩
      rw [he]
      exact (transition_twin hb.toBisim f op ht).2.2

/-! ## Surfaced once -/

variable {setup : PreparedSetup} {handles : ConfiguredChannels}

/-- After the calls `ops`, an ingress violation surfaces once and harmlessly. -/
structure IngressOnce (f : Features) (d : Driver (Recorder B) .ready) (ops : List Op) : Prop where
  surfaces : ∀ op : Op, op.Runtime d.driverId →
    ((d.afterOps f ops).Surfaces f op ↔ Latched d.driverId (d.trace f ops))
  /-- The public result tells: a commit and a service return `BackendContract` for nothing else. -/
  contract : ∀ op : Op, op = .commit ∨ op = .service →
    (((d.afterOps f ops).transition f op).result = .error (.error (expected .backendContract)) ↔
      Latched d.driverId (d.trace f ops))
  inert : ∀ op : Op, op.Runtime d.driverId → (d.afterOps f ops).Surfaces f op →
    ∃ r, (d.afterOps f ops).engine.lifecycle = .ready r ∧ ((d.afterOps f ops).transition f op).calls = [] ∧
      ((d.afterOps f ops).transition f op).result = .error (.error (expected .backendContract)) ∧
      ((d.afterOps f ops).transition f op).after = (d.afterOps f ops).withReady { r with ingressViolation := false }
  /-- `seg` are the calls since the last runtime call; the second run lacks their stray events. -/
  again : ∀ (pre seg : List Op) (op : Op), ops = pre ++ seg → (∀ o ∈ pre.getLast?, o.Runtime d.driverId) →
    (∀ o ∈ seg, ¬o.Runtime d.driverId) → op.Runtime d.driverId → (d.afterOps f ops).Surfaces f op →
    (((d.afterOps f ops).transition f op).after.transition f op).result =
        ((d.afterOps f (pre ++ (d.afterOps f pre).unstrayed f seg)).transition f op).result ∧
      (((d.afterOps f ops).transition f op).after.transition f op).calls =
        ((d.afterOps f (pre ++ (d.afterOps f pre).unstrayed f seg)).transition f op).calls
  undisturbed : ∀ event, ∃ r r', (d.afterOps f ops).engine.lifecycle = .ready r ∧
    ((d.afterOps f ops).transition f (.onBackendEvent event)).after.engine.lifecycle = .ready r' ∧
    Undisturbed ((d.afterOps f ops).transition f (.onBackendEvent event)) r r'

/-- Nothing is latched at the start and after a runtime call. -/
theorem Configured.unlatched (hc : Configured setup handles d) {pre : List Op}
    (hpre : ∀ o ∈ pre.getLast?, o.Runtime d.driverId) :
    ∃ r, (d.afterOps f pre).engine.lifecycle = .ready r ∧ r.ingressViolation = false := by
  rcases List.eq_nil_or_concat pre with rfl | ⟨pre, o, rfl⟩
  · exact ⟨_, hc.inv.lifecycle, rfl⟩
  · rw [List.concat_eq_append] at hpre ⊢
    obtain ⟨r, hi, he⟩ := hc.reached (f := f) pre
    have ho : o.Runtime d.driverId := hpre o (by simp)
    rw [afterOps_snoc]
    refine (he o).unlatched ?_ (by rw [transition_before]; exact hi.lifecycle)
    rw [transition_op, transition_before, hc.driverId]
    exact ho

/-- Once the violation is cleared, the driver is the twin of one that saw no stray event since
    the last runtime call. -/
theorem Configured.unstrayed_twin (hc : Configured setup handles d) (hb : EventBlind B rel relLease) {pre seg : List Op}
    (hpre : ∀ o ∈ pre.getLast?, o.Runtime d.driverId) (hseg : ∀ o ∈ seg, ¬o.Runtime d.driverId)
    (hr : (d.afterOps f (pre ++ seg)).engine.lifecycle = .ready r) :
    ((d.afterOps f (pre ++ seg)).withReady { r with ingressViolation := false }).Twin (Recorder.Alike rel)
      (d.afterOps f (pre ++ (d.afterOps f pre).unstrayed f seg)) := by
  obtain ⟨r₀, hr₀, hv₀⟩ := hc.unlatched (f := f) hpre
  -- at the start of the stretch the driver is its own twin
  have hself : (d.afterOps f pre).withReady { r₀ with ingressViolation := false } = d.afterOps f pre := by
    rw [← hv₀]
    unfold withReady
    rw [LedEngine.withReady_self hr₀]
  have hstart : Shadows rel (d.afterOps f pre) (d.afterOps f pre) := by
    refine ⟨r₀, hr₀, ?_⟩
    rw [hself]
    exact ⟨rfl, _, rfl, hb.refl _⟩
  have hshadow : Shadows rel ((d.afterOps f pre).afterOps f seg)
      ((d.afterOps f pre).afterOps f ((d.afterOps f pre).unstrayed f seg)) :=
    unstrayed_shadows hb (by rwa [hc.driverId]) hstart
  rw [← afterOps_append, ← afterOps_append] at hshadow
  obtain ⟨r', hr', ht⟩ := hshadow
  rw [hr] at hr'
  cases hr'
  exact ht

theorem ingress_once (hc : Configured setup handles d) (hb : EventBlind B rel relLease) (ops : List Op) :
    IngressOnce f d ops := by
  obtain ⟨r, hi, he⟩ := hc.reached (f := f) ops
  have hid := hc.driverId (f := f) ops
  have hsurf : ∀ op : Op, op.Runtime d.driverId →
      ((d.afterOps f ops).Surfaces f op ↔ r.ingressViolation = true) := fun op ho =>
    surfaces_iff hi (by rwa [hid])
  have hinert : ∀ op : Op, op.Runtime d.driverId → (d.afterOps f ops).Surfaces f op →
      ((d.afterOps f ops).transition f op).calls = [] ∧
      ((d.afterOps f ops).transition f op).result = .error (.error (expected .backendContract)) ∧
      ((d.afterOps f ops).transition f op).after =
        (d.afterOps f ops).withReady { r with ingressViolation := false } := by
    intro op ho hs
    have h := (he op).inert (by rwa [transition_op, transition_before, hid]) ((hsurf op ho).mp hs)
    rwa [transition_before] at h
  refine ⟨fun op ho => ?_, fun op hop => ?_, fun op ho hs => ⟨r, hi.lifecycle, hinert op ho hs⟩, ?_, fun event => ?_⟩
  · rw [hsurf op ho, hc.latched_iff ops hi.lifecycle]
  · rw [← hc.latched_iff ops hi.lifecycle]
    have ho : op.Runtime d.driverId := by rcases hop with rfl | rfl <;> trivial
    refine ⟨fun hres => ?_, fun hv => (hinert op ho ((hsurf op ho).mpr hv)).2.1⟩
    by_contra hv
    -- without the flag, only a write returns `BackendContract`
    obtain ⟨channel, pixels, h⟩ := (he op).contract (Bool.not_eq_true _ ▸ hv) hres
    rw [transition_op] at h
    rcases hop with rfl | rfl <;> cases h
  · intro pre seg op hops hpre hseg ho hs
    subst hops
    obtain ⟨-, -, hafter⟩ := hinert op ho hs
    obtain ⟨hres, hcalls, -⟩ := transition_twin hb.toBisim f op (hc.unstrayed_twin hb hpre hseg hi.lifecycle)
    rw [hafter]
    exact ⟨hres.symm, hcalls.symm⟩
  · obtain ⟨r', hr', hu⟩ := (he (.onBackendEvent event)).undisturbed (transition_op _)
    exact ⟨r, r', hi.lifecycle, hr', hu⟩

open TestSupport in
theorem ingress_once_pair :
    (pair.1.afterOps .default [.onBackendEvent .transferComplete]).Surfaces .default .service :=
  ((ingress_once pair_configured eventBlind [.onBackendEvent .transferComplete]).surfaces .service trivial).mpr
    ⟨[], _, [], rfl, by decide +kernel, by simp⟩

end Api.Driver

end LedWireDriver
