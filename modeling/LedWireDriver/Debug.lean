/-
  LedWireDriver.Debug — the build with debug assertions.

  The other modules model a release build. Here are the functions that hold a
  `debug_assert!` themselves or through a callee, with their assertions on: a failed one
  panics. The functions that are not here have none.
-/

import LedWireDriver.Run

namespace LedWireDriver.Debug

open Fallible Words Api Engine Pack

variable {B : Type} [LedBackend B]

/-! ## Registration -/

namespace RegistrationTable

def maskBit (channelIndex : Nat) : Checked ChannelMask := do
  assert (channelIndex < ChannelMask.capacityBits)
  rejectIf (ChannelMask.capacityBits ≤ channelIndex) .configurationLimitExceeded
  pure (.fromBits (bit channelIndex))

def registeredChannelMask (table : RegistrationTable) (maxChannels : Nat) : Checked ChannelMask := do
  let bits ← (table.records.toList.zipIdx.take maxChannels).foldlM
    (fun bits (record, index) => if record.isSome then do
        let bit ← maskBit index
        pure (bits ||| bit.bits)
      else pure bits) 0
  pure (.fromBits bits)

def markWritten (table : RegistrationTable) (channelIndex maxChannels : Nat) (dirtyMask : ChannelMask) :
    Checked ChannelMask := do
  let _ ← table.record channelIndex maxChannels
  let bit ← maskBit channelIndex
  pure (.fromBits (dirtyMask.bits ||| bit.bits))

end RegistrationTable

/-! ## The engine -/

namespace LedEngine

def buildRegistrationPlan (e : LedEngine B) (setup : PreparedSetup) (driverId : DriverId) : Checked RegistrationPlan :=
  if !e.isRegistering then do
    assert (e.isRegistering = true)
    .error (.error (.invalidState .mustBeRegistering))
  else RegistrationPlan.fromPreparedSetup setup driverId e.maxChannels e.maxBytesPerChannel

def applyRegistrationPlan (plan : RegistrationPlan) : EngineM B Unit := do
  if !(← get).isRegistering then
    lift (assert ((← get).isRegistering = true))
    fail (.invalidState .mustBeRegistering)
  else
    LedEngine.callBackend (LedBackend.configureChannels plan.specs.toList)
    LedEngine.onChannels (RegistrationTable.commitPlan (← get).maxChannels plan)

def configurePrepared (setup : PreparedSetup) (driverId : DriverId) : EngineM B ConfiguredChannels := do
  let plan ← lift (buildRegistrationPlan (← get) setup driverId)
  applyRegistrationPlan plan
  LedEngine.enterReadyState
  pure (.fromEntries plan.handles)

def markChannelPublished (channelIndex : Nat) : EngineM B Unit := do
  LedEngine.surfaceLatchedIngressViolation
  let e ← get
  let _ ← lift (e.channels.record channelIndex e.maxChannels)
  let ready ← lift e.ready
  let newDirty ← lift (RegistrationTable.markWritten e.channels channelIndex e.maxChannels ready.dirtyMask)
  let ready ← lift e.ready
  modify (·.withReady { ready with dirtyMask := newDirty })

/-- `ready()` or `ready_mut()`, asserted to succeed. -/
def assertReady (e : LedEngine B) : Checked ReadyState :=
  match e.ready with
  | .ok ready => .ok ready
  | .error err => do
    assert (e.isReady = true)
    .error err

def tryStartPendingSubmit : EngineM B Unit := do
  let e ← get
  let ready ← lift (assertReady e)
  match ready.transfer with
  | .inFlight _ _ => pure ()
  | .idle =>
    if ready.pendingMask.isEmpty then pure ()
    else
      let registered ← lift (RegistrationTable.registeredChannelMask e.channels e.maxChannels)
      let pendingMask := ChannelMask.fromBits (ready.pendingMask.bits &&& registered.bits)
      if pendingMask.isEmpty then pure ()
      else
        match ← LedEngine.callBackend (LedBackend.submitChannels pendingMask.bits) with
        | .started =>
          let ready ← lift (assertReady (← get))
          modify (·.withReady
            { ready with transfer := .inFlight false pendingMask,
                         pendingMask := .fromBits (ready.pendingMask.bits &&& ~~~pendingMask.bits) })
          LedEngine.onChannels (LedEngine.advanceSubmitted pendingMask e.maxChannels)
        | .busy => pure ()

def service : EngineM B Unit := do
  LedEngine.surfaceLatchedIngressViolation
  LedEngine.completeInFlightIfReady
  tryStartPendingSubmit

end LedEngine

/-! ## Packing -/

def packIntoBytes (TD SQ : Type) [TemporalDither TD] [Inhabited TD] [SpatialQuantizer SQ] [Inhabited SQ]
    (source : List Rgb48) (layout : PixelLayout) (frame : FrameEpoch) : Prog PackError (List UInt8) Unit := do
  lift (assert ((← get).length % 3 = 0))
  Pack.packIntoBytes TD SQ source layout frame

def packRgb48Active (f : Features) (source : List Rgb48) (layout : PixelLayout) (frame : FrameEpoch) :
    Prog PackError (List UInt8) Unit :=
  packIntoBytes (ActiveTemporalDither f) (ActiveSpatialQuantizer f) source layout frame

def PreparedWrite.packRgb48Active (f : Features) (source : List Rgb48) : Prog EngineError (PreparedWrite B) Unit := fun w =>
  let (target, release) := BackendWriteLease.bytesMut w.lease
  match Debug.packRgb48Active f source w.layout w.framePhase target with
  | .ok _ target => .ok ⟨⟩ { w with lease := release target }
  | .error (.error (.sourceLengthMismatch sourcePixels targetPixels)) target =>
    .error (.error (.sourceLengthMismatch targetPixels sourcePixels)) { w with lease := release target }
  | .error .panic target => .error .panic { w with lease := release target }

/-! ## The projection of errors -/

/-- `unexpected_engine_error` asserts that it is not reached. -/
def projected {T : Type} (p : Projected T) : Fault (Projected T) :=
  match p.backstop with
  | none => .error p
  | some _ => .panic

def mapErr {σ T α : Type} (project : EngineError → Projected T) (x : Prog EngineError σ α) :
    Prog (Projected T) σ α := fun s =>
  match x s with
  | .ok a s' => .ok a s'
  | .error (.error err) s' => .error (projected (project err)) s'
  | .error .panic s' => .error .panic s'

/-! ## The driver -/

namespace Driver

def onEngine {S : Typestate} {E α : Type} (project : EngineError → Projected E) (x : EngineM B α) :
    Prog (Projected E) (Driver B S) α :=
  zoom (·.engine) (fun engine d => { d with engine }) (mapErr project x)

def new (driverId : DriverId) (backend : B) : Except (Fault (Projected DriverInitError)) (Driver B .configuring) :=
  match mapErr mapDriverInitError LedEngine.init (LedEngine.new backend) with
  | .ok _ engine => .ok ⟨driverId, engine⟩
  | .error e _ => .error e

def configurePrepared (setup : PreparedSetup) :
    Prog (Projected RegisterError) (Driver B .configuring) ConfiguredChannels := do
  if setup.isEmpty then fail (expected .emptyConfiguration)
  else
    let d ← get
    if d.engine.isConfigurationCommitted then fail (expected .alreadyConfigured)
    else onEngine mapRegisterBindError (LedEngine.configurePrepared setup d.driverId)

def finalize (d : Driver B .configuring) : Except (Fault Empty) (Driver B .ready) := do
  assert (d.engine.isConfigurationCommitted = true)
  .ok ⟨d.driverId, d.engine⟩

def commit : Driver.DriverM B Unit := onEngine mapRuntimeCommitError LedEngine.submitDirty

def service : Driver.DriverM B Unit := onEngine mapRuntimeServiceError LedEngine.service

end Driver

namespace ChannelWriter

def packAndPublish (f : Features) (pixels : List Rgb48) : Prog (Projected RuntimeError) (PreparedWrite B) Unit := do
  mapErr mapRuntimeWritePackError (PreparedWrite.packRgb48Active f pixels)
  mapErr mapRuntimeWritePublishError PreparedWrite.publish

def acquirePackAndPublish (f : Features) (w : ChannelWriter) (pixels : List Rgb48) : Driver.DriverM B Unit := do
  let write ← Driver.onEngine mapRuntimeWritePrepareError (LedEngine.acquirePreparedWrite w.channelIndex)
  borrowing write (fun write d => { d with engine := d.engine.dropLease write.lease }) (packAndPublish f pixels)

def writeRgb48 (f : Features) (w : ChannelWriter) (pixels : List Rgb48) : Driver.DriverM B Unit := do
  acquirePackAndPublish f w pixels
  Driver.onEngine mapRuntimeMarkPublishedError (LedEngine.markChannelPublished w.channelIndex)

end ChannelWriter

namespace Driver

def perform (f : Features) : Op → Driver.DriverM B Unit
  | .channel channel => do
    let _ ← Driver.channel channel
    pure ()
  | .writeRgb48 channel pixels => do
    let writer ← Driver.channel channel
    ChannelWriter.writeRgb48 f writer pixels
  | .commit => commit
  | .service => service
  | .onBackendSignal signal => modify (Driver.onBackendSignal signal)
  | .onBackendEvent event => modify (Driver.onBackendEvent event)

end Driver

end LedWireDriver.Debug
