/-
  LedWireDriver.Engine.Runtime — the driver engine over any backend (`src/engine/mod.rs`,
  `runtime.rs`, `prepared_write.rs`).

  An engine operation is a `Prog` on the whole engine, so its effects stay when it fails.
  `callBackend` hands the backend's state to one backend method; a live write lease is a
  value beside the engine, and `dropLease` gives it back. Debug assertions are off.
-/

import LedWireDriver.Engine.Registration
import LedWireDriver.Pack

namespace LedWireDriver.Engine

open Fallible Words Api Pack

inductive TransferState where
  | idle
  | inFlight (dmaCompletePending : Bool) (submittedMask : ChannelMask)
  deriving DecidableEq, Repr

@[ext] structure ReadyState where
  transfer : TransferState
  dirtyMask : ChannelMask
  pendingMask : ChannelMask
  ingressViolation : Bool
  deriving DecidableEq, Repr

namespace ReadyState

def new : ReadyState := ⟨.idle, .zero, .zero, false⟩

def takeIngressViolation (s : ReadyState) : Option BackendContractViolation × ReadyState :=
  if s.ingressViolation then (some .transferCompleteWhileIdle, { s with ingressViolation := false }) else (none, s)

end ReadyState

inductive EngineLifecycle where
  | uninitialized
  | registering
  | ready (state : ReadyState)
  deriving DecidableEq, Repr

structure LedEngine (B : Type) where
  backend : B
  maxChannels : Nat
  maxBytesPerChannel : Option UInt32
  lifecycle : EngineLifecycle
  channels : RegistrationTable

/-- The write object of one acquired lease. -/
structure PreparedWrite (B : Type) [LedBackend B] where
  layout : PixelLayout
  framePhase : FrameEpoch
  lease : WriteLease B

abbrev EngineM (B : Type) := Prog EngineError (LedEngine B)

namespace LedEngine

variable {B : Type}

def isRegistering (e : LedEngine B) : Bool :=
  match e.lifecycle with
  | .registering => true
  | _ => false

def isReady (e : LedEngine B) : Bool :=
  match e.lifecycle with
  | .ready _ => true
  | _ => false

def isConfigurationCommitted (e : LedEngine B) : Bool := e.isReady

/-- `ready()` and `ready_mut()` -/
def ready (e : LedEngine B) : Checked ReadyState :=
  match e.lifecycle with
  | .ready state => .ok state
  | _ => .error (.error (.invalidState .mustBeReady))

def withReady (e : LedEngine B) (state : ReadyState) : LedEngine B := { e with lifecycle := .ready state }

variable [LedBackend B]

/-! ## Lifecycle and configuration -/

def new (backend : B) : LedEngine B :=
  let capabilities := LedBackend.capabilities backend
  { backend, maxChannels := min capabilities.maxChannels driverMaxChannels,
    maxBytesPerChannel := capabilities.maxBytesPerChannel, lifecycle := .uninitialized, channels := .new }

/-- Runs one backend method and maps its error to `EngineError::Backend`. -/
def callBackend {α : Type} (method : B → Except BackendError α × B) : EngineM B α := fun e =>
  match method e.backend with
  | (.ok a, backend) => .ok a { e with backend }
  | (.error err, backend) => .error (.error (.backend err)) { e with backend }

def init : EngineM B Unit := do
  match (← get).lifecycle with
  | .uninitialized =>
    callBackend LedBackend.init
    modify fun e => { e with lifecycle := .registering }
  | _ => pure ()

def buildRegistrationPlan (e : LedEngine B) (setup : PreparedSetup) (driverId : DriverId) : Checked RegistrationPlan :=
  if !e.isRegistering then .error (.error (.invalidState .mustBeRegistering))
  else RegistrationPlan.fromPreparedSetup setup driverId e.maxChannels e.maxBytesPerChannel

/-- Runs a program of the registration table. -/
def onChannels {α : Type} (x : Prog EngineError RegistrationTable α) : EngineM B α :=
  zoom (·.channels) (fun channels e => { e with channels }) x

def applyRegistrationPlan (plan : RegistrationPlan) : EngineM B Unit := do
  if !(← get).isRegistering then fail (.invalidState .mustBeRegistering)
  else
    callBackend (LedBackend.configureChannels plan.specs.toList)
    onChannels (RegistrationTable.commitPlan (← get).maxChannels plan)

def enterReadyState : EngineM B Unit := do
  if (← get).isReady then pure ()
  else modify fun e => { e with lifecycle := .ready .new }

def configurePrepared (setup : PreparedSetup) (driverId : DriverId) : EngineM B ConfiguredChannels := do
  let plan ← lift ((← get).buildRegistrationPlan setup driverId)
  applyRegistrationPlan plan
  enterReadyState
  pure (.fromEntries plan.handles)

/-! ## Writes -/

def surfaceLatchedIngressViolation : EngineM B Unit := do
  match (← get).ready with
  | .error _ => pure ()
  | .ok ready =>
    match ready.takeIngressViolation with
    | (some violation, ready) =>
      modify (·.withReady ready)
      fail (.backendContractViolation violation)
    | (none, _) => pure ()

def dropLease (lease : WriteLease B) (e : LedEngine B) : LedEngine B :=
  { e with backend := LedBackend.dropLease lease e.backend }

def acquirePreparedWrite (channelIndex : Nat) : EngineM B (PreparedWrite B) := do
  surfaceLatchedIngressViolation
  let e ← get
  let channel ← lift (e.channels.record channelIndex e.maxChannels)
  match ← callBackend (LedBackend.acquireWriteTarget channel.backendChannel) with
  | .busy => fail .writeBusy
  | .ready lease =>
    if BackendWriteLease.channel lease ≠ channel.backendChannel then
      modify (dropLease lease)
      fail (.backendContractViolation .wrongChannelReturned)
    else
      match checkedMul (UInt32.ofNat channel.lenPixels) 3 with
      | none =>
        modify (dropLease lease)
        fail .configurationLimitExceeded
      | some expectedWireBytes =>
        let (bytes, release) := BackendWriteLease.bytesMut lease
        let lease := release bytes
        if bytes.length ≠ expectedWireBytes.toNat then
          modify (dropLease lease)
          fail (.backendContractViolation .wrongTargetLength)
        else pure ⟨channel.layout, channel.framePhase, lease⟩

def markChannelPublished (channelIndex : Nat) : EngineM B Unit := do
  surfaceLatchedIngressViolation
  let e ← get
  let _ ← lift (e.channels.record channelIndex e.maxChannels)
  let ready ← lift e.ready
  let newDirty ← lift (e.channels.markWritten channelIndex e.maxChannels ready.dirtyMask)
  let ready ← lift e.ready
  modify (·.withReady { ready with dirtyMask := newDirty })

def submitDirty : EngineM B Unit := do
  surfaceLatchedIngressViolation
  let ready ← lift (← get).ready
  let dirty := ready.dirtyMask
  if dirty.isEmpty then pure ()
  else
    let ready ← lift (← get).ready
    modify (·.withReady
      { ready with pendingMask := .fromBits (ready.pendingMask.bits ||| dirty.bits), dirtyMask := .zero })

/-! ## Backend ingress -/

def onBackendSignal (signal : BackendSignal) (e : LedEngine B) : LedEngine B :=
  { e with backend := LedBackend.onSignal signal e.backend }

def onBackendEvent (event : BackendEvent) (e : LedEngine B) : LedEngine B :=
  let e := { e with backend := LedBackend.onEvent event e.backend }
  match e.ready with
  | .error _ => e
  | .ok ready =>
    match event with
    | .transferComplete =>
      match ready.transfer with
      | .inFlight _ submittedMask => e.withReady { ready with transfer := .inFlight true submittedMask }
      | .idle => e.withReady { ready with ingressViolation := true }

/-! ## Service -/

def completeInFlightIfReady : EngineM B Unit := do
  match (← get).ready with
  | .error _ => pure ()
  | .ok ready =>
    match ready.transfer with
    | .inFlight true _ => modify (·.withReady { ready with transfer := .idle })
    | _ => pure ()

/-- The phase-advance loop of an accepted batch. -/
def advanceSubmitted (submitted : ChannelMask) (maxChannels : Nat) : Prog EngineError RegistrationTable Unit :=
  (List.range maxChannels).forM fun channelIndex =>
    if submitted.bits &&& bit channelIndex ≠ 0 then RegistrationTable.advancePhase channelIndex maxChannels
    else pure ()

def tryStartPendingSubmit : EngineM B Unit := do
  let e ← get
  let ready ← lift e.ready
  match ready.transfer with
  | .inFlight _ _ => pure ()
  | .idle =>
    if ready.pendingMask.isEmpty then pure ()
    else
      let registered ← lift (e.channels.registeredChannelMask e.maxChannels)
      let pendingMask := ChannelMask.fromBits (ready.pendingMask.bits &&& registered.bits)
      if pendingMask.isEmpty then pure ()
      else
        match ← callBackend (LedBackend.submitChannels pendingMask.bits) with
        | .started =>
          let ready ← lift (← get).ready
          modify (·.withReady
            { ready with transfer := .inFlight false pendingMask,
                         pendingMask := .fromBits (ready.pendingMask.bits &&& ~~~pendingMask.bits) })
          onChannels (advanceSubmitted pendingMask e.maxChannels)
        | .busy => pure ()

def service : EngineM B Unit := do
  surfaceLatchedIngressViolation
  completeInFlightIfReady
  tryStartPendingSubmit

end LedEngine

/-! ## Prepared writes -/

namespace PreparedWrite

variable {B : Type} [LedBackend B]

def packRgb48Active (f : Features) (source : List Rgb48) : Prog EngineError (PreparedWrite B) Unit := fun w =>
  let (target, release) := BackendWriteLease.bytesMut w.lease
  match Pack.packRgb48Active f source w.layout w.framePhase target with
  | .ok _ target => .ok ⟨⟩ { w with lease := release target }
  | .error (.error (.sourceLengthMismatch sourcePixels targetPixels)) target =>
    .error (.error (.sourceLengthMismatch targetPixels sourcePixels)) { w with lease := release target }
  | .error .panic target => .error .panic { w with lease := release target }

def publish : Prog EngineError (PreparedWrite B) Unit := fun w =>
  match BackendWriteLease.publish w.lease with
  | (.ok _, lease) => .ok ⟨⟩ { w with lease }
  | (.error err, lease) => .error (.error (.backend err)) { w with lease }

end PreparedWrite

end LedWireDriver.Engine
