/-
  LedWireDriver.Engine.Registration — the engine's error vocabulary, its channel mask and
  channel registration (`src/engine/error.rs`, `mask.rs`, `registration.rs`).

  A `RegistrationPlan` stages one prepared setup (handles, records, backend specs and the
  binding order) without touching the engine; a `RegistrationTable` commits it.
-/

import LedWireDriver.Api.Backend
import LedWireDriver.Api.Channel
import LedWireDriver.Api.Setup

namespace LedWireDriver.Engine

open Fallible Words Api

/-! ## Errors -/

inductive EngineStateExpectation where
  | mustBeRegistering
  | mustBeReady
  deriving DecidableEq, Repr

inductive BackendContractViolation where
  | wrongChannelReturned
  | wrongTargetLength
  | transferCompleteWhileIdle
  deriving DecidableEq, Repr

inductive EngineError where
  | invalidState (expectation : EngineStateExpectation)
  | channelOutOfRange
  | channelNotRegistered
  | channelAlreadyRegistered
  | configurationLimitExceeded
  | sourceLengthMismatch (expectedPixels actualPixels : Nat)
  | writeBusy
  | backendContractViolation (violation : BackendContractViolation)
  | backend (err : BackendError)
  deriving DecidableEq, Repr

/-- A pure engine function that may fail or panic. -/
abbrev Checked (α : Type) := Except (Fault EngineError) α

/-! ## Masks -/

structure ChannelMask where
  bits : UInt32
  deriving DecidableEq, Repr

namespace ChannelMask

def zero : ChannelMask := ⟨0⟩

abbrev capacityBits : Nat := 32

def fromBits (bits : UInt32) : ChannelMask := ⟨bits⟩

def isEmpty (m : ChannelMask) : Bool := m.bits == 0

end ChannelMask

/-! ## Records -/

structure ChannelState where
  lenPixels : Nat
  layout : PixelLayout
  backendChannel : BackendChannelId
  framePhase : FrameEpoch
  deriving DecidableEq, Repr

namespace ChannelState

def new (backendChannel : BackendChannelId) (lenPixels : Nat) (layout : PixelLayout) : ChannelState :=
  ⟨lenPixels, layout, backendChannel, .zero⟩

def advancePhase (s : ChannelState) : ChannelState := { s with framePhase := s.framePhase.wrappingAdd 1 }

end ChannelState

/-! ## The plan -/

structure RegistrationPlan where
  handles : Vector (Option Channel) driverMaxChannels
  records : Vector (Option ChannelState) driverMaxChannels
  specs : BoundedVec BackendChannelSpec driverMaxChannels
  order : BoundedVec Nat driverMaxChannels

namespace RegistrationPlan

def empty : RegistrationPlan := ⟨Vector.replicate _ none, Vector.replicate _ none, .empty, .empty⟩

/-- One turn of the planning loop. -/
def stage (driverId : DriverId) (maxChannels : Nat) (maxBytesPerChannel : Option UInt32) (plan : RegistrationPlan)
    (binding : PreparedBinding) : Checked RegistrationPlan := do
  let channelIndex := binding.logicalChannel.asIndex
  rejectIf (maxChannels ≤ channelIndex) .channelOutOfRange
  let staged ← index plan.records channelIndex
  rejectIf (staged.isSome = true) .channelAlreadyRegistered
  let wireBytes ← okOr (checkedMul binding.pixels.toUInt32 3) .configurationLimitExceeded
  rejectIf (∃ maxBytes ∈ maxBytesPerChannel, maxBytes < wireBytes) .configurationLimitExceeded
  let record := ChannelState.new binding.backendChannel binding.pixels.toNat binding.layout
  let pixels ← okOr (if record.lenPixels < UInt16.size then some (UInt16.ofNat record.lenPixels) else none)
    .channelOutOfRange
  let spec : BackendChannelSpec := ⟨record.backendChannel, pixels, record.layout⟩
  let logicalChannel ← expect (ChannelId.fromIndex channelIndex)
  let handles ← store plan.handles channelIndex (some ⟨driverId, logicalChannel⟩)
  let records ← store plan.records channelIndex (some record)
  let specs ← okOr (plan.specs.push spec) .configurationLimitExceeded
  let order ← okOr (plan.order.push channelIndex) .configurationLimitExceeded
  pure ⟨handles, records, specs, order⟩

def fromPreparedSetup (setup : PreparedSetup) (driverId : DriverId) (maxChannels : Nat)
    (maxBytesPerChannel : Option UInt32) : Checked RegistrationPlan :=
  setup.bindings.toList.foldlM (stage driverId maxChannels maxBytesPerChannel) empty

/-- The record `staged_records` yields for one entry of the order. -/
def stagedRecord (plan : RegistrationPlan) (channelIndex : Nat) : Checked (Nat × ChannelState) := do
  let record ← index plan.records channelIndex
  let record ← expect record
  pure (channelIndex, record)

end RegistrationPlan

/-! ## The table -/

structure RegistrationTable where
  records : Vector (Option ChannelState) driverMaxChannels
  deriving DecidableEq, Repr

namespace RegistrationTable

def new : RegistrationTable := ⟨Vector.replicate _ none⟩

def register (maxChannels channelIndex : Nat) (channel : ChannelState) : Prog EngineError RegistrationTable Unit := do
  lift (rejectIf (maxChannels ≤ channelIndex) .channelOutOfRange)
  let table ← get
  let current ← lift (index table.records channelIndex)
  lift (rejectIf (current.isSome = true) .channelAlreadyRegistered)
  let records ← lift (store table.records channelIndex (some channel))
  set (⟨records⟩ : RegistrationTable)

def commitPlan (maxChannels : Nat) (plan : RegistrationPlan) : Prog EngineError RegistrationTable Unit :=
  plan.order.toList.forM fun i => do
    let (channelIndex, channel) ← lift (plan.stagedRecord i)
    register maxChannels channelIndex channel

def record (table : RegistrationTable) (channelIndex maxChannels : Nat) : Checked ChannelState := do
  rejectIf (maxChannels ≤ channelIndex) .channelOutOfRange
  let record ← index table.records channelIndex
  okOr record .channelNotRegistered

def maskBit (channelIndex : Nat) : Checked ChannelMask := do
  rejectIf (ChannelMask.capacityBits ≤ channelIndex) .configurationLimitExceeded
  pure (.fromBits (bit channelIndex))

def registeredChannelMask (table : RegistrationTable) (maxChannels : Nat) : Checked ChannelMask := do
  let bits ← (table.records.toList.zipIdx.take maxChannels).foldlM
    (fun bits (record, index) => if record.isSome then do
        let bit ← maskBit index
        pure (bits ||| bit.bits)
      else pure bits) 0
  pure (.fromBits bits)

def markWritten (table : RegistrationTable) (channelIndex maxChannels : Nat) (dirtyMask : ChannelMask) :
    Checked ChannelMask := do
  let _ ← table.record channelIndex maxChannels
  let bit ← maskBit channelIndex
  pure (.fromBits (dirtyMask.bits ||| bit.bits))

/-- `record_mut(..)?.advance_phase()` -/
def advancePhase (channelIndex maxChannels : Nat) : Prog EngineError RegistrationTable Unit := do
  lift (rejectIf (maxChannels ≤ channelIndex) .channelOutOfRange)
  let table ← get
  let current ← lift (index table.records channelIndex)
  let record ← lift (okOr current .channelNotRegistered)
  let records ← lift (store table.records channelIndex (some record.advancePhase))
  set (⟨records⟩ : RegistrationTable)

end RegistrationTable

end LedWireDriver.Engine
