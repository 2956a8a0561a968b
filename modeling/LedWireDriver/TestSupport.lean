/-
  LedWireDriver.TestSupport — the scripted backend of the crate's own tests
  (`src/test_support.rs`).

  The state the backend shares with its test handle (the script and the log) is a field. A
  lease holds the slot and the shared state it borrows; dropping it writes both back. A slot
  index is below the capacity wherever the source indexes with it.
-/

import LedWireDriver.Twins

namespace LedWireDriver.TestSupport

open Words Api Engine Pack

structure FakeBackendLog where
  initCalls : Nat
  configuredSpecs : List (List BackendChannelSpec)
  submitMasks : List UInt32
  signals : List BackendSignal
  events : List BackendEvent
  deriving DecidableEq, Repr

inductive AcquireBehavior where
  | ready
  | busy
  | error (err : BackendError)
  | wrongChannel (returned : BackendChannelId)
  | wrongLength (len : Nat)
  deriving DecidableEq, Repr

structure FakeBackendScript where
  nextInit : Option BackendError
  nextConfigure : Option BackendError
  nextSubmit : Option (Except BackendError StartTransfer)
  acquire : Vector AcquireBehavior driverMaxChannels
  publish : Vector (Option BackendError) driverMaxChannels

structure FakeBackendShared where
  script : FakeBackendScript
  log : FakeBackendLog

structure FakeChannelSlot where
  configured : Bool
  channel : BackendChannelId
  bytes : List UInt8
  writeAcquired : Bool
  writePublished : Bool
  deriving DecidableEq, Repr

structure FakeBackend where
  capabilities : BackendCapabilities
  slots : Vector FakeChannelSlot driverMaxChannels
  shared : FakeBackendShared

structure FakeWriteLease where
  index : Fin driverMaxChannels
  slot : FakeChannelSlot
  shared : FakeBackendShared
  returnedChannel : BackendChannelId
  exposedLen : Nat

def FakeBackendScript.default : FakeBackendScript :=
  ⟨none, none, none, Vector.replicate _ .ready, Vector.replicate _ none⟩

def FakeBackendLog.default : FakeBackendLog := ⟨0, [], [], [], []⟩

def FakeChannelSlot.default : FakeChannelSlot := ⟨false, ⟨0⟩, [], false, false⟩

namespace FakeBackend

def new (capabilities : BackendCapabilities) : FakeBackend :=
  ⟨capabilities, Vector.replicate _ .default, ⟨.default, .default⟩⟩

/-- The loop of `validate_specs`, with the channels seen so far. -/
def validateSpecs (self : FakeBackend) (seen : List Nat) : List BackendChannelSpec → Except BackendError Unit
  | [] => .ok ()
  | spec :: specs =>
    let index := spec.channel.asIndex
    if self.capabilities.maxChannels ≤ index ∨ driverMaxChannels ≤ index then .error .invalidBinding
    else if index ∈ seen then .error .invalidBinding
    else
      match self.capabilities.maxBytesPerChannel with
      | none => self.validateSpecs (index :: seen) specs
      | some maxBytes =>
        match checkedMul spec.pixels.toUInt32 3 with
        | none => .error .invalidBinding
        | some wireBytes =>
          if maxBytes < wireBytes then .error .invalidBinding else self.validateSpecs (index :: seen) specs

def withScript (self : FakeBackend) (script : FakeBackendScript) : FakeBackend :=
  { self with shared := { self.shared with script } }

def withLog (self : FakeBackend) (log : FakeBackendLog) : FakeBackend :=
  { self with shared := { self.shared with log } }

def init (self : FakeBackend) : Except BackendError Unit × FakeBackend :=
  let self := self.withLog { self.shared.log with initCalls := self.shared.log.initCalls + 1 }
  match self.shared.script.nextInit with
  | some err => (.error err, self.withScript { self.shared.script with nextInit := none })
  | none => (.ok (), self)

def configureSlots (slots : Vector FakeChannelSlot driverMaxChannels) (specs : List BackendChannelSpec) :
    Vector FakeChannelSlot driverMaxChannels :=
  specs.foldl (fun slots spec => slots.setIfInBounds spec.channel.asIndex
    ⟨true, spec.channel, List.replicate (spec.pixels.toNat * 3) 0, false, false⟩) slots

def configureChannels (specs : List BackendChannelSpec) (self : FakeBackend) : Except BackendError Unit × FakeBackend :=
  match self.validateSpecs [] specs with
  | .error err => (.error err, self)
  | .ok _ =>
    let self := self.withLog { self.shared.log with configuredSpecs := self.shared.log.configuredSpecs ++ [specs] }
    match self.shared.script.nextConfigure with
    | some err => (.error err, self.withScript { self.shared.script with nextConfigure := none })
    | none => (.ok (), { self with slots := configureSlots (Vector.replicate _ .default) specs })

def acquireWriteTarget (channel : BackendChannelId) (self : FakeBackend) :
    Except BackendError (AcquireWrite FakeWriteLease) × FakeBackend :=
  let index := channel.asIndex
  if self.capabilities.maxChannels ≤ index then (.error .invalidBinding, self)
  else if h : index < driverMaxChannels then
    let behavior := self.shared.script.acquire[index]
    let self := self.withScript { self.shared.script with acquire := self.shared.script.acquire.set index .ready }
    let grant (returnedChannel : BackendChannelId) (exposedLen : Nat) :
        Except BackendError (AcquireWrite FakeWriteLease) × FakeBackend :=
      let slot := self.slots[index]
      if !slot.configured || slot.channel != channel || slot.writeAcquired then (.ok .busy, self)
      else
        let slot := { slot with writeAcquired := true, writePublished := false }
        (.ok (.ready ⟨⟨index, h⟩, slot, self.shared, returnedChannel, min exposedLen slot.bytes.length⟩),
          { self with slots := self.slots.set index slot })
    match behavior with
    | .busy => (.ok .busy, self)
    | .error err => (.error err, self)
    | .wrongChannel wrong => grant wrong self.slots[index].bytes.length
    | .wrongLength len => grant channel len
    | .ready => grant channel self.slots[index].bytes.length
  else (.error .invalidBinding, self)

def submitChannels (maskBits : UInt32) (self : FakeBackend) : Except BackendError StartTransfer × FakeBackend :=
  let self := self.withLog { self.shared.log with submitMasks := self.shared.log.submitMasks ++ [maskBits] }
  match self.shared.script.nextSubmit with
  | some result => (result, self.withScript { self.shared.script with nextSubmit := none })
  | none => (.ok .started, self)

/-- The end of the lease's borrow, its `drop` included. -/
def dropLease (lease : FakeWriteLease) (self : FakeBackend) : FakeBackend :=
  let slot := if lease.slot.writePublished then lease.slot else { lease.slot with writeAcquired := false }
  { self with slots := self.slots.set lease.index slot, shared := lease.shared }

def onSignal (signal : BackendSignal) (self : FakeBackend) : FakeBackend :=
  self.withLog { self.shared.log with signals := self.shared.log.signals ++ [signal] }

def onEvent (event : BackendEvent) (self : FakeBackend) : FakeBackend :=
  self.withLog { self.shared.log with events := self.shared.log.events ++ [event] }

end FakeBackend

namespace FakeWriteLease

def bytesMut (self : FakeWriteLease) : List UInt8 × (List UInt8 → FakeWriteLease) :=
  (self.slot.bytes.take self.exposedLen,
    fun written => { self with slot := { self.slot with bytes := written ++ self.slot.bytes.drop self.exposedLen } })

def publish (self : FakeWriteLease) : Except BackendError Unit × FakeWriteLease :=
  let channelIndex := self.slot.channel.asIndex
  match self.shared.script.publish[channelIndex]?.join with
  | some err =>
    let publish := self.shared.script.publish.setIfInBounds channelIndex none
    (.error err, { self with shared := { self.shared with script := { self.shared.script with publish } } })
  | none => (.ok (), { self with slot := { self.slot with writePublished := true, writeAcquired := false } })

end FakeWriteLease

instance : BackendWriteLease FakeWriteLease where
  channel := FakeWriteLease.returnedChannel
  bytesMut := FakeWriteLease.bytesMut
  publish := FakeWriteLease.publish

instance : LedBackend FakeBackend where
  WriteLease := FakeWriteLease
  writeLease := inferInstance
  init := FakeBackend.init
  capabilities := FakeBackend.capabilities
  configureChannels := FakeBackend.configureChannels
  acquireWriteTarget := FakeBackend.acquireWriteTarget
  dropLease := FakeBackend.dropLease
  submitChannels := FakeBackend.submitChannels
  onSignal := FakeBackend.onSignal
  onEvent := FakeBackend.onEvent

/-- A lease of the fake exposes the same part of its slot each time. -/
theorem stableLeases : StableLeases FakeBackend := by
  intro lease bytes hb
  obtain ⟨index, slot, shared, channel, exposedLen⟩ := lease
  change bytes.length = (slot.bytes.take exposedLen).length at hb
  rw [List.length_take] at hb
  show (bytes ++ slot.bytes.drop exposedLen).take exposedLen = bytes
  by_cases h : exposedLen ≤ slot.bytes.length
  · rw [List.take_append_of_le_length (by omega), List.take_of_length_le (by omega)]
  · rw [List.drop_of_length_le (by omega), List.append_nil, List.take_of_length_le (by omega)]

/-- Fakes that differ in their logs only. -/
def SameBut (b b' : FakeBackend) : Prop := ∃ log, b' = b.withLog log

def FakeWriteLease.SameBut (l l' : FakeWriteLease) : Prop := ∃ log, l' = { l with shared := { l.shared with log } }

theorem sameBut_equivalence : Equivalence SameBut where
  refl b := ⟨b.shared.log, rfl⟩
  symm := by
    intro b b' h
    obtain ⟨log, rfl⟩ := h
    exact ⟨b.shared.log, rfl⟩
  trans := by
    intro b b' b'' h h'
    obtain ⟨log, rfl⟩ := h
    obtain ⟨log', rfl⟩ := h'
    exact ⟨log', rfl⟩

/-- A fake only logs its events. -/
theorem eventBlind : EventBlind FakeBackend SameBut FakeWriteLease.SameBut where
  acquire := by
    intro channel b b' hb
    obtain ⟨log, rfl⟩ := hb
    simp only [LedBackend.acquireWriteTarget, FakeBackend.acquireWriteTarget, FakeBackend.withLog,
      FakeBackend.withScript]
    by_cases hm : b.capabilities.maxChannels ≤ channel.asIndex
    · simp only [hm, ↓reduceIte]
      exact .error _ ⟨log, rfl⟩
    by_cases hi : channel.asIndex < driverMaxChannels
    · simp only [hm, hi, ↓reduceIte, ↓reduceDIte]
      by_cases hb : (!b.slots[channel.asIndex].configured || b.slots[channel.asIndex].channel != channel ||
          b.slots[channel.asIndex].writeAcquired) = true
      · simp only [hb, ↓reduceIte]
        rcases b.shared.script.acquire[channel.asIndex] with _ | _ | err | wrong | len
        · exact .ok .busy ⟨log, rfl⟩
        · exact .ok .busy ⟨log, rfl⟩
        · exact .error err ⟨log, rfl⟩
        · exact .ok .busy ⟨log, rfl⟩
        · exact .ok .busy ⟨log, rfl⟩
      · simp only [hb, ↓reduceIte, Bool.false_eq_true]
        rcases b.shared.script.acquire[channel.asIndex] with _ | _ | err | wrong | len
        · exact .ok (.ready ⟨log, rfl⟩) ⟨log, rfl⟩
        · exact .ok .busy ⟨log, rfl⟩
        · exact .error err ⟨log, rfl⟩
        · exact .ok (.ready ⟨log, rfl⟩) ⟨log, rfl⟩
        · exact .ok (.ready ⟨log, rfl⟩) ⟨log, rfl⟩
    · simp only [hm, hi, ↓reduceIte, ↓reduceDIte]
      exact .error _ ⟨log, rfl⟩
  channel := by
    intro l l' hl
    obtain ⟨log, rfl⟩ := hl
    rfl
  exposed := by
    intro l l' hl
    obtain ⟨log, rfl⟩ := hl
    rfl
  released := by
    intro l l' bytes hx
    obtain ⟨log, rfl⟩ := hx
    exact ⟨log, rfl⟩
  publish := by
    intro l l' hl
    obtain ⟨log, rfl⟩ := hl
    simp only [BackendWriteLease.publish, FakeWriteLease.publish]
    rcases l.shared.script.publish[l.slot.channel.asIndex]?.join with _ | err
    · exact .ok rfl ⟨log, rfl⟩
    · exact .error err ⟨log, rfl⟩
  dropLease := by
    intro l l' b b' hl hb
    obtain ⟨log, rfl⟩ := hl
    obtain ⟨log', rfl⟩ := hb
    exact ⟨log, rfl⟩
  submit := by
    intro m b b' hb
    obtain ⟨log, rfl⟩ := hb
    simp only [LedBackend.submitChannels, FakeBackend.submitChannels, FakeBackend.withLog]
    rcases b.shared.script.nextSubmit with _ | _ | _
    · exact .ok rfl ⟨_, rfl⟩
    · exact .error _ ⟨_, rfl⟩
    · exact .ok rfl ⟨_, rfl⟩
  onSignal := by
    intro signal b b' hb
    obtain ⟨log, rfl⟩ := hb
    exact ⟨_, rfl⟩
  onEvent := by
    intro event b b' hb
    obtain ⟨log, rfl⟩ := hb
    exact ⟨_, rfl⟩
  refl b := ⟨b.shared.log, rfl⟩
  blind := by
    intro event b b' hb
    obtain ⟨log, rfl⟩ := hb
    exact ⟨log, rfl⟩

/-! ## Drivers over the fake -/

/-- A driver over a recorded fake in any state, configured with `setup`. -/
def configuredOver (backend : FakeBackend) (setup : PreparedSetup) :
    Option (Driver (Recorder FakeBackend) .ready × ConfiguredChannels) :=
  match Driver.new ⟨1⟩ (⟨backend, []⟩ : Recorder FakeBackend) with
  | .error _ => none
  | .ok d =>
    match Driver.configurePrepared setup d with
    | .error _ _ => none
    | .ok handles d => some (d.finalize, handles)

theorem configuredOver_get {backend : FakeBackend} {setup : PreparedSetup}
    (h : (configuredOver backend setup).isSome = true) :
    Driver.Configured setup ((configuredOver backend setup).get h).2 ((configuredOver backend setup).get h).1 := by
  have hs := Option.some_get h
  generalize (configuredOver backend setup).get h = c at hs
  unfold configuredOver at hs
  split at hs
  · cases hs
  · rename_i hnew
    split at hs
    · cases hs
    · rename_i hconf
      cases hs
      exact ⟨_, .configured (.new hnew) hconf, rfl⟩

/-- A driver over a new recorded fake, configured with `setup`. -/
def configured (capabilities : BackendCapabilities) (setup : PreparedSetup) :
    Option (Driver (Recorder FakeBackend) .ready × ConfiguredChannels) :=
  configuredOver (.new capabilities) setup

theorem configured_get {capabilities : BackendCapabilities} {setup : PreparedSetup}
    (h : (configured capabilities setup).isSome = true) :
    Driver.Configured setup ((configured capabilities setup).get h).2 ((configured capabilities setup).get h).1 :=
  configuredOver_get h

/-- Two strips, each logical channel on the backend channel of its number. -/
def pairSetup : PreparedSetup :=
  ⟨⟨[⟨⟨0⟩, ⟨0⟩, 2, .grb⟩, ⟨⟨1⟩, ⟨1⟩, 2, .grb⟩], by decide⟩, ⟨by decide, by decide, by decide, by decide⟩⟩

/-- The same strips with the logical channels swapped: the backend is told the same. -/
def swappedSetup : PreparedSetup :=
  ⟨⟨[⟨⟨1⟩, ⟨0⟩, 2, .grb⟩, ⟨⟨0⟩, ⟨1⟩, 2, .grb⟩], by decide⟩, ⟨by decide, by decide, by decide, by decide⟩⟩

def capabilities : BackendCapabilities := ⟨8, some 600⟩

def pair : Driver (Recorder FakeBackend) .ready × ConfiguredChannels :=
  (configured capabilities pairSetup).get (by decide +kernel)

theorem pair_configured : Driver.Configured pairSetup pair.2 pair.1 := configured_get _

def swapped : Driver (Recorder FakeBackend) .ready × ConfiguredChannels :=
  (configured capabilities swappedSetup).get (by decide +kernel)

theorem swapped_configured : Driver.Configured swappedSetup swapped.2 swapped.1 :=
  configured_get _

/-- The pair over a fake that refuses its first submission. -/
def busy : Driver (Recorder FakeBackend) .ready × ConfiguredChannels :=
  (configuredOver ((FakeBackend.new capabilities).withScript
    { FakeBackendScript.default with nextSubmit := some (.ok .busy) }) pairSetup).get (by decide +kernel)

theorem busy_configured : Driver.Configured pairSetup busy.2 busy.1 := configuredOver_get _

/-- A driver over a new recorded fake, before any configuration. -/
def fresh (driverId : DriverId) : Driver (Recorder FakeBackend) .configuring :=
  ⟨driverId, { LedEngine.new (LedBackend.init (⟨.new capabilities, []⟩ : Recorder FakeBackend)).2 with
    lifecycle := .registering }⟩

theorem fresh_new (driverId : DriverId) :
    Driver.new driverId (⟨.new capabilities, []⟩ : Recorder FakeBackend) = .ok (fresh driverId) := rfl

theorem fresh_configuring (driverId : DriverId) : Driver.Configuring (fresh driverId) none := .new (fresh_new driverId)

/-- The handle of a logical channel, issued by either driver. -/
def handle (raw : UInt8) : Channel := ⟨⟨1⟩, ⟨raw⟩⟩

def frame : List Rgb48 := [⟨100, 200, 300⟩, ⟨65535, 0, 1⟩]

/-- A write of one channel, and its commit. -/
def writing (raw : UInt8) : List Op := [.writeRgb48 (handle raw) frame, .commit]

/-- A write of each channel, the first one committed before the second. -/
def commitBetween : List Op := writing 0 ++ [.writeRgb48 (handle 1) frame]

/-- The same writes, committed together. -/
def commitLast : List Op := .writeRgb48 (handle 0) frame :: writing 1

/-- A write of channel 0, its commit, and a second write before any service. -/
def rewriting : List Op := [.writeRgb48 (handle 0) frame, .commit, .writeRgb48 (handle 0) frame]

/-- The second write committed and accepted after the first one's batch. -/
def lagging : List Op := rewriting ++ [.service, .commit, .onBackendEvent .transferComplete]

theorem rewriting_ready :
    (pair.1.afterOps .default rewriting).engine.lifecycle = .ready ⟨.idle, ⟨1⟩, ⟨1⟩, false⟩ := by decide +kernel

theorem rewriting_submits : ((pair.1.afterOps .default rewriting).transition .default .service).Submits 1 :=
  ⟨.ok .started, by decide +kernel⟩

theorem writing_submits : ((pair.1.afterOps .default (writing 0)).transition .default .service).Submits 1 :=
  ⟨.ok .started, by decide +kernel⟩

theorem writing_submits_swapped :
    ((swapped.1.afterOps .default (writing 1)).transition .default .service).Submits 2 :=
  ⟨.ok .started, by decide +kernel⟩

theorem commitBetween_submits :
    ((pair.1.afterOps .default commitBetween).transition .default .service).Submits 1 :=
  ⟨.ok .started, by decide +kernel⟩

theorem commitLast_submits :
    ((pair.1.afterOps .default commitLast).transition .default .service).Submits 3 :=
  ⟨.ok .started, by decide +kernel⟩

def bayer : Features := ⟨.packTdBayer, .packSqNone⟩

theorem lagging_starts : ((pair.1.afterOps bayer lagging).transition bayer .service).Starts 1 := by
  unfold Transition.Starts
  decide +kernel

end LedWireDriver.TestSupport
