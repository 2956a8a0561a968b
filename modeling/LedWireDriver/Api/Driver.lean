/-
  LedWireDriver.Api.Driver — the public driver (`src/api/driver.rs`).

  The typestate is an index of `Driver`. The owner token a new driver gets from
  `allocate_driver_id` is an argument of `new`. A channel writer borrows the driver, so its
  methods are programs on the driver.
-/

import LedWireDriver.Api.ErrorMap

namespace LedWireDriver.Api

open Fallible Engine Pack

inductive Typestate where
  | configuring
  | ready

structure Driver (B : Type) (S : Typestate) where
  driverId : DriverId
  engine : LedEngine B

structure ChannelWriter where
  channelIndex : Nat

namespace Driver

variable {B : Type} [LedBackend B]

/-- Runs an engine operation and projects its error. -/
def onEngine {S : Typestate} {E α : Type} (project : EngineError → Projected E) (x : EngineM B α) :
    Prog (Projected E) (Driver B S) α :=
  zoom (·.engine) (fun engine d => { d with engine }) (mapErr project x)

/-! ## Configuring -/

def new (driverId : DriverId) (backend : B) : Except (Fault (Projected DriverInitError)) (Driver B .configuring) :=
  match mapErr mapDriverInitError LedEngine.init (LedEngine.new backend) with
  | .ok _ engine => .ok ⟨driverId, engine⟩
  | .error e _ => .error e

def configurePrepared (setup : PreparedSetup) :
    Prog (Projected RegisterError) (Driver B .configuring) ConfiguredChannels := do
  if setup.isEmpty then fail (expected .emptyConfiguration)
  else
    let d ← get
    if d.engine.isConfigurationCommitted then fail (expected .alreadyConfigured)
    else onEngine mapRegisterBindError (LedEngine.configurePrepared setup d.driverId)

def finalize (d : Driver B .configuring) : Driver B .ready := ⟨d.driverId, d.engine⟩

/-! ## Ready -/

abbrev DriverM (B : Type) := Prog (Projected RuntimeError) (Driver B .ready)

def channel (channel : Channel) : DriverM B ChannelWriter := do
  let d ← get
  if channel.owner ≠ d.driverId then fail (expected .invalidChannel)
  else pure ⟨channel.asIndex⟩

def commit : DriverM B Unit := onEngine mapRuntimeCommitError LedEngine.submitDirty

def service : DriverM B Unit := onEngine mapRuntimeServiceError LedEngine.service

def onBackendSignal (signal : BackendSignal) (d : Driver B .ready) : Driver B .ready :=
  { d with engine := d.engine.onBackendSignal signal }

def onBackendEvent (event : BackendEvent) (d : Driver B .ready) : Driver B .ready :=
  { d with engine := d.engine.onBackendEvent event }

end Driver

namespace ChannelWriter

variable {B : Type} [LedBackend B]

/-- What the write does with its lease, which is dropped at the end of its scope. -/
def packAndPublish (f : Features) (pixels : List Rgb48) : Prog (Projected RuntimeError) (PreparedWrite B) Unit := do
  mapErr mapRuntimeWritePackError (PreparedWrite.packRgb48Active f pixels)
  mapErr mapRuntimeWritePublishError PreparedWrite.publish

def acquirePackAndPublish (f : Features) (w : ChannelWriter) (pixels : List Rgb48) : Driver.DriverM B Unit := do
  let write ← Driver.onEngine mapRuntimeWritePrepareError (LedEngine.acquirePreparedWrite w.channelIndex)
  borrowing write (fun write d => { d with engine := d.engine.dropLease write.lease }) (packAndPublish f pixels)

def writeRgb48 (f : Features) (w : ChannelWriter) (pixels : List Rgb48) : Driver.DriverM B Unit := do
  w.acquirePackAndPublish f pixels
  Driver.onEngine mapRuntimeMarkPublishedError (LedEngine.markChannelPublished w.channelIndex)

end ChannelWriter

end LedWireDriver.Api
