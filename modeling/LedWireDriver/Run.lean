/-
  LedWireDriver.Run — whole runs of a driver, seen by its user and by its backend.

  `Recorder B` is the backend `B` with a log of every call it received and every reply it
  gave; it answers as `B` does. A run is a list of public calls (`Op`) on a ready driver
  over a recorded backend: each call is a `Transition`, with its result, the part of the
  log it added and the driver before and after. `Configuring` and `Configured` are the
  drivers that construction and any sequence of `configure_prepared` calls can produce.
-/

import LedWireDriver.Api.Driver
import LedWireDriver.Lib.History

namespace LedWireDriver

open Fallible Words Api Engine Pack

/-! ## The recorder -/

/-- One call a backend received, with its reply. -/
inductive BackendCall where
  | init (reply : Except BackendError Unit)
  | configureChannels (specs : List BackendChannelSpec) (reply : Except BackendError Unit)
  /-- A granted lease is recorded by the channel it says it is for. -/
  | acquireWriteTarget (channel : BackendChannelId) (reply : Except BackendError (AcquireWrite BackendChannelId))
  /-- The slice a lease exposed, and what it was overwritten with. -/
  | bytesMut (exposed written : List UInt8)
  /-- The slice the lease exposes when it is published. -/
  | publish (bytes : List UInt8) (reply : Except BackendError Unit)
  | submitChannels (maskBits : UInt32) (reply : Except BackendError StartTransfer)
  | onSignal (signal : BackendSignal)
  | onEvent (event : BackendEvent)
  deriving DecidableEq

namespace BackendCall

def isSubmit : BackendCall → Bool
  | .submitChannels _ _ => true
  | _ => false

/-- A batch with bit `c` was accepted. -/
def accepts (c : ChannelId) : BackendCall → Bool
  | .submitChannels m (.ok .started) => has m c.asIndex
  | _ => false

end BackendCall

structure Recorder (B : Type) where
  inner : B
  calls : List BackendCall

structure RecordedLease (L : Type) where
  inner : L
  calls : List BackendCall

namespace Recorder

variable {B L : Type}

def log (r : Recorder B) (inner : B) (call : BackendCall) : Recorder B := ⟨inner, r.calls ++ [call]⟩

instance [BackendWriteLease L] : BackendWriteLease (RecordedLease L) where
  channel l := BackendWriteLease.channel l.inner
  bytesMut l :=
    let (exposed, release) := BackendWriteLease.bytesMut l.inner
    (exposed, fun written => ⟨release written, l.calls ++ [.bytesMut exposed written]⟩)
  publish l :=
    let (reply, inner) := BackendWriteLease.publish l.inner
    (reply, ⟨inner, l.calls ++ [.publish (BackendWriteLease.bytesMut l.inner).1 reply]⟩)

instance [LedBackend B] : LedBackend (Recorder B) where
  WriteLease := RecordedLease (WriteLease B)
  writeLease := inferInstance
  init r :=
    let (reply, inner) := LedBackend.init r.inner
    (reply, r.log inner (.init reply))
  capabilities r := LedBackend.capabilities r.inner
  configureChannels specs r :=
    let (reply, inner) := LedBackend.configureChannels specs r.inner
    (reply, r.log inner (.configureChannels specs reply))
  acquireWriteTarget channel r :=
    match LedBackend.acquireWriteTarget channel r.inner with
    | (.error err, inner) => (.error err, r.log inner (.acquireWriteTarget channel (.error err)))
    | (.ok .busy, inner) => (.ok .busy, r.log inner (.acquireWriteTarget channel (.ok .busy)))
    | (.ok (.ready lease), inner) =>
      (.ok (.ready ⟨lease, []⟩),
        r.log inner (.acquireWriteTarget channel (.ok (.ready (BackendWriteLease.channel lease)))))
  dropLease lease r := ⟨LedBackend.dropLease lease.inner r.inner, r.calls ++ lease.calls⟩
  submitChannels maskBits r :=
    let (reply, inner) := LedBackend.submitChannels maskBits r.inner
    (reply, r.log inner (.submitChannels maskBits reply))
  onSignal signal r := r.log (LedBackend.onSignal signal r.inner) (.onSignal signal)
  onEvent event r := r.log (LedBackend.onEvent event r.inner) (.onEvent event)

end Recorder

/-! ## Calls on a ready driver -/

inductive Op where
  | channel (channel : Channel)
  /-- `driver.channel(channel)?.write_rgb48(pixels)` -/
  | writeRgb48 (channel : Channel) (pixels : List Rgb48)
  | commit
  | service
  | onBackendSignal (signal : BackendSignal)
  | onBackendEvent (event : BackendEvent)

structure Transition (B : Type) where
  before : Driver (Recorder B) .ready
  op : Op
  result : Except (Fault (Projected RuntimeError)) Unit
  calls : List BackendCall
  after : Driver (Recorder B) .ready

namespace Api.Driver

variable {B : Type} [LedBackend B]

def perform (f : Features) : Op → DriverM B Unit
  | .channel channel => do
    let _ ← Driver.channel channel
    pure ()
  | .writeRgb48 channel pixels => do
    let writer ← Driver.channel channel
    writer.writeRgb48 f pixels
  | .commit => commit
  | .service => service
  | .onBackendSignal signal => modify (onBackendSignal signal)
  | .onBackendEvent event => modify (onBackendEvent event)

def transition (f : Features) (d : Driver (Recorder B) .ready) (op : Op) : Transition B :=
  match perform f op d with
  | .ok _ d' => ⟨d, op, .ok (), d'.engine.backend.calls.drop d.engine.backend.calls.length, d'⟩
  | .error e d' => ⟨d, op, .error e, d'.engine.backend.calls.drop d.engine.backend.calls.length, d'⟩

/-- The transitions of a sequence of calls. -/
def trace (f : Features) (d : Driver (Recorder B) .ready) : List Op → List (Transition B)
  | [] => []
  | op :: ops => d.transition f op :: trace f (d.transition f op).after ops

/-- The driver after a sequence of calls. -/
def afterOps (f : Features) (d : Driver (Recorder B) .ready) : List Op → Driver (Recorder B) .ready
  | [] => d
  | op :: ops => afterOps f (d.transition f op).after ops

/-! ## Drivers that configuration produces -/

/-- A driver under configuration, with the setup and the handles of the last
    `configure_prepared` that returned `Ok`. -/
inductive Configuring : Driver B .configuring → Option (PreparedSetup × ConfiguredChannels) → Prop
  | new {driverId : DriverId} {backend : B} {d : Driver B .configuring} :
      Driver.new driverId backend = .ok d → Configuring d none
  | failed {d d' : Driver B .configuring} {done : Option (PreparedSetup × ConfiguredChannels)} {setup : PreparedSetup}
      {e : Fault (Projected RegisterError)} :
      Configuring d done → configurePrepared setup d = .error e d' → Configuring d' done
  | configured {d d' : Driver B .configuring} {done : Option (PreparedSetup × ConfiguredChannels)}
      {setup : PreparedSetup} {handles : ConfiguredChannels} :
      Configuring d done → configurePrepared setup d = .ok handles d' → Configuring d' (some (setup, handles))

/-- A finalised driver whose `configure_prepared` accepted `setup` and returned `handles`. -/
def Configured (setup : PreparedSetup) (handles : ConfiguredChannels) (d : Driver B .ready) : Prop :=
  ∃ c, Configuring c (some (setup, handles)) ∧ d = c.finalize

end Api.Driver

namespace Transition

variable {B : Type} (t : Transition B)

/-- A write on logical channel `c` that returned `Ok`. -/
def WritesOk (c : ChannelId) : Prop :=
  ∃ channel pixels, t.op = .writeRgb48 channel pixels ∧ channel.id = c ∧ t.result = .ok ()

def CommitsOk : Prop := t.op = .commit ∧ t.result = .ok ()

/-- The call invoked `submit_channels(m)`. -/
def Submits (m : UInt32) : Prop := ∃ reply, .submitChannels m reply ∈ t.calls

/-- The call invoked `submit_channels(m)` and was answered `Started`. -/
def Starts (m : UInt32) : Prop := .submitChannels m (.ok .started) ∈ t.calls

/-- A `TransferComplete` event was delivered. -/
def Completes : Prop := t.op = .onBackendEvent .transferComplete

/-- How many `submit_channels` calls with bit `c` were answered `Started`. -/
def startedCount (c : ChannelId) (ts : List (Transition B)) : Nat := (ts.flatMap (·.calls)).countP (·.accepts c)

/-- `c` has an `Ok` write newer than the last commit that returned `Ok`. -/
def Uncommitted (c : ChannelId) (ts : List (Transition B)) : Prop :=
  ∃ pre w post, ts = pre ++ w :: post ∧ w.WritesOk c ∧ ∀ t ∈ post, ¬t.CommitsOk

/-- `c` has an `Ok` write whose first later `Ok` commit comes after the last `Started` reply. -/
def Unsent (c : ChannelId) (ts : List (Transition B)) : Prop :=
  ∃ pre w mid k post, ts = pre ++ w :: mid ++ k :: post ∧ w.WritesOk c ∧ (∀ t ∈ mid, ¬t.CommitsOk) ∧ k.CommitsOk ∧
    ∀ t ∈ post, ∀ m, ¬t.Starts m

end Transition

end LedWireDriver
