/-
  LedWireDriver.Api.DriverProofs — what one public call on a ready driver does (see
  `LedWireDriver.Api.Driver`).

  `Written` lists the outcomes of one channel write once no violation is latched, each with
  the backend replies that lead to it and the backend it leaves, and `Acquired` those of its
  first half; `writeRgb48_written` says that they are all, and that only a published write
  touches the engine, by one dirty bit.
-/

import LedWireDriver.Api.Driver
import LedWireDriver.Engine.RuntimeProofs

namespace LedWireDriver.Api

open Fallible Words Engine Pack

variable {B : Type} [LedBackend B] {f : Features}

/-! ## Writes -/

/-- The backend granted a lease of the right channel and length. -/
structure Granted (record : ChannelState) (before : B) (lease : WriteLease B) (backend : B) : Prop where
  acquired : LedBackend.acquireWriteTarget record.backendChannel before = (.ok (.ready lease), backend)
  channel : BackendWriteLease.channel lease = record.backendChannel
  length : (BackendWriteLease.bytesMut lease).1.length = 3 * record.lenPixels

/-- The outcomes of acquiring a write, once no violation is latched. -/
inductive Acquired (record : ChannelState) (before : B) : Except EngineError (PreparedWrite B) → B → Prop
  | failed {err : BackendError} {backend : B} :
      LedBackend.acquireWriteTarget record.backendChannel before = (.error err, backend) →
      Acquired record before (.error (.backend err)) backend
  | busy {backend : B} :
      LedBackend.acquireWriteTarget record.backendChannel before = (.ok .busy, backend) →
      Acquired record before (.error .writeBusy) backend
  | wrongChannel {lease : WriteLease B} {backend : B} :
      LedBackend.acquireWriteTarget record.backendChannel before = (.ok (.ready lease), backend) →
      BackendWriteLease.channel lease ≠ record.backendChannel →
      Acquired record before (.error (.backendContractViolation .wrongChannelReturned))
        (LedBackend.dropLease lease backend)
  | wrongLength {lease : WriteLease B} {backend : B} :
      LedBackend.acquireWriteTarget record.backendChannel before = (.ok (.ready lease), backend) →
      BackendWriteLease.channel lease = record.backendChannel →
      (BackendWriteLease.bytesMut lease).1.length ≠ 3 * record.lenPixels →
      Acquired record before (.error (.backendContractViolation .wrongTargetLength))
        (LedBackend.dropLease (LedEngine.peek lease) backend)
  | granted {lease : WriteLease B} {backend : B} : Granted record before lease backend →
      Acquired record before (.ok ⟨record.layout, record.framePhase, LedEngine.peek lease⟩) backend

/-- The lease after its slice was overwritten. -/
def fill (lease : WriteLease B) (bytes : List UInt8) : WriteLease B := (BackendWriteLease.bytesMut lease).2 bytes

/-- The slice a granted lease exposes to packing: its second look. -/
def target (lease : WriteLease B) : List UInt8 := (BackendWriteLease.bytesMut (LedEngine.peek lease)).1

inductive Written (f : Features) (record : ChannelState) (pixels : List Rgb48) (before : B) :
    Except RuntimeError Unit → B → Prop
  | failed {err : BackendError} {backend : B} :
      LedBackend.acquireWriteTarget record.backendChannel before = (.error err, backend) →
      Written f record pixels before (.error .backend) backend
  | busy {backend : B} :
      LedBackend.acquireWriteTarget record.backendChannel before = (.ok .busy, backend) →
      Written f record pixels before (.error .busy) backend
  | wrongChannel {lease : WriteLease B} {backend : B} :
      LedBackend.acquireWriteTarget record.backendChannel before = (.ok (.ready lease), backend) →
      BackendWriteLease.channel lease ≠ record.backendChannel →
      Written f record pixels before (.error .backendContract) (LedBackend.dropLease lease backend)
  | wrongLength {lease : WriteLease B} {backend : B} :
      LedBackend.acquireWriteTarget record.backendChannel before = (.ok (.ready lease), backend) →
      BackendWriteLease.channel lease = record.backendChannel →
      (BackendWriteLease.bytesMut lease).1.length ≠ 3 * record.lenPixels →
      Written f record pixels before (.error .backendContract) (LedBackend.dropLease (LedEngine.peek lease) backend)
  | mismatch {lease : WriteLease B} {backend : B} :
      Granted record before lease backend → pixels.length ≠ (target lease).length / 3 →
      Written f record pixels before (.error .lengthMismatch)
        (LedBackend.dropLease (LedEngine.peek (LedEngine.peek lease)) backend)
  | unpublished {lease lease' : WriteLease B} {backend : B} {bytes : List UInt8} {err : BackendError} :
      Granted record before lease backend → pixels.length = (target lease).length / 3 →
      packRgb48Active f pixels record.layout record.framePhase (target lease) = .ok ⟨⟩ bytes →
      BackendWriteLease.publish (fill (LedEngine.peek lease) bytes) = (.error err, lease') →
      Written f record pixels before (.error .backend) (LedBackend.dropLease lease' backend)
  | published {lease lease' : WriteLease B} {backend : B} {bytes : List UInt8} :
      Granted record before lease backend → pixels.length = (target lease).length / 3 →
      packRgb48Active f pixels record.layout record.framePhase (target lease) = .ok ⟨⟩ bytes →
      BackendWriteLease.publish (fill (LedEngine.peek lease) bytes) = (.ok ⟨⟩, lease') →
      Written f record pixels before (.ok ⟨⟩) (LedBackend.dropLease lease' backend)

namespace Driver

def withBackend {S : Typestate} (d : Driver B S) (backend : B) : Driver B S :=
  { d with engine := { d.engine with backend } }

def withReady {S : Typestate} (d : Driver B S) (r : ReadyState) : Driver B S := { d with engine := d.engine.withReady r }

variable {S : Typestate} {d : Driver B S} {E α : Type} {project : EngineError → Projected E} {x : EngineM B α}

omit [LedBackend B] in
theorem onEngine_ok {a : α} {engine : LedEngine B} (h : x d.engine = .ok a engine) :
    onEngine project x d = .ok a { d with engine } :=
  zoom_ok (mapErr_ok h)

omit [LedBackend B] in
theorem onEngine_error {err : EngineError} {engine : LedEngine B} (h : x d.engine = .error (.error err) engine) :
    onEngine project x d = .error (.error (project err)) { d with engine } :=
  zoom_error (mapErr_error h)

end Driver

theorem packRgb48Active_ok {w : PreparedWrite B} {pixels : List Rgb48} {bytes : List UInt8}
    (h : packRgb48Active f pixels w.layout w.framePhase (BackendWriteLease.bytesMut w.lease).1 = .ok ⟨⟩ bytes) :
    PreparedWrite.packRgb48Active f pixels w = .ok ⟨⟩ { w with lease := fill w.lease bytes } := by
  unfold PreparedWrite.packRgb48Active
  simp only [h, fill]

theorem packRgb48Active_mismatch {w : PreparedWrite B} {pixels : List Rgb48}
    (h : pixels.length ≠ (BackendWriteLease.bytesMut w.lease).1.length / 3) :
    PreparedWrite.packRgb48Active f pixels w =
      .error (.error (.sourceLengthMismatch ((BackendWriteLease.bytesMut w.lease).1.length / 3) pixels.length))
        { w with lease := LedEngine.peek w.lease } := by
  unfold PreparedWrite.packRgb48Active
  simp only [Pack.packRgb48Active, packIntoBytes_mismatch h, LedEngine.peek]

theorem packAndPublish_ok {w : PreparedWrite B} {pixels : List Rgb48} {bytes : List UInt8} {lease : WriteLease B}
    (h : packRgb48Active f pixels w.layout w.framePhase (BackendWriteLease.bytesMut w.lease).1 = .ok ⟨⟩ bytes)
    (hpub : BackendWriteLease.publish (fill w.lease bytes) = (.ok ⟨⟩, lease)) :
    ChannelWriter.packAndPublish f pixels w = .ok ⟨⟩ { w with lease } := by
  unfold ChannelWriter.packAndPublish
  rw [bind_ok (mapErr_ok (packRgb48Active_ok h))]
  refine mapErr_ok ?_
  unfold PreparedWrite.publish
  simp only [hpub]

theorem packAndPublish_unpublished {w : PreparedWrite B} {pixels : List Rgb48} {bytes : List UInt8}
    {lease : WriteLease B} {err : BackendError}
    (h : packRgb48Active f pixels w.layout w.framePhase (BackendWriteLease.bytesMut w.lease).1 = .ok ⟨⟩ bytes)
    (hpub : BackendWriteLease.publish (fill w.lease bytes) = (.error err, lease)) :
    ChannelWriter.packAndPublish f pixels w = .error (.error (expected .backend)) { w with lease } := by
  unfold ChannelWriter.packAndPublish
  rw [bind_ok (mapErr_ok (packRgb48Active_ok h))]
  refine mapErr_error (e := .error (EngineError.backend err)) ?_
  unfold PreparedWrite.publish
  simp only [hpub]

section Write

variable {r : ReadyState} {i : Nat} {record : ChannelState}

theorem acquirePreparedWrite_acquired {e : LedEngine B} (hr : e.lifecycle = .ready r) (hv : r.ingressViolation = false)
    (hi : i < e.maxChannels) (hm : e.maxChannels ≤ driverMaxChannels) (hl : e.channels.lookup i = some record)
    (hlen : record.lenPixels < UInt16.size) :
    ∃ reply backend, Acquired record e.backend reply backend ∧
      LedEngine.acquirePreparedWrite i e = match reply with
        | .ok w => .ok w { e with backend }
        | .error err => .error (.error err) { e with backend } := by
  rcases ha : LedBackend.acquireWriteTarget record.backendChannel e.backend with ⟨reply, backend⟩
  cases reply with
  | error err => exact ⟨_, _, .failed ha, LedEngine.acquire_failed hr hv hi hm hl ha⟩
  | ok reply =>
    cases reply with
    | busy => exact ⟨_, _, .busy ha, LedEngine.acquire_busy hr hv hi hm hl ha⟩
    | ready lease =>
      by_cases hc : BackendWriteLease.channel lease = record.backendChannel
      · by_cases hb : (BackendWriteLease.bytesMut lease).1.length = 3 * record.lenPixels
        · exact ⟨_, _, .granted ⟨ha, hc, hb⟩, LedEngine.acquire_ok hr hv hi hm hl ha hc hlen hb⟩
        · exact ⟨_, _, .wrongLength ha hc hb, LedEngine.acquire_wrongLength hr hv hi hm hl ha hc hlen hb⟩
      · exact ⟨_, _, .wrongChannel ha hc, LedEngine.acquire_wrongChannel hr hv hi hm hl ha hc⟩

variable {d : Driver B .ready}

theorem acquirePackAndPublish_written (f : Features) (pixels : List Rgb48) (hr : d.engine.lifecycle = .ready r)
    (hv : r.ingressViolation = false) (hi : i < d.engine.maxChannels) (hm : d.engine.maxChannels ≤ driverMaxChannels)
    (hl : d.engine.channels.lookup i = some record) (hlen : record.lenPixels < UInt16.size) :
    ∃ reply backend, Written f record pixels d.engine.backend reply backend ∧
      ChannelWriter.acquirePackAndPublish f ⟨i⟩ pixels d = match reply with
        | .ok _ => .ok ⟨⟩ (d.withBackend backend)
        | .error err => .error (.error (expected err)) (d.withBackend backend) := by
  obtain ⟨reply, backend, ha, hacq⟩ := acquirePreparedWrite_acquired hr hv hi hm hl hlen
  unfold ChannelWriter.acquirePackAndPublish
  cases ha with
  | failed ha => exact ⟨_, _, .failed ha, bind_error (Driver.onEngine_error hacq)⟩
  | busy ha => exact ⟨_, _, .busy ha, bind_error (Driver.onEngine_error hacq)⟩
  | wrongChannel ha hc => exact ⟨_, _, .wrongChannel ha hc, bind_error (Driver.onEngine_error hacq)⟩
  | wrongLength ha hc hb => exact ⟨_, _, .wrongLength ha hc hb, bind_error (Driver.onEngine_error hacq)⟩
  | @granted lease _ hg =>
    rw [bind_ok (Driver.onEngine_ok hacq)]
    by_cases hp : pixels.length = (target lease).length / 3
    · -- packing succeeds; the publish decides
      let w : PreparedWrite B := ⟨record.layout, record.framePhase, LedEngine.peek lease⟩
      obtain ⟨bytes, hpack⟩ : ∃ bytes, packRgb48Active f pixels w.layout w.framePhase (target lease) = .ok ⟨⟩ bytes :=
        ⟨_, packIntoBytes_ok hp⟩
      rcases hpub : BackendWriteLease.publish (fill w.lease bytes) with ⟨published, lease'⟩
      cases published with
      | error err =>
        exact ⟨_, _, .unpublished hg hp hpack hpub, borrowing_error (packAndPublish_unpublished (w := w) hpack hpub)⟩
      | ok => exact ⟨_, _, .published hg hp hpack hpub, borrowing_ok (packAndPublish_ok (w := w) hpack hpub)⟩
    · exact ⟨_, _, .mismatch hg hp, borrowing_error (bind_error (mapErr_error (packRgb48Active_mismatch hp)))⟩

/-- One write on a registered channel, with no violation latched: an outcome of `Written`,
    and the channel's dirty bit exactly when it published. -/
theorem writeRgb48_written (f : Features) (pixels : List Rgb48) (hr : d.engine.lifecycle = .ready r)
    (hv : r.ingressViolation = false) (hi : i < d.engine.maxChannels) (hm : d.engine.maxChannels ≤ driverMaxChannels)
    (hl : d.engine.channels.lookup i = some record) (hlen : record.lenPixels < UInt16.size) :
    ∃ reply backend, Written f record pixels d.engine.backend reply backend ∧
      ChannelWriter.writeRgb48 f ⟨i⟩ pixels d = match reply with
        | .ok _ => .ok ⟨⟩ ((d.withBackend backend).withReady { r with dirtyMask := ⟨r.dirtyMask.bits ||| bit i⟩ })
        | .error err => .error (.error (expected err)) (d.withBackend backend) := by
  obtain ⟨reply, backend, hw, hrun⟩ := acquirePackAndPublish_written f pixels hr hv hi hm hl hlen
  refine ⟨reply, backend, hw, ?_⟩
  unfold ChannelWriter.writeRgb48
  cases reply with
  | error err => exact bind_error hrun
  | ok _ =>
    rw [bind_ok hrun]
    exact Driver.onEngine_ok (LedEngine.markChannelPublished_ok (e := (d.withBackend backend).engine) hr hv hi hm hl)

end Write

end LedWireDriver.Api
