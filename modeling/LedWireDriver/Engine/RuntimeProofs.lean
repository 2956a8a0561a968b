/-
  LedWireDriver.Engine.RuntimeProofs — what each engine operation does in the ready state
  (see `LedWireDriver.Engine.Runtime`).

  One group of equations an operation, by the cases of its guards: a latched violation is
  surfaced and nothing else happens; otherwise the operation's own effect. The ones on
  submission assume what the engine keeps (`Registered`): a mask names registered channels
  only.
-/

import LedWireDriver.Engine.RegistrationProofs
import LedWireDriver.Engine.Runtime

namespace LedWireDriver.Engine

open Fallible Words Api Pack

/-- Every bit of the mask is a registered channel below the limit. -/
def Registered (table : RegistrationTable) (maxChannels : Nat) (mask : ChannelMask) : Prop :=
  ∀ i, has mask.bits i = true → i < maxChannels ∧ (table.lookup i).isSome = true

theorem registered_zero (table : RegistrationTable) (maxChannels : Nat) : Registered table maxChannels .zero := by
  intro i h; simp [ChannelMask.zero] at h

theorem Registered.or {table : RegistrationTable} {maxChannels : Nat} {m m' : UInt32}
    (h : Registered table maxChannels ⟨m⟩) (h' : Registered table maxChannels ⟨m'⟩) :
    Registered table maxChannels ⟨m ||| m'⟩ := by
  intro i hi
  rw [has_or, Bool.or_eq_true] at hi
  exact hi.elim (h i) (h' i)

theorem Registered.bit {table : RegistrationTable} {maxChannels i : Nat} {record : ChannelState}
    (hi : i < maxChannels) (h32 : i < 32) (hl : table.lookup i = some record) :
    Registered table maxChannels ⟨bit i⟩ := by
  intro j hj
  rw [has_bit h32, decide_eq_true_eq] at hj
  subst hj
  exact ⟨hi, by rw [hl]; rfl⟩

/-- No accepted batch is waiting for its completion. -/
def TransferState.Free (t : TransferState) : Prop := ∀ mask, t ≠ .inFlight false mask

namespace RegistrationTable

/-- Every record whose bit is set, one phase on. -/
def advanced (table : RegistrationTable) (mask : ChannelMask) : RegistrationTable :=
  ⟨Vector.ofFn fun i : Fin driverMaxChannels =>
    if has mask.bits i then table.records[i].map ChannelState.advancePhase else table.records[i]⟩

theorem lookup_advanced (table : RegistrationTable) (mask : ChannelMask) (i : Nat) :
    (table.advanced mask).lookup i =
      if has mask.bits i then (table.lookup i).map ChannelState.advancePhase else table.lookup i := by
  by_cases h : i < driverMaxChannels
  · rw [lookup_lt _ h, lookup_lt _ h]; simp [advanced]
  · rw [lookup_ge (by omega), lookup_ge (by omega)]; simp

end RegistrationTable

namespace LedEngine

theorem advanceSubmitted_ok {table : RegistrationTable} {mask : ChannelMask} {maxChannels : Nat}
    (hm : maxChannels ≤ driverMaxChannels) (hreg : Registered table maxChannels mask) :
    advanceSubmitted mask maxChannels table = .ok ⟨⟩ (table.advanced mask) := by
  refine forM_ok (fun pre t => ∀ i, t.lookup i =
      if i ∈ pre ∧ has mask.bits i = true then (table.lookup i).map ChannelState.advancePhase else table.lookup i)
    (by simp) ?_ fun table' hinv => RegistrationTable.ext_lookup fun i => ?_
  · intro pre x post t hx ih
    have hnew : x ∉ pre := by
      have hnd := List.nodup_range (n := maxChannels)
      rw [hx, List.nodup_append] at hnd
      exact fun h => hnd.2.2 _ h _ (by simp) rfl
    have hlt : x < maxChannels := by rw [← List.mem_range, hx]; simp
    have h32 : x < 32 := by unfold driverMaxChannels at hm; omega
    by_cases hb : has mask.bits x = true
    · obtain ⟨record, hrec⟩ := Option.isSome_iff_exists.mp (hreg x hb).2
      have hcur : t.lookup x = some record := by rw [ih, if_neg (fun h => hnew h.1), hrec]
      obtain ⟨t', ht, hl⟩ := RegistrationTable.advancePhase_ok hlt hm hcur
      refine ⟨t', by rw [if_pos ((and_bit_ne_zero h32 _).mpr hb), ht], fun i => ?_⟩
      rw [hl, ih]
      by_cases hi : x = i
      · subst hi; simp [hb, hrec]
      · simp [hi, Ne.symm hi]
    · refine ⟨t, by rw [if_neg (mt (and_bit_ne_zero h32 _).mp hb)]; rfl, fun i => ?_⟩
      rw [ih]
      by_cases hi : x = i
      · subst hi; simp [hb]
      · simp [Ne.symm hi]
  · rw [hinv, RegistrationTable.lookup_advanced]
    by_cases hb : has mask.bits i = true
    · simp [hb, (hreg i hb).1]
    · simp [hb]

variable {B : Type} {e : LedEngine B} {r : ReadyState}

theorem ready_ok (hr : e.lifecycle = .ready r) : e.ready = .ok r := by
  unfold ready; rw [hr]

theorem withReady_self (hr : e.lifecycle = .ready r) : e.withReady r = e := by
  unfold withReady; rw [← hr]

/-! ## Backend calls -/

theorem callBackend_ok {α : Type} {method : B → Except BackendError α × B} {a : α} {backend : B}
    (h : method e.backend = (.ok a, backend)) : callBackend method e = .ok a { e with backend } := by
  unfold callBackend; rw [h]

theorem callBackend_error {α : Type} {method : B → Except BackendError α × B} {err : BackendError} {backend : B}
    (h : method e.backend = (.error err, backend)) :
    callBackend method e = .error (.error (.backend err)) { e with backend } := by
  unfold callBackend; rw [h]

/-! ## The latched violation -/

def surfaced (e : LedEngine B) (r : ReadyState) : LedEngine B := e.withReady { r with ingressViolation := false }

theorem surface_clear (hr : e.lifecycle = .ready r) (hv : r.ingressViolation = false) :
    surfaceLatchedIngressViolation e = .ok ⟨⟩ e := by
  unfold surfaceLatchedIngressViolation
  rw [bind_ok (get_apply _), ready_ok hr]
  simp [ReadyState.takeIngressViolation, hv]

theorem surface_latched (hr : e.lifecycle = .ready r) (hv : r.ingressViolation = true) :
    surfaceLatchedIngressViolation e =
      .error (.error (.backendContractViolation .transferCompleteWhileIdle)) (e.surfaced r) := by
  unfold surfaceLatchedIngressViolation
  rw [bind_ok (get_apply _), ready_ok hr]
  simp only [ReadyState.takeIngressViolation, hv, if_true]
  rw [bind_ok (modify_apply _ _)]
  rfl

/-! ## Commit -/

theorem submitDirty_latched (hr : e.lifecycle = .ready r) (hv : r.ingressViolation = true) :
    submitDirty e = .error (.error (.backendContractViolation .transferCompleteWhileIdle)) (e.surfaced r) :=
  bind_error (surface_latched hr hv)

theorem submitDirty_clear (hr : e.lifecycle = .ready r) (hv : r.ingressViolation = false) :
    submitDirty e = .ok ⟨⟩ (e.withReady
      { r with pendingMask := ⟨r.pendingMask.bits ||| r.dirtyMask.bits⟩, dirtyMask := .zero }) := by
  unfold submitDirty
  rw [bind_ok (surface_clear hr hv), bind_ok (get_apply _), ready_ok hr, bind_ok (lift_ok _ _)]
  by_cases hd : r.dirtyMask.isEmpty = true
  · have h0 : r.dirtyMask = .zero := by
      cases h : r.dirtyMask; simpa [ChannelMask.isEmpty, ChannelMask.zero, h] using hd
    have hz : r.pendingMask.bits ||| ChannelMask.zero.bits = r.pendingMask.bits := UInt32.or_zero
    rw [if_apply_pos hd, pure_apply, h0, hz, ← h0, withReady_self hr]
  · rw [if_apply_neg hd, bind_ok (get_apply _), ready_ok hr, bind_ok (lift_ok _ _)]
    rfl

/-! ## Writes -/

section Write

variable {i : Nat} {record : ChannelState}

theorem markChannelPublished_ok (hr : e.lifecycle = .ready r) (hv : r.ingressViolation = false)
    (hi : i < e.maxChannels) (hm : e.maxChannels ≤ driverMaxChannels) (hl : e.channels.lookup i = some record) :
    markChannelPublished i e = .ok ⟨⟩ (e.withReady { r with dirtyMask := ⟨r.dirtyMask.bits ||| bit i⟩ }) := by
  unfold markChannelPublished
  rw [bind_ok (surface_clear hr hv), bind_ok (get_apply _), RegistrationTable.record_ok hi hm hl,
    bind_ok (lift_ok _ _), ready_ok hr, bind_ok (lift_ok _ _), RegistrationTable.markWritten_ok hi hm hl,
    bind_ok (lift_ok _ _), bind_ok (lift_ok _ _)]
  rfl

variable [LedBackend B]

theorem acquire_latched (hr : e.lifecycle = .ready r) (hv : r.ingressViolation = true) :
    acquirePreparedWrite i e =
      .error (.error (.backendContractViolation .transferCompleteWhileIdle)) (e.surfaced r) :=
  bind_error (surface_latched hr hv)

theorem acquire_unregistered (hs : surfaceLatchedIngressViolation e = .ok ⟨⟩ e)
    (hm : e.maxChannels ≤ driverMaxChannels) (hl : e.channels.lookup i = none) :
    ∃ err, acquirePreparedWrite i e = .error (.error err) e ∧
      (err = .channelNotRegistered ∨ err = .channelOutOfRange) := by
  unfold acquirePreparedWrite
  rw [bind_ok hs, bind_ok (get_apply _)]
  by_cases hi : e.maxChannels ≤ i
  · exact ⟨_, by rw [RegistrationTable.record_out hi, bind_error (lift_error _ _)], Or.inr rfl⟩
  · refine ⟨_, ?_, Or.inl rfl⟩
    rw [RegistrationTable.record_eq (by omega) hm, hl]
    exact bind_error (lift_error _ _)

/-- The lease after its slice was looked at and left alone. -/
def peek (lease : WriteLease B) : WriteLease B :=
  (BackendWriteLease.bytesMut lease).2 (BackendWriteLease.bytesMut lease).1

variable {lease : WriteLease B} {backend : B} {err : BackendError}

theorem acquire_failed (hr : e.lifecycle = .ready r) (hv : r.ingressViolation = false) (hi : i < e.maxChannels)
    (hm : e.maxChannels ≤ driverMaxChannels) (hl : e.channels.lookup i = some record)
    (ha : LedBackend.acquireWriteTarget record.backendChannel e.backend = (.error err, backend)) :
    acquirePreparedWrite i e = .error (.error (.backend err)) { e with backend } := by
  unfold acquirePreparedWrite
  rw [bind_ok (surface_clear hr hv), bind_ok (get_apply _), RegistrationTable.record_ok hi hm hl,
    bind_ok (lift_ok _ _), bind_error (callBackend_error ha)]

theorem acquire_busy (hr : e.lifecycle = .ready r) (hv : r.ingressViolation = false) (hi : i < e.maxChannels)
    (hm : e.maxChannels ≤ driverMaxChannels) (hl : e.channels.lookup i = some record)
    (ha : LedBackend.acquireWriteTarget record.backendChannel e.backend = (.ok .busy, backend)) :
    acquirePreparedWrite i e = .error (.error .writeBusy) { e with backend } := by
  unfold acquirePreparedWrite
  rw [bind_ok (surface_clear hr hv), bind_ok (get_apply _), RegistrationTable.record_ok hi hm hl,
    bind_ok (lift_ok _ _), bind_ok (callBackend_ok ha)]
  rfl

theorem acquire_wrongChannel (hr : e.lifecycle = .ready r) (hv : r.ingressViolation = false) (hi : i < e.maxChannels)
    (hm : e.maxChannels ≤ driverMaxChannels) (hl : e.channels.lookup i = some record)
    (ha : LedBackend.acquireWriteTarget record.backendChannel e.backend = (.ok (.ready lease), backend))
    (hc : BackendWriteLease.channel lease ≠ record.backendChannel) :
    acquirePreparedWrite i e = .error (.error (.backendContractViolation .wrongChannelReturned))
      { e with backend := LedBackend.dropLease lease backend } := by
  unfold acquirePreparedWrite
  rw [bind_ok (surface_clear hr hv), bind_ok (get_apply _), RegistrationTable.record_ok hi hm hl,
    bind_ok (lift_ok _ _), bind_ok (callBackend_ok ha)]
  simp only [if_pos hc]
  rw [bind_ok (modify_apply _ _)]
  rfl

/-- The wire length a write expects cannot overflow for a configured channel. -/
theorem expected_wire_bytes {n : Nat} (h : n < UInt16.size) :
    ∃ bytes, checkedMul (UInt32.ofNat n) 3 = some bytes ∧ bytes.toNat = 3 * n := by
  have hn : (UInt32.ofNat n).toNat = n := by
    rw [UInt32.toNat_ofNat']; unfold UInt16.size at h; omega
  refine ⟨_, checkedMul_some ?_, ?_⟩
  · rw [hn]; simp only [UInt32.reduceToNat, UInt32.size]; unfold UInt16.size at h; omega
  · rw [UInt32.toNat_mul, hn]; simp only [UInt32.reduceToNat]; unfold UInt16.size at h; omega

theorem acquire_wrongLength (hr : e.lifecycle = .ready r) (hv : r.ingressViolation = false) (hi : i < e.maxChannels)
    (hm : e.maxChannels ≤ driverMaxChannels) (hl : e.channels.lookup i = some record)
    (ha : LedBackend.acquireWriteTarget record.backendChannel e.backend = (.ok (.ready lease), backend))
    (hc : BackendWriteLease.channel lease = record.backendChannel) (hlen : record.lenPixels < UInt16.size)
    (hb : (BackendWriteLease.bytesMut lease).1.length ≠ 3 * record.lenPixels) :
    acquirePreparedWrite i e = .error (.error (.backendContractViolation .wrongTargetLength))
      { e with backend := LedBackend.dropLease (peek lease) backend } := by
  obtain ⟨bytes, hbytes, hn⟩ := expected_wire_bytes hlen
  unfold acquirePreparedWrite
  rw [bind_ok (surface_clear hr hv), bind_ok (get_apply _), RegistrationTable.record_ok hi hm hl,
    bind_ok (lift_ok _ _), bind_ok (callBackend_ok ha)]
  simp only [if_neg (not_not.mpr hc), hbytes, hn, if_pos hb]
  rw [bind_ok (modify_apply _ _)]
  rfl

theorem acquire_ok (hr : e.lifecycle = .ready r) (hv : r.ingressViolation = false) (hi : i < e.maxChannels)
    (hm : e.maxChannels ≤ driverMaxChannels) (hl : e.channels.lookup i = some record)
    (ha : LedBackend.acquireWriteTarget record.backendChannel e.backend = (.ok (.ready lease), backend))
    (hc : BackendWriteLease.channel lease = record.backendChannel) (hlen : record.lenPixels < UInt16.size)
    (hb : (BackendWriteLease.bytesMut lease).1.length = 3 * record.lenPixels) :
    acquirePreparedWrite i e = .ok ⟨record.layout, record.framePhase, peek lease⟩ { e with backend } := by
  obtain ⟨bytes, hbytes, hn⟩ := expected_wire_bytes hlen
  unfold acquirePreparedWrite
  rw [bind_ok (surface_clear hr hv), bind_ok (get_apply _), RegistrationTable.record_ok hi hm hl,
    bind_ok (lift_ok _ _), bind_ok (callBackend_ok ha)]
  simp only [if_neg (not_not.mpr hc), hbytes, hn, if_neg (not_not.mpr hb)]
  rfl

end Write

/-! ## Service -/

section Service

theorem complete_free (hr : e.lifecycle = .ready r) (ht : r.transfer.Free) :
    completeInFlightIfReady e = .ok ⟨⟩ (e.withReady { r with transfer := .idle }) := by
  unfold completeInFlightIfReady
  rw [bind_ok (get_apply _), ready_ok hr]
  cases h : r.transfer with
  | idle =>
    simp only [h, pure_apply]
    rw [← h, withReady_self hr]
  | inFlight complete mask =>
    cases complete with
    | false => exact absurd h (ht mask)
    | true => simp only [h]; rfl

theorem complete_waiting {mask : ChannelMask} (hr : e.lifecycle = .ready r) (ht : r.transfer = .inFlight false mask) :
    completeInFlightIfReady e = .ok ⟨⟩ e := by
  unfold completeInFlightIfReady
  rw [bind_ok (get_apply _), ready_ok hr]
  simp only [ht, pure_apply]

variable [LedBackend B]

theorem service_latched (hr : e.lifecycle = .ready r) (hv : r.ingressViolation = true) :
    service e = .error (.error (.backendContractViolation .transferCompleteWhileIdle)) (e.surfaced r) :=
  bind_error (surface_latched hr hv)

theorem service_waiting {mask : ChannelMask} (hr : e.lifecycle = .ready r) (hv : r.ingressViolation = false)
    (ht : r.transfer = .inFlight false mask) : service e = .ok ⟨⟩ e := by
  unfold service
  rw [bind_ok (surface_clear hr hv), bind_ok (complete_waiting hr ht)]
  unfold tryStartPendingSubmit
  rw [bind_ok (get_apply _), ready_ok hr, bind_ok (lift_ok _ _)]
  simp only [ht, pure_apply]

/-- A registered mask is unchanged by the intersection with the registered channels. -/
theorem and_registered {table : RegistrationTable} {maxChannels : Nat} {mask registered : ChannelMask}
    (hreg : Registered table maxChannels mask)
    (h : ∀ i, has registered.bits i = true ↔ i < maxChannels ∧ (table.lookup i).isSome = true) :
    mask.bits &&& registered.bits = mask.bits :=
  Words.ext fun i _ => by
    rw [has_and]
    cases hb : has mask.bits i
    · rfl
    · rw [(h i).mpr (hreg i hb)]; rfl

/-- The engine once a completed batch is retired. -/
def retired (e : LedEngine B) (r : ReadyState) : LedEngine B := e.withReady { r with transfer := .idle }

/-- The engine once its pending batch was accepted. -/
def accepted (e : LedEngine B) (r : ReadyState) (backend : B) : LedEngine B :=
  { e with backend, lifecycle := .ready { r with transfer := .inFlight false r.pendingMask, pendingMask := .zero },
           channels := e.channels.advanced r.pendingMask }

theorem tryStart_rest (hr : e.lifecycle = .ready r) (ht : r.transfer = .idle) (hp : r.pendingMask.bits = 0) :
    tryStartPendingSubmit e = .ok ⟨⟩ e := by
  unfold tryStartPendingSubmit
  rw [bind_ok (get_apply _), ready_ok hr, bind_ok (lift_ok _ _)]
  simp only [ht]
  rw [if_apply_pos (by simp [ChannelMask.isEmpty, hp]), pure_apply]

theorem tryStart_offer (hr : e.lifecycle = .ready r) (ht : r.transfer = .idle) (hp : r.pendingMask.bits ≠ 0)
    (hm : e.maxChannels ≤ driverMaxChannels) (hreg : Registered e.channels e.maxChannels r.pendingMask) :
    tryStartPendingSubmit e =
      match LedBackend.submitChannels r.pendingMask.bits e.backend with
      | (.error err, backend) => .error (.error (.backend err)) { e with backend }
      | (.ok .busy, backend) => .ok ⟨⟩ { e with backend }
      | (.ok .started, backend) => .ok ⟨⟩ (e.accepted r backend) := by
  obtain ⟨registered, hmask, hbits⟩ := RegistrationTable.registeredChannelMask_ok e.channels hm
  have hne : ¬r.pendingMask.isEmpty = true := by simpa [ChannelMask.isEmpty] using hp
  have hand : ChannelMask.fromBits (r.pendingMask.bits &&& registered.bits) = r.pendingMask := by
    unfold ChannelMask.fromBits; rw [and_registered hreg hbits]
  unfold tryStartPendingSubmit
  rw [bind_ok (get_apply _), ready_ok hr, bind_ok (lift_ok _ _)]
  simp only [ht]
  rw [if_apply_neg hne, hmask, bind_ok (lift_ok _ _)]
  rw [hand, if_apply_neg hne]
  rcases hs : LedBackend.submitChannels r.pendingMask.bits e.backend with ⟨reply, backend⟩
  cases reply with
  | error err => exact bind_error (callBackend_error hs)
  | ok start =>
    rw [bind_ok (callBackend_ok hs)]
    cases start with
    | busy => rfl
    | started =>
      have hz : r.pendingMask.bits &&& ~~~r.pendingMask.bits = 0 := eq_zero_iff.mpr fun i => by
        rw [has_and_not]; cases has r.pendingMask.bits i <;> rfl
      dsimp only
      rw [bind_ok (get_apply _), ready_ok (e := { e with backend }) hr, bind_ok (lift_ok _ _),
        bind_ok (modify_apply _ _), hz]
      exact zoom_ok (advanceSubmitted_ok hm hreg)

theorem service_free (hr : e.lifecycle = .ready r) (hv : r.ingressViolation = false) (ht : r.transfer.Free) :
    service e = tryStartPendingSubmit (e.retired r) := by
  unfold service
  rw [bind_ok (surface_clear hr hv), bind_ok (complete_free hr ht)]
  rfl

theorem service_rest (hr : e.lifecycle = .ready r) (hv : r.ingressViolation = false) (ht : r.transfer.Free)
    (hp : r.pendingMask.bits = 0) : service e = .ok ⟨⟩ (e.retired r) := by
  rw [service_free hr hv ht]
  exact tryStart_rest (r := { r with transfer := .idle }) rfl rfl hp

/-- A service that finds the transport free and a batch pending. -/
theorem service_offer (hr : e.lifecycle = .ready r) (hv : r.ingressViolation = false) (ht : r.transfer.Free)
    (hp : r.pendingMask.bits ≠ 0) (hm : e.maxChannels ≤ driverMaxChannels)
    (hreg : Registered e.channels e.maxChannels r.pendingMask) :
    service e =
      match LedBackend.submitChannels r.pendingMask.bits e.backend with
      | (.error err, backend) => .error (.error (.backend err)) { e.retired r with backend }
      | (.ok .busy, backend) => .ok ⟨⟩ { e.retired r with backend }
      | (.ok .started, backend) => .ok ⟨⟩ (e.accepted r backend) := by
  rw [service_free hr hv ht]
  exact tryStart_offer (r := { r with transfer := .idle }) rfl rfl hp hm hreg

end Service

/-! ## Ingress -/

section Ingress

variable [LedBackend B]

theorem onBackendEvent_inFlight {complete : Bool} {mask : ChannelMask} (hr : e.lifecycle = .ready r)
    (ht : r.transfer = .inFlight complete mask) (event : BackendEvent) :
    e.onBackendEvent event = { e with backend := LedBackend.onEvent event e.backend,
                                      lifecycle := .ready { r with transfer := .inFlight true mask } } := by
  cases event
  unfold onBackendEvent
  simp only [ready, hr, ht]
  rfl

theorem onBackendEvent_idle (hr : e.lifecycle = .ready r) (ht : r.transfer = .idle) (event : BackendEvent) :
    e.onBackendEvent event = { e with backend := LedBackend.onEvent event e.backend,
                                      lifecycle := .ready { r with ingressViolation := true } } := by
  cases event
  unfold onBackendEvent
  simp only [ready, hr, ht]
  rfl

end Ingress

end LedEngine

end LedWireDriver.Engine
