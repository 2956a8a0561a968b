/-
  LedWireDriver.Replay — the same calls on two drivers, each over a backend of its own.

  As long as the two backends reply alike (`RepliesAlike`) and the two ready states decide
  the engine's guards alike (`GuardsAlike`), a call made on both drivers returns the same,
  asks the same of its backend, and makes the same `Move` of both ready states
  (`Paired.step`). `Deleted` leaves some of the calls out of the second run; `Paired.run`
  carries a relation between the ready states (`Carried`) along both.
-/

import LedWireDriver.Image
import LedWireDriver.Refinement

namespace LedWireDriver

open Words Api Engine Pack

variable {B B' : Type} {f : Features}

/-! ## What a slice holds -/

/-- Slices of one length, with the same bytes past their pixels. -/
def HeldAlike (held held' : List UInt8) : Prop :=
  held.length = held'.length ∧ held.drop (3 * (held.length / 3)) = held'.drop (3 * (held.length / 3))

instance (held held' : List UInt8) : Decidable (HeldAlike held held') := inferInstanceAs (Decidable (_ ∧ _))

/-- Packing reads no pixel of its target. -/
theorem packRgb48Active_held {pixels : List Rgb48} {layout : PixelLayout} {phase : FrameEpoch}
    {target target' bytes bytes' : List UInt8} (hheld : HeldAlike target target')
    (h : packRgb48Active f pixels layout phase target = .ok ⟨⟩ bytes)
    (h' : packRgb48Active f pixels layout phase target' = .ok ⟨⟩ bytes') : bytes' = bytes := by
  obtain ⟨hlen, himage⟩ := image_of_ok h
  obtain ⟨-, himage'⟩ := image_of_ok h'
  refine List.ext_getElem? fun j => ?_
  by_cases hj : j < 3 * pixels.length
  · obtain ⟨i, c, hi, rfl⟩ := himage.written j hj
    have hsource := List.getElem?_eq_getElem hi
    exact (himage'.byte i _ c hsource).trans (himage.byte i _ c hsource).symm
  · obtain ⟨k, rfl⟩ := Nat.exists_eq_add_of_le (Nat.le_of_not_lt hj)
    rw [himage'.trailing _ (by omega), himage.trailing _ (by omega)]
    have hk := congrArg (·[k]?) hheld.2
    simp only [List.getElem?_drop, ← hlen] at hk
    exact hk.symm

/-- A relation of slices that no write tells apart. -/
structure Unread (held : List UInt8 → List UInt8 → Prop) : Prop where
  refl : ∀ bytes, held bytes bytes
  alike : ∀ bytes bytes', held bytes bytes' → HeldAlike bytes bytes'

theorem unread_eq : Unread Eq :=
  ⟨fun _ => rfl, fun _ _ h => h ▸ ⟨rfl, rfl⟩⟩

theorem unread_heldAlike : Unread HeldAlike :=
  ⟨fun _ => ⟨rfl, rfl⟩, fun _ _ h => h⟩

/-! ## The same calls -/

section Calls

variable {held : List UInt8 → List UInt8 → Prop} [DecidableRel held]

/-- The same call, up to the slice it exposes: it was left alone on both sides, or written
    over with the same bytes. -/
def BackendCall.sameBut (held : List UInt8 → List UInt8 → Prop) [DecidableRel held] : BackendCall → BackendCall → Bool
  | .bytesMut exposed written, .bytesMut exposed' written' =>
    decide (held exposed exposed' ∧ (written = written' ∨ written = exposed ∧ written' = exposed'))
  | call, call' => decide (call = call')

theorem BackendCall.sameBut_rfl (hu : Unread held) {call : BackendCall} : call.sameBut held call = true := by
  cases call <;> simp [sameBut, hu.refl]

theorem BackendCall.sameBut_peeked {exposed exposed' : List UInt8} (h : held exposed exposed') :
    sameBut held (.bytesMut exposed exposed) (.bytesMut exposed' exposed') = true := by
  simp [sameBut, h]

theorem BackendCall.sameBut_filled {exposed exposed' bytes : List UInt8} (h : held exposed exposed') :
    sameBut held (.bytesMut exposed bytes) (.bytesMut exposed' bytes) = true := by
  simp [sameBut, h]

theorem BackendCall.sameBut_eq {call call' : BackendCall} (h : call.sameBut Eq call' = true) : call' = call := by
  unfold sameBut at h
  split at h
  · obtain ⟨rfl, rfl | ⟨rfl, rfl⟩⟩ := of_decide_eq_true h
    · rfl
    · rfl
  · exact (of_decide_eq_true h).symm

def SameCalls (held : List UInt8 → List UInt8 → Prop) [DecidableRel held] (calls calls' : List BackendCall) : Prop :=
  List.Forall₂ (fun call call' => call.sameBut held call' = true) calls calls'

theorem SameCalls.refl (hu : Unread held) (calls : List BackendCall) : SameCalls held calls calls :=
  List.forall₂_same.mpr fun _ _ => BackendCall.sameBut_rfl hu

/-- The same slices, the same calls. -/
theorem SameCalls.eq {calls calls' : List BackendCall} (h : SameCalls Eq calls calls') : calls' = calls :=
  (List.forall₂_eq_eq_eq ▸ h.imp fun _ _ hc => (BackendCall.sameBut_eq hc).symm : calls = calls').symm

/-- The second backend replies as the first one for as long as it is asked the same. What a
    lease exposes is a reply, known up to `held`, and so is what is published; what is
    written into the slice is not. -/
def RepliesAlike (held : List UInt8 → List UInt8 → Prop) : List BackendCall → List BackendCall → Prop
  | .acquireWriteTarget channel reply :: calls, .acquireWriteTarget channel' reply' :: calls' =>
    channel = channel' → reply = reply' ∧ RepliesAlike held calls calls'
  | .bytesMut exposed written :: calls, .bytesMut exposed' written' :: calls' =>
    held exposed exposed' ∧
      (written = written' ∨ written = exposed ∧ written' = exposed' → RepliesAlike held calls calls')
  | .publish bytes reply :: calls, .publish bytes' reply' :: calls' =>
    bytes = bytes' ∧ reply = reply' ∧ RepliesAlike held calls calls'
  | .submitChannels mask reply :: calls, .submitChannels mask' reply' :: calls' =>
    mask = mask' → reply = reply' ∧ RepliesAlike held calls calls'
  | _, _ => True

theorem SameCalls.repliesAlike (hu : Unread held) {calls calls' : List BackendCall} (h : SameCalls held calls calls') :
    RepliesAlike held calls calls' := by
  unfold SameCalls at h
  induction h with
  | nil => trivial
  | @cons call call' _ _ hcall _ ih =>
    unfold BackendCall.sameBut at hcall
    split at hcall
    · exact ⟨(of_decide_eq_true hcall).1, fun _ => ih⟩
    · obtain rfl := of_decide_eq_true hcall
      cases call with
      | acquireWriteTarget | submitChannels => exact fun _ => ⟨rfl, ih⟩
      | bytesMut => exact ⟨hu.refl _, fun _ => ih⟩
      | publish => exact ⟨rfl, rfl, ih⟩
      | _ => trivial

/-- Slices looked at, packed into and published alike. -/
theorem RepliesAlike.filled {pixels : List Rgb48} {layout : PixelLayout} {phase : FrameEpoch}
    {exposed exposed' target target' bytes bytes' published published' : List UInt8}
    {reply reply' : Except BackendError Unit} (hu : Unread held)
    (ha : RepliesAlike held [.bytesMut exposed exposed, .bytesMut target bytes, .publish published reply]
      [.bytesMut exposed' exposed', .bytesMut target' bytes', .publish published' reply'])
    (hpack : packRgb48Active f pixels layout phase target = .ok ⟨⟩ bytes)
    (hpack' : packRgb48Active f pixels layout phase target' = .ok ⟨⟩ bytes') :
    SameCalls held [.bytesMut exposed exposed, .bytesMut target bytes, .publish published reply]
      [.bytesMut exposed' exposed', .bytesMut target' bytes', .publish published' reply'] ∧ reply = reply' := by
  obtain ⟨hheld, ha⟩ := ha
  obtain ⟨hheld', ha⟩ := ha (Or.inr ⟨rfl, rfl⟩)
  cases packRgb48Active_held (hu.alike _ _ hheld') hpack hpack'
  obtain ⟨rfl, rfl, -⟩ := ha (Or.inl rfl)
  exact ⟨.cons (BackendCall.sameBut_peeked hheld) (.cons (BackendCall.sameBut_filled hheld') (SameCalls.refl hu _)),
    rfl⟩

variable [LedBackend B] [LedBackend B']

/-- A write is determined by its record, its source and the replies. -/
theorem WriteCalls.repliesAlike {record : ChannelState} {pixels : List Rgb48} {reply reply' : Except RuntimeError Unit}
    {calls calls' : List BackendCall} (h : WriteCalls B f record pixels reply calls)
    (h' : WriteCalls B' f record pixels reply' calls') (hu : Unread held) (ha : RepliesAlike held calls calls') :
    reply' = reply ∧ SameCalls held calls calls' := by
  cases h with
  | failed err =>
    cases h' with
    | failed err' =>
      cases (ha rfl).1
      exact ⟨rfl, .refl hu _⟩
    | _ => cases (ha rfl).1
  | busy =>
    cases h' with
    | busy => exact ⟨rfl, .refl hu _⟩
    | _ => cases (ha rfl).1
  | wrongChannel hc =>
    cases h' with
    | wrongChannel hc' =>
      cases (ha rfl).1
      exact ⟨rfl, .refl hu _⟩
    | failed | busy => cases (ha rfl).1
    | _ =>
      cases (ha rfl).1
      exact absurd rfl hc
  | wrongLength hn =>
    cases h' with
    | failed | busy => cases (ha rfl).1
    | wrongChannel hc =>
      cases (ha rfl).1
      exact absurd rfl hc
    | wrongLength =>
      obtain ⟨-, hheld, -⟩ := ha rfl
      exact ⟨rfl, .cons (BackendCall.sameBut_rfl hu) (.cons (BackendCall.sameBut_peeked hheld) .nil)⟩
    | mismatch he | unpublished _ he | published he => exact absurd ((hu.alike _ _ (ha rfl).2.1).1.trans he) hn
  | mismatch he _ hp =>
    cases h' with
    | failed | busy => cases (ha rfl).1
    | wrongChannel hc =>
      cases (ha rfl).1
      exact absurd rfl hc
    | wrongLength hn => exact absurd ((hu.alike _ _ (ha rfl).2.1).1.symm.trans he) hn
    | mismatch =>
      obtain ⟨-, hheld, ha⟩ := ha rfl
      obtain ⟨hheld', -⟩ := ha (Or.inr ⟨rfl, rfl⟩)
      exact ⟨rfl, .cons (BackendCall.sameBut_rfl hu) (.cons (BackendCall.sameBut_peeked hheld)
        (.cons (BackendCall.sameBut_peeked hheld') .nil))⟩
    | unpublished _ _ _ hp' | published _ _ hp' =>
      obtain ⟨-, -, ha⟩ := ha rfl
      exact absurd (by rw [hp', (hu.alike _ _ (ha (Or.inr ⟨rfl, rfl⟩)).1).1]) hp
  | unpublished err he _ hp hpack =>
    cases h' with
    | failed | busy => cases (ha rfl).1
    | wrongChannel hc =>
      cases (ha rfl).1
      exact absurd rfl hc
    | wrongLength hn => exact absurd ((hu.alike _ _ (ha rfl).2.1).1.symm.trans he) hn
    | mismatch _ _ hp' =>
      obtain ⟨-, -, ha⟩ := ha rfl
      exact absurd (by rw [hp, (hu.alike _ _ (ha (Or.inr ⟨rfl, rfl⟩)).1).1]) hp'
    | unpublished _ _ _ _ hpack' =>
      obtain ⟨hsame, hreply⟩ := (ha rfl).2.filled hu hpack hpack'
      cases hreply
      exact ⟨rfl, .cons (BackendCall.sameBut_rfl hu) hsame⟩
    | published _ _ _ hpack' => cases ((ha rfl).2.filled hu hpack hpack').2
  | published he _ hp hpack =>
    cases h' with
    | failed | busy => cases (ha rfl).1
    | wrongChannel hc =>
      cases (ha rfl).1
      exact absurd rfl hc
    | wrongLength hn => exact absurd ((hu.alike _ _ (ha rfl).2.1).1.symm.trans he) hn
    | mismatch _ _ hp' =>
      obtain ⟨-, -, ha⟩ := ha rfl
      exact absurd (by rw [hp, (hu.alike _ _ (ha (Or.inr ⟨rfl, rfl⟩)).1).1]) hp'
    | unpublished _ _ _ _ hpack' => cases ((ha rfl).2.filled hu hpack hpack').2
    | published _ _ _ hpack' => exact ⟨rfl, .cons (BackendCall.sameBut_rfl hu) ((ha rfl).2.filled hu hpack hpack').1⟩

end Calls

/-! ## What one call does to a ready state -/

/-- What a call does to the ready state. -/
inductive Move where
  | stay
  | surface
  | write (channel : Channel)
  | commit
  | retire
  | start
  | tell

def Engine.ReadyState.moved (r : ReadyState) : Move → ReadyState
  | .stay => r
  | .surface => { r with ingressViolation := false }
  | .write channel => r.wrote channel.asIndex (.ok ())
  | .commit => { r with pendingMask := ⟨r.pendingMask.bits ||| r.dirtyMask.bits⟩, dirtyMask := .zero }
  | .retire => { r with transfer := .idle }
  | .start => { r with transfer := .inFlight false r.pendingMask, pendingMask := .zero }
  | .tell => r.told

namespace Transition

variable {t : Transition B}

/-- No `Ok` write and no `Ok` commit. -/
def Quiet (t : Transition B) : Prop := (∀ c, ¬t.WritesOk c) ∧ ¬t.CommitsOk

theorem quiet_of_error {e : Fallible.Fault (Projected RuntimeError)} (h : t.result = .error e) : t.Quiet := by
  refine ⟨fun c hw => ?_, fun hc => ?_⟩
  · obtain ⟨_, _, -, -, hok⟩ := hw
    rw [h] at hok
    cases hok
  · obtain ⟨-, hok⟩ := hc
    rw [h] at hok
    cases hok

theorem quiet_of_op (hwrite : ∀ channel pixels, t.op ≠ .writeRgb48 channel pixels) (hcommit : t.op ≠ .commit) :
    t.Quiet := by
  refine ⟨fun c hw => ?_, fun hc => hcommit hc.1⟩
  obtain ⟨channel, pixels, hop, -⟩ := hw
  exact hwrite channel pixels hop

/-- What is known of a call that makes this move. -/
def Makes (t : Transition B) : Move → Prop
  | .write channel => (∃ pixels, t.op = .writeRgb48 channel pixels) ∧ channel.asIndex < 32
  | .commit => t.CommitsOk
  | .tell => ∃ event, t.op = .onBackendEvent event
  | _ => t.Quiet

end Transition

/-! ## One call on both sides -/

/-- Ready states that decide the engine's guards alike. -/
structure GuardsAlike (r r' : ReadyState) : Prop where
  violation : r'.ingressViolation = r.ingressViolation
  pending : r'.pendingMask = r.pendingMask
  free_iff : r'.transfer.Free ↔ r.transfer.Free

/-- Drivers that differ in their backends and ready states only. -/
structure Paired (setup : PreparedSetup) (r r' : ReadyState) (d : Driver (Recorder B) .ready)
    (d' : Driver (Recorder B') .ready) : Prop where
  driverId : d'.driverId = d.driverId
  channels : d'.engine.channels = d.engine.channels
  maxChannels : d'.engine.maxChannels = d.engine.maxChannels
  maxBytesPerChannel : d'.engine.maxBytesPerChannel = d.engine.maxBytesPerChannel
  inv : Inv setup d.engine r
  inv' : Inv setup d'.engine r'

/-- Drivers in the same state, over any two backends. -/
structure SameState (d : Driver (Recorder B) .ready) (d' : Driver (Recorder B') .ready) : Prop where
  driverId : d'.driverId = d.driverId
  lifecycle : d'.engine.lifecycle = d.engine.lifecycle
  channels : d'.engine.channels = d.engine.channels
  maxChannels : d'.engine.maxChannels = d.engine.maxChannels
  maxBytesPerChannel : d'.engine.maxBytesPerChannel = d.engine.maxBytesPerChannel

theorem SameState.paired {setup : PreparedSetup} {r : ReadyState} {d : Driver (Recorder B) .ready}
    {d' : Driver (Recorder B') .ready} (h : SameState d d') (hi : Inv setup d.engine r) : Paired setup r r d d' := by
  refine ⟨h.driverId, h.channels, h.maxChannels, h.maxBytesPerChannel, hi, h.lifecycle.trans hi.lifecycle,
    ?_, ?_, ?_, ?_, ?_, ?_⟩
  all_goals simp only [h.channels, h.maxChannels, h.maxBytesPerChannel]
  exacts [hi.maxChannels_le, hi.fits, hi.table, hi.dirty, hi.pending, hi.flight]

theorem Paired.same {setup : PreparedSetup} {r r' : ReadyState} {d : Driver (Recorder B) .ready}
    {d' : Driver (Recorder B') .ready} (h : Paired setup r r' d d') (hr : r' = r) : SameState d d' :=
  ⟨h.driverId, by rw [h.inv.lifecycle, h.inv'.lifecycle, hr], h.channels, h.maxChannels, h.maxBytesPerChannel⟩

variable [LedBackend B] [LedBackend B']

section Step

variable {held : List UInt8 → List UInt8 → Prop} [DecidableRel held] {setup : PreparedSetup} {r r' s s' : ReadyState}
  {t : Transition B} {t' : Transition B'}

/-- What a call made on both sides comes to. -/
structure Together (held : List UInt8 → List UInt8 → Prop) [DecidableRel held] (setup : PreparedSetup)
    (r r' : ReadyState) (t : Transition B) (t' : Transition B') : Prop where
  result : t'.result = t.result
  calls : SameCalls held t.calls t'.calls
  moves : ∃ move, t.Makes move ∧ Paired setup (r.moved move) (r'.moved move) t.after t'.after

namespace Paired

/-- A step of both runs, given the ready states and the tables it leaves. -/
theorem next (h : Paired setup r r' t.before t'.before) (he : Effect f r t) (he' : Effect f r' t')
    (hs : t.after.engine.lifecycle = .ready s) (hs' : t'.after.engine.lifecycle = .ready s')
    (hch : t'.after.engine.channels = t.after.engine.channels) : Paired setup s s' t.after t'.after := by
  obtain ⟨q, hq⟩ := he.inv h.inv
  obtain ⟨q', hq'⟩ := he'.inv h.inv'
  cases hs.symm.trans hq.lifecycle
  cases hs'.symm.trans hq'.lifecycle
  exact ⟨by rw [he.driverId, he'.driverId, h.driverId], hch, by rw [he.limits.1, he'.limits.1, h.maxChannels],
    by rw [he.limits.2, he'.limits.2, h.maxBytesPerChannel], hq, hq'⟩

omit [LedBackend B] [LedBackend B'] in
/-- A call that reaches neither backend and changes neither driver. -/
theorem stay (h : Paired setup r r' t.before t'.before) (hq : t.Quiet) (hres : t'.result = t.result)
    (hcalls : t.calls = []) (hcalls' : t'.calls = []) (hafter : t.after = t.before) (hafter' : t'.after = t'.before) :
    Together held setup r r' t t' := by
  refine ⟨hres, by rw [hcalls, hcalls']; exact .nil, .stay, hq, ?_⟩
  rw [hafter, hafter']
  exact h

/-- A call that reaches neither backend and makes a move of the ready states only. -/
theorem silent (h : Paired setup r r' t.before t'.before) (he : Effect f r t) (he' : Effect f r' t') {move : Move}
    (hm : t.Makes move) (hres : t'.result = t.result) (hcalls : t.calls = []) (hcalls' : t'.calls = [])
    (hafter : t.after = t.before.withReady (r.moved move)) (hafter' : t'.after = t'.before.withReady (r'.moved move)) :
    Together held setup r r' t t' := by
  refine ⟨hres, by rw [hcalls, hcalls']; exact .nil, move, hm, h.next he he' ?_ ?_ ?_⟩
  · rw [hafter]
    rfl
  · rw [hafter']
    rfl
  · rw [hafter, hafter']
    exact h.channels

theorem surface (h : Paired setup r r' t.before t'.before) (hg : GuardsAlike r r') (he : Effect f r t)
    (he' : Effect f r' t') (hop : t'.op = t.op) (ho : t.op.Runtime t.before.driverId) (hv : r.ingressViolation = true) :
    Together held setup r r' t t' := by
  obtain ⟨hcalls, hres, hafter⟩ := he.inert ho hv
  obtain ⟨hcalls', hres', hafter'⟩ := he'.inert (by rwa [hop, h.driverId]) (hg.violation.trans hv)
  have hm : t.Makes .surface := Transition.quiet_of_error hres
  exact h.silent he he' hm (by rw [hres, hres']) hcalls hcalls' hafter hafter'

theorem service (h : Paired setup r r' t.before t'.before) (hg : GuardsAlike r r') (he : Effect f r t)
    (he' : Effect f r' t') (hop : t.op = .service) (hop' : t'.op = .service) (hv : r.ingressViolation = false)
    (hu : Unread held) (ha : RepliesAlike held t.calls t'.calls) : Together held setup r r' t t' := by
  have hq : t.Quiet := Transition.quiet_of_op (by simp [hop]) (by simp [hop])
  have hv' := hg.violation.trans hv
  by_cases ht : r.transfer.Free
  case neg =>
    obtain ⟨hres, hcalls, hafter⟩ := he.waits hop hv ht
    obtain ⟨hres', hcalls', hafter'⟩ := he'.waits hop' hv' (mt hg.free_iff.mp ht)
    exact h.stay hq (by rw [hres, hres']) hcalls hcalls' hafter hafter'
  have ht' := hg.free_iff.mpr ht
  by_cases hp : r.pendingMask.bits = 0
  · obtain ⟨hres, hcalls, hafter⟩ := he.rests hop hv ht hp
    obtain ⟨hres', hcalls', hafter'⟩ := he'.rests hop' hv' ht' (by rwa [hg.pending])
    have hm : t.Makes .retire := hq
    exact h.silent he he' hm (by rw [hres, hres']) hcalls hcalls' hafter hafter'
  · obtain ⟨reply, backend, hcalls, hres, hafter⟩ := he.offers hop hv ht hp
    obtain ⟨reply', backend', hcalls', hres', hafter'⟩ := he'.offers hop' hv' ht' (by rwa [hg.pending])
    rw [hcalls, hcalls', hg.pending] at ha
    obtain ⟨rfl, -⟩ := ha rfl
    refine ⟨by rw [hres, hres'], by rw [hcalls, hcalls', hg.pending]; exact .refl hu _, ?_⟩
    rcases reply with err | _ | _
    · exact ⟨.retire, hq, h.next he he' (by rw [hafter]; rfl) (by rw [hafter']; rfl)
        (by rw [hafter, hafter']; exact h.channels)⟩
    · refine ⟨.start, hq, h.next he he' (by rw [hafter]; rfl) (by rw [hafter']; rfl) ?_⟩
      rw [hafter, hafter']
      show t'.before.engine.channels.advanced r'.pendingMask = t.before.engine.channels.advanced r.pendingMask
      rw [h.channels, hg.pending]
    · exact ⟨.retire, hq, h.next he he' (by rw [hafter]; rfl) (by rw [hafter']; rfl)
        (by rw [hafter, hafter']; exact h.channels)⟩

/-- A write through an own handle, with no violation latched. -/
theorem write (h : Paired setup r r' t.before t'.before) (hg : GuardsAlike r r') (he : Effect f r t)
    (he' : Effect f r' t') {channel : Channel} {pixels : List Rgb48} (hop : t.op = .writeRgb48 channel pixels)
    (hop' : t'.op = .writeRgb48 channel pixels) (hv : r.ingressViolation = false) (hu : Unread held)
    (ha : RepliesAlike held t.calls t'.calls) : Together held setup r r' t t' := by
  have hreaches : t'.before.Reaches channel ↔ t.before.Reaches channel := by
    unfold Driver.Reaches
    rw [h.driverId, h.channels]
  rcases he.writes h.inv hv hop with ⟨hno, hres, hcalls, hafter⟩ | ⟨record, reply, hyes, hl, hw, hres, hs, hch⟩
  · rcases he'.writes h.inv' (hg.violation.trans hv) hop' with ⟨-, hres', hcalls', hafter'⟩ | ⟨_, _, hyes', -⟩
    · exact h.stay (Transition.quiet_of_error hres) (by rw [hres, hres']) hcalls hcalls' hafter hafter'
    · exact absurd (hreaches.mp hyes') hno
  · rcases he'.writes h.inv' (hg.violation.trans hv) hop' with
      ⟨hno', -⟩ | ⟨record', reply', -, hl', hw', hres', hs', hch'⟩
    · exact absurd (hreaches.mpr hyes) hno'
    · rw [h.channels] at hl'
      cases hl.symm.trans hl'
      obtain ⟨rfl, hcalls⟩ := hw.repliesAlike hw' hu ha
      have hnext := h.next he he' hs hs' (by rw [hch, hch', h.channels])
      refine ⟨by rw [hres, hres'], hcalls, ?_⟩
      cases reply' with
      | error err => exact ⟨.stay, Transition.quiet_of_error hres, hnext⟩
      | ok =>
        obtain ⟨hlt, -⟩ := h.inv.record hl
        have hmax : t.before.engine.maxChannels ≤ 8 := h.inv.maxChannels_le
        exact ⟨.write channel, ⟨⟨pixels, hop⟩, by omega⟩, hnext⟩

/-- A call that both drivers make. -/
theorem step (h : Paired setup r r' t.before t'.before) (hg : GuardsAlike r r') (he : Effect f r t)
    (he' : Effect f r' t') (hop : t'.op = t.op) (hu : Unread held) (ha : RepliesAlike held t.calls t'.calls) :
    Together held setup r r' t t' := by
  by_cases hsurface : t.op.Runtime t.before.driverId ∧ r.ingressViolation = true
  · exact h.surface hg he he' hop hsurface.1 hsurface.2
  have hclear : t.op.Runtime t.before.driverId → r.ingressViolation = false := fun ho =>
    Bool.eq_false_iff.mpr fun hv => hsurface ⟨ho, hv⟩
  cases ht : t.op with
  | channel channel =>
    obtain ⟨hres, hcalls, hafter⟩ := he.finds ht
    obtain ⟨hres', hcalls', hafter'⟩ := he'.finds (hop.trans ht)
    exact h.stay (Transition.quiet_of_op (by simp [ht]) (by simp [ht])) (by rw [hres, hres', h.driverId]) hcalls hcalls'
      hafter hafter'
  | writeRgb48 channel pixels =>
    by_cases ho : channel.owner = t.before.driverId
    · exact h.write hg he he' ht (hop.trans ht) (hclear (by rw [ht]; exact ho)) hu ha
    · obtain ⟨hres, hcalls, hafter⟩ := he.rejects (show t.op.handle? = some channel by rw [ht]; rfl) ho
      obtain ⟨hres', hcalls', hafter'⟩ := he'.rejects (show t'.op.handle? = some channel by rw [hop, ht]; rfl)
        (by rwa [h.driverId])
      exact h.stay (Transition.quiet_of_error hres) (by rw [hres, hres']) hcalls hcalls' hafter hafter'
  | commit =>
    have hv := hclear (by rw [ht]; trivial)
    obtain ⟨hres, hcalls, hafter⟩ := he.commits ht hv
    obtain ⟨hres', hcalls', hafter'⟩ := he'.commits (hop.trans ht) (hg.violation.trans hv)
    have hm : t.Makes .commit := ⟨ht, hres⟩
    exact h.silent he he' hm (by rw [hres, hres']) hcalls hcalls' hafter hafter'
  | service => exact h.service hg he he' ht (hop.trans ht) (hclear (by rw [ht]; trivial)) hu ha
  | onBackendSignal signal =>
    obtain ⟨hres, hcalls, backend, hafter⟩ := he.signals ht
    obtain ⟨hres', hcalls', backend', hafter'⟩ := he'.signals (hop.trans ht)
    exact ⟨by rw [hres, hres'], by rw [hcalls, hcalls']; exact .refl hu _, .stay,
      Transition.quiet_of_op (by simp [ht]) (by simp [ht]), h.next he he' (by rw [hafter]; exact h.inv.lifecycle)
        (by rw [hafter']; exact h.inv'.lifecycle) (by rw [hafter, hafter']; exact h.channels)⟩
  | onBackendEvent event =>
    obtain ⟨hres, hcalls, hs, hch⟩ := he.tells ht
    obtain ⟨hres', hcalls', hs', hch'⟩ := he'.tells (hop.trans ht)
    exact ⟨by rw [hres, hres'], by rw [hcalls, hcalls']; exact .refl hu _, .tell, ⟨event, ht⟩,
      h.next he he' hs hs' (by rw [hch, hch', h.channels])⟩

omit [LedBackend B'] in
/-- A call that only the first driver makes. -/
theorem skip {d' : Driver (Recorder B') .ready} (h : Paired setup r r' t.before d') (he : Effect f r t)
    (hs : t.after.engine.lifecycle = .ready s) (hch : t.after.engine.channels = t.before.engine.channels) :
    Paired setup s r' t.after d' := by
  obtain ⟨q, hq⟩ := he.inv h.inv
  cases hs.symm.trans hq.lifecycle
  exact ⟨h.driverId.trans he.driverId.symm, h.channels.trans hch.symm, h.maxChannels.trans he.limits.1.symm,
    h.maxBytesPerChannel.trans he.limits.2.symm, hq, h.inv'⟩

end Paired

end Step

/-! ## Runs -/

/-- The calls `kept` of a run, but for some that `may` be left out given the calls after them. -/
inductive Deleted (may : Transition B → List (Transition B) → Prop) : List (Transition B) → List (Transition B) → Prop
  | nil : Deleted may [] []
  | keep {ts kept : List (Transition B)} (t : Transition B) : Deleted may ts kept → Deleted may (t :: ts) (t :: kept)
  | delete {ts kept : List (Transition B)} (t : Transition B) : may t ts → Deleted may ts kept →
      Deleted may (t :: ts) kept

omit [LedBackend B] in
/-- The last call of a run is not left out if it may not be. -/
theorem Deleted.snoc {may : Transition B → List (Transition B) → Prop} {ts kept : List (Transition B)}
    {t : Transition B} (h : Deleted may (ts ++ [t]) kept) (ht : ¬may t []) : ∃ pre, kept = pre ++ [t] := by
  induction ts generalizing kept with
  | nil =>
    cases h with
    | keep _ h =>
      cases h
      exact ⟨[], rfl⟩
    | delete _ hmay => exact absurd hmay ht
  | cons t' ts ih =>
    cases h with
    | keep _ h =>
      obtain ⟨pre, rfl⟩ := ih h
      exact ⟨t' :: pre, rfl⟩
    | delete _ _ h => exact ih h

/-- What two runs keep between their ready states, given the calls that the first one has
    still to make: through a call that both make, and through one that is left out of the
    second. -/
structure Carried (f : Features) (may : Transition B → List (Transition B) → Prop)
    (rel : List (Transition B) → ReadyState → ReadyState → Prop) : Prop where
  guards : ∀ ts r r', rel ts r r' → GuardsAlike r r'
  keep : ∀ t ts r r' move, rel (t :: ts) r r' → t.Makes move → rel ts (r.moved move) (r'.moved move)
  delete : ∀ setup t ts r r', rel (t :: ts) r r' → Effect f r t → Inv setup t.before.engine r → may t ts →
    ∃ s, t.after.engine.lifecycle = .ready s ∧ t.after.engine.channels = t.before.engine.channels ∧ rel ts s r'

namespace Paired

variable {held : List UInt8 → List UInt8 → Prop} [DecidableRel held] {setup : PreparedSetup} {r r' : ReadyState}
  {d : Driver (Recorder B) .ready} {d' : Driver (Recorder B') .ready} {ops : List Op} {kept : List (Transition B)}
  {may : Transition B → List (Transition B) → Prop} {rel : List (Transition B) → ReadyState → ReadyState → Prop}

/-- One after the other, the remaining calls agree. -/
theorem run (hk : Carried f may rel) (hu : Unread held) (h : Paired setup r r' d d')
    (hrel : rel (d.trace f ops) r r') (hdel : Deleted may (d.trace f ops) kept)
    (hans : List.Forall₂ (fun t t' => RepliesAlike held t.calls t'.calls) kept (d'.trace f (kept.map (·.op)))) :
    List.Forall₂ (fun t t' => t'.result = t.result ∧ SameCalls held t.calls t'.calls) kept
        (d'.trace f (kept.map (·.op))) ∧
      ∃ s s', Paired setup s s' (d.afterOps f ops) (d'.afterOps f (kept.map (·.op))) ∧ rel [] s s' := by
  induction ops generalizing d d' r r' kept with
  | nil =>
    cases hdel
    exact ⟨.nil, r, r', h, hrel⟩
  | cons op ops ih =>
    have he := Driver.effect (f := f) h.inv op
    rw [Driver.trace] at hrel hdel
    cases hdel with
    | keep t hdel =>
      simp only [List.map_cons, Driver.transition_op, Driver.trace, List.forall₂_cons] at hans ⊢
      obtain ⟨ha, hans⟩ := hans
      have hbefore : Paired setup r r' (d.transition f op).before (d'.transition f op).before := by
        rwa [Driver.transition_before, Driver.transition_before]
      obtain ⟨hres, hcalls, move, hm, hnext⟩ := hbefore.step (hk.guards _ _ _ hrel) he
        (Driver.effect (f := f) h.inv' op) (by rw [Driver.transition_op, Driver.transition_op]) hu ha
      obtain ⟨hagree, hafter⟩ := ih hnext (hk.keep _ _ _ _ _ hrel hm) hdel hans
      exact ⟨⟨⟨hres, hcalls⟩, hagree⟩, hafter⟩
    | delete t hmay hdel =>
      have hbefore : Paired setup r r' (d.transition f op).before d' := by
        rwa [Driver.transition_before]
      obtain ⟨s, hs, hch, hrel⟩ := hk.delete setup _ _ _ _ hrel he hbefore.inv hmay
      exact ih (hbefore.skip he hs hch) hrel hdel hans

end Paired

end LedWireDriver
