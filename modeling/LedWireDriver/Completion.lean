/-
  LedWireDriver.Completion — when a completion is delivered does not matter.

  The firmware forwards `TransferComplete` from an interrupt, so it may come between any two
  calls. Writes and commits neither read nor change the transfer state
  (`perform_transfer`), and a completion only marks it; so while a batch is in flight, the
  completion may be moved across them and delivered again, up to the next service, and no
  call then or later returns anything else or asks anything else of the backend
  (`completion_anytime`).
-/

import LedWireDriver.Refinement
import LedWireDriver.TestSupport

namespace LedWireDriver

open Fallible Words Api Engine Pack

/-! ## Another transfer state -/

namespace Engine

variable {B : Type} (g : TransferState → TransferState)

def ReadyState.onTransfer (r : ReadyState) : ReadyState := { r with transfer := g r.transfer }

def EngineLifecycle.onTransfer : EngineLifecycle → EngineLifecycle
  | .ready r => .ready (r.onTransfer g)
  | lifecycle => lifecycle

def LedEngine.onTransfer (e : LedEngine B) : LedEngine B := { e with lifecycle := e.lifecycle.onTransfer g }

namespace LedEngine

variable {g}

theorem ready_onTransfer (e : LedEngine B) : (e.onTransfer g).ready = e.ready.map (·.onTransfer g) := by
  obtain ⟨backend, maxChannels, maxBytes, lifecycle, channels⟩ := e
  cases lifecycle <;> rfl

theorem takeIngressViolation_onTransfer (r : ReadyState) :
    (r.onTransfer g).takeIngressViolation = (r.takeIngressViolation.1, r.takeIngressViolation.2.onTransfer g) := by
  obtain ⟨transfer, dirty, pending, latched⟩ := r
  cases latched <;> rfl

/-- Engines that differ in their transfer states. -/
def Elsewhere (g : TransferState → TransferState) (e e' : LedEngine B) : Prop := e' = e.onTransfer g

theorem Elsewhere.withReady (r : ReadyState) (e e' : LedEngine B) (h : Elsewhere g e e') :
    Elsewhere g (e.withReady r) (e'.withReady (r.onTransfer g)) := by
  subst h
  rfl

theorem ready_elsewhere (e : LedEngine B) : Alike Eq (Elsewhere (B := B) g) (fun r r' => r' = r.onTransfer g)
    (lift e.ready) (lift (e.onTransfer g).ready) := by
  intro s s' hs
  rw [ready_onTransfer]
  cases e.ready with
  | ok r => exact .ok rfl hs
  | error err => exact .error rfl hs

theorem surface_elsewhere : Alike Eq (Elsewhere g) Eq surfaceLatchedIngressViolation
    (surfaceLatchedIngressViolation (B := B)) := by
  unfold surfaceLatchedIngressViolation
  refine Alike.get.bind ?_
  intro e e' he
  subst he
  rw [ready_onTransfer]
  rcases e.ready with err | r
  · exact .pure rfl
  · dsimp only [Except.map]
    rw [takeIngressViolation_onTransfer]
    rcases r.takeIngressViolation with ⟨_ | violation, r⟩
    · exact .pure rfl
    · exact (Alike.modify (Elsewhere.withReady r)).bind fun _ _ _ => .fail rfl

theorem submitDirty_elsewhere : Alike Eq (Elsewhere g) Eq submitDirty (submitDirty (B := B)) := by
  unfold submitDirty
  refine surface_elsewhere.bind fun _ _ _ => Alike.get.bind ?_
  intro e e' he
  subst he
  refine (ready_elsewhere e).bind ?_
  intro r r' hr
  subst hr
  by_cases hd : r.dirtyMask.isEmpty = true
  · rw [if_pos hd, if_pos (show (r.onTransfer g).dirtyMask.isEmpty = true from hd)]
    exact .pure rfl
  · rw [if_neg hd, if_neg (show ¬(r.onTransfer g).dirtyMask.isEmpty = true from hd)]
    refine Alike.get.bind ?_
    intro e e' he
    subst he
    refine (ready_elsewhere e).bind ?_
    intro r' r'' hr
    subst hr
    exact .modify (Elsewhere.withReady _)

theorem markChannelPublished_elsewhere (i : Nat) :
    Alike Eq (Elsewhere g) Eq (markChannelPublished i) (markChannelPublished (B := B) i) := by
  unfold markChannelPublished
  refine surface_elsewhere.bind fun _ _ _ => Alike.get.bind ?_
  intro e e' he
  subst he
  refine (Alike.lift (fun _ => rfl) _).bind fun _ _ _ => (ready_elsewhere e).bind ?_
  intro r r' hr
  subst hr
  refine (Alike.lift (fun _ => rfl) _).bind ?_
  intro m m' hm
  subst hm
  refine (ready_elsewhere e).bind ?_
  intro r' r'' hr
  subst hr
  exact .modify (Elsewhere.withReady _)

theorem callBackend_elsewhere {α : Type} (method : B → Except BackendError α × B) :
    Alike Eq (Elsewhere g) Eq (callBackend method) (callBackend method) := by
  intro e e' he
  subst he
  unfold callBackend
  rw [show (e.onTransfer g).backend = e.backend from rfl]
  rcases method e.backend with ⟨err | a, backend⟩
  · exact .error rfl rfl
  · exact .ok rfl rfl

variable [LedBackend B]

theorem dropLease_elsewhere (lease : WriteLease B) (e e' : LedEngine B) (h : Elsewhere g e e') :
    Elsewhere g (e.dropLease lease) (e'.dropLease lease) := by
  subst h
  rfl

theorem acquirePreparedWrite_elsewhere (i : Nat) :
    Alike Eq (Elsewhere g) Eq (acquirePreparedWrite i) (acquirePreparedWrite (B := B) i) := by
  unfold acquirePreparedWrite
  refine surface_elsewhere.bind fun _ _ _ => Alike.get.bind ?_
  intro e e' he
  subst he
  refine (Alike.lift (fun _ => rfl) _).bind ?_
  intro record record' hr
  subst hr
  refine (callBackend_elsewhere _).bind ?_
  intro reply reply' hreply
  subst hreply
  cases reply with
  | busy => exact .fail rfl
  | ready lease =>
    dsimp only
    split
    · exact (Alike.modify (dropLease_elsewhere _)).bind fun _ _ _ => .fail rfl
    · split
      · exact (Alike.modify (dropLease_elsewhere _)).bind fun _ _ _ => .fail rfl
      · split
        · exact (Alike.modify (dropLease_elsewhere _)).bind fun _ _ _ => .fail rfl
        · exact .pure rfl

end LedEngine

end Engine

/-! ## Calls that leave the transfer alone -/

/-- An event of the backend. -/
def Op.isEvent : Op → Bool
  | .onBackendEvent _ => true
  | _ => false

namespace Api.Driver

variable {B : Type} {f : Features} {g : TransferState → TransferState}

def onTransfer (g : TransferState → TransferState) (d : Driver B .ready) : Driver B .ready :=
  { d with engine := d.engine.onTransfer g }

/-- Drivers that differ in their transfer states. -/
def Elsewhere (g : TransferState → TransferState) (d d' : Driver B .ready) : Prop := d' = d.onTransfer g

theorem onEngine_elsewhere {E α : Type} {project : EngineError → Projected E} {x : EngineM B α}
    (hx : Alike Eq (LedEngine.Elsewhere g) Eq x x) :
    Alike Eq (Elsewhere g) Eq (onEngine project x) (onEngine (S := .ready) project x) := by
  refine (hx.mapErr ?_).zoom ?_ ?_
  · intro e e' he
    subst he
    rfl
  · intro d d' hd
    subst hd
    rfl
  · intro d d' engine engine' hd he
    subst hd he
    rfl

theorem channel_elsewhere (channel : Channel) :
    Alike Eq (Elsewhere g) Eq (Driver.channel channel) (Driver.channel (B := B) channel) := by
  unfold Driver.channel
  refine Alike.get.bind fun d d' hd => ?_
  subst hd
  rw [show (d.onTransfer g).driverId = d.driverId from rfl]
  split
  · exact .fail rfl
  · exact .pure rfl

variable [LedBackend B]

theorem writeRgb48_elsewhere (f : Features) (w : ChannelWriter) (pixels : List Rgb48) :
    Alike Eq (Elsewhere g) Eq (w.writeRgb48 f pixels) (w.writeRgb48 (B := B) f pixels) := by
  unfold ChannelWriter.writeRgb48 ChannelWriter.acquirePackAndPublish
  refine Alike.bind (V := Eq) ?_ fun _ _ _ => onEngine_elsewhere (LedEngine.markChannelPublished_elsewhere _)
  refine (onEngine_elsewhere (LedEngine.acquirePreparedWrite_elsewhere _)).bind ?_
  intro write write' hw
  subst hw
  refine Alike.borrowing (Alike.refl _) rfl ?_
  intro d d' w w' hd hw
  subst hd hw
  rfl

/-- Only a service and an event look at the transfer state. -/
theorem perform_transfer (f : Features) {op : Op} (hservice : op ≠ .service) (hevent : op.isEvent = false) :
    Alike Eq (Elsewhere g) Eq (perform f op) (perform (B := B) f op) := by
  cases op with
  | channel channel => exact (channel_elsewhere channel).bind fun _ _ _ => .pure rfl
  | writeRgb48 channel pixels =>
    refine (channel_elsewhere channel).bind ?_
    intro w w' hw
    subst hw
    exact writeRgb48_elsewhere f w pixels
  | commit => exact onEngine_elsewhere LedEngine.submitDirty_elsewhere
  | service => exact absurd rfl hservice
  | onBackendSignal signal =>
    refine .modify fun d d' hd => ?_
    subst hd
    rfl
  | onBackendEvent event => cases hevent

theorem transition_transfer {d : Driver (Recorder B) .ready} {op : Op} (hservice : op ≠ .service)
    (hevent : op.isEvent = false) :
    ((d.onTransfer g).transition f op).result = (d.transition f op).result ∧
      ((d.onTransfer g).transition f op).calls = (d.transition f op).calls ∧
      ((d.onTransfer g).transition f op).after = (d.transition f op).after.onTransfer g := by
  have hrun := perform_transfer (g := g) f hservice hevent d (d.onTransfer g) rfl
  unfold transition
  generalize perform f op d = p, perform f op (d.onTransfer g) = p' at hrun
  cases hrun with
  | ok _ hd => subst hd; exact ⟨rfl, rfl, rfl⟩
  | error he hd => subst he hd; exact ⟨rfl, rfl, rfl⟩

end Api.Driver

/-! ## A batch in flight -/

/-- What a `TransferComplete` does to the transfer of an accepted batch. -/
def Engine.TransferState.completed : TransferState → TransferState
  | .idle => .idle
  | .inFlight _ mask => .inFlight true mask

/-- A batch is in flight, its completion delivered or not. -/
def Api.Driver.Carries {B : Type} (d : Driver B .ready) (complete : Bool) (mask : ChannelMask) : Prop :=
  ∃ r, d.engine.lifecycle = .ready r ∧ r.transfer = .inFlight complete mask

variable {B : Type} [LedBackend B] {f : Features}

/-- Until the next service the batch stays, and an event completes it. -/
theorem Effect.carries {r : ReadyState} {t : Transition B} (h : Effect f r t) {complete : Bool} {mask : ChannelMask}
    (hr : t.before.engine.lifecycle = .ready r) (ht : r.transfer = .inFlight complete mask) (hop : t.op ≠ .service) :
    t.after.Carries (complete || t.op.isEvent) mask := by
  cases h with
  | found | unregistered | unwritten => exact ⟨r, hr, by simpa [Op.isEvent] using ht⟩
  | wrote | committed => exact ⟨_, rfl, by simpa [Op.isEvent] using ht⟩
  | signalled => exact ⟨r, hr, by simpa [Op.isEvent] using ht⟩
  | @foreign d op channel hhandle =>
    refine ⟨r, hr, ?_⟩
    cases op with
    | channel | writeRgb48 => simpa [Op.isEvent] using ht
    | _ => cases hhandle
  | @surfaced d op ho =>
    refine ⟨_, rfl, ?_⟩
    cases op with
    | writeRgb48 | commit => simpa [Op.isEvent] using ht
    | service => exact absurd rfl hop
    | _ => exact ho.elim
  | @completed d complete' mask' event backend ht' =>
    rw [ht] at ht'
    cases ht'
    exact ⟨_, rfl, by simp [Op.isEvent]⟩
  | strayed event backend ht' => rw [ht] at ht'; cases ht'
  | waited | rested | refused | unsubmitted | started => exact absurd rfl hop

namespace Api.Driver

variable {rel : B → B → Prop} {relLease : WriteLease B → WriteLease B → Prop}
  {setup : PreparedSetup} {handles : ConfiguredChannels} {d d' : Driver (Recorder B) .ready} {complete : Bool}
  {mask : ChannelMask}

theorem Configured.carries (hc : Configured setup handles d) {pre : List Op} (hd : (d.afterOps f pre).Carries complete mask)
    (seg : List Op) (hseg : .service ∉ seg) :
    (d.afterOps f (pre ++ seg)).Carries (complete || seg.any Op.isEvent) mask := by
  induction seg using List.reverseRecOn with
  | nil => simpa using hd
  | append_singleton seg op ih =>
    obtain ⟨r, hr, ht⟩ := ih fun h => hseg (by simp [h])
    obtain ⟨r', hi, he⟩ := hc.reached (f := f) (pre ++ seg)
    obtain rfl : r' = r := by rw [hi.lifecycle] at hr; exact EngineLifecycle.ready.inj hr
    have hkeep := (he op).carries (by rwa [transition_before]) ht (by
      rw [transition_op]
      intro h
      exact hseg (by simp [h]))
    rw [transition_op, Bool.or_assoc] at hkeep
    rwa [← List.append_assoc, afterOps_snoc, List.any_append, List.any_cons, List.any_nil, Bool.or_false]

/-- What the calls of a run but its events returned, and asked of the backend. -/
def reports (f : Features) (d : Driver (Recorder B) .ready) (ops : List Op) :
    List (Op × Except (Fault (Projected RuntimeError)) Unit × List BackendCall) :=
  ((d.trace f ops).filter (!·.op.isEvent)).map fun t => (t.op, t.result, t.calls)

/-- Up to its completion, a driver and its twin. -/
def Settles (rel : B → B → Prop) (d d' : Driver (Recorder B) .ready) : Prop :=
  (d.onTransfer TransferState.completed).Twin (Recorder.Alike rel) d'

theorem settles_event (hb : EventBlind B rel relLease) (hd : d.Carries complete mask) (h : Settles rel d d')
    (event : BackendEvent) : Settles rel (d.transition f (.onBackendEvent event)).after d' := by
  obtain ⟨r, hr, ht⟩ := hd
  obtain ⟨hid, backend, he, hrel⟩ := h
  have hafter : (d.transition f (.onBackendEvent event)).after =
      { d with engine := d.engine.onBackendEvent event } := rfl
  rw [hafter, LedEngine.onBackendEvent_inFlight hr ht]
  refine ⟨hid, backend, ?_, hb.blind event _ _ hrel⟩
  rw [he]
  obtain ⟨driverId, e⟩ := d
  obtain ⟨b, maxChannels, maxBytes, lifecycle, channels⟩ := e
  cases hr
  simp only [onTransfer, LedEngine.onTransfer, EngineLifecycle.onTransfer, ReadyState.onTransfer, ht,
    TransferState.completed]

theorem settles_call (hb : Bisim B rel relLease) (h : Settles rel d d') {op : Op} (hservice : op ≠ .service)
    (hevent : op.isEvent = false) :
    (d'.transition f op).result = (d.transition f op).result ∧ (d'.transition f op).calls = (d.transition f op).calls ∧
      Settles rel (d.transition f op).after (d'.transition f op).after := by
  obtain ⟨hres, hcalls, hafter⟩ := transition_transfer (f := f) (g := TransferState.completed) (d := d) hservice hevent
  obtain ⟨hres', hcalls', hafter'⟩ := transition_twin hb f op h
  exact ⟨hres'.trans hres, hcalls'.trans hcalls, by rwa [hafter] at hafter'⟩

theorem reports_append (ops ops' : List Op) :
    d.reports f (ops ++ ops') = d.reports f ops ++ (d.afterOps f ops).reports f ops' := by
  unfold reports
  rw [trace_append, List.filter_append, List.map_append]

theorem reports_event (event : BackendEvent) : d.reports f [.onBackendEvent event] = [] := rfl

theorem reports_call {op : Op} (h : op.isEvent = false) :
    d.reports f [op] = [(op, (d.transition f op).result, (d.transition f op).calls)] := by
  simp [reports, trace, h]

/-- The stretch of a run up to the next service, and its calls alone on the settled twin. -/
theorem Configured.settles_run (hc : Configured setup handles d) (hb : EventBlind B rel relLease) {pre : List Op}
    (hd : (d.afterOps f pre).Carries complete mask) (h : Settles rel (d.afterOps f pre) d') (seg : List Op)
    (hseg : .service ∉ seg) :
    Settles rel (d.afterOps f (pre ++ seg)) (d'.afterOps f (seg.filter (!·.isEvent))) ∧
      d'.reports f (seg.filter (!·.isEvent)) = (d.afterOps f pre).reports f seg := by
  induction seg using List.reverseRecOn with
  | nil => exact ⟨by rw [List.append_nil]; exact h, rfl⟩
  | append_singleton seg op ih =>
    have hinit : .service ∉ seg := fun h => hseg (by simp [h])
    have hservice : op ≠ .service := fun h => hseg (by simp [h])
    obtain ⟨hsettles, hreports⟩ := ih hinit
    rw [← List.append_assoc, afterOps_snoc, List.filter_append, reports_append, reports_append (d := d.afterOps f pre),
      ← afterOps_append]
    cases hop : op.isEvent with
    | true =>
      cases op with
      | onBackendEvent event =>
        simp only [List.filter_cons, hop, Bool.not_true, Bool.false_eq_true, if_false, List.filter_nil, List.append_nil]
        rw [reports_event]
        exact ⟨settles_event hb (hc.carries hd seg hinit) hsettles event, by rw [hreports]; rfl⟩
      | _ => cases hop
    | false =>
      obtain ⟨hres, hcalls, hafter⟩ := settles_call (f := f) hb.toBisim hsettles hservice hop
      simp only [List.filter_cons, hop, Bool.not_false, if_true, List.filter_nil]
      rw [afterOps_snoc, hreports, reports_call hop, reports_call hop, hres, hcalls]
      exact ⟨hafter, rfl⟩

/-- Twins report alike, for ever. -/
theorem reports_twin (hb : Bisim B rel relLease) (h : d.Twin (Recorder.Alike rel) d') (ops : List Op) :
    d'.reports f ops = d.reports f ops := by
  induction ops generalizing d d' with
  | nil => rfl
  | cons op ops ih =>
    obtain ⟨hres, hcalls, hafter⟩ := transition_twin hb f op h
    have hrest := ih hafter
    unfold reports at hrest ⊢
    simp only [trace, List.filter_cons, transition_op]
    split
    · rw [List.map_cons, List.map_cons, transition_op, transition_op, hres, hcalls, hrest]
    · exact hrest

omit [LedBackend B] in
/-- Two twins of one driver. -/
theorem Twin.join (hrel : Equivalence rel) {a b : Driver (Recorder B) .ready} (ha : a.Twin (Recorder.Alike rel) d)
    (hb : b.Twin (Recorder.Alike rel) d) : a.Twin (Recorder.Alike rel) b := by
  obtain ⟨ida, ea⟩ := a
  obtain ⟨idb, eb⟩ := b
  obtain ⟨hid, backend, he, hr⟩ := ha
  obtain ⟨hid', backend', he', hr'⟩ := hb
  rw [he] at he'
  obtain ⟨ba, maxChannels, maxBytes, lifecycle, channels⟩ := ea
  obtain ⟨bb, maxChannels', maxBytes', lifecycle', channels'⟩ := eb
  cases he'
  exact ⟨hid.trans hid'.symm, bb, rfl, hrel.trans hr (hrel.symm hr')⟩

omit [LedBackend B] in
theorem settled (hd : d.Carries true mask) : d.onTransfer TransferState.completed = d := by
  obtain ⟨r, hr, ht⟩ := hd
  obtain ⟨driverId, e⟩ := d
  obtain ⟨b, maxChannels, maxBytes, lifecycle, channels⟩ := e
  cases hr
  obtain ⟨transfer, dirty, pending, latched⟩ := r
  cases ht
  rfl

/-- While a batch is in flight, the calls up to the next service and everything after see no
    difference in when, and how often, its completion is delivered. -/
theorem completion_anytime (hc : Configured setup handles d) (hb : EventBlind B rel relLease) (hrel : Equivalence rel)
    (f : Features) (pre : List Op) (hd : (d.afterOps f pre).Carries complete mask) (seg seg' rest : List Op)
    (hseg : .service ∉ seg) (hseg' : .service ∉ seg') (hcalls : seg.filter (!·.isEvent) = seg'.filter (!·.isEvent))
    (he : seg.any Op.isEvent = true) (he' : seg'.any Op.isEvent = true) :
    d.reports f (pre ++ seg ++ rest) = d.reports f (pre ++ seg' ++ rest) := by
  have hstart : Settles rel (d.afterOps f pre) ((d.afterOps f pre).onTransfer TransferState.completed) :=
    ⟨rfl, _, rfl, hb.refl _⟩
  obtain ⟨h, hreports⟩ := hc.settles_run hb hd hstart seg hseg
  obtain ⟨h', hreports'⟩ := hc.settles_run hb hd hstart seg' hseg'
  have hflight := hc.carries hd seg hseg
  have hflight' := hc.carries hd seg' hseg'
  rw [he, Bool.or_true] at hflight
  rw [he', Bool.or_true] at hflight'
  unfold Settles at h h'
  rw [settled hflight, hcalls] at h
  rw [settled hflight'] at h'
  -- both ends are twins of the same driver
  have htwin : (d.afterOps f (pre ++ seg)).Twin (Recorder.Alike rel) (d.afterOps f (pre ++ seg')) :=
    h.join hrel h'
  rw [reports_append (pre ++ seg), reports_append (pre ++ seg'), reports_twin hb.toBisim htwin rest, reports_append pre,
    reports_append pre, ← hreports, ← hreports', hcalls]

open TestSupport in
theorem pair_carries : (pair.1.afterOps bayer (writing 0 ++ [.service])).Carries false ⟨1⟩ :=
  ⟨⟨.inFlight false ⟨1⟩, ⟨0⟩, ⟨0⟩, false⟩, by decide +kernel, rfl⟩

open TestSupport in
/-- A completion before the next write, and two after its commit. -/
theorem completion_anytime_pair :
    pair.1.reports bayer (writing 0 ++ [.service] ++
        [.onBackendEvent .transferComplete, .writeRgb48 (handle 1) frame, .commit] ++ [.service]) =
      pair.1.reports bayer (writing 0 ++ [.service] ++
        [.writeRgb48 (handle 1) frame, .commit, .onBackendEvent .transferComplete, .onBackendEvent .transferComplete] ++
          [.service]) := by
  refine completion_anytime pair_configured eventBlind sameBut_equivalence bayer _ pair_carries _ _ _ ?_ ?_ ?_ ?_ ?_
  · simp
  · simp
  · simp [Op.isEvent]
  · simp [Op.isEvent]
  · simp [Op.isEvent]

end Api.Driver

end LedWireDriver
