/-
  LedWireDriver.Truthful — when the public errors say what happened.

  `Truthful` states what each runtime error claims about the call that returned it, and that
  no error reached the backstop `unexpected_engine_error`. A driver may be finalised before
  any `configure_prepared` succeeded; `Unready` lists what its calls do (`unready`).
  `errors_truthful_iff` names the calls, over every sequence of public calls, that return an
  untruthful error: a commit or a service of such a driver, and a write whose lease shows
  the engine one length and the packing another. `Driver::new` and `configure_prepared`
  never reach the backstop.
-/

import LedWireDriver.Attempts
import LedWireDriver.Ingress

namespace LedWireDriver

open Fallible Words Api Engine Pack

variable {B : Type} {f : Features}

/-! ## What the errors say -/

/-- A backend method returned `Err`. -/
def BackendCall.failed : BackendCall → Bool
  | .init (.error _) | .configureChannels _ (.error _) | .acquireWriteTarget _ (.error _) | .publish _ (.error _)
  | .submitChannels _ (.error _) => true
  | _ => false

/-- The lease granted for the strip of `b` is for another channel, or not of the strip's length. -/
def WrongLease (b : PreparedBinding) (calls : List BackendCall) : Prop :=
  (∃ channel, channel ≠ b.backendChannel ∧ .acquireWriteTarget b.backendChannel (.ok (.ready channel)) ∈ calls) ∨
    .acquireWriteTarget b.backendChannel (.ok (.ready b.backendChannel)) ∈ calls ∧
      ∃ exposed, exposed.length ≠ 3 * b.pixels.toNat ∧ .bytesMut exposed exposed ∈ calls

/-- The outcome of configuration: the accepted setup and its handles, if any. -/
abbrev Outcome := Option (PreparedSetup × ConfiguredChannels)

def Outcome.Binds (done : Outcome) (b : PreparedBinding) : Prop := ∃ c ∈ done, b ∈ c.1.bindings.toList

def Outcome.Issues (done : Outcome) (channel : Channel) : Prop := ∃ c ∈ done, c.2.get channel.id = some channel

/-- What an error of the call `t` says of it, after the calls `ts`. -/
def Means (done : Outcome) (ts : List (Transition B)) (t : Transition B) : RuntimeError → Prop
  | .backend => ∃ call ∈ t.calls, call.failed
  | .backendContract => Latched t.before.driverId ts ∨ ∃ b, done.Binds b ∧ WrongLease b t.calls
  | .busy => ∃ channel, .acquireWriteTarget channel (.ok .busy) ∈ t.calls
  | .lengthMismatch => ∃ channel pixels b, t.op = .writeRgb48 channel pixels ∧ done.Binds b ∧
      b.logicalChannel = channel.id ∧ pixels.length ≠ b.pixels.toNat
  | .invalidChannel => ∃ channel, t.op.handle? = some channel ∧ ¬done.Issues channel

/-- An error that the call returned is true of it, and did not reach the backstop. -/
structure Truthful (done : Outcome) (ts : List (Transition B)) (t : Transition B) : Prop where
  means : ∀ p, t.result = .error (.error p) → Means done ts t p.error
  backstop : ∀ p, t.result = .error (.error p) → p.backstop = none

theorem Truthful.of_ok {done : Outcome} {ts : List (Transition B)} {t : Transition B} (h : t.result = .ok ()) :
    Truthful done ts t := by
  constructor <;> intro p hp <;> rw [h] at hp <;> cases hp

theorem truthful_error {done : Outcome} {ts : List (Transition B)} {t : Transition B} {e : RuntimeError}
    (h : t.result = .error (.error (expected e))) : Truthful done ts t ↔ Means done ts t e := by
  refine ⟨fun ht => ht.means _ h, fun hs => ?_⟩
  constructor <;> intro p hp <;> rw [h] at hp <;> cases hp
  · exact hs
  · rfl

/-! ## Drivers without a configuration -/

namespace Engine.LedEngine

variable {e : LedEngine B}

theorem surface_registering (he : e.Registering) : surfaceLatchedIngressViolation e = .ok ⟨⟩ e := by
  unfold surfaceLatchedIngressViolation
  rw [bind_ok (get_apply _)]
  simp [ready, he.lifecycle]

theorem ready_registering (he : e.Registering) : e.ready = .error (.error (.invalidState .mustBeReady)) := by
  simp [ready, he.lifecycle]

theorem submitDirty_registering (he : e.Registering) :
    submitDirty e = .error (.error (.invalidState .mustBeReady)) e := by
  unfold submitDirty
  rw [bind_ok (surface_registering he), bind_ok (get_apply _), ready_registering he, bind_error (lift_error _ _)]

variable [LedBackend B]

theorem service_registering (he : e.Registering) : service e = .error (.error (.invalidState .mustBeReady)) e := by
  have hcomplete : completeInFlightIfReady e = .ok ⟨⟩ e := by
    unfold completeInFlightIfReady
    rw [bind_ok (get_apply _), ready_registering he]
    rfl
  unfold service tryStartPendingSubmit
  rw [bind_ok (surface_registering he), bind_ok hcomplete, bind_ok (get_apply _), ready_registering he,
    bind_error (lift_error _ _)]

theorem acquire_registering (he : e.Registering) (i : Nat) :
    ∃ err, acquirePreparedWrite i e = .error (.error err) e ∧ (err = .channelNotRegistered ∨ err = .channelOutOfRange) :=
  acquire_unregistered (surface_registering he) he.maxChannels_le (by rw [he.table, RegistrationTable.lookup_new])

omit [LedBackend B] in
theorem Registering.withBackend (he : e.Registering) (backend : B) : ({ e with backend } : LedEngine B).Registering :=
  ⟨he.lifecycle, he.maxChannels_le, he.table⟩

theorem Registering.onBackendEvent (he : e.Registering) (event : BackendEvent) :
    e.onBackendEvent event = { e with backend := LedBackend.onEvent event e.backend } := by
  unfold LedEngine.onBackendEvent
  simp only [ready_registering (he.withBackend (LedBackend.onEvent event e.backend))]

end Engine.LedEngine

/-- What a call does on a driver that was finalised without a configuration. -/
inductive Unready [LedBackend B] : Transition B → Prop
  | found {d : Driver (Recorder B) .ready} {channel : Channel} : Unready ⟨d, .channel channel, .ok (), [], d⟩
  | invalid {d : Driver (Recorder B) .ready} {op : Op} {channel : Channel} : op.handle? = some channel →
      Unready ⟨d, op, .error (.error (expected .invalidChannel)), [], d⟩
  | uncommitted {d : Driver (Recorder B) .ready} : Unready ⟨d, .commit,
      .error (.error (unexpectedEngineError "engine.submit_dirty" (.invalidState .mustBeReady) .backend)), [], d⟩
  | unserviced {d : Driver (Recorder B) .ready} : Unready ⟨d, .service,
      .error (.error (unexpectedEngineError "engine.service" (.invalidState .mustBeReady) .backend)), [], d⟩
  | signalled {d : Driver (Recorder B) .ready} (signal : BackendSignal) (backend : Recorder B) :
      Unready ⟨d, .onBackendSignal signal, .ok (), [.onSignal signal], d.withBackend backend⟩
  | reported {d : Driver (Recorder B) .ready} (event : BackendEvent) (backend : Recorder B) :
      Unready ⟨d, .onBackendEvent event, .ok (), [.onEvent event], d.withBackend backend⟩

namespace Api.Driver

variable [LedBackend B] {d : Driver (Recorder B) .ready}

theorem unready (he : d.engine.Registering) (op : Op) : Unready (d.transition f op) := by
  cases op with
  | channel channel =>
    by_cases ho : channel.owner = d.driverId
    · rw [transition_ok (.channel channel) (bind_ok (channel_own ho)) (List.append_nil _).symm]
      exact .found
    · rw [transition_error (.channel channel) (bind_error (channel_foreign ho)) (List.append_nil _).symm]
      exact .invalid rfl
  | writeRgb48 channel pixels =>
    by_cases ho : channel.owner = d.driverId
    · obtain ⟨err, hacq, herr⟩ := LedEngine.acquire_registering he channel.asIndex
      have hrun : perform f (.writeRgb48 channel pixels) d = ChannelWriter.writeRgb48 f ⟨channel.asIndex⟩ pixels d :=
        bind_ok (channel_own ho)
      rw [transition_error _ (hrun.trans (bind_error (bind_error (onEngine_error hacq)))) (List.append_nil _).symm]
      rcases herr with rfl | rfl
      · exact .invalid rfl
      · exact .invalid rfl
    · rw [transition_error _ (bind_error (channel_foreign ho)) (List.append_nil _).symm]
      exact .invalid rfl
  | commit =>
    rw [transition_error .commit (onEngine_error (LedEngine.submitDirty_registering he)) (List.append_nil _).symm]
    exact .uncommitted
  | service =>
    rw [transition_error .service (onEngine_error (LedEngine.service_registering he)) (List.append_nil _).symm]
    exact .unserviced
  | onBackendSignal signal =>
    rw [transition_ok (.onBackendSignal signal) rfl rfl]
    exact .signalled signal _
  | onBackendEvent event =>
    have hrun : perform f (.onBackendEvent event) d = .ok () { d with engine := d.engine.onBackendEvent event } := rfl
    rw [he.onBackendEvent] at hrun
    rw [transition_ok _ hrun rfl]
    exact .reported event _

end Api.Driver

namespace Unready

variable [LedBackend B] {t : Transition B}

theorem registering (h : Unready t) (he : t.before.engine.Registering) : t.after.engine.Registering := by
  cases h with
  | signalled signal backend | reported event backend => exact he.withBackend backend
  | _ => exact he

theorem driverId (h : Unready t) : t.after.driverId = t.before.driverId := by
  cases h <;> rfl

/-- Only a commit and a service are answered with something false. -/
theorem truthful_iff (h : Unready t) (ts : List (Transition B)) :
    Truthful none ts t ↔ t.op ≠ .commit ∧ t.op ≠ .service := by
  constructor
  · intro ht
    cases h with
    | uncommitted => cases ht.backstop _ rfl
    | unserviced => cases ht.backstop _ rfl
    | @invalid d op channel hop => cases op <;> cases hop <;> exact ⟨nofun, nofun⟩
    | _ => exact ⟨nofun, nofun⟩
  · intro hx
    obtain ⟨hcommit, hservice⟩ := hx
    cases h with
    | uncommitted => exact absurd rfl hcommit
    | unserviced => exact absurd rfl hservice
    | invalid hop => exact (truthful_error (e := .invalidChannel) rfl).mpr ⟨_, hop, nofun⟩
    | _ => exact .of_ok rfl

end Unready

/-! ## Configured drivers -/

section Configured

variable [LedBackend B] {setup : PreparedSetup} {handles : ConfiguredChannels} {r : ReadyState} {t : Transition B}
  {ts : List (Transition B)}

/-- What a failed write says of its lease, unless it is `LengthMismatch`. -/
theorem WriteCalls.means {record : ChannelState} {pixels : List Rgb48} {err : RuntimeError} {b : PreparedBinding}
    (h : WriteCalls B f record pixels (.error err) t.calls) (hb : b ∈ setup.bindings.toList)
    (hrec : record.fresh = recordOf b) (hlen : err ≠ .lengthMismatch) : Means (some (setup, handles)) ts t err := by
  have hchannel : record.backendChannel = b.backendChannel := congrArg ChannelState.backendChannel hrec
  have hpixels : record.lenPixels = b.pixels.toNat := congrArg ChannelState.lenPixels hrec
  have hbinds : Outcome.Binds (some (setup, handles)) b := ⟨_, rfl, hb⟩
  generalize hcalls : t.calls = calls at h
  cases h with
  | failed e => exact ⟨.acquireWriteTarget record.backendChannel (.error e), by simp [hcalls], rfl⟩
  | @unpublished _ _ _ published e => exact ⟨.publish published (.error e), by simp [hcalls], rfl⟩
  | busy => exact ⟨record.backendChannel, by simp [hcalls]⟩
  | wrongChannel hne =>
    refine Or.inr ⟨b, hbinds, Or.inl ⟨_, hchannel ▸ hne, ?_⟩⟩
    rw [hcalls, hchannel]
    simp
  | wrongLength hne =>
    refine Or.inr ⟨b, hbinds, Or.inr ⟨?_, _, hpixels ▸ hne, ?_⟩⟩
    · rw [hcalls, hchannel]
      simp
    · rw [hcalls]
      simp
  | mismatch => exact absurd rfl hlen

/-- The errors of a configured driver, but for `LengthMismatch`. -/
theorem Effect.truthful (h : Effect f r t) (ts : List (Transition B)) (hi : Inv setup t.before.engine r)
    (hh : ∀ id : ChannelId, handles.get id =
      (bindingAt setup.bindings.toList id.asIndex).map fun b => ⟨t.before.driverId, b.logicalChannel⟩)
    (hlatch : r.ingressViolation = true → Latched t.before.driverId ts)
    (hlen : t.result ≠ .error (.error (expected .lengthMismatch))) : Truthful (some (setup, handles)) ts t := by
  cases h with
  | @foreign d op channel hop hne =>
    refine (truthful_error (e := .invalidChannel) rfl).mpr ⟨channel, hop, ?_⟩
    intro hx
    obtain ⟨c, hc, hget⟩ := hx
    cases hc
    rw [hh, Option.map_eq_some_iff] at hget
    obtain ⟨b, -, rfl⟩ := hget
    exact hne rfl
  | surfaced ho hv => exact (truthful_error (e := .backendContract) rfl).mpr (Or.inl (hlatch hv))
  | @unregistered d channel pixels ho hv hl =>
    refine (truthful_error (e := .invalidChannel) rfl).mpr ⟨channel, rfl, ?_⟩
    intro hx
    obtain ⟨c, hc, hget⟩ := hx
    cases hc
    have htab := hi.table channel.asIndex
    rw [show d.engine.channels.lookup channel.asIndex = none from hl, Option.map_none, eq_comm,
      Option.map_eq_none_iff] at htab
    rw [hh, show bindingAt setup.bindings.toList channel.id.asIndex = none from htab] at hget
    cases hget
  | @unwritten d channel pixels record err calls backend ho hv hl hw =>
    obtain ⟨b, hb, hrec⟩ := hi.binding hl
    refine (truthful_error rfl).mpr (WriteCalls.means hw (bindingAt_mem hb).1 hrec ?_)
    intro hx
    subst hx
    exact hlen rfl
  | unsubmitted err => exact (truthful_error (e := .backend) rfl).mpr ⟨_, List.mem_singleton_self _, rfl⟩
  | _ => exact .of_ok rfl

theorem Effect.mismatch (h : Effect f r t) (ht : t.result = .error (.error (expected .lengthMismatch))) :
    ∃ channel pixels, t.op = .writeRgb48 channel pixels := by
  cases h with
  | unwritten => exact ⟨_, _, rfl⟩
  | _ => cases ht

/-! ## Length mismatches -/

namespace Api.Driver

variable {d : Driver (Recorder B) .ready} {channel : Channel} {record : ChannelState}

theorem write_result (hi : Inv setup d.engine r) (pixels : List Rgb48) (ho : channel.owner = d.driverId)
    (hv : r.ingressViolation = false) (hl : d.engine.channels.lookup channel.asIndex = some record) :
    ∃ reply backend, Written f record pixels d.engine.backend reply backend ∧
      (d.transition f (.writeRgb48 channel pixels)).result =
        match reply with
        | .ok _ => .ok ()
        | .error err => .error (.error (expected err)) := by
  obtain ⟨hlt, hlen⟩ := hi.record hl
  obtain ⟨reply, backend, hw, hwrite⟩ := Api.writeRgb48_written f pixels hi.lifecycle hv hlt hi.maxChannels_le hl hlen
  have hrun : perform f (.writeRgb48 channel pixels) d = ChannelWriter.writeRgb48 f ⟨channel.asIndex⟩ pixels d :=
    bind_ok (channel_own ho)
  refine ⟨reply, backend, hw, ?_⟩
  unfold transition
  rw [hrun, hwrite]
  cases reply <;> rfl

/-- A write returns `LengthMismatch` when its lease, checked and looked at again, has room for
    another number of pixels. -/
theorem lengthMismatch_iff (hi : Inv setup d.engine r) (pixels : List Rgb48) :
    (d.transition f (.writeRgb48 channel pixels)).result = .error (.error (expected .lengthMismatch)) ↔
      channel.owner = d.driverId ∧ r.ingressViolation = false ∧
        ∃ record lease backend, d.engine.channels.lookup channel.asIndex = some record ∧
          Granted record d.engine.backend lease backend ∧ pixels.length ≠ (target lease).length / 3 := by
  constructor
  · intro h
    have he := effect_write (f := f) hi channel pixels
    obtain ⟨ho, hv, record, hl⟩ : channel.owner = d.driverId ∧ r.ingressViolation = false ∧
        ∃ record, d.engine.channels.lookup channel.asIndex = some record := by
      generalize ht : d.transition f (.writeRgb48 channel pixels) = t at he h
      have hbefore : t.before = d := by rw [← ht, transition_before]
      have hop : t.op = .writeRgb48 channel pixels := by rw [← ht, transition_op]
      cases he with
      | unwritten backend ho hv hl =>
        cases hbefore
        cases hop
        exact ⟨ho, hv, _, hl⟩
      | foreign | surfaced | unregistered | unsubmitted => cases h
      | _ => cases h
    obtain ⟨reply, backend, hw, hres⟩ := write_result (f := f) hi pixels ho hv hl
    rw [h] at hres
    cases hw with
    | mismatch hg hp => exact ⟨ho, hv, record, _, _, hl, hg, hp⟩
    | _ => cases hres
  · intro hx
    obtain ⟨ho, hv, record, lease, backend, hl, hg, hp⟩ := hx
    obtain ⟨reply, backend', hw, hres⟩ := write_result (f := f) hi pixels ho hv hl
    rw [hres]
    have hacq := hg.acquired
    cases hw with
    | mismatch => rfl
    | failed ha | busy ha =>
      rw [ha] at hacq
      cases hacq
    | wrongChannel ha hc =>
      rw [ha] at hacq
      cases hacq
      exact absurd hg.channel hc
    | wrongLength ha hc hn =>
      rw [ha] at hacq
      cases hacq
      exact absurd hg.length hn
    | unpublished hg' hp' | published hg' hp' =>
      rw [hg'.acquired] at hacq
      cases hacq
      exact absurd hp' hp

end Api.Driver

end Configured

/-! ## Which calls are truthful -/

namespace Api.Driver

variable [LedBackend B]

/-- The call is no commit or service of a driver without a configuration, and no write of the
    configured length whose lease, having passed the engine's checks, has room for another
    number of pixels. -/
def Answerable (d : Driver (Recorder B) .ready) : Op → Prop
  | .commit | .service => d.engine.isConfigurationCommitted = true
  | .writeRgb48 c pixels => ∀ r record lease backend, c.owner = d.driverId → d.engine.lifecycle = .ready r →
      r.ingressViolation = false → d.engine.channels.lookup c.asIndex = some record →
      Granted record d.engine.backend lease backend → pixels.length = record.lenPixels →
      (target lease).length / 3 = record.lenPixels
  | _ => True

variable {c : Driver (Recorder B) .configuring} {done : Outcome}

theorem unready_run {d : Driver (Recorder B) .ready} (he : d.engine.Registering) (ops : List Op) :
    (d.afterOps f ops).engine.Registering := by
  induction ops using List.reverseRecOn with
  | nil => exact he
  | append_singleton ops op ih =>
    rw [afterOps_snoc]
    exact (unready ih op).registering (by rwa [transition_before])

theorem Configured.truthful_iff {setup : PreparedSetup} {handles : ConfiguredChannels} {d : Driver (Recorder B) .ready}
    (hc : Configured setup handles d) (ops : List Op) (op : Op) :
    Truthful (some (setup, handles)) (d.trace f ops) ((d.afterOps f ops).transition f op) ↔
      (d.afterOps f ops).Answerable op := by
  obtain ⟨r, hi, he⟩ := hc.reached (f := f) ops
  have hid := hc.driverId (f := f) ops
  have htrue := (he op).truthful (d.trace f ops) (by rwa [transition_before])
    (by rw [transition_before, hid]; exact hc.handle)
    (by rw [transition_before, hid]; exact (hc.latched_iff ops hi.lifecycle).mp)
  by_cases hop : ∃ channel pixels, op = .writeRgb48 channel pixels
  · obtain ⟨channel, pixels, rfl⟩ := hop
    constructor
    · intro ht r' record lease backend ho hr hv hl hg hp
      rw [hi.lifecycle] at hr
      cases hr
      by_contra hne
      -- such a write returns `LengthMismatch`, and its binding has the length of `pixels`
      have hmis := (lengthMismatch_iff (f := f) hi pixels).mpr ⟨ho, hv, record, lease, backend, hl, hg, by omega⟩
      obtain ⟨channel', pixels', b, hop, ⟨s, hs, hb⟩, hlog, hne'⟩ := (truthful_error hmis).mp ht
      rw [transition_op] at hop
      cases hop
      cases hs
      obtain ⟨b', hb', hrec⟩ := hi.binding hl
      have hself := bindingAt_self setup.valid hb
      rw [hlog] at hself
      cases hself.symm.trans hb'
      exact hne' (hp.trans (congrArg ChannelState.lenPixels hrec))
    · intro hm
      by_cases hmis : ((d.afterOps f ops).transition f (.writeRgb48 channel pixels)).result =
          .error (.error (expected .lengthMismatch))
      · obtain ⟨ho, hv, record, lease, backend, hl, hg, hp⟩ := (lengthMismatch_iff hi pixels).mp hmis
        obtain ⟨b, hb, hrec⟩ := hi.binding hl
        have hlen : record.lenPixels = b.pixels.toNat := congrArg ChannelState.lenPixels hrec
        obtain ⟨hmem, hlog⟩ := bindingAt_mem hb
        refine (truthful_error hmis).mpr ⟨channel, pixels, b, transition_op _, ⟨_, rfl, hmem⟩,
          ChannelId.asIndex_injective hlog, fun hpx => hp ?_⟩
        rw [hm r record lease backend ho hi.lifecycle hv hl hg (by omega), hpx, hlen]
      · exact htrue hmis
  · have ht : Truthful _ _ _ := htrue fun hmis => by
      obtain ⟨channel, pixels, h⟩ := (he op).mismatch hmis
      rw [transition_op] at h
      exact hop ⟨channel, pixels, h⟩
    refine ⟨fun _ => ?_, fun _ => ht⟩
    cases op with
    | writeRgb48 channel pixels => exact absurd ⟨channel, pixels, rfl⟩ hop
    | commit | service =>
      show (d.afterOps f ops).engine.isReady = true
      simp [LedEngine.isReady, hi.lifecycle]
    | _ => trivial

theorem Configuring.truthful_iff (hc : Configuring c done) (ops : List Op) (op : Op) :
    Truthful done (c.finalize.trace f ops) ((c.finalize.afterOps f ops).transition f op) ↔
      (c.finalize.afterOps f ops).Answerable op := by
  cases done with
  | some s => exact Configured.truthful_iff ⟨c, hc, rfl⟩ ops op
  | none =>
    have he := unready_run (f := f) (d := c.finalize) (configuring_inv hc) ops
    rw [(unready he op).truthful_iff, transition_op]
    have hready : (c.finalize.afterOps f ops).engine.isReady = false := by
      simp [LedEngine.isReady, he.lifecycle]
    cases op with
    | commit | service => simp [Answerable, LedEngine.isConfigurationCommitted, hready]
    | writeRgb48 channel pixels =>
      -- there is no ready state for a lease to be granted in
      simp [Answerable, he.lifecycle]
    | _ => simp [Answerable]

/-- Over every sequence of public calls, no `Driver::new` and no `configure_prepared` reaches
    the backstop, and exactly the `Answerable` calls after `finalize` return no false error. -/
theorem errors_truthful_iff (f : Features) :
    (∀ (driverId : DriverId) (backend : Recorder B) (e : Fault (Projected DriverInitError)),
      Driver.new driverId backend = .error e →
        ∃ p, e = .error p ∧ p.backstop = none ∧ ∃ err, (LedBackend.init backend).1 = .error err) ∧
      ∀ (c : Driver (Recorder B) .configuring) (done : Outcome), Configuring c done →
        (∀ (setup : PreparedSetup) (e : Fault (Projected RegisterError)) (c' : Driver (Recorder B) .configuring),
          configurePrepared setup c = .error e c' → ∃ p, e = .error p ∧ p.backstop = none) ∧
        ∀ (ops : List Op) (op : Op),
          Truthful done (c.finalize.trace f ops) ((c.finalize.afterOps f ops).transition f op) ↔
            (c.finalize.afterOps f ops).Answerable op := by
  refine ⟨fun driverId backend e h => ?_, fun c done hc => ⟨fun setup e c' h => ?_, hc.truthful_iff⟩⟩
  · obtain ⟨rfl, hinit⟩ := new_error h
    exact ⟨_, rfl, rfl, hinit⟩
  · obtain ⟨error, rfl⟩ := configure_error hc h
    exact ⟨_, rfl, rfl⟩

open TestSupport in
theorem errors_truthful_iff_fresh :
    ¬Truthful none ((fresh ⟨1⟩).finalize.trace .default [])
      (((fresh ⟨1⟩).finalize.afterOps .default []).transition .default .service) :=
  mt (((errors_truthful_iff .default).2 (fresh ⟨1⟩) none (fresh_configuring _)).2 [] .service).mp
    (show ¬((fresh ⟨1⟩).finalize.afterOps .default []).engine.isConfigurationCommitted = true by decide +kernel)

open TestSupport in
/-- A driver finalised without a configuration answers a commit with `Backend`, and no
    backend method was called. -/
theorem fresh_untruthful :
    Configuring (fresh ⟨1⟩) none ∧ ((fresh ⟨1⟩).finalize.transition .default .commit).calls = [] ∧
      ((fresh ⟨1⟩).finalize.transition .default .commit).result =
        .error (.error ⟨.backend, some ("engine.submit_dirty", .invalidState .mustBeReady)⟩) ∧
      ¬Truthful none [] ((fresh ⟨1⟩).finalize.transition .default .commit) := by
  have hres : ((fresh ⟨1⟩).finalize.transition .default .commit).result =
      .error (.error ⟨.backend, some ("engine.submit_dirty", .invalidState .mustBeReady)⟩) := by decide +kernel
  exact ⟨fresh_configuring _, by decide +kernel, hres, fun ht => nomatch ht.backstop _ hres⟩

end Api.Driver

end LedWireDriver
