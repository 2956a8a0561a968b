/-
  LedWireDriver.Protocol — the driver keeps to the protocol of its backend.

  `session` is the protocol of `LedBackend` as a monitor of the backend's calls: one init,
  configurations of well-formed specs until one is accepted, then writes of configured
  channels, each within one lease, and submissions while no accepted batch is uncompleted.
  `conforms` proves that the whole log of every driver is accepted, from `Driver::new` on,
  over any configuration attempts and any calls, whatever the backend answers; a driver
  finalised without a configuration only forwards ingress.
-/

import Mathlib.Data.List.Perm.Subperm
import LedWireDriver.Attempts
import LedWireDriver.Truthful
import LedWireDriver.Lib.Monitor

namespace LedWireDriver

open Fallible Words History Monitors Api Engine Pack

/-! ## The protocol -/

/-- How far the current write is with its lease. -/
inductive LeaseStage where
  | closed
  /-- Granted, for a strip of this many pixels. -/
  | granted (pixels : Nat)
  | measured
  | filled
  deriving DecidableEq

/-- Where a backend stands after the calls it received. -/
inductive Session where
  | created
  | registering
  /-- Ingress reached a backend that has no configuration and will get none. -/
  | unconfigured
  | configured (specs : List BackendChannelSpec) (stage : LeaseStage) (awaiting : Bool)
  deriving DecidableEq

/-- Specs that a backend with these capabilities may be given. -/
structure WellFormed (capabilities : BackendCapabilities) (specs : List BackendChannelSpec) : Prop where
  nonempty : specs ≠ []
  length_le : specs.length ≤ min capabilities.maxChannels driverMaxChannels
  nodup : (specs.map (·.channel)).Nodup
  pixels_ne : ∀ spec ∈ specs, spec.pixels ≠ 0
  bytes_le : ∀ spec ∈ specs, ∀ maxBytes ∈ capabilities.maxBytesPerChannel, 3 * spec.pixels.toNat ≤ maxBytes.toNat

instance (capabilities : BackendCapabilities) (specs : List BackendChannelSpec) :
    Decidable (WellFormed capabilities specs) :=
  have (spec : BackendChannelSpec) : Decidable (∀ maxBytes ∈ capabilities.maxBytesPerChannel,
      3 * spec.pixels.toNat ≤ maxBytes.toNat) := Option.decidableForallMem _
  decidable_of_iff (specs ≠ [] ∧ specs.length ≤ min capabilities.maxChannels driverMaxChannels ∧
    (specs.map (·.channel)).Nodup ∧ (∀ spec ∈ specs, spec.pixels ≠ 0) ∧
    ∀ spec ∈ specs, ∀ maxBytes ∈ capabilities.maxBytesPerChannel, 3 * spec.pixels.toNat ≤ maxBytes.toNat)
    ⟨fun ⟨h₁, h₂, h₃, h₄, h₅⟩ => ⟨h₁, h₂, h₃, h₄, h₅⟩, fun ⟨h₁, h₂, h₃, h₄, h₅⟩ => ⟨h₁, h₂, h₃, h₄, h₅⟩⟩

namespace Session

/-- The stage of a write once the backend has answered its acquisition. -/
def leased (spec : BackendChannelSpec) : Except BackendError (AcquireWrite BackendChannelId) → LeaseStage
  | .ok (.ready channel) => if channel = spec.channel then .granted spec.pixels.toNat else .closed
  | _ => .closed

def next (capabilities : BackendCapabilities) : Session → BackendCall → Option Session
  | .created, .init (.ok _) => some .registering
  | .registering, .configureChannels specs reply =>
    if WellFormed capabilities specs then
      match reply with
      | .ok _ => some (.configured specs .closed false)
      | .error _ => some .registering
    else none
  | .registering, .onSignal _ | .registering, .onEvent _ | .unconfigured, .onSignal _ | .unconfigured, .onEvent _ =>
    some .unconfigured
  | .configured specs _ awaiting, .acquireWriteTarget channel reply =>
    (specs.find? (·.channel = channel)).map fun spec => .configured specs (leased spec reply) awaiting
  -- the first look at a lease changes nothing
  | .configured specs (.granted pixels) awaiting, .bytesMut exposed written =>
    if written = exposed then
      some (.configured specs (if exposed.length = 3 * pixels then .measured else .closed) awaiting)
    else none
  | .configured specs .measured awaiting, .bytesMut exposed written =>
    if written.length = exposed.length then some (.configured specs .filled awaiting) else none
  | .configured specs .filled awaiting, .publish _ _ => some (.configured specs .closed awaiting)
  | .configured specs _ false, .submitChannels mask reply =>
    if mask ≠ 0 ∧ mask.toNat < 2 ^ min capabilities.maxChannels driverMaxChannels then
      some (.configured specs .closed (reply = .ok .started))
    else none
  | .configured specs _ awaiting, .onSignal _ => some (.configured specs .closed awaiting)
  | .configured specs _ _, .onEvent .transferComplete => some (.configured specs .closed false)
  | _, _ => none

end Session

def session (capabilities : BackendCapabilities) : Monitor Session BackendCall :=
  ⟨.created, Session.next capabilities⟩

@[simp] theorem session_next (capabilities : BackendCapabilities) :
    (session capabilities).next = Session.next capabilities := rfl

variable {B : Type} [LedBackend B] {f : Features} {capabilities : BackendCapabilities}

/-! ## What the log records -/

theorem Bisim.refl : Bisim B Eq Eq where
  acquire := by
    intro channel b b' hb
    subst hb
    rcases LedBackend.acquireWriteTarget channel b with ⟨err | lease | _, b'⟩
    · exact .error err rfl
    · exact .ok (.ready rfl) rfl
    · exact .ok .busy rfl
  channel := by intro l l' hl; rw [hl]
  exposed := by intro l l' hl; rw [hl]
  released := by intro l l' bytes hl; rw [hl]
  publish := by
    intro l l' hl
    subst hl
    rcases BackendWriteLease.publish l with ⟨err | _, l'⟩
    · exact .error err rfl
    · exact .ok rfl rfl
  dropLease := by intro l l' b b' hl hb; rw [hl, hb]
  submit := by
    intro m b b' hb
    subst hb
    rcases LedBackend.submitChannels m b with ⟨err | _, b'⟩
    · exact .error err rfl
    · exact .ok rfl rfl
  onSignal := by intro signal b b' hb; rw [hb]
  onEvent := by intro event b b' hb; rw [hb]

namespace Api.Driver

variable {d : Driver (Recorder B) .ready}

/-- A call only adds to the log, and what it adds is its calls. -/
theorem transition_log (f : Features) (d : Driver (Recorder B) .ready) (op : Op) :
    (d.transition f op).after.engine.backend.calls = d.engine.backend.calls ++ (d.transition f op).calls := by
  have hd : d.Twin (Recorder.Twin Eq d.engine.backend.calls d.engine.backend.calls) d :=
    ⟨rfl, _, rfl, rfl, [], (List.append_nil _).symm, (List.append_nil _).symm⟩
  have hrun := perform_alike (Bisim.refl.recorder d.engine.backend.calls d.engine.backend.calls) f op d d hd
  have gained : ∀ a : Driver (Recorder B) .ready, (∃ calls, a.engine.backend.calls = d.engine.backend.calls ++ calls) →
      a.engine.backend.calls =
        d.engine.backend.calls ++ a.engine.backend.calls.drop d.engine.backend.calls.length := by
    intro a ha
    obtain ⟨calls, hc⟩ := ha
    rw [hc, List.drop_left]
  unfold transition
  generalize perform f op d = p at hrun
  cases hrun with
  | ok _ ha =>
    obtain ⟨-, _, -, -, calls, hc, -⟩ := ha
    exact gained _ ⟨calls, hc⟩
  | error _ ha =>
    obtain ⟨-, _, -, -, calls, hc, -⟩ := ha
    exact gained _ ⟨calls, hc⟩

theorem afterOps_log (f : Features) (d : Driver (Recorder B) .ready) (ops : List Op) :
    (d.afterOps f ops).engine.backend.calls = d.engine.backend.calls ++ (d.trace f ops).flatMap (·.calls) := by
  induction ops using List.reverseRecOn with
  | nil => exact (List.append_nil _).symm
  | append_singleton ops op ih =>
    rw [afterOps_snoc, transition_log, ih, trace_snoc, List.flatMap_append, List.flatMap_singleton, List.append_assoc]

end Api.Driver

/-! ## Where the driver stands in the protocol -/

/-- The session of a backend whose driver has this engine. -/
inductive Attends (capabilities : BackendCapabilities) {B : Type} (e : LedEngine B) : Session → Prop
  | registering : e.Registering → Attends capabilities e .registering
  | unconfigured : e.Registering → Attends capabilities e .unconfigured
  | configured {setup : PreparedSetup} {r : ReadyState} {stage : LeaseStage} {awaiting : Bool} : Inv setup e r →
      (awaiting = true ↔ ¬r.transfer.Free) →
      Attends capabilities e (.configured (setup.bindings.toList.map specOf) stage awaiting)

/-- The engine works within the limits the backend gave it. -/
structure Within {B : Type} (capabilities : BackendCapabilities) (e : LedEngine B) : Prop where
  maxChannels : e.maxChannels = min capabilities.maxChannels driverMaxChannels
  maxBytesPerChannel : e.maxBytesPerChannel = capabilities.maxBytesPerChannel

/-! ## Configuration -/

section Configuration

variable {d : Driver (Recorder B) .configuring} {setup : PreparedSetup}

omit [LedBackend B] in
/-- What passes the driver's checks is well formed: distinct logical channels below the limit
    are no more than the limit. -/
theorem wellFormed_of_fits {e : LedEngine B} (hw : Within capabilities e) (hne : setup.isEmpty = false)
    (hf : ∀ b ∈ setup.bindings.toList, Fits e.maxChannels e.maxBytesPerChannel b) :
    WellFormed capabilities (setup.bindings.toList.map specOf) := by
  obtain ⟨hlt, hnodup, hbackend, hpixels⟩ := setup.valid
  refine ⟨?_, ?_, ?_, ?_, ?_⟩
  · intro hnil
    rw [List.map_eq_nil_iff] at hnil
    rw [PreparedSetup.isEmpty, hnil] at hne
    cases hne
  · rw [List.length_map, ← hw.maxChannels]
    have hindex : (setup.bindings.toList.map (·.logicalChannel.asIndex)).Nodup := by
      have := hnodup.map ChannelId.asIndex_injective
      rwa [List.map_map] at this
    have hsub : setup.bindings.toList.map (·.logicalChannel.asIndex) ⊆ List.range e.maxChannels := by
      intro i hi
      obtain ⟨b, hb, rfl⟩ := List.mem_map.mp hi
      exact List.mem_range.mpr (hf b hb).1
    have hle := (List.subperm_of_subset hindex hsub).length_le
    rwa [List.length_map, List.length_range] at hle
  · rwa [List.map_map]
  · intro spec hs
    obtain ⟨b, hb, rfl⟩ := List.mem_map.mp hs
    exact hpixels b hb
  · intro spec hs maxBytes hm
    obtain ⟨b, hb, rfl⟩ := List.mem_map.mp hs
    rw [← hw.maxBytesPerChannel] at hm
    exact (hf b hb).2 maxBytes hm

namespace Api.Driver

/-- An attempt adds its calls to the log, leads the session on, and keeps the limits. -/
theorem attempt_attends {s : Session} (hw : Within capabilities d.engine) (ha : Attends capabilities d.engine s)
    (hs : s ≠ .unconfigured) (setup : PreparedSetup) :
    (d.attempt setup).after.engine.backend.calls = d.engine.backend.calls ++ (d.attempt setup).calls ∧
      Within capabilities (d.attempt setup).after.engine ∧
      ∃ s', (session capabilities).run s (d.attempt setup).calls = some s' ∧ s' ≠ .unconfigured ∧
        Attends capabilities (d.attempt setup).after.engine s' := by
  -- an attempt that stops before the backend
  have quiet : ∀ e, configurePrepared setup d = .error e d →
      (d.attempt setup).after.engine.backend.calls = d.engine.backend.calls ++ (d.attempt setup).calls ∧
      Within capabilities (d.attempt setup).after.engine ∧
      ∃ s', (session capabilities).run s (d.attempt setup).calls = some s' ∧ s' ≠ .unconfigured ∧
        Attends capabilities (d.attempt setup).after.engine s' := by
    intro e he
    rw [attempt_error he (List.append_nil _).symm]
    exact ⟨(List.append_nil _).symm, hw, s, rfl, hs, ha⟩
  cases hne : setup.isEmpty with
  | true => exact quiet _ (configure_empty hne)
  | false =>
    have hne' : ¬setup.isEmpty = true := by rw [hne]; decide
    cases ha with
    | unconfigured => exact absurd rfl hs
    | configured hi => exact quiet _ (configure_again hne' (by simp [LedEngine.isConfigurationCommitted, LedEngine.isReady,
        hi.lifecycle]))
    | registering he =>
      by_cases hf : ∀ b ∈ setup.bindings.toList, Fits d.engine.maxChannels d.engine.maxBytesPerChannel b
      case neg => exact quiet _ (configure_unfit hne' he hf)
      have hwell := wellFormed_of_fits hw hne hf
      obtain ⟨plan, hplan, hrun⟩ := configure_fits hne' he hf
      rcases hb : LedBackend.configureChannels (setup.bindings.toList.map specOf) d.engine.backend with ⟨reply, backend⟩
      have hcalls : backend.calls = d.engine.backend.calls ++
          [.configureChannels (setup.bindings.toList.map specOf) reply] := by cases hb; rfl
      rw [hb] at hrun
      cases reply with
      | ok =>
        rw [attempt_ok hrun hcalls]
        refine ⟨hcalls, ⟨hw.maxChannels, hw.maxBytesPerChannel⟩,
          .configured (setup.bindings.toList.map specOf) .closed false, ?_, by simp, ?_⟩
        · simp [Session.next, hwell]
        · exact .configured (committed_of_stages he hf hplan).inv (by simp [ReadyState.new, TransferState.Free])
      | error err =>
        have hnext : (session capabilities).run .registering
            [.configureChannels (setup.bindings.toList.map specOf) (.error err)] = some .registering := by
          simp [Session.next, hwell]
        cases err with
        | invalidBinding =>
          rw [attempt_error hrun hcalls]
          exact ⟨hcalls, ⟨hw.maxChannels, hw.maxBytesPerChannel⟩, _, hnext, by simp, .registering (he.withBackend backend)⟩
        | transportFault code =>
          rw [attempt_error hrun hcalls]
          exact ⟨hcalls, ⟨hw.maxChannels, hw.maxBytesPerChannel⟩, _, hnext, by simp, .registering (he.withBackend backend)⟩

theorem new_attends {driverId : DriverId} {backend : B} (h : Driver.new driverId (⟨backend, []⟩ : Recorder B) = .ok d) :
    d.engine.backend.calls = [.init (.ok ())] ∧ Within (LedBackend.capabilities backend) d.engine ∧
      d.engine.Registering := by
  obtain ⟨he, -, hmax, hbytes⟩ := new_registering h
  refine ⟨?_, ⟨hmax, hbytes⟩, he⟩
  unfold Driver.new at h
  rcases hi : LedBackend.init (⟨backend, []⟩ : Recorder B) with ⟨reply, backend'⟩
  have hcalls : backend'.calls = [.init reply] := by cases hi; rfl
  have hnew : (LedEngine.new (⟨backend, []⟩ : Recorder B)).lifecycle = .uninitialized := rfl
  cases reply with
  | error err =>
    rw [mapErr_error (e := .error (EngineError.backend err)) (by
      unfold LedEngine.init
      rw [bind_ok (get_apply _)]
      exact bind_error (LedEngine.callBackend_error (e := LedEngine.new _) hi))] at h
    cases h
  | ok =>
    rw [mapErr_ok (by
      unfold LedEngine.init
      rw [bind_ok (get_apply _)]
      exact bind_ok (LedEngine.callBackend_ok (e := LedEngine.new _) hi))] at h
    cases h
    exact hcalls

end Api.Driver

end Configuration

/-! ## Calls -/

section Call

variable {t : Transition B} {setup : PreparedSetup} {r : ReadyState}

omit [LedBackend B] in
/-- The spec a record was configured with. -/
theorem find_spec {e : LedEngine B} (hi : Inv setup e r) {i : Nat} {record : ChannelState}
    (hl : e.channels.lookup i = some record) :
    ∃ spec, (setup.bindings.toList.map specOf).find? (·.channel = record.backendChannel) = some spec ∧
      spec.channel = record.backendChannel ∧ spec.pixels.toNat = record.lenPixels := by
  obtain ⟨b, hb, hrec⟩ := hi.binding hl
  obtain ⟨hmem, -⟩ := bindingAt_mem hb
  have hbackend : record.backendChannel = b.backendChannel := congrArg ChannelState.backendChannel hrec
  have hlen : record.lenPixels = b.pixels.toNat := congrArg ChannelState.lenPixels hrec
  have hsome : ((setup.bindings.toList.map specOf).find? (·.channel = record.backendChannel)).isSome = true := by
    rw [List.find?_isSome]
    exact ⟨specOf b, List.mem_map_of_mem hmem, by simp [specOf, hbackend]⟩
  obtain ⟨spec, hspec⟩ := Option.isSome_iff_exists.mp hsome
  obtain ⟨b', hmem', rfl⟩ := List.mem_map.mp (List.mem_of_find?_eq_some hspec)
  have hfound := List.find?_some hspec
  have hchannel : b'.backendChannel = record.backendChannel := of_decide_eq_true hfound
  -- no two bindings name one backend channel
  obtain rfl := List.inj_on_of_nodup_map setup.valid.backend_nodup hmem' hmem (hchannel.trans hbackend)
  exact ⟨_, hspec, hchannel, hlen.symm⟩

/-- Every write keeps to its lease, however it ends. -/
theorem WriteCalls.session {record : ChannelState} {pixels : List Rgb48} {reply : Except RuntimeError Unit}
    {calls : List BackendCall} (h : WriteCalls B f record pixels reply calls) {specs : List BackendChannelSpec}
    {spec : BackendChannelSpec} (hfind : specs.find? (·.channel = record.backendChannel) = some spec)
    (hchannel : spec.channel = record.backendChannel) (hpixels : spec.pixels.toNat = record.lenPixels)
    (stage : LeaseStage) (awaiting : Bool) :
    ∃ stage', (session capabilities).run (.configured specs stage awaiting) calls =
      some (.configured specs stage' awaiting) := by
  have hacquire : ∀ reply, Session.next capabilities (.configured specs stage awaiting)
      (.acquireWriteTarget record.backendChannel reply) = some (.configured specs (Session.leased spec reply) awaiting) := by
    intro reply
    simp [Session.next, hfind]
  have hone : ∀ reply calls, (LedWireDriver.session capabilities).run (.configured specs stage awaiting)
      (.acquireWriteTarget record.backendChannel reply :: calls) =
        (LedWireDriver.session capabilities).run (.configured specs (Session.leased spec reply) awaiting) calls := by
    intro reply calls
    rw [Monitor.run_cons, session_next, hacquire, Option.bind_some]
  have hgranted : Session.leased spec (.ok (.ready record.backendChannel)) = .granted record.lenPixels := by
    simp [Session.leased, hchannel, hpixels]
  cases h with
  | failed | busy | wrongChannel => exact ⟨_, hone _ []⟩
  | wrongLength hlen =>
    exact ⟨.closed, by rw [hone, hgranted]; simp [Session.next, hlen]⟩
  | mismatch hlen => exact ⟨.filled, by rw [hone, hgranted]; simp [Session.next, hlen]⟩
  | unpublished _ hlen _ hp hpack | published hlen _ hp hpack =>
    have hbytes := packRgb48Active_length hp hpack
    exact ⟨.closed, by rw [hone, hgranted]; simp [Session.next, hlen, hbytes]⟩

omit [LedBackend B] in
/-- A mask of registered channels stays below the limit. -/
theorem mask_lt {e : LedEngine B} (hw : Within capabilities e) {mask : ChannelMask}
    (hm : Registered e.channels e.maxChannels mask) :
    mask.bits.toNat < 2 ^ min capabilities.maxChannels driverMaxChannels := by
  rw [← hw.maxChannels]
  refine Nat.lt_pow_two_of_testBit _ fun i hi => ?_
  rw [Bool.eq_false_iff]
  intro hbit
  have := (hm i hbit).1
  omega

/-- Whatever a call does, the session takes it. -/
theorem Effect.attends (h : Effect f r t) (hi : Inv setup t.before.engine r) (hw : Within capabilities t.before.engine)
    (stage : LeaseStage) {awaiting : Bool} (ha : awaiting = true ↔ ¬r.transfer.Free) :
    ∃ s', (session capabilities).run (.configured (setup.bindings.toList.map specOf) stage awaiting) t.calls = some s' ∧
      Attends capabilities t.after.engine s' := by
  obtain ⟨q, hq⟩ := h.inv hi
  -- a call that leaves the transfer alone
  have keep : ∀ stage' q', t.after.engine.lifecycle = .ready q' → q'.transfer = r.transfer →
      Attends capabilities t.after.engine (.configured (setup.bindings.toList.map specOf) stage' awaiting) := by
    intro stage' q' hq' htransfer
    cases hq.lifecycle.symm.trans hq'
    exact .configured hq (by rw [htransfer, ha])
  have hfree : r.transfer.Free → awaiting = false := by
    intro hf
    rw [← Bool.not_eq_true, ha, not_not]
    exact hf
  -- a submission: what the backend answers decides what it awaits
  have offer : ∀ reply, r.transfer.Free → r.pendingMask.bits ≠ 0 →
      (session capabilities).run (.configured (setup.bindings.toList.map specOf) stage awaiting)
        [.submitChannels r.pendingMask.bits reply] =
        some (.configured (setup.bindings.toList.map specOf) .closed (reply = .ok .started)) := by
    intro reply hf hp
    have hnext : Session.next capabilities (.configured (setup.bindings.toList.map specOf) stage false)
        (.submitChannels r.pendingMask.bits reply) =
        some (.configured (setup.bindings.toList.map specOf) .closed (reply = .ok .started)) := by
      cases stage <;> simp [Session.next, hp, mask_lt hw hi.pending]
    rw [hfree hf, Monitor.run_cons, session_next, hnext, Option.bind_some, Monitor.run_nil]
  cases h with
  | found | foreign | unregistered | waited => exact ⟨_, rfl, keep stage _ hi.lifecycle rfl⟩
  | surfaced | committed => exact ⟨_, rfl, keep stage _ rfl rfl⟩
  | unwritten backend _ _ hl hwc =>
    obtain ⟨spec, hfind, hchannel, hpixels⟩ := find_spec hi hl
    obtain ⟨stage', hrun⟩ := hwc.session hfind hchannel hpixels stage awaiting
    exact ⟨_, hrun, keep stage' r hi.lifecycle rfl⟩
  | wrote backend _ _ hl hwc =>
    obtain ⟨spec, hfind, hchannel, hpixels⟩ := find_spec hi hl
    obtain ⟨stage', hrun⟩ := hwc.session hfind hchannel hpixels stage awaiting
    exact ⟨_, hrun, keep stage' _ rfl rfl⟩
  | rested _ hf =>
    refine ⟨_, rfl, .configured hq ?_⟩
    cases hq.lifecycle
    simp [hfree hf, TransferState.Free]
  | refused _ _ hf hp | unsubmitted _ _ _ hf hp | started _ _ hf hp =>
    refine ⟨_, offer _ hf hp, .configured hq ?_⟩
    cases hq.lifecycle
    simp [TransferState.Free]
  | signalled signal backend =>
    refine ⟨.configured (setup.bindings.toList.map specOf) .closed awaiting, ?_, keep .closed r hi.lifecycle rfl⟩
    cases stage <;> rfl
  | completed event backend ht =>
    cases event
    refine ⟨.configured (setup.bindings.toList.map specOf) .closed false, ?_, .configured hq ?_⟩
    · cases stage <;> rfl
    · cases hq.lifecycle
      simp [TransferState.Free]
  | strayed event backend ht =>
    cases event
    refine ⟨.configured (setup.bindings.toList.map specOf) .closed false, ?_, .configured hq ?_⟩
    · cases stage <;> rfl
    · cases hq.lifecycle
      simp [TransferState.Free, ht]

theorem Unready.limits (h : Unready t) :
    t.after.engine.maxChannels = t.before.engine.maxChannels ∧
      t.after.engine.maxBytesPerChannel = t.before.engine.maxBytesPerChannel := by
  cases h <;> exact ⟨rfl, rfl⟩

theorem Unready.attends (h : Unready t) (he : t.before.engine.Registering) {s : Session}
    (hs : s = .registering ∨ s = .unconfigured) :
    ∃ s', (session capabilities).run s t.calls = some s' ∧ Attends capabilities t.after.engine s' := by
  have hafter := h.registering he
  cases h with
  | found | invalid | uncommitted | unserviced =>
    rcases hs with rfl | rfl
    · exact ⟨_, rfl, .registering hafter⟩
    · exact ⟨_, rfl, .unconfigured hafter⟩
  | signalled | reported =>
    refine ⟨.unconfigured, ?_, .unconfigured hafter⟩
    rcases hs with rfl | rfl <;> rfl

end Call

/-! ## Runs -/

namespace Api.Driver

variable {d : Driver (Recorder B) .ready}

theorem transition_attends (hw : Within capabilities d.engine) {s : Session} (ha : Attends capabilities d.engine s)
    (f : Features) (op : Op) : Within capabilities (d.transition f op).after.engine ∧
      ∃ s', (session capabilities).run s (d.transition f op).calls = some s' ∧
        Attends capabilities (d.transition f op).after.engine s' := by
  have hbefore := transition_before (f := f) (d := d) op
  have within : (d.transition f op).after.engine.maxChannels = (d.transition f op).before.engine.maxChannels ∧
      (d.transition f op).after.engine.maxBytesPerChannel = (d.transition f op).before.engine.maxBytesPerChannel →
      Within capabilities (d.transition f op).after.engine := by
    intro h
    rw [hbefore] at h
    exact ⟨h.1.trans hw.maxChannels, h.2.trans hw.maxBytesPerChannel⟩
  cases ha with
  | registering he =>
    have hun := unready (f := f) he op
    exact ⟨within hun.limits, hun.attends (by rwa [hbefore]) (Or.inl rfl)⟩
  | unconfigured he =>
    have hun := unready (f := f) he op
    exact ⟨within hun.limits, hun.attends (by rwa [hbefore]) (Or.inr rfl)⟩
  | configured hi hawaiting =>
    have heffect := effect (f := f) hi op
    exact ⟨within heffect.limits, heffect.attends (by rwa [hbefore]) (by rwa [hbefore]) _ hawaiting⟩

/-- The log of a driver is accepted from its creation on, whatever was configured and called,
    and the two sides agree on where they are. -/
theorem conforms {driverId : DriverId} {backend : B} {d₀ : Driver (Recorder B) .configuring}
    (hnew : Driver.new driverId (⟨backend, []⟩ : Recorder B) = .ok d₀) (f : Features) (setups : List PreparedSetup)
    (ops : List Op) : ∃ s, (session (LedBackend.capabilities backend)).check
        ((d₀.afterAttempts setups).finalize.afterOps f ops).engine.backend.calls = some s ∧
      Attends (LedBackend.capabilities backend) ((d₀.afterAttempts setups).finalize.afterOps f ops).engine s := by
  have hconfigured : Within (LedBackend.capabilities backend) (d₀.afterAttempts setups).engine ∧
      ∃ s, (session (LedBackend.capabilities backend)).check (d₀.afterAttempts setups).engine.backend.calls = some s ∧
        s ≠ .unconfigured ∧ Attends (LedBackend.capabilities backend) (d₀.afterAttempts setups).engine s := by
    obtain ⟨hlog, hw, he⟩ := new_attends hnew
    induction setups using List.reverseRecOn with
    | nil => exact ⟨hw, .registering, by rw [show d₀.afterAttempts [] = d₀ from rfl, hlog]; rfl, by simp, .registering he⟩
    | append_singleton setups setup ih =>
      obtain ⟨hw, s, hs, hne, ha⟩ := ih
      obtain ⟨hlog, hw', s', hs', hne', ha'⟩ := attempt_attends hw ha hne setup
      rw [afterAttempts_snoc]
      exact ⟨hw', s', by rw [hlog]; exact Monitor.run_trans hs hs', hne', ha'⟩
  obtain ⟨hw, s, hs, -, ha⟩ := hconfigured
  have keep : ∀ (d : Driver (Recorder B) .ready) (t : Transition B) (d' : Driver (Recorder B) .ready) (s : Session),
      Within (LedBackend.capabilities backend) d.engine ∧ Attends (LedBackend.capabilities backend) d.engine s →
      (∃ op, t = d.transition f op ∧ d' = t.after) →
      ∃ s', (session (LedBackend.capabilities backend)).run s t.calls = some s' ∧
        Within (LedBackend.capabilities backend) d'.engine ∧ Attends (LedBackend.capabilities backend) d'.engine s' := by
    intro d t d' s ha hx
    obtain ⟨op, rfl, rfl⟩ := hx
    obtain ⟨hw', s', hs', ha'⟩ := transition_attends ha.1 ha.2 f op
    exact ⟨s', hs', hw', ha'⟩
  obtain ⟨s', hs', -, ha'⟩ := Run.monitored keep (steps (d₀.afterAttempts setups).finalize ops) ⟨hw, ha⟩
  rw [afterOps_log]
  exact ⟨s', Monitor.run_trans hs hs', ha'⟩

open TestSupport in
theorem conforms_fake :
    ∃ d₀, Driver.new ⟨1⟩ (⟨.new TestSupport.capabilities, []⟩ : Recorder FakeBackend) = .ok d₀ ∧
      ∃ s, (session TestSupport.capabilities).check
        ((d₀.afterAttempts [pairSetup, swappedSetup]).finalize.afterOps bayer lagging).engine.backend.calls = some s ∧
      Attends TestSupport.capabilities ((d₀.afterAttempts [pairSetup, swappedSetup]).finalize.afterOps bayer lagging).engine s :=
  ⟨_, rfl, conforms (show Driver.new ⟨1⟩ (⟨.new TestSupport.capabilities, []⟩ : Recorder FakeBackend) = .ok _ from rfl) bayer
    [pairSetup, swappedSetup] lagging⟩

end Api.Driver

end LedWireDriver
