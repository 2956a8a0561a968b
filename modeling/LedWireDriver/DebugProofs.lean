/-
  LedWireDriver.DebugProofs — the two builds compared (see `LedWireDriver.Debug`).

  `Asserts` relates a release program to its debug twin: it runs alike, or panics where the
  release one reaches the backstop. `finalize` asserts that a configuration was committed,
  so in a debug build no driver gets past it unconfigured; on a configured driver every call
  is the release build's, but for a write whose lease exposes no whole number of triplets to
  packing (`debug_agrees`).
-/

import LedWireDriver.Debug
import LedWireDriver.Refinement
import LedWireDriver.TestSupport

namespace LedWireDriver.Debug

open Fallible Words Api Engine Pack

variable {B : Type} [LedBackend B]

/-! ## Assertions that cannot fail -/

namespace RegistrationTable

theorem maskBit_eq {i : Nat} (h : i < ChannelMask.capacityBits) : maskBit i = Engine.RegistrationTable.maskBit i := by
  unfold maskBit
  rw [assert_pos h, ok_bind]
  rfl

/-- The loop only looks at the array's own indices. -/
theorem registeredChannelMask_eq (table : RegistrationTable) (maxChannels : Nat) :
    registeredChannelMask table maxChannels = table.registeredChannelMask maxChannels := by
  have hloop : ∀ (entries : List (Option ChannelState × Nat)) (bits : UInt32),
      (∀ entry ∈ entries, entry.2 < ChannelMask.capacityBits) →
      entries.foldlM (fun bits (entry : Option ChannelState × Nat) => if entry.1.isSome then do
        let bit ← maskBit entry.2
        pure (bits ||| bit.bits) else pure bits) bits =
      entries.foldlM (fun bits (entry : Option ChannelState × Nat) => if entry.1.isSome then do
        let bit ← Engine.RegistrationTable.maskBit entry.2
        pure (bits ||| bit.bits) else (pure bits : Checked UInt32)) bits := by
    intro entries
    induction entries with
    | nil => intro bits _; rfl
    | cons entry entries ih =>
      intro bits h
      rw [List.foldlM_cons, List.foldlM_cons, maskBit_eq (h entry (by simp))]
      exact bind_congr fun bits => ih bits fun x hx => h x (by simp [hx])
  refine congrArg (· >>= fun bits => pure (ChannelMask.fromBits bits)) (hloop _ 0 fun entry hentry => ?_)
  obtain ⟨-, hlt, -⟩ := List.mem_zipIdx (List.mem_of_mem_take hentry)
  exact lt_of_lt_of_le (by simpa using hlt) (by decide : driverMaxChannels ≤ ChannelMask.capacityBits)

theorem markWritten_eq (table : RegistrationTable) (i maxChannels : Nat) (dirty : ChannelMask) :
    markWritten table i maxChannels dirty = table.markWritten i maxChannels dirty := by
  unfold markWritten Engine.RegistrationTable.markWritten
  by_cases hi : i < ChannelMask.capacityBits
  · rw [maskBit_eq hi]
  · -- such a record is out of range, or out of the array
    have hrecord : ∃ e, table.record i maxChannels = .error e := by
      unfold Engine.RegistrationTable.record
      by_cases hm : maxChannels ≤ i
      · exact ⟨_, by rw [rejectIf_pos hm, error_bind]⟩
      · refine ⟨.panic, ?_⟩
        rw [rejectIf_neg hm, ok_bind, show index table.records i = .error .panic by
          unfold index
          rw [Vector.getElem?_eq_none (le_trans (by decide) (not_lt.mp hi))], error_bind]
    obtain ⟨e, he⟩ := hrecord
    rw [he, error_bind, error_bind]

end RegistrationTable

namespace LedEngine

variable {e : LedEngine B} {r : ReadyState}

omit [LedBackend B] in
theorem markChannelPublished_eq (i : Nat) :
    markChannelPublished i = (Engine.LedEngine.markChannelPublished i : EngineM B Unit) := by
  unfold markChannelPublished Engine.LedEngine.markChannelPublished
  simp only [RegistrationTable.markWritten_eq]

theorem configurePrepared_eq (he : e.isRegistering = true) (setup : PreparedSetup) (driverId : DriverId) :
    configurePrepared setup driverId e = Engine.LedEngine.configurePrepared setup driverId e := by
  have happly : ∀ plan : RegistrationPlan,
      applyRegistrationPlan plan e = Engine.LedEngine.applyRegistrationPlan plan e := by
    intro plan
    unfold applyRegistrationPlan Engine.LedEngine.applyRegistrationPlan
    rw [bind_ok (get_apply e), bind_ok (get_apply e)]
    simp only [he, Bool.not_true, Bool.false_eq_true, if_false]
  unfold configurePrepared Engine.LedEngine.configurePrepared
  rw [bind_ok (get_apply e), bind_ok (get_apply e)]
  have hbuild : buildRegistrationPlan e setup driverId = e.buildRegistrationPlan setup driverId := by
    unfold buildRegistrationPlan Engine.LedEngine.buildRegistrationPlan
    simp only [he, Bool.not_true, Bool.false_eq_true, if_false]
  rw [hbuild]
  refine bind_congr_ok fun plan e' hplan => ?_
  obtain rfl := lift_state hplan
  rw [bind_apply, bind_apply, happly plan]

omit [LedBackend B] in
theorem assertReady_eq (hr : e.lifecycle = .ready r) : assertReady e = e.ready := by
  unfold assertReady
  rw [Engine.LedEngine.ready_ok hr]

theorem tryStartPendingSubmit_eq (hr : e.lifecycle = .ready r) :
    tryStartPendingSubmit e = Engine.LedEngine.tryStartPendingSubmit e := by
  unfold tryStartPendingSubmit Engine.LedEngine.tryStartPendingSubmit
  rw [bind_ok (get_apply e), bind_ok (get_apply e), assertReady_eq hr]
  refine bind_congr_ok fun ready e₁ hready => ?_
  obtain rfl := lift_state hready
  rcases ready.transfer with _ | ⟨complete, mask⟩
  case inFlight => rfl
  by_cases hp : ready.pendingMask.isEmpty = true
  · simp only [if_pos hp]
  simp only [if_neg hp, RegistrationTable.registeredChannelMask_eq]
  refine bind_congr_ok fun registered e₂ hregistered => ?_
  obtain rfl := lift_state hregistered
  by_cases hs : (ChannelMask.fromBits (ready.pendingMask.bits &&& registered.bits)).isEmpty = true
  · simp only [if_pos hs]
  simp only [if_neg hs]
  refine bind_congr_ok fun start e₃ hstart => ?_
  cases start with
  | busy => rfl
  | started =>
    -- the backend's answer leaves the lifecycle alone
    have hr₃ : e₃.lifecycle = .ready r := by
      unfold Engine.LedEngine.callBackend at hstart
      split at hstart
      · cases hstart
        exact hr
      · cases hstart
    simp only [bind_ok (get_apply e₃), assertReady_eq hr₃]

theorem service_eq (hr : e.lifecycle = .ready r) : service e = Engine.LedEngine.service e := by
  unfold service Engine.LedEngine.service
  refine bind_congr_ok fun _ e₁ hsurface => bind_congr_ok fun _ e₂ hcomplete => ?_
  have hr₁ : e₁.lifecycle = .ready r := by
    cases hv : r.ingressViolation with
    | false =>
      rw [Engine.LedEngine.surface_clear hr hv] at hsurface
      cases hsurface
      exact hr
    | true =>
      rw [Engine.LedEngine.surface_latched hr hv] at hsurface
      cases hsurface
  by_cases hf : r.transfer.Free
  · rw [Engine.LedEngine.complete_free hr₁ hf] at hcomplete
    cases hcomplete
    exact tryStartPendingSubmit_eq rfl
  · obtain ⟨mask, ht⟩ := not_forall_not.mp hf
    rw [Engine.LedEngine.complete_waiting hr₁ ht] at hcomplete
    cases hcomplete
    exact tryStartPendingSubmit_eq hr₁

end LedEngine

/-! ## Programs that assert -/

section Asserts

variable {σ τ T α β : Type}

/-- An error that only the backstop projected. -/
def Backstopped : EStateM.Result (Fault (Projected T)) σ α → Prop
  | .error (.error p) _ => p.backstop.isSome = true
  | _ => False

/-- From `s` the debug build runs as the release build does, or panics where that one reaches
    the backstop. -/
def Asserts (x y : Prog (Projected T) σ α) (s : σ) : Prop :=
  y s = x s ∨ Backstopped (x s) ∧ ∃ s', y s = .error .panic s'

variable {x y : Prog (Projected T) σ α} {s : σ}

theorem Asserts.eq (h : Asserts x y s) (hx : ¬Backstopped (x s)) : y s = x s := h.resolve_right fun h => hx h.1

theorem Asserts.bind {k l : α → Prog (Projected T) σ β} (hx : Asserts x y s)
    (hk : ∀ a s', x s = .ok a s' → Asserts (k a) (l a) s') : Asserts (x >>= k) (y >>= l) s := by
  unfold Asserts
  rw [bind_apply, bind_apply]
  rcases hx with heq | ⟨hback, s', hpanic⟩
  · rw [heq]
    cases hr : x s with
    | ok a s' => exact hk a s' hr
    | error e s' => exact .inl rfl
  · rw [hpanic]
    cases hr : x s with
    | ok a s₁ => rw [hr] at hback; exact hback.elim
    | error e s₁ =>
      rw [hr] at hback
      exact .inr ⟨by cases e <;> exact hback, _, rfl⟩

theorem Asserts.mapErr {project : EngineError → Projected T} {x y : Prog EngineError σ α} (h : y s = x s) :
    Asserts (Fallible.mapErr project x) (mapErr project y) s := by
  unfold Asserts Fallible.mapErr Debug.mapErr
  rw [h]
  rcases x s with ⟨a, s'⟩ | ⟨err | _, s'⟩
  · exact .inl rfl
  · cases hp : (project err).backstop with
    | none => exact .inl (by simp only [projected, hp, Fault.map])
    | some reached => exact .inr ⟨by simp only [Fault.map, Backstopped, hp, Option.isSome_some],
        s', by simp only [projected, hp]⟩
  · exact .inl rfl

theorem Asserts.zoom {get : τ → σ} {put : σ → τ → τ} {t : τ} (h : Asserts x y (get t)) :
    Asserts (zoom get put x) (zoom get put y) t := by
  unfold Asserts Fallible.zoom
  rcases h with heq | ⟨hback, s', hpanic⟩
  · exact .inl (by rw [heq])
  · rw [hpanic]
    cases hr : x (get t) with
    | ok a s' => rw [hr] at hback; exact hback.elim
    | error e s₁ =>
      rw [hr] at hback
      exact .inr ⟨by cases e <;> exact hback, _, rfl⟩

theorem Asserts.borrowing {local₀ : τ} {release : τ → σ → σ} {x y : Prog (Projected T) τ α} (h : Asserts x y local₀) :
    Asserts (borrowing local₀ release x) (borrowing local₀ release y) s := by
  unfold Asserts Fallible.borrowing
  rcases h with heq | ⟨hback, s', hpanic⟩
  · exact .inl (by rw [heq])
  · rw [hpanic]
    cases hr : x local₀ with
    | ok a s' => rw [hr] at hback; exact hback.elim
    | error e s₁ =>
      rw [hr] at hback
      exact .inr ⟨by cases e <;> exact hback, _, rfl⟩

end Asserts

/-! ## Calls -/

variable {f : Features}

theorem packPrepared_eq {w : PreparedWrite B} (h : (BackendWriteLease.bytesMut w.lease).1.length % 3 = 0)
    (pixels : List Rgb48) :
    PreparedWrite.packRgb48Active f pixels w = Engine.PreparedWrite.packRgb48Active f pixels w := by
  have hpack : Debug.packRgb48Active f pixels w.layout w.framePhase (BackendWriteLease.bytesMut w.lease).1 =
      Pack.packRgb48Active f pixels w.layout w.framePhase (BackendWriteLease.bytesMut w.lease).1 := by
    unfold Debug.packRgb48Active packIntoBytes
    rw [bind_ok (get_apply _), assert_pos h, bind_ok (lift_ok _ _)]
    rfl
  unfold PreparedWrite.packRgb48Active Engine.PreparedWrite.packRgb48Active
  dsimp only
  generalize Debug.packRgb48Active f pixels w.layout w.framePhase (BackendWriteLease.bytesMut w.lease).1 = outcome,
    Pack.packRgb48Active f pixels w.layout w.framePhase (BackendWriteLease.bytesMut w.lease).1 = outcome' at hpack ⊢
  subst hpack
  cases outcome with
  | ok => rfl
  | error e => cases e <;> rfl

namespace Driver

omit [LedBackend B] in
theorem onEngine_asserts {S : Typestate} {E α : Type} {project : EngineError → Projected E} {x y : EngineM B α}
    {d : Driver B S} (h : y d.engine = x d.engine) :
    Asserts (Api.Driver.onEngine project x) (onEngine project y) d :=
  Asserts.zoom (Asserts.mapErr h)

/-- A write whose lease exposes whole triplets to packing. -/
def Aligned (d : Driver B .ready) : Op → Prop
  | .writeRgb48 channel _ => channel.owner = d.driverId → ∀ w e,
      Engine.LedEngine.acquirePreparedWrite channel.asIndex d.engine = .ok w e →
      (BackendWriteLease.bytesMut w.lease).1.length % 3 = 0
  | _ => True

theorem perform_asserts {d : Driver (Recorder B) .ready} {r : ReadyState} (hr : d.engine.lifecycle = .ready r) {op : Op}
    (ha : Aligned d op) : Asserts (Api.Driver.perform f op) (perform f op) d := by
  cases op with
  | channel channel => exact .inl rfl
  | commit => exact onEngine_asserts rfl
  | service => exact onEngine_asserts (LedEngine.service_eq hr)
  | onBackendSignal signal => exact .inl rfl
  | onBackendEvent event => exact .inl rfl
  | writeRgb48 channel pixels =>
    refine Asserts.bind (.inl rfl) fun writer d' hwriter => ?_
    by_cases ho : channel.owner = d.driverId
    case neg => rw [Api.Driver.channel_foreign ho] at hwriter; cases hwriter
    rw [Api.Driver.channel_own ho] at hwriter
    cases hwriter
    refine Asserts.bind (Asserts.bind (onEngine_asserts rfl) fun w d' hacquire => ?_) fun _ d' _ =>
      onEngine_asserts (by rw [LedEngine.markChannelPublished_eq])
    refine Asserts.borrowing (Asserts.bind (Asserts.mapErr (packPrepared_eq ?_ pixels)) fun _ w' _ => Asserts.mapErr rfl)
    cases hrun : Engine.LedEngine.acquirePreparedWrite channel.asIndex d.engine with
    | ok w' e =>
      rw [Api.Driver.onEngine_ok hrun] at hacquire
      cases hacquire
      exact ha ho w e hrun
    | error err e =>
      unfold Api.Driver.onEngine Fallible.zoom Fallible.mapErr at hacquire
      simp only [hrun] at hacquire
      cases hacquire

/-- A misaligned lease trips the assertion of `pack_into_bytes`. -/
theorem perform_misaligned {d : Driver (Recorder B) .ready} {op : Op} (ha : ¬Aligned d op) :
    ∃ d', perform f op d = .error .panic d' := by
  cases op with
  | writeRgb48 channel pixels =>
    unfold Aligned at ha
    push Not at ha
    obtain ⟨ho, w, e, hrun, hlen⟩ := ha
    have hpack : PreparedWrite.packRgb48Active f pixels w =
        .error .panic { w with lease := Engine.LedEngine.peek w.lease } := by
      unfold PreparedWrite.packRgb48Active Debug.packRgb48Active packIntoBytes
      simp only [bind_ok (get_apply _), assert_neg hlen, bind_error (lift_error _ _)]
      rfl
    have hpublish : ChannelWriter.packAndPublish f pixels w =
        .error .panic { w with lease := Engine.LedEngine.peek w.lease } := by
      refine bind_error ?_
      unfold Debug.mapErr
      rw [hpack]
    have hacquire : onEngine mapRuntimeWritePrepareError (Engine.LedEngine.acquirePreparedWrite channel.asIndex) d =
        .ok w { d with engine := e } := by
      unfold onEngine Fallible.zoom Debug.mapErr
      rw [hrun]
    have hwrite : ChannelWriter.acquirePackAndPublish f ⟨channel.asIndex⟩ pixels d =
        .error .panic ⟨d.driverId, e.dropLease (Engine.LedEngine.peek w.lease)⟩ := by
      unfold ChannelWriter.acquirePackAndPublish
      rw [bind_ok hacquire]
      exact borrowing_error hpublish
    refine ⟨⟨d.driverId, e.dropLease (Engine.LedEngine.peek w.lease)⟩, ?_⟩
    show (Api.Driver.channel channel >>= fun writer => ChannelWriter.writeRgb48 f writer pixels) d = _
    rw [bind_ok (Api.Driver.channel_own ho)]
    exact bind_error hwrite
  | _ => exact absurd trivial ha

/-! ## The driver's runs -/

def transition (f : Features) (d : Driver (Recorder B) .ready) (op : Op) : Transition B :=
  match perform f op d with
  | .ok _ d' => ⟨d, op, .ok (), d'.engine.backend.calls.drop d.engine.backend.calls.length, d'⟩
  | .error e d' => ⟨d, op, .error e, d'.engine.backend.calls.drop d.engine.backend.calls.length, d'⟩

/-- The transitions of a sequence of calls, the last one the first that panics. -/
def trace (f : Features) (d : Driver (Recorder B) .ready) : List Op → List (Transition B)
  | [] => []
  | op :: ops =>
    let t := transition f d op
    t :: if t.result = .error .panic then [] else trace f t.after ops

theorem Effect.expected {r : ReadyState} {t : Transition B} (h : Effect f r t) {e : Fault (Projected RuntimeError)}
    (he : t.result = .error e) : ∃ p, e = .error p ∧ p.backstop = none := by
  cases h with
  | foreign | surfaced | unregistered | unwritten | unsubmitted => cases he; exact ⟨_, rfl, rfl⟩
  | _ => cases he

variable {setup : PreparedSetup} {handles : ConfiguredChannels} {d : Driver (Recorder B) .ready} {r : ReadyState}

/-- A configured driver never reaches the backstop. -/
theorem perform_expected (hi : Inv setup d.engine r) (op : Op) : ¬Backstopped (Api.Driver.perform f op d) := by
  have he := fun e => Effect.expected (Api.Driver.effect (f := f) hi op) (e := e)
  unfold Api.Driver.transition at he
  cases hrun : Api.Driver.perform f op d with
  | ok a d' => exact id
  | error e d' =>
    simp only [hrun] at he
    obtain ⟨p, rfl, hp⟩ := he e rfl
    intro hback
    rw [Backstopped, hp] at hback
    cases hback

theorem transition_aligned (hi : Inv setup d.engine r) {op : Op} (ha : Aligned d op) :
    transition f d op = d.transition f op := by
  have heq := (perform_asserts hi.lifecycle ha).eq (perform_expected (f := f) hi op)
  unfold transition Api.Driver.transition
  generalize perform f op d = outcome, Api.Driver.perform f op d = outcome' at heq ⊢
  subst heq
  cases outcome <;> rfl

theorem transition_misaligned {op : Op} (ha : ¬Aligned d op) : (transition f d op).result = .error .panic := by
  obtain ⟨d', hrun⟩ := perform_misaligned (f := f) ha
  unfold transition
  rw [hrun]

/-- The second look at a stable lease shows the length the first one was checked for. -/
theorem aligned_of_stable (hi : Inv setup d.engine r) (hs : StableLeases B) (op : Op) : Aligned d op := by
  cases op with
  | writeRgb48 channel pixels =>
    intro _ w e hrun
    cases hv : r.ingressViolation with
    | true => rw [Engine.LedEngine.acquire_latched hi.lifecycle hv] at hrun; cases hrun
    | false =>
      cases hl : d.engine.channels.lookup channel.asIndex with
      | none =>
        obtain ⟨err, hacquire, -⟩ := Engine.LedEngine.acquire_unregistered
          (Engine.LedEngine.surface_clear hi.lifecycle hv) hi.maxChannels_le hl
        rw [hacquire] at hrun
        cases hrun
      | some record =>
        obtain ⟨hlt, hlen⟩ := hi.record hl
        obtain ⟨reply, backend, hacquired, hacquire⟩ :=
          acquirePreparedWrite_acquired hi.lifecycle hv hlt hi.maxChannels_le hl hlen
        rw [hacquire] at hrun
        cases hacquired with
        | @granted lease _ hg =>
          cases hrun
          have htarget := congrArg List.length (hs.recorder.target lease)
          rw [hg.length] at htarget
          show (target lease).length % 3 = 0
          omega
        | _ => cases hrun
  | _ => trivial

theorem trace_stable (hc : Api.Driver.Configured setup handles d) (hs : StableLeases B) (pre ops : List Op) :
    trace f (d.afterOps f pre) ops = (d.afterOps f pre).trace f ops := by
  induction ops generalizing pre with
  | nil => rfl
  | cons op ops ih =>
    obtain ⟨r, hi, he⟩ := hc.reached (f := f) pre
    have hstep := transition_aligned (f := f) hi (aligned_of_stable hi hs op)
    have hpanic : ((d.afterOps f pre).transition f op).result ≠ .error .panic := by
      intro hpanic
      obtain ⟨p, hp, -⟩ := Effect.expected (he op) hpanic
      cases hp
    have hrest := ih (pre ++ [op])
    rw [Api.Driver.afterOps_snoc] at hrest
    simp only [trace, Api.Driver.trace]
    rw [hstep, if_neg hpanic, hrest]

/-! ## The whole session -/

variable {c : Driver (Recorder B) .configuring} {done : Option (PreparedSetup × ConfiguredChannels)}

/-- `configure_prepared` asserts nothing that fails, whatever was called before. -/
theorem configurePrepared_eq (hc : Api.Driver.Configuring c done) (setup : PreparedSetup) :
    configurePrepared setup c = Api.Driver.configurePrepared setup c := by
  by_cases hne : setup.isEmpty = true
  · rw [Api.Driver.configure_empty hne]
    unfold configurePrepared
    rw [if_apply_pos hne, fail_apply]
  cases done with
  | some accepted =>
    have hcommitted : c.engine.isConfigurationCommitted = true := (Api.Driver.configuring_inv hc).isReady
    rw [Api.Driver.configure_again hne hcommitted]
    unfold configurePrepared
    rw [if_apply_neg hne, bind_ok (get_apply _), if_apply_pos hcommitted, fail_apply]
  | none =>
    have he : c.engine.Registering := Api.Driver.configuring_inv hc
    have hreg : c.engine.isRegistering = true := by simp [Engine.LedEngine.isRegistering, he.lifecycle]
    have hasserts : Asserts (Api.Driver.configurePrepared setup) (configurePrepared setup) c := by
      unfold Api.Driver.configurePrepared configurePrepared
      simp only [if_neg hne]
      refine Asserts.bind (.inl rfl) fun d d' hget => ?_
      cases hget
      by_cases hcommitted : c.engine.isConfigurationCommitted = true
      · simp only [if_pos hcommitted]
        exact .inl rfl
      · simp only [if_neg hcommitted]
        exact onEngine_asserts (LedEngine.configurePrepared_eq hreg setup c.driverId)
    refine hasserts.eq fun hback => ?_
    by_cases hf : ∀ b ∈ setup.bindings.toList, Fits c.engine.maxChannels c.engine.maxBytesPerChannel b
    · obtain ⟨plan, -, hrun⟩ := Api.Driver.configure_fits hne he hf
      rw [hrun] at hback
      rcases hb : LedBackend.configureChannels (setup.bindings.toList.map specOf) c.engine.backend with
        ⟨⟨_ | _⟩ | _, _⟩ <;> simp [hb, Backstopped, expected] at hback
    · simp [Api.Driver.configure_unfit hne he hf, Backstopped, expected] at hback

theorem new_eq (driverId : DriverId) (backend : B) : new driverId backend = Api.Driver.new driverId backend := by
  have hmap : mapErr mapDriverInitError Engine.LedEngine.init (Engine.LedEngine.new backend) =
      Fallible.mapErr mapDriverInitError Engine.LedEngine.init (Engine.LedEngine.new backend) := by
    refine (Asserts.mapErr rfl).eq fun hback => ?_
    rcases hi : LedBackend.init backend with ⟨err | _, backend'⟩
    · have hrun : Engine.LedEngine.init (Engine.LedEngine.new backend) =
          .error (.error (.backend err)) { Engine.LedEngine.new backend with backend := backend' } := by
        unfold Engine.LedEngine.init
        rw [bind_ok (get_apply _)]
        exact bind_error (Engine.LedEngine.callBackend_error (e := Engine.LedEngine.new backend) hi)
      rw [mapErr_error hrun] at hback
      cases hback
    · have hrun : Engine.LedEngine.init (Engine.LedEngine.new backend) =
          .ok ⟨⟩ { Engine.LedEngine.new backend with backend := backend', lifecycle := .registering } := by
        unfold Engine.LedEngine.init
        rw [bind_ok (get_apply _)]
        exact bind_ok (Engine.LedEngine.callBackend_ok (e := Engine.LedEngine.new backend) hi)
      rw [mapErr_ok hrun] at hback
      exact hback
  unfold new Api.Driver.new
  generalize mapErr mapDriverInitError Engine.LedEngine.init (Engine.LedEngine.new backend) = outcome,
    Fallible.mapErr mapDriverInitError Engine.LedEngine.init (Engine.LedEngine.new backend) = outcome' at hmap ⊢
  subst hmap
  cases outcome <;> rfl

end Driver

/-- How the two builds compare on a driver under configuration and, once finalised, on its
    runs. -/
structure Agrees (f : Features) (c : Driver (Recorder B) .configuring)
    (done : Option (PreparedSetup × ConfiguredChannels)) : Prop where
  configures : ∀ setup, Driver.configurePrepared setup c = Api.Driver.configurePrepared setup c
  finalizes : Driver.finalize c = if done.isSome then .ok c.finalize else .error .panic
  calls : done.isSome = true → ∀ ops op, Driver.Aligned (c.finalize.afterOps f ops) op →
    Driver.transition f (c.finalize.afterOps f ops) op = (c.finalize.afterOps f ops).transition f op
  misaligned : ∀ ops op, ¬Driver.Aligned (c.finalize.afterOps f ops) op →
    (Driver.transition f (c.finalize.afterOps f ops) op).result = .error .panic
  runs : done.isSome = true → StableLeases B → ∀ ops, Driver.trace f c.finalize ops = c.finalize.trace f ops

/-- Debug assertions do not change what a driver does. -/
theorem debug_agrees (f : Features) {c : Driver (Recorder B) .configuring}
    {done : Option (PreparedSetup × ConfiguredChannels)} (hc : Api.Driver.Configuring c done) :
    (∀ driverId (backend : B), Driver.new driverId backend = Api.Driver.new driverId backend) ∧ Agrees f c done := by
  refine ⟨Driver.new_eq, Driver.configurePrepared_eq hc, ?_, ?_, fun ops op ha => Driver.transition_misaligned ha, ?_⟩
  · unfold Driver.finalize
    cases done with
    | none =>
      have he : c.engine.Registering := Api.Driver.configuring_inv hc
      rw [assert_neg (by simp [Engine.LedEngine.isConfigurationCommitted, Engine.LedEngine.isReady, he.lifecycle])]
      rfl
    | some accepted =>
      have hcommitted : c.engine.isConfigurationCommitted = true := (Api.Driver.configuring_inv hc).isReady
      rw [assert_pos hcommitted]
      rfl
  · intro hd ops op ha
    obtain ⟨accepted, rfl⟩ := Option.isSome_iff_exists.mp hd
    have hconf : Api.Driver.Configured accepted.1 accepted.2 c.finalize := ⟨c, hc, rfl⟩
    obtain ⟨r, hi, -⟩ := hconf.reached (f := f) ops
    exact Driver.transition_aligned hi ha
  · intro hd hs ops
    obtain ⟨accepted, rfl⟩ := Option.isSome_iff_exists.mp hd
    have hconf : Api.Driver.Configured accepted.1 accepted.2 c.finalize := ⟨c, hc, rfl⟩
    exact Driver.trace_stable hconf hs [] ops

open TestSupport in
theorem debug_agrees_pair : Driver.trace bayer pair.1 lagging = pair.1.trace bayer lagging := by
  obtain ⟨c, hc, hpair⟩ := pair_configured
  rw [hpair]
  exact (debug_agrees bayer hc).2.runs rfl stableLeases lagging

end LedWireDriver.Debug
