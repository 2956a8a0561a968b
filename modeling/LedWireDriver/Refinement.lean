/-
  LedWireDriver.Refinement — the driver refines the committed-batch protocol of
  `LedWireDriver.Spec.Batching`.

  `abstraction` reads the protocol's state off an engine (its masks as sets of channels,
  its records as phases) and `Transition.label` the protocol's event off a call.
  `Effect.inv` and `Effect.step` are the step lemmas, `Configured.run` the run lemma: the
  calls of any run of a configured driver are a run of the protocol.
-/

import LedWireDriver.Effect
import LedWireDriver.Spec.Batching

namespace LedWireDriver

open Fallible Words History Batching Api Engine Pack

/-! ## Masks as sets of channels -/

/-- The logical channels a mask names. -/
def channels (m : UInt32) : Set ChannelId := {c | has m c.asIndex = true}

@[simp] theorem mem_channels {m : UInt32} {c : ChannelId} : c ∈ channels m ↔ has m c.asIndex = true := Iff.rfl

@[simp] theorem channels_zero : channels 0 = ∅ := by
  ext c; simp

@[simp] theorem channels_or (m m' : UInt32) : channels (m ||| m') = channels m ∪ channels m' := by
  ext c; simp

theorem channels_or_bit (m : UInt32) {c : ChannelId} (h : c.asIndex < 32) :
    channels (m ||| bit c.asIndex) = insert c (channels m) := by
  ext c'
  simp only [mem_channels, has_or, has_bit h, Set.mem_insert_iff, Bool.or_eq_true, decide_eq_true_eq]
  rw [ChannelId.asIndex_injective.eq_iff, or_comm, eq_comm]

/-- Every bit of a mask is the index of a channel. -/
theorem channels_injective : Function.Injective channels := fun m m' h => by
  refine Words.ext fun i hi => ?_
  have hc : (⟨UInt8.ofNat i⟩ : ChannelId).asIndex = i := by
    simp only [ChannelId.asIndex, UInt8.toNat_ofNat']; omega
  have := Set.ext_iff.mp h ⟨UInt8.ofNat i⟩
  rw [mem_channels, mem_channels, hc] at this
  exact Bool.eq_iff_iff.mpr this

theorem channels_inj {m m' : UInt32} : channels m = channels m' ↔ m' = m := by
  rw [channels_injective.eq_iff, eq_comm]

theorem channels_eq_empty {m : UInt32} : channels m = ∅ ↔ m = 0 := by
  rw [← channels_zero, channels_injective.eq_iff]

theorem channels_nonempty {m : UInt32} : (channels m).Nonempty ↔ m ≠ 0 := by
  rw [Set.nonempty_iff_ne_empty, ne_eq, channels_eq_empty]

/-! ## The abstraction -/

namespace Engine

def TransferState.flight : TransferState → Option (Set ChannelId × Bool)
  | .idle => none
  | .inFlight complete mask => some (channels mask.bits, complete)

theorem TransferState.free_iff {t : TransferState} : t.Free ↔ ¬∃ m, t.flight = some (m, false) := by
  constructor
  · intro h hx
    obtain ⟨m, hm⟩ := hx
    cases t with
    | idle => cases hm
    | inFlight complete mask =>
      obtain rfl : complete = false := (Prod.mk.inj (Option.some.inj hm)).2
      exact h mask rfl
  · intro h mask hx
    subst hx
    exact h ⟨_, rfl⟩

/-- The phase of a registered channel. -/
def RegistrationTable.phase (table : RegistrationTable) (c : ChannelId) : FrameEpoch :=
  ((table.lookup c.asIndex).map (·.framePhase)).getD .zero

def ReadyState.abstraction (r : ReadyState) (phase : ChannelId → FrameEpoch) : Batching.State ChannelId FrameEpoch :=
  ⟨channels r.dirtyMask.bits, channels r.pendingMask.bits, r.transfer.flight, r.ingressViolation, phase⟩

def LedEngine.abstraction {B : Type} (e : LedEngine B) : Batching.State ChannelId FrameEpoch :=
  match e.lifecycle with
  | .ready r => r.abstraction e.channels.phase
  | _ => Batching.init e.channels.phase

theorem LedEngine.abstraction_ready {B : Type} {e : LedEngine B} {r : ReadyState} (hr : e.lifecycle = .ready r) :
    e.abstraction = r.abstraction e.channels.phase := by
  unfold LedEngine.abstraction; rw [hr]

open Classical in
theorem RegistrationTable.phase_advanced {table : RegistrationTable} {maxChannels : Nat} {mask : ChannelMask}
    (hreg : Registered table maxChannels mask) : (table.advanced mask).phase =
      fun c => if c ∈ channels mask.bits then (table.phase c).wrappingAdd 1 else table.phase c := by
  funext c
  unfold RegistrationTable.phase
  rw [lookup_advanced]
  by_cases h : has mask.bits c.asIndex = true
  · obtain ⟨record, hrec⟩ := Option.isSome_iff_exists.mp (hreg _ h).2
    simp [h, hrec, ChannelState.advancePhase]
  · simp [h]

end Engine

variable {B : Type}

/-- What the protocol sees of a call. -/
def Transition.label (t : Transition B) : Label ChannelId FrameEpoch :=
  let s := t.before.engine.abstraction
  match t.op with
  | .channel _ | .onBackendSignal _ => .silent
  | .onBackendEvent _ => if s.flight.isSome then .completed else .strayed
  | .writeRgb48 channel _ =>
    if channel.owner ≠ t.before.driverId then .silent
    else if s.stray then .surfaced
    else match t.result with
      | .ok _ => .wrote channel.id (s.phase channel.id)
      | .error _ => .failed
  | .commit => if s.stray then .surfaced else .committed
  | .service =>
    if s.stray then .surfaced
    else match t.calls with
      | [.submitChannels m (.ok .started)] => .started (channels m)
      | [.submitChannels m _] => .refused (channels m)
      | _ => .rested

/-! ## One call -/

namespace Transition

variable {t : Transition B} {channel : Channel} {pixels : List Rgb48}

theorem label_write (hop : t.op = .writeRgb48 channel pixels) (ho : channel.owner = t.before.driverId)
    (hs : t.before.engine.abstraction.stray = false) :
    t.label = match t.result with
      | .ok _ => .wrote channel.id (t.before.engine.abstraction.phase channel.id)
      | .error _ => .failed := by
  unfold label
  simp only [hop, ho, hs, ne_eq, not_true_eq_false, if_false, Bool.false_eq_true]

theorem label_commit (hop : t.op = .commit) (hs : t.before.engine.abstraction.stray = false) :
    t.label = .committed := by
  simp [label, hop, hs]

theorem label_service (hop : t.op = .service) (hs : t.before.engine.abstraction.stray = false) :
    t.label = match t.calls with
      | [.submitChannels m (.ok .started)] => .started (channels m)
      | [.submitChannels m _] => .refused (channels m)
      | _ => .rested := by
  unfold label
  simp only [hop, hs, if_false, Bool.false_eq_true]

theorem label_event {event : BackendEvent} (hop : t.op = .onBackendEvent event) :
    t.label = if t.before.engine.abstraction.flight.isSome then .completed else .strayed := by
  simp [label, hop]

theorem label_foreign (hop : t.op.handle? = some channel) (ho : channel.owner ≠ t.before.driverId) :
    t.label = .silent := by
  unfold label
  cases h : t.op <;> rw [h] at hop <;> cases hop
  exact if_pos ho

theorem label_surfaced (hop : t.op.Runtime t.before.driverId) (hs : t.before.engine.abstraction.stray = true) :
    t.label = .surfaced := by
  unfold label
  cases h : t.op <;> rw [h] at hop <;> simp only [Op.Runtime] at hop <;>
    simp only [hop, hs, ne_eq, not_true_eq_false, if_false, if_true]

end Transition

section Step

variable [LedBackend B] {f : Features} {setup : PreparedSetup} {r : ReadyState} {t : Transition B}

theorem Effect.inv (h : Effect f r t) (hi : Inv setup t.before.engine r) : ∃ r', Inv setup t.after.engine r' := by
  cases h with
  | found | foreign | unregistered | waited => exact ⟨r, hi⟩
  | unwritten | signalled => exact ⟨r, hi.withBackend⟩
  | surfaced => exact ⟨_, hi.set hi.dirty hi.pending hi.flight⟩
  | wrote backend _ _ hl =>
    exact ⟨_, hi.set (hi.dirty.or (.bit (hi.record hl).1 (hi.index_lt hl) hl)) hi.pending hi.flight⟩
  | committed => exact ⟨_, hi.set (registered_zero _ _) (hi.pending.or hi.dirty) hi.flight⟩
  | rested => exact ⟨_, hi.set hi.dirty hi.pending (fun _ _ h => by cases h)⟩
  | refused | unsubmitted => exact ⟨_, hi.set hi.dirty hi.pending (fun _ _ h => by cases h)⟩
  | started backend _ _ hp => exact hi.accepted hp
  | completed event backend ht =>
    refine ⟨_, hi.set hi.dirty hi.pending fun _ _ h => ?_⟩
    cases h
    exact hi.flight _ _ ht
  | strayed event backend ht => exact ⟨_, hi.set hi.dirty hi.pending hi.flight⟩

omit [LedBackend B] in
/-- The protocol state once the pending batch was accepted. -/
theorem abstraction_accepted {e : LedEngine (Recorder B)} {backend : Recorder B}
    (hreg : Registered e.channels e.maxChannels r.pendingMask) :
    (e.accepted r backend).abstraction = (r.abstraction e.channels.phase).accept (·.wrappingAdd 1) := by
  show (⟨_, channels ChannelMask.zero.bits, _, _, (e.channels.advanced r.pendingMask).phase⟩ :
    Batching.State ChannelId FrameEpoch) = _
  rw [RegistrationTable.phase_advanced hreg, show channels ChannelMask.zero.bits = ∅ from channels_zero]
  rfl

theorem Effect.step (h : Effect f r t) (hi : Inv setup t.before.engine r) :
    Batching.Step (·.wrappingAdd 1) t.before.engine.abstraction t.label t.after.engine.abstraction := by
  have hs := LedEngine.abstraction_ready hi.lifecycle
  have hstray : t.before.engine.abstraction.stray = r.ingressViolation := by rw [hs]; rfl
  have hawait : r.transfer.Free → ¬(r.abstraction t.before.engine.channels.phase).Awaiting := TransferState.free_iff.mp
  have hpend : r.pendingMask.bits ≠ 0 → (r.abstraction t.before.engine.channels.phase).pending.Nonempty :=
    channels_nonempty.mpr
  cases h with
  | found => exact .silent _
  | foreign hop ho =>
    rw [Transition.label_foreign hop ho]
    exact .silent _
  | surfaced hop hv =>
    rw [Transition.label_surfaced hop (hstray.trans hv), hs]
    exact .surfaced _ hv
  | unregistered ho hv =>
    rw [Transition.label_write rfl ho (hstray.trans hv)]
    exact .failed _ (hstray.trans hv)
  | unwritten backend ho hv =>
    rw [Transition.label_write rfl ho (hstray.trans hv)]
    exact .failed _ (hstray.trans hv)
  | @wrote d channel _ _ _ backend ho hv hl =>
    rw [Transition.label_write rfl ho (hstray.trans hv), hs]
    have hafter : (((d.withBackend backend).withReady
        { r with dirtyMask := ⟨r.dirtyMask.bits ||| bit channel.asIndex⟩ }).engine).abstraction =
        { r.abstraction d.engine.channels.phase with dirty := insert channel.id (channels r.dirtyMask.bits) } := by
      rw [← channels_or_bit _ (hi.index_lt hl)]
      rfl
    rw [hafter]
    exact .wrote _ _ hv
  | @committed d hv =>
    rw [Transition.label_commit rfl (hstray.trans hv), hs]
    have hafter : (d.withReady { r with pendingMask := ⟨r.pendingMask.bits ||| r.dirtyMask.bits⟩,
                                        dirtyMask := .zero }).engine.abstraction =
        { r.abstraction d.engine.channels.phase with
          dirty := ∅, pending := channels r.pendingMask.bits ∪ channels r.dirtyMask.bits } := by
      rw [← channels_or, ← channels_zero]
      rfl
    rw [hafter]
    exact .committed _ hv
  | waited hv ht =>
    rw [Transition.label_service rfl (hstray.trans hv), hs]
    exact .waited _ hv ⟨_, congrArg TransferState.flight ht⟩
  | rested hv ht hp =>
    rw [Transition.label_service rfl (hstray.trans hv), hs]
    exact .rested _ hv (hawait ht) (channels_eq_empty.mpr hp)
  | refused backend hv ht hp =>
    rw [Transition.label_service rfl (hstray.trans hv), hs]
    exact .refused _ hv (hawait ht) (hpend hp)
  | unsubmitted err backend hv ht hp =>
    rw [Transition.label_service rfl (hstray.trans hv), hs]
    exact .refused _ hv (hawait ht) (hpend hp)
  | started backend hv ht hp =>
    rw [Transition.label_service rfl (hstray.trans hv), hs, abstraction_accepted hi.pending]
    exact .started _ hv (hawait ht) (hpend hp)
  | signalled => exact .silent _
  | @completed d _ _ event backend ht =>
    have hf : (r.abstraction d.engine.channels.phase).flight = some _ := congrArg TransferState.flight ht
    rw [Transition.label_event rfl, hs, hf]
    exact .completed _ _ _ hf
  | @strayed d event backend ht =>
    have hf : (r.abstraction d.engine.channels.phase).flight = none := congrArg TransferState.flight ht
    rw [Transition.label_event rfl, hs, hf]
    exact .strayed _ hf

/-! ## What the label says of a call -/

theorem WriteCalls.no_submit {record : ChannelState} {pixels : List Rgb48} {reply : Except RuntimeError Unit}
    {calls : List BackendCall} (h : WriteCalls B f record pixels reply calls) :
    (∀ m start, .submitChannels m start ∉ calls) ∧ calls.countP (·.isSubmit) = 0 ∧
      ∀ c, calls.countP (·.accepts c) = 0 := by
  cases h <;> simp [BackendCall.isSubmit, BackendCall.accepts]

/-- The protocol's event `l` says of the call `t` what the driver's user and its backend can see. -/
structure Observes (t : Transition B) (l : Label ChannelId FrameEpoch) : Prop where
  writes : ∀ c, l.Writes c ↔ t.WritesOk c
  commits : l.Commits ↔ t.CommitsOk
  started : ∀ m, t.Starts m ↔ l = .started (channels m)
  starts : l.Starts → ∃ m, t.Starts m
  submits : ∀ m, t.Submits m ↔ l = .started (channels m) ∨ l = .refused (channels m)
  submits_once : t.calls.countP (·.isSubmit) ≤ 1
  accepts : ∀ c, t.calls.countP (·.accepts c) = (open Classical in if l.Carries c then 1 else 0)
  completes : l.Completes ↔ t.Completes
  runtime : l.Runtime ↔ t.op.Runtime t.before.driverId

attribute [local simp] Transition.WritesOk Transition.CommitsOk Transition.Starts Transition.Submits
  Transition.Completes Label.Writes Label.Commits Label.Starts Label.Carries Label.Completes Label.Runtime Op.Runtime
  BackendCall.isSubmit BackendCall.accepts in
theorem Effect.observes (h : Effect f r t) (hi : Inv setup t.before.engine r) : Observes t t.label := by
  have hs := LedEngine.abstraction_ready hi.lifecycle
  have hstray : t.before.engine.abstraction.stray = r.ingressViolation := by rw [hs]; rfl
  have hflight : t.before.engine.abstraction.flight = r.transfer.flight := by rw [hs]; rfl
  cases h with
  | found => constructor <;> simp [Transition.label]
  | @foreign d op channel hop ho =>
    rw [Transition.label_foreign hop ho]
    cases op <;> cases hop <;> constructor <;> simp [ho]
  | @surfaced d op hop hv =>
    rw [Transition.label_surfaced hop (hstray.trans hv)]
    cases op <;> simp only [Op.Runtime] at hop <;> constructor <;> simp [hop]
  | unregistered ho hv =>
    rw [Transition.label_write rfl ho (hstray.trans hv)]
    constructor <;> simp [ho]
  | unwritten backend ho hv hl hw =>
    rw [Transition.label_write rfl ho (hstray.trans hv)]
    constructor <;> simp [ho, hw.no_submit, -BackendCall.isSubmit, -BackendCall.accepts]
  | wrote backend ho hv hl hw =>
    rw [Transition.label_write rfl ho (hstray.trans hv)]
    constructor <;> simp [ho, hw.no_submit, eq_comm, -BackendCall.isSubmit, -BackendCall.accepts]
  | committed hv =>
    rw [Transition.label_commit rfl (hstray.trans hv)]
    constructor <;> simp
  | waited hv =>
    rw [Transition.label_service rfl (hstray.trans hv)]
    constructor <;> simp
  | rested hv =>
    rw [Transition.label_service rfl (hstray.trans hv)]
    constructor <;> simp
  | refused backend hv =>
    rw [Transition.label_service rfl (hstray.trans hv)]
    constructor <;> simp [channels_inj]
  | unsubmitted err backend hv =>
    rw [Transition.label_service rfl (hstray.trans hv)]
    constructor <;> simp [channels_inj]
  | started backend hv =>
    rw [Transition.label_service rfl (hstray.trans hv)]
    constructor <;> simp [channels_inj]
  | signalled => constructor <;> simp [Transition.label]
  | completed event backend ht =>
    rw [Transition.label_event rfl, hflight, ht]
    cases event
    constructor <;> simp [TransferState.flight]
  | strayed event backend ht =>
    rw [Transition.label_event rfl, hflight, ht]
    cases event
    constructor <;> simp [TransferState.flight]

end Step

/-! ## What the labels say of a history -/

section History

variable {ts : List (Transition B)} {c : ChannelId}

theorem Observes.starts_iff {t : Transition B} {l : Label ChannelId FrameEpoch} (h : Observes t l) :
    l.Starts ↔ ∃ m, t.Starts m := by
  refine ⟨h.starts, ?_⟩
  intro hx
  obtain ⟨m, hm⟩ := hx
  rw [(h.started m).mp hm]
  trivial

theorem uncommitted_iff (ho : ∀ t ∈ ts, Observes t t.label) :
    Batching.Uncommitted c (ts.map Transition.label) ↔ Transition.Uncommitted c ts := by
  unfold Batching.Uncommitted
  rw [since_map, since_congr (χ := (¬·.CommitsOk)) (θ := fun _ t => t.WritesOk c)]
  · rfl
  · intro t ht
    rw [(ho t ht).commits]
  · intro pre t post hx
    subst hx
    exact (ho t (by simp)).writes c

theorem unsent_iff (ho : ∀ t ∈ ts, Observes t t.label) :
    Batching.Unsent c (ts.map Transition.label) ↔ Transition.Unsent c ts := by
  unfold Batching.Unsent
  rw [since_map, since_congr (χ := fun t => ∀ m, ¬t.Starts m)
    (θ := fun pre t => t.CommitsOk ∧ Transition.Uncommitted c pre)]
  · constructor
    · intro hx
      obtain ⟨_, k, post, rfl, ⟨hk, pre, w, mid, rfl, hw, hmid⟩, hpost⟩ := hx
      exact ⟨pre, w, mid, k, post, rfl, hw, hmid, hk, hpost⟩
    · intro hx
      obtain ⟨pre, w, mid, k, post, rfl, hw, hmid, hk, hpost⟩ := hx
      exact ⟨pre ++ w :: mid, k, post, rfl, ⟨hk, pre, w, mid, rfl, hw, hmid⟩, hpost⟩
  · intro t ht
    rw [(ho t ht).starts_iff, not_exists]
  · intro pre t post hx
    subst hx
    rw [(ho t (by simp)).commits, uncommitted_iff fun x hx => ho x (by simp [hx])]

theorem carried_eq (c : ChannelId) (ho : ∀ t ∈ ts, Observes t t.label) :
    Batching.carried c (ts.map Transition.label) = Transition.startedCount c ts := by
  induction ts with
  | nil => rfl
  | cons t ts ih =>
    rw [List.map_cons, carried_cons, ih fun x hx => ho x (by simp [hx])]
    unfold Transition.startedCount
    rw [List.flatMap_cons, List.countP_append, (ho t (by simp)).accepts c, Nat.add_comm]

end History

/-! ## Runs -/

namespace Api.Driver

variable [LedBackend B] {f : Features} {d : Driver (Recorder B) .ready} {setup : PreparedSetup} {r : ReadyState}

theorem trace_append (ops ops' : List Op) :
    d.trace f (ops ++ ops') = d.trace f ops ++ (d.afterOps f ops).trace f ops' := by
  induction ops generalizing d with
  | nil => rfl
  | cons op ops ih => simp only [List.cons_append, trace, afterOps, ih]

theorem afterOps_append (ops ops' : List Op) :
    d.afterOps f (ops ++ ops') = (d.afterOps f ops).afterOps f ops' := by
  induction ops generalizing d with
  | nil => rfl
  | cons op ops ih => simp only [List.cons_append, afterOps, ih]

theorem trace_snoc (ops : List Op) (op : Op) :
    d.trace f (ops ++ [op]) = d.trace f ops ++ [(d.afterOps f ops).transition f op] := by
  rw [trace_append]; rfl

theorem afterOps_snoc (ops : List Op) (op : Op) :
    d.afterOps f (ops ++ [op]) = ((d.afterOps f ops).transition f op).after := by
  rw [afterOps_append]; rfl

@[simp] theorem transition_before (op : Op) : (d.transition f op).before = d := by
  unfold transition; split <;> rfl

@[simp] theorem transition_op (op : Op) : (d.transition f op).op = op := by
  unfold transition; split <;> rfl

/-- The calls of a sequence, as a run of the concrete transition relation. -/
theorem steps (d : Driver (Recorder B) .ready) (ops : List Op) :
    Run (fun d t d' => ∃ op, t = d.transition f op ∧ d' = t.after) d (d.trace f ops) (d.afterOps f ops) := by
  induction ops using List.reverseRecOn with
  | nil => exact .nil d
  | append_singleton ops op ih =>
    rw [trace_snoc, afterOps_snoc]
    exact .snoc ih ⟨op, rfl, rfl⟩

/-- Every call of a run starts after a run of earlier calls. -/
theorem trace_split {ops : List Op} {pre post : List (Transition B)} {t : Transition B}
    (h : d.trace f ops = pre ++ t :: post) :
    ∃ ops₁ op ops₂, ops = ops₁ ++ op :: ops₂ ∧ pre = d.trace f ops₁ ∧ t = (d.afterOps f ops₁).transition f op ∧
      post = t.after.trace f ops₂ := by
  induction ops generalizing d pre with
  | nil => simp [trace] at h
  | cons op ops ih =>
    cases pre with
    | nil =>
      obtain ⟨rfl, rfl⟩ := List.cons.inj h
      exact ⟨[], op, ops, rfl, rfl, rfl, rfl⟩
    | cons t₀ pre =>
      obtain ⟨rfl, hrest⟩ := List.cons.inj h
      obtain ⟨ops₁, op', ops₂, rfl, rfl, rfl, rfl⟩ := ih hrest
      exact ⟨op :: ops₁, op', ops₂, rfl, rfl, rfl, rfl⟩

theorem mem_trace_op {ops : List Op} {t : Transition B} (h : t ∈ d.trace f ops) : t.op ∈ ops := by
  obtain ⟨pre, post, hsplit⟩ := List.append_of_mem h
  obtain ⟨ops₁, op, ops₂, rfl, -, rfl, -⟩ := trace_split hsplit
  rw [transition_op]
  simp

/-- A run of a configured engine is a run of the protocol, and keeps the engine configured. -/
theorem refines (hi : Inv setup d.engine r) (ops : List Op) :
    Run (Batching.Step (·.wrappingAdd 1)) d.engine.abstraction ((d.trace f ops).map Transition.label)
        (d.afterOps f ops).engine.abstraction ∧
      ∃ r', Inv setup (d.afterOps f ops).engine r' := by
  refine Run.simulate (I := fun d => ∃ r, Inv setup d.engine r) (fun d => d.engine.abstraction) Transition.label ?_
    (steps d ops) ⟨r, hi⟩
  intro d t d' hx hy
  obtain ⟨r, hi⟩ := hx
  obtain ⟨op, rfl, rfl⟩ := hy
  have he := effect (f := f) hi op
  rw [← transition_before (f := f) (d := d) op] at hi
  have hstep := he.step hi
  rw [transition_before] at hstep
  exact ⟨hstep, he.inv hi⟩

theorem observed (hi : Inv setup d.engine r) (ops : List Op) : ∀ t ∈ d.trace f ops, Observes t t.label := by
  intro t ht
  obtain ⟨pre, post, hsplit⟩ := List.append_of_mem ht
  obtain ⟨ops₁, op, -, -, -, rfl, -⟩ := trace_split hsplit
  obtain ⟨-, r', hi'⟩ := refines (f := f) hi ops₁
  exact (effect hi' op).observes (by rwa [transition_before])

omit [LedBackend B] in
theorem Committed.abstraction {handles : ConfiguredChannels} {c : Driver (Recorder B) .configuring}
    (h : Committed setup handles c) : c.engine.abstraction = Batching.init fun _ => .zero := by
  have hphase : c.engine.channels.phase = fun _ => .zero := by
    funext id
    unfold RegistrationTable.phase
    rw [h.table]
    cases bindingAt setup.bindings.toList id.asIndex <;> rfl
  rw [LedEngine.abstraction_ready h.lifecycle, hphase]
  simp only [ReadyState.abstraction, ReadyState.new, ChannelMask.zero, channels_zero]
  rfl

variable {handles : ConfiguredChannels}

theorem Configured.inv (hc : Configured setup handles d) : Inv setup d.engine .new := by
  obtain ⟨c, hc, rfl⟩ := hc
  exact (configuring_inv hc).inv

/-- Every state of a run of a configured driver, and every call from it. -/
theorem Configured.reached (hc : Configured setup handles d) (ops : List Op) :
    ∃ r, Inv setup (d.afterOps f ops).engine r ∧ ∀ op, Effect f r ((d.afterOps f ops).transition f op) := by
  obtain ⟨-, r, hi⟩ := refines (f := f) hc.inv ops
  exact ⟨r, hi, effect hi⟩

/-- The calls of any run of a configured driver are a run of the protocol, from its initial
    state. -/
theorem Configured.run (hc : Configured setup handles d) (ops : List Op) :
    Run (Batching.Step (·.wrappingAdd 1)) (Batching.init fun _ => .zero) ((d.trace f ops).map Transition.label)
      (d.afterOps f ops).engine.abstraction := by
  have hrun := (refines (f := f) hc.inv ops).1
  obtain ⟨c, hc, rfl⟩ := hc
  rw [show c.finalize.engine.abstraction = _ from (configuring_inv hc).abstraction] at hrun
  exact hrun

end Api.Driver

end LedWireDriver
