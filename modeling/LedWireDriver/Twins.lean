/-
  LedWireDriver.Twins — drivers whose backends answer alike.

  A `Bisim` relates backend states that give equal replies now and after equal calls. Two
  drivers that differ only in such backends (`Driver.Twin`) run in lockstep: every public
  call has the same result on both, makes the same backend calls and leaves twins
  (`transition_twin`). So what a call returns depends on the backend through its replies
  alone.
-/

import LedWireDriver.Lib.Relational
import LedWireDriver.Effect

namespace LedWireDriver

open Fallible Words Api Engine Pack

/-! ## Backends that answer alike -/

/-- Two replies, with the states they leave. -/
inductive Answers {α β S T : Type} (V : α → β → Prop) (R : S → T → Prop) :
    Except BackendError α × S → Except BackendError β × T → Prop
  | ok {a : α} {b : β} {s : S} {t : T} : V a b → R s t → Answers V R (.ok a, s) (.ok b, t)
  | error (err : BackendError) {s : S} {t : T} : R s t → Answers V R (.error err, s) (.error err, t)

inductive AcquireWrite.Alike {L : Type} (relLease : L → L → Prop) : AcquireWrite L → AcquireWrite L → Prop
  | busy : Alike relLease .busy .busy
  | ready {lease lease' : L} : relLease lease lease' → Alike relLease (.ready lease) (.ready lease')

/-- Related states answer alike every method that a ready driver calls. -/
structure Bisim (B : Type) [LedBackend B] (rel : B → B → Prop) (relLease : WriteLease B → WriteLease B → Prop) :
    Prop where
  acquire : ∀ channel b b', rel b b' → Answers (AcquireWrite.Alike relLease) rel
    (LedBackend.acquireWriteTarget channel b) (LedBackend.acquireWriteTarget channel b')
  channel : ∀ l l', relLease l l' → BackendWriteLease.channel l = BackendWriteLease.channel l'
  exposed : ∀ l l', relLease l l' → (BackendWriteLease.bytesMut l).1 = (BackendWriteLease.bytesMut l').1
  released : ∀ l l' bytes, relLease l l' →
    relLease ((BackendWriteLease.bytesMut l).2 bytes) ((BackendWriteLease.bytesMut l').2 bytes)
  publish : ∀ l l', relLease l l' → Answers Eq relLease (BackendWriteLease.publish l) (BackendWriteLease.publish l')
  dropLease : ∀ l l' b b', relLease l l' → rel b b' → rel (LedBackend.dropLease l b) (LedBackend.dropLease l' b')
  submit : ∀ m b b', rel b b' → Answers Eq rel (LedBackend.submitChannels m b) (LedBackend.submitChannels m b')
  onSignal : ∀ signal b b', rel b b' → rel (LedBackend.onSignal signal b) (LedBackend.onSignal signal b')
  onEvent : ∀ event b b', rel b b' → rel (LedBackend.onEvent event b) (LedBackend.onEvent event b')

/-- `on_event` does not change later replies: up to `rel`, it does nothing. -/
structure EventBlind (B : Type) [LedBackend B] (rel : B → B → Prop) (relLease : WriteLease B → WriteLease B → Prop) :
    Prop extends Bisim B rel relLease where
  refl : ∀ b, rel b b
  blind : ∀ event b b', rel b b' → rel (LedBackend.onEvent event b) b'

variable {B : Type} [LedBackend B] {rel : B → B → Prop} {relLease : WriteLease B → WriteLease B → Prop} {f : Features}

/-- Recorded backends, whatever they have logged. -/
def Recorder.Alike (rel : B → B → Prop) (r r' : Recorder B) : Prop := rel r.inner r'.inner

/-- Recorded backends that have logged the same calls since `log` and `log'`. -/
def Recorder.Twin (rel : B → B → Prop) (log log' : List BackendCall) (r r' : Recorder B) : Prop :=
  Recorder.Alike rel r r' ∧ ∃ calls, r.calls = log ++ calls ∧ r'.calls = log' ++ calls

omit [LedBackend B] in
theorem Recorder.Twin.log {log log' : List BackendCall} {r r' : Recorder B} {inner inner' : B} (call : BackendCall)
    (h : Recorder.Twin rel log log' r r') (hi : rel inner inner') :
    Recorder.Twin rel log log' (r.log inner call) (r'.log inner' call) := by
  obtain ⟨-, calls, hc, hc'⟩ := h
  exact ⟨hi, calls ++ [call], by simp [Recorder.log, hc], by simp [Recorder.log, hc']⟩

def RecordedLease.Twin {L : Type} (relLease : L → L → Prop) (l l' : RecordedLease L) : Prop :=
  relLease l.inner l'.inner ∧ l.calls = l'.calls

theorem Bisim.recorder (h : Bisim B rel relLease) (log log' : List BackendCall) :
    Bisim (Recorder B) (Recorder.Twin rel log log') (RecordedLease.Twin relLease) where
  acquire channel r r' hr := by
    have ha := h.acquire channel _ _ hr.1
    simp only [LedBackend.acquireWriteTarget]
    generalize LedBackend.acquireWriteTarget channel r.inner = p,
      LedBackend.acquireWriteTarget channel r'.inner = p' at ha
    cases ha with
    | error err hi => exact .error err (hr.log _ hi)
    | ok hv hi =>
      cases hv with
      | busy => exact .ok .busy (hr.log _ hi)
      | ready hl =>
        refine .ok (.ready ⟨hl, rfl⟩) ?_
        rw [h.channel _ _ hl]
        exact hr.log _ hi
  channel l l' hl := h.channel _ _ hl.1
  exposed l l' hl := h.exposed _ _ hl.1
  released l l' bytes hl := by
    refine ⟨h.released _ _ bytes hl.1, ?_⟩
    show l.calls ++ [_] = l'.calls ++ [_]
    rw [hl.2, h.exposed _ _ hl.1]
  publish l l' hl := by
    have hp := h.publish _ _ hl.1
    simp only [BackendWriteLease.publish]
    rw [hl.2, h.exposed _ _ hl.1]
    generalize BackendWriteLease.publish l.inner = p, BackendWriteLease.publish l'.inner = p' at hp
    cases hp with
    | ok hv hi => subst hv; exact .ok rfl ⟨hi, rfl⟩
    | error err hi => exact .error err ⟨hi, rfl⟩
  dropLease l l' r r' hl hr := by
    obtain ⟨hi, calls, hc, hc'⟩ := hr
    refine ⟨h.dropLease _ _ _ _ hl.1 hi, calls ++ l.calls, ?_, ?_⟩
    · show r.calls ++ l.calls = _
      rw [hc, List.append_assoc]
    · show r'.calls ++ l'.calls = _
      rw [hc', ← hl.2, List.append_assoc]
  submit m r r' hr := by
    have hs := h.submit m _ _ hr.1
    simp only [LedBackend.submitChannels]
    generalize LedBackend.submitChannels m r.inner = p, LedBackend.submitChannels m r'.inner = p' at hs
    cases hs with
    | ok hv hi => subst hv; exact .ok rfl (hr.log _ hi)
    | error err hi => exact .error err (hr.log _ hi)
  onSignal signal r r' hr := hr.log _ (h.onSignal signal _ _ hr.1)
  onEvent event r r' hr := hr.log _ (h.onEvent event _ _ hr.1)

/-! ## The engine's programs -/

namespace Engine

/-- Engines that differ only in related backends. -/
def LedEngine.Twin {B : Type} (rel : B → B → Prop) (e e' : LedEngine B) : Prop :=
  ∃ backend, e' = { e with backend } ∧ rel e.backend backend

namespace LedEngine

omit [LedBackend B] in
theorem Twin.withReady (r : ReadyState) (e e' : LedEngine B) (h : e.Twin rel e') :
    (e.withReady r).Twin rel (e'.withReady r) := by
  obtain ⟨backend, rfl, hb⟩ := h
  exact ⟨backend, rfl, hb⟩

omit [LedBackend B] in
theorem callBackend_alike {α : Type} {V : α → α → Prop} {method method' : B → Except BackendError α × B}
    (h : ∀ b b', rel b b' → Answers V rel (method b) (method' b')) :
    Alike Eq (Twin rel) V (callBackend method) (callBackend method') := by
  intro e e' he
  obtain ⟨backend, rfl, hb⟩ := he
  have h := h _ _ hb
  unfold callBackend
  generalize method e.backend = p, method' backend = p' at h
  cases h with
  | ok hv hb' => exact .ok hv ⟨_, rfl, hb'⟩
  | error err hb' => exact .error rfl ⟨_, rfl, hb'⟩

omit [LedBackend B] in
theorem surface_alike :
    Alike Eq (Twin rel) Eq surfaceLatchedIngressViolation (surfaceLatchedIngressViolation (B := B)) := by
  unfold surfaceLatchedIngressViolation
  refine Alike.get.bind ?_
  intro e e' he
  obtain ⟨backend, rfl, -⟩ := he
  rw [show ({ e with backend } : LedEngine B).ready = e.ready from rfl]
  rcases e.ready with err | r
  · exact .pure rfl
  · dsimp only
    rcases r.takeIngressViolation with ⟨_ | violation, r⟩
    · exact .pure rfl
    · exact (Alike.modify (Twin.withReady r)).bind fun _ _ _ => .fail rfl

omit [LedBackend B] in
theorem submitDirty_alike : Alike Eq (Twin rel) Eq submitDirty (submitDirty (B := B)) := by
  unfold submitDirty
  refine surface_alike.bind fun _ _ _ => Alike.get.bind ?_
  intro e e' he
  obtain ⟨backend, rfl, -⟩ := he
  refine (Alike.lift (fun _ => rfl) _).bind ?_
  intro r r' hr
  subst hr
  by_cases hd : r.dirtyMask.isEmpty = true
  · rw [if_pos hd]
    exact .pure rfl
  · rw [if_neg hd]
    refine Alike.get.bind ?_
    intro e e' he
    obtain ⟨backend, rfl, -⟩ := he
    refine (Alike.lift (fun _ => rfl) _).bind ?_
    intro r r' hr
    subst hr
    exact .modify (Twin.withReady _)

omit [LedBackend B] in
theorem markChannelPublished_alike (i : Nat) :
    Alike Eq (Twin rel) Eq (markChannelPublished i) (markChannelPublished (B := B) i) := by
  unfold markChannelPublished
  refine surface_alike.bind fun _ _ _ => Alike.get.bind ?_
  intro e e' he
  obtain ⟨backend, rfl, -⟩ := he
  refine (Alike.lift (fun _ => rfl) _).bind fun _ _ _ => (Alike.lift (fun _ => rfl) _).bind ?_
  intro r r' hr
  subst hr
  refine (Alike.lift (fun _ => rfl) _).bind ?_
  intro m m' hm
  subst hm
  refine (Alike.lift (fun _ => rfl) _).bind ?_
  intro r r' hr
  subst hr
  exact .modify (Twin.withReady _)

end LedEngine

def PreparedWrite.Twin (relLease : WriteLease B → WriteLease B → Prop) (w w' : PreparedWrite B) : Prop :=
  ∃ lease, w' = { w with lease } ∧ relLease w.lease lease

namespace LedEngine

variable (h : Bisim B rel relLease)
include h

theorem dropLease_alike {l l' : WriteLease B} (hl : relLease l l') (e e' : LedEngine B) (he : e.Twin rel e') :
    (e.dropLease l).Twin rel (e'.dropLease l') := by
  obtain ⟨backend, rfl, hb⟩ := he
  exact ⟨_, rfl, h.dropLease _ _ _ _ hl hb⟩

theorem acquirePreparedWrite_alike (i : Nat) :
    Alike Eq (Twin rel) (PreparedWrite.Twin relLease) (acquirePreparedWrite i) (acquirePreparedWrite (B := B) i) := by
  unfold acquirePreparedWrite
  refine surface_alike.bind fun _ _ _ => Alike.get.bind ?_
  intro e e' he
  obtain ⟨backend, rfl, -⟩ := he
  refine (Alike.lift (fun _ => rfl) _).bind ?_
  intro record record' hr
  subst hr
  refine (callBackend_alike (h.acquire record.backendChannel)).bind ?_
  intro reply reply' hreply
  rcases hreply with _ | @⟨l, l', hl⟩
  · exact .fail rfl
  simp only [← h.channel _ _ hl, ← h.exposed _ _ hl]
  by_cases hc : BackendWriteLease.channel l = record.backendChannel
  · simp only [if_neg (not_not.mpr hc)]
    rcases checkedMul (UInt32.ofNat record.lenPixels) 3 with _ | wire
    · exact (Alike.modify (dropLease_alike h hl)).bind fun _ _ _ => .fail rfl
    · by_cases hb : (BackendWriteLease.bytesMut l).1.length = wire.toNat
      · simp only [if_neg (not_not.mpr hb)]
        exact .pure ⟨_, rfl, h.released _ _ _ hl⟩
      · simp only [if_pos hb]
        exact (Alike.modify (dropLease_alike h (h.released _ _ _ hl))).bind fun _ _ _ => .fail rfl
  · simp only [if_pos hc]
    exact (Alike.modify (dropLease_alike h hl)).bind fun _ _ _ => .fail rfl

theorem service_alike : Alike Eq (Twin rel) Eq service (service (B := B)) := by
  unfold service
  refine surface_alike.bind fun _ _ _ => Alike.bind (V := Eq) ?_ fun _ _ _ => ?_
  · unfold completeInFlightIfReady
    refine Alike.get.bind ?_
    intro e e' he
    obtain ⟨backend, rfl, -⟩ := he
    rw [show ({ e with backend } : LedEngine B).ready = e.ready from rfl]
    rcases e.ready with err | r
    · exact .pure rfl
    · dsimp only
      rcases r.transfer with _ | ⟨_ | _, mask⟩
      · exact .pure rfl
      · exact .pure rfl
      · exact .modify (Twin.withReady _)
  unfold tryStartPendingSubmit
  refine Alike.get.bind ?_
  intro e e' he
  obtain ⟨backend, rfl, -⟩ := he
  refine (Alike.lift (fun _ => rfl) _).bind ?_
  intro r r' hr
  subst hr
  rcases r.transfer with _ | ⟨complete, mask⟩
  · by_cases hp : r.pendingMask.isEmpty = true
    · simp only [if_pos hp]
      exact .pure rfl
    simp only [if_neg hp]
    refine (Alike.lift (fun _ => rfl) _).bind ?_
    intro registered registered' hr
    subst hr
    by_cases hs : (ChannelMask.fromBits (r.pendingMask.bits &&& registered.bits)).isEmpty = true
    · simp only [if_pos hs]
      exact .pure rfl
    simp only [if_neg hs]
    refine (callBackend_alike (h.submit _)).bind ?_
    intro start start' hs
    subst hs
    cases start with
    | started =>
      refine Alike.get.bind ?_
      intro e e' he
      obtain ⟨backend, rfl, -⟩ := he
      refine (Alike.lift (fun _ => rfl) _).bind ?_
      intro r r' hr
      subst hr
      refine (Alike.modify (Twin.withReady _)).bind fun _ _ _ => (Alike.refl _).zoom ?_ ?_
      · intro e e' he
        obtain ⟨backend, rfl, -⟩ := he
        rfl
      · intro e e' channels channels' he hc
        obtain ⟨backend, rfl, hb⟩ := he
        subst hc
        exact ⟨backend, rfl, hb⟩
    | busy => exact .pure rfl
  · exact .pure rfl

variable {e e' : LedEngine B}

theorem onBackendSignal_twin (signal : BackendSignal) (he : e.Twin rel e') :
    (e.onBackendSignal signal).Twin rel (e'.onBackendSignal signal) := by
  obtain ⟨backend, rfl, hb⟩ := he
  exact ⟨_, rfl, h.onSignal signal _ _ hb⟩

theorem onBackendEvent_twin (event : BackendEvent) (he : e.Twin rel e') :
    (e.onBackendEvent event).Twin rel (e'.onBackendEvent event) := by
  obtain ⟨backend, rfl, hb⟩ := he
  have hb := h.onEvent event _ _ hb
  unfold onBackendEvent
  simp only [show ∀ backend, ({ e with backend } : LedEngine B).ready = e.ready from fun _ => rfl]
  rcases e.ready with err | r
  · exact ⟨_, rfl, hb⟩
  · cases event
    dsimp only
    rcases r.transfer with _ | ⟨complete, mask⟩
    · exact ⟨_, rfl, hb⟩
    · exact ⟨_, rfl, hb⟩

end LedEngine

theorem PreparedWrite.packRgb48Active_alike (h : Bisim B rel relLease) (source : List Rgb48) :
    Alike Eq (Twin relLease) Eq (packRgb48Active f source) (packRgb48Active (B := B) f source) := by
  intro w w' hw
  obtain ⟨lease, rfl, hl⟩ := hw
  unfold packRgb48Active
  simp only [← h.exposed _ _ hl]
  rcases Pack.packRgb48Active f source w.layout w.framePhase (BackendWriteLease.bytesMut w.lease).1 with
    ⟨_, bytes⟩ | ⟨⟨_, _⟩ | _, bytes⟩
  · exact .ok rfl ⟨_, rfl, h.released _ _ _ hl⟩
  · exact .error rfl ⟨_, rfl, h.released _ _ _ hl⟩
  · exact .error rfl ⟨_, rfl, h.released _ _ _ hl⟩

theorem PreparedWrite.publish_alike (h : Bisim B rel relLease) :
    Alike Eq (Twin relLease) Eq publish (publish (B := B)) := by
  intro w w' hw
  obtain ⟨lease, rfl, hl⟩ := hw
  have hp := h.publish _ _ hl
  unfold publish
  generalize BackendWriteLease.publish w.lease = p, BackendWriteLease.publish lease = p' at hp
  cases hp with
  | ok hv hl' => exact .ok rfl ⟨_, rfl, hl'⟩
  | error err hl' => exact .error rfl ⟨_, rfl, hl'⟩

end Engine

/-! ## The driver's calls -/

namespace Api

/-- Drivers that differ only in related backends. -/
structure Driver.Twin {B : Type} (rel : B → B → Prop) (d d' : Driver B .ready) : Prop where
  driverId : d.driverId = d'.driverId
  engine : d.engine.Twin rel d'.engine

namespace Driver

omit [LedBackend B] in
theorem onEngine_alike {E α : Type} {V : α → α → Prop} {project : EngineError → Projected E} {x y : EngineM B α}
    (hx : Alike Eq (LedEngine.Twin rel) V x y) :
    Alike Eq (Twin rel) V (onEngine project x) (onEngine (S := .ready) project y) := by
  refine (hx.mapErr ?_).zoom (fun _ _ h => h.engine) fun _ _ _ _ h he => ⟨h.driverId, he⟩
  intro e e' he
  subst he
  rfl

omit [LedBackend B] in
theorem channel_alike (channel : Channel) :
    Alike Eq (Twin rel) Eq (Driver.channel channel) (Driver.channel (B := B) channel) := by
  unfold Driver.channel
  refine Alike.get.bind fun d d' h => ?_
  rw [h.driverId]
  by_cases ho : channel.owner = d'.driverId
  · rw [if_neg (not_not.mpr ho)]
    exact .pure rfl
  · rw [if_pos ho]
    exact .fail rfl

theorem writeRgb48_alike (h : Bisim B rel relLease) (f : Features) (w : ChannelWriter) (pixels : List Rgb48) :
    Alike Eq (Twin rel) Eq (w.writeRgb48 f pixels) (w.writeRgb48 (B := B) f pixels) := by
  unfold ChannelWriter.writeRgb48 ChannelWriter.acquirePackAndPublish
  refine Alike.bind (V := Eq) ?_ fun _ _ _ => onEngine_alike (LedEngine.markChannelPublished_alike _)
  refine (onEngine_alike (LedEngine.acquirePreparedWrite_alike h _)).bind fun write write' hw => ?_
  refine Alike.borrowing (R := PreparedWrite.Twin relLease) ?_ hw ?_
  · unfold ChannelWriter.packAndPublish
    refine ((PreparedWrite.packRgb48Active_alike h pixels).mapErr ?_).bind fun _ _ _ =>
      (PreparedWrite.publish_alike h).mapErr ?_
    · intro e e' he
      subst he
      rfl
    · intro e e' he
      subst he
      rfl
  · intro d d' w w' hd hx
    obtain ⟨lease, rfl, hl⟩ := hx
    exact ⟨hd.driverId, LedEngine.dropLease_alike h hl _ _ hd.engine⟩

/-- Every public call runs in lockstep on twins. -/
theorem perform_alike (h : Bisim B rel relLease) (f : Features) (op : Op) :
    Alike Eq (Twin rel) Eq (perform f op) (perform (B := B) f op) := by
  cases op with
  | channel channel => exact (channel_alike channel).bind fun _ _ _ => .pure rfl
  | writeRgb48 channel pixels =>
    refine (channel_alike channel).bind ?_
    intro w w' hw
    subst hw
    exact writeRgb48_alike h f w pixels
  | commit => exact onEngine_alike LedEngine.submitDirty_alike
  | service => exact onEngine_alike (LedEngine.service_alike h)
  | onBackendSignal signal =>
    exact .modify fun _ _ hd => ⟨hd.driverId, LedEngine.onBackendSignal_twin h signal hd.engine⟩
  | onBackendEvent event =>
    exact .modify fun _ _ hd => ⟨hd.driverId, LedEngine.onBackendEvent_twin h event hd.engine⟩

variable {d d' : Driver (Recorder B) .ready}

/-- On twins a call has the same result, makes the same backend calls and leaves twins. -/
theorem transition_twin (h : Bisim B rel relLease) (f : Features) (op : Op) (hd : d.Twin (Recorder.Alike rel) d') :
    (d'.transition f op).result = (d.transition f op).result ∧
      (d'.transition f op).calls = (d.transition f op).calls ∧
      (d.transition f op).after.Twin (Recorder.Alike rel) (d'.transition f op).after := by
  have hlog : d.Twin (Recorder.Twin rel d.engine.backend.calls d'.engine.backend.calls) d' := by
    obtain ⟨backend, he, hb⟩ := hd.engine
    refine ⟨hd.driverId, backend, he, hb, [], (List.append_nil _).symm, ?_⟩
    rw [he, List.append_nil]
  have hrun := perform_alike (h.recorder d.engine.backend.calls d'.engine.backend.calls) f op d d' hlog
  -- what both logs have gained is the same
  have gained : ∀ a a' : Driver (Recorder B) .ready,
      a.Twin (Recorder.Twin rel d.engine.backend.calls d'.engine.backend.calls) a' →
      a'.engine.backend.calls.drop d'.engine.backend.calls.length =
        a.engine.backend.calls.drop d.engine.backend.calls.length ∧ a.Twin (Recorder.Alike rel) a' := by
    intro a a' ha
    obtain ⟨hid, backend, he, hb, calls, hc, hc'⟩ := ha
    refine ⟨?_, hid, backend, he, hb⟩
    rw [he, hc]
    show backend.calls.drop _ = _
    rw [hc', List.drop_left, List.drop_left]
  unfold transition
  generalize perform f op d = p, perform f op d' = p' at hrun
  cases hrun with
  | ok _ ha => exact ⟨rfl, gained _ _ ha⟩
  | error he ha =>
    subst he
    exact ⟨rfl, gained _ _ ha⟩

end Driver

end Api

end LedWireDriver
