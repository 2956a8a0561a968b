/-
  LedWireDriver.Leases — what a backend keeps while the driver uses it.

  `Tends I J` says that a backend's own methods keep `I` between the calls and `J` while one
  lease is out. The driver never has two leases out, fills them with as many bytes as they
  expose and gives each of them back within the call that acquired it, on every path; so
  every such `I` that holds of the backend of a configured driver holds after each call
  (`transition_tended`).
-/

import LedWireDriver.Routing

namespace LedWireDriver

open Fallible Words Api Engine Pack

variable {B : Type} [LedBackend B] {I : B → Prop} {J : WriteLease B → B → Prop} {f : Features}

/-- A backend keeps `I` between the calls, and `J` of a lease that is out. -/
structure Tends (B : Type) [LedBackend B] (I : B → Prop) (J : WriteLease B → B → Prop) : Prop where
  granted : ∀ {channel b l b'}, I b → LedBackend.acquireWriteTarget channel b = (.ok (.ready l), b') → J l b'
  busy : ∀ {channel b b'}, I b → LedBackend.acquireWriteTarget channel b = (.ok .busy, b') → I b'
  failed : ∀ {channel b err b'}, I b → LedBackend.acquireWriteTarget channel b = (.error err, b') → I b'
  filled : ∀ {l b} bytes, J l b → bytes.length = (BackendWriteLease.bytesMut l).1.length → J (fill l bytes) b
  published : ∀ {l b reply l'}, J l b → BackendWriteLease.publish l = (reply, l') → J l' b
  dropped : ∀ {l b}, J l b → I (LedBackend.dropLease l b)
  submitted : ∀ {m b reply b'}, I b → LedBackend.submitChannels m b = (reply, b') → I b'
  signalled : ∀ {b} signal, I b → I (LedBackend.onSignal signal b)
  told : ∀ {b} event, I b → I (LedBackend.onEvent event b)

namespace Tends

variable (h : Tends B I J)
include h

theorem peeked {l : WriteLease B} {b : B} (hl : J l b) : J (LedEngine.peek l) b := h.filled _ hl rfl

/-- Every way through a write gives its lease back. -/
theorem written {record : ChannelState} {pixels : List Rgb48} {b b' : B} {reply : Except RuntimeError Unit}
    (hw : Written f record pixels b reply b') (hb : I b) : I b' := by
  cases hw with
  | failed ha => exact h.failed hb ha
  | busy ha => exact h.busy hb ha
  | wrongChannel ha => exact h.dropped (h.granted hb ha)
  | wrongLength ha => exact h.dropped (h.peeked (h.granted hb ha))
  | mismatch hg => exact h.dropped (h.peeked (h.peeked (h.granted hb hg.acquired)))
  | unpublished hg hp hpack hpub | published hg hp hpack hpub =>
    exact h.dropped (h.published (h.filled _ (h.peeked (h.granted hb hg.acquired)) (packRgb48Active_length hp hpack)) hpub)

/-- A recorded backend keeps what the backend does. -/
theorem recorder : Tends (Recorder B) (fun r => I r.inner) (fun (l : RecordedLease (WriteLease B)) r => J l.inner r.inner) where
  granted := by
    intro channel b l b' hb ha
    simp only [LedBackend.acquireWriteTarget] at ha
    split at ha <;> cases ha
    rename_i hi
    exact h.granted hb hi
  busy := by
    intro channel b b' hb ha
    simp only [LedBackend.acquireWriteTarget] at ha
    split at ha <;> cases ha
    rename_i hi
    exact h.busy hb hi
  failed := by
    intro channel b err b' hb ha
    simp only [LedBackend.acquireWriteTarget] at ha
    split at ha <;> cases ha
    rename_i hi
    exact h.failed hb hi
  filled := by
    intro l b bytes hl hlen
    exact h.filled bytes hl hlen
  published := by
    intro l b reply l' hl hp
    cases hp
    exact h.published hl rfl
  dropped := by
    intro l b hl
    exact h.dropped hl
  submitted := by
    intro m b reply b' hb hs
    cases hs
    exact h.submitted hb rfl
  signalled := by
    intro b signal hb
    exact h.signalled signal hb
  told := by
    intro b event hb
    exact h.told event hb

end Tends

/-! ## What a write returns -/

namespace Api

/-- What a lease makes of a write, once it is of the right channel and length. -/
def packed (f : Features) (record : ChannelState) (pixels : List Rgb48) (lease : WriteLease B) : Except RuntimeError Unit :=
  if pixels.length ≠ (target lease).length / 3 then .error .lengthMismatch
  else
    match packRgb48Active f pixels record.layout record.framePhase (target lease) with
    | .error _ _ => .error .lengthMismatch
    | .ok _ bytes =>
      match (BackendWriteLease.publish (fill (LedEngine.peek lease) bytes)).1 with
      | .error _ => .error .backend
      | .ok _ => .ok ()

/-- What a backend makes of a write. -/
def answer (f : Features) (record : ChannelState) (pixels : List Rgb48) (b : B) : Except RuntimeError Unit :=
  match (LedBackend.acquireWriteTarget record.backendChannel b).1 with
  | .error _ => .error .backend
  | .ok .busy => .error .busy
  | .ok (.ready lease) =>
    if BackendWriteLease.channel lease ≠ record.backendChannel then .error .backendContract
    else if (BackendWriteLease.bytesMut lease).1.length ≠ 3 * record.lenPixels then .error .backendContract
    else packed f record pixels lease

theorem written_answer {record : ChannelState} {pixels : List Rgb48} {b b' : B}
    {reply : Except RuntimeError Unit} (hw : Written f record pixels b reply b') : reply = answer f record pixels b := by
  unfold answer
  cases hw with
  | failed ha | busy ha => rw [ha]
  | wrongChannel ha hc =>
    rw [ha]
    exact (if_pos hc).symm
  | wrongLength ha hc hn =>
    rw [ha]
    dsimp only
    rw [if_neg (not_not.mpr hc), if_pos hn]
  | mismatch hg hp =>
    rw [hg.acquired]
    dsimp only
    rw [if_neg (not_not.mpr hg.channel), if_neg (not_not.mpr hg.length), packed, if_pos hp]
  | unpublished hg hp hpack hpub | published hg hp hpack hpub =>
    rw [hg.acquired]
    dsimp only
    rw [if_neg (not_not.mpr hg.channel), if_neg (not_not.mpr hg.length), packed, if_neg (not_not.mpr hp), hpack]
    dsimp only
    rw [hpub]

/-- The recorder answers as its backend does. -/
theorem answer_inner {record : ChannelState} {pixels : List Rgb48} (r : Recorder B) :
    answer f record pixels r = answer f record pixels r.inner := by
  have hacquire : (LedBackend.acquireWriteTarget record.backendChannel r).1 =
      match (LedBackend.acquireWriteTarget record.backendChannel r.inner).1 with
      | .error err => .error err
      | .ok .busy => .ok .busy
      | .ok (.ready lease) => .ok (.ready ⟨lease, []⟩) := by
    simp only [LedBackend.acquireWriteTarget]
    rcases LedBackend.acquireWriteTarget record.backendChannel r.inner with ⟨_ | _ | lease, b⟩ <;> rfl
  unfold answer
  rw [hacquire]
  rcases (LedBackend.acquireWriteTarget record.backendChannel r.inner).1 with _ | _ | lease <;> rfl

end Api

/-! ## The driver's calls -/

theorem Recorder.configured {specs : List BackendChannelSpec} {r r' : Recorder B} {reply : Except BackendError Unit}
    (h : LedBackend.configureChannels specs r = (reply, r')) :
    LedBackend.configureChannels specs r.inner = (reply, r'.inner) := by
  cases h
  rfl

namespace Api.Driver

/-- The state a program leaves. -/
def left {ε σ α : Type} : EStateM.Result ε σ α → σ
  | .ok _ s => s
  | .error _ s => s

theorem transition_after {d : Driver (Recorder B) .ready} {op : Op} :
    (d.transition f op).after = left (perform f op d) := by
  unfold transition left
  cases perform f op d <;> rfl

section Perform

variable {I : Recorder B → Prop} {J : WriteLease (Recorder B) → Recorder B → Prop} (h : Tends (Recorder B) I J)
  {d : Driver (Recorder B) .ready} {setup : PreparedSetup} {r : ReadyState}
include h

theorem write_tended (hi : Inv setup d.engine r) (hd : I d.engine.backend) (channel : Channel)
    (pixels : List Rgb48) : I (left (perform f (.writeRgb48 channel pixels) d)).engine.backend := by
  by_cases ho : channel.owner = d.driverId
  case neg =>
    rw [show perform f (.writeRgb48 channel pixels) d = _ from bind_error (channel_foreign ho)]
    exact hd
  have hrun : perform f (.writeRgb48 channel pixels) d = ChannelWriter.writeRgb48 f ⟨channel.asIndex⟩ pixels d :=
    bind_ok (channel_own ho)
  rw [hrun]
  cases hv : r.ingressViolation with
  | true =>
    have hacq := LedEngine.acquire_latched (i := channel.asIndex) hi.lifecycle hv
    rw [show ChannelWriter.writeRgb48 f ⟨channel.asIndex⟩ pixels d = _ from
      bind_error (bind_error (onEngine_error hacq))]
    exact hd
  | false =>
    cases hl : d.engine.channels.lookup channel.asIndex with
    | none =>
      obtain ⟨err, hacq, -⟩ := LedEngine.acquire_unregistered (LedEngine.surface_clear hi.lifecycle hv)
        hi.maxChannels_le hl
      rw [show ChannelWriter.writeRgb48 f ⟨channel.asIndex⟩ pixels d = _ from
        bind_error (bind_error (onEngine_error hacq))]
      exact hd
    | some record =>
      obtain ⟨hlt, hlen⟩ := hi.record hl
      obtain ⟨reply, backend, hw, hwrite⟩ := Api.writeRgb48_written f pixels hi.lifecycle hv hlt
        hi.maxChannels_le hl hlen
      have hkeep := h.written hw hd
      rw [hwrite]
      cases reply with
      | error => exact hkeep
      | ok => exact hkeep

theorem service_tended (hi : Inv setup d.engine r) (hd : I d.engine.backend) :
    I (left (perform f .service d)).engine.backend := by
  have hr := hi.lifecycle
  cases hv : r.ingressViolation with
  | true =>
    rw [show perform f .service d = _ from onEngine_error (LedEngine.service_latched hr hv)]
    exact hd
  | false =>
    by_cases ht : r.transfer.Free
    case neg =>
      obtain ⟨mask, ht⟩ : ∃ mask, r.transfer = .inFlight false mask := by
        unfold TransferState.Free at ht
        push Not at ht
        exact ht
      rw [show perform f .service d = _ from onEngine_ok (LedEngine.service_waiting hr hv ht)]
      exact hd
    by_cases hp : r.pendingMask.bits = 0
    · rw [show perform f .service d = _ from onEngine_ok (LedEngine.service_rest hr hv ht hp)]
      exact hd
    · have hs := LedEngine.service_offer hr hv ht hp hi.maxChannels_le hi.pending
      rcases hb : LedBackend.submitChannels r.pendingMask.bits d.engine.backend with ⟨reply, backend⟩
      have hkeep := h.submitted hd hb
      rw [hb] at hs
      rcases reply with err | _ | _
      · rw [show perform f .service d = _ from onEngine_error hs]
        exact hkeep
      · rw [show perform f .service d = _ from onEngine_ok hs]
        exact hkeep
      · rw [show perform f .service d = _ from onEngine_ok hs]
        exact hkeep

theorem perform_tended (hi : Inv setup d.engine r) (hd : I d.engine.backend) (op : Op) :
    I (left (perform f op d)).engine.backend := by
  cases op with
  | channel channel =>
    by_cases ho : channel.owner = d.driverId
    · rw [show perform f (.channel channel) d = _ from bind_ok (channel_own ho)]
      exact hd
    · rw [show perform f (.channel channel) d = _ from bind_error (channel_foreign ho)]
      exact hd
  | writeRgb48 channel pixels => exact write_tended h hi hd channel pixels
  | commit =>
    cases hv : r.ingressViolation with
    | true =>
      rw [show perform f .commit d = _ from onEngine_error (LedEngine.submitDirty_latched hi.lifecycle hv)]
      exact hd
    | false =>
      rw [show perform f .commit d = _ from onEngine_ok (LedEngine.submitDirty_clear hi.lifecycle hv)]
      exact hd
  | service => exact service_tended h hi hd
  | onBackendSignal signal => exact h.signalled signal hd
  | onBackendEvent event =>
    have hrun : perform f (.onBackendEvent event) d = .ok () { d with engine := d.engine.onBackendEvent event } := rfl
    rw [hrun]
    cases ht : r.transfer with
    | idle =>
      rw [LedEngine.onBackendEvent_idle hi.lifecycle ht]
      exact h.told event hd
    | inFlight complete mask =>
      rw [LedEngine.onBackendEvent_inFlight hi.lifecycle ht]
      exact h.told event hd

end Perform

/-- The backend of a configured driver is as `configure_channels` left it. -/
theorem Configuring.backend {c : Driver B .configuring} {done : Option (PreparedSetup × ConfiguredChannels)}
    (h : Configuring c done) : ∀ accepted ∈ done,
      ∃ b₀, LedBackend.configureChannels (accepted.1.bindings.toList.map specOf) b₀ = (.ok (), c.engine.backend) := by
  induction h with
  | new => simp
  | @failed c c' done setup e hc hfail ih =>
    intro accepted hdone
    have hcommitted := configuring_inv hc
    cases hdone
    by_cases hne : setup.isEmpty = true
    · rw [configure_empty hne] at hfail
      cases hfail
      exact ih _ rfl
    · rw [configure_again hne hcommitted.isReady] at hfail
      cases hfail
      exact ih _ rfl
  | @configured c c' done setup handles hc hok ih =>
    intro accepted hdone
    cases hdone
    have hinv := configuring_inv hc
    by_cases hne : setup.isEmpty = true
    · rw [configure_empty hne] at hok
      cases hok
    cases done with
    | some done =>
      rw [configure_again hne hinv.isReady] at hok
      cases hok
    | none =>
      by_cases hf : ∀ b ∈ setup.bindings.toList, Fits c.engine.maxChannels c.engine.maxBytesPerChannel b
      case neg =>
        rw [configure_unfit hne hinv hf] at hok
        cases hok
      obtain ⟨plan, -, hrun⟩ := configure_fits hne hinv hf
      rw [hrun] at hok
      split at hok <;> cases hok
      rename_i hbackend
      exact ⟨_, hbackend⟩

/-- A call keeps what the backend keeps. -/
theorem transition_tended {d : Driver (Recorder B) .ready} {setup : PreparedSetup} {r : ReadyState}
    (h : Tends B I J) (hi : Inv setup d.engine r)
    (hd : I d.engine.backend.inner) (op : Op) : I (d.transition f op).after.engine.backend.inner := by
  rw [transition_after]
  exact perform_tended h.recorder hi hd op

/-- A write through a handle of a registered channel returns what the backend makes of it. -/
theorem write_answered {d : Driver (Recorder B) .ready} {setup : PreparedSetup} {r : ReadyState} {channel : Channel}
    {record : ChannelState} {pixels : List Rgb48} (hi : Inv setup d.engine r) (ho : channel.owner = d.driverId)
    (hl : d.engine.channels.lookup channel.asIndex = some record) :
    (d.transition f (.writeRgb48 channel pixels)).result =
      if r.ingressViolation then .error (.error (expected .backendContract))
      else written (answer f record pixels d.engine.backend.inner) := by
  have hrun : perform f (.writeRgb48 channel pixels) d = ChannelWriter.writeRgb48 f ⟨channel.asIndex⟩ pixels d :=
    bind_ok (channel_own ho)
  unfold transition
  rw [hrun]
  cases hv : r.ingressViolation with
  | true =>
    have hacq := LedEngine.acquire_latched (i := channel.asIndex) hi.lifecycle hv
    rw [show ChannelWriter.writeRgb48 f ⟨channel.asIndex⟩ pixels d = _ from
      bind_error (bind_error (onEngine_error hacq))]
    rfl
  | false =>
    obtain ⟨hlt, hlen⟩ := hi.record hl
    obtain ⟨reply, backend, hw, hwrite⟩ := Api.writeRgb48_written f pixels hi.lifecycle hv hlt hi.maxChannels_le hl hlen
    rw [hwrite, ← answer_inner, ← written_answer hw]
    cases reply with
    | error => rfl
    | ok => rfl

end Api.Driver

end LedWireDriver
