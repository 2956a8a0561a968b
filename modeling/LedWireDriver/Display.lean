/-
  LedWireDriver.Display — what the strips are sent.

  `Wire` is what a backend that obeys its calls holds for transmission: for each of its
  channels the bytes last published there. At every point of a run of a configured driver
  the bytes on the backend channel of each binding are the image of the last `Ok` write on
  the binding's logical channel, in the binding's layout and with the phase of that write
  (`displays`); so an accepted batch transmits, on every strip it names, what its user last
  wrote.
-/

import LedWireDriver.Image
import LedWireDriver.Phase
import LedWireDriver.Routing

namespace LedWireDriver

open Words History Api Engine Pack

/-! ## The wire -/

structure Wire where
  /-- The channel of the last lease granted. -/
  leased : Option BackendChannelId
  /-- What was last published on each channel. -/
  buffer : BackendChannelId → Option (List UInt8)

namespace Wire

def start : Wire := ⟨none, fun _ => none⟩

def hear (w : Wire) : BackendCall → Wire
  | .acquireWriteTarget channel (.ok (.ready _)) => { w with leased := some channel }
  | .publish bytes (.ok _) => { w with buffer := fun c => if w.leased = some c then some bytes else w.buffer c }
  | _ => w

def of (calls : List BackendCall) : Wire := calls.foldl hear start

end Wire

variable {B : Type} [LedBackend B] {f : Features}

/-- What the wire holds for the binding `b` after the calls `ts`: the image of the last `Ok`
    write on its channel, if there was one. -/
inductive Displays (f : Features) (b : PreparedBinding) (ts : List (Transition B)) : Option (List UInt8) → Prop
  | unwritten : (∀ t ∈ ts, ¬t.WritesOk b.logicalChannel) → Displays f b ts none
  | written {pre : List (Transition B)} {w : Transition B} {post : List (Transition B)} {channel : Channel}
      {pixels : List Rgb48} {bytes : List UInt8} : ts = pre ++ w :: post →
      w.op = .writeRgb48 channel pixels → channel.id = b.logicalChannel → w.result = .ok () →
      (∀ t ∈ post, ¬t.WritesOk b.logicalChannel) → bytes.length = 3 * b.pixels.toNat →
      unpack b.layout bytes = wireColors (ActiveTemporalDither f) (ActiveSpatialQuantizer f) pixels
        ⟨UInt32.ofNat (Transition.startedCount b.logicalChannel pre)⟩ →
      Displays f b ts (some bytes)

/-! ## One call -/

omit [LedBackend B] in
theorem Displays.keep {b : PreparedBinding} {ts : List (Transition B)} {t : Transition B} {buffer : Option (List UInt8)}
    (h : Displays f b ts buffer) (ht : ¬t.WritesOk b.logicalChannel) : Displays f b (ts ++ [t]) buffer := by
  cases h with
  | unwritten hno =>
    refine .unwritten fun x hx => ?_
    rcases List.mem_append.mp hx with hx | hx
    · exact hno x hx
    · rwa [List.mem_singleton.mp hx]
  | @written pre w post channel pixels bytes hts hop hid hok hno hlen himage =>
    subst hts
    have hsplit : pre ++ w :: post ++ [t] = pre ++ w :: (post ++ [t]) := by simp
    refine .written hsplit hop hid hok (fun x hx => ?_) hlen himage
    rcases List.mem_append.mp hx with hx | hx
    · exact hno x hx
    · rwa [List.mem_singleton.mp hx]

/-- Only an `Ok` write puts something on the wire. -/
theorem Effect.wire_buffer {r : ReadyState} {t : Transition B} (h : Effect f r t) (hw : ∀ c, ¬t.WritesOk c) (w : Wire) :
    (t.calls.foldl Wire.hear w).buffer = w.buffer := by
  cases h with
  | unwritten _ _ _ _ hwc => cases hwc <;> rfl
  | @wrote d channel => exact absurd ⟨channel, _, rfl, rfl, rfl⟩ (hw channel.id)
  | _ => rfl

omit [LedBackend B] in
/-- The bytes of a routed write, on its binding's channel and on no other. -/
theorem Routed.wire_buffer {b : PreparedBinding} {pixels : List Rgb48} {record : ChannelState} {r : ReadyState}
    {exposed bytes : List UInt8} {t : Transition B} (h : Routed f b pixels record r exposed bytes t) (w : Wire) :
    (t.calls.foldl Wire.hear w).buffer = fun c => if b.backendChannel = c then some bytes else w.buffer c := by
  rw [h.calls]
  funext c
  simp [Wire.hear]

omit [LedBackend B] in
theorem Routed.image {b : PreparedBinding} {pixels : List Rgb48} {record : ChannelState} {r : ReadyState}
    {exposed bytes : List UInt8} {t : Transition B} (h : Routed f b pixels record r exposed bytes t) :
    bytes.length = 3 * b.pixels.toNat ∧ unpack b.layout bytes =
      wireColors (ActiveTemporalDither f) (ActiveSpatialQuantizer f) pixels record.framePhase := by
  have hpack := h.bytes (List.replicate (3 * pixels.length) 0) (by simp)
  obtain ⟨hlen, himage⟩ := image_of_ok hpack
  refine ⟨?_, himage.unpack_eq hlen⟩
  rw [himage.length, List.length_replicate, h.length]

/-! ## Runs -/

namespace Api.Driver

variable {setup : PreparedSetup} {handles : ConfiguredChannels} {d : Driver (Recorder B) .ready}

/-- The wire after a run. -/
def wire (f : Features) (d : Driver (Recorder B) .ready) (ops : List Op) : Wire :=
  Wire.of ((d.trace f ops).flatMap (·.calls))

theorem wire_snoc (ops : List Op) (op : Op) :
    d.wire f (ops ++ [op]) = ((d.afterOps f ops).transition f op).calls.foldl Wire.hear (d.wire f ops) := by
  unfold wire Wire.of
  rw [trace_snoc, List.flatMap_append, List.flatMap_singleton, List.foldl_append]

/-- A call either writes nothing or is routed to the binding of its channel. -/
theorem Configured.wrote_routed (hc : Configured setup handles d) (hs : StableLeases B) (ops : List Op) (op : Op) :
    (∀ c, ¬((d.afterOps f ops).transition f op).WritesOk c) ∨
      ∃ b ∈ setup.bindings.toList, ∃ channel pixels record r exposed bytes, op = .writeRgb48 channel pixels ∧
        channel.id = b.logicalChannel ∧ ((d.afterOps f ops).transition f op).result = .ok () ∧
        record.framePhase = ⟨UInt32.ofNat (Transition.startedCount b.logicalChannel (d.trace f ops))⟩ ∧
        Routed f b pixels record r exposed bytes ((d.afterOps f ops).transition f op) := by
  by_cases hw : ∃ c, ((d.afterOps f ops).transition f op).WritesOk c
  case neg => exact .inl (not_exists.mp hw)
  obtain ⟨_, channel, pixels, hop, rfl, hok⟩ := hw
  rw [transition_op] at hop
  subst hop
  obtain ⟨r, hi, he⟩ := hc.reached (f := f) ops
  obtain ⟨record, hl, -⟩ := (he _).packed ⟨channel, pixels, transition_op _, rfl, hok⟩
  rw [transition_before] at hl
  obtain ⟨b, hb, hrec⟩ := hi.binding hl
  obtain ⟨hmem, hid⟩ := bindingAt_id hb
  obtain ⟨exposed, bytes, hrouted⟩ := (he _).routed hs (transition_op _) (congrArg ChannelId.asIndex hid.symm) hok
    (by rwa [transition_before, hid]) hrec
  exact .inr ⟨b, hmem, channel, pixels, record, r, exposed, bytes, rfl, hid.symm, hok, hid ▸ hc.phase_eq ops hl, hrouted⟩

theorem Configured.displays_binding (hc : Configured setup handles d) (hs : StableLeases B) (ops : List Op)
    {b : PreparedBinding} (hb : b ∈ setup.bindings.toList) :
    Displays f b (d.trace f ops) ((d.wire f ops).buffer b.backendChannel) := by
  induction ops using List.reverseRecOn with
  | nil => exact .unwritten (by simp [trace])
  | append_singleton ops op ih =>
    obtain ⟨r, -, he⟩ := hc.reached (f := f) ops
    rw [trace_snoc, wire_snoc]
    rcases hc.wrote_routed (f := f) hs ops op with
      hw | ⟨b₀, hmem, channel, pixels, record, _, _, bytes, rfl, hid, hok, hphase, hrouted⟩
    · rw [(he op).wire_buffer hw]
      exact ih.keep (hw _)
    · rw [hrouted.wire_buffer]
      by_cases hsame : b₀ = b
      · subst hsame
        obtain ⟨hlen, himage⟩ := hrouted.image
        simp only [if_true]
        exact .written rfl (transition_op _) hid hok (by simp) hlen (by rw [himage, hphase])
      · -- the binding of another strip has another backend channel and another logical channel
        have hchannel : b₀.backendChannel ≠ b.backendChannel := fun h =>
          hsame (List.inj_on_of_nodup_map setup.valid.backend_nodup hmem hb h)
        simp only [if_neg hchannel]
        refine ih.keep fun hx => ?_
        obtain ⟨_, _, hop, hid', -⟩ := hx
        rw [transition_op] at hop
        cases hop
        exact hsame (List.inj_on_of_nodup_map setup.valid.logical_nodup hmem hb (hid.symm.trans hid'))

theorem Configured.wire_unbound (hc : Configured setup handles d) (hs : StableLeases B) (ops : List Op)
    {channel : BackendChannelId} (hb : channel ∉ setup.bindings.toList.map (·.backendChannel)) :
    (d.wire f ops).buffer channel = none := by
  induction ops using List.reverseRecOn with
  | nil => rfl
  | append_singleton ops op ih =>
    obtain ⟨r, -, he⟩ := hc.reached (f := f) ops
    rw [wire_snoc]
    rcases hc.wrote_routed (f := f) hs ops op with hw | ⟨b₀, hmem, _, _, _, _, _, _, _, _, _, _, hrouted⟩
    · rw [(he op).wire_buffer hw, ih]
    · have hchannel : b₀.backendChannel ≠ channel := fun h => hb (List.mem_map.mpr ⟨b₀, hmem, h⟩)
      rw [hrouted.wire_buffer]
      simp only [if_neg hchannel, ih]

/-- An accepted batch names only bound channels, and each of them was written. -/
theorem Configured.started_written (hc : Configured setup handles d) (ops : List Op) (op : Op) {m : UInt32}
    (hm : ((d.afterOps f ops).transition f op).Starts m) {c : ChannelId} (hbit : has m c.asIndex = true) :
    ∃ b ∈ setup.bindings.toList, b.logicalChannel = c ∧ ∃ t ∈ d.trace f ops, t.WritesOk c := by
  obtain ⟨r, hi, he⟩ := hc.reached (f := f) ops
  obtain ⟨-, -, -, rfl, -⟩ := (he op).submits ⟨_, hm⟩
  obtain ⟨record, hl⟩ := Option.isSome_iff_exists.mp (hi.pending c.asIndex hbit).2
  obtain ⟨b, hb, -⟩ := hi.binding hl
  obtain ⟨hmem, hid⟩ := bindingAt_id hb
  obtain ⟨pre, w, mid, k, post, htrace, hok, -⟩ := (hc.pending_iff ops hi.lifecycle c).mp hbit
  exact ⟨b, hmem, hid, w, by rw [htrace]; simp, hok⟩

/-- At every point of a run the wire holds, for each strip, the image of its last write, and
    an accepted batch names only strips that were written. -/
theorem displays (hc : Configured setup handles d) (hs : StableLeases B) (f : Features) (ops : List Op) :
    (∀ b ∈ setup.bindings.toList, Displays f b (d.trace f ops) ((d.wire f ops).buffer b.backendChannel)) ∧
      (∀ channel, channel ∉ setup.bindings.toList.map (·.backendChannel) → (d.wire f ops).buffer channel = none) ∧
      ∀ op m, ((d.afterOps f ops).transition f op).Starts m → ∀ c : ChannelId, has m c.asIndex = true →
        ∃ b ∈ setup.bindings.toList, b.logicalChannel = c ∧ ∃ bytes, (d.wire f ops).buffer b.backendChannel = some bytes := by
  refine ⟨fun b hb => hc.displays_binding hs ops hb, fun channel hb => hc.wire_unbound hs ops hb,
    fun op m hm c hbit => ?_⟩
  obtain ⟨b, hb, rfl, t, ht, hw⟩ := hc.started_written ops op hm hbit
  refine ⟨b, hb, rfl, ?_⟩
  rcases hbuffer : (d.wire f ops).buffer b.backendChannel with _ | bytes
  · have hd := hc.displays_binding (f := f) hs ops hb
    rw [hbuffer] at hd
    cases hd with
    | unwritten hno => exact absurd hw (hno t ht)
  · exact ⟨bytes, rfl⟩

open TestSupport in
theorem displays_lagging :
    ∃ b ∈ pairSetup.bindings.toList, b.logicalChannel = ⟨0⟩ ∧
      ∃ bytes, (pair.1.wire bayer lagging).buffer b.backendChannel = some bytes :=
  (displays pair_configured stableLeases bayer lagging).2.2 .service 1 lagging_starts ⟨0⟩ (by decide)

end Api.Driver

end LedWireDriver
