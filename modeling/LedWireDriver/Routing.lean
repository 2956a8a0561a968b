/-
  LedWireDriver.Routing — a write reaches the strip its binding names.

  A handle, the record behind it and the binding it stands for agree at every reached state
  (`Configured.handle`, `Inv.table`), whatever ids the setup binds and in whatever
  order; `write_routed` follows one write through them to the published bytes.
-/

import LedWireDriver.Commit

namespace LedWireDriver

open Words Api Engine Pack

variable {B : Type} [LedBackend B] {f : Features}

/-- A write that published through a lease with one buffer. -/
theorem WriteCalls.published_once {record : ChannelState} {pixels : List Rgb48} {calls : List BackendCall}
    (h : WriteCalls B f record pixels (.ok ()) calls) (hs : StableLeases B) :
    pixels.length = record.lenPixels ∧ ∃ exposed bytes,
      calls = [.acquireWriteTarget record.backendChannel (.ok (.ready record.backendChannel)),
        .bytesMut exposed exposed, .bytesMut exposed bytes, .publish bytes (.ok ())] ∧
      ∀ target, target.length = 3 * pixels.length →
        packRgb48Active f pixels record.layout record.framePhase target = .ok ⟨⟩ bytes := by
  cases h with
  | @published exposed target bytes published hlen hstable hp hpack =>
    obtain ⟨rfl, rfl⟩ := hstable hs
    refine ⟨by omega, _, _, rfl, fun target' ht => ?_⟩
    rw [← hpack]
    exact packRgb48Active_target ht (by omega)

/-- The write `t` of `pixels` went to the strip of binding `b`: one lease, of the binding's
    backend channel and length, published with the packed pixels; one dirty bit. -/
structure Routed (f : Features) (b : PreparedBinding) (pixels : List Rgb48) (record : ChannelState) (r : ReadyState)
    (exposed bytes : List UInt8) (t : Transition B) : Prop where
  length : pixels.length = b.pixels.toNat
  calls : t.calls = [.acquireWriteTarget b.backendChannel (.ok (.ready b.backendChannel)), .bytesMut exposed exposed,
    .bytesMut exposed bytes, .publish bytes (.ok ())]
  /-- Whatever the buffer held before. -/
  bytes : ∀ target, target.length = 3 * pixels.length →
    packRgb48Active f pixels b.layout record.framePhase target = .ok ⟨⟩ bytes
  after : t.after = (t.before.withBackend t.after.engine.backend).withReady
    { r with dirtyMask := ⟨r.dirtyMask.bits ||| bit b.logicalChannel.asIndex⟩ }

theorem Effect.routed {r : ReadyState} {t : Transition B} {b : PreparedBinding} {channel : Channel} {pixels : List Rgb48}
    {record : ChannelState} (h : Effect f r t) (hs : StableLeases B) (hop : t.op = .writeRgb48 channel pixels)
    (hid : channel.asIndex = b.logicalChannel.asIndex) (hok : t.result = .ok ())
    (hl : t.before.engine.channels.lookup b.logicalChannel.asIndex = some record)
    (hrec : record.fresh = recordOf b) : ∃ exposed bytes, Routed f b pixels record r exposed bytes t := by
  have hlen : record.lenPixels = b.pixels.toNat := congrArg ChannelState.lenPixels hrec
  have hlayout : record.layout = b.layout := congrArg ChannelState.layout hrec
  have hbackend : record.backendChannel = b.backendChannel := congrArg ChannelState.backendChannel hrec
  cases h with
  | wrote backend ho hv hl' hw =>
    cases hop
    rw [hid] at hl'
    cases hl.symm.trans hl'
    obtain ⟨hp, exposed, bytes, hcalls, hpack⟩ := hw.published_once hs
    rw [hbackend] at hcalls
    rw [hlayout] at hpack
    exact ⟨exposed, bytes, hp.trans hlen, hcalls, hpack, by rw [hid]; rfl⟩
  | foreign | surfaced | unregistered | unwritten => cases hok
  | _ => cases hop

namespace Api.Driver

variable {setup : PreparedSetup} {handles : ConfiguredChannels} {d : Driver (Recorder B) .ready}

theorem Configured.driverId (hc : Configured setup handles d) (ops : List Op) :
    (d.afterOps f ops).driverId = d.driverId := by
  induction ops using List.reverseRecOn with
  | nil => rfl
  | append_singleton ops op ih =>
    obtain ⟨r, -, he⟩ := hc.reached (f := f) ops
    rw [afterOps_snoc, (he op).driverId, transition_before, ih]

/-- The handles of a configured driver: its own, one for each binding. -/
theorem Configured.handle (hc : Configured setup handles d) (id : ChannelId) :
    handles.get id = (bindingAt setup.bindings.toList id.asIndex).map fun b => ⟨d.driverId, b.logicalChannel⟩ := by
  obtain ⟨c, hc, rfl⟩ := hc
  exact (configuring_inv hc).handles id

theorem bindingAt_id {bs : List PreparedBinding} {id : ChannelId} {b : PreparedBinding}
    (h : bindingAt bs id.asIndex = some b) : b ∈ bs ∧ b.logicalChannel = id :=
  (bindingAt_mem h).imp_right fun he => ChannelId.asIndex_injective he

theorem bound_iff {bs : List PreparedBinding} {id : ChannelId} :
    (bindingAt bs id.asIndex).isSome = true ↔ ∃ b ∈ bs, b.logicalChannel = id := by
  rw [bindingAt_isSome, List.mem_map]
  exact exists_congr fun b => and_congr_right fun _ => ChannelId.asIndex_injective.eq_iff

theorem write_routed (hc : Configured setup handles d) (hs : StableLeases B) (ops : List Op) (id : ChannelId) :
    ((handles.get id).isSome = true ↔ ∃ b ∈ setup.bindings.toList, b.logicalChannel = id) ∧
      ∀ channel pixels, handles.get id = some channel →
        ((d.afterOps f ops).transition f (.writeRgb48 channel pixels)).result = .ok () →
        ∃ b ∈ setup.bindings.toList, b.logicalChannel = id ∧
        ∃ r record exposed bytes, (d.afterOps f ops).engine.lifecycle = .ready r ∧
          (d.afterOps f ops).engine.channels.lookup id.asIndex = some record ∧
          Routed f b pixels record r exposed bytes ((d.afterOps f ops).transition f (.writeRgb48 channel pixels)) := by
  refine ⟨by rw [hc.handle, Option.isSome_map, bound_iff], fun channel pixels hh hok => ?_⟩
  obtain ⟨r, hi, he⟩ := hc.reached (f := f) ops
  rw [hc.handle, Option.map_eq_some_iff] at hh
  obtain ⟨b, hb, rfl⟩ := hh
  obtain ⟨hmem, rfl⟩ := bindingAt_id hb
  have htab := hi.table b.logicalChannel.asIndex
  rw [hb, Option.map_some, Option.map_eq_some_iff] at htab
  obtain ⟨record, hl, hrec⟩ := htab
  obtain ⟨exposed, bytes, hrouted⟩ := (he (.writeRgb48 ⟨d.driverId, b.logicalChannel⟩ pixels)).routed hs
    (transition_op _) rfl hok (by rwa [transition_before]) hrec
  exact ⟨b, hmem, rfl, r, record, exposed, bytes, hi.lifecycle, hl, hrouted⟩

open TestSupport in
theorem write_routed_swapped :
    ∃ b ∈ swappedSetup.bindings.toList, b.logicalChannel = ⟨0⟩ ∧ ∃ r record exposed bytes,
      (swapped.1.afterOps bayer rewriting).engine.lifecycle = .ready r ∧
      (swapped.1.afterOps bayer rewriting).engine.channels.lookup 0 = some record ∧
      Routed bayer b frame record r exposed bytes
        ((swapped.1.afterOps bayer rewriting).transition bayer (.writeRgb48 (handle 0) frame)) :=
  (write_routed swapped_configured stableLeases rewriting ⟨0⟩).2 (handle 0) frame (by decide +kernel) (by decide +kernel)

end Api.Driver

end LedWireDriver
