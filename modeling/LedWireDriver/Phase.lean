/-
  LedWireDriver.Phase — frame phases and the data they stamp.

  A channel's phase is the number of accepted batches that carried it (`phase_counts`), and
  a write packs with the phase of its moment. `started_phase` compares that stamp with the
  count when the data goes out: they differ, by one, exactly when a batch carrying the
  channel was accepted after the write.
-/

import LedWireDriver.Commit

namespace LedWireDriver

open Words History Batching Api Engine Pack

variable {B : Type} [LedBackend B] {f : Features}

/-! ## One call -/

section Step

variable {r : ReadyState} {t : Transition B} {m : UInt32} {c : ChannelId}

/-- An accepted batch moves every channel in it one phase on, and no other. -/
theorem Effect.started_records (h : Effect f r t) (hs : t.Starts m) :
    t.result = .ok () ∧ ∀ i, t.after.engine.channels.lookup i =
      if has m i then (t.before.engine.channels.lookup i).map ChannelState.advancePhase
      else t.before.engine.channels.lookup i := by
  cases h with
  | unwritten _ _ _ _ hw => exact absurd hs (hw.no_submit.1 m _)
  | wrote _ _ _ _ hw => exact absurd hs (hw.no_submit.1 m _)
  | started =>
    obtain rfl : m = r.pendingMask.bits := by simpa [Transition.Starts] using hs
    exact ⟨rfl, fun i => RegistrationTable.lookup_advanced _ _ i⟩
  | _ => simp [Transition.Starts] at hs

/-- Every other call leaves all records alone. -/
theorem Effect.unstarted_records (h : Effect f r t) (hs : ∀ m, ¬t.Starts m) :
    t.after.engine.channels = t.before.engine.channels := by
  cases h with
  | started => exact absurd (List.mem_singleton_self _) (hs _)
  | _ => rfl

/-- The write `t` on `c` returned `Ok`, and packed its pixels with this epoch. -/
def Transition.Packed (f : Features) (c : ChannelId) (epoch : FrameEpoch) (t : Transition B) : Prop :=
  ∃ channel pixels record, t.op = .writeRgb48 channel pixels ∧ channel.id = c ∧ t.result = .ok () ∧
    t.before.engine.channels.lookup c.asIndex = some record ∧ record.framePhase = epoch ∧
    WriteCalls B f record pixels (.ok ()) t.calls

theorem Effect.packed (h : Effect f r t) (hw : t.WritesOk c) :
    ∃ record, t.before.engine.channels.lookup c.asIndex = some record ∧ t.Packed f c record.framePhase := by
  obtain ⟨channel, pixels, hop, rfl, hres⟩ := hw
  cases h with
  | wrote backend _ _ hl hw => cases hop; exact ⟨_, hl, _, _, _, rfl, rfl, rfl, hl, rfl, hw⟩
  | foreign | surfaced | unregistered | unwritten => cases hres
  | _ => cases hop

end Step

/-! ## The Bayer schedule -/

/-- One entry a frame: −32, 32, −16, 16. -/
def bayerOffsets : Vector Int16 4 := #v[-32, 32, -16, 16]

theorem bayerOffsets_get : ∀ k : Fin 4,
    (match k.val with | 0 => -32 | 1 => 32 | 2 => -16 | _ => 16 : Int16) = bayerOffsets.get k := by
  decide

/-- The schedule survives the wrap of the epoch: 4 divides 2³². -/
theorem bayer_offset (td : TemporalBayerDither) (n : Nat) :
    TemporalDither.offset td ⟨UInt32.ofNat n⟩ = bayerOffsets.get ⟨n % 4, Nat.mod_lt _ (by decide)⟩ := by
  have hmod : (UInt32.ofNat n % 4).toNat = n % 4 := by
    rw [UInt32.toNat_mod, UInt32.toNat_ofNat']
    exact Nat.mod_mod_of_dvd n (by decide : 4 ∣ 2 ^ 32)
  show (match (UInt32.ofNat n % 4).toNat with | 0 => -32 | 1 => 32 | 2 => -16 | _ => 16 : Int16) = _
  rw [hmod]
  exact bayerOffsets_get ⟨n % 4, Nat.mod_lt _ (by decide)⟩

theorem active_bayer_offset (hf : f.td = .packTdBayer) (n : Nat) :
    TemporalDither.offset (default : ActiveTemporalDither f) ⟨UInt32.ofNat n⟩ =
      bayerOffsets.get ⟨n % 4, Nat.mod_lt _ (by decide)⟩ := by
  obtain ⟨td, sq⟩ := f
  cases hf
  exact bayer_offset default n

/-! ## Runs -/

namespace Api.Driver

variable {setup : PreparedSetup} {handles : ConfiguredChannels} {d : Driver (Recorder B) .ready}

theorem Configured.phase_eq (hc : Configured setup handles d) (ops : List Op) {c : ChannelId} {record : ChannelState}
    (hl : (d.afterOps f ops).engine.channels.lookup c.asIndex = some record) :
    record.framePhase = ⟨UInt32.ofNat (Transition.startedCount c (d.trace f ops))⟩ := by
  obtain ⟨r, hi, -⟩ := hc.reached (f := f) ops
  have hphase := Batching.phase_eq (hc.run (f := f) ops) c
  rw [LedEngine.abstraction_ready hi.lifecycle, carried_eq _ (observed hc.inv ops),
    FrameEpoch.iterate_wrappingAdd] at hphase
  rw [← hphase]
  show record.framePhase = RegistrationTable.phase _ c
  unfold RegistrationTable.phase
  rw [hl]
  rfl

/-- Frame phases count accepted batches exactly. -/
theorem phase_counts (hc : Configured setup handles d) (ops : List Op) (op : Op) :
    (∀ c record, (d.afterOps f ops).engine.channels.lookup c.asIndex = some record →
      record.framePhase = ⟨UInt32.ofNat (Transition.startedCount c (d.trace f ops))⟩ ∧
      (((d.afterOps f ops).transition f op).WritesOk c →
        ((d.afterOps f ops).transition f op).Packed f c record.framePhase) ∧
      (f.td = .packTdBayer → TemporalDither.offset (default : ActiveTemporalDither f) record.framePhase =
        bayerOffsets.get ⟨Transition.startedCount c (d.trace f ops) % 4, Nat.mod_lt _ (by decide)⟩)) ∧
    (∀ m, ((d.afterOps f ops).transition f op).Starts m →
      ((d.afterOps f ops).transition f op).result = .ok () ∧
      ∀ i, ((d.afterOps f ops).transition f op).after.engine.channels.lookup i =
        if has m i then ((d.afterOps f ops).engine.channels.lookup i).map ChannelState.advancePhase
        else (d.afterOps f ops).engine.channels.lookup i) ∧
    ((∀ m, ¬((d.afterOps f ops).transition f op).Starts m) →
      ((d.afterOps f ops).transition f op).after.engine.channels = (d.afterOps f ops).engine.channels) := by
  obtain ⟨r, hi, he⟩ := hc.reached (f := f) ops
  refine ⟨fun c record hl => ?_, fun m hs => ?_, fun hs => ?_⟩
  · have hphase := hc.phase_eq ops hl
    refine ⟨hphase, fun hw => ?_, fun hf => by rw [hphase, active_bayer_offset hf]⟩
    obtain ⟨record', hl', hp⟩ := (he op).packed hw
    rw [transition_before, hl] at hl'
    cases hl'
    exact hp
  · have := (he op).started_records hs
    rwa [transition_before] at this
  · have := (he op).unstarted_records hs
    rwa [transition_before] at this

open TestSupport in
theorem phase_counts_pair :
    (⟨1⟩ : FrameEpoch) =
      ⟨UInt32.ofNat (Transition.startedCount ⟨0⟩ (pair.1.trace .default (rewriting ++ [.service])))⟩ :=
  ((phase_counts pair_configured (rewriting ++ [.service]) .service).1 ⟨0⟩ ⟨2, .grb, ⟨0⟩, ⟨1⟩⟩ (by decide +kernel)).1

/-! ## What a batch transmits -/

/-- The data a batch transmits was packed with the number of batches that carried its
    channel before the write; at most one carried it between the write and this batch, and
    then only a batch the channel was already waiting for when it was written. -/
theorem started_phase (hc : Configured setup handles d) (ops : List Op) (op : Op) {m : UInt32}
    (hs : ((d.afterOps f ops).transition f op).Starts m) {c : ChannelId} (hm : has m c.asIndex = true) :
    ∃ pre w post, d.trace f ops = pre ++ w :: post ∧ w.WritesOk c ∧ (∀ x ∈ post, ¬x.WritesOk c) ∧
      w.Packed f c ⟨UInt32.ofNat (Transition.startedCount c pre)⟩ ∧
      Transition.startedCount c (d.trace f ops) = Transition.startedCount c pre + Transition.startedCount c post ∧
      Transition.startedCount c post ≤ 1 ∧
      (Transition.startedCount c post ≠ 0 → Transition.Unsent c pre ∧ ¬Transition.Uncommitted c (d.trace f ops)) := by
  obtain ⟨r, hi, he⟩ := hc.reached (f := f) ops
  obtain ⟨-, -, -, rfl, -⟩ := (he op).submits ⟨_, hs⟩
  have hpend : c ∈ (d.afterOps f ops).engine.abstraction.pending := by
    rw [LedEngine.abstraction_ready hi.lifecycle]
    exact hm
  obtain ⟨p, w₀, mid, k, q, hw₀, hok, -⟩ := (hc.pending_iff ops hi.lifecycle c).mp hm
  obtain ⟨pre, w, post, htrace, hw, hlast⟩ := since_last (h := d.trace f ops) (φ := (·.WritesOk c))
    ⟨w₀, by rw [hw₀]; simp, hok⟩
  obtain ⟨ops₁, op₁, ops₂, -, rfl, rfl, -⟩ := trace_split htrace
  obtain ⟨r₁, hi₁, he₁⟩ := hc.reached (f := f) ops₁
  have ho := observed (f := f) hc.inv ops
  have hrun := hc.run (f := f) ops
  rw [← hc.dirty_iff ops hi.lifecycle]
  have hdirty : c ∈ (d.afterOps f ops).engine.abstraction.dirty ↔ has r.dirtyMask.bits c.asIndex = true := by
    rw [LedEngine.abstraction_ready hi.lifecycle]; rfl
  rw [← hdirty]
  rw [htrace] at ho hrun ⊢
  rw [List.map_append, List.map_cons] at hrun
  have hwl := ((ho _ (by simp)).writes c).mpr hw
  have hcount := carried_eq c ho
  have hpost := carried_eq c (show ∀ t ∈ post, Observes t t.label from fun t ht => ho t (by simp [ht]))
  have hle := Batching.carried_le_one hrun hwl (by
    intro x hx
    obtain ⟨t, ht, rfl⟩ := List.mem_map.mp hx
    exact mt ((ho t (by simp [ht])).writes c).mp (hlast t ht)) hpend
  rw [hpost, unsent_iff fun t ht => ho t (by simp [ht])] at hle
  refine ⟨_, _, _, rfl, hw, hlast, ?_, ?_, hle⟩
  · obtain ⟨record, hl, hp⟩ := (he₁ op₁).packed hw
    rw [transition_before] at hl
    rwa [hc.phase_eq ops₁ hl] at hp
  · rw [← hcount, List.map_append, List.map_cons, carried_append, carried_cons, if_neg hwl.not_carries, hpost,
      carried_eq _ fun t ht => ho t (by simp [ht]), Nat.add_zero]

open TestSupport in
theorem started_phase_pair :
    ∃ pre w post, pair.1.trace bayer lagging = pre ++ w :: post ∧ w.WritesOk ⟨0⟩ ∧ (∀ x ∈ post, ¬x.WritesOk ⟨0⟩) ∧
      w.Packed bayer ⟨0⟩ ⟨UInt32.ofNat (Transition.startedCount ⟨0⟩ pre)⟩ :=
  have ⟨pre, w, post, htrace, hw, hlast, hp, _⟩ :=
    started_phase pair_configured lagging .service lagging_starts (c := ⟨0⟩) (by decide)
  ⟨pre, w, post, htrace, hw, hlast, hp⟩

open TestSupport in
/-- The third call of `lagging` is the last write of channel 0 before the second batch that
    carries it, and packs with epoch 0. -/
theorem pair_lags :
    Configured pairSetup pair.2 pair.1 ∧
      ((pair.1.afterOps bayer lagging).transition bayer .service).Starts 1 ∧
      Transition.startedCount ⟨0⟩ (pair.1.trace bayer lagging) = 1 ∧
      ∃ pre w post, pair.1.trace bayer lagging = pre ++ w :: post ∧ w.WritesOk ⟨0⟩ ∧
        (∀ x ∈ post, ¬x.WritesOk ⟨0⟩) ∧ w.Packed bayer ⟨0⟩ ⟨0⟩ ∧ ¬w.Packed bayer ⟨0⟩ ⟨1⟩ := by
  have hl : (pair.1.afterOps bayer (rewriting.take 2)).engine.channels.lookup 0 = some ⟨2, .grb, ⟨0⟩, ⟨0⟩⟩ := by
    decide +kernel
  have hw : ((pair.1.afterOps bayer (rewriting.take 2)).transition bayer (.writeRgb48 (handle 0) frame)).WritesOk ⟨0⟩ :=
    ⟨handle 0, frame, transition_op _, rfl, by decide +kernel⟩
  refine ⟨pair_configured, lagging_starts, by decide +kernel, pair.1.trace bayer (rewriting.take 2), _, _, rfl, hw,
    ?_, ?_, ?_⟩
  · simp [trace, Transition.WritesOk]
  · obtain ⟨r, hi, he⟩ := pair_configured.reached (f := bayer) (rewriting.take 2)
    obtain ⟨record, hl', hp⟩ := (he _).packed hw
    rw [transition_before] at hl'
    cases hl.symm.trans hl'
    exact hp
  · intro hx
    obtain ⟨_, _, record, _, _, _, hl', hphase, _⟩ := hx
    rw [transition_before] at hl'
    cases hl.symm.trans hl'
    cases hphase

end Api.Driver

end LedWireDriver
