/-
  LedWireDriver.Engine.RegistrationProofs — what planning and the registration table
  compute (see `LedWireDriver.Engine.Registration`).

  `lookup` reads a table without bounds, and tables with the same lookups are equal.
  `bindingAt`, `recordOf` and `specOf` say what a binding list registers; a plan of a setup
  whose bindings all fit holds exactly that (`fromPreparedSetup_ok`), and committing it to
  the empty table cannot fail (`commitPlan_ok`).
-/

import Mathlib.Data.Set.Basic
import LedWireDriver.Engine.Registration

namespace LedWireDriver.Engine

open Fallible Words Api

/-! ## Reading a table -/

namespace RegistrationTable

def lookup (table : RegistrationTable) (i : Nat) : Option ChannelState := table.records[i]?.join

variable {table : RegistrationTable} {i maxChannels : Nat}

theorem lookup_lt (table : RegistrationTable) (h : i < driverMaxChannels) : table.lookup i = table.records[i] := by
  simp [lookup, h]

theorem lookup_ge (h : driverMaxChannels ≤ i) : table.lookup i = none := by
  simp [lookup, h]

theorem ext_lookup {table' : RegistrationTable} (h : ∀ i, table.lookup i = table'.lookup i) : table = table' := by
  cases table; cases table'
  congr 1
  ext1 i hi
  have := h i
  rwa [lookup_lt _ hi, lookup_lt _ hi] at this

@[simp] theorem lookup_new (i : Nat) : new.lookup i = none := by
  by_cases h : i < driverMaxChannels
  · rw [lookup_lt _ h]; simp [new]
  · exact lookup_ge (by omega)

theorem lookup_set (table : RegistrationTable) (h : i < driverMaxChannels) (record : Option ChannelState) (j : Nat) :
    (⟨table.records.set i record h⟩ : RegistrationTable).lookup j = if i = j then record else table.lookup j := by
  by_cases hj : j < driverMaxChannels
  · rw [lookup_lt _ hj, lookup_lt _ hj, Vector.getElem_set]
  · rw [lookup_ge (by omega), lookup_ge (by omega), if_neg (by omega)]

/-! ## Its operations -/

theorem record_out (h : maxChannels ≤ i) : table.record i maxChannels = .error (.error .channelOutOfRange) := by
  unfold record
  rw [rejectIf_pos h, error_bind]

theorem record_eq (h : i < maxChannels) (hm : maxChannels ≤ driverMaxChannels) :
    table.record i maxChannels = okOr (table.lookup i) .channelNotRegistered := by
  unfold record
  have hi : i < driverMaxChannels := by omega
  rw [rejectIf_neg (by omega), ok_bind, index_ok _ hi, ok_bind, lookup_lt _ hi]

theorem record_ok {record : ChannelState} (h : i < maxChannels) (hm : maxChannels ≤ driverMaxChannels)
    (hl : table.lookup i = some record) : table.record i maxChannels = .ok record := by
  rw [record_eq h hm, hl]; rfl

theorem maskBit_ok (h : i < ChannelMask.capacityBits) : maskBit i = .ok ⟨bit i⟩ := by
  unfold maskBit
  rw [rejectIf_neg (by omega), ok_bind]; rfl

theorem markWritten_ok {record : ChannelState} {dirty : ChannelMask} (h : i < maxChannels)
    (hm : maxChannels ≤ driverMaxChannels) (hl : table.lookup i = some record) :
    table.markWritten i maxChannels dirty = .ok ⟨dirty.bits ||| bit i⟩ := by
  unfold markWritten
  rw [record_ok h hm hl, ok_bind, maskBit_ok (by show i < 32; unfold driverMaxChannels at hm; omega)]; rfl

theorem registeredChannelMask_ok (table : RegistrationTable) (hm : maxChannels ≤ driverMaxChannels) :
    ∃ mask, table.registeredChannelMask maxChannels = .ok mask ∧
      ∀ i, has mask.bits i = true ↔ i < maxChannels ∧ (table.lookup i).isSome = true := by
  let items := table.records.toList.zipIdx.take maxChannels
  have hlen : items.length = maxChannels := by simp [items]; omega
  have hitem : ∀ pre x post, items = pre ++ x :: post →
      x = (table.lookup pre.length, pre.length) ∧ pre.length < maxChannels := by
    intro pre x post h
    have hlt : pre.length < maxChannels := by rw [← hlen, h]; simp
    have hx : items[pre.length]? = some x := by rw [h]; simp
    simp only [items, List.getElem?_take, hlt, if_true, List.getElem?_zipIdx, Option.map_eq_some_iff] at hx
    obtain ⟨record, hr, rfl⟩ := hx
    refine ⟨?_, hlt⟩
    simp only [Vector.getElem?_toList, Nat.zero_add] at hr ⊢
    rw [lookup, hr]; rfl
  refine foldlM_ok (fun pre bits => ∀ i, has bits i = true ↔ i < pre.length ∧ (table.lookup i).isSome = true)
    (by simp) ?_ fun bits hi => ⟨⟨bits⟩, rfl, fun i => by rw [hi i, hlen]⟩
  intro pre x post bits h ih
  obtain ⟨rfl, hlt⟩ := hitem pre x post h
  have h32 : pre.length < 32 := by unfold driverMaxChannels at hm; omega
  by_cases hs : (table.lookup pre.length).isSome = true
  · refine ⟨bits ||| bit pre.length, by simp only [hs, if_true, maskBit_ok h32, ok_bind]; rfl, fun i => ?_⟩
    rw [has_or, has_bit h32, Bool.or_eq_true, ih i, decide_eq_true_eq, List.length_append]
    constructor
    · intro h
      rcases h with ⟨h, h'⟩ | rfl
      · exact ⟨by omega, h'⟩
      · exact ⟨by simp, hs⟩
    · intro ⟨h, h'⟩
      by_cases e : pre.length = i
      · exact Or.inr e
      · exact Or.inl ⟨by simp at h; omega, h'⟩
  · refine ⟨bits, by simp only [hs]; rfl, fun i => ?_⟩
    rw [ih i, List.length_append]
    refine and_congr_left fun h' => ⟨fun h => by omega, fun h => ?_⟩
    have : pre.length ≠ i := by intro e; exact hs (e ▸ h')
    simp at h; omega

theorem advancePhase_ok {record : ChannelState} (h : i < maxChannels) (hm : maxChannels ≤ driverMaxChannels)
    (hl : table.lookup i = some record) :
    ∃ table', advancePhase i maxChannels table = .ok ⟨⟩ table' ∧
      ∀ j, table'.lookup j = if i = j then some record.advancePhase else table.lookup j := by
  have hi : i < driverMaxChannels := by omega
  refine ⟨⟨table.records.set i (some record.advancePhase) hi⟩, ?_, lookup_set _ hi _⟩
  unfold advancePhase
  rw [rejectIf_neg (by omega), bind_ok (lift_ok _ _), bind_ok (get_apply _), index_ok _ hi, bind_ok (lift_ok _ _),
    ← lookup_lt _ hi, hl]
  simp only [okOr, store_ok _ _ hi, bind_ok (lift_ok _ _), set_apply]

theorem register_ok (record : ChannelState) (h : i < maxChannels) (hm : maxChannels ≤ driverMaxChannels)
    (hl : table.lookup i = none) :
    ∃ table', register maxChannels i record table = .ok ⟨⟩ table' ∧
      ∀ j, table'.lookup j = if i = j then some record else table.lookup j := by
  have hi : i < driverMaxChannels := by omega
  refine ⟨⟨table.records.set i (some record) hi⟩, ?_, lookup_set _ hi _⟩
  unfold register
  rw [rejectIf_neg (by omega), bind_ok (lift_ok _ _), bind_ok (get_apply _), index_ok _ hi, bind_ok (lift_ok _ _),
    ← lookup_lt _ hi, hl, rejectIf_neg (by simp), bind_ok (lift_ok _ _), store_ok _ _ hi, bind_ok (lift_ok _ _),
    set_apply]

end RegistrationTable

/-! ## Planning -/

/-- The binding of a logical index. -/
def bindingAt (bs : List PreparedBinding) (i : Nat) : Option PreparedBinding :=
  bs.find? (·.logicalChannel.asIndex == i)

def recordOf (b : PreparedBinding) : ChannelState := .new b.backendChannel b.pixels.toNat b.layout

def specOf (b : PreparedBinding) : BackendChannelSpec := ⟨b.backendChannel, b.pixels, b.layout⟩

/-- The driver's own checks of one binding. -/
def Fits (maxChannels : Nat) (maxBytesPerChannel : Option UInt32) (b : PreparedBinding) : Prop :=
  b.logicalChannel.asIndex < maxChannels ∧ ∀ maxBytes ∈ maxBytesPerChannel, 3 * b.pixels.toNat ≤ maxBytes.toNat

/-- What is wrong with a binding that does not fit, and the error that reports it. -/
inductive Misfit (maxChannels : Nat) (maxBytesPerChannel : Option UInt32) (b : PreparedBinding) : EngineError → Prop
  | index : maxChannels ≤ b.logicalChannel.asIndex → Misfit maxChannels maxBytesPerChannel b .channelOutOfRange
  | bytes {maxBytes : UInt32} : maxBytes ∈ maxBytesPerChannel → maxBytes.toNat < 3 * b.pixels.toNat →
      Misfit maxChannels maxBytesPerChannel b .configurationLimitExceeded

theorem bindingAt_mem {bs : List PreparedBinding} {i : Nat} {b : PreparedBinding} (h : bindingAt bs i = some b) :
    b ∈ bs ∧ b.logicalChannel.asIndex = i :=
  ⟨List.mem_of_find?_eq_some h, by simpa using List.find?_some h⟩

theorem bindingAt_isSome {bs : List PreparedBinding} {i : Nat} :
    (bindingAt bs i).isSome = true ↔ i ∈ bs.map (·.logicalChannel.asIndex) := by
  simp [bindingAt, List.find?_isSome]

theorem bindingAt_snoc {pre : List PreparedBinding} {b : PreparedBinding} (hv : ValidBindings (pre ++ [b])) (i : Nat) :
    bindingAt (pre ++ [b]) i = if b.logicalChannel.asIndex = i then some b else bindingAt pre i := by
  unfold bindingAt
  rw [List.find?_append]
  by_cases h : b.logicalChannel.asIndex = i
  · have hn : pre.find? (·.logicalChannel.asIndex == i) = none := by
      rw [List.find?_eq_none]
      intro b' hb' he
      have hnd := hv.logical_nodup
      rw [List.map_append, List.nodup_append] at hnd
      have : b'.logicalChannel = b.logicalChannel := ChannelId.asIndex_injective (by rw [h]; simpa using he)
      exact hnd.2.2 _ (List.mem_map_of_mem hb') _ (by simp) this
    simp [hn, h]
  · simp [h]

/-- In a valid list a binding is found under its own index. -/
theorem bindingAt_self {bs : List PreparedBinding} (hv : ValidBindings bs) {b : PreparedBinding} (hb : b ∈ bs) :
    bindingAt bs b.logicalChannel.asIndex = some b := by
  cases h : bindingAt bs b.logicalChannel.asIndex with
  | none =>
    have := bindingAt_isSome.mpr (List.mem_map_of_mem (f := (·.logicalChannel.asIndex)) hb)
    simp [h] at this
  | some b' =>
    obtain ⟨hb', he⟩ := bindingAt_mem h
    have := List.inj_on_of_nodup_map hv.logical_nodup hb' hb (ChannelId.asIndex_injective he)
    rw [this]

theorem wireBytes_toNat (pixels : UInt16) : (pixels.toUInt32 * 3).toNat = 3 * pixels.toNat := by
  have := pixels.toNat_lt
  rw [UInt32.toNat_mul, UInt16.toNat_toUInt32]
  simp only [UInt32.reduceToNat]
  omega

namespace RegistrationPlan

/-- The plan holds exactly what the bindings `bs` register. -/
structure Stages (driverId : DriverId) (plan : RegistrationPlan) (bs : List PreparedBinding) : Prop where
  handles : ∀ i (h : i < driverMaxChannels), plan.handles[i] = (bindingAt bs i).map fun b => ⟨driverId, b.logicalChannel⟩
  records : ∀ i, (RegistrationTable.mk plan.records).lookup i = (bindingAt bs i).map recordOf
  specs : plan.specs.toList = bs.map specOf
  order : plan.order.toList = bs.map (·.logicalChannel.asIndex)

variable {driverId : DriverId} {maxChannels : Nat} {maxBytesPerChannel : Option UInt32} {plan : RegistrationPlan}
  {pre : List PreparedBinding} {b : PreparedBinding}

theorem stages_empty : Stages driverId empty [] :=
  ⟨by simp [empty, bindingAt], RegistrationTable.lookup_new, rfl, rfl⟩

theorem exceeds_iff : (∃ maxBytes ∈ maxBytesPerChannel, maxBytes < b.pixels.toUInt32 * 3) ↔
    ¬∀ maxBytes ∈ maxBytesPerChannel, 3 * b.pixels.toNat ≤ maxBytes.toNat := by
  push Not
  simp only [UInt32.lt_iff_toNat_lt, wireBytes_toNat]

/-- The next binding of a valid list is not staged yet. -/
theorem Stages.fresh (hs : Stages driverId plan pre) (hv : ValidBindings (pre ++ [b]))
    (hi : b.logicalChannel.asIndex < driverMaxChannels) : plan.records[b.logicalChannel.asIndex] = none := by
  rw [← RegistrationTable.lookup_lt ⟨plan.records⟩ hi, hs.records, Option.map_eq_none_iff,
    ← Option.not_isSome_iff_eq_none, bindingAt_isSome]
  have hnd := hv.logical_nodup
  rw [List.map_append, List.nodup_append] at hnd
  intro hm
  obtain ⟨b', hb', he⟩ := List.mem_map.mp hm
  exact hnd.2.2 _ (List.mem_map_of_mem hb') _ (by simp) (ChannelId.asIndex_injective he)

theorem stage_ok (hs : Stages driverId plan pre) (hv : ValidBindings (pre ++ [b]))
    (hlen : (pre ++ [b]).length ≤ driverMaxChannels) (hf : Fits maxChannels maxBytesPerChannel b) :
    ∃ plan', stage driverId maxChannels maxBytesPerChannel plan b = .ok plan' ∧ Stages driverId plan' (pre ++ [b]) := by
  have hi : b.logicalChannel.asIndex < driverMaxChannels := hv.logical_lt b (by simp)
  have hnew := hs.fresh hv hi
  have hspecs : plan.specs.toList.length < driverMaxChannels := by rw [hs.specs]; simp at hlen ⊢; omega
  have horder : plan.order.toList.length < driverMaxChannels := by rw [hs.order]; simp at hlen ⊢; omega
  obtain ⟨specs, hpush, hspecs⟩ := BoundedVec.push_some hspecs (specOf b)
  obtain ⟨order, hpush', horder⟩ := BoundedVec.push_some horder b.logicalChannel.asIndex
  have hpix : b.pixels.toNat < UInt16.size := b.pixels.toNat_lt
  refine ⟨⟨plan.handles.set _ (some ⟨driverId, b.logicalChannel⟩) hi, plan.records.set _ (some (recordOf b)) hi, specs,
    order⟩, ?_, ⟨fun i h => ?_, fun i => ?_, ?_, ?_⟩⟩
  · unfold stage
    have hl : ¬maxChannels ≤ b.logicalChannel.asIndex := by have := hf.1; omega
    have hmax : ¬∃ maxBytes ∈ maxBytesPerChannel, maxBytes < b.pixels.toUInt32 * 3 := by
      rw [exceeds_iff]; simpa using hf.2
    simp only [rejectIf_neg hl, ok_bind, index_ok _ hi, hnew, rejectIf_neg (show ¬none.isSome = true by simp),
      PreparedSetup.wireBytes_some, okOr, rejectIf_neg hmax]
    simp only [ChannelState.new, hpix, if_true, ok_bind, UInt16.ofNat_toNat, ChannelId.fromIndex_asIndex, expect,
      store_ok _ _ hi]
    rw [← specOf, hpush, hpush']
    rfl
  · rw [Vector.getElem_set, bindingAt_snoc hv]
    split
    · rfl
    · exact hs.handles i h
  · rw [RegistrationTable.lookup_set ⟨plan.records⟩ hi, bindingAt_snoc hv]
    split
    · rfl
    · exact hs.records i
  · rw [hspecs, hs.specs, List.map_append]; rfl
  · rw [horder, hs.order, List.map_append]; rfl

theorem stage_error (hs : Stages driverId plan pre) (hv : ValidBindings (pre ++ [b]))
    (hf : ¬Fits maxChannels maxBytesPerChannel b) :
    ∃ err, stage driverId maxChannels maxBytesPerChannel plan b = .error (.error err) ∧
      Misfit maxChannels maxBytesPerChannel b err := by
  unfold stage
  by_cases hl : maxChannels ≤ b.logicalChannel.asIndex
  · exact ⟨_, by simp only [rejectIf_pos hl, error_bind], .index hl⟩
  have hi : b.logicalChannel.asIndex < driverMaxChannels := hv.logical_lt b (by simp)
  have hmax : ∃ maxBytes ∈ maxBytesPerChannel, maxBytes < b.pixels.toUInt32 * 3 :=
    exceeds_iff.mpr fun h => hf ⟨by omega, h⟩
  have hx := hmax
  obtain ⟨maxBytes, hmem, hlt⟩ := hx
  refine ⟨_, ?_, .bytes hmem (by rwa [UInt32.lt_iff_toNat_lt, wireBytes_toNat] at hlt)⟩
  simp only [rejectIf_neg hl, ok_bind, index_ok _ hi, hs.fresh hv hi, rejectIf_neg (show ¬none.isSome = true by simp),
    PreparedSetup.wireBytes_some, okOr, rejectIf_pos hmax, error_bind]

theorem fromPreparedSetup_ok (driverId : DriverId) {setup : PreparedSetup}
    (hf : ∀ b ∈ setup.bindings.toList, Fits maxChannels maxBytesPerChannel b) :
    ∃ plan, fromPreparedSetup setup driverId maxChannels maxBytesPerChannel = .ok plan ∧
      Stages driverId plan setup.bindings.toList := by
  unfold fromPreparedSetup
  rw [← bind_pure (List.foldlM _ _ _)]
  refine foldlM_ok (fun pre plan => Stages driverId plan pre) stages_empty ?_ fun plan hs => ⟨plan, rfl, hs⟩
  intro pre b post plan hx hs
  have hsplit : setup.bindings.toList = (pre ++ [b]) ++ post := by simp [hx]
  have hv := setup.valid
  have hlen := setup.bindings.length_le
  rw [hsplit] at hv hlen
  exact stage_ok hs hv.left (by rw [List.length_append] at hlen; omega) (hf b (by rw [hsplit]; simp))

theorem fromPreparedSetup_error (driverId : DriverId) {setup : PreparedSetup}
    (hf : ¬∀ b ∈ setup.bindings.toList, Fits maxChannels maxBytesPerChannel b) :
    ∃ err, fromPreparedSetup setup driverId maxChannels maxBytesPerChannel = .error (.error err) ∧
      ∃ b ∈ setup.bindings.toList, Misfit maxChannels maxBytesPerChannel b err := by
  suffices ∀ post pre plan, setup.bindings.toList = pre ++ post → Stages driverId plan pre →
      (¬∀ b ∈ post, Fits maxChannels maxBytesPerChannel b) →
      ∃ err, post.foldlM (stage driverId maxChannels maxBytesPerChannel) plan = .error (.error err) ∧
        ∃ b ∈ post, Misfit maxChannels maxBytesPerChannel b err from this _ [] _ rfl stages_empty hf
  intro post
  induction post with
  | nil => intro _ _ _ _ hn; simp at hn
  | cons b post ih =>
    intro pre plan hx hs hn
    have hsplit : setup.bindings.toList = (pre ++ [b]) ++ post := by simp [hx]
    have hv := setup.valid
    have hlen := setup.bindings.length_le
    rw [hsplit] at hv hlen
    rw [List.foldlM_cons]
    by_cases hb : Fits maxChannels maxBytesPerChannel b
    · obtain ⟨plan', hp, hs'⟩ := stage_ok hs hv.left (by rw [List.length_append] at hlen; omega) hb
      rw [hp, ok_bind]
      obtain ⟨err, h, b', hmem, hm⟩ := ih _ plan' hsplit hs' fun hall => hn (by simpa using ⟨hb, hall⟩)
      exact ⟨err, h, b', List.mem_cons_of_mem _ hmem, hm⟩
    · obtain ⟨err, h, hm⟩ := stage_error hs hv.left hb
      exact ⟨err, by rw [h, error_bind], b, List.mem_cons_self, hm⟩

/-- Committing a staged plan to the empty table never fails, and leaves its records. -/
theorem commitPlan_ok {bs : List PreparedBinding} (hs : Stages driverId plan bs) (hv : ValidBindings bs)
    (hm : maxChannels ≤ driverMaxChannels) (hb : ∀ b ∈ bs, b.logicalChannel.asIndex < maxChannels) :
    RegistrationTable.commitPlan maxChannels plan .new = .ok ⟨⟩ ⟨plan.records⟩ := by
  have hnd : plan.order.toList.Nodup := by
    rw [hs.order]
    simpa [List.map_map, Function.comp_def] using hv.logical_nodup.map ChannelId.asIndex_injective
  refine forM_ok (fun pre table => ∀ i, table.lookup i = if i ∈ pre then (bindingAt bs i).map recordOf else none)
    (by simp) ?_ fun table hinv => RegistrationTable.ext_lookup fun i => ?_
  · intro pre i post table hx ih
    have hmem : i ∈ bs.map (·.logicalChannel.asIndex) := by rw [← hs.order, hx]; simp
    obtain ⟨b, hbs, rfl⟩ := List.mem_map.mp hmem
    have hat := bindingAt_self hv hbs
    have hnew : b.logicalChannel.asIndex ∉ pre := by
      rw [hx, List.nodup_append] at hnd
      exact fun h => hnd.2.2 _ h _ (by simp) rfl
    have hrec : plan.stagedRecord b.logicalChannel.asIndex = .ok (b.logicalChannel.asIndex, recordOf b) := by
      have hi := hv.logical_lt b hbs
      unfold stagedRecord
      rw [index_ok _ hi, ← RegistrationTable.lookup_lt ⟨plan.records⟩ hi, hs.records, hat]
      rfl
    obtain ⟨table', hreg, hl⟩ := RegistrationTable.register_ok (recordOf b) (hb b hbs) hm (by rw [ih, if_neg hnew])
    refine ⟨table', ?_, fun j => ?_⟩
    · rw [hrec, bind_ok (lift_ok _ _)]
      exact hreg
    · rw [hl, ih]
      by_cases hj : b.logicalChannel.asIndex = j
      · subst hj; simp [hat]
      · simp [hj, Ne.symm hj]
  · rw [hinv, hs.records]
    split
    · rfl
    · rename_i hn
      rw [hs.order] at hn
      have := mt bindingAt_isSome.mp hn
      simp at this
      rw [this]; rfl

end RegistrationPlan

end LedWireDriver.Engine
