/-
  LedWireDriver.DriverIds — owner tokens, and the handles that carry them
  (`allocate_driver_id` in `src/api/driver.rs`).

  The allocator is the loop of `LedWireDriver.Lib.CompareExchange` on `NEXT_DRIVER_ID`: a
  successful exchange takes `raw` and leaves `next`. The word goes round the non-zero
  values (`iterate_next`), so that the ids allocated within one round differ
  (`allocated_inj`), and a handle is accepted by the driver that issued it and by no other
  one of that round (`driver_ids`).
-/

import LedWireDriver.Lib.CompareExchange
import LedWireDriver.Truthful

namespace LedWireDriver

open Fallible Words History CompareExchange Api Engine Pack

namespace Api

/-- The initial value of `NEXT_DRIVER_ID`. -/
def nextDriverId : UInt32 := 1

namespace AllocateDriverId

/-- `raw`, from the value last read. -/
def raw (current : UInt32) : UInt32 := if current = 0 then 1 else current

/-- `next`, which the exchange writes. -/
def next (current : UInt32) : UInt32 := (checkedAdd (raw current) 1).getD 1

/-- One atomic step of one of the callers of `allocate_driver_id`. -/
abbrev Step {ι : Type*} [DecidableEq ι] : State ι UInt32 → Label ι DriverId → State ι UInt32 → Prop :=
  CompareExchange.Step (fun current => ⟨raw current⟩) next

/-! ## The ids -/

theorem raw_toNat {current : UInt32} (h : current.toNat ≠ 0) : raw current = current :=
  if_neg fun h0 => h (by rw [h0]; rfl)

/-- The word skips zero for ever. -/
theorem iterate_next (k : Nat) : (next^[k] nextDriverId).toNat = k % (2 ^ 32 - 1) + 1 := by
  induction k with
  | zero => rfl
  | succ k ih =>
    rw [Function.iterate_succ_apply']
    generalize next^[k] nextDriverId = word at ih
    unfold next checkedAdd
    rw [raw_toNat (by omega), UInt32.toNat_one]
    by_cases hlast : word.toNat + 1 < UInt32.size
    · rw [if_pos hlast, Option.getD_some, UInt32.toNat_add, UInt32.toNat_one]
      unfold UInt32.size at hlast
      omega
    · rw [if_neg hlast, Option.getD_none, UInt32.toNat_one]
      unfold UInt32.size at hlast
      have := word.toNat_lt
      omega

section

variable {ι : Type*} [DecidableEq ι] {s : State ι UInt32} {h : List (Label ι DriverId)} {p q start : Nat} {id : DriverId}

theorem allocated_raw (hr : Run Step (.init nextDriverId) h s) (ha : (taken h)[p]? = some id) :
    id.raw.toNat = p % (2 ^ 32 - 1) + 1 := by
  have hword := iterate_next p
  rw [taken_getElem? hr ha, raw_toNat (by omega), hword]

/-- Positions of one window of `2 ^ 32 - 1` allocations hold different ids. -/
theorem allocated_inj (hr : Run Step (.init nextDriverId) h s) (hp : (taken h)[p]? = some id)
    (hq : (taken h)[q]? = some id) (hp' : start ≤ p ∧ p < start + (2 ^ 32 - 1))
    (hq' : start ≤ q ∧ q < start + (2 ^ 32 - 1)) : p = q := by
  have h₁ := allocated_raw hr hp
  have h₂ := allocated_raw hr hq
  omega

theorem allocated_nodup (hr : Run Step (.init nextDriverId) h s) (start : Nat) :
    (((taken h).drop start).take (2 ^ 32 - 1)).Nodup := by
  rw [List.nodup_iff_getElem?_ne_getElem?]
  intro i j hij hj he
  rw [List.length_take] at hj
  have hjw : j < 2 ^ 32 - 1 := by omega
  rw [List.getElem?_take, List.getElem?_take, if_pos (by omega), if_pos hjw, List.getElem?_drop,
    List.getElem?_drop] at he
  rw [List.length_drop] at hj
  have hget : (taken h)[start + j]? = some (taken h)[start + j] := List.getElem?_eq_getElem (by omega)
  have hi : start ≤ start + i ∧ start + i < start + (2 ^ 32 - 1) := by omega
  have hj' : start ≤ start + j ∧ start + j < start + (2 ^ 32 - 1) := by omega
  have hsame := allocated_inj hr (he.trans hget) hget hi hj'
  omega

end

end AllocateDriverId

/-! ## Handles -/

namespace Driver

variable {B : Type} [LedBackend B] {f : Features} {c : Driver (Recorder B) .configuring} {done : Outcome}

/-- No call changes a driver's owner token. -/
theorem Configuring.driverId (hc : Configuring c done) (ops : List Op) :
    (c.finalize.afterOps f ops).driverId = c.driverId := by
  cases done with
  | some s =>
    have hd : Configured s.1 s.2 c.finalize := ⟨c, hc, rfl⟩
    exact hd.driverId ops
  | none =>
    induction ops using List.reverseRecOn with
    | nil => rfl
    | append_singleton ops op ih =>
      have he := unready_run (f := f) (d := c.finalize) (configuring_inv hc) ops
      rw [afterOps_snoc, ← ih, (unready he op).driverId, transition_before]

/-- A driver, whatever it was called with, accepts a handle exactly when the owner tokens of
    the two drivers are the same. -/
theorem channel_issued {B' : Type} [LedBackend B'] {c' : Driver B' .configuring} {setup : PreparedSetup}
    {handles : ConfiguredChannels} (hissuer : Configuring c' (some (setup, handles))) (hc : Configuring c done)
    (ops : List Op) {id : ChannelId} {channel : Channel} (hh : handles.get id = some channel) :
    Driver.channel channel (c.finalize.afterOps f ops) =
      if c'.driverId = c.driverId then .ok ⟨channel.asIndex⟩ (c.finalize.afterOps f ops)
      else .error (.error (expected .invalidChannel)) (c.finalize.afterOps f ops) := by
  have howner : channel.owner = c'.driverId := by
    rw [(configuring_inv hissuer).handles id, Option.map_eq_some_iff] at hh
    obtain ⟨b, -, rfl⟩ := hh
    rfl
  split
  · rename_i he
    exact channel_own (by rw [howner, he, hc.driverId])
  · rename_i hne
    exact channel_foreign (by rw [howner, hc.driverId]; exact hne)

end Driver

open AllocateDriverId in
/-- Of the drivers created within one window of allocations, a handle opens the one that
    issued it, and no other. -/
theorem driver_ids {ι : Type*} [DecidableEq ι] {s : State ι UInt32} {h : List (Label ι DriverId)}
    (hr : Run Step (.init nextDriverId) h s) :
    (∀ (k : Nat) (id : DriverId), (taken h)[k]? = some id → id.raw ≠ 0 ∧ id.raw.toNat = k % (2 ^ 32 - 1) + 1) ∧
    (∀ start, (((taken h).drop start).take (2 ^ 32 - 1)).Nodup) ∧
    ∀ {B B' : Type} [LedBackend B] [LedBackend B'] (f : Features) start p q
      (c : Driver (Recorder B) .configuring) done (c' : Driver B' .configuring) setup handles,
      start ≤ p → p < start + (2 ^ 32 - 1) → start ≤ q → q < start + (2 ^ 32 - 1) →
      Driver.Configuring c' (some (setup, handles)) → (taken h)[p]? = some c'.driverId →
      Driver.Configuring c done → (taken h)[q]? = some c.driverId →
      ∀ ops id channel, handles.get id = some channel →
        Driver.channel channel (c.finalize.afterOps f ops) =
          if p = q then .ok ⟨channel.asIndex⟩ (c.finalize.afterOps f ops)
          else .error (.error (expected .invalidChannel)) (c.finalize.afterOps f ops) := by
  refine ⟨fun k id hk => ?_, allocated_nodup hr, ?_⟩
  · have hraw := allocated_raw hr hk
    exact ⟨fun h0 => by rw [h0, UInt32.toNat_zero] at hraw; omega, hraw⟩
  · intro B B' _ _ f start p q c done c' setup handles hp hp' hq hq' hissuer hcp hc hcq ops id channel hh
    rw [Driver.channel_issued hissuer hc ops hh]
    have hsame : c'.driverId = c.driverId ↔ p = q := by
      constructor
      · intro he
        rw [he] at hcp
        exact allocated_inj hr hcp hcq ⟨hp, hp'⟩ ⟨hq, hq'⟩
      · intro he
        rw [he, hcq] at hcp
        exact (Option.some.inj hcp).symm
    simp only [hsame]

/-- Two callers that both read 1; the second one's exchange fails twice. -/
def contending : List (Label Bool DriverId) :=
  [.loaded true, .loaded false, .took true ⟨1⟩, .changed false, .spurious false, .took false ⟨2⟩]

theorem contending_run : ∃ s, Run AllocateDriverId.Step (.init nextDriverId) contending s :=
  ⟨_, .snoc (.snoc (.snoc (.snoc (.snoc (.snoc (.nil _) (.load _ true rfl)) (.load _ false rfl))
    (.success _ true 1 rfl rfl)) (.changed _ false 1 rfl (by decide))) (.spurious _ false 2 rfl rfl))
    (.success _ false 2 rfl rfl)⟩

open TestSupport in
theorem driver_ids_contending :
    Driver.channel (handle 0) (pair.1.afterOps .default []) = .ok ⟨0⟩ (pair.1.afterOps .default []) ∧
      Driver.channel (handle 0) ((fresh ⟨2⟩).finalize.afterOps .default []) =
        .error (.error (expected .invalidChannel)) ((fresh ⟨2⟩).finalize.afterOps .default []) := by
  obtain ⟨s, hr⟩ := contending_run
  obtain ⟨c, hc, hd⟩ := pair_configured
  have hid : c.driverId = ⟨1⟩ := by
    have h : pair.1.driverId = ⟨1⟩ := by decide +kernel
    rwa [hd] at h
  refine ⟨?_, ?_⟩
  · rw [hd]
    exact (driver_ids hr).2.2 .default 0 0 0 c _ c pairSetup pair.2 (by omega) (by omega) (by omega) (by omega) hc
      (by rw [hid]; rfl) hc (by rw [hid]; rfl) [] ⟨0⟩ (handle 0) (by decide +kernel)
  · exact (driver_ids hr).2.2 .default 0 0 1 (fresh ⟨2⟩) none c pairSetup pair.2 (by omega) (by omega) (by omega)
      (by omega) hc (by rw [hid]; rfl) (fresh_configuring _) (by decide +kernel) [] ⟨0⟩ (handle 0) (by decide +kernel)

end Api

end LedWireDriver
