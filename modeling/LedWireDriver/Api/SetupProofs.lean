/-
  LedWireDriver.Api.SetupProofs — which bindings make a setup.

  Whatever the iterator, `fromBindings` is decided by its first nine items, which are all it
  pulls (`from_bindings_decided`): too many of them, the first fault among them, or a setup
  of exactly them.
-/

import LedWireDriver.Api.Setup

namespace LedWireDriver.Api.PreparedSetup

open Fallible

/-! ## Faults -/

theorem faultAfter_none_iff {pre : List PreparedBinding} (hv : ValidBindings pre) (b : PreparedBinding) :
    faultAfter pre b = none ↔ ValidBindings (pre ++ [b]) := by
  refine ⟨valid_snoc hv, fun h => ?_⟩
  obtain ⟨hl, hln, hbn, hp⟩ := h
  have hb : b ∈ pre ++ [b] := List.mem_append_right _ (List.mem_singleton_self b)
  rw [List.map_append, List.nodup_append] at hln hbn
  have hd : b.logicalChannel ∉ pre.map (·.logicalChannel) := fun hm => hln.2.2 _ hm _ (List.mem_singleton_self _) rfl
  have hdb : b.backendChannel ∉ pre.map (·.backendChannel) := fun hm => hbn.2.2 _ hm _ (List.mem_singleton_self _) rfl
  rw [faultAfter, if_neg (Nat.not_le.mpr (hl b hb)), if_neg hd, if_neg hdb, if_neg (hp b hb)]

/-- `e` is what is wrong with the first binding that makes its prefix invalid. -/
def FirstFault (bs : List PreparedBinding) (e : SetupBuildError) : Prop :=
  ∃ pre b post, bs = pre ++ b :: post ∧ ValidBindings pre ∧ ¬ValidBindings (pre ++ [b]) ∧ faultAfter pre b = some e

theorem FirstFault.not_valid {bs : List PreparedBinding} {e : SetupBuildError} (h : FirstFault bs e) :
    ¬ValidBindings bs := by
  obtain ⟨pre, b, post, rfl, -, hbad, -⟩ := h
  intro hv
  rw [← List.singleton_append, ← List.append_assoc] at hv
  exact hbad hv.left

/-- Faults of a binding are about the binding. -/
theorem faultAfter_kind {pre : List PreparedBinding} {b : PreparedBinding} {e : SetupBuildError}
    (h : faultAfter pre b = some e) : e ≠ .capacityExceeded ∧ e ≠ .overflowingWireSize := by
  unfold faultAfter at h
  repeat' split at h
  all_goals cases h
  all_goals exact ⟨by decide, by decide⟩

theorem validate_valid {bs : List PreparedBinding} (hv : ValidBindings bs) :
    ∃ seen, bs.foldlM check seenNone = .ok seen ∧ Records seen bs := by
  rcases validate bs with ⟨seen, hok, hr, -⟩ | ⟨pre, b, post, e, rfl, hpre, hf, -⟩
  · exact ⟨seen, hok, hr⟩
  · have hbad : FirstFault (pre ++ b :: post) e :=
      ⟨pre, b, post, rfl, hpre, fun h => by simp [(faultAfter_none_iff hpre b).mpr h] at hf, hf⟩
    exact absurd hv hbad.not_valid

theorem validate_fault {bs : List PreparedBinding} {e : SetupBuildError} (h : FirstFault bs e) :
    bs.foldlM check seenNone = .error (.error e) := by
  obtain ⟨pre, b, post, rfl, hpre, -, hf⟩ := h
  obtain ⟨seen, hok, hr⟩ := validate_valid hpre
  have hspec := check_spec hr b
  rw [hf] at hspec
  rw [List.foldlM_append, hok, ok_bind, List.foldlM_cons, hspec, error_bind]

theorem exists_firstFault {bs : List PreparedBinding} (h : ¬ValidBindings bs) : ∃ e, FirstFault bs e := by
  rcases validate bs with ⟨_, _, _, hv⟩ | ⟨pre, b, post, e, hbs, hpre, hf, -⟩
  · exact absurd hv h
  · exact ⟨e, pre, b, post, hbs, hpre, fun hv => by simp [(faultAfter_none_iff hpre b).mpr hv] at hf, hf⟩

/-! ## Collection -/

section Collection

variable {I : Type} (next : I → Option (PreparedBinding × I))

/-- The next `n` items, fewer if the iterator ends before, and the iterator after them. -/
def pulled : Nat → I → List PreparedBinding × I
  | 0, bindings => ([], bindings)
  | n + 1, bindings =>
    match next bindings with
    | none => ([], bindings)
    | some (binding, bindings) => (binding :: (pulled n bindings).1, (pulled n bindings).2)

/-- `collect`, with the iterator as the loop leaves it. -/
def collectRest (bindings : I) (buf : PreparedBindings) : Except (Fault SetupBuildError) PreparedBindings × I :=
  match next bindings with
  | none => (.ok buf, bindings)
  | some (binding, bindings) =>
    match _h : buf.push binding with
    | none => (.error (.error .capacityExceeded), bindings)
    | some buf => collectRest bindings buf
termination_by driverMaxChannels - buf.toList.length
decreasing_by
  have := BoundedVec.length_of_push _h
  have := buf.length_le
  omega

theorem pulled_length_le (n : Nat) (bindings : I) : (pulled next n bindings).1.length ≤ n := by
  induction n generalizing bindings with
  | zero => exact Nat.le_refl 0
  | succ n ih =>
    rw [pulled]
    split
    · exact Nat.zero_le _
    · exact Nat.succ_le_succ (ih _)

/-- Fewer items than asked for are all there are. -/
theorem pulled_ended {n m : Nat} {bindings : I} (h : (pulled next n bindings).1.length < n) (hm : n ≤ m) :
    pulled next m bindings = pulled next n bindings := by
  induction n generalizing bindings m with
  | zero => exact absurd h (Nat.not_lt_zero _)
  | succ n ih =>
    obtain ⟨m, rfl⟩ : ∃ k, m = k + 1 := ⟨m - 1, by omega⟩
    rw [pulled] at h ⊢
    rw [pulled]
    cases hnext : next bindings with
    | none => rfl
    | some item =>
      obtain ⟨binding, rest⟩ := item
      rw [hnext] at h
      simp only [List.length_cons] at h ⊢
      rw [ih (by omega) (by omega)]

section Item

variable {bindings rest : I} {binding : PreparedBinding} (h : next bindings = some (binding, rest)) (buf : PreparedBindings)

include h

theorem collect_item : collect next bindings buf =
    (buf.push binding).elim (.error (.error .capacityExceeded)) (collect next rest) := by
  rw [collect, h]
  dsimp only
  split
  · rename_i hpush
    rw [hpush]
    rfl
  · rename_i hpush
    rw [hpush]
    rfl

theorem collectRest_item : collectRest next bindings buf =
    (buf.push binding).elim (.error (.error .capacityExceeded), rest) (collectRest next rest) := by
  rw [collectRest, h]
  dsimp only
  split
  · rename_i hpush
    rw [hpush]
    rfl
  · rename_i hpush
    rw [hpush]
    rfl

end Item

/-- With room for `room` more bindings the loop pulls one more than that at most. -/
theorem collect_spec (bindings : I) (buf : PreparedBindings) (room : Nat)
    (hroom : buf.toList.length + room = driverMaxChannels) :
    collectRest next bindings buf = (collect next bindings buf, (pulled next (room + 1) bindings).2) ∧
    ((pulled next (room + 1) bindings).1.length ≤ room → ∃ buf' : PreparedBindings,
      collect next bindings buf = .ok buf' ∧ buf'.toList = buf.toList ++ (pulled next (room + 1) bindings).1) ∧
    (room < (pulled next (room + 1) bindings).1.length →
      collect next bindings buf = .error (.error .capacityExceeded)) := by
  induction room generalizing bindings buf with
  | zero =>
    cases hnext : next bindings with
    | none =>
      rw [collect, collectRest, pulled, hnext]
      exact ⟨rfl, fun _ => ⟨buf, rfl, (List.append_nil _).symm⟩, fun h => absurd h (Nat.not_lt_zero _)⟩
    | some item =>
      obtain ⟨binding, rest⟩ := item
      rw [collect_item next hnext, collectRest_item next hnext, BoundedVec.push_none hroom binding, pulled, hnext]
      exact ⟨rfl, fun h => absurd h (Nat.not_succ_le_zero _), fun _ => rfl⟩
  | succ room ih =>
    cases hnext : next bindings with
    | none =>
      rw [collect, collectRest, pulled, hnext]
      exact ⟨rfl, fun _ => ⟨buf, rfl, (List.append_nil _).symm⟩, fun h => absurd h (Nat.not_lt_zero _)⟩
    | some item =>
      obtain ⟨binding, rest⟩ := item
      obtain ⟨buf', hpush, hbuf'⟩ := BoundedVec.push_some (v := buf) (by omega) binding
      have hlen := BoundedVec.length_of_push hpush
      obtain ⟨ihrest, ihok, ihfull⟩ := ih rest buf' (by omega)
      rw [collect_item next hnext, collectRest_item next hnext, hpush, pulled, hnext]
      dsimp only [Option.elim_some]
      rw [List.length_cons]
      refine ⟨ihrest, fun h => ?_, fun h => ihfull (by omega)⟩
      obtain ⟨out, hok, hout⟩ := ihok (by omega)
      exact ⟨out, hok, by rw [hout, hbuf', List.append_assoc, List.singleton_append]⟩

end Collection

/-! ## Setups -/

section Setups

variable {I : Type} {next : I → Option (PreparedBinding × I)} {bindings : I} {buf : PreparedBindings}

theorem fromBindings_overfull {e : Fault SetupBuildError} (h : collect next bindings .empty = .error e) :
    fromBindings next bindings = .error e := by
  rw [fromBindings, h, error_bind]

theorem fromBindings_valid (h : collect next bindings .empty = .ok buf) (hv : ValidBindings buf.toList) :
    fromBindings next bindings = .ok ⟨buf, hv⟩ := by
  obtain ⟨seen, hok, -⟩ := validate_valid hv
  rw [fromBindings, h, ok_bind]
  split
  · rfl
  · rename_i e
    cases hok.symm.trans e

theorem fromBindings_fault {e : SetupBuildError} (h : collect next bindings .empty = .ok buf)
    (hf : FirstFault buf.toList e) : fromBindings next bindings = .error (.error e) := by
  have hbad := validate_fault hf
  rw [fromBindings, h, ok_bind]
  split
  · rename_i hok
    cases hbad.symm.trans hok
  · rename_i hbad'
    cases hbad.symm.trans hbad'
    rfl

/-- What `fromBindings` does with an iterator that has the items `bs` up to the ninth. -/
structure Decided (next : I → Option (PreparedBinding × I)) (bindings : I) (bs : List PreparedBinding) : Prop where
  accepts : (∃ setup, fromBindings next bindings = .ok setup) ↔ bs.length ≤ driverMaxChannels ∧ ValidBindings bs
  inOrder : ∀ setup, fromBindings next bindings = .ok setup → setup.bindings.toList = bs
  capacity : fromBindings next bindings = .error (.error .capacityExceeded) ↔ driverMaxChannels < bs.length
  fault : bs.length ≤ driverMaxChannels → ∀ e, fromBindings next bindings = .error (.error e) ↔ FirstFault bs e
  wireSize : fromBindings next bindings ≠ .error (.error .overflowingWireSize)
  panic : fromBindings next bindings ≠ .error .panic
  few : bs.length ≤ driverMaxChannels + 1
  /-- Up to the capacity, these are all the items. -/
  whole : bs.length ≤ driverMaxChannels → ∀ n, driverMaxChannels < n → (pulled next n bindings).1 = bs
  /-- No item after these is pulled. -/
  consumed : collectRest next bindings .empty =
    (collect next bindings .empty, (pulled next (driverMaxChannels + 1) bindings).2)

variable (next bindings) in
theorem from_bindings_decided :
    Decided next bindings (pulled next (driverMaxChannels + 1) bindings).1 := by
  obtain ⟨hconsumed, hok, hfull⟩ := collect_spec next bindings .empty driverMaxChannels rfl
  have hwhole : (pulled next (driverMaxChannels + 1) bindings).1.length ≤ driverMaxChannels →
      ∀ n, driverMaxChannels < n → (pulled next n bindings).1 = (pulled next (driverMaxChannels + 1) bindings).1 := by
    intro hlen n hn
    rw [pulled_ended next (Nat.lt_succ_of_le hlen) hn]
  have hfew := pulled_length_le next (driverMaxChannels + 1) bindings
  generalize (pulled next (driverMaxChannels + 1) bindings).1 = bs at hok hfull hwhole hfew
  by_cases hlen : driverMaxChannels < bs.length
  · have hres := fromBindings_overfull (hfull hlen)
    refine ⟨⟨fun h => ?_, fun h => absurd h.1 (Nat.not_le.mpr hlen)⟩, fun setup h => ?_, ⟨fun _ => hlen, fun _ => hres⟩,
      fun h => absurd h (Nat.not_le.mpr hlen), fun h => ?_, fun h => ?_, hfew, hwhole, hconsumed⟩
    · obtain ⟨setup, h⟩ := h
      cases hres.symm.trans h
    all_goals cases hres.symm.trans h
  have hle := Nat.not_lt.mp hlen
  obtain ⟨buf, hbuf, hlist⟩ := hok hle
  obtain rfl : buf.toList = bs := hlist
  by_cases hv : ValidBindings buf.toList
  · have hres := fromBindings_valid hbuf hv
    refine ⟨⟨fun _ => ⟨hle, hv⟩, fun _ => ⟨_, hres⟩⟩, fun setup h => ?_, ⟨fun h => ?_, fun h => absurd h hlen⟩,
      fun _ e => ⟨fun h => ?_, fun h => absurd hv h.not_valid⟩, fun h => ?_, fun h => ?_, hfew, hwhole, hconsumed⟩
    · cases hres.symm.trans h
      rfl
    all_goals cases hres.symm.trans h
  · obtain ⟨e, hf⟩ := exists_firstFault hv
    have hres := fromBindings_fault hbuf hf
    obtain ⟨pre, b, post, -, -, -, hfault⟩ := id hf
    obtain ⟨hcapacity, hwire⟩ := faultAfter_kind hfault
    refine ⟨⟨fun h => ?_, fun h => absurd h.2 hv⟩, fun setup h => ?_, ⟨fun h => ?_, fun h => absurd h hlen⟩,
      fun _ e' => ⟨fun h => ?_, fun h => fromBindings_fault hbuf h⟩, fun h => ?_, fun h => ?_, hfew, hwhole, hconsumed⟩
    · obtain ⟨setup, h⟩ := h
      cases hres.symm.trans h
    · cases hres.symm.trans h
    · cases hres.symm.trans h
      exact absurd rfl hcapacity
    · cases hres.symm.trans h
      exact hf
    · cases hres.symm.trans h
      exact absurd rfl hwire
    · cases hres.symm.trans h

end Setups

end LedWireDriver.Api.PreparedSetup
