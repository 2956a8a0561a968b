/-
  LedWireDriver.Api.Setup — validated channel setups (`src/api/setup.rs`).

  `fromBindings` first collects the bindings into a vector of the driver's capacity, then
  checks them one by one against two tables of the identities seen so far. An iterator is a
  state `I` with its `next`; it may be unbounded. A `PreparedSetup` carries what the checks
  established.
-/

import Mathlib.Data.List.Nodup
import LedWireDriver.Model
import LedWireDriver.Lib.BoundedVec
import LedWireDriver.Lib.Fallible
import LedWireDriver.Lib.Words

namespace LedWireDriver.Api

open Fallible Words

structure PreparedBinding where
  logicalChannel : ChannelId
  backendChannel : BackendChannelId
  pixels : UInt16
  layout : PixelLayout
  deriving DecidableEq, Repr

abbrev PreparedBindings := BoundedVec PreparedBinding driverMaxChannels

inductive SetupBuildError where
  | capacityExceeded
  | invalidLogicalChannel
  | duplicateLogicalChannel
  | duplicateBackendChannel
  | invalidPixelCount
  | overflowingWireSize
  deriving DecidableEq, Repr

structure ValidBindings (bs : List PreparedBinding) : Prop where
  logical_lt : ∀ b ∈ bs, b.logicalChannel.asIndex < driverMaxChannels
  logical_nodup : (bs.map (·.logicalChannel)).Nodup
  backend_nodup : (bs.map (·.backendChannel)).Nodup
  pixels_ne : ∀ b ∈ bs, b.pixels ≠ 0

theorem ValidBindings.left {bs bs' : List PreparedBinding} (h : ValidBindings (bs ++ bs')) : ValidBindings bs := by
  obtain ⟨hl, hln, hbn, hp⟩ := h
  rw [List.map_append] at hln hbn
  exact ⟨fun b hb => hl b (List.mem_append_left _ hb), (List.nodup_append.mp hln).1, (List.nodup_append.mp hbn).1,
    fun b hb => hp b (List.mem_append_left _ hb)⟩

structure PreparedSetup where
  bindings : PreparedBindings
  valid : ValidBindings bindings.toList

/-- The identities bound so far. -/
structure Seen where
  logical : Vector Bool driverMaxChannels
  backend : Vector Bool BackendChannelId.cardinality

namespace PreparedSetup

def isEmpty (s : PreparedSetup) : Bool := s.bindings.toList.isEmpty

/-- The collection loop. -/
def collect {I : Type} (next : I → Option (PreparedBinding × I)) (bindings : I) (buf : PreparedBindings) :
    Except (Fault SetupBuildError) PreparedBindings :=
  match next bindings with
  | none => .ok buf
  | some (binding, bindings) =>
    match _h : buf.push binding with
    | none => .error (.error .capacityExceeded)
    | some buf => collect next bindings buf
termination_by driverMaxChannels - buf.toList.length
decreasing_by
  have := BoundedVec.length_of_push _h
  have := buf.length_le
  omega

/-- One turn of the validation loop. -/
def check (seen : Seen) (binding : PreparedBinding) : Except (Fault SetupBuildError) Seen := do
  rejectIf (driverMaxChannels ≤ binding.logicalChannel.asIndex) .invalidLogicalChannel
  let seenLogical ← index seen.logical binding.logicalChannel.asIndex
  rejectIf (seenLogical = true) .duplicateLogicalChannel
  let logical ← store seen.logical binding.logicalChannel.asIndex true
  let seenBackend ← index seen.backend binding.backendChannel.asIndex
  rejectIf (seenBackend = true) .duplicateBackendChannel
  let backend ← store seen.backend binding.backendChannel.asIndex true
  rejectIf (binding.pixels = 0) .invalidPixelCount
  let _wireBytes ← okOr (checkedMul binding.pixels.toUInt32 3) .overflowingWireSize
  pure ⟨logical, backend⟩

def seenNone : Seen := ⟨Vector.replicate _ false, Vector.replicate _ false⟩

/-! ## What a turn of the validation loop checks -/

/-- The first thing wrong with `b` after the bindings `pre`. -/
def faultAfter (pre : List PreparedBinding) (b : PreparedBinding) : Option SetupBuildError :=
  if driverMaxChannels ≤ b.logicalChannel.asIndex then some .invalidLogicalChannel
  else if b.logicalChannel ∈ pre.map (·.logicalChannel) then some .duplicateLogicalChannel
  else if b.backendChannel ∈ pre.map (·.backendChannel) then some .duplicateBackendChannel
  else if b.pixels = 0 then some .invalidPixelCount
  else none

/-- The tables hold exactly the identities of `pre`. -/
structure Records (seen : Seen) (pre : List PreparedBinding) : Prop where
  logical : ∀ (c : ChannelId) (h : c.asIndex < driverMaxChannels),
    seen.logical[c.asIndex] = true ↔ c ∈ pre.map (·.logicalChannel)
  backend : ∀ (c : BackendChannelId) (h : c.asIndex < BackendChannelId.cardinality),
    seen.backend[c.asIndex] = true ↔ c ∈ pre.map (·.backendChannel)

theorem records_none : Records seenNone [] := ⟨by simp [seenNone], by simp [seenNone]⟩

theorem wireBytes_some (pixels : UInt16) : checkedMul pixels.toUInt32 3 = some (pixels.toUInt32 * 3) := by
  apply checkedMul_some
  have := pixels.toNat_lt
  simp only [UInt16.toNat_toUInt32, UInt32.reduceToNat, UInt32.size]
  omega

theorem check_spec {seen : Seen} {pre : List PreparedBinding} (hs : Records seen pre) (b : PreparedBinding) :
    match faultAfter pre b with
    | some e => check seen b = .error (.error e)
    | none => ∃ seen', check seen b = .ok seen' ∧ Records seen' (pre ++ [b]) := by
  unfold faultAfter check
  by_cases hl : driverMaxChannels ≤ b.logicalChannel.asIndex
  · simp only [if_pos hl, rejectIf_pos hl, error_bind]
  have hl' : b.logicalChannel.asIndex < driverMaxChannels := by omega
  simp only [if_neg hl, rejectIf_neg hl, index_ok _ hl', store_ok _ _ hl', ok_bind]
  by_cases hd : b.logicalChannel ∈ pre.map (·.logicalChannel)
  · simp only [if_pos hd, rejectIf_pos ((hs.logical _ hl').mpr hd), error_bind]
  have hb' := b.backendChannel.asIndex_lt
  simp only [if_neg hd, rejectIf_neg (mt (hs.logical _ hl').mp hd), index_ok _ hb', store_ok _ _ hb', ok_bind]
  by_cases hdb : b.backendChannel ∈ pre.map (·.backendChannel)
  · simp only [if_pos hdb, rejectIf_pos ((hs.backend _ hb').mpr hdb), error_bind]
  simp only [if_neg hdb, rejectIf_neg (mt (hs.backend _ hb').mp hdb), ok_bind]
  by_cases hp : b.pixels = 0
  · simp only [if_pos hp, rejectIf_pos hp, error_bind]
  simp only [if_neg hp, rejectIf_neg hp, wireBytes_some, okOr, ok_bind]
  refine ⟨_, rfl, fun c hc => ?_, fun c hc => ?_⟩
  · rw [Vector.getElem_set, List.map_append, List.mem_append]
    split
    · rename_i e
      simp [ChannelId.asIndex_injective e]
    · rename_i e
      have : c ≠ b.logicalChannel := fun h => e (by rw [h])
      simp only [hs.logical c hc, List.map_cons, List.map_nil, List.mem_singleton, this, or_false]
  · rw [Vector.getElem_set, List.map_append, List.mem_append]
    split
    · rename_i e
      simp [BackendChannelId.asIndex_injective e]
    · rename_i e
      have : c ≠ b.backendChannel := fun h => e (by rw [h])
      simp only [hs.backend c hc, List.map_cons, List.map_nil, List.mem_singleton, this, or_false]

theorem valid_nil : ValidBindings [] := ⟨by simp, by simp, by simp, by simp⟩

theorem valid_snoc {pre : List PreparedBinding} {b : PreparedBinding} (hv : ValidBindings pre)
    (hf : faultAfter pre b = none) : ValidBindings (pre ++ [b]) := by
  unfold faultAfter at hf
  split at hf
  · cases hf
  split at hf
  · cases hf
  split at hf
  · cases hf
  split at hf
  · cases hf
  rename_i hl hd hb hp
  refine ⟨?_, ?_, ?_, ?_⟩
  · simpa [or_imp, forall_and] using ⟨hv.logical_lt, by omega⟩
  · rw [List.map_append, List.nodup_append]
    refine ⟨hv.logical_nodup, by simp, fun x hx y hy e => hd ?_⟩
    obtain rfl : y = b.logicalChannel := by simpa using hy
    exact e ▸ hx
  · rw [List.map_append, List.nodup_append]
    refine ⟨hv.backend_nodup, by simp, fun x hx y hy e => hb ?_⟩
    obtain rfl : y = b.backendChannel := by simpa using hy
    exact e ▸ hx
  · simpa [or_imp, forall_and] using ⟨hv.pixels_ne, hp⟩

theorem check_records {pre : List PreparedBinding} {seen seen' : Seen} {b : PreparedBinding}
    (h : Records seen pre ∧ ValidBindings pre) (hc : check seen b = .ok seen') :
    Records seen' (pre ++ [b]) ∧ ValidBindings (pre ++ [b]) := by
  have hspec := check_spec h.1 b
  cases hf : faultAfter pre b with
  | some e =>
    rw [hf, hc] at hspec
    cases hspec
  | none =>
    rw [hf, hc] at hspec
    obtain ⟨_, heq, hr⟩ := hspec
    cases heq
    exact ⟨hr, valid_snoc h.2 hf⟩

/-- The validation loop gets through a valid list, or stops at the first fault. -/
theorem validate (bs : List PreparedBinding) :
    (∃ seen, bs.foldlM check seenNone = .ok seen ∧ Records seen bs ∧ ValidBindings bs) ∨
    ∃ pre b post e, bs = pre ++ b :: post ∧ ValidBindings pre ∧ faultAfter pre b = some e ∧
      bs.foldlM check seenNone = .error (.error e) := by
  rcases foldlM_prefix (fun pre seen => Records seen pre ∧ ValidBindings pre) (fun _ _ _ _ => check_records)
    ⟨records_none, valid_nil⟩ bs with h | ⟨pre, b, post, seen, e, hbs, ⟨hr, hv⟩, he, hbad⟩
  · exact Or.inl h
  · have hspec := check_spec hr b
    cases hf : faultAfter pre b with
    | some fault =>
      rw [List.nil_append, hf, he] at hspec
      cases hspec
      exact Or.inr ⟨pre, b, post, fault, hbs, hv, hf, hbad⟩
    | none =>
      rw [List.nil_append, hf, he] at hspec
      obtain ⟨_, heq, _⟩ := hspec
      cases heq

/-- What the loop accepts is valid. -/
theorem valid_of_check {bs : List PreparedBinding} {seen : Seen} (h : bs.foldlM check seenNone = .ok seen) :
    ValidBindings bs := by
  rcases validate bs with ⟨_, _, _, hv⟩ | ⟨_, _, _, _, _, _, _, hbad⟩
  · exact hv
  · cases h.symm.trans hbad

/-- Validates a binding list and produces an immutable prepared setup. -/
def fromBindings {I : Type} (next : I → Option (PreparedBinding × I)) (bindings : I) :
    Except (Fault SetupBuildError) PreparedSetup := do
  let buf ← collect next bindings .empty
  match h : buf.toList.foldlM check seenNone with
  | .ok _ => pure ⟨buf, valid_of_check h⟩
  | .error e => throw e

end PreparedSetup

end LedWireDriver.Api
