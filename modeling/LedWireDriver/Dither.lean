/-
  LedWireDriver.Dither — what the dither policies do to light.

  The spatial Bayer quantizer is an ordered dither of the value in quarters of a byte step,
  capped at 255 (`bayer_byte`). So over any 64 pixels in a row it emits the value rounded up
  to a multiple of 4, and the temporal offsets, multiples of 4 that cancel over four frames,
  take nothing away and add nothing (`bayer_conserves`).
-/

import Mathlib.Algebra.Order.Floor.Div
import Mathlib.GroupTheory.GroupAction.Ring
import LedWireDriver.Image
import LedWireDriver.Phase
import LedWireDriver.Lib.OrderedDither

namespace LedWireDriver.Pack

open OrderedDither

/-! ## Quantizers -/

/-- The entries of `threshold8x8` are `1024` times the ranks of its cells. -/
def bayerMap : ThresholdMap 64 where
  rank k := ⟨(threshold8x8.get k).toNat / 1024, by have := (threshold8x8.get k).toNat_lt; omega⟩
  injective := by decide +kernel

theorem threshold_eq : ∀ k, (threshold8x8.get k).toNat = 1024 * (bayerMap.rank k).val := by
  decide +kernel

theorem base_toNat (v : UInt16) : (v >>> 8).toUInt8.toNat = v.toNat / 256 := by
  have := v.toNat_lt
  rw [UInt16.toNat_toUInt8, UInt16.toNat_shiftRight, Nat.shiftRight_eq_div_pow]
  show v.toNat / 256 % 256 = _
  omega

theorem fraction_toNat (v : UInt16) : ((v &&& 0x00FF) <<< 8).toNat = 256 * (v.toNat % 256) := by
  rw [UInt16.toNat_shiftLeft, UInt16.toNat_and, Nat.shiftLeft_eq]
  show (v.toNat &&& 2 ^ 8 - 1) * 256 % 65536 = _
  rw [Nat.and_two_pow_sub_one_eq_mod]
  omega

theorem none_byte (q : NoSpatialQuantizer) (v : UInt16) (i : Nat) :
    (SpatialQuantizer.quantize q v i).1.toNat = v.toNat / 256 :=
  base_toNat v

theorem bayer_byte (q : SpatialBayerQuantizer) (v : UInt16) (i : Nat) :
    (SpatialQuantizer.quantize q v i).1.toNat = min 255 (dither bayerMap (v.toNat ⌈/⌉ 4) i) := by
  have hbase := base_toNat v
  have hthreshold := threshold_eq (Fin.ofNat 64 i)
  have hrank := (bayerMap.rank (Fin.ofNat 64 i)).isLt
  have hcarry : threshold8x8.get (Fin.ofNat 64 i) < (v &&& 0x00FF) <<< 8 ∧ (v >>> 8).toUInt8 < 255 ↔
      (bayerMap.rank (Fin.ofNat 64 i)).val * 4 < v.toNat % 256 ∧ v.toNat / 256 < 255 := by
    rw [UInt16.lt_iff_toNat_lt, UInt8.lt_iff_toNat_lt, fraction_toNat, hbase, hthreshold]
    show 1024 * _ < 256 * _ ∧ _ < 255 ↔ _
    omega
  have hv := v.toNat_lt
  show (if threshold8x8.get (Fin.ofNat 64 i) < (v &&& 0x00FF) <<< 8 ∧ (v >>> 8).toUInt8 < 255 then (v >>> 8).toUInt8 + 1
    else (v >>> 8).toUInt8).toNat = _
  rw [dither, Nat.ceilDiv_eq_add_pred_div]
  by_cases h : (bayerMap.rank (Fin.ofNat 64 i)).val * 4 < v.toNat % 256 ∧ v.toNat / 256 < 255
  · rw [if_pos (hcarry.mpr h), UInt8.toNat_add, hbase]
    show (_ + 1) % 256 = _
    split <;> omega
  · rw [if_neg (mt hcarry.mp h), hbase]
    split <;> omega

/-! ## Bytes -/

instance : Subsingleton SpatialBayerQuantizer := ⟨fun _ _ => rfl⟩

/-- A quantizer without state treats every pixel alike. -/
theorem wireByte_stateless {TD SQ : Type} [TemporalDither TD] [Inhabited TD] [SpatialQuantizer SQ] [Inhabited SQ]
    [Subsingleton SQ] (c : Component) (source : List Rgb48) (frame : FrameEpoch) (color : Rgb48) (i : Nat) :
    wireByte TD SQ c source frame color i = if Black color then 0 else
      (SpatialQuantizer.quantize (default : SQ)
        (nudged (c.of color) (TemporalDither.offset (default : TD) frame)) i).1 := by
  dsimp only [wireByte, componentByte]
  rw [Subsingleton.elim (fed c _ default _) default]

theorem nudged_toNat (v : UInt16) (t : Int16) :
    (nudged v t).toNat = (max 0 (min 65535 ((v.toNat : Int) + t.toInt))).toNat :=
  UInt16.toNat_ofNat_of_lt (by show _ < 65536; omega)

theorem nudged_zero (v : UInt16) : nudged v 0 = v := by
  have := v.toNat_lt
  refine UInt16.toNat_inj.mp ((nudged_toNat v 0).trans ?_)
  rw [Int16.toInt_zero]
  omega

theorem Black.of_eq_zero {color : Rgb48} (h : Black color) (c : Component) : c.of color = 0 := by
  obtain ⟨hr, hg, hb⟩ := h
  cases c
  · exact hr
  · exact hg
  · exact hb

/-! ## Windows -/

/-- Component `c` has the value `v` in all 64 pixels from `start` on. -/
def Steady (source : List Rgb48) (c : Component) (v : UInt16) (start : Nat) : Prop :=
  ∀ i, start ≤ i → i < start + 64 → ∃ color, source[i]? = some color ∧ c.of color = v

/-- The wire bytes of component `c` in the 64 pixels from `start` on, added up. -/
def emitted (layout : PixelLayout) (c : Component) (start : Nat) (out : List UInt8) : Nat :=
  ∑ i ∈ Finset.Ico start (start + 64), (out.getD (3 * i + c.wireIndex layout) 0).toNat

section Window

variable {TD : Type} [TemporalDither TD] [Inhabited TD]
variable {source : List Rgb48} {layout : PixelLayout} {frame : FrameEpoch} {target out : List UInt8}
variable {c : Component} {v : UInt16} {start : Nat}

/-- Below the last byte step nothing is capped. -/
theorem dither_le_cap {w : Nat} (hw : w ≤ 0xFEFF) (i : Nat) : dither bayerMap (w ⌈/⌉ 4) i ≤ 255 := by
  rw [dither, Nat.ceilDiv_eq_add_pred_div]
  split <;> omega

/-- A window emits its nudged value in quarters, as long as a black pixel is meant to be black. -/
theorem emitted_eq (h : packIntoBytes TD SpatialBayerQuantizer source layout frame target = .ok ⟨⟩ out)
    (hsteady : Steady source c v start) {w : UInt16} (hw : nudged v (TemporalDither.offset (default : TD) frame) = w)
    (hblack : v = 0 → w = 0) (hcap : w.toNat ≤ 0xFEFF) : emitted layout c start out = w.toNat ⌈/⌉ 4 := by
  obtain ⟨hlen, himage⟩ := image_of_ok h
  rw [← sum_window bayerMap (w.toNat ⌈/⌉ 4) start]
  refine Finset.sum_congr rfl fun i hi => ?_
  obtain ⟨hlow, hhigh⟩ := Finset.mem_Ico.mp hi
  obtain ⟨color, hcolor, hv⟩ := hsteady i hlow hhigh
  have hle := dither_le_cap hcap i
  rw [List.getD_eq_getElem?_getD, himage.byte i color c hcolor, Option.getD_some, wireByte_stateless, hv, hw]
  by_cases hb : Black color
  · rw [if_pos hb, hblack (hv.symm.trans (hb.of_eq_zero c))]
    exact (dither_zero bayerMap i).symm
  · rw [if_neg hb, bayer_byte, min_eq_right hle]

theorem bayer_offset_le (td : TemporalBayerDither) (frame : FrameEpoch) :
    (TemporalDither.offset td frame).toInt ≤ 32 := by
  dsimp only [TemporalDither.offset]
  split <;> decide

/-- Four frames in a row take every offset once. -/
theorem sum_frames (g : Int16 → Nat) (frame : FrameEpoch) :
    ∑ k : Fin 4, g (TemporalDither.offset (default : TemporalBayerDither) (frame.wrappingAdd (UInt32.ofNat k.val))) =
      ∑ k, g (bayerOffsets.get k) := by
  rw [← sum_tiled (fun k => g (bayerOffsets.get k)) frame.raw.toNat, Finset.sum_Ico_eq_sum_range, Nat.add_sub_cancel_left,
    ← Fin.sum_univ_eq_sum_range fun k => g (bayerOffsets.get (Fin.ofNat 4 (frame.raw.toNat + k)))]
  refine Finset.sum_congr rfl fun k _ => congrArg g ?_
  have hepoch : frame.wrappingAdd (UInt32.ofNat k.val) = ⟨UInt32.ofNat (frame.raw.toNat + k.val)⟩ := by
    rw [FrameEpoch.wrappingAdd, UInt32.ofNat_add, UInt32.ofNat_toNat]
  rw [hepoch]
  exact bayer_offset default _

/-- Each offset is a multiple of the quantizer's step, and the four cancel. -/
theorem quarters_cancel {v : UInt16} (hlow : 32 ≤ v.toNat) (hcap : v.toNat ≤ 0xFEFF - 32) :
    (nudged v (bayerOffsets.get 0)).toNat ⌈/⌉ 4 + (nudged v (bayerOffsets.get 1)).toNat ⌈/⌉ 4 +
      (nudged v (bayerOffsets.get 2)).toNat ⌈/⌉ 4 + (nudged v (bayerOffsets.get 3)).toNat ⌈/⌉ 4 =
        4 * (v.toNat ⌈/⌉ 4) := by
  have hinside : ∀ t : Int16, -32 ≤ t.toInt → t.toInt ≤ 32 → ((nudged v t).toNat : Int) = v.toNat + t.toInt := by
    intro t hmin hmax
    rw [nudged_toNat]
    omega
  have h0 := hinside (bayerOffsets.get 0) (by decide) (by decide)
  have h1 := hinside (bayerOffsets.get 1) (by decide) (by decide)
  have h2 := hinside (bayerOffsets.get 2) (by decide) (by decide)
  have h3 := hinside (bayerOffsets.get 3) (by decide) (by decide)
  rw [show (bayerOffsets.get 0).toInt = -32 by decide] at h0
  rw [show (bayerOffsets.get 1).toInt = 32 by decide] at h1
  rw [show (bayerOffsets.get 2).toInt = -16 by decide] at h2
  rw [show (bayerOffsets.get 3).toInt = 16 by decide] at h3
  simp only [Nat.ceilDiv_eq_add_pred_div]
  omega

/-- Bayer dithering conserves light: over 64 pixels in one frame without temporal offsets, and
    over 64 pixels in four frames with them. -/
theorem bayer_conserves (source : List Rgb48) (layout : PixelLayout) (c : Component) (v : UInt16) (start : Nat)
    (hsteady : Steady source c v start) :
    (v.toNat ≤ 0xFEFF → ∀ frame target out,
      packIntoBytes NoTemporalDither SpatialBayerQuantizer source layout frame target = .ok ⟨⟩ out →
        emitted layout c start out = v.toNat ⌈/⌉ 4) ∧
    (32 ≤ v.toNat → v.toNat ≤ 0xFEFF - 32 → ∀ (frame : FrameEpoch) (target out : Fin 4 → List UInt8),
      (∀ k : Fin 4, packIntoBytes TemporalBayerDither SpatialBayerQuantizer source layout
        (frame.wrappingAdd (UInt32.ofNat k.val)) (target k) = .ok ⟨⟩ (out k)) →
        ∑ k, emitted layout c start (out k) = 4 * (v.toNat ⌈/⌉ 4)) := by
  refine ⟨fun hcap frame target out h => ?_, fun hlow hcap frame target out h => ?_⟩
  · exact emitted_eq h hsteady (nudged_zero v) id hcap
  · have hlevel : ∀ k : Fin 4, emitted layout c start (out k) =
        (nudged v (TemporalDither.offset (default : TemporalBayerDither)
          (frame.wrappingAdd (UInt32.ofNat k.val)))).toNat ⌈/⌉ 4 := by
      intro k
      have hle := bayer_offset_le default (frame.wrappingAdd (UInt32.ofNat k.val))
      refine emitted_eq (h k) hsteady rfl (fun h0 => ?_) ?_
      · subst h0
        exact absurd hlow (by decide)
      · rw [nudged_toNat]
        omega
    rw [Finset.sum_congr rfl fun k _ => hlevel k, sum_frames fun t => (nudged v t).toNat ⌈/⌉ 4, Fin.sum_univ_four]
    exact quarters_cancel hlow hcap

end Window

/-- A strip of one colour, packed at one frame and at the four around the wrap of the epoch. -/
theorem bayer_conserves_strip :
    let strip : List Rgb48 := List.replicate 65 ⟨102, 0, 7⟩
    let target : List UInt8 := List.replicate 195 0
    (∃ out, packIntoBytes NoTemporalDither SpatialBayerQuantizer strip .grb ⟨0⟩ target = .ok ⟨⟩ out ∧
      emitted .grb .r 1 out = 26) ∧
    ∃ out : Fin 4 → List UInt8, (∀ k : Fin 4, packIntoBytes TemporalBayerDither SpatialBayerQuantizer strip .grb
      (FrameEpoch.wrappingAdd ⟨0xFFFFFFFE⟩ (UInt32.ofNat k.val)) target = .ok ⟨⟩ (out k)) ∧
      ∑ k, emitted .grb .r 1 (out k) = 104 := by
  intro strip target
  have hlen : strip.length = target.length / 3 := by
    rw [List.length_replicate, List.length_replicate]
  obtain ⟨hframe, hframes⟩ := bayer_conserves strip .grb .r 102 1 fun i _ hi =>
    ⟨_, List.getElem?_replicate_of_lt (by omega), rfl⟩
  exact ⟨⟨_, packIntoBytes_ok hlen, hframe (by decide) _ _ _ (packIntoBytes_ok hlen)⟩,
    _, fun _ => packIntoBytes_ok hlen, hframes (by decide) (by decide) _ _ _ fun _ => packIntoBytes_ok hlen⟩

end LedWireDriver.Pack
