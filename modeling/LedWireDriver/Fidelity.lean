/-
  LedWireDriver.Fidelity — how close the wire is to what was asked for.

  Under every policy a byte is close to its component, and over the frames it moves by one
  step at most (`pack_steady`). Without temporal dithering 8-bit colours survive exactly: on
  them packing and `unpack` are inverse to each other (`pack_round_trip`). The dither tiles
  the strip and the frames: a strip may be packed in pieces of whole tiles, four frames
  later as well (`pack_tiles`).
-/

import LedWireDriver.Brightness

namespace LedWireDriver.Pack

open Fallible OrderedDither

/-! ## Levels -/

theorem cells_ne : NeZero 64 := ⟨by decide⟩

/-- What the quantizer makes of the value `v` at pixel `i`. -/
def level (f : Features) (v i : Nat) : Nat :=
  match f.sq with
  | .packSqNone => v / 256
  | .packSqBayer => min 255 (@dither 64 cells_ne bayerMap ((v + 3) / 4) i)

variable (f : Features)

theorem quantize_level (q : ActiveSpatialQuantizer f) (v : UInt16) (i : Nat) :
    (SpatialQuantizer.quantize q v i).1.toNat = level f v.toNat i := by
  obtain ⟨td, sq⟩ := f
  cases sq with
  | packSqNone => exact none_byte q v i
  | packSqBayer =>
    refine (bayer_byte q v i).trans ?_
    rw [Nat.ceilDiv_eq_add_pred_div]
    rfl

theorem level_near {v : Nat} (hv : v ≤ 65535) (i : Nat) :
    256 * level f v i ≤ v + 255 ∧ v ≤ 256 * level f v i + 255 := by
  unfold level
  cases f.sq with
  | packSqNone => dsimp only; omega
  | packSqBayer =>
    have hdither := dither_near bayerMap ((v + 3) / 4) i
    dsimp only
    omega

/-- A quarter of a byte step up moves the byte by one at most. -/
theorem level_step {v v' : Nat} (h : v ≤ v') (hstep : v' ≤ v + 64) (i : Nat) :
    level f v i ≤ level f v' i ∧ level f v' i ≤ level f v i + 1 := by
  unfold level
  cases f.sq with
  | packSqNone => dsimp only; omega
  | packSqBayer =>
    have hlow := dither_mono bayerMap (show (v + 3) / 4 ≤ (v' + 3) / 4 by omega) i
    have hhigh := dither_mono bayerMap (show (v' + 3) / 4 ≤ (v + 3) / 4 + 64 by omega) i
    rw [dither_add] at hhigh
    dsimp only
    omega

theorem level_tiled (v i k : Nat) : level f v (64 * k + i) = level f v i := by
  unfold level
  cases f.sq with
  | packSqNone => rfl
  | packSqBayer =>
    dsimp only
    rw [dither_tiled]

/-- An 8-bit value is kept. -/
theorem level_whole {b : Nat} (hb : b ≤ 255) (i : Nat) : level f (256 * b) i = b := by
  have hnear := level_near f (show 256 * b ≤ 65535 by omega) i
  omega

/-! ## Offsets -/

theorem bayer_offset_bounds (td : TemporalBayerDither) (frame : FrameEpoch) :
    -32 ≤ (TemporalDither.offset td frame).toInt ∧ (TemporalDither.offset td frame).toInt ≤ 32 := by
  dsimp only [TemporalDither.offset]
  split <;> decide

theorem bayer_offset_tiled (td : TemporalBayerDither) {frame frame' : FrameEpoch}
    (h : frame.raw.toNat % 4 = frame'.raw.toNat % 4) :
    TemporalDither.offset td frame = TemporalDither.offset td frame' := by
  have hmod : (frame.asU32 % 4).toNat = (frame'.asU32 % 4).toNat := by
    rw [UInt32.toNat_mod, UInt32.toNat_mod]
    exact h
  dsimp only [TemporalDither.offset]
  rw [hmod]

theorem active_offset_le (td : ActiveTemporalDither f) (frame : FrameEpoch) :
    -32 ≤ (TemporalDither.offset td frame).toInt ∧ (TemporalDither.offset td frame).toInt ≤ 32 := by
  obtain ⟨td', sq⟩ := f
  cases td' with
  | packTdNone =>
    show -32 ≤ (0 : Int16).toInt ∧ (0 : Int16).toInt ≤ 32
    decide
  | packTdBayer => exact bayer_offset_bounds td frame

/-- The offsets come round every four frames. -/
theorem active_offset_tiled (td : ActiveTemporalDither f) {frame frame' : FrameEpoch}
    (h : frame.raw.toNat % 4 = frame'.raw.toNat % 4) :
    TemporalDither.offset td frame = TemporalDither.offset td frame' := by
  obtain ⟨td', sq⟩ := f
  cases td' with
  | packTdNone => rfl
  | packTdBayer => exact bayer_offset_tiled td h

/-! ## Close and steady -/

theorem wireByte_level (c : Component) (source : List Rgb48) (frame : FrameEpoch) (color : Rgb48) (i : Nat) :
    (wireByte (ActiveTemporalDither f) (ActiveSpatialQuantizer f) c source frame color i).toNat =
      if Black color then 0 else
        level f (nudged (c.of color) (TemporalDither.offset (default : ActiveTemporalDither f) frame)).toNat i := by
  rw [wireByte_stateless]
  split
  · rfl
  · exact quantize_level f _ _ _

/-- At any two frames a byte is close to its component, and within one step of itself. -/
theorem pack_steady (source : List Rgb48) (layout : PixelLayout) (frame frame' : FrameEpoch)
    (target target' out out' : List UInt8)
    (h : packRgb48Active f source layout frame target = .ok ⟨⟩ out)
    (h' : packRgb48Active f source layout frame' target' = .ok ⟨⟩ out') :
    ∀ i color (c : Component), source[i]? = some color → ∃ byte byte', out[3 * i + c.wireIndex layout]? = some byte ∧
      out'[3 * i + c.wireIndex layout]? = some byte' ∧
      byte.toNat ≤ byte'.toNat + 1 ∧ byte'.toNat ≤ byte.toNat + 1 ∧
      256 * byte.toNat ≤ (c.of color).toNat + 287 ∧ (c.of color).toNat ≤ 256 * byte.toNat + 287 := by
  intro i color c hcolor
  refine ⟨_, _, (image_of_ok h).2.byte i color c hcolor, (image_of_ok h').2.byte i color c hcolor, ?_⟩
  rw [wireByte_level, wireByte_level]
  by_cases hb : Black color
  · rw [if_pos hb, if_pos hb, hb.of_eq_zero c]
    decide
  rw [if_neg hb, if_neg hb]
  have hv := (c.of color).toNat_lt
  have hoffset := active_offset_le f default frame
  have hoffset' := active_offset_le f default frame'
  have hnudged := nudged_toNat (c.of color) (TemporalDither.offset (default : ActiveTemporalDither f) frame)
  have hnudged' := nudged_toNat (c.of color) (TemporalDither.offset (default : ActiveTemporalDither f) frame')
  have hnear := level_near f (v := (nudged (c.of color) (TemporalDither.offset default frame)).toNat) (by omega) i
  rcases Nat.le_total (nudged (c.of color) (TemporalDither.offset (default : ActiveTemporalDither f) frame)).toNat
    (nudged (c.of color) (TemporalDither.offset (default : ActiveTemporalDither f) frame')).toNat with hle | hle
  · have hstep := level_step f hle (by omega) i
    omega
  · have hstep := level_step f hle (by omega) i
    omega

theorem pack_steady_pixel : ∃ byte byte' : UInt8, byte.toNat ≤ byte'.toNat + 1 ∧ byte'.toNat ≤ byte.toNat + 1 ∧
    256 * byte.toNat ≤ 800 + 287 ∧ 800 ≤ 256 * byte.toNat + 287 := by
  have hlen : ([⟨800, 0, 65535⟩] : List Rgb48).length = ([0, 0, 0] : List UInt8).length / 3 := by decide
  obtain ⟨byte, byte', -, -, h⟩ := pack_steady ⟨.packTdBayer, .packSqBayer⟩ [⟨800, 0, 65535⟩] .grb ⟨0⟩ ⟨1⟩ [0, 0, 0]
    [0, 0, 0] _ _ (packIntoBytes_ok hlen) (packIntoBytes_ok hlen) 0 _ .r rfl
  exact ⟨byte, byte', h⟩

/-! ## Round trips -/

/-- An 8-bit colour at 16 bits a component. -/
def widen (color : UInt8 × UInt8 × UInt8) : Rgb48 :=
  ⟨color.1.toUInt16 <<< 8, color.2.1.toUInt16 <<< 8, color.2.2.toUInt16 <<< 8⟩

theorem shifted_toNat (b : UInt8) : (b.toUInt16 <<< 8).toNat = 256 * b.toNat := by
  have := b.toNat_lt
  rw [UInt16.toNat_shiftLeft, Nat.shiftLeft_eq, UInt8.toNat_toUInt16]
  show b.toNat * 2 ^ 8 % 65536 = _
  omega

theorem wireByte_widen (hf : f.td = .packTdNone) (c : Component) (source : List Rgb48) (frame : FrameEpoch)
    (color : UInt8 × UInt8 × UInt8) (i : Nat) {b : UInt8} (hb : c.of (widen color) = b.toUInt16 <<< 8) :
    wireByte (ActiveTemporalDither f) (ActiveSpatialQuantizer f) c source frame (widen color) i = b := by
  refine UInt8.toNat_inj.mp ?_
  have hb' := b.toNat_lt
  rw [wireByte_level]
  by_cases hblack : Black (widen color)
  · have hzero := congrArg UInt16.toNat (hb.symm.trans (hblack.of_eq_zero c))
    rw [shifted_toNat, UInt16.toNat_zero] at hzero
    rw [if_pos hblack]
    omega
  · have hoffset : TemporalDither.offset (default : ActiveTemporalDither f) frame = 0 := by
      obtain ⟨td, sq⟩ := f
      cases hf
      rfl
    rw [if_neg hblack, hoffset, nudged_zero, hb, shifted_toNat, level_whole f (by omega)]

theorem wireColors_widen (hf : f.td = .packTdNone) (colors : List (UInt8 × UInt8 × UInt8)) (frame : FrameEpoch) :
    wireColors (ActiveTemporalDither f) (ActiveSpatialQuantizer f) (colors.map widen) frame = colors := by
  unfold wireColors
  refine List.ext_getElem (by simp) fun i hi hi' => ?_
  rw [List.getElem_map, List.getElem_zipIdx, List.getElem_map]
  dsimp only
  rw [wireByte_widen f hf .r _ _ _ _ rfl, wireByte_widen f hf .g _ _ _ _ rfl, wireByte_widen f hf .b _ _ _ _ rfl]

/-- Whole triplets are determined by their colours. -/
theorem unpack_injective (layout : PixelLayout) {bytes bytes' : List UInt8} (hlen : bytes.length = bytes'.length)
    (hwhole : bytes.length % 3 = 0) (h : unpack layout bytes = unpack layout bytes') : bytes = bytes' := by
  refine List.ext_getElem hlen fun j hj hj' => ?_
  obtain ⟨c, hc⟩ := (Component.place layout).surjective ⟨j % 3, Nat.mod_lt _ (by decide)⟩
  have hplace : c.wireIndex layout = j % 3 := congrArg Fin.val hc
  have hcolor := congrArg (·[j / 3]?) h
  unfold unpack at hcolor
  simp only [List.getElem?_map, List.getElem?_range (show j / 3 < bytes.length / 3 by omega),
    List.getElem?_range (show j / 3 < bytes'.length / 3 by omega), Option.map_some, Option.some.injEq,
    Prod.mk.injEq] at hcolor
  obtain ⟨hr, hg, hb⟩ := hcolor
  have hbyte : bytes.getD (3 * (j / 3) + c.wireIndex layout) 0 = bytes'.getD (3 * (j / 3) + c.wireIndex layout) 0 := by
    cases c
    · exact hr
    · exact hg
    · exact hb
  rw [hplace, Nat.div_add_mod, List.getD_eq_getElem?_getD, List.getD_eq_getElem?_getD, List.getElem?_eq_getElem hj,
    List.getElem?_eq_getElem hj'] at hbyte
  exact hbyte

/-- Without temporal dithering 8-bit strips and wire images are the same thing: packing the one
    and unpacking the other are inverse. -/
theorem pack_round_trip (hf : f.td = .packTdNone) (layout : PixelLayout) (frame : FrameEpoch) (target : List UInt8) :
    (∀ colors : List (UInt8 × UInt8 × UInt8), target.length = 3 * colors.length → ∃ out,
      packRgb48Active f (colors.map widen) layout frame target = .ok ⟨⟩ out ∧ unpack layout out = colors) ∧
    ∀ bytes : List UInt8, bytes.length = target.length → bytes.length % 3 = 0 →
      packRgb48Active f ((unpack layout bytes).map widen) layout frame target = .ok ⟨⟩ bytes := by
  have hpack : ∀ colors : List (UInt8 × UInt8 × UInt8), target.length = 3 * colors.length → ∃ out,
      packRgb48Active f (colors.map widen) layout frame target = .ok ⟨⟩ out ∧ unpack layout out = colors := by
    intro colors hlen
    have hpixels : (colors.map widen).length = target.length / 3 := by
      rw [List.length_map]
      omega
    have hok : packRgb48Active f (colors.map widen) layout frame target = .ok ⟨⟩ _ := packIntoBytes_ok hpixels
    refine ⟨_, hok, ?_⟩
    rw [(image_of_ok hok).2.unpack_eq hpixels, wireColors_widen f hf]
  refine ⟨hpack, fun bytes hlen hwhole => ?_⟩
  have hcolors : (unpack layout bytes).length = bytes.length / 3 := by
    rw [unpack, List.length_map, List.length_range]
  obtain ⟨out, hok, hout⟩ := hpack (unpack layout bytes) (by omega)
  have hlength := (image_of_ok hok).2.length
  rw [unpack_injective layout (by omega) (by omega) hout] at hok
  exact hok

theorem pack_round_trip_strip :
    packRgb48Active ⟨.packTdNone, .packSqBayer⟩ ((unpack .brg [1, 2, 3, 0, 0, 0, 255, 0, 128]).map widen) .brg ⟨7⟩
      [9, 9, 9, 9, 9, 9, 9, 9, 9] = .ok ⟨⟩ [1, 2, 3, 0, 0, 0, 255, 0, 128] :=
  (pack_round_trip ⟨.packTdNone, .packSqBayer⟩ rfl .brg ⟨7⟩ _).2 _ rfl rfl

/-! ## Tiles -/

section Loop

variable {SQ : Type} [SpatialQuantizer SQ] [Subsingleton SQ] (rIndex gIndex bIndex : Nat) (tNudge : Int16)

/-- Without state in the quantizers the loop may stop at any pixel and go on from there. -/
theorem packLoop_append (qr qg qb : SQ) (index : Nat) (source source' : List Rgb48) (target target' : List UInt8)
    (h : target.length = 3 * source.length) :
    packLoop rIndex gIndex bIndex tNudge index qr qg qb (source ++ source') (target ++ target') =
      packLoop rIndex gIndex bIndex tNudge index qr qg qb source target ++
        packLoop rIndex gIndex bIndex tNudge (index + source.length) qr qg qb source' target' := by
  induction source generalizing index target with
  | nil =>
    rw [List.eq_nil_of_length_eq_zero h]
    simp [packLoop]
  | cons color source ih =>
    rw [List.length_cons] at h
    obtain ⟨x, y, z, target, rfl⟩ := exists_triplet (show 3 ≤ target.length by omega)
    simp only [List.length_cons] at h
    have hrest := ih (index + 1) target (by omega)
    rw [List.length_cons, ← Nat.add_assoc, Nat.add_right_comm]
    simp only [List.cons_append, packLoop]
    split
    · rw [hrest]
      rfl
    · rw [Subsingleton.elim (SpatialQuantizer.quantize qr _ _).2 qr, Subsingleton.elim (SpatialQuantizer.quantize qg _ _).2 qg,
        Subsingleton.elim (SpatialQuantizer.quantize qb _ _).2 qb, hrest, List.append_assoc]

/-- A quantizer that tiles the pixels does not see which tile it is on. -/
theorem packLoop_shift {shift : Nat}
    (hshift : ∀ (q : SQ) v i, (SpatialQuantizer.quantize q v (shift + i)).1 = (SpatialQuantizer.quantize q v i).1)
    (qr qg qb : SQ) (index : Nat) (source : List Rgb48) (target : List UInt8) :
    packLoop rIndex gIndex bIndex tNudge (shift + index) qr qg qb source target =
      packLoop rIndex gIndex bIndex tNudge index qr qg qb source target := by
  induction source generalizing index target with
  | nil => simp [packLoop]
  | cons color source ih =>
    rcases target with _ | ⟨x, _ | ⟨y, _ | ⟨z, target⟩⟩⟩
    · simp [packLoop]
    · simp [packLoop]
    · simp [packLoop]
    · simp only [packLoop, hshift]
      rw [Nat.add_assoc, ih]
      simp only [Subsingleton.elim (SpatialQuantizer.quantize qr _ _).2 qr,
        Subsingleton.elim (SpatialQuantizer.quantize qg _ _).2 qg,
        Subsingleton.elim (SpatialQuantizer.quantize qb _ _).2 qb, ih]

end Loop

theorem quantize_tiled (q : ActiveSpatialQuantizer f) (v : UInt16) (k i : Nat) :
    (SpatialQuantizer.quantize q v (64 * k + i)).1 = (SpatialQuantizer.quantize q v i).1 := by
  refine UInt8.toNat_inj.mp ?_
  rw [quantize_level, quantize_level, level_tiled]

/-- A strip cut at whole tiles packs piece by piece, and as it did any number of four frames
    ago. -/
theorem pack_tiles (source source' : List Rgb48) (layout : PixelLayout) (frame frame' : FrameEpoch)
    (target target' out out' : List UInt8) (htile : 64 ∣ source.length) (hwhole : target.length % 3 = 0)
    (hframe : frame.raw.toNat % 4 = frame'.raw.toNat % 4)
    (h : packRgb48Active f source layout frame target = .ok ⟨⟩ out)
    (h' : packRgb48Active f source' layout frame target' = .ok ⟨⟩ out') :
    packRgb48Active f (source ++ source') layout frame' (target ++ target') = .ok ⟨⟩ (out ++ out') := by
  have hlen := (image_of_ok h).1
  have hlen' := (image_of_ok h').1
  unfold packRgb48Active at h h' ⊢
  rw [packIntoBytes_ok hlen] at h
  rw [packIntoBytes_ok hlen'] at h'
  cases h
  cases h'
  rw [packIntoBytes_ok (by rw [List.length_append, List.length_append]; omega)]
  obtain ⟨k, hk⟩ := htile
  unfold packKernel
  rw [packLoop_append _ _ _ _ _ _ _ _ _ _ _ _ (show target.length = 3 * source.length by omega), hk,
    Nat.zero_add, ← Nat.add_zero (64 * k), packLoop_shift _ _ _ _ fun q v i => quantize_tiled f q v k i,
    active_offset_tiled f default hframe]

/-- A tile and two pixels more, packed four frames later. -/
theorem pack_tiles_strip :
    let tile : List Rgb48 := List.replicate 64 ⟨100, 2, 3⟩
    let tail : List Rgb48 := [⟨4, 5, 6⟩, ⟨0, 0, 0⟩]
    ∃ out out' : List UInt8, packRgb48Active ⟨.packTdBayer, .packSqBayer⟩ (tile ++ tail) .grb ⟨5⟩
      (List.replicate 192 0 ++ [0, 0, 0, 0, 0, 0]) = .ok ⟨⟩ (out ++ out') := by
  intro tile tail
  have htile : tile.length = 64 := List.length_replicate
  have htarget : (List.replicate 192 (0 : UInt8)).length = 192 := List.length_replicate
  exact ⟨_, _, pack_tiles _ tile tail .grb ⟨1⟩ ⟨5⟩ _ [0, 0, 0, 0, 0, 0] _ _ ⟨1, htile⟩ (by rw [htarget]) (by decide)
    (packIntoBytes_ok (by rw [htile, htarget])) (packIntoBytes_ok rfl)⟩

end LedWireDriver.Pack
