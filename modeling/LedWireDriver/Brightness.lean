/-
  LedWireDriver.Brightness — the byte of one component as a function of its value.

  Under every policy the byte grows with the value, at each pixel and each frame, and a black
  pixel is below them all; so a brighter source packs to no smaller byte (`pack_mono`).
  A component that is off in a lit pixel is a value like any other: it keeps byte 0, unless
  the temporal offset lifts it and the spatial quantizer carries what is lifted (`off_byte`).
-/

import LedWireDriver.Dither

namespace LedWireDriver.Pack

open OrderedDither

section Active

variable (f : Features)

instance : (f : Features) → Subsingleton (ActiveSpatialQuantizer f)
  | ⟨_, .packSqNone⟩ => ⟨fun _ _ => rfl⟩
  | ⟨_, .packSqBayer⟩ => ⟨fun _ _ => rfl⟩

/-! ## Brighter -/

theorem nudged_mono {v v' : UInt16} (h : v ≤ v') (t : Int16) : nudged v t ≤ nudged v' t := by
  rw [UInt16.le_iff_toNat_le] at h ⊢
  rw [nudged_toNat, nudged_toNat]
  omega

theorem quantize_mono (q : ActiveSpatialQuantizer f) {v v' : UInt16} (h : v ≤ v') (i : Nat) :
    (SpatialQuantizer.quantize q v i).1 ≤ (SpatialQuantizer.quantize q v' i).1 := by
  obtain ⟨td, sq⟩ := f
  rw [UInt16.le_iff_toNat_le] at h
  rw [UInt8.le_iff_toNat_le]
  cases sq with
  | packSqNone =>
    have hbyte := none_byte q v i
    have hbyte' := none_byte q v' i
    have hle := Nat.div_le_div_right (c := 256) h
    exact (hbyte.trans_le hle).trans_eq hbyte'.symm
  | packSqBayer =>
    have hbyte := bayer_byte q v i
    have hbyte' := bayer_byte q v' i
    have hlevel : v.toNat ⌈/⌉ 4 ≤ v'.toNat ⌈/⌉ 4 := by
      rw [Nat.ceilDiv_eq_add_pred_div, Nat.ceilDiv_eq_add_pred_div]
      omega
    have hle := min_le_min_left 255 (dither_mono bayerMap hlevel i)
    exact (hbyte.trans_le hle).trans_eq hbyte'.symm

/-- Nothing is brighter than black but what is black itself. -/
theorem Black.of_le {color color' : Rgb48} (hle : ∀ c, Component.of c color ≤ Component.of c color')
    (h : Black color') : Black color := by
  have hzero : ∀ c, Component.of c color = 0 := by
    intro c
    have hc := hle c
    rw [h.of_eq_zero c] at hc
    exact UInt16.le_zero_iff.mp hc
  exact ⟨hzero .r, hzero .g, hzero .b⟩

theorem wireByte_mono (c : Component) (source source' : List Rgb48) (frame : FrameEpoch) {color color' : Rgb48}
    (hle : ∀ c, Component.of c color ≤ Component.of c color') (i : Nat) :
    wireByte (ActiveTemporalDither f) (ActiveSpatialQuantizer f) c source frame color i ≤
      wireByte (ActiveTemporalDither f) (ActiveSpatialQuantizer f) c source' frame color' i := by
  rw [wireByte_stateless, wireByte_stateless]
  by_cases hb : Black color
  · rw [if_pos hb]
    exact UInt8.zero_le
  · rw [if_neg hb, if_neg fun hb' => hb (hb'.of_le hle)]
    exact quantize_mono f default (nudged_mono (hle c) _) i

/-- No byte of the brighter source is below the other one's. -/
theorem pack_mono (source source' : List Rgb48) (layout : PixelLayout) (frame : FrameEpoch)
    (target target' out out' : List UInt8) (hlen : source.length = source'.length)
    (hle : ∀ (i : Nat) color color', source[i]? = some color → source'[i]? = some color' →
      ∀ c, Component.of c color ≤ Component.of c color')
    (h : packIntoBytes (ActiveTemporalDither f) (ActiveSpatialQuantizer f) source layout frame target = .ok ⟨⟩ out)
    (h' : packIntoBytes (ActiveTemporalDither f) (ActiveSpatialQuantizer f) source' layout frame target' =
      .ok ⟨⟩ out') :
    ∀ j < 3 * source.length, ∃ byte byte', out[j]? = some byte ∧ out'[j]? = some byte' ∧ byte ≤ byte' := by
  intro j hj
  obtain ⟨-, himage⟩ := image_of_ok h
  obtain ⟨-, himage'⟩ := image_of_ok h'
  obtain ⟨i, c, hi, rfl⟩ := himage.written j hj
  have hcolor := List.getElem?_eq_getElem hi
  have hcolor' := List.getElem?_eq_getElem (hlen ▸ hi)
  exact ⟨_, _, himage.byte i _ c hcolor, himage'.byte i _ c hcolor',
    wireByte_mono f c source source' frame (hle i _ _ hcolor hcolor') i⟩

end Active

/-- A black pixel against a lit one, and a pixel a step darker across each edge of the byte. -/
theorem pack_mono_step :
    let f : Features := ⟨.packTdBayer, .packSqBayer⟩
    ∃ out out', packIntoBytes (ActiveTemporalDither f) (ActiveSpatialQuantizer f) [⟨0, 0, 0⟩, ⟨32, 255, 65534⟩] .rgb ⟨1⟩
        [9, 9, 9, 9, 9, 9] = .ok ⟨⟩ out ∧
      packIntoBytes (ActiveTemporalDither f) (ActiveSpatialQuantizer f) [⟨0, 1, 0⟩, ⟨33, 256, 65535⟩] .rgb ⟨1⟩
        [9, 9, 9, 9, 9, 9] = .ok ⟨⟩ out' ∧
      ∀ j < 6, ∃ byte byte', out[j]? = some byte ∧ out'[j]? = some byte' ∧ byte ≤ byte' := by
  intro f
  refine ⟨_, _, packIntoBytes_ok rfl, packIntoBytes_ok rfl, pack_mono f [⟨0, 0, 0⟩, ⟨32, 255, 65534⟩]
    [⟨0, 1, 0⟩, ⟨33, 256, 65535⟩] .rgb ⟨1⟩ _ _ _ _ rfl ?_ (packIntoBytes_ok rfl) (packIntoBytes_ok rfl)⟩
  intro i color color' hcolor hcolor' c
  match i with
  | 0 => cases hcolor; cases hcolor'; cases c <;> decide
  | 1 => cases hcolor; cases hcolor'; cases c <;> decide
  | _ + 2 => cases hcolor

/-! ## Off -/

/-- The frames and pixels in which the two Bayer policies carry a component that is off. -/
def Glows (f : Features) (frame : FrameEpoch) (i : Nat) : Prop :=
  f.td = .packTdBayer ∧ f.sq = .packSqBayer ∧
    (frame.asU32 % 4 = 1 ∧ threshold8x8.get (Fin.ofNat 64 i) < 8192 ∨
      frame.asU32 % 4 = 3 ∧ threshold8x8.get (Fin.ofNat 64 i) < 4096)

instance (f : Features) (frame : FrameEpoch) (i : Nat) : Decidable (Glows f frame i) :=
  inferInstanceAs (Decidable (_ ∧ _))

/-- What the offset makes of zero. -/
theorem lifted (frame : FrameEpoch) :
    nudged 0 (TemporalDither.offset (default : TemporalBayerDither) frame) =
      if frame.asU32 % 4 = 1 then 32 else if frame.asU32 % 4 = 3 then 16 else 0 := by
  dsimp only [TemporalDither.offset]
  have hphase : frame.asU32 % 4 = 0 ∨ frame.asU32 % 4 = 1 ∨ frame.asU32 % 4 = 2 ∨ frame.asU32 % 4 = 3 := by
    simp only [← UInt32.toNat_inj, UInt32.toNat_mod]
    show _ % 4 = 0 ∨ _ % 4 = 1 ∨ _ % 4 = 2 ∨ _ % 4 = 3
    omega
  rcases hphase with h | h | h | h <;> rw [h] <;> decide

/-- Below one byte step a pixel shows its value as often as its threshold is under it. -/
theorem bayer_faint (q : SpatialBayerQuantizer) {v : UInt16} (hv : v.toNat < 256) (i : Nat) :
    (SpatialQuantizer.quantize q v i).1 =
      if (threshold8x8.get (Fin.ofNat 64 i)).toNat < 256 * v.toNat then 1 else 0 := by
  have hrank := (bayerMap.rank (Fin.ofNat 64 i)).isLt
  have hbyte := bayer_byte q v i
  rw [dither, Nat.ceilDiv_eq_add_pred_div] at hbyte
  refine UInt8.toNat_inj.mp (hbyte.trans ?_)
  rw [threshold_eq]
  by_cases hlit : 1024 * (bayerMap.rank (Fin.ofNat 64 i)).val < 256 * v.toNat
  · rw [if_pos hlit]
    show _ = 1
    split <;> omega
  · rw [if_neg hlit]
    show _ = 0
    split <;> omega

theorem none_faint (q : NoSpatialQuantizer) {v : UInt16} (hv : v.toNat < 256) (i : Nat) :
    (SpatialQuantizer.quantize q v i).1 = 0 := by
  refine UInt8.toNat_inj.mp ((none_byte q v i).trans ?_)
  show v.toNat / 256 = 0
  omega

theorem quantize_off (f : Features) (frame : FrameEpoch) (i : Nat) :
    (SpatialQuantizer.quantize (default : ActiveSpatialQuantizer f)
      (nudged 0 (TemporalDither.offset (default : ActiveTemporalDither f) frame)) i).1 =
        if Glows f frame i then 1 else 0 := by
  obtain ⟨td, sq⟩ := f
  cases td with
  | packTdNone =>
    rw [if_neg fun h => by cases h.1]
    refine (congrArg (fun v => (SpatialQuantizer.quantize _ v i).1) (nudged_zero 0)).trans ?_
    cases sq with
    | packSqNone => exact none_faint default (by decide : (0 : UInt16).toNat < 256) i
    | packSqBayer => exact (bayer_faint default (by decide : (0 : UInt16).toNat < 256) i).trans (if_neg (Nat.not_lt_zero _))
  | packTdBayer =>
    have hv : (if frame.asU32 % 4 = 1 then 32 else if frame.asU32 % 4 = 3 then 16 else 0 : UInt16).toNat < 256 := by
      split <;> [skip; split] <;> decide
    refine (congrArg (fun v => (SpatialQuantizer.quantize _ v i).1) (lifted frame)).trans ?_
    cases sq with
    | packSqNone => exact (none_faint default hv i).trans (if_neg fun h => by cases h.2.1).symm
    | packSqBayer =>
      refine (bayer_faint default hv i).trans (if_congr ?_ rfl rfl)
      unfold Glows
      by_cases h1 : frame.asU32 % 4 = 1
      · simp [h1, UInt16.lt_iff_toNat_lt]
      by_cases h3 : frame.asU32 % 4 = 3
      · simp [h3, UInt16.lt_iff_toNat_lt]
      · simp [h1, h3]

/-- The byte of a component that is off. -/
theorem off_byte (f : Features) (source : List Rgb48) (layout : PixelLayout) (frame : FrameEpoch)
    (target out : List UInt8)
    (h : packIntoBytes (ActiveTemporalDither f) (ActiveSpatialQuantizer f) source layout frame target = .ok ⟨⟩ out) :
    ∀ (i : Nat) color c, source[i]? = some color → Component.of c color = 0 →
      out[3 * i + c.wireIndex layout]? = some (if ¬Black color ∧ Glows f frame i then 1 else 0) := by
  intro i color c hcolor hoff
  rw [(image_of_ok h).2.byte i color c hcolor, wireByte_stateless, hoff, quantize_off]
  by_cases hb : Black color
  · rw [if_pos hb, if_neg fun hg => hg.1 hb]
  · rw [if_neg hb]
    exact congrArg some (if_congr (and_iff_right hb).symm rfl rfl)

/-- A green pixel whose red lights up. -/
theorem off_byte_glow : ([1, 2, 1] : List UInt8)[0]? =
    some (if ¬Black ⟨0, 256, 0⟩ ∧ Glows ⟨.packTdBayer, .packSqBayer⟩ ⟨1⟩ 0 then 1 else 0) :=
  off_byte ⟨.packTdBayer, .packSqBayer⟩ [⟨0, 256, 0⟩] .rgb ⟨1⟩ [9, 9, 9] [1, 2, 1] (by rfl) 0 ⟨0, 256, 0⟩ .r rfl rfl

/-- Off does not stay off. -/
theorem off_lights : ¬∀ (f : Features) (source : List Rgb48) (layout : PixelLayout) (frame : FrameEpoch)
    (target out : List UInt8),
    packIntoBytes (ActiveTemporalDither f) (ActiveSpatialQuantizer f) source layout frame target = .ok ⟨⟩ out →
      ∀ (i : Nat) color c, source[i]? = some color → Component.of c color = 0 →
        out[3 * i + c.wireIndex layout]? = some 0 := by
  intro h
  have hred := h ⟨.packTdBayer, .packSqBayer⟩ [⟨0, 256, 0⟩] .rgb ⟨1⟩ [9, 9, 9] [1, 2, 1] (by rfl) 0 ⟨0, 256, 0⟩ .r rfl rfl
  exact absurd hred (by decide)

end LedWireDriver.Pack
