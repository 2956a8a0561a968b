/-
  LedWireDriver.Image — what packing writes, byte for byte.

  `wireByte` is the reference: the byte of one component of one pixel, from the quantizer
  of that component alone, fed with the pixels before it that are not black. The kernel
  writes it at the component's place in the pixel's triplet, for every policy, and touches
  nothing else (`pack_image`); so the layout only permutes the triplets.
-/

import Mathlib.Logic.Equiv.Defs
import LedWireDriver.Pack

namespace LedWireDriver.Pack

open Fallible Words

/-! ## Components -/

inductive Component where
  | r
  | g
  | b
  deriving DecidableEq, Repr

namespace Component

def of : Component → Rgb48 → UInt16
  | r, color => color.r
  | g, color => color.g
  | b, color => color.b

/-- `layout_map(layout)[c]` -/
def wireIndex (c : Component) (layout : PixelLayout) : Nat :=
  match c with
  | r => (layoutMap layout).1
  | g => (layoutMap layout).2.1
  | b => (layoutMap layout).2.2

theorem wireIndex_lt (c : Component) (layout : PixelLayout) : c.wireIndex layout < 3 := by
  cases c <;> cases layout <;> decide

/-- The component at a place of the triplet. -/
def atIndex (layout : PixelLayout) (k : Fin 3) : Component :=
  if r.wireIndex layout = k then r else if g.wireIndex layout = k then g else b

/-- A layout puts the three components in the three places. -/
def place (layout : PixelLayout) : Component ≃ Fin 3 where
  toFun c := ⟨c.wireIndex layout, c.wireIndex_lt layout⟩
  invFun := atIndex layout
  left_inv c := by cases layout <;> cases c <;> rfl
  right_inv k := by revert k; cases layout <;> decide

end Component

/-- No component is lit. -/
def Black (color : Rgb48) : Prop := color.r = 0 ∧ color.g = 0 ∧ color.b = 0

instance (color : Rgb48) : Decidable (Black color) := inferInstanceAs (Decidable (_ ∧ _))

theorem black_iff (color : Rgb48) : color.r ||| color.g ||| color.b = 0 ↔ Black color := by
  unfold Black
  rw [UInt16.or_eq_zero_iff, UInt16.or_eq_zero_iff, and_assoc]

/-- A component plus the offset of the frame, kept within `0..65535`. -/
def nudged (value : UInt16) (tNudge : Int16) : UInt16 :=
  UInt16.ofNat (max 0 (min 65535 ((value.toNat : Int) + tNudge.toInt))).toNat

theorem applyTemporal_eq (value : UInt16) (tNudge : Int16) : applyTemporal value tNudge = nudged value tNudge := by
  unfold applyTemporal saturatingAddSigned nudged
  dsimp only
  generalize (value.toNat : Int) + tNudge.toInt = sum
  by_cases hlow : sum < 0
  · rw [if_pos hlow, max_eq_left (by omega)]
    rfl
  by_cases hhigh : 65535 < sum
  · rw [if_neg hlow, if_pos hhigh, min_eq_left (by omega), max_eq_right (by omega)]
    rfl
  · rw [if_neg hlow, if_neg hhigh, min_eq_right (by omega), max_eq_right (by omega)]

/-! ## The reference -/

section Reference

variable {SQ : Type} [SpatialQuantizer SQ]

/-- The quantizer `q` of component `c` after some pixels with their indices: the black ones
    are not fed to it. -/
def fed (c : Component) (tNudge : Int16) (q : SQ) (pixels : List (Rgb48 × Nat)) : SQ :=
  (pixels.filter fun (color, _) => ¬Black color).foldl
    (fun q (color, index) => (SpatialQuantizer.quantize q (nudged (c.of color) tNudge) index).2) q

/-- What the quantizer `q` of component `c` makes of a pixel. -/
def componentByte (c : Component) (tNudge : Int16) (q : SQ) (color : Rgb48) (index : Nat) : UInt8 :=
  if Black color then 0 else (SpatialQuantizer.quantize q (nudged (c.of color) tNudge) index).1

end Reference

section Reference

variable (TD SQ : Type) [TemporalDither TD] [Inhabited TD] [SpatialQuantizer SQ] [Inhabited SQ]

/-- The byte of component `c` of pixel `i`: zero in a black pixel, otherwise what the
    component's own quantizer returns after the pixels before it. -/
def wireByte (c : Component) (source : List Rgb48) (frame : FrameEpoch) (color : Rgb48) (i : Nat) : UInt8 :=
  let tNudge := TemporalDither.offset (default : TD) frame
  componentByte c tNudge (fed c tNudge (default : SQ) (source.zipIdx.take i)) color i

/-- The (r, g, b) bytes of every pixel. -/
def wireColors (source : List Rgb48) (frame : FrameEpoch) : List (UInt8 × UInt8 × UInt8) :=
  source.zipIdx.map fun (color, i) =>
    (wireByte TD SQ .r source frame color i, wireByte TD SQ .g source frame color i,
      wireByte TD SQ .b source frame color i)

end Reference

/-- The (r, g, b) bytes of the triplets, read back through the layout. -/
def unpack (layout : PixelLayout) (bytes : List UInt8) : List (UInt8 × UInt8 × UInt8) :=
  (List.range (bytes.length / 3)).map fun i =>
    (bytes.getD (3 * i + Component.r.wireIndex layout) 0, bytes.getD (3 * i + Component.g.wireIndex layout) 0,
      bytes.getD (3 * i + Component.b.wireIndex layout) 0)

/-! ## The loop -/

section Loop

variable {SQ : Type} [SpatialQuantizer SQ]

theorem fed_append (c : Component) (tNudge : Int16) (q : SQ) (pixels pixels' : List (Rgb48 × Nat)) :
    fed c tNudge q (pixels ++ pixels') = fed c tNudge (fed c tNudge q pixels) pixels' := by
  unfold fed
  rw [List.filter_append, List.foldl_append]

theorem fed_singleton (c : Component) (tNudge : Int16) (q : SQ) (color : Rgb48) (index : Nat) :
    fed c tNudge q [(color, index)] =
      if Black color then q else (SpatialQuantizer.quantize q (nudged (c.of color) tNudge) index).2 := by
  unfold fed
  by_cases h : Black color
  · rw [List.filter_cons_of_neg (by simpa using h), if_pos h]
    rfl
  · rw [List.filter_cons_of_pos (by simpa using h), if_neg h]
    rfl

/-- The triplet the kernel fills, at each component's place. -/
theorem set_get (pos : Component → Fin 3) (hpos : Function.Injective pos) (x y z : UInt8) (byte : Component → UInt8)
    (c : Component) :
    ((([x, y, z].set (pos .r) (byte .r)).set (pos .g) (byte .g)).set (pos .b) (byte .b))[(pos c).val]? =
      some (byte c) := by
  have hlt := (pos c).isLt
  have hr : c ≠ .r → (pos .r).val ≠ (pos c).val := fun h e => h (hpos (Fin.ext e)).symm
  have hg : c ≠ .g → (pos .g).val ≠ (pos c).val := fun h e => h (hpos (Fin.ext e)).symm
  have hb : c ≠ .b → (pos .b).val ≠ (pos c).val := fun h e => h (hpos (Fin.ext e)).symm
  cases c with
  | r => rw [List.getElem?_set_ne (hb (by decide)), List.getElem?_set_ne (hg (by decide)), List.getElem?_set_self hlt]
  | g =>
    rw [List.getElem?_set_ne (hb (by decide)), List.getElem?_set_self]
    rwa [List.length_set]
  | b =>
    rw [List.getElem?_set_self]
    rwa [List.length_set, List.length_set]

/-- One turn of the loop writes the pixel's triplet, and moves the quantizers on unless the
    pixel is black. -/
theorem packLoop_cons (pos : Component → Fin 3) (hpos : Function.Injective pos) (tNudge : Int16) (index : Nat)
    (q : Component → SQ) (color : Rgb48) (source : List Rgb48) (x y z : UInt8) (target : List UInt8) :
    ∃ triplet : List UInt8, triplet.length = 3 ∧
      (∀ c, triplet[(pos c).val]? = some (componentByte c tNudge (q c) color index)) ∧
      packLoop (pos .r) (pos .g) (pos .b) tNudge index (q .r) (q .g) (q .b) (color :: source) (x :: y :: z :: target) =
        triplet ++ packLoop (pos .r) (pos .g) (pos .b) tNudge (index + 1) (fed .r tNudge (q .r) [(color, index)])
          (fed .g tNudge (q .g) [(color, index)]) (fed .b tNudge (q .b) [(color, index)]) source target := by
  unfold componentByte
  by_cases h : Black color
  · refine ⟨[0, 0, 0], rfl, fun c => ?_, ?_⟩
    · rw [if_pos h]
      generalize pos c = k
      revert k
      decide
    · rw [packLoop, if_pos ((black_iff color).mpr h), fed_singleton, fed_singleton, fed_singleton, if_pos h, if_pos h, if_pos h]
      rfl
  · let byte : Component → UInt8 := fun c =>
      (SpatialQuantizer.quantize (q c) (nudged (c.of color) tNudge) index).1
    refine ⟨(([x, y, z].set (pos .r) (byte .r)).set (pos .g) (byte .g)).set (pos .b) (byte .b),
      by simp only [List.length_set, List.length_cons, List.length_nil], fun c => ?_, ?_⟩
    · rw [if_neg h]
      exact set_get pos hpos x y z byte c
    · rw [packLoop, if_neg (mt (black_iff color).mp h), fed_singleton, fed_singleton, fed_singleton, if_neg h, if_neg h, if_neg h]
      simp only [applyTemporal_eq]
      rfl

/-- Every byte the loop writes, and those it leaves alone. -/
theorem packLoop_get (pos : Component → Fin 3) (hpos : Function.Injective pos) (tNudge : Int16) (index : Nat)
    (q : Component → SQ) (source : List Rgb48) (target : List UInt8) (h : 3 * source.length ≤ target.length) :
    (∀ i color c, source[i]? = some color →
      (packLoop (pos .r) (pos .g) (pos .b) tNudge index (q .r) (q .g) (q .b) source target)[3 * i + (pos c).val]? =
        some (componentByte c tNudge (fed c tNudge (q c) ((source.zipIdx index).take i)) color (index + i))) ∧
    ∀ j, 3 * source.length ≤ j →
      (packLoop (pos .r) (pos .g) (pos .b) tNudge index (q .r) (q .g) (q .b) source target)[j]? = target[j]? := by
  induction source generalizing index q target with
  | nil =>
    refine ⟨fun i color c hi => by simp at hi, fun j _ => ?_⟩
    rw [packLoop]
    simp
  | cons color₀ source ih =>
    rw [List.length_cons] at h
    obtain ⟨x, y, z, target, rfl⟩ := exists_triplet (by omega : 3 ≤ target.length)
    simp only [List.length_cons] at h
    obtain ⟨triplet, hlen, htriplet, hloop⟩ := packLoop_cons pos hpos tNudge index q color₀ source x y z target
    obtain ⟨ih, ihrest⟩ := ih (index + 1) (fun c => fed c tNudge (q c) [(color₀, index)]) target (by omega)
    rw [hloop]
    refine ⟨fun i color c hi => ?_, fun j hj => ?_⟩
    · cases i with
      | zero =>
        obtain rfl : color₀ = color := by simpa using hi
        rw [List.getElem?_append_left (by have := (pos c).isLt; omega), Nat.mul_zero, Nat.zero_add, htriplet]
        rfl
      | succ i =>
        rw [List.getElem?_append_right (by omega), hlen, show 3 * (i + 1) + (pos c).val - 3 = 3 * i + (pos c).val by omega,
          ih i color c (by simpa using hi), ← fed_append, Nat.add_assoc, Nat.add_comm 1 i]
        rfl
    · rw [List.length_cons] at hj
      obtain ⟨j, rfl⟩ : ∃ j', j = j' + 3 := ⟨j - 3, by omega⟩
      rw [List.getElem?_append_right (by omega), hlen, Nat.add_sub_cancel, ihrest _ (by omega)]
      rfl

end Loop

/-! ## The image -/

/-- The permutation of a triplet between two layouts. -/
def relay (layout layout' : PixelLayout) : Equiv.Perm (Fin 3) :=
  (Component.place layout).symm.trans (Component.place layout')

section Image

variable (TD SQ : Type) [TemporalDither TD] [Inhabited TD] [SpatialQuantizer SQ] [Inhabited SQ]

/-- `out` is `target` with the image of `source` at its start. -/
structure Image (source : List Rgb48) (layout : PixelLayout) (frame : FrameEpoch) (target out : List UInt8) : Prop where
  length : out.length = target.length
  black : ∀ i color, source[i]? = some color → Black color → ∀ k < 3, out[3 * i + k]? = some 0
  byte : ∀ i color c, source[i]? = some color →
    out[3 * i + Component.wireIndex c layout]? = some (wireByte TD SQ c source frame color i)
  /-- Every byte of the pixels is one of these. -/
  written : ∀ j < 3 * source.length, ∃ i c, i < source.length ∧ 3 * i + Component.wireIndex c layout = j
  trailing : ∀ j, 3 * source.length ≤ j → out[j]? = target[j]?

variable {TD SQ} {source : List Rgb48} {layout : PixelLayout} {frame : FrameEpoch} {target out : List UInt8}

variable (TD SQ layout frame) in
theorem packKernel_get (h : source.length = target.length / 3) :
    (∀ i color c, source[i]? = some color →
      (packKernel TD SQ (layoutMap layout).1 (layoutMap layout).2.1 (layoutMap layout).2.2 source frame target)[3 * i +
        Component.wireIndex c layout]? = some (wireByte TD SQ c source frame color i)) ∧
    ∀ j, 3 * source.length ≤ j → (packKernel TD SQ (layoutMap layout).1 (layoutMap layout).2.1 (layoutMap layout).2.2
      source frame target)[j]? = target[j]? := by
  have hloop := packLoop_get (Component.place layout) (Component.place layout).injective
    (TemporalDither.offset (default : TD) frame) 0 (fun _ => (default : SQ)) source target (by omega)
  simp only [Nat.zero_add] at hloop
  exact hloop

theorem image_of_ok (h : packIntoBytes TD SQ source layout frame target = .ok ⟨⟩ out) :
    source.length = target.length / 3 ∧ Image TD SQ source layout frame target out := by
  by_cases hlen : source.length = target.length / 3
  case neg =>
    rw [packIntoBytes_mismatch hlen] at h
    cases h
  rw [packIntoBytes_ok hlen] at h
  cases h
  obtain ⟨hbyte, htrailing⟩ := packKernel_get TD SQ layout frame hlen
  refine ⟨hlen, packLoop_length .., fun i color hi hblack k hk => ?_, hbyte, fun j hj => ?_, htrailing⟩
  · have hplace := hbyte i color ((Component.place layout).symm ⟨k, hk⟩) hi
    rw [show Component.wireIndex _ layout = k from
      congrArg Fin.val ((Component.place layout).apply_symm_apply ⟨k, hk⟩)] at hplace
    rw [hplace, wireByte, componentByte, if_pos hblack]
  · refine ⟨j / 3, (Component.place layout).symm ⟨j % 3, Nat.mod_lt _ (by decide)⟩, by omega, ?_⟩
    rw [show Component.wireIndex _ layout = j % 3 from
      congrArg Fin.val ((Component.place layout).apply_symm_apply ⟨j % 3, Nat.mod_lt _ (by decide)⟩)]
    exact Nat.div_add_mod j 3

/-- Reading the image back through its layout forgets the layout. -/
theorem Image.unpack_eq (h : Image TD SQ source layout frame target out) (hlen : source.length = target.length / 3) :
    unpack layout out = wireColors TD SQ source frame := by
  unfold unpack wireColors
  refine List.ext_getElem (by simp [h.length, hlen]) fun i hi hi' => ?_
  have hsource : i < source.length := by simpa using hi'
  have hbyte : ∀ c, out.getD (3 * i + Component.wireIndex c layout) 0 = wireByte TD SQ c source frame source[i] i := by
    intro c
    rw [List.getD_eq_getElem?_getD, h.byte i source[i] c (List.getElem?_eq_getElem hsource), Option.getD_some]
  rw [List.getElem_map, List.getElem_map, List.getElem_range, List.getElem_zipIdx, Nat.zero_add, hbyte, hbyte, hbyte]

/-- The images of one source in two layouts are the same up to `relay` in each triplet. -/
theorem Image.relayed {layout' : PixelLayout} {target' out' : List UInt8}
    (h : Image TD SQ source layout frame target out) (h' : Image TD SQ source layout' frame target' out') {i : Nat}
    (hi : i < source.length) (k : Fin 3) : out'[3 * i + (relay layout layout' k).val]? = out[3 * i + k.val]? := by
  obtain ⟨c, rfl⟩ := (Component.place layout).surjective k
  have hsource := List.getElem?_eq_getElem hi
  rw [show relay layout layout' (Component.place layout c) = Component.place layout' c from
    congrArg (Component.place layout') ((Component.place layout).symm_apply_apply c)]
  exact (h'.byte i _ c hsource).trans (h.byte i _ c hsource).symm

variable (TD SQ) in
theorem pack_image (source : List Rgb48) (layout : PixelLayout) (frame : FrameEpoch) (target : List UInt8) :
    ((∃ out, packIntoBytes TD SQ source layout frame target = .ok ⟨⟩ out) ↔ source.length = target.length / 3) ∧
    (source.length ≠ target.length / 3 → packIntoBytes TD SQ source layout frame target =
      .error (.error (.sourceLengthMismatch source.length (target.length / 3))) target) ∧
    (∀ out, packIntoBytes TD SQ source layout frame target ≠ .error .panic out) ∧
    ∀ out, packIntoBytes TD SQ source layout frame target = .ok ⟨⟩ out →
      Image TD SQ source layout frame target out ∧ unpack layout out = wireColors TD SQ source frame ∧
      ∀ layout' target' out', packIntoBytes TD SQ source layout' frame target' = .ok ⟨⟩ out' →
        ∀ i < source.length, ∀ k : Fin 3, out'[3 * i + (relay layout layout' k).val]? = out[3 * i + k.val]? := by
  refine ⟨⟨fun h => ?_, fun h => ⟨_, packIntoBytes_ok h⟩⟩, packIntoBytes_mismatch, fun out h => ?_, fun out h => ?_⟩
  · obtain ⟨out, h⟩ := h
    exact (image_of_ok h).1
  · by_cases hlen : source.length = target.length / 3
    · cases h.symm.trans (packIntoBytes_ok hlen)
    · cases h.symm.trans (packIntoBytes_mismatch hlen)
  · obtain ⟨hlen, himage⟩ := image_of_ok h
    exact ⟨himage, himage.unpack_eq hlen, fun layout' target' out' h' i hi k =>
      himage.relayed (image_of_ok h').2 hi k⟩

end Image

/-- Two pixels in GRB order over a target with one byte to spare. -/
theorem pack_image_grb : unpack .grb [2, 1, 3, 0, 0, 0, 9] =
    wireColors NoTemporalDither NoSpatialQuantizer [⟨256, 512, 768⟩, ⟨0, 0, 0⟩] ⟨0⟩ :=
  ((pack_image NoTemporalDither NoSpatialQuantizer [⟨256, 512, 768⟩, ⟨0, 0, 0⟩] .grb ⟨0⟩ [9, 9, 9, 9, 9, 9, 9]).2.2.2
    [2, 1, 3, 0, 0, 0, 9] (by rfl)).2.1

end LedWireDriver.Pack
