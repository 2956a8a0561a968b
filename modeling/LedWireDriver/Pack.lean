/-
  LedWireDriver.Pack — the wire-format packing pipeline (`src/pack`).

  A temporal policy turns the frame epoch into one signed nudge for the frame; a spatial
  policy quantizes each nudged component and may carry state from pixel to pixel. The
  kernel runs three quantizers, one a component, over the strip; a fully black pixel is
  written as zeros and advances none of them. The layout chooses where in the triplet each
  component goes.

  `Features` is the crate's compile-time choice of one policy an axis. A program on the
  wire target is a `Prog` whose state is the target's bytes.
-/

import Mathlib.Tactic.IntervalCases
import LedWireDriver.Model
import LedWireDriver.Lib.Fallible
import LedWireDriver.Lib.Words

namespace LedWireDriver.Pack

open Fallible Words

/-! ## Temporal policies -/

class TemporalDither (TD : Type) where
  offset : TD → FrameEpoch → Int16

structure NoTemporalDither where
  deriving Inhabited

instance : TemporalDither NoTemporalDither where
  offset _ _ := 0

structure TemporalBayerDither where
  deriving Inhabited

instance : TemporalDither TemporalBayerDither where
  offset _ frame :=
    match (frame.asU32 % 4).toNat with
    | 0 => -32
    | 1 => 32
    | 2 => -16
    | _ => 16

/-! ## Spatial policies -/

class SpatialQuantizer (SQ : Type) where
  /-- The byte for one component, and the quantizer afterwards. -/
  quantize : SQ → UInt16 → Nat → UInt8 × SQ

structure NoSpatialQuantizer where
  deriving Inhabited

instance : SpatialQuantizer NoSpatialQuantizer where
  quantize q value _ := ((value >>> 8).toUInt8, q)

structure SpatialBayerQuantizer where
  deriving Inhabited

def threshold8x8 : Vector UInt16 64 :=
  #v[0, 32768, 8192, 40960, 2048, 34816, 10240, 43008, 49152, 16384, 57344, 24576, 51200,
    18432, 59392, 26624, 12288, 45056, 4096, 36864, 14336, 47104, 6144, 38912, 61440,
    28672, 53248, 20480, 63488, 30720, 55296, 22528, 3072, 35840, 11264, 44032, 1024,
    33792, 9216, 41984, 52224, 19456, 60416, 27648, 50176, 17408, 58368, 25600, 15360,
    48128, 7168, 39936, 13312, 46080, 5120, 37888, 64512, 31744, 56320, 23552, 62464,
    29696, 54272, 21504]

instance : SpatialQuantizer SpatialBayerQuantizer where
  quantize q value index :=
    let threshold := threshold8x8.get ⟨index % 64, Nat.mod_lt _ (by decide)⟩
    let base := (value >>> 8).toUInt8
    let fraction := (value &&& 0x00FF) <<< 8
    (if threshold < fraction ∧ base < 255 then base + 1 else base, q)

/-! ## The pipeline -/

inductive PackError where
  | sourceLengthMismatch (sourcePixels targetPixels : Nat)
  deriving DecidableEq, Repr

/-- The write index of the (r, g, b) components in the wire triplet. -/
def layoutMap : PixelLayout → Nat × Nat × Nat
  | .grb => (1, 0, 2)
  | .rgb => (0, 1, 2)
  | .bgr => (2, 1, 0)
  | .rbg => (0, 2, 1)
  | .gbr => (1, 2, 0)
  | .brg => (2, 0, 1)

def applyTemporal (value : UInt16) (tNudge : Int16) : UInt16 := saturatingAddSigned value tNudge

section Kernel

variable (TD SQ : Type) [TemporalDither TD] [Inhabited TD] [SpatialQuantizer SQ] [Inhabited SQ]

variable {SQ} in
/-- The kernel's loop from pixel `index` on: the rest of the target once the rest of the
    source is packed into it. -/
def packLoop (rIndex gIndex bIndex : Nat) (tNudge : Int16) (index : Nat) (spatialR spatialG spatialB : SQ) :
    List Rgb48 → List UInt8 → List UInt8
  | color :: source, x :: y :: z :: target =>
    if color.r ||| color.g ||| color.b = 0 then
      0 :: 0 :: 0 :: packLoop rIndex gIndex bIndex tNudge (index + 1) spatialR spatialG spatialB source target
    else
      let (r, spatialR) := SpatialQuantizer.quantize spatialR (applyTemporal color.r tNudge) index
      let (g, spatialG) := SpatialQuantizer.quantize spatialG (applyTemporal color.g tNudge) index
      let (b, spatialB) := SpatialQuantizer.quantize spatialB (applyTemporal color.b tNudge) index
      (([x, y, z].set rIndex r).set gIndex g).set bIndex b ++
        packLoop rIndex gIndex bIndex tNudge (index + 1) spatialR spatialG spatialB source target
  | _, target => target

def packKernel (rIndex gIndex bIndex : Nat) (source : List Rgb48) (frame : FrameEpoch) (target : List UInt8) :
    List UInt8 :=
  let tNudge := TemporalDither.offset (default : TD) frame
  packLoop rIndex gIndex bIndex tNudge 0 (default : SQ) (default : SQ) (default : SQ) source target

def packIntoBytes (source : List Rgb48) (layout : PixelLayout) (frame : FrameEpoch) :
    Prog PackError (List UInt8) Unit := do
  let targetPixels := (← get).length / 3
  if source.length ≠ targetPixels then
    fail (.sourceLengthMismatch source.length targetPixels)
  else
    match layoutMap layout with
    | (0, 1, 2) => modify (packKernel TD SQ 0 1 2 source frame)
    | (0, 2, 1) => modify (packKernel TD SQ 0 2 1 source frame)
    | (1, 0, 2) => modify (packKernel TD SQ 1 0 2 source frame)
    | (1, 2, 0) => modify (packKernel TD SQ 1 2 0 source frame)
    | (2, 0, 1) => modify (packKernel TD SQ 2 0 1 source frame)
    | (2, 1, 0) => modify (packKernel TD SQ 2 1 0 source frame)
    | _ => throw .panic

/-! ## What packing returns -/

variable {TD SQ}
variable {source : List Rgb48} {layout : PixelLayout} {frame : FrameEpoch} {target : List UInt8}

theorem packIntoBytes_ok (h : source.length = target.length / 3) :
    packIntoBytes TD SQ source layout frame target = .ok ⟨⟩ (packKernel TD SQ (layoutMap layout).1 (layoutMap layout).2.1
      (layoutMap layout).2.2 source frame target) := by
  unfold packIntoBytes
  rw [bind_ok (get_apply target)]
  simp only [h, ne_eq, not_true_eq_false, if_false]
  cases layout <;> rfl

theorem packIntoBytes_mismatch (h : source.length ≠ target.length / 3) :
    packIntoBytes TD SQ source layout frame target =
      .error (.error (.sourceLengthMismatch source.length (target.length / 3))) target := by
  unfold packIntoBytes
  rw [bind_ok (get_apply target), if_pos h, fail_apply]

omit [Inhabited SQ] in
theorem packLoop_length (rIndex gIndex bIndex : Nat) (tNudge : Int16) (index : Nat) (qr qg qb : SQ) (source : List Rgb48)
    (target : List UInt8) :
    (packLoop rIndex gIndex bIndex tNudge index qr qg qb source target).length = target.length := by
  fun_induction packLoop rIndex gIndex bIndex tNudge index qr qg qb source target with
  | case1 => simp_all
  | case2 => simp_all; omega
  | case3 => rfl

theorem exists_triplet {target : List UInt8} (h : 3 ≤ target.length) : ∃ x y z rest, target = x :: y :: z :: rest := by
  rcases target with _ | ⟨x, _ | ⟨y, _ | ⟨z, rest⟩⟩⟩
  · exact absurd h (by decide)
  · exact absurd h (by simp)
  · exact absurd h (by simp)
  · exact ⟨x, y, z, rest, rfl⟩

omit [Inhabited SQ] in
/-- What was in the target before does not matter to the triplets that are written. -/
theorem packLoop_target (rIndex gIndex bIndex : Nat) (tNudge : Int16) (index : Nat) (qr qg qb : SQ) (source : List Rgb48)
    (target target' : List UInt8) (h : target.length = 3 * source.length) (h' : target'.length = 3 * source.length)
    (hr : rIndex < 3) (hg : gIndex < 3) (hb : bIndex < 3) (hrg : rIndex ≠ gIndex) (hrb : rIndex ≠ bIndex)
    (hgb : gIndex ≠ bIndex) :
    packLoop rIndex gIndex bIndex tNudge index qr qg qb source target =
      packLoop rIndex gIndex bIndex tNudge index qr qg qb source target' := by
  induction source generalizing index qr qg qb target target' with
  | nil =>
    rw [List.eq_nil_of_length_eq_zero h, List.eq_nil_of_length_eq_zero h']
  | cons color source ih =>
    rw [List.length_cons] at h h'
    obtain ⟨x, y, z, target, rfl⟩ := exists_triplet (by omega : 3 ≤ target.length)
    obtain ⟨x', y', z', target', rfl⟩ := exists_triplet (by omega : 3 ≤ target'.length)
    simp only [List.length_cons] at h h'
    simp only [packLoop]
    split
    · rw [ih _ _ _ _ target target' (by omega) (by omega)]
    · rw [ih _ _ _ _ target target' (by omega) (by omega)]
      congr 1
      interval_cases rIndex <;> interval_cases gIndex <;> interval_cases bIndex <;> simp_all

end Kernel

/-! ## Feature selection -/

inductive TemporalFeature where
  | packTdNone
  | packTdBayer
  deriving DecidableEq, Repr

inductive SpatialFeature where
  | packSqNone
  | packSqBayer
  deriving DecidableEq, Repr

structure Features where
  td : TemporalFeature
  sq : SpatialFeature
  deriving DecidableEq, Repr

/-- The default features. -/
def Features.default : Features := ⟨.packTdNone, .packSqNone⟩

def ActiveTemporalDither (f : Features) : Type :=
  match f.td with
  | .packTdNone => NoTemporalDither
  | .packTdBayer => TemporalBayerDither

def ActiveSpatialQuantizer (f : Features) : Type :=
  match f.sq with
  | .packSqNone => NoSpatialQuantizer
  | .packSqBayer => SpatialBayerQuantizer

instance : (f : Features) → TemporalDither (ActiveTemporalDither f)
  | ⟨.packTdNone, _⟩ => inferInstanceAs (TemporalDither NoTemporalDither)
  | ⟨.packTdBayer, _⟩ => inferInstanceAs (TemporalDither TemporalBayerDither)

instance : (f : Features) → Inhabited (ActiveTemporalDither f)
  | ⟨.packTdNone, _⟩ => inferInstanceAs (Inhabited NoTemporalDither)
  | ⟨.packTdBayer, _⟩ => inferInstanceAs (Inhabited TemporalBayerDither)

instance : (f : Features) → SpatialQuantizer (ActiveSpatialQuantizer f)
  | ⟨_, .packSqNone⟩ => inferInstanceAs (SpatialQuantizer NoSpatialQuantizer)
  | ⟨_, .packSqBayer⟩ => inferInstanceAs (SpatialQuantizer SpatialBayerQuantizer)

instance : (f : Features) → Inhabited (ActiveSpatialQuantizer f)
  | ⟨_, .packSqNone⟩ => inferInstanceAs (Inhabited NoSpatialQuantizer)
  | ⟨_, .packSqBayer⟩ => inferInstanceAs (Inhabited SpatialBayerQuantizer)

def packRgb48Active (f : Features) (source : List Rgb48) (layout : PixelLayout) (frame : FrameEpoch) :
    Prog PackError (List UInt8) Unit :=
  packIntoBytes (ActiveTemporalDither f) (ActiveSpatialQuantizer f) source layout frame

/-- What the wire target held before does not matter once every triplet is written. -/
theorem packRgb48Active_target {f : Features} {source : List Rgb48} {layout : PixelLayout} {frame : FrameEpoch}
    {target target' : List UInt8} (h : target.length = 3 * source.length) (h' : target'.length = 3 * source.length) :
    packRgb48Active f source layout frame target = packRgb48Active f source layout frame target' := by
  unfold packRgb48Active
  rw [packIntoBytes_ok (by omega), packIntoBytes_ok (by omega)]
  refine congrArg (EStateM.Result.ok PUnit.unit) ?_
  cases layout <;> exact packLoop_target _ _ _ _ _ _ _ _ _ _ _ h h' (by decide) (by decide) (by decide) (by decide)
    (by decide) (by decide)

end LedWireDriver.Pack
