/-
  LedWireDriver.Model — the driver's vocabulary (`src/model.rs`, `src/lib.rs`).

  `usize` is `Nat`; `u8`, `u16` and `u32` are the words of that width.
-/

import Mathlib.Logic.Function.Iterate

namespace LedWireDriver

/-- Compile-time driver logical-channel storage capacity. -/
abbrev driverMaxChannels : Nat := 8

inductive PixelLayout where
  | grb
  | rgb
  | bgr
  | rbg
  | gbr
  | brg
  deriving DecidableEq, Repr

structure Rgb48 where
  r : UInt16
  g : UInt16
  b : UInt16
  deriving DecidableEq, Repr

structure FrameEpoch where
  raw : UInt32
  deriving DecidableEq, Repr

namespace FrameEpoch

def zero : FrameEpoch := ⟨0⟩

def asU32 (e : FrameEpoch) : UInt32 := e.raw

def wrappingAdd (e : FrameEpoch) (rhs : UInt32) : FrameEpoch := ⟨e.raw + rhs⟩

/-- The epoch after `n` increments from zero. -/
theorem iterate_wrappingAdd (n : Nat) : (·.wrappingAdd 1)^[n] zero = ⟨UInt32.ofNat n⟩ := by
  induction n with
  | zero => rfl
  | succ n ih =>
    rw [Function.iterate_succ_apply', ih]
    simp [wrappingAdd, UInt32.ofNat_add]

end FrameEpoch

structure ChannelId where
  raw : UInt8
  deriving DecidableEq, Repr

namespace ChannelId

def cardinality : Nat := 256

def fromIndex (index : Nat) : Option ChannelId :=
  if index < cardinality then some ⟨UInt8.ofNat index⟩ else none

def asIndex (c : ChannelId) : Nat := c.raw.toNat

theorem asIndex_injective : Function.Injective asIndex := fun a b h => by
  cases a; cases b
  simpa [asIndex, ← UInt8.toNat_inj] using h

theorem asIndex_lt (c : ChannelId) : c.asIndex < cardinality := c.raw.toNat_lt

theorem fromIndex_asIndex (c : ChannelId) : fromIndex c.asIndex = some c := by
  rw [fromIndex, if_pos c.asIndex_lt]
  simp [asIndex]

end ChannelId

structure BackendChannelId where
  raw : UInt8
  deriving DecidableEq, Repr

namespace BackendChannelId

abbrev cardinality : Nat := 256

def asIndex (c : BackendChannelId) : Nat := c.raw.toNat

theorem asIndex_injective : Function.Injective asIndex := fun a b h => by
  cases a; cases b
  simpa [asIndex, ← UInt8.toNat_inj] using h

theorem asIndex_lt (c : BackendChannelId) : c.asIndex < cardinality := c.raw.toNat_lt

end BackendChannelId

end LedWireDriver
