/-
  LedWireDriver.Lib.Words — fixed-width words: a 32-bit mask as a finite set of indices,
  and the checked and saturating operations.

  `has m i` says that bit `i` of `m` is set. The operations a mask is built with (or, and,
  and-not, a single shifted bit) are the set operations on `has`, and two masks with the
  same members are equal (`ext`).
-/

namespace LedWireDriver.Words

/-! ## Checked and saturating operations -/

/-- `u32::checked_mul` -/
def checkedMul (a b : UInt32) : Option UInt32 :=
  if a.toNat * b.toNat < UInt32.size then some (a * b) else none

theorem checkedMul_some {a b : UInt32} (h : a.toNat * b.toNat < UInt32.size) : checkedMul a b = some (a * b) :=
  if_pos h

/-- `u32::checked_add` -/
def checkedAdd (a b : UInt32) : Option UInt32 :=
  if a.toNat + b.toNat < UInt32.size then some (a + b) else none

/-- `u16::saturating_add_signed` -/
def saturatingAddSigned (a : UInt16) (b : Int16) : UInt16 :=
  let sum := (a.toNat : Int) + b.toInt
  if sum < 0 then 0 else if 65535 < sum then 65535 else UInt16.ofNat sum.toNat

/-! ## Masks -/

def has (m : UInt32) (i : Nat) : Bool := m.toBitVec.getLsbD i

/-- `1u32 << i` -/
def bit (i : Nat) : UInt32 := 1 <<< UInt32.ofNat i

theorem ext {m m' : UInt32} (h : ∀ i < 32, has m i = has m' i) : m = m' :=
  UInt32.toBitVec_inj.mp (BitVec.eq_of_getLsbD_eq h)

@[simp] theorem has_zero (i : Nat) : has 0 i = false := by
  simp [has]

@[simp] theorem has_or (m m' : UInt32) (i : Nat) : has (m ||| m') i = (has m i || has m' i) := by
  simp [has]

@[simp] theorem has_and (m m' : UInt32) (i : Nat) : has (m &&& m') i = (has m i && has m' i) := by
  simp [has]

theorem has_lt {m : UInt32} {i : Nat} (h : has m i = true) : i < 32 :=
  BitVec.lt_of_getLsbD h

@[simp] theorem has_and_not (m m' : UInt32) (i : Nat) : has (m &&& ~~~m') i = (has m i && !has m' i) := by
  by_cases hi : i < 32
  · simp [has, hi]
  · have h : has m i = false := by
      cases e : has m i
      · rfl
      · exact absurd (has_lt e) hi
    simp only [has_and, h, Bool.false_and]

theorem has_bit {i : Nat} (hi : i < 32) (j : Nat) : has (bit i) j = decide (i = j) := by
  have hmod : (UInt32.ofNat i).toBitVec.toNat % 32 = i := by
    simp only [UInt32.toBitVec_ofNat', BitVec.toNat_ofNat]
    omega
  unfold has bit
  rw [UInt32.toBitVec_shiftLeft]
  simp only [BitVec.shiftLeft_eq', BitVec.toNat_umod, BitVec.getLsbD_shiftLeft]
  show (decide (j < 32) && !decide (j < _ % 32) && (1#32).getLsbD (j - _ % 32)) = _
  rw [hmod, BitVec.getLsbD_one]
  by_cases h : i = j
  · subst h; simp [hi]
  · by_cases hlt : j < i
    · simp [hlt, h]
    · have : j - i ≠ 0 := by omega
      simp [h, this]

theorem eq_zero_iff {m : UInt32} : m = 0 ↔ ∀ i, has m i = false := by
  constructor
  · rintro rfl i; exact has_zero i
  · intro h; exact ext fun i _ => by rw [h i, has_zero]

/-- The test `m & (1 << i) != 0`. -/
theorem and_bit_ne_zero {i : Nat} (hi : i < 32) (m : UInt32) : m &&& bit i ≠ 0 ↔ has m i = true := by
  constructor
  · intro h
    cases e : has m i
    · refine absurd (eq_zero_iff.mpr fun j => ?_) h
      rw [has_and, has_bit hi]
      by_cases hj : i = j
      · subst hj; simp [e]
      · simp [hj]
    · rfl
  · intro h h0
    have := eq_zero_iff.mp h0 i
    rw [has_and, has_bit hi, h] at this
    simp at this

end LedWireDriver.Words
