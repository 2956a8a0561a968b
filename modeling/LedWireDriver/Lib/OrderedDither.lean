/-
  LedWireDriver.Lib.OrderedDither — ordered dithering, over any threshold map.

  A map ranks its `n` cells and tiles the positions. A level counts `n`-ths of an output
  step; a position rounds it up when the position's rank is below the level's fraction.
  Any `n` positions in a row then output the level in total (`sum_window`), and no position
  outputs less for a higher level (`dither_mono`).
-/

import Mathlib.Algebra.BigOperators.Fin
import Mathlib.Algebra.BigOperators.Intervals
import Mathlib.Data.Nat.Periodic

namespace LedWireDriver.OrderedDither

/-- An order of the `n` cells, in which they light up. -/
structure ThresholdMap (n : Nat) where
  rank : Fin n → Fin n
  injective : Function.Injective rank

variable {n : Nat} [NeZero n] (t : ThresholdMap n)

/-- What position `i` outputs for the level `u`. -/
def dither (u i : Nat) : Nat :=
  if (t.rank (Fin.ofNat n i)).val < u % n then u / n + 1 else u / n

theorem dither_zero (i : Nat) : dither t 0 i = 0 := by
  rw [dither, Nat.zero_mod, if_neg (Nat.not_lt_zero _), Nat.zero_div]

theorem dither_mono {u u' : Nat} (h : u ≤ u') (i : Nat) : dither t u i ≤ dither t u' i := by
  unfold dither
  rcases Nat.lt_or_eq_of_le (Nat.div_le_div_right (c := n) h) with hlt | heq
  · split <;> split <;> omega
  · -- one output step: the fractions compare as the levels do
    have hu := Nat.div_add_mod u n
    have hu' := Nat.div_add_mod u' n
    rw [heq] at hu ⊢
    split <;> split <;> omega

/-- A whole output step up. -/
theorem dither_add (u i : Nat) : dither t (u + n) i = dither t u i + 1 := by
  have hn := NeZero.pos n
  rw [dither, dither, Nat.add_mod_right, Nat.add_div_right _ hn]
  split <;> rfl

/-- No position is a whole output step off its level. -/
theorem dither_near (u i : Nat) : n * dither t u i < u + n ∧ u < n * dither t u i + n := by
  have hu := Nat.div_add_mod u n
  have hmod := Nat.mod_lt u (NeZero.pos n)
  unfold dither
  split
  · rw [Nat.mul_add, Nat.mul_one]
    omega
  · omega

/-- The map tiles the positions. -/
theorem dither_tiled (u i k : Nat) : dither t u (n * k + i) = dither t u i := by
  have hcell : Fin.ofNat n (n * k + i) = Fin.ofNat n i := Fin.ext (Nat.mul_add_mod n k i)
  rw [dither, dither, hcell]

/-- The cells that round a fraction up are as many as the fraction. -/
theorem sum_cells (u : Nat) :
    ∑ k : Fin n, (if (t.rank k).val < u % n then u / n + 1 else u / n) = u := by
  have hrank : Function.Bijective t.rank := Finite.injective_iff_bijective.mp t.injective
  have hup : (Finset.range n).filter (· < u % n) = Finset.range (u % n) := by
    ext j
    have := Nat.mod_lt u (NeZero.pos n)
    simp only [Finset.mem_filter, Finset.mem_range]
    omega
  rw [hrank.sum_comp fun k : Fin n => if k.val < u % n then u / n + 1 else u / n,
    Fin.sum_univ_eq_sum_range fun j => if j < u % n then u / n + 1 else u / n]
  calc ∑ j ∈ Finset.range n, (if j < u % n then u / n + 1 else u / n)
      = ∑ j ∈ Finset.range n, (u / n + if j < u % n then 1 else 0) :=
        Finset.sum_congr rfl fun j _ => by split <;> rfl
    _ = n * (u / n) + u % n := by
        rw [Finset.sum_add_distrib, Finset.sum_const, Finset.card_range, smul_eq_mul, ← Finset.card_filter, hup,
          Finset.card_range]
    _ = u := Nat.div_add_mod u n

/-- A window of `n` positions meets every cell once. -/
theorem sum_tiled (g : Fin n → Nat) (start : Nat) :
    ∑ i ∈ Finset.Ico start (start + n), g (Fin.ofNat n i) = ∑ k, g k := by
  induction start with
  | zero =>
    rw [Nat.zero_add, Nat.Ico_zero_eq_range, ← Fin.sum_univ_eq_sum_range fun i => g (Fin.ofNat n i)]
    exact Finset.sum_congr rfl fun k _ => congrArg g (Fin.ext (Nat.mod_eq_of_lt k.isLt))
  | succ start ih =>
    have hn := NeZero.pos n
    have hwrap : Fin.ofNat n (start + n) = Fin.ofNat n start := Fin.ext (Nat.add_mod_right start n)
    have hleft := Finset.sum_eq_sum_Ico_succ_bot (show start < start + 1 + n by omega) fun i => g (Fin.ofNat n i)
    have hright := Finset.sum_Ico_succ_top (show start ≤ start + n by omega) fun i => g (Fin.ofNat n i)
    rw [hwrap, ih] at hright
    rw [show start + 1 + n = start + n + 1 by omega] at hleft ⊢
    omega

theorem sum_window (u start : Nat) : ∑ i ∈ Finset.Ico start (start + n), dither t u i = u :=
  (sum_tiled (fun k => if (t.rank k).val < u % n then u / n + 1 else u / n) start).trans (sum_cells t u)

end LedWireDriver.OrderedDither
