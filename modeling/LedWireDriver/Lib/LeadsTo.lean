/-
  LedWireDriver.Lib.LeadsTo — what must happen in a run without end.

  A fact about a run is a predicate of its moments, and "again and again" is Mathlib's
  `∃ᶠ n in atTop`.
  - `Unless P Q`: once `P`, always `P` until `Q`. It is what steps show.
  - `LeadsTo P Q`: whenever `P`, then or later `Q`. It is what fairness gives: a help that
    comes again and again (`Unless.leadsTo_of_frequently`), or one that comes because it is
    asked for again and again (`Unless.leadsTo_of_asked`).
-/

import Mathlib.Order.Filter.AtTopBot.Basic

namespace LedWireDriver.Temporal

open Filter

variable {P Q R H : Nat → Prop}

def Unless (P Q : Nat → Prop) : Prop := ∀ n, P n → P (n + 1) ∨ Q n

def LeadsTo (P Q : Nat → Prop) : Prop := ∀ n, P n → ∃ m, n ≤ m ∧ Q m

theorem Unless.forever (h : Unless P Q) {n : Nat} (hp : P n) (hno : ∀ m, n ≤ m → ¬Q m) : ∀ m, n ≤ m → P m := by
  intro m hm
  induction m, hm using Nat.le_induction with
  | base => exact hp
  | succ m hm ih => exact (h m ih).resolve_right (hno m hm)

/-- It is enough to reach `Q` from a `P` that never ends. -/
theorem Unless.leadsTo (h : Unless P Q) (hforever : ∀ n, (∀ m, n ≤ m → P m) → ∃ m, n ≤ m ∧ Q m) : LeadsTo P Q := by
  intro n hp
  by_contra hno
  push Not at hno
  obtain ⟨m, hm, hq⟩ := hforever n (h.forever hp hno)
  exact hno m hm hq

theorem Unless.leadsTo_of_frequently (h : Unless P Q) (hhelp : ∃ᶠ n in atTop, H n) (hact : ∀ n, P n → H n → Q n) :
    LeadsTo P Q := by
  refine h.leadsTo fun n hp => ?_
  obtain ⟨m, hm, hH⟩ := frequently_atTop.mp hhelp n
  exact ⟨m, hm, hact m (hp m hm) hH⟩

/-- `R` asks for the help `H`; asked again and again, it comes again and again. -/
theorem Unless.leadsTo_of_asked (h : Unless P Q) (hask : ∀ n, (∀ m, n ≤ m → P m) → ∃ᶠ n in atTop, R n)
    (hhelp : (∃ᶠ n in atTop, R n) → ∃ᶠ n in atTop, H n) (hact : ∀ n, P n → H n → Q n) : LeadsTo P Q := by
  refine h.leadsTo fun n hp => ?_
  obtain ⟨m, hm, hH⟩ := frequently_atTop.mp (hhelp (hask n hp)) n
  exact ⟨m, hm, hact m (hp m hm) hH⟩

end LedWireDriver.Temporal
