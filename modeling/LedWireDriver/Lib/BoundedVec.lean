/-
  LedWireDriver.Lib.BoundedVec — a vector of at most `n` items whose `push` fails when it
  is full.
-/

namespace LedWireDriver

structure BoundedVec (α : Type) (n : Nat) where
  toList : List α
  length_le : toList.length ≤ n
  deriving DecidableEq

namespace BoundedVec

variable {α : Type} {n : Nat}

def empty : BoundedVec α n := ⟨[], Nat.zero_le n⟩

def push (v : BoundedVec α n) (x : α) : Option (BoundedVec α n) :=
  if h : v.toList.length < n then some ⟨v.toList ++ [x], by rw [List.length_append]; exact h⟩ else none

@[simp] theorem toList_empty : (empty : BoundedVec α n).toList = [] := rfl

theorem length_of_push {v v' : BoundedVec α n} {x : α} (h : v.push x = some v') :
    v'.toList.length = v.toList.length + 1 := by
  unfold push at h
  split at h
  · cases h; simp
  · cases h

theorem push_some {v : BoundedVec α n} (h : v.toList.length < n) (x : α) :
    ∃ v', v.push x = some v' ∧ v'.toList = v.toList ++ [x] :=
  ⟨_, dif_pos h, rfl⟩

theorem push_none {v : BoundedVec α n} (h : v.toList.length = n) (x : α) : v.push x = none :=
  dif_neg (by omega)

end BoundedVec

end LedWireDriver
