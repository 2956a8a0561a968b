/-
  LedWireDriver.Lib.CompareExchange — one shared word, updated by any number of callers in a
  loop of one load and repeated weak compare-exchanges.

  A caller in the loop holds the value it last read, which may be stale. An exchange
  succeeds when the word still is that value: the caller takes `take current` and writes
  `next current`. It fails when the word changed, and a weak one may fail spuriously when
  it did not; a caller that failed goes on with the value it observed. Every step is one
  atomic operation of one caller.
  - `word_eq`: after any steps the word is the iterate of `next` counted by the successes.
  - `taken_eq`: the successes take, in their order, what `take` gives on those iterates.
-/

import Mathlib.Logic.Function.Iterate
import LedWireDriver.Lib.History

namespace LedWireDriver.CompareExchange

open History

variable {ι V A : Type*}

structure State (ι V : Type*) where
  word : V
  /-- What a caller in the loop last read; `none` outside the loop. -/
  current : ι → Option V

/-- Nobody is in the loop. -/
def State.init (v₀ : V) : State ι V := ⟨v₀, fun _ => none⟩

inductive Label (ι A : Type*) where
  | loaded (i : ι)
  | took (i : ι) (a : A)
  | changed (i : ι)
  | spurious (i : ι)

/-- What the successful exchanges took, in their order. -/
def taken : List (Label ι A) → List A
  | [] => []
  | .took _ a :: h => a :: taken h
  | .loaded _ :: h | .changed _ :: h | .spurious _ :: h => taken h

variable [DecidableEq ι]

def State.observe (s : State ι V) (i : ι) : State ι V := { s with current := Function.update s.current i (some s.word) }

inductive Step (take : V → A) (next : V → V) : State ι V → Label ι A → State ι V → Prop
  | load (s : State ι V) (i : ι) : s.current i = none → Step take next s (.loaded i) (s.observe i)
  | success (s : State ι V) (i : ι) (current : V) : s.current i = some current → s.word = current →
      Step take next s (.took i (take current)) ⟨next current, Function.update s.current i none⟩
  | changed (s : State ι V) (i : ι) (current : V) : s.current i = some current → s.word ≠ current →
      Step take next s (.changed i) (s.observe i)
  | spurious (s : State ι V) (i : ι) (current : V) : s.current i = some current → s.word = current →
      Step take next s (.spurious i) (s.observe i)

variable {take : V → A} {next : V → V} {v₀ : V} {s : State ι V} {h : List (Label ι A)}

omit [DecidableEq ι] in
theorem taken_append (h h' : List (Label ι A)) : taken (h ++ h') = taken h ++ taken h' := by
  induction h with
  | nil => rfl
  | cons l h ih => cases l <;> simp [taken, ih]

theorem word_eq (hr : Run (Step take next) (.init v₀) h s) : s.word = next^[(taken h).length] v₀ := by
  refine hr.history (P := fun h s => s.word = next^[(taken h).length] v₀) rfl ?_
  intro h m l m' _ ih hs
  rw [taken_append]
  cases hs with
  | success i current _ hc =>
    simp only [taken, List.length_append, List.length_singleton, Function.iterate_succ_apply', ← ih, hc]
  | _ => simpa [taken, State.observe] using ih

/-- The successes go through the iterates of `next` one by one, whatever the callers held
    in between. -/
theorem taken_eq (hr : Run (Step take next) (.init v₀) h s) :
    taken h = (List.range (taken h).length).map fun k => take (next^[k] v₀) := by
  refine hr.history (P := fun h _ => taken h = (List.range (taken h).length).map fun k => take (next^[k] v₀)) rfl ?_
  intro h m l m' hr ih hs
  rw [taken_append]
  cases hs with
  | success i current _ hc =>
    -- the exchange succeeded on the word itself
    have hword := word_eq hr
    simp only [taken, List.length_append, List.length_singleton, List.range_succ, List.map_append, List.map_singleton,
      ← ih, ← hword, hc]
  | _ => simpa [taken] using ih

theorem taken_getElem? (hr : Run (Step take next) (.init v₀) h s) {k : Nat} {a : A} (ha : (taken h)[k]? = some a) :
    a = take (next^[k] v₀) := by
  rw [taken_eq hr, List.getElem?_map, Option.map_eq_some_iff] at ha
  obtain ⟨j, hj, rfl⟩ := ha
  rw [List.getElem?_range (by simpa using (List.getElem?_eq_some_iff.mp hj).1)] at hj
  rw [← Option.some.inj hj]

end LedWireDriver.CompareExchange
