/-
  LedWireDriver.Lib.Monitor — protocols a log is checked against, call by call.

  A monitor has a state for each point of the protocol, and says of every call whether it
  may come next and where it leads. Logs are checked piece by piece (`run_trans`).
  `Run.monitored` is the run rule: if every step of a system adds calls that lead the
  monitor from a state that attends the system to one that attends it again, so does every
  run.
-/

import LedWireDriver.Lib.History

namespace LedWireDriver.Monitors

open History

structure Monitor (Q L : Type*) where
  start : Q
  next : Q → L → Option Q

variable {Q L S E : Type*} (M : Monitor Q L)

namespace Monitor

def run (q : Q) (log : List L) : Option Q := log.foldlM M.next q

/-- Where the protocol is after a whole log, if the log keeps to it. -/
def check (log : List L) : Option Q := M.run M.start log

@[simp] theorem run_nil (q : Q) : M.run q [] = some q := rfl

@[simp] theorem run_cons (q : Q) (call : L) (log : List L) : M.run q (call :: log) = (M.next q call).bind (M.run · log) :=
  List.foldlM_cons ..

variable {M}

theorem run_trans {q q' q'' : Q} {log log' : List L} (h : M.run q log = some q') (h' : M.run q' log' = some q'') :
    M.run q (log ++ log') = some q'' := by
  unfold run at h ⊢
  rw [List.foldlM_append, h]
  exact h'

end Monitor

/-- `attends s q` links a state of the system to one of the monitor, and `calls e` are the
    calls that a step labelled `e` adds to the log. -/
theorem Run.monitored {M : Monitor Q L} {step : S → E → S → Prop} {attends : S → Q → Prop} {calls : E → List L}
    (keep : ∀ s e s' q, attends s q → step s e s' → ∃ q', M.run q (calls e) = some q' ∧ attends s' q')
    {s s' : S} {h : List E} (hr : Run step s h s') {q : Q} (h0 : attends s q) :
    ∃ q', M.run q (h.flatMap calls) = some q' ∧ attends s' q' := by
  induction hr with
  | nil => exact ⟨q, rfl, h0⟩
  | snoc _ hs ih =>
    obtain ⟨q₁, hq₁, ha₁⟩ := ih
    obtain ⟨q₂, hq₂, ha₂⟩ := keep _ _ _ _ ha₁ hs
    rw [List.flatMap_append, List.flatMap_singleton]
    exact ⟨q₂, Monitor.run_trans hq₁ hq₂, ha₂⟩

end LedWireDriver.Monitors
