/-
  LedWireDriver.Refused — a refused submission leaves no trace.

  Two runs of the same calls, one without some of the services that the backend refused: as
  long as the backends answer the remaining calls alike (`Answered`), those return the
  same and make the same backend calls, and the accepted batch is the same
  (`refused_invisible`). In between the two drivers differ: a refused service has already
  retired a completed batch, which the other driver still holds (`Lags`).
-/

import LedWireDriver.Replay
import LedWireDriver.TestSupport

namespace LedWireDriver

open Words Api Engine Pack

variable {B B' : Type} {f : Features}

/-- The second backend replies as the first one for as long as it is asked the same. What a
    lease exposes, also when it is published, is a reply; what is written into it is not. -/
def Answered (calls calls' : List BackendCall) : Prop := RepliesAlike Eq calls calls'

theorem answered_of_calls {ts : List (Transition B)} {ts' : List (Transition B')}
    (h : ts.map (·.calls) = ts'.map (·.calls)) : List.Forall₂ (fun t t' => Answered t.calls t'.calls) ts ts' := by
  rw [← List.forall₂_eq_eq_eq, List.forall₂_map_left_iff, List.forall₂_map_right_iff] at h
  exact h.imp fun t t' heq => heq ▸ (SameCalls.refl unread_eq _).repliesAlike unread_eq

/-- A service whose submission was refused. -/
def Transition.Refused (t : Transition B) : Prop :=
  t.op = .service ∧ ∃ m reply, .submitChannels m reply ∈ t.calls ∧ reply ≠ .ok .started

/-- The calls `kept` of a run from which some refused services were deleted. -/
def Thinned : List (Transition B) → List (Transition B) → Prop := Deleted fun t _ => t.Refused

/-! ## The two ready states -/

/-- Ready states of the two runs: the first one may have retired a completed batch that the
    second one still holds, if there is a batch to offer next. -/
structure Lags (r r' : ReadyState) : Prop where
  clear : r.ingressViolation = false
  clear' : r'.ingressViolation = false
  dirty : r'.dirtyMask = r.dirtyMask
  pending : r'.pendingMask = r.pendingMask
  transfer : r'.transfer = r.transfer ∨
    r.transfer = .idle ∧ (∃ mask, r'.transfer = .inFlight true mask) ∧ r.pendingMask.bits ≠ 0

theorem Lags.eq {r r' : ReadyState} (h : Lags r r') (ht : r'.transfer = r.transfer) : r' = r :=
  ReadyState.ext ht h.dirty h.pending (h.clear'.trans h.clear.symm)

/-- Both or neither wait for a completion. -/
theorem Lags.free_iff {r r' : ReadyState} (h : Lags r r') : r'.transfer.Free ↔ r.transfer.Free := by
  rcases h.transfer with ht | ⟨ht, ⟨mask, ht'⟩, -⟩
  · rw [ht]
  · rw [ht, ht']
    refine ⟨fun _ mask h => ?_, fun _ mask h => ?_⟩
    · cases h
    · cases h

theorem Lags.guards {r r' : ReadyState} (h : Lags r r') : GuardsAlike r r' :=
  ⟨h.clear'.trans h.clear.symm, h.pending, h.free_iff⟩

/-- A call that both runs make, and that delivers no event. -/
theorem Lags.moved {r r' : ReadyState} (h : Lags r r') {move : Move} (hm : move ≠ .tell) :
    Lags (r.moved move) (r'.moved move) := by
  cases move with
  | stay => exact h
  | surface => exact ⟨rfl, rfl, h.dirty, h.pending, h.transfer⟩
  | write channel =>
    exact ⟨h.clear, h.clear', by simp only [ReadyState.moved, ReadyState.wrote, h.dirty], h.pending, h.transfer⟩
  | commit =>
    refine ⟨h.clear, h.clear', rfl, by simp only [ReadyState.moved, h.dirty, h.pending], ?_⟩
    -- committing takes nothing out of the pending batch
    rcases h.transfer with hsame | ⟨hidle, hheld, hp⟩
    · exact Or.inl hsame
    · exact Or.inr ⟨hidle, hheld, fun h0 => hp (UInt32.or_eq_zero_iff.mp h0).1⟩
  | retire => exact ⟨h.clear, h.clear', h.dirty, h.pending, Or.inl rfl⟩
  | start => exact ⟨h.clear, h.clear', h.dirty, rfl, Or.inl (by simp only [ReadyState.moved, h.pending])⟩
  | tell => exact absurd rfl hm

variable [LedBackend B] [LedBackend B']

/-- What a refused service leaves. -/
theorem Effect.refusal {r : ReadyState} {t : Transition B} (h : Effect f r t) (hr : t.Refused)
    (hv : r.ingressViolation = false) : r.transfer.Free ∧ r.pendingMask.bits ≠ 0 ∧
      t.after.engine.lifecycle = .ready { r with transfer := .idle } ∧
      t.after.engine.channels = t.before.engine.channels := by
  obtain ⟨hop, m, reply, hm, hreply⟩ := hr
  by_cases ht : r.transfer.Free
  case neg =>
    rw [(h.waits hop hv ht).2.1] at hm
    cases hm
  by_cases hp : r.pendingMask.bits = 0
  · rw [(h.rests hop hv ht hp).2.1] at hm
    cases hm
  obtain ⟨reply', backend, hcalls, -, hafter⟩ := h.offers hop hv ht hp
  rw [hcalls, List.mem_singleton] at hm
  cases hm
  have hengine : t.before.engine.answered r reply backend = { t.before.engine.retired r with backend } := by
    unfold LedEngine.answered
    split
    · exact absurd rfl hreply
    · rfl
  rw [hafter, hengine]
  exact ⟨ht, hp, rfl, rfl⟩

/-- A refused service that only the first run makes. -/
theorem Lags.deleted {r r' : ReadyState} (h : Lags r r') (ht : r.transfer.Free) (hp : r.pendingMask.bits ≠ 0) :
    Lags { r with transfer := .idle } r' := by
  refine ⟨h.clear, h.clear', h.dirty, h.pending, ?_⟩
  -- what the second run still holds is complete
  cases ht' : r'.transfer with
  | idle => exact Or.inl rfl
  | inFlight complete mask =>
    have hfree := h.free_iff.mpr ht
    rw [ht'] at hfree
    cases complete with
    | false => exact absurd rfl (hfree mask)
    | true => exact Or.inr ⟨rfl, ⟨mask, rfl⟩, hp⟩

/-- The lag is kept for as long as no event is delivered. -/
theorem lags_carried : Carried f (fun (t : Transition B) _ => t.Refused)
    fun ts r r' => Lags r r' ∧ ∀ t ∈ ts, ∀ event, t.op ≠ .onBackendEvent event where
  guards _ _ _ h := h.1.guards
  keep t ts r r' move h hm := by
    refine ⟨h.1.moved ?_, fun t ht => h.2 t (List.mem_cons_of_mem _ ht)⟩
    intro htell
    subst htell
    obtain ⟨event, hop⟩ := hm
    exact h.2 t List.mem_cons_self event hop
  delete setup t ts r r' h he hi hr := by
    obtain ⟨ht, hp, hs, hch⟩ := he.refusal hr h.1.clear
    exact ⟨_, hs, hch, h.1.deleted ht hp, fun t ht => h.2 t (List.mem_cons_of_mem _ ht)⟩

/-! ## The two runs -/

/-- An accepted submission is the call's only one, and leaves a batch in flight. -/
theorem Effect.starts {r : ReadyState} {t : Transition B} {m : UInt32} (h : Effect f r t) (hm : t.Starts m) :
    t.calls = [.submitChannels m (.ok .started)] ∧
      ∀ s, t.after.engine.lifecycle = .ready s → s.transfer ≠ .idle := by
  unfold Transition.Starts at hm
  cases h with
  | started =>
    refine ⟨by rw [List.mem_singleton.mp hm], fun s hs hidle => ?_⟩
    cases hs
    cases hidle
  | unwritten _ _ _ _ hw | wrote _ _ _ _ hw => exact absurd hm (hw.no_submit.1 m (.ok .started))
  | _ => simp at hm

namespace Api.Driver

variable {setup : PreparedSetup} {handles : ConfiguredChannels} {r : ReadyState} {d : Driver (Recorder B) .ready}
  {d' : Driver (Recorder B') .ready} {ops : List Op} {kept : List (Transition B)}

/-- Deleting refused services before an accepted one changes neither what the other calls
    return and do, nor the accepted batch, nor the state. -/
theorem refused_invisible (hc : Configured setup handles d) (ops₀ : List Op)
    (hr : (d.afterOps f ops₀).engine.lifecycle = .ready r) (hv : r.ingressViolation = false)
    (hsame : SameState (d.afterOps f ops₀) d') (hops : ∀ op ∈ ops, ∀ event, op ≠ .onBackendEvent event) {m : UInt32}
    (hstart : (((d.afterOps f ops₀).afterOps f ops).transition f .service).Starts m)
    (hthin : Thinned ((d.afterOps f ops₀).trace f (ops ++ [.service])) kept)
    (hans : List.Forall₂ (fun t t' => Answered t.calls t'.calls) kept (d'.trace f (kept.map (·.op)))) :
    List.Forall₂ (fun t t' => t'.result = t.result ∧ t'.calls = t.calls) kept (d'.trace f (kept.map (·.op))) ∧
      (∃ t', (d'.trace f (kept.map (·.op))).getLast? = some t' ∧ t'.Starts m) ∧
      SameState ((d.afterOps f ops₀).afterOps f (ops ++ [.service])) (d'.afterOps f (kept.map (·.op))) := by
  obtain ⟨q, hi, -⟩ := hc.reached (f := f) ops₀
  cases hr.symm.trans hi.lifecycle
  generalize d.afterOps f ops₀ = d₀ at *
  have hevents : ∀ t ∈ d₀.trace f (ops ++ [.service]), ∀ event, t.op ≠ .onBackendEvent event := by
    intro t ht event
    rcases List.mem_append.mp (mem_trace_op ht) with hop | hop
    · exact hops _ hop event
    · rw [List.mem_singleton.mp hop]
      simp
  obtain ⟨hsides, s, s', hpaired, hlags, -⟩ := (hsame.paired hi).run lags_carried unread_eq
    ⟨⟨hv, hv, rfl, rfl, Or.inl rfl⟩, hevents⟩ hthin hans
  have hagree : List.Forall₂ (fun t t' => t'.result = t.result ∧ t'.calls = t.calls) kept
      (d'.trace f (kept.map (·.op))) := hsides.imp fun _ _ h => ⟨h.1, h.2.eq⟩
  obtain ⟨q, hq⟩ := (refines (f := f) hi ops).2
  have he := effect (f := f) hq .service
  have hidle : s.transfer ≠ .idle :=
    (he.starts hstart).2 _ (by rw [← afterOps_snoc]; exact hpaired.inv.lifecycle)
  refine ⟨hagree, ?_, hpaired.same (hlags.eq (hlags.transfer.resolve_right fun hx => hidle hx.1))⟩
  rw [trace_snoc] at hthin
  obtain ⟨pre, rfl⟩ := hthin.snoc (by
    rintro ⟨-, m, reply, hm, hreply⟩
    rw [(he.starts hstart).1, List.mem_singleton] at hm
    cases hm
    exact hreply rfl)
  rw [List.map_append, List.map_singleton, trace_snoc] at hagree ⊢
  have hlast := List.forall₂_reverse_iff.mpr hagree
  rw [List.reverse_append, List.reverse_append] at hlast
  obtain ⟨⟨-, hcalls⟩, -⟩ := List.forall₂_cons.mp hlast
  refine ⟨_, List.getLast?_concat, ?_⟩
  unfold Transition.Starts
  rw [hcalls]
  exact hstart

open TestSupport in
/-- The calls of `busy` but for its refused service. -/
def keptCalls : List (Transition FakeBackend) :=
  ((busy.1.afterOps .default []).trace .default (writing 0 ++ [.service] ++ [.service])).eraseIdx 2

open TestSupport in
theorem refused_invisible_busy :
    (∃ t', (pair.1.trace .default (keptCalls.map (·.op))).getLast? = some t' ∧ t'.Starts 1) ∧
      SameState ((busy.1.afterOps .default []).afterOps .default (writing 0 ++ [.service] ++ [.service]))
        (pair.1.afterOps .default (keptCalls.map (·.op))) := by
  have hready : (busy.1.afterOps .default []).engine.lifecycle = .ready .new := by decide +kernel
  have hsame : SameState (busy.1.afterOps .default []) pair.1 :=
    ⟨by decide +kernel, by decide +kernel, by decide +kernel, by decide +kernel, by decide +kernel⟩
  have hstart : (((busy.1.afterOps .default []).afterOps .default (writing 0 ++ [.service])).transition .default
      .service).Starts 1 := by
    unfold Transition.Starts
    decide +kernel
  have hrefused : .submitChannels 1 (.ok .busy) ∈
      (((busy.1.afterOps .default []).afterOps .default (writing 0)).transition .default .service).calls := by
    decide +kernel
  have hthin : Thinned ((busy.1.afterOps .default []).trace .default (writing 0 ++ [.service] ++ [.service]))
      keptCalls := .keep _ (.keep _ (.delete _ ⟨transition_op _, 1, _, hrefused, by decide⟩ (.keep _ .nil)))
  exact (refused_invisible busy_configured [] hready rfl hsame (by simp [writing]) hstart hthin
    (answered_of_calls (by decide +kernel))).2

end Api.Driver

end LedWireDriver
