/-
  LedWireDriver.Delivery — what becomes of an `Ok` write.

  Over every finite run of a configured driver the updates of a channel are conserved: each
  `Ok` write was carried by one accepted batch, was merged into a later update, or is still
  waiting (`updates_conserved`). Over every endless run in which the host goes on calling
  `commit` and `service` and the backend keeps its contract (`FairRun`), every `Ok` write is
  committed and carried by an accepted batch (`write_delivered`).
-/

import LedWireDriver.Spec.Delivery
import LedWireDriver.Commit
import LedWireDriver.Routing

namespace LedWireDriver

open Filter Words History Batching Api Engine Pack

variable {B : Type} [LedBackend B] {f : Features} {c : ChannelId}

/-! ## Counting updates -/

namespace Transition

/-- A write on `c` that returned `Ok`. -/
def isOkWrite (c : ChannelId) (t : Transition B) : Bool :=
  match t.op, t.result with
  | .writeRgb48 channel _, .ok _ => channel.id = c
  | _, _ => false

/-- How many writes on `c` returned `Ok`. -/
def okWriteCount (c : ChannelId) (ts : List (Transition B)) : Nat := ts.countP (·.isOkWrite c)

/-- Two updates of `c` became one: an `Ok` write while an earlier one is uncommitted, or an
    `Ok` commit of one while an earlier commit's is unsent. -/
def Merges (c : ChannelId) (pre : List (Transition B)) (t : Transition B) : Prop :=
  t.WritesOk c ∧ Uncommitted c pre ∨ t.CommitsOk ∧ Uncommitted c pre ∧ Unsent c pre

omit [LedBackend B] in
theorem isOkWrite_iff {t : Transition B} : t.isOkWrite c = true ↔ t.WritesOk c := by
  obtain ⟨before, op, result, calls, after⟩ := t
  unfold isOkWrite WritesOk
  cases op <;> cases result <;> simp

end Transition

section Histories

variable {ts : List (Transition B)}

omit [LedBackend B] in
theorem written_count (c : ChannelId) (ho : ∀ t ∈ ts, Observes t t.label) :
    Batching.written c (ts.map Transition.label) = Transition.okWriteCount c ts := by
  unfold Batching.written Transition.okWriteCount
  rw [List.countP_map]
  refine List.countP_congr fun t ht => ?_
  simp only [Function.comp_apply, decide_eq_true_eq]
  rw [(ho t ht).writes, Transition.isOkWrite_iff]

omit [LedBackend B] in
theorem merges_tally (c : ChannelId) (ho : ∀ t ∈ ts, Observes t t.label) :
    tally (Batching.Merges c) (ts.map Transition.label) = tally (Transition.Merges c) ts := by
  rw [tally_map]
  refine tally_congr fun pre t post hx => ?_
  subst hx
  have hpre : ∀ x ∈ pre, Observes x x.label := fun x hx => ho x (by simp [hx])
  have ht := ho t (by simp)
  unfold Batching.Merges Transition.Merges
  rw [ht.writes, ht.commits, uncommitted_iff hpre, unsent_iff hpre]

end Histories

namespace Api.Driver

variable {setup : PreparedSetup} {handles : ConfiguredChannels} {d : Driver (Recorder B) .ready}

open Classical in
/-- Every update is carried once, merged into a later one, or waiting. -/
theorem updates_conserved (hc : Configured setup handles d) (f : Features) (ops : List Op) (c : ChannelId) :
    Transition.okWriteCount c (d.trace f ops) =
      Transition.startedCount c (d.trace f ops) + tally (Transition.Merges c) (d.trace f ops) +
        (if Transition.Uncommitted c (d.trace f ops) then 1 else 0) +
        if Transition.Unsent c (d.trace f ops) then 1 else 0 := by
  have ho := observed (f := f) hc.inv ops
  have hrun := hc.run (f := f) ops
  have heq := Batching.written_eq hrun c
  rw [written_count c ho, merges_tally c ho, carried_eq c ho,
    if_congr ((mem_dirty hrun c).trans (uncommitted_iff ho)) rfl rfl,
    if_congr ((mem_pending hrun c).trans (unsent_iff ho)) rfl rfl] at heq
  exact heq

open TestSupport in
open Classical in
theorem updates_conserved_pair :
    Transition.okWriteCount ⟨0⟩ (pair.1.trace bayer lagging) =
      Transition.startedCount ⟨0⟩ (pair.1.trace bayer lagging) +
        tally (Transition.Merges ⟨0⟩) (pair.1.trace bayer lagging) +
        (if Transition.Uncommitted ⟨0⟩ (pair.1.trace bayer lagging) then 1 else 0) +
        if Transition.Unsent ⟨0⟩ (pair.1.trace bayer lagging) then 1 else 0 :=
  updates_conserved pair_configured bayer lagging ⟨0⟩

/-! ## Endless runs -/

/-- The driver before the `n`-th of an endless sequence of calls. -/
def nth (f : Features) (d : Driver (Recorder B) .ready) (ops : Nat → Op) (n : Nat) : Driver (Recorder B) .ready :=
  d.afterOps f ((List.range n).map ops)

/-- The `n`-th call. -/
def call (f : Features) (d : Driver (Recorder B) .ready) (ops : Nat → Op) (n : Nat) : Transition B :=
  (d.nth f ops n).transition f (ops n)

/-- The host goes on calling, and the backend keeps its contract. -/
structure FairRun (f : Features) (d : Driver (Recorder B) .ready) (ops : Nat → Op) : Prop where
  commits : ∃ᶠ n in atTop, ops n = .commit
  services : ∃ᶠ n in atTop, ops n = .service
  /-- Every accepted batch is completed. -/
  completes : ∀ n m, (d.call f ops n).Starts m → ∃ k, n < k ∧ (d.call f ops k).Completes
  /-- A completion is for an accepted batch that was not completed before. -/
  solicited : ∀ n, (d.call f ops n).Completes → ∃ k < n, (∃ m, (d.call f ops k).Starts m) ∧
    ∀ j, k < j → j < n → ¬(d.call f ops j).Completes
  /-- A transport that is offered batches again and again accepts again and again. -/
  accepts : (∃ᶠ n in atTop, ∃ m, (d.call f ops n).Submits m) → ∃ᶠ n in atTop, ∃ m, (d.call f ops n).Starts m

variable {ops : Nat → Op}

theorem nth_succ (n : Nat) : d.nth f ops (n + 1) = (d.call f ops n).after := by
  unfold nth call
  rw [List.range_succ, List.map_append, List.map_singleton, afterOps_snoc]
  rfl

theorem call_before (n : Nat) : (d.call f ops n).before = d.nth f ops n := transition_before _

theorem call_op (n : Nat) : (d.call f ops n).op = ops n := transition_op _

theorem Configured.call_reached (hc : Configured setup handles d) (f : Features) (ops : Nat → Op) (n : Nat) :
    ∃ r, Inv setup (d.call f ops n).before.engine r ∧ Effect f r (d.call f ops n) := by
  obtain ⟨r, hi, he⟩ := hc.reached (f := f) ((List.range n).map ops)
  exact ⟨r, by rwa [call_before], he (ops n)⟩

theorem Configured.call_observes (hc : Configured setup handles d) (f : Features) (ops : Nat → Op) (n : Nat) :
    Observes (d.call f ops n) (d.call f ops n).label := by
  obtain ⟨r, hi, he⟩ := hc.call_reached f ops n
  exact he.observes hi

/-- An endless run of a configured driver is one of the protocol. -/
theorem Configured.endless (hc : Configured setup handles d) (f : Features) (ops : Nat → Op) :
    Endless (·.wrappingAdd 1) (fun _ => .zero) (fun n => (d.nth f ops n).engine.abstraction)
      fun n => (d.call f ops n).label where
  start := (run_nil_iff.mp (hc.run (f := f) [])).symm
  step n := by
    obtain ⟨r, hi, he⟩ := hc.call_reached f ops n
    have hstep := he.step hi
    rwa [call_before, ← nth_succ] at hstep

section Fair

variable (hc : Configured setup handles d) (hf : FairRun f d ops)
include hc hf

theorem FairRun.not_strayed (n : Nat) : (d.call f ops n).label ≠ .strayed := by
  intro hstray
  have hr := hc.endless f ops
  have hcomp : (d.call f ops n).Completes := by
    rw [← (hc.call_observes f ops n).completes, hstray]
    trivial
  obtain ⟨k, hk, hst, hno⟩ := hf.solicited n hcomp
  -- the batch accepted by the `k`-th call is still awaited
  have hawait : ∀ j, k + 1 ≤ j → j ≤ n → (d.nth f ops j).engine.abstraction.Awaiting := by
    intro j hj
    induction j, hj using Nat.le_induction with
    | base => exact fun _ => hr.awaiting_started ((hc.call_observes f ops k).starts_iff.mpr hst)
    | succ j hj ih =>
      intro hle
      refine (hr.awaiting_unless j (ih (by omega))).resolve_right fun hc' => ?_
      exact hno j (by omega) (by omega) ((hc.call_observes f ops j).completes.mp hc')
  obtain ⟨m, hm⟩ := hawait n (by omega) (le_refl n)
  have hstep := hr.step n
  rw [hstray] at hstep
  generalize (d.nth f ops n).engine.abstraction = s, (d.nth f ops (n + 1)).engine.abstraction = s' at *
  cases hstep with
  | strayed hflight => rw [hflight] at hm; cases hm

theorem FairRun.clear (n : Nat) : (d.call f ops n).before.engine.abstraction.stray = false := by
  rw [call_before]
  exact (hc.endless f ops).stray_free (hf.not_strayed hc) n

/-- What the protocol calls fair. -/
theorem FairRun.fair : Fair fun n => (d.call f ops n).label where
  serves := by
    refine hf.services.mono fun n hop => ?_
    rw [Transition.label_service ((call_op n).trans hop) (hf.clear hc n)]
    split <;> trivial
  completes := by
    intro n hst
    obtain ⟨m, hm⟩ := (hc.call_observes f ops n).starts_iff.mp hst
    obtain ⟨k, hk, hcomp⟩ := hf.completes n m hm
    exact ⟨k, hk, (hc.call_observes f ops k).completes.mpr hcomp⟩
  accepts := by
    intro hoffers
    refine (hf.accepts (hoffers.mono fun n ho => ?_)).mono fun n hst => (hc.call_observes f ops n).starts_iff.mpr hst
    -- an offered batch is the pending mask
    obtain ⟨r, hi, -⟩ := hc.call_reached f ops n
    have hpending : (d.nth f ops n).engine.abstraction.pending = channels r.pendingMask.bits := by
      rw [← call_before, LedEngine.abstraction_ready hi.lifecycle]
      rfl
    refine ⟨r.pendingMask.bits, ((hc.call_observes f ops n).submits _).mpr ?_⟩
    rw [← hpending]
    have hstep := (hc.endless f ops).step n
    change (d.call f ops n).label.Offers at ho
    generalize (d.call f ops n).label = l, (d.nth f ops n).engine.abstraction = s,
      (d.nth f ops (n + 1)).engine.abstraction = s' at *
    cases hstep with
    | started => exact Or.inl rfl
    | refused => exact Or.inr rfl
    | _ => cases ho
  solicited := hf.not_strayed hc

end Fair

/-- In a fair run every `Ok` write is committed, and then carried by an accepted batch. -/
theorem write_delivered (hc : Configured setup handles d) (hf : FairRun f d ops) {n : Nat} {c : ChannelId}
    (hw : (d.call f ops n).WritesOk c) :
    ∃ k j m, n < k ∧ k < j ∧ (d.call f ops k).CommitsOk ∧ (d.call f ops j).Starts m ∧ has m c.asIndex = true := by
  have hr := hc.endless f ops
  have hfair := hf.fair hc
  -- the write makes the channel dirty
  have hdirty : c ∈ (d.nth f ops (n + 1)).engine.abstraction.dirty := by
    have hl := ((hc.call_observes f ops n).writes c).mpr hw
    have hstep := hr.step n
    generalize (d.call f ops n).label = l, (d.nth f ops n).engine.abstraction = s,
      (d.nth f ops (n + 1)).engine.abstraction = s' at *
    cases hstep with
    | wrote c' => exact Set.mem_insert_iff.mpr (Or.inl hl.symm)
    | _ => cases hl
  have hcommits : ∃ᶠ n in atTop, (d.call f ops n).label.Commits := by
    refine hf.commits.mono fun n hop => ?_
    rw [Transition.label_commit ((call_op n).trans hop) (hf.clear hc n)]
    trivial
  obtain ⟨k, hk, hcommit, hpending⟩ := hr.dirty_committed hcommits (n + 1) hdirty
  obtain ⟨j, hj, hcarries⟩ := hr.pending_carried hfair (k + 1) hpending
  have hst : (d.call f ops j).label.Starts := by
    generalize (d.call f ops j).label = l at hcarries
    cases l <;> first | exact hcarries | trivial
  obtain ⟨m, hm⟩ := (hc.call_observes f ops j).starts_iff.mp hst
  refine ⟨k, j, m, by omega, by omega, (hc.call_observes f ops k).commits.mp hcommit, hm, ?_⟩
  rw [((hc.call_observes f ops j).started m).mp hm] at hcarries
  exact hcarries

section Witness

open TestSupport

/-- One write, sent and completed, and then commits and services without end. -/
def ending : Nat → Op
  | 0 => .writeRgb48 (handle 0) frame
  | 1 => .commit
  | 2 => .service
  | 3 => .onBackendEvent .transferComplete
  | n + 4 => if n % 2 = 0 then .commit else .service

theorem ending_sent : (pair.1.call .default ending 2).Starts 1 := by
  unfold Transition.Starts
  decide +kernel

theorem ending_quiet (n : Nat) (hn : 4 ≤ n) : ∀ m, ¬(pair.1.call .default ending n).Submits m := by
  have hr := pair_configured.endless .default ending
  -- after the fourth call nothing is dirty or pending
  have hempty : (pair.1.nth .default ending n).engine.abstraction.dirty = ∅ ∧
      (pair.1.nth .default ending n).engine.abstraction.pending = ∅ := by
    induction n, hn using Nat.le_induction with
    | base =>
      have hready : (pair.1.nth .default ending 4).engine.lifecycle = .ready ⟨.inFlight true ⟨1⟩, .zero, .zero, false⟩ := by
        decide +kernel
      rw [LedEngine.abstraction_ready hready]
      exact ⟨channels_zero, channels_zero⟩
    | succ n hn ih =>
      have hnot : ∀ c, ¬(pair.1.call .default ending n).label.Writes c := by
        intro c hw
        obtain ⟨_, _, hop, -⟩ := ((pair_configured.call_observes .default ending n).writes c).mp hw
        obtain ⟨k, rfl⟩ := Nat.exists_eq_add_of_le' hn
        rw [call_op] at hop
        simp only [ending] at hop
        split at hop <;> cases hop
      have hstep := hr.step n
      generalize (pair.1.call .default ending n).label = l, (pair.1.nth .default ending n).engine.abstraction = s,
        (pair.1.nth .default ending (n + 1)).engine.abstraction = s' at *
      cases hstep with
      | wrote c => exact absurd rfl (hnot c)
      | committed => exact ⟨rfl, by simp [ih.1, ih.2]⟩
      | started => exact ⟨ih.1, rfl⟩
      | _ => exact ih
  intro m hm
  obtain ⟨r, hi, he⟩ := pair_configured.call_reached .default ending n
  obtain ⟨-, -, -, rfl, hne⟩ := he.submits hm
  rw [← call_before, LedEngine.abstraction_ready hi.lifecycle] at hempty
  exact hne (channels_eq_empty.mp hempty.2)

theorem ending_fair : FairRun .default pair.1 ending where
  commits := frequently_atTop.mpr fun n => ⟨2 * n + 4, by omega, by simp [ending]⟩
  services := frequently_atTop.mpr fun n => ⟨2 * n + 1 + 4, by omega, by simp [ending]⟩
  completes := by
    intro n m hm
    obtain ⟨r, hi, he⟩ := pair_configured.call_reached .default ending n
    have hop := (he.submits ⟨_, hm⟩).1
    rw [call_op] at hop
    have hn : n < 4 := by
      by_contra hn
      exact ending_quiet n (by omega) m ⟨_, hm⟩
    interval_cases n <;> cases hop
    exact ⟨3, by decide, call_op 3⟩
  solicited := by
    intro n hc
    have hop : ending n = .onBackendEvent .transferComplete := (call_op n).symm.trans hc
    have hn : n = 3 := by
      rcases n with _ | _ | _ | _ | n
      · cases hop
      · cases hop
      · cases hop
      · rfl
      · simp only [ending] at hop
        split at hop <;> cases hop
    subst hn
    exact ⟨2, by decide, ⟨1, ending_sent⟩, fun j hj hj' => by omega⟩
  accepts := by
    intro hsubmits
    obtain ⟨n, hn, m, hm⟩ := frequently_atTop.mp hsubmits 4
    exact absurd hm (ending_quiet n hn m)

theorem write_delivered_ending : ∃ k j m, 0 < k ∧ k < j ∧ (pair.1.call .default ending k).CommitsOk ∧
    (pair.1.call .default ending j).Starts m ∧ has m (0 : Nat) = true :=
  write_delivered pair_configured ending_fair (n := 0) (c := ⟨0⟩)
    ⟨handle 0, frame, call_op 0, rfl, by decide +kernel⟩

end Witness

end Api.Driver

end LedWireDriver
