/-
  LedWireDriver.Overwritten — only the last write before a commit counts.

  Two runs of the same calls, one without some of the writes that were written over before
  the next commit, and over a backend whose slices may hold other pixels: as long as the
  backends reply to the remaining calls alike (`RepliesAlike`), those return the same and
  ask and write the same, and the drivers end in the same state (`overwritten_invisible`).
  The driver never reads what a slice holds.
-/

import LedWireDriver.Replay
import LedWireDriver.TestSupport

namespace LedWireDriver

open Words Api Engine Pack

variable {B B' : Type} {f : Features}

/-! ## Written again -/

/-- The channels with an `Ok` write before the next `Ok` commit. -/
def rewritten : List (Transition B) → Set ChannelId
  | [] => ∅
  | t :: ts => {c | t.WritesOk c ∨ ¬t.CommitsOk ∧ c ∈ rewritten ts}

/-- The calls `kept` of a run from which some `Ok` writes were deleted that are written over
    before the next commit. -/
def Overwritten : List (Transition B) → List (Transition B) → Prop :=
  Deleted fun t ts => ∃ c, t.WritesOk c ∧ c ∈ rewritten ts

section Rewritten

variable {t : Transition B} {ts : List (Transition B)} {c : ChannelId}

theorem mem_rewritten_cons : c ∈ rewritten (t :: ts) ↔ t.WritesOk c ∨ ¬t.CommitsOk ∧ c ∈ rewritten ts := Iff.rfl

theorem rewritten_quiet (h : t.Quiet) : rewritten (t :: ts) = rewritten ts := by
  ext c
  rw [mem_rewritten_cons]
  exact ⟨fun hx => (hx.resolve_left (h.1 c)).2, fun hx => Or.inr ⟨h.2, hx⟩⟩

theorem rewritten_commit (h : t.CommitsOk) : rewritten (t :: ts) = ∅ := by
  ext c
  rw [mem_rewritten_cons]
  refine iff_of_false (fun hx => ?_) (Set.notMem_empty c)
  rcases hx with hw | ⟨hc, -⟩
  · obtain ⟨_, _, hop, -⟩ := hw
    rw [h.1] at hop
    cases hop
  · exact hc h

/-- What an `Ok` write of `c` does to the other channels. -/
theorem notMem_rewritten_write {channel : Channel} {pixels : List Rgb48} (hop : t.op = .writeRgb48 channel pixels)
    (hc : c ∉ rewritten ts) (hne : c ≠ channel.id) : c ∉ rewritten (t :: ts) := by
  rw [mem_rewritten_cons]
  rintro (hw | ⟨-, hmem⟩)
  · obtain ⟨channel', pixels', hop', hid, -⟩ := hw
    rw [hop] at hop'
    cases hop'
    exact hne hid.symm
  · exact hc hmem

end Rewritten

/-! ## The two ready states -/

/-- Ready states of the two runs: they differ in channels that will be written again. -/
structure Ahead (owed : Set ChannelId) (r r' : ReadyState) : Prop where
  transfer : r'.transfer = r.transfer
  pending : r'.pendingMask = r.pendingMask
  violation : r'.ingressViolation = r.ingressViolation
  dirty : ∀ c, c ∉ owed → (c ∈ channels r'.dirtyMask.bits ↔ c ∈ channels r.dirtyMask.bits)

theorem Ahead.dirty_eq {r r' : ReadyState} (h : Ahead ∅ r r') : r'.dirtyMask = r.dirtyMask := by
  have hbits : channels r'.dirtyMask.bits = channels r.dirtyMask.bits := Set.ext fun c => h.dirty c (Set.notMem_empty c)
  exact congrArg ChannelMask.mk (channels_injective hbits)

theorem Ahead.eq {r r' : ReadyState} (h : Ahead ∅ r r') : r' = r :=
  ReadyState.ext h.transfer h.dirty_eq h.pending h.violation

theorem Ahead.guards {owed : Set ChannelId} {r r' : ReadyState} (h : Ahead owed r r') : GuardsAlike r r' :=
  ⟨h.violation, h.pending, by rw [h.transfer]⟩

section Moves

variable {t : Transition B} {ts : List (Transition B)} {r r' : ReadyState}

/-- A write of a channel adds it to both. -/
theorem Ahead.wrote (h : Ahead (rewritten (t :: ts)) r r') {channel : Channel} {pixels : List Rgb48}
    (hop : t.op = .writeRgb48 channel pixels) (hlt : channel.asIndex < 32) :
    Ahead (rewritten ts) (r.wrote channel.asIndex (.ok ())) (r'.wrote channel.asIndex (.ok ())) := by
  refine ⟨h.transfer, h.pending, h.violation, fun c hc => ?_⟩
  simp only [ReadyState.wrote]
  rw [show channel.asIndex = channel.id.asIndex from rfl, channels_or_bit _ hlt, channels_or_bit _ hlt,
    Set.mem_insert_iff, Set.mem_insert_iff]
  by_cases hne : c = channel.id
  · rw [hne]
    simp
  · rw [h.dirty c (notMem_rewritten_write hop hc hne)]

/-- A call that both runs make. -/
theorem Ahead.moved (h : Ahead (rewritten (t :: ts)) r r') {move : Move} (hm : t.Makes move) :
    Ahead (rewritten ts) (r.moved move) (r'.moved move) := by
  cases move with
  | stay =>
    rw [rewritten_quiet hm] at h
    exact h
  | surface =>
    rw [rewritten_quiet hm] at h
    exact ⟨h.transfer, h.pending, rfl, h.dirty⟩
  | write channel =>
    obtain ⟨⟨pixels, hop⟩, hlt⟩ := hm
    exact h.wrote hop hlt
  | commit =>
    -- nothing is owed at an `Ok` commit
    rw [rewritten_commit hm] at h
    exact ⟨h.transfer, by simp only [ReadyState.moved, h.pending, h.dirty_eq], h.violation, fun _ _ => Iff.rfl⟩
  | retire =>
    rw [rewritten_quiet hm] at h
    exact ⟨rfl, h.pending, h.violation, h.dirty⟩
  | start =>
    rw [rewritten_quiet hm] at h
    exact ⟨by simp only [ReadyState.moved, h.pending], rfl, h.violation, h.dirty⟩
  | tell =>
    obtain ⟨event, hop⟩ := hm
    rw [rewritten_quiet (Transition.quiet_of_op (by simp [hop]) (by simp [hop]))] at h
    simp only [ReadyState.moved, ReadyState.told, h.transfer]
    split
    · exact ⟨rfl, h.pending, rfl, h.dirty⟩
    · exact ⟨rfl, h.pending, h.violation, h.dirty⟩

/-- A write that only the first run makes. -/
theorem Ahead.deleted (h : Ahead (rewritten (t :: ts)) r r') {channel : Channel} {pixels : List Rgb48}
    (hop : t.op = .writeRgb48 channel pixels) (hc : channel.id ∈ rewritten ts) (hlt : channel.asIndex < 32) :
    Ahead (rewritten ts) (r.wrote channel.asIndex (.ok ())) r' := by
  refine ⟨h.transfer, h.pending, h.violation, fun c hc' => ?_⟩
  have hne : c ≠ channel.id := fun e => hc' (e ▸ hc)
  simp only [ReadyState.wrote]
  rw [show channel.asIndex = channel.id.asIndex from rfl, channels_or_bit _ hlt, Set.mem_insert_iff, or_iff_right hne]
  exact h.dirty c (notMem_rewritten_write hop hc' hne)

end Moves

variable [LedBackend B] [LedBackend B']

theorem ahead_carried : Carried f (fun (t : Transition B) ts => ∃ c, t.WritesOk c ∧ c ∈ rewritten ts)
    fun ts => Ahead (rewritten ts) where
  guards _ _ _ h := h.guards
  keep _ _ _ _ _ h hm := h.moved hm
  delete setup t ts r r' h he hi hmay := by
    obtain ⟨c, ⟨channel, pixels, hop, rfl, hres⟩, hc⟩ := hmay
    obtain ⟨hsome, hs, hch⟩ := he.writesOk hop hres
    obtain ⟨record, hl⟩ := Option.isSome_iff_exists.mp hsome
    obtain ⟨hlt, -⟩ := hi.record hl
    have hmax : t.before.engine.maxChannels ≤ 8 := hi.maxChannels_le
    exact ⟨_, hs, hch, h.deleted hop hc (by omega)⟩

/-! ## The two runs -/

namespace Api.Driver

variable {setup : PreparedSetup} {handles : ConfiguredChannels} {d : Driver (Recorder B) .ready}
  {d' : Driver (Recorder B') .ready} {ops : List Op} {kept : List (Transition B)}

/-- Deleting writes that are written over before the next commit, over a backend whose slices
    may hold other pixels, changes neither what the other calls return, ask and write, nor
    the state. -/
theorem overwritten_invisible (hc : Configured setup handles d) (ops₀ : List Op)
    (hsame : SameState (d.afterOps f ops₀) d') (hover : Overwritten ((d.afterOps f ops₀).trace f ops) kept)
    (hans : List.Forall₂ (fun t t' => RepliesAlike HeldAlike t.calls t'.calls) kept (d'.trace f (kept.map (·.op)))) :
    List.Forall₂ (fun t t' => t'.result = t.result ∧ SameCalls HeldAlike t.calls t'.calls) kept
        (d'.trace f (kept.map (·.op))) ∧
      SameState ((d.afterOps f ops₀).afterOps f ops) (d'.afterOps f (kept.map (·.op))) := by
  obtain ⟨r, hi, -⟩ := hc.reached (f := f) ops₀
  obtain ⟨hagree, s, s', hpaired, hahead⟩ := (hsame.paired hi).run ahead_carried unread_heldAlike
    ⟨rfl, rfl, rfl, fun _ _ => Iff.rfl⟩ hover hans
  exact ⟨hagree, hpaired.same hahead.eq⟩

open TestSupport

/-- Two writes of a strip before one commit. -/
def twice : List Op := [.writeRgb48 (handle 0) frame.reverse, .writeRgb48 (handle 0) frame, .commit, .service]

/-- Its calls but for the first write. -/
def lastCalls : List (Transition FakeBackend) := ((pair.1.afterOps .default []).trace .default twice).tail

theorem overwritten_invisible_twice :
    SameState ((pair.1.afterOps .default []).afterOps .default twice) (pair.1.afterOps .default (lastCalls.map (·.op))) := by
  have hfirst : ((pair.1.afterOps .default []).transition .default (.writeRgb48 (handle 0) frame.reverse)).WritesOk ⟨0⟩ :=
    ⟨handle 0, frame.reverse, transition_op _, rfl, by decide +kernel⟩
  have hagain : (⟨0⟩ : ChannelId) ∈ rewritten lastCalls :=
    Or.inl ⟨handle 0, frame, transition_op _, rfl, by decide +kernel⟩
  have hover : Overwritten ((pair.1.afterOps .default []).trace .default twice) lastCalls :=
    .delete _ ⟨_, hfirst, hagain⟩ (.keep _ (.keep _ (.keep _ .nil)))
  have hcalls : List.Forall₂ (fun t t' => SameCalls HeldAlike t.calls t'.calls) lastCalls
      (pair.1.trace .default (lastCalls.map (·.op))) := by
    unfold SameCalls
    decide +kernel
  exact (overwritten_invisible pair_configured [] ⟨rfl, rfl, rfl, rfl, rfl⟩ hover
    (hcalls.imp fun _ _ h => h.repliesAlike unread_heldAlike)).2

end Api.Driver

end LedWireDriver
