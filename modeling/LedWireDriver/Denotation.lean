/-
  LedWireDriver.Denotation — which backend channels a submitted mask stands for.

  Mask bits are logical indices; specs, leases and every other call name backend channels,
  and no call tells of a commit. `Marked` is a backend call or the mark of a commit that
  covered writes. `Decoded` keeps of a marked log the backend channels published since the
  last mark, and those marked since the last accepted batch. `Configured.decode` proves that
  these are the channels of the two masks, so that the calls and the places of the commits
  determine which backend channels a batch is for (`submits_denoted`). The calls alone do
  not, and which bit stands for which channel neither of them does: two setups that bind the
  same backend channels in the same order look alike (`swapped_alike`).
-/

import Mathlib.Data.Finset.Option
import LedWireDriver.Routing

namespace LedWireDriver

open Fallible Words Api Engine Pack

variable {B : Type} {f : Features}

/-- An entry of a backend's log with the commits that covered writes marked in it. -/
inductive Marked where
  | call (call : BackendCall)
  | commit
  deriving DecidableEq

namespace Transition

/-- An `Ok` commit with a dirty channel to cover. -/
def covers (t : Transition B) : Bool :=
  match t.op, t.result, t.before.engine.lifecycle with
  | .commit, .ok _, .ready r => !r.dirtyMask.isEmpty
  | _, _, _ => false

def marked (t : Transition B) : List Marked := t.calls.map .call ++ if t.covers then [.commit] else []

theorem marked_commit {t : Transition B} {r : ReadyState} (hop : t.op = .commit) (hok : t.result = .ok ())
    (hcalls : t.calls = []) (hr : t.before.engine.lifecycle = .ready r) :
    t.marked = if r.dirtyMask.bits = 0 then [] else [.commit] := by
  unfold marked covers
  rw [hop, hok, hcalls, hr]
  by_cases h : r.dirtyMask.bits = 0 <;> simp [ChannelMask.isEmpty, h]

theorem marked_error {t : Transition B} {e : Fault (Projected RuntimeError)} (h : t.result = .error e) :
    t.marked = t.calls.map .call := by
  have hc : t.covers = false := by
    unfold covers
    rw [h]
    split <;> simp_all
  simp [marked, hc]

end Transition

/-! ## The decoder -/

structure Decoded where
  /-- The channel of the last lease granted. -/
  granted : Option BackendChannelId
  dirty : Finset BackendChannelId
  pending : Finset BackendChannelId
  deriving DecidableEq

namespace Decoded

def start : Decoded := ⟨none, ∅, ∅⟩

def read (s : Decoded) : Marked → Decoded
  | .commit => { s with dirty := ∅, pending := s.pending ∪ s.dirty }
  | .call (.acquireWriteTarget channel (.ok (.ready _))) => { s with granted := some channel }
  | .call (.publish _ (.ok _)) => { s with dirty := s.granted.toFinset ∪ s.dirty }
  | .call (.submitChannels _ (.ok .started)) => { s with pending := ∅ }
  | _ => s

def of (log : List Marked) : Decoded := log.foldl read start

end Decoded

/-! ## The backend channels of a mask -/

/-- The backend channels that the bits of `m` are bound to. -/
def denoted (setup : PreparedSetup) (m : UInt32) : Finset BackendChannelId :=
  ((setup.bindings.toList.filter fun b => has m b.logicalChannel.asIndex).map (·.backendChannel)).toFinset

variable {setup setup' : PreparedSetup} {m m' : UInt32}

theorem mem_denoted {c : BackendChannelId} : c ∈ denoted setup m ↔
    ∃ b ∈ setup.bindings.toList, has m b.logicalChannel.asIndex = true ∧ b.backendChannel = c := by
  simp [denoted, and_assoc]

theorem denoted_zero : denoted setup 0 = ∅ := by
  simp [denoted]

theorem denoted_or : denoted setup (m ||| m') = denoted setup m ∪ denoted setup m' := by
  ext c
  simp only [Finset.mem_union, mem_denoted, has_or, Bool.or_eq_true]
  constructor
  · intro hx
    obtain ⟨b, hb, h | h, rfl⟩ := hx
    · exact Or.inl ⟨b, hb, h, rfl⟩
    · exact Or.inr ⟨b, hb, h, rfl⟩
  · intro hx
    rcases hx with ⟨b, hb, h, rfl⟩ | ⟨b, hb, h, rfl⟩
    · exact ⟨b, hb, Or.inl h, rfl⟩
    · exact ⟨b, hb, Or.inr h, rfl⟩

theorem denoted_bit {i : Nat} {b : PreparedBinding} (hi : i < 32) (hb : bindingAt setup.bindings.toList i = some b) :
    denoted setup (bit i) = {b.backendChannel} := by
  obtain ⟨hmem, rfl⟩ := bindingAt_mem hb
  ext c
  simp only [mem_denoted, has_bit hi, decide_eq_true_eq, Finset.mem_singleton]
  constructor
  · intro hx
    obtain ⟨b', hb', hid, rfl⟩ := hx
    have h := bindingAt_self setup.valid hb'
    rw [← hid, hb] at h
    rw [Option.some.inj h]
  · intro hx
    subst hx
    exact ⟨b, hmem, rfl, rfl⟩

/-- A mask of bound channels is the set of its backend channels, for setups that bind those
    alike. -/
theorem eq_of_denoted (hm : ∀ i, has m i = true → ∃ b ∈ setup.bindings.toList, b.logicalChannel.asIndex = i)
    (hm' : ∀ i, has m' i = true → ∃ b ∈ setup'.bindings.toList, b.logicalChannel.asIndex = i)
    (h : denoted setup m = denoted setup' m')
    (agree : ∀ b ∈ setup.bindings.toList, ∀ b' ∈ setup'.bindings.toList, b.backendChannel ∈ denoted setup m →
      b.backendChannel = b'.backendChannel → b.logicalChannel = b'.logicalChannel) : m = m' := by
  refine Words.ext fun i _ => Bool.eq_iff_iff.mpr ⟨fun hi => ?_, fun hi => ?_⟩
  · obtain ⟨b, hb, rfl⟩ := hm i hi
    have hd : b.backendChannel ∈ denoted setup m := mem_denoted.mpr ⟨b, hb, hi, rfl⟩
    obtain ⟨b', hb', hi', he⟩ := mem_denoted.mp (h ▸ hd)
    rwa [agree b hb b' hb' hd he.symm]
  · obtain ⟨b', hb', rfl⟩ := hm' i hi
    have hd : b'.backendChannel ∈ denoted setup m := h ▸ mem_denoted.mpr ⟨b', hb', hi, rfl⟩
    obtain ⟨b, hb, hi', he⟩ := mem_denoted.mp hd
    rwa [← agree b hb b' hb' (he ▸ hd) he]

/-! ## One call -/

/-- The decoder has followed the two masks. -/
structure Follows (setup : PreparedSetup) (r : ReadyState) (s : Decoded) : Prop where
  dirty : s.dirty = denoted setup r.dirtyMask.bits
  pending : s.pending = denoted setup r.pendingMask.bits

section Step

variable [LedBackend B] {r : ReadyState} {t : Transition B} {s : Decoded}

/-- The decoder takes a published write for a dirty channel, and no other. -/
theorem WriteCalls.decode {record : ChannelState} {pixels : List Rgb48} {reply : Except RuntimeError Unit}
    {calls : List BackendCall} (h : WriteCalls B f record pixels reply calls) (s : Decoded) :
    ((calls.map .call).foldl Decoded.read s).pending = s.pending ∧
      ((calls.map .call).foldl Decoded.read s).dirty =
        match reply with
        | .ok _ => {record.backendChannel} ∪ s.dirty
        | .error _ => s.dirty := by
  cases h <;> exact ⟨rfl, rfl⟩

theorem Effect.follows (h : Effect f r t) (hi : Inv setup t.before.engine r) (hs : Follows setup r s) :
    ∃ r', t.after.engine.lifecycle = .ready r' ∧ Follows setup r' (t.marked.foldl Decoded.read s) := by
  obtain ⟨hd, hp⟩ := hs
  -- a call that the decoder ignores, and that leaves both masks alone
  have quiet : ∀ calls, t.marked = calls → calls.foldl Decoded.read s = s → ∀ r', t.after.engine.lifecycle = .ready r' →
      r'.dirtyMask = r.dirtyMask → r'.pendingMask = r.pendingMask →
      ∃ r', t.after.engine.lifecycle = .ready r' ∧ Follows setup r' (t.marked.foldl Decoded.read s) := by
    intro calls hcalls hq r' hr' hd' hp'
    subst hcalls
    exact ⟨r', hr', by rw [hq, hd', hd], by rw [hq, hp', hp]⟩
  cases h with
  | found => exact quiet [] rfl rfl r hi.lifecycle rfl rfl
  | foreign => exact quiet [] (Transition.marked_error rfl) rfl r hi.lifecycle rfl rfl
  | surfaced => exact quiet [] (Transition.marked_error rfl) rfl _ rfl rfl rfl
  | unregistered => exact quiet [] rfl rfl r hi.lifecycle rfl rfl
  | unwritten backend _ _ _ hw =>
    obtain ⟨hp', hd'⟩ := hw.decode s
    rw [Transition.marked_error rfl]
    exact ⟨r, hi.lifecycle, hd'.trans hd, hp'.trans hp⟩
  | @wrote d channel pixels record calls backend _ _ hl hw =>
    obtain ⟨hp', hd'⟩ := hw.decode s
    obtain ⟨b, hb, hrec⟩ := hi.binding hl
    have hbackend : record.backendChannel = b.backendChannel := congrArg ChannelState.backendChannel hrec
    have hmarked : ∀ after, (⟨d, .writeRgb48 channel pixels, .ok (), calls, after⟩ : Transition B).marked =
        calls.map .call := fun _ => List.append_nil _
    rw [hmarked]
    refine ⟨_, rfl, ?_, hp'.trans hp⟩
    rw [denoted_or, denoted_bit (hi.index_lt hl) hb, ← hbackend, Finset.union_comm, ← hd]
    exact hd'
  | committed =>
    refine ⟨_, rfl, ?_⟩
    rw [Transition.marked_commit rfl rfl rfl hi.lifecycle]
    by_cases h0 : r.dirtyMask.bits = 0
    · -- nothing to cover, and no mark
      rw [if_pos h0]
      exact ⟨by rw [List.foldl_nil, hd, h0]; rfl, by rw [List.foldl_nil, hp, h0, UInt32.or_zero]⟩
    · rw [if_neg h0]
      exact ⟨denoted_zero.symm, by rw [denoted_or, ← hp, ← hd]; rfl⟩
  | waited => exact quiet [] rfl rfl r hi.lifecycle rfl rfl
  | rested => exact quiet [] rfl rfl _ rfl rfl rfl
  | refused => exact quiet [_] rfl rfl _ rfl rfl rfl
  | unsubmitted => exact quiet [_] rfl rfl _ rfl rfl rfl
  | started => exact ⟨_, rfl, hd, denoted_zero.symm⟩
  | signalled => exact quiet [_] rfl rfl r hi.lifecycle rfl rfl
  | completed => exact quiet [_] rfl rfl _ rfl rfl rfl
  | strayed => exact quiet [_] rfl rfl _ rfl rfl rfl

end Step

namespace Api.Driver

variable [LedBackend B] {handles handles' : ConfiguredChannels} {d d' : Driver (Recorder B) .ready} {r : ReadyState}

/-- The backend calls of a run, with its covering commits marked. -/
def marked (f : Features) (d : Driver (Recorder B) .ready) (ops : List Op) : List Marked :=
  (d.trace f ops).flatMap Transition.marked

/-- The decoder holds the backend channels of both masks, after every run. -/
theorem Configured.decode (hc : Configured setup handles d) (ops : List Op)
    (hr : (d.afterOps f ops).engine.lifecycle = .ready r) : Follows setup r (Decoded.of (d.marked f ops)) := by
  induction ops using List.reverseRecOn generalizing r with
  | nil =>
    obtain rfl : r = .new := by
      have h := hc.inv.lifecycle
      rw [show d.engine.lifecycle = .ready r from hr] at h
      exact EngineLifecycle.ready.inj h
    exact ⟨denoted_zero.symm, denoted_zero.symm⟩
  | append_singleton ops op ih =>
    obtain ⟨r₀, hi, he⟩ := hc.reached (f := f) ops
    have hs := (he op).follows (by rwa [transition_before]) (ih hi.lifecycle)
    obtain ⟨r', hr', hs⟩ := hs
    rw [afterOps_snoc, hr'] at hr
    obtain rfl := EngineLifecycle.ready.inj hr
    unfold marked Decoded.of
    rw [trace_snoc, List.flatMap_append, List.foldl_append, List.flatMap_singleton]
    exact hs

theorem Configured.bound (hc : Configured setup handles d) (ops : List Op)
    (hr : (d.afterOps f ops).engine.lifecycle = .ready r) (i : Nat) (h : has r.pendingMask.bits i = true) :
    ∃ b ∈ setup.bindings.toList, b.logicalChannel.asIndex = i := by
  obtain ⟨r', hi, -⟩ := hc.reached (f := f) ops
  obtain rfl : r' = r := by rw [hi.lifecycle] at hr; exact EngineLifecycle.ready.inj hr
  obtain ⟨record, hl⟩ := Option.isSome_iff_exists.mp (hi.pending i h).2
  obtain ⟨b, hb, -⟩ := hi.binding hl
  exact ⟨b, bindingAt_mem hb⟩

/-- Two runs with the same calls and the covering commits at the same places submit masks of
    the same backend channels, the decoded ones; the masks are equal if both setups bind these
    to the same logical channels. -/
theorem submits_denoted (hc : Configured setup handles d) (hc' : Configured setup' handles' d') (ops ops' : List Op)
    (op op' : Op) (hs : ((d.afterOps f ops).transition f op).Submits m)
    (hs' : ((d'.afterOps f ops').transition f op').Submits m') (hh : d.marked f ops = d'.marked f ops') :
    denoted setup m = (Decoded.of (d.marked f ops)).pending ∧
      denoted setup' m' = (Decoded.of (d.marked f ops)).pending ∧
      ((∀ b ∈ setup.bindings.toList, ∀ b' ∈ setup'.bindings.toList, b.backendChannel ∈ denoted setup m →
        b.backendChannel = b'.backendChannel → b.logicalChannel = b'.logicalChannel) → m = m') := by
  obtain ⟨r, hi, he⟩ := hc.reached (f := f) ops
  obtain ⟨r', hi', he'⟩ := hc'.reached (f := f) ops'
  obtain ⟨-, -, -, rfl, -⟩ := (he op).submits hs
  obtain ⟨-, -, -, rfl, -⟩ := (he' op').submits hs'
  have hdec := (hc.decode ops hi.lifecycle).pending
  have hdec' := (hc'.decode ops' hi'.lifecycle).pending
  rw [← hh] at hdec'
  exact ⟨hdec.symm, hdec'.symm,
    eq_of_denoted (hc.bound ops hi.lifecycle) (hc'.bound ops' hi'.lifecycle) (hdec.symm.trans hdec')⟩

/-! ## What the calls do not determine -/

open TestSupport in
/-- One write to backend channel 0, committed: on channel 0 of one driver, on channel 1 of
    the other. A write of channel 1 beside it, after or before the commit, is the same to the
    backend, and is not the same batch. -/
theorem swapped_alike :
    Configured pairSetup pair.2 pair.1 ∧ Configured swappedSetup swapped.2 swapped.1 ∧
      pair.1.engine.backend.calls = swapped.1.engine.backend.calls ∧
      pair.1.marked .default (writing 0) = swapped.1.marked .default (writing 1) ∧
      ((pair.1.afterOps .default (writing 0)).transition .default .service).Submits 1 ∧
      ((swapped.1.afterOps .default (writing 1)).transition .default .service).Submits 2 ∧
      (pair.1.afterOps .default commitBetween).engine.backend.calls =
        (pair.1.afterOps .default commitLast).engine.backend.calls ∧
      ((pair.1.afterOps .default commitBetween).transition .default .service).Submits 1 ∧
      ((pair.1.afterOps .default commitLast).transition .default .service).Submits 3 ∧
      denoted pairSetup 1 ≠ denoted pairSetup 3 :=
  ⟨pair_configured, swapped_configured, by decide +kernel, by decide +kernel, writing_submits, writing_submits_swapped,
    by decide +kernel, commitBetween_submits, commitLast_submits, by decide +kernel⟩

open TestSupport in
theorem submits_denoted_swapped :
    denoted pairSetup 1 = (Decoded.of (pair.1.marked .default (writing 0))).pending ∧
      denoted swappedSetup 2 = (Decoded.of (pair.1.marked .default (writing 0))).pending ∧
      ((∀ b ∈ pairSetup.bindings.toList, ∀ b' ∈ swappedSetup.bindings.toList, b.backendChannel ∈ denoted pairSetup 1 →
        b.backendChannel = b'.backendChannel → b.logicalChannel = b'.logicalChannel) → (1 : UInt32) = 2) :=
  submits_denoted pair_configured swapped_configured (writing 0) (writing 1) .service .service writing_submits
    writing_submits_swapped (by decide +kernel)

end Api.Driver

end LedWireDriver
