/-
  LedWireDriver.Attempts — sequences of `configure_prepared` calls on one driver.

  Each call is an `Attempt`, with its result and the backend calls it made; `attempted`
  lists the ways it can end. Until one attempt returns `Ok` the driver is the new one over
  the backend's current state, afterwards it is the committed one (`afterAttempts_eq`); so
  configuration is all-or-nothing and single-shot (`configure_all_or_nothing`).
-/

import LedWireDriver.Effect
import LedWireDriver.TestSupport

namespace LedWireDriver

open Fallible Words Api Engine

structure Attempt (B : Type) where
  before : Driver (Recorder B) .configuring
  setup : PreparedSetup
  result : Except (Fault (Projected RegisterError)) ConfiguredChannels
  calls : List BackendCall
  after : Driver (Recorder B) .configuring

/-- The attempt returned `Ok`. -/
def Attempt.Commits {B : Type} (a : Attempt B) : Prop := ∃ handles, a.result = .ok handles

theorem Attempt.commits_of_isOk {B : Type} {a : Attempt B} (h : a.result.isOk = true) : a.Commits := by
  unfold Attempt.Commits
  cases hr : a.result with
  | error => rw [hr] at h; cases h
  | ok handles => exact ⟨handles, rfl⟩

/-- The driver's own checks of a setup. -/
def Api.PreparedSetup.Passes (setup : PreparedSetup) (capabilities : BackendCapabilities) : Prop :=
  setup.isEmpty = false ∧ ∀ b ∈ setup.bindings.toList,
    b.logicalChannel.asIndex < min capabilities.maxChannels driverMaxChannels ∧
    ∀ maxBytes ∈ capabilities.maxBytesPerChannel, 3 * b.pixels.toNat ≤ maxBytes.toNat

namespace Api.Driver

variable {B : Type} [LedBackend B] {d d₀ : Driver (Recorder B) .configuring} {setup : PreparedSetup}

def attempt (d : Driver (Recorder B) .configuring) (setup : PreparedSetup) : Attempt B :=
  match configurePrepared setup d with
  | .ok handles d' => ⟨d, setup, .ok handles, d'.engine.backend.calls.drop d.engine.backend.calls.length, d'⟩
  | .error e d' => ⟨d, setup, .error e, d'.engine.backend.calls.drop d.engine.backend.calls.length, d'⟩

def attempts (d : Driver (Recorder B) .configuring) : List PreparedSetup → List (Attempt B)
  | [] => []
  | setup :: setups => d.attempt setup :: attempts (d.attempt setup).after setups

def afterAttempts (d : Driver (Recorder B) .configuring) : List PreparedSetup → Driver (Recorder B) .configuring
  | [] => d
  | setup :: setups => afterAttempts (d.attempt setup).after setups

/-! ## One attempt -/

inductive Attempted : Attempt B → Prop
  | empty {d : Driver (Recorder B) .configuring} {setup : PreparedSetup} : setup.isEmpty = true →
      Attempted ⟨d, setup, .error (.error (expected .emptyConfiguration)), [], d⟩
  | again {d : Driver (Recorder B) .configuring} {setup : PreparedSetup} : d.engine.isConfigurationCommitted = true →
      Attempted ⟨d, setup, .error (.error (expected .alreadyConfigured)), [], d⟩
  | unfit {d : Driver (Recorder B) .configuring} {setup : PreparedSetup} : d.engine.Registering →
      (¬∀ b ∈ setup.bindings.toList, Fits d.engine.maxChannels d.engine.maxBytesPerChannel b) →
      Attempted ⟨d, setup, .error (.error (expected .invalidBinding)), [], d⟩
  | refused {d : Driver (Recorder B) .configuring} {setup : PreparedSetup} {err : BackendError} {backend : Recorder B}
      (e : RegisterError) : setup.isEmpty = false → d.engine.Registering →
      (∀ b ∈ setup.bindings.toList, Fits d.engine.maxChannels d.engine.maxBytesPerChannel b) →
      LedBackend.configureChannels (setup.bindings.toList.map specOf) d.engine.backend = (.error err, backend) →
      Attempted ⟨d, setup, .error (.error (expected e)),
        [.configureChannels (setup.bindings.toList.map specOf) (.error err)], d.withBackend backend⟩
  | committed {d d' : Driver (Recorder B) .configuring} {setup : PreparedSetup} {handles : ConfiguredChannels}
      {backend : Recorder B} : setup.isEmpty = false → d.engine.Registering →
      (∀ b ∈ setup.bindings.toList, Fits d.engine.maxChannels d.engine.maxBytesPerChannel b) →
      LedBackend.configureChannels (setup.bindings.toList.map specOf) d.engine.backend = (.ok (), backend) →
      Committed setup handles d' →
      Attempted ⟨d, setup, .ok handles, [.configureChannels (setup.bindings.toList.map specOf) (.ok ())], d'⟩

theorem attempt_ok {d' : Driver (Recorder B) .configuring} {handles : ConfiguredChannels} {calls : List BackendCall}
    (h : configurePrepared setup d = .ok handles d')
    (hc : d'.engine.backend.calls = d.engine.backend.calls ++ calls) :
    d.attempt setup = ⟨d, setup, .ok handles, calls, d'⟩ := by
  unfold attempt
  simp only [h, hc, List.drop_left]

theorem attempt_error {d' : Driver (Recorder B) .configuring} {e : Fault (Projected RegisterError)}
    {calls : List BackendCall} (h : configurePrepared setup d = .error e d')
    (hc : d'.engine.backend.calls = d.engine.backend.calls ++ calls) :
    d.attempt setup = ⟨d, setup, .error e, calls, d'⟩ := by
  unfold attempt
  simp only [h, hc, List.drop_left]

/-- Every attempt on a driver that is registering or committed ends in one of these ways. -/
theorem attempted (hd : d.engine.Registering ∨ d.engine.isConfigurationCommitted = true) (setup : PreparedSetup) :
    Attempted (d.attempt setup) := by
  by_cases hne : setup.isEmpty = true
  · rw [attempt_error (configure_empty hne) (List.append_nil _).symm]
    exact .empty hne
  rcases hd with he | hcommitted
  case inr =>
    rw [attempt_error (configure_again hne hcommitted) (List.append_nil _).symm]
    exact .again hcommitted
  by_cases hf : ∀ b ∈ setup.bindings.toList, Fits d.engine.maxChannels d.engine.maxBytesPerChannel b
  case neg =>
    rw [attempt_error (configure_unfit hne he hf) (List.append_nil _).symm]
    exact .unfit he hf
  obtain ⟨plan, hs, hrun⟩ := configure_fits hne he hf
  rw [Bool.not_eq_true] at hne
  rcases hb : LedBackend.configureChannels (setup.bindings.toList.map specOf) d.engine.backend with ⟨reply, backend⟩
  have hcalls : backend.calls = d.engine.backend.calls ++
      [.configureChannels (setup.bindings.toList.map specOf) reply] := by cases hb; rfl
  rw [hb] at hrun
  cases reply with
  | ok =>
    rw [attempt_ok hrun hcalls]
    exact .committed hne he hf hb (committed_of_stages he hf hs)
  | error err =>
    cases err <;> (rw [attempt_error hrun hcalls]; exact .refused _ hne he hf hb)

omit [LedBackend B] in
theorem Registering.not_committed {e : LedEngine (Recorder B)} (he : e.Registering) :
    e.isConfigurationCommitted = false := by
  simp [LedEngine.isConfigurationCommitted, LedEngine.isReady, he.lifecycle]

theorem Attempted.error_expected {a : Attempt B} (h : Attempted a) {e : Fault (Projected RegisterError)}
    (he : a.result = .error e) : ∃ error, e = .error (expected error) := by
  cases h with
  | committed => cases he
  | _ =>
    cases he
    exact ⟨_, rfl⟩

/-- An attempt never fails with an error that its boundary does not expect. -/
theorem configure_error {c c' : Driver (Recorder B) .configuring} {done : Option (PreparedSetup × ConfiguredChannels)}
    (hc : Configuring c done) {setup : PreparedSetup} {e : Fault (Projected RegisterError)}
    (h : configurePrepared setup c = .error e c') : ∃ error, e = .error (expected error) := by
  have hd : c.engine.Registering ∨ c.engine.isConfigurationCommitted = true := by
    cases done with
    | none => exact Or.inl (configuring_inv hc)
    | some _ => exact Or.inr (configuring_inv hc).isReady
  refine (attempted hd setup).error_expected ?_
  unfold attempt
  rw [h]

theorem Attempted.of_committed {a : Attempt B} (h : Attempted a) (hd : a.before.engine.isConfigurationCommitted = true) :
    ¬a.Commits ∧ a.calls = [] ∧ a.after = a.before := by
  cases h with
  | empty | again => exact ⟨by simp [Attempt.Commits], rfl, rfl⟩
  | unfit he | refused _ _ he | committed _ he => rw [Registering.not_committed he] at hd; cases hd

theorem Attempted.of_registering {a : Attempt B} (h : Attempted a) (he : a.before.engine.Registering) :
    (a.Commits → a.after.engine.isConfigurationCommitted = true) ∧
      (¬a.Commits → a.after = a.before.withBackend a.after.engine.backend) := by
  cases h with
  | empty | unfit | refused => exact ⟨by simp [Attempt.Commits], fun _ => rfl⟩
  | again hd => rw [Registering.not_committed he] at hd; cases hd
  | committed _ _ _ _ hc => exact ⟨fun _ => hc.isReady, fun hn => absurd ⟨_, rfl⟩ hn⟩

/-! ## Sequences of attempts -/

theorem attempts_append (setups setups' : List PreparedSetup) :
    d.attempts (setups ++ setups') = d.attempts setups ++ (d.afterAttempts setups).attempts setups' := by
  induction setups generalizing d with
  | nil => rfl
  | cons setup setups ih => simp only [List.cons_append, attempts, afterAttempts, ih]

theorem afterAttempts_append (setups setups' : List PreparedSetup) :
    d.afterAttempts (setups ++ setups') = (d.afterAttempts setups).afterAttempts setups' := by
  induction setups generalizing d with
  | nil => rfl
  | cons setup setups ih => simp only [List.cons_append, afterAttempts, ih]

@[simp] theorem attempt_before (setup : PreparedSetup) : (d.attempt setup).before = d := by
  unfold attempt; split <;> rfl

@[simp] theorem attempt_setup (setup : PreparedSetup) : (d.attempt setup).setup = setup := by
  unfold attempt; split <;> rfl

theorem attempts_snoc (setups : List PreparedSetup) (setup : PreparedSetup) :
    d.attempts (setups ++ [setup]) = d.attempts setups ++ [(d.afterAttempts setups).attempt setup] := by
  rw [attempts_append]; rfl

theorem afterAttempts_snoc (setups : List PreparedSetup) (setup : PreparedSetup) :
    d.afterAttempts (setups ++ [setup]) = ((d.afterAttempts setups).attempt setup).after := by
  rw [afterAttempts_append]; rfl

/-- Failed attempts leave the new driver over the backend's state of the moment; one attempt
    at most returns `Ok`, and nothing after it changes the driver. -/
theorem afterAttempts_eq (he : d₀.engine.Registering) (setups : List PreparedSetup) :
    ((∀ a ∈ d₀.attempts setups, ¬a.Commits) ∧
      d₀.afterAttempts setups = d₀.withBackend (d₀.afterAttempts setups).engine.backend) ∨
    (∃ a ∈ d₀.attempts setups, a.Commits ∧ (∀ x ∈ d₀.attempts setups, x.Commits → x.after = a.after) ∧
      d₀.afterAttempts setups = a.after ∧ (d₀.afterAttempts setups).engine.isConfigurationCommitted = true) := by
  induction setups using List.reverseRecOn with
  | nil => exact Or.inl ⟨by simp [attempts], rfl⟩
  | append_singleton setups setup ih =>
    rw [attempts_snoc, afterAttempts_snoc]
    have hbefore := attempt_before (d := d₀.afterAttempts setups) setup
    rcases ih with ⟨hnone, hd⟩ | ⟨a, ha, hc, hall, hd, hcommitted⟩
    · have hreg : (d₀.afterAttempts setups).engine.Registering := by
        rw [hd]; exact ⟨he.lifecycle, he.maxChannels_le, he.table⟩
      obtain ⟨hok, herr⟩ := (attempted (Or.inl hreg) setup).of_registering (by rwa [hbefore])
      by_cases hcommits : ((d₀.afterAttempts setups).attempt setup).Commits
      · refine Or.inr ⟨_, by simp, hcommits, fun x hx hxc => ?_, rfl, hok hcommits⟩
        rcases List.mem_append.mp hx with hx | hx
        · exact absurd hxc (hnone x hx)
        · rw [List.mem_singleton.mp hx]
      · refine Or.inl ⟨fun x hx => ?_, ?_⟩
        · rcases List.mem_append.mp hx with hx | hx
          · exact hnone x hx
          · rwa [List.mem_singleton.mp hx]
        · rw [herr hcommits, hbefore, hd]
          rfl
    · obtain ⟨hn, -, hafter⟩ := (attempted (Or.inr hcommitted) setup).of_committed (by rwa [hbefore])
      rw [hbefore] at hafter
      refine Or.inr ⟨a, by simp [ha], hc, fun x hx hxc => ?_, hafter.trans hd, by rwa [hafter]⟩
      rcases List.mem_append.mp hx with hx | hx
      · exact hall x hx hxc
      · rw [List.mem_singleton.mp hx] at hxc
        exact absurd hxc hn

/-- The calls an attempt makes, and how it ends, from the checks and the backend's reply. -/
structure AllOrNothing (d₀ : Driver (Recorder B) .configuring) (capabilities : BackendCapabilities)
    (earlier : List (Attempt B)) (a : Attempt B) : Prop where
  ok_iff : a.Commits ↔ a.setup.Passes capabilities ∧ (∀ x ∈ earlier, ¬x.Commits) ∧
    (LedBackend.configureChannels (a.setup.bindings.toList.map specOf) a.before.engine.backend).1 = .ok ()
  ok : a.Commits → a.calls = [.configureChannels (a.setup.bindings.toList.map specOf) (.ok ())] ∧
    (∀ i, a.after.engine.channels.lookup i = (bindingAt a.setup.bindings.toList i).map recordOf) ∧
    a.after.engine.lifecycle = .ready .new
  /-- With no configuration yet, a failed attempt leaves the new driver behind. -/
  error_fresh : ¬a.Commits → (∀ x ∈ earlier, ¬x.Commits) →
    a.after = d₀.withBackend a.after.engine.backend ∧ a.after.engine.lifecycle = .registering ∧
      a.after.engine.channels = .new
  error_committed : ¬a.Commits → ∀ x ∈ earlier, x.Commits → a.after = x.after
  checked : a.calls ≠ [] → a.setup.Passes capabilities ∧ ∀ x ∈ earlier, ¬x.Commits

theorem AllOrNothing.of_committed {capabilities : BackendCapabilities} {earlier : List (Attempt B)} {a x : Attempt B}
    (h : Attempted a) (hd : a.before.engine.isConfigurationCommitted = true) (hx : x ∈ earlier) (hc : x.Commits)
    (hall : ∀ y ∈ earlier, y.Commits → a.before = y.after) : AllOrNothing d₀ capabilities earlier a := by
  obtain ⟨hn, hcalls, hafter⟩ := h.of_committed hd
  exact
    { ok_iff := iff_of_false hn fun h => h.2.1 x hx hc
      ok := fun h => absurd h hn
      error_fresh := fun _ h => absurd hc (h x hx)
      error_committed := fun _ y hy hyc => hafter.trans (hall y hy hyc)
      checked := fun h => absurd hcalls h }

theorem AllOrNothing.of_registering {capabilities : BackendCapabilities} {earlier : List (Attempt B)} {a : Attempt B}
    (h : Attempted a) (he : a.before.engine.Registering) (hd : a.before = d₀.withBackend a.before.engine.backend)
    (hnone : ∀ x ∈ earlier, ¬x.Commits)
    (hpasses : a.setup.Passes capabilities ↔ a.setup.isEmpty = false ∧
      ∀ b ∈ a.setup.bindings.toList, Fits a.before.engine.maxChannels a.before.engine.maxBytesPerChannel b) :
    AllOrNothing d₀ capabilities earlier a := by
  have herror : ¬a.Commits → a.after = d₀.withBackend a.after.engine.backend ∧ a.after.engine.lifecycle = .registering ∧
      a.after.engine.channels = .new := by
    intro hn
    have hafter := (h.of_registering he).2 hn
    refine ⟨by rw [hafter, hd]; rfl, by rw [hafter]; exact he.lifecycle, by rw [hafter]; exact he.table⟩
  have hcommitted : ∀ x ∈ earlier, x.Commits → a.after = x.after := fun x hx hc => absurd hc (hnone x hx)
  cases h with
  | empty hempty =>
    refine ⟨iff_of_false (by simp [Attempt.Commits]) fun h => ?_, by simp [Attempt.Commits], fun hn _ => herror hn,
      fun _ => hcommitted, fun h => absurd rfl h⟩
    rw [h.1.1] at hempty
    cases hempty
  | again hdone => exact absurd (hdone.symm.trans (Registering.not_committed he)) (by decide)
  | unfit _ hf =>
    exact ⟨iff_of_false (by simp [Attempt.Commits]) fun h => hf (hpasses.mp h.1).2, by simp [Attempt.Commits],
      fun hn _ => herror hn, fun _ => hcommitted, fun h => absurd rfl h⟩
  | refused e hne _ hf hb =>
    refine ⟨iff_of_false (by simp [Attempt.Commits]) fun h => ?_, by simp [Attempt.Commits], fun hn _ => herror hn,
      fun _ => hcommitted, fun _ => ⟨hpasses.mpr ⟨hne, hf⟩, hnone⟩⟩
    have hreply := h.2.2
    rw [hb] at hreply
    cases hreply
  | committed hne _ hf hb hc =>
    exact ⟨iff_of_true ⟨_, rfl⟩ ⟨hpasses.mpr ⟨hne, hf⟩, hnone, by rw [hb]⟩, fun _ => ⟨rfl, hc.table, hc.lifecycle⟩,
      fun hn _ => herror hn, fun _ => hcommitted, fun _ => ⟨hpasses.mpr ⟨hne, hf⟩, hnone⟩⟩

/-- Configuration is all-or-nothing and single-shot, over any sequence of attempts. -/
theorem configure_all_or_nothing {driverId : DriverId} {backend : Recorder B}
    (hnew : Driver.new driverId backend = .ok d₀) (setups : List PreparedSetup) (setup : PreparedSetup) :
    AllOrNothing d₀ (LedBackend.capabilities backend) (d₀.attempts setups) ((d₀.afterAttempts setups).attempt setup) := by
  obtain ⟨he, -, hmax, hbytes⟩ := new_registering hnew
  rcases afterAttempts_eq he setups with ⟨hnone, hd⟩ | ⟨a, ha, hc, hall, hd, hcommitted⟩
  · have hreg : (d₀.afterAttempts setups).engine.Registering := by
      rw [hd]; exact ⟨he.lifecycle, he.maxChannels_le, he.table⟩
    refine .of_registering (attempted (Or.inl hreg) setup) (by rwa [attempt_before]) (by rwa [attempt_before]) hnone ?_
    rw [attempt_before, attempt_setup, hd]
    show _ ↔ _ ∧ ∀ b ∈ _, Fits d₀.engine.maxChannels d₀.engine.maxBytesPerChannel b
    rw [hmax, hbytes]
    rfl
  · refine .of_committed (attempted (Or.inr hcommitted) setup) (by rwa [attempt_before]) ha hc fun y hy hyc => ?_
    rw [attempt_before, hd, hall y hy hyc]

open TestSupport in
/-- The second attempt is refused, and leaves what the first one configured. -/
theorem configure_all_or_nothing_fake :
    ((fresh ⟨1⟩).attempt pairSetup).Commits ∧
      ¬(((fresh ⟨1⟩).afterAttempts [pairSetup]).attempt swappedSetup).Commits ∧
      (((fresh ⟨1⟩).afterAttempts [pairSetup]).attempt swappedSetup).after = ((fresh ⟨1⟩).attempt pairSetup).after := by
  have hfirst : ((fresh ⟨1⟩).attempt pairSetup).Commits := Attempt.commits_of_isOk (by decide +kernel)
  have hall := configure_all_or_nothing (fresh_new ⟨1⟩) [pairSetup] swappedSetup
  have hrefused : ¬(((fresh ⟨1⟩).afterAttempts [pairSetup]).attempt swappedSetup).Commits := fun hc =>
    (hall.ok_iff.mp hc).2.1 _ (List.mem_singleton_self _) hfirst
  exact ⟨hfirst, hrefused, hall.error_committed hrefused _ (List.mem_singleton_self _) hfirst⟩

end Api.Driver

end LedWireDriver
