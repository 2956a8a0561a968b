/-
  LedWireDriver.Unordered — the order of a setup's bindings does not matter.

  Two drivers over backends that answer alike, and that do not mind the order of the specs
  they are configured with (`OrderBlind`), take the same bindings in any two orders: both
  accept or both refuse them, with the same handles or the same error, and every run of the
  one is a run of the other (`bindings_unordered`).
-/

import LedWireDriver.Scripted

namespace LedWireDriver

open Fallible Words Api Engine Pack

/-! ## Bindings in any order -/

namespace Api

variable {bs bs' : List PreparedBinding}

theorem ValidBindings.perm (h : ValidBindings bs) (hp : bs.Perm bs') : ValidBindings bs' where
  logical_lt b hb := h.logical_lt b (hp.mem_iff.mpr hb)
  logical_nodup := (hp.map _).nodup_iff.mp h.logical_nodup
  backend_nodup := (hp.map _).nodup_iff.mp h.backend_nodup
  pixels_ne b hb := h.pixels_ne b (hp.mem_iff.mpr hb)

end Api

theorem bindingAt_perm {bs bs' : List PreparedBinding} (hv : ValidBindings bs) (hp : bs.Perm bs') (i : Nat) :
    bindingAt bs' i = bindingAt bs i := by
  cases hb : bindingAt bs' i with
  | some b =>
    obtain ⟨hmem, rfl⟩ := bindingAt_mem hb
    exact (bindingAt_self hv (hp.mem_iff.mpr hmem)).symm
  | none =>
    cases hb' : bindingAt bs i with
    | none => rfl
    | some b =>
      obtain ⟨hmem, rfl⟩ := bindingAt_mem hb'
      rw [bindingAt_self (hv.perm hp) (hp.mem_iff.mp hmem)] at hb
      cases hb

/-- Two plans for the same bindings register the same. -/
theorem Engine.RegistrationPlan.Stages.perm {driverId : DriverId} {plan plan' : RegistrationPlan}
    {bs bs' : List PreparedBinding} (h : plan.Stages driverId bs) (h' : plan'.Stages driverId bs')
    (hv : ValidBindings bs) (hp : bs.Perm bs') :
    plan'.handles = plan.handles ∧ plan'.records = plan.records := by
  constructor
  · ext1 i hi
    rw [h.handles i hi, h'.handles i hi, bindingAt_perm hv hp]
  · have htable : RegistrationTable.mk plan'.records = RegistrationTable.mk plan.records := by
      refine RegistrationTable.ext_lookup fun i => ?_
      rw [h.records, h'.records, bindingAt_perm hv hp]
    exact congrArg RegistrationTable.records htable

/-! ## Two drivers -/

variable {B : Type} [LedBackend B] {rel : B → B → Prop} {relLease : WriteLease B → WriteLease B → Prop}

/-- Backends that answer alike, to their specs in any order. -/
structure OrderBlind (B : Type) [LedBackend B] (rel : B → B → Prop) (relLease : WriteLease B → WriteLease B → Prop) :
    Prop extends Bisim B rel relLease where
  configure : ∀ specs specs' b b', specs.Perm specs' → rel b b' →
    Answers Eq rel (LedBackend.configureChannels specs b) (LedBackend.configureChannels specs' b')

theorem OrderBlind.recorder (h : OrderBlind B rel relLease) {specs specs' : List BackendChannelSpec} {r r' : Recorder B}
    (hp : specs.Perm specs') (hr : Recorder.Alike rel r r') :
    Answers Eq (Recorder.Alike rel) (LedBackend.configureChannels specs r) (LedBackend.configureChannels specs' r') := by
  have ha := h.configure specs specs' _ _ hp hr
  simp only [LedBackend.configureChannels]
  generalize LedBackend.configureChannels specs r.inner = p, LedBackend.configureChannels specs' r'.inner = p' at ha
  cases ha with
  | ok hv hi =>
    subst hv
    exact .ok rfl hi
  | error err hi => exact .error err hi

namespace Api.Driver

/-- What the calls of a run returned, and asked of the backend. -/
def seen (f : Features) (d : Driver (Recorder B) .ready) (ops : List Op) :
    List (Except (Fault (Projected RuntimeError)) Unit × List BackendCall) :=
  (d.trace f ops).map fun t => (t.result, t.calls)

theorem seen_twin (h : Bisim B rel relLease) (f : Features) {d d' : Driver (Recorder B) .ready}
    (hd : d.Twin (Recorder.Alike rel) d') (ops : List Op) : d'.seen f ops = d.seen f ops := by
  induction ops generalizing d d' with
  | nil => rfl
  | cons op ops ih =>
    obtain ⟨hres, hcalls, hafter⟩ := transition_twin h f op hd
    have hrest := ih hafter
    unfold seen at hrest ⊢
    rw [trace, trace, List.map_cons, List.map_cons, hres, hcalls, hrest]

/-- Two drivers under configuration that runs cannot tell apart. -/
def Same (rel : B → B → Prop) (c c' : Driver (Recorder B) .configuring) : Prop :=
  c.finalize.Twin (Recorder.Alike rel) c'.finalize

variable {c c' : Driver (Recorder B) .configuring} {done : Option (PreparedSetup × ConfiguredChannels)}
  {setup setup' : PreparedSetup}

omit [LedBackend B] in
/-- Committing the same plan in two orders. -/
theorem Same.configured (hcc : Same rel c c') {plan plan' : RegistrationPlan} {backend backend' : Recorder B}
    (hrecords : plan'.records = plan.records) (hb : Recorder.Alike rel backend backend') :
    Same rel { c with engine := c.engine.configuredWith plan backend }
      { c' with engine := c'.engine.configuredWith plan' backend' } := by
  obtain ⟨hid, old, he, -⟩ := hcc
  have hengine : c'.engine = { c.engine with backend := old } := he
  refine ⟨hid, backend', ?_, hb⟩
  show c'.engine.configuredWith plan' backend' = { c.engine.configuredWith plan backend with backend := backend' }
  rw [hengine]
  unfold LedEngine.configuredWith
  rw [hrecords]

omit [LedBackend B] in
theorem Same.withBackend (hcc : Same rel c c') {backend backend' : Recorder B} (hb : Recorder.Alike rel backend backend') :
    Same rel (c.withBackend backend) (c'.withBackend backend') := by
  obtain ⟨hid, old, he, -⟩ := hcc
  have hengine : c'.engine = { c.engine with backend := old } := he
  refine ⟨hid, backend', ?_, hb⟩
  show ({ c'.engine with backend := backend' } : LedEngine (Recorder B)) = { c.engine with backend := backend' }
  rw [hengine]

/-- One call, with the bindings in two orders. -/
theorem configure_unordered (h : OrderBlind B rel relLease) (hc : Configuring c done) (hcc : Same rel c c')
    (hp : setup.bindings.toList.Perm setup'.bindings.toList) :
    Outcomes Eq (Same rel) Eq (configurePrepared setup c) (configurePrepared setup' c') := by
  have hempty : setup'.isEmpty = setup.isEmpty := hp.isEmpty_eq.symm
  by_cases hne : setup.isEmpty = true
  · rw [configure_empty hne, configure_empty (hempty.trans hne)]
    exact .error rfl hcc
  have hne' : ¬setup'.isEmpty = true := by rwa [hempty]
  obtain ⟨hid, backend, he, hb⟩ := hcc
  have hengine : c'.engine = { c.engine with backend } := he
  have hdriverId : c.driverId = c'.driverId := hid
  have hinv := configuring_inv hc
  cases done with
  | some done =>
    have hready : c.engine.isConfigurationCommitted = true := hinv.isReady
    have hready' : c'.engine.isConfigurationCommitted = true := by rwa [hengine]
    rw [configure_again hne hready, configure_again hne' hready']
    exact .error rfl ⟨hid, backend, he, hb⟩
  | none =>
    have hinv' : c'.engine.Registering := by
      rw [hengine]
      exact ⟨hinv.lifecycle, hinv.maxChannels_le, hinv.table⟩
    have hfits : (∀ b ∈ setup'.bindings.toList, Fits c'.engine.maxChannels c'.engine.maxBytesPerChannel b) ↔
        ∀ b ∈ setup.bindings.toList, Fits c.engine.maxChannels c.engine.maxBytesPerChannel b := by
      rw [hengine]
      exact forall_congr' fun b => imp_congr hp.mem_iff.symm Iff.rfl
    by_cases hf : ∀ b ∈ setup.bindings.toList, Fits c.engine.maxChannels c.engine.maxBytesPerChannel b
    case neg =>
      rw [configure_unfit hne hinv hf, configure_unfit hne' hinv' (mt hfits.mp hf)]
      exact .error rfl ⟨hid, backend, he, hb⟩
    obtain ⟨plan, hs, hrun⟩ := configure_fits hne hinv hf
    obtain ⟨plan', hs', hrun'⟩ := configure_fits hne' hinv' (hfits.mpr hf)
    rw [← hdriverId] at hs'
    obtain ⟨hhandles, hrecords⟩ := hs.perm hs' setup.valid hp
    have hanswers := h.recorder (hp.map specOf) (show Recorder.Alike rel c.engine.backend c'.engine.backend by
      rw [hengine]
      exact hb)
    rw [hrun, hrun']
    generalize LedBackend.configureChannels (setup.bindings.toList.map specOf) c.engine.backend = p,
      LedBackend.configureChannels (setup'.bindings.toList.map specOf) c'.engine.backend = p' at hanswers ⊢
    have hsame : Same rel c c' := ⟨hid, backend, he, hb⟩
    cases hanswers with
    | ok _ hi =>
      refine .ok ?_ (hsame.configured hrecords hi)
      rw [hhandles]
    | error err hi =>
      cases err with
      | invalidBinding => exact .error rfl (hsame.withBackend hi)
      | transportFault => exact .error rfl (hsame.withBackend hi)

/-- The bindings of a setup in any order: accepted or refused alike, with the same handles or
    the same error, and in every run no difference is seen. -/
theorem bindings_unordered (h : OrderBlind B rel relLease) (hc : Configuring c done) (hcc : Same rel c c')
    (hp : setup.bindings.toList.Perm setup'.bindings.toList) :
    Outcomes Eq (fun d d' => ∀ f ops, d'.finalize.seen f ops = d.finalize.seen f ops) Eq
      (configurePrepared setup c) (configurePrepared setup' c') := by
  have hrun := configure_unordered h hc hcc hp
  generalize configurePrepared setup c = p, configurePrepared setup' c' = p' at hrun ⊢
  cases hrun with
  | ok hv hd => exact .ok hv fun f ops => seen_twin h.toBisim f hd ops
  | error he hd => exact .error he fun f ops => seen_twin h.toBisim f hd ops

end Api.Driver

/-! ## The fake -/

namespace TestSupport

variable {b : FakeBackend} {specs specs' : List BackendChannelSpec}

theorem FakeBackend.Accepts.perm {seen : List Nat} (h : b.Accepts seen specs) (hp : specs.Perm specs')
    (log : FakeBackendLog) : (b.withLog log).Accepts seen specs' where
  index_lt spec hspec := h.index_lt spec (hp.mem_iff.mpr hspec)
  nodup := (hp.map _).nodup_iff.mp h.nodup
  bytes_le spec hspec := h.bytes_le spec (hp.mem_iff.mpr hspec)

theorem FakeBackend.configureSlots_perm {slots : Vector FakeChannelSlot driverMaxChannels}
    (hn : (specs.map (·.channel.asIndex)).Nodup) (hp : specs.Perm specs') :
    configureSlots slots specs' = configureSlots slots specs := by
  unfold configureSlots
  refine (hp.foldl_eq' ?_ slots).symm
  intro x hx y hy slots
  by_cases hxy : x = y
  · rw [hxy]
  -- distinct specs have distinct slots
  have hne : x.channel.asIndex ≠ y.channel.asIndex := fun h => hxy (List.inj_on_of_nodup_map hn hx hy h)
  ext1 i hi
  simp only [Vector.getElem_setIfInBounds]
  split <;> split <;> first | rfl | omega

open Classical in
/-- The fake does not mind the order of its specs. -/
theorem orderBlind : OrderBlind FakeBackend SameBut FakeWriteLease.SameBut where
  toBisim := eventBlind.toBisim
  configure := by
    intro specs specs' b b' hp hb
    obtain ⟨log, rfl⟩ := hb
    simp only [LedBackend.configureChannels, FakeBackend.configureChannels, FakeBackend.validateSpecs_eq]
    by_cases ha : b.Accepts [] specs
    · rw [if_pos ha, if_pos (ha.perm hp log)]
      dsimp only [FakeBackend.withLog]
      rcases b.shared.script.nextConfigure with _ | err
      · refine .ok rfl ⟨{ log with configuredSpecs := log.configuredSpecs ++ [specs'] }, ?_⟩
        rw [FakeBackend.configureSlots_perm ha.nodup hp]
        rfl
      · exact .error err ⟨_, rfl⟩
    · have ha' : ¬(b.withLog log).Accepts [] specs' := fun h => ha (h.perm hp.symm b.shared.log)
      rw [if_neg ha, if_neg ha']
      exact .error _ ⟨log, rfl⟩

/-- The pair, listed the other way round. -/
def reversedSetup : PreparedSetup :=
  ⟨⟨[⟨⟨1⟩, ⟨1⟩, 2, .grb⟩, ⟨⟨0⟩, ⟨0⟩, 2, .grb⟩], by decide⟩, ⟨by decide, by decide, by decide, by decide⟩⟩

theorem bindings_unordered_pair :
    Outcomes Eq (fun d d' => ∀ f ops, d'.finalize.seen f ops = d.finalize.seen f ops) Eq
      (Driver.configurePrepared pairSetup (fresh ⟨1⟩)) (Driver.configurePrepared reversedSetup (fresh ⟨1⟩)) :=
  Driver.bindings_unordered orderBlind (fresh_configuring _) ⟨rfl, _, rfl, sameBut_equivalence.refl _⟩
    (List.Perm.swap ..)

end TestSupport

end LedWireDriver
