/-
  LedWireDriver.Scripted — the crate's test backend keeps the backend contract.

  The fake backend is scripted by its tests: between any two calls the script may be replaced
  by any other. Whatever was scripted and called before, every configured slot is free and
  has its length again after each call (`tidy_tends`): no failed, refused or aborted write
  wedges its channel, and a write's result is the one its script asks for (`write_scripted`).
-/

import LedWireDriver.Leases
import LedWireDriver.TestSupport

namespace LedWireDriver.TestSupport

open Fallible Words Api Engine Pack

/-! ## Free slots -/

/-- A slot configured for `spec` that no write holds. -/
structure FakeChannelSlot.Idle (spec : BackendChannelSpec) (slot : FakeChannelSlot) : Prop where
  configured : slot.configured = true
  channel : slot.channel = spec.channel
  length : slot.bytes.length = 3 * spec.pixels.toNat
  free : slot.writeAcquired = false

/-- The slot a dropped lease leaves. -/
def FakeChannelSlot.dropped (slot : FakeChannelSlot) : FakeChannelSlot :=
  if slot.writePublished then slot else { slot with writeAcquired := false }

/-- Every configured slot is free. -/
def FakeBackend.Tidy (specs : List BackendChannelSpec) (b : FakeBackend) : Prop :=
  ∀ spec ∈ specs, spec.channel.asIndex < b.capabilities.maxChannels ∧
    ∃ slot, b.slots[spec.channel.asIndex]? = some slot ∧ slot.Idle spec

variable {specs : List BackendChannelSpec} {b b' : FakeBackend} {l l' : FakeWriteLease}

namespace FakeBackend

theorem Tidy.of_slots (h : b.Tidy specs) (hc : b'.capabilities = b.capabilities) (hs : b'.slots = b.slots) :
    b'.Tidy specs := by
  unfold Tidy at h ⊢
  rwa [hc, hs]

theorem tidy_dropLease : (b.dropLease l).Tidy specs ↔ ∀ spec ∈ specs,
    spec.channel.asIndex < b.capabilities.maxChannels ∧
      ∃ slot, (if l.index.val = spec.channel.asIndex then some l.slot.dropped else b.slots[spec.channel.asIndex]?) =
        some slot ∧ slot.Idle spec := by
  unfold Tidy
  refine forall₂_congr fun spec _ => and_congr Iff.rfl (exists_congr fun slot => and_congr ?_ Iff.rfl)
  show (b.slots.set l.index l.slot.dropped)[spec.channel.asIndex]? = some slot ↔ _
  rw [Vector.getElem?_set]

/-- What a lease does to its slot shows when it is dropped. -/
theorem Tidy.dropped (h : (b.dropLease l).Tidy specs) (hindex : l'.index = l.index)
    (hidle : ∀ spec, l.slot.dropped.Idle spec → l'.slot.dropped.Idle spec) : (b.dropLease l').Tidy specs := by
  rw [tidy_dropLease] at h ⊢
  intro spec hspec
  obtain ⟨hmax, slot, hslot, hfree⟩ := h spec hspec
  refine ⟨hmax, ?_⟩
  rw [hindex]
  by_cases hi : l.index.val = spec.channel.asIndex
  · rw [if_pos hi] at hslot ⊢
    cases hslot
    exact ⟨_, rfl, hidle spec hfree⟩
  · rw [if_neg hi] at hslot ⊢
    exact ⟨slot, hslot, hfree⟩

/-! ## Acquiring -/

/-- What acquiring a channel can do to the slots: nothing, or mark the channel's free slot. -/
inductive Acquires (b : FakeBackend) (channel : BackendChannelId) :
    Except BackendError (AcquireWrite FakeWriteLease) × FakeBackend → Prop
  | failed (err : BackendError) (b' : FakeBackend) : b'.capabilities = b.capabilities → b'.slots = b.slots →
      Acquires b channel (.error err, b')
  | busy (b' : FakeBackend) : b'.capabilities = b.capabilities → b'.slots = b.slots →
      Acquires b channel (.ok .busy, b')
  | granted (hi : channel.asIndex < driverMaxChannels) (slot : FakeChannelSlot) (shared : FakeBackendShared)
      (returned : BackendChannelId) (exposedLen : Nat) (b' : FakeBackend) :
      slot = { b.slots[channel.asIndex] with writeAcquired := true, writePublished := false } →
      b.slots[channel.asIndex].writeAcquired = false → b'.capabilities = b.capabilities →
      b'.slots = b.slots.set channel.asIndex slot →
      Acquires b channel (.ok (.ready ⟨⟨channel.asIndex, hi⟩, slot, shared, returned, exposedLen⟩), b')

theorem acquires (b : FakeBackend) (channel : BackendChannelId) : Acquires b channel (b.acquireWriteTarget channel) := by
  unfold acquireWriteTarget
  by_cases hm : b.capabilities.maxChannels ≤ channel.asIndex
  · simp only [hm, ↓reduceIte]
    exact .failed _ _ rfl rfl
  by_cases hi : channel.asIndex < driverMaxChannels
  case neg =>
    simp only [hm, hi, ↓reduceIte, ↓reduceDIte]
    exact .failed _ _ rfl rfl
  simp only [hm, hi, ↓reduceIte, ↓reduceDIte]
  have grant : ∀ (b' : FakeBackend) (slot : FakeChannelSlot) (shared : FakeBackendShared) (returned : BackendChannelId)
      (exposedLen : Nat), b'.capabilities = b.capabilities → b'.slots = b.slots →
      slot = { b.slots[channel.asIndex] with writeAcquired := true, writePublished := false } →
      Acquires b channel (if (!b.slots[channel.asIndex].configured || b.slots[channel.asIndex].channel != channel ||
          b.slots[channel.asIndex].writeAcquired) = true then (.ok .busy, b')
        else (.ok (.ready ⟨⟨channel.asIndex, hi⟩, slot, shared, returned, exposedLen⟩),
          { b' with slots := b'.slots.set channel.asIndex slot })) := by
    intro b' slot shared returned exposedLen hc hs hslot
    split
    · exact .busy _ hc hs
    · rename_i hfree
      refine .granted hi slot shared returned exposedLen _ hslot ?_ hc (by rw [hs])
      simp only [Bool.or_eq_true, not_or, Bool.not_eq_true] at hfree
      exact hfree.2
  split
  · exact .busy _ rfl rfl
  · exact .failed _ _ rfl rfl
  · exact grant _ _ _ _ _ rfl rfl rfl
  · exact grant _ _ _ _ _ rfl rfl rfl
  · exact grant _ _ _ _ _ rfl rfl rfl

end FakeBackend

/-! ## Keeping the slots free -/

theorem FakeChannelSlot.Idle.granted {spec : BackendChannelSpec} {slot : FakeChannelSlot} (h : slot.Idle spec) :
    FakeChannelSlot.Idle spec
      (FakeChannelSlot.dropped { slot with writeAcquired := true, writePublished := false }) :=
  ⟨h.configured, h.channel, h.length, rfl⟩

theorem FakeChannelSlot.Idle.filled {spec : BackendChannelSpec} {slot : FakeChannelSlot} (h : slot.dropped.Idle spec)
    {bytes : List UInt8} (hb : bytes.length = slot.bytes.length) : ({ slot with bytes } : FakeChannelSlot).dropped.Idle spec := by
  obtain ⟨configured, channel, old, acquired, published⟩ := slot
  cases published with
  | true => exact ⟨h.configured, h.channel, hb.trans h.length, h.free⟩
  | false => exact ⟨h.configured, h.channel, hb.trans h.length, rfl⟩

theorem FakeChannelSlot.Idle.published {spec : BackendChannelSpec} {slot : FakeChannelSlot} (h : slot.dropped.Idle spec) :
    ({ slot with writePublished := true, writeAcquired := false } : FakeChannelSlot).dropped.Idle spec := by
  obtain ⟨configured, channel, bytes, acquired, published⟩ := slot
  cases published with
  | true => exact ⟨h.configured, h.channel, h.length, rfl⟩
  | false => exact ⟨h.configured, h.channel, h.length, rfl⟩

theorem tidy_tends (specs : List BackendChannelSpec) :
    Tends FakeBackend (·.Tidy specs) (fun (l : FakeWriteLease) b => (b.dropLease l).Tidy specs) where
  granted := by
    intro channel b l b' hb ha
    have hcases := b.acquires channel
    rw [show b.acquireWriteTarget channel = _ from ha] at hcases
    cases hcases with
    | granted hi slot shared returned exposedLen _ hslot hfree hc hs =>
      rw [FakeBackend.tidy_dropLease]
      intro spec hspec
      obtain ⟨hmax, old, hold, hidle⟩ := hb spec hspec
      refine ⟨by rwa [hc], ?_⟩
      by_cases hindex : channel.asIndex = spec.channel.asIndex
      · rw [if_pos hindex]
        refine ⟨_, rfl, ?_⟩
        rw [← hindex, Vector.getElem?_eq_getElem hi] at hold
        cases hold
        rw [hslot]
        exact hidle.granted
      · rw [if_neg hindex, hs, Vector.getElem?_set, if_neg hindex]
        exact ⟨old, hold, hidle⟩
  busy := by
    intro channel b b' hb ha
    have hcases := b.acquires channel
    rw [show b.acquireWriteTarget channel = _ from ha] at hcases
    cases hcases with
    | busy _ hc hs => exact hb.of_slots hc hs
  failed := by
    intro channel b err b' hb ha
    have hcases := b.acquires channel
    rw [show b.acquireWriteTarget channel = _ from ha] at hcases
    cases hcases with
    | failed _ _ hc hs => exact hb.of_slots hc hs
  filled := by
    intro l b bytes hl hlen
    refine hl.dropped rfl fun spec hidle => hidle.filled ?_
    change bytes.length = (l.slot.bytes.take l.exposedLen).length at hlen
    rw [List.length_append, List.length_drop, hlen, List.length_take]
    omega
  published := by
    intro l b reply l' hl hp
    simp only [BackendWriteLease.publish, FakeWriteLease.publish] at hp
    split at hp <;> cases hp
    · exact hl.dropped rfl fun spec hidle => hidle
    · exact hl.dropped rfl fun spec hidle => hidle.published
  dropped := by
    intro l b hl
    exact hl
  submitted := by
    intro m b reply b' hb hs
    simp only [LedBackend.submitChannels, FakeBackend.submitChannels] at hs
    split at hs <;> cases hs <;> exact hb.of_slots rfl rfl
  signalled := by
    intro b signal hb
    exact hb.of_slots rfl rfl
  told := by
    intro b event hb
    exact hb.of_slots rfl rfl

/-! ## Configuring -/

namespace FakeBackend

/-- Specs the fake accepts after the channels `seen`. -/
structure Accepts (b : FakeBackend) (seen : List Nat) (specs : List BackendChannelSpec) : Prop where
  index_lt : ∀ spec ∈ specs, spec.channel.asIndex < b.capabilities.maxChannels ∧
    spec.channel.asIndex < driverMaxChannels ∧ spec.channel.asIndex ∉ seen
  nodup : (specs.map (·.channel.asIndex)).Nodup
  bytes_le : ∀ spec ∈ specs, ∀ maxBytes ∈ b.capabilities.maxBytesPerChannel, spec.pixels.toUInt32 * 3 ≤ maxBytes

theorem Accepts.cons {seen : List Nat} {spec : BackendChannelSpec}
    (hmax : spec.channel.asIndex < b.capabilities.maxChannels) (hi : spec.channel.asIndex < driverMaxChannels)
    (hs : spec.channel.asIndex ∉ seen)
    (hb : ∀ maxBytes ∈ b.capabilities.maxBytesPerChannel, spec.pixels.toUInt32 * 3 ≤ maxBytes) :
    b.Accepts seen (spec :: specs) ↔ b.Accepts (spec.channel.asIndex :: seen) specs := by
  constructor
  · rintro ⟨hl, hn, hle⟩
    rw [List.map_cons, List.nodup_cons] at hn
    refine ⟨fun x hx => ?_, hn.2, fun x hx => hle x (List.mem_cons_of_mem _ hx)⟩
    obtain ⟨h₁, h₂, h₃⟩ := hl x (List.mem_cons_of_mem _ hx)
    refine ⟨h₁, h₂, List.not_mem_cons_of_ne_of_not_mem (fun h => hn.1 ?_) h₃⟩
    rw [← h]
    exact List.mem_map_of_mem hx
  · rintro ⟨hl, hn, hle⟩
    refine ⟨fun x hx => ?_, ?_, fun x hx => ?_⟩
    · rcases List.mem_cons.mp hx with rfl | hx
      · exact ⟨hmax, hi, hs⟩
      · obtain ⟨h₁, h₂, h₃⟩ := hl x hx
        exact ⟨h₁, h₂, fun h => h₃ (List.mem_cons_of_mem _ h)⟩
    · rw [List.map_cons, List.nodup_cons]
      refine ⟨fun h => ?_, hn⟩
      obtain ⟨x, hx, hindex⟩ := List.mem_map.mp h
      exact (hl x hx).2.2 (by rw [hindex]; exact List.mem_cons_self ..)
    · rcases List.mem_cons.mp hx with rfl | hx
      · exact hb
      · exact hle x hx

open Classical in
/-- `validate_specs` accepts exactly those, and names no reason. -/
theorem validateSpecs_eq (b : FakeBackend) (seen : List Nat) (specs : List BackendChannelSpec) :
    b.validateSpecs seen specs = if b.Accepts seen specs then .ok () else .error .invalidBinding := by
  induction specs generalizing seen with
  | nil => rw [if_pos ⟨by simp, by simp, by simp⟩, validateSpecs]
  | cons spec specs ih =>
    rw [validateSpecs]
    by_cases hr : b.capabilities.maxChannels ≤ spec.channel.asIndex ∨ driverMaxChannels ≤ spec.channel.asIndex
    · rw [if_pos hr, if_neg]
      intro h
      obtain ⟨h₁, h₂, -⟩ := h.index_lt spec (List.mem_cons_self ..)
      omega
    rw [if_neg hr]
    push Not at hr
    by_cases hs : spec.channel.asIndex ∈ seen
    · rw [if_pos hs, if_neg]
      exact fun h => (h.index_lt spec (List.mem_cons_self ..)).2.2 hs
    rw [if_neg hs]
    cases hmax : b.capabilities.maxBytesPerChannel with
    | none =>
      have hcons : b.Accepts seen (spec :: specs) ↔ b.Accepts (spec.channel.asIndex :: seen) specs :=
        Accepts.cons hr.1 hr.2 hs (by simp [hmax])
      simp only [ih, hcons]
    | some maxBytes =>
      have hwire : checkedMul spec.pixels.toUInt32 3 = some (spec.pixels.toUInt32 * 3) := PreparedSetup.wireBytes_some _
      simp only [hwire]
      by_cases hb : maxBytes < spec.pixels.toUInt32 * 3
      · rw [if_pos hb, if_neg]
        intro h
        exact absurd (h.bytes_le spec (List.mem_cons_self ..) maxBytes hmax) (UInt32.not_le.mpr hb)
      · have hcons : b.Accepts seen (spec :: specs) ↔ b.Accepts (spec.channel.asIndex :: seen) specs :=
          Accepts.cons hr.1 hr.2 hs (by simpa [hmax] using UInt32.not_lt.mp hb)
        rw [if_neg hb]
        simp only [ih, hcons]

/-- Configuring gives each spec its slot. -/
theorem configureSlots_get {slots : Vector FakeChannelSlot driverMaxChannels} {spec : BackendChannelSpec}
    (hn : (specs.map (·.channel.asIndex)).Nodup) (hspec : spec ∈ specs) (hi : spec.channel.asIndex < driverMaxChannels) :
    (configureSlots slots specs)[spec.channel.asIndex]? =
      some ⟨true, spec.channel, List.replicate (spec.pixels.toNat * 3) 0, false, false⟩ := by
  unfold configureSlots
  induction specs using List.reverseRecOn with
  | nil => simp at hspec
  | append_singleton specs last ih =>
    rw [List.foldl_append, List.foldl_cons, List.foldl_nil, Vector.getElem?_setIfInBounds]
    rw [List.map_append, List.nodup_append] at hn
    rcases List.mem_append.mp hspec with hspec | hspec
    · have hne : last.channel.asIndex ≠ spec.channel.asIndex := by
        intro h
        exact hn.2.2 _ (List.mem_map_of_mem hspec) _ (List.mem_singleton_self _) h.symm
      rw [if_neg hne]
      exact ih hn.1 hspec
    · obtain rfl : spec = last := by simpa using hspec
      rw [if_pos rfl, if_pos hi]

/-- Configured slots are free. -/
theorem configureChannels_tidy (h : b.configureChannels specs = (.ok (), b')) : b'.Tidy specs := by
  unfold configureChannels at h
  rw [validateSpecs_eq] at h
  by_cases ha : b.Accepts [] specs
  case neg =>
    rw [if_neg ha] at h
    cases h
  rw [if_pos ha] at h
  dsimp only at h
  split at h <;> cases h
  intro spec hspec
  obtain ⟨hmax, hi, -⟩ := ha.index_lt spec hspec
  exact ⟨hmax, _, configureSlots_get ha.nodup hspec hi, rfl, rfl, by simp [Nat.mul_comm], rfl⟩

end FakeBackend

/-! ## What a write is scripted to return -/

/-- What the script makes of `n` pixels once a whole slot is granted. -/
def FakeBackendScript.packed (script : FakeBackendScript) (spec : BackendChannelSpec) (n : Nat) :
    Except RuntimeError Unit :=
  if n ≠ spec.pixels.toNat then .error .lengthMismatch
  else
    match script.publish[spec.channel.asIndex]?.join with
    | some _ => .error .backend
    | none => .ok ()

/-- What the script makes of a write of `n` pixels to a free slot. -/
def FakeBackendScript.outcome (script : FakeBackendScript) (spec : BackendChannelSpec) (n : Nat) :
    Except RuntimeError Unit :=
  match script.acquire[spec.channel.asIndex]? with
  | some .busy => .error .busy
  | some (.error _) => .error .backend
  | some (.wrongChannel returned) => if returned ≠ spec.channel then .error .backendContract else script.packed spec n
  | some (.wrongLength len) => if len < 3 * spec.pixels.toNat then .error .backendContract else script.packed spec n
  | some .ready => script.packed spec n
  | none => .error .backend

variable {f : Features} {record : ChannelState} {pixels : List Rgb48}

theorem publish_scripted {lease : FakeWriteLease} {err : BackendError}
    (h : lease.shared.script.publish[lease.slot.channel.asIndex]?.join = some err) : lease.publish.1 = .error err := by
  unfold FakeWriteLease.publish
  simp only [h]

theorem publish_unscripted {lease : FakeWriteLease}
    (h : lease.shared.script.publish[lease.slot.channel.asIndex]?.join = none) : lease.publish.1 = .ok () := by
  unfold FakeWriteLease.publish
  simp only [h]

/-- A lease of the whole slot publishes unless its script fails it. -/
theorem packed_lease {spec : BackendChannelSpec} {lease : FakeWriteLease} (hchannel : lease.slot.channel = spec.channel)
    (hslot : lease.slot.bytes.length = 3 * spec.pixels.toNat) (hexposed : lease.exposedLen = lease.slot.bytes.length) :
    packed (B := FakeBackend) f record pixels lease = lease.shared.script.packed spec pixels.length := by
  have htarget : (target (B := FakeBackend) lease).length = 3 * spec.pixels.toNat := by
    rw [stableLeases.target]
    show (lease.slot.bytes.take lease.exposedLen).length = _
    rw [hexposed, List.take_length, hslot]
  unfold packed FakeBackendScript.packed
  rw [htarget, Nat.mul_div_cancel_left _ (by decide)]
  by_cases hp : pixels.length = spec.pixels.toNat
  case neg => rw [if_pos hp, if_pos hp]
  rw [if_neg (not_not.mpr hp), if_neg (not_not.mpr hp), ← hchannel]
  obtain ⟨bytes, hpack⟩ : ∃ bytes, packRgb48Active f pixels record.layout record.framePhase
      (target (B := FakeBackend) lease) = .ok ⟨⟩ bytes := ⟨_, packIntoBytes_ok (by omega)⟩
  rw [hpack]
  -- filling the lease changes neither its script nor its channel
  rcases hpub : lease.shared.script.publish[lease.slot.channel.asIndex]?.join with _ | err
  · have hreply : (BackendWriteLease.publish (fill (B := FakeBackend) (LedEngine.peek lease) bytes)).1 = .ok () :=
      publish_unscripted hpub
    simp only [hreply]
  · have hreply : (BackendWriteLease.publish (fill (B := FakeBackend) (LedEngine.peek lease) bytes)).1 = .error err :=
      publish_scripted hpub
    simp only [hreply]

/-- The lease of a free slot. -/
def FakeBackend.lease (b : FakeBackend) (index : Nat) (h : index < driverMaxChannels) (returned : BackendChannelId)
    (exposedLen : Nat) : FakeWriteLease :=
  ⟨⟨index, h⟩, { b.slots[index] with writeAcquired := true, writePublished := false },
    { b.shared with script := { b.shared.script with acquire := b.shared.script.acquire.set index .ready } }, returned,
    min exposedLen b.slots[index].bytes.length⟩

/-- What acquiring a free slot answers. -/
def FakeBackend.offer (b : FakeBackend) (index : Nat) (h : index < driverMaxChannels) (channel : BackendChannelId) :
    Except BackendError (AcquireWrite FakeWriteLease) :=
  match b.shared.script.acquire[index] with
  | .busy => .ok .busy
  | .error err => .error err
  | .wrongChannel returned => .ok (.ready (b.lease index h returned b.slots[index].bytes.length))
  | .wrongLength len => .ok (.ready (b.lease index h channel len))
  | .ready => .ok (.ready (b.lease index h channel b.slots[index].bytes.length))

theorem acquire_idle {spec : BackendChannelSpec} (hmax : spec.channel.asIndex < b.capabilities.maxChannels)
    (hi : spec.channel.asIndex < driverMaxChannels) (hidle : b.slots[spec.channel.asIndex].Idle spec) :
    (b.acquireWriteTarget spec.channel).1 = b.offer _ hi spec.channel := by
  have hgrants : (!b.slots[spec.channel.asIndex].configured || b.slots[spec.channel.asIndex].channel != spec.channel ||
      b.slots[spec.channel.asIndex].writeAcquired) = false := by
    rw [hidle.configured, hidle.channel, hidle.free]
    simp
  unfold FakeBackend.acquireWriteTarget FakeBackend.offer
  simp only [not_le.mpr hmax, hi, ↓reduceIte, ↓reduceDIte, FakeBackend.withScript, hgrants, Bool.false_eq_true]
  rcases b.shared.script.acquire[spec.channel.asIndex] with _ | _ | err | returned | len <;> rfl

theorem answer_scripted {spec : BackendChannelSpec} (hb : b.Tidy specs) (hspec : spec ∈ specs)
    (hchannel : record.backendChannel = spec.channel) (hlen : record.lenPixels = spec.pixels.toNat) :
    answer f record pixels b = b.shared.script.outcome spec pixels.length := by
  obtain ⟨hmax, slot, hslot, hidle⟩ := hb spec hspec
  have hi : spec.channel.asIndex < driverMaxChannels := by
    by_contra hi
    rw [Vector.getElem?_eq_none (by omega)] at hslot
    cases hslot
  rw [Vector.getElem?_eq_getElem hi] at hslot
  cases hslot
  have hacquire : (LedBackend.acquireWriteTarget spec.channel b).1 = _ := acquire_idle hmax hi hidle
  -- what becomes of a lease of `exposedLen` bytes for `returned`
  have hgrant : ∀ returned exposedLen,
      (if returned ≠ spec.channel then .error .backendContract
        else if (BackendWriteLease.bytesMut (b.lease _ hi returned exposedLen)).1.length ≠
          3 * record.lenPixels then .error .backendContract
        else packed (B := FakeBackend) f record pixels (b.lease _ hi returned exposedLen)) =
      if returned ≠ spec.channel then .error .backendContract
        else if exposedLen < 3 * spec.pixels.toNat then .error .backendContract
        else b.shared.script.packed spec pixels.length := by
    intro returned exposedLen
    have hexposed : (BackendWriteLease.bytesMut (b.lease _ hi returned exposedLen)).1.length =
        min exposedLen (3 * spec.pixels.toNat) := by
      show (b.slots[spec.channel.asIndex].bytes.take
        (min exposedLen b.slots[spec.channel.asIndex].bytes.length)).length = _
      rw [List.length_take, hidle.length]
      omega
    rw [hexposed, hlen]
    by_cases hc : returned = spec.channel
    case neg => rw [if_pos hc, if_pos hc]
    rw [if_neg (not_not.mpr hc), if_neg (not_not.mpr hc)]
    by_cases hshort : exposedLen < 3 * spec.pixels.toNat
    · rw [if_pos (by omega), if_pos hshort]
    · rw [if_neg (by omega), if_neg hshort]
      refine packed_lease hidle.channel hidle.length ?_
      show min exposedLen b.slots[spec.channel.asIndex].bytes.length = b.slots[spec.channel.asIndex].bytes.length
      rw [hidle.length]
      omega
  have hwhole : ¬b.slots[spec.channel.asIndex].bytes.length < 3 * spec.pixels.toNat := by
    rw [hidle.length]
    exact lt_irrefl _
  unfold answer FakeBackendScript.outcome
  rw [hchannel, hacquire, Vector.getElem?_eq_getElem hi]
  unfold FakeBackend.offer
  rcases b.shared.script.acquire[spec.channel.asIndex] with _ | _ | err | returned | len
  · refine (hgrant spec.channel _).trans ?_
    rw [if_neg (not_not.mpr rfl), if_neg hwhole]
  · rfl
  · rfl
  · refine (hgrant returned _).trans ?_
    rw [if_neg hwhole]
  · refine (hgrant spec.channel len).trans ?_
    rw [if_neg (not_not.mpr rfl)]

/-! ## Scripted runs -/

variable {setup : PreparedSetup} {handles : ConfiguredChannels} {d : Driver (Recorder FakeBackend) .ready}

/-- The driver with another script in its backend. -/
def scripted (script : FakeBackendScript) (d : Driver (Recorder FakeBackend) .ready) : Driver (Recorder FakeBackend) .ready :=
  d.withBackend ⟨d.engine.backend.inner.withScript script, d.engine.backend.calls⟩

/-- The driver after a sequence of calls, each of them scripted. -/
def afterScripted (f : Features) (d : Driver (Recorder FakeBackend) .ready) :
    List (FakeBackendScript × Op) → Driver (Recorder FakeBackend) .ready
  | [] => d
  | (script, op) :: steps => afterScripted f ((scripted script d).transition f op).after steps

/-- What a scripted run keeps. -/
structure Kept (setup : PreparedSetup) (driverId : DriverId) (d : Driver (Recorder FakeBackend) .ready) : Prop where
  driverId : d.driverId = driverId
  inv : ∃ r, Inv setup d.engine r
  tidy : d.engine.backend.inner.Tidy (setup.bindings.toList.map specOf)

theorem Kept.scripted {driverId : DriverId} (h : Kept setup driverId d) (script : FakeBackendScript) :
    Kept setup driverId (scripted script d) := by
  obtain ⟨r, hi⟩ := h.inv
  exact ⟨h.driverId, ⟨r, hi.withBackend⟩, h.tidy.of_slots rfl rfl⟩

theorem Kept.transition {driverId : DriverId} (h : Kept setup driverId d) (f : Features) (op : Op) :
    Kept setup driverId (d.transition f op).after := by
  obtain ⟨r, hi⟩ := h.inv
  have he := Driver.effect (f := f) hi op
  refine ⟨?_, ?_, Driver.transition_tended (tidy_tends _) hi h.tidy op⟩
  · rw [he.driverId, Driver.transition_before, h.driverId]
  · exact he.inv (by rwa [Driver.transition_before])

theorem Kept.run {driverId : DriverId} (h : Kept setup driverId d) (f : Features)
    (steps : List (FakeBackendScript × Op)) : Kept setup driverId (afterScripted f d steps) := by
  induction steps generalizing d with
  | nil => exact h
  | cons step steps ih => exact ih ((h.scripted step.1).transition f step.2)

theorem configured_tidy (hc : Driver.Configured setup handles d) :
    d.engine.backend.inner.Tidy (setup.bindings.toList.map specOf) := by
  obtain ⟨c, hc, rfl⟩ := hc
  obtain ⟨b₀, hb⟩ := hc.backend _ rfl
  exact FakeBackend.configureChannels_tidy (Recorder.configured hb)

theorem configured_kept (hc : Driver.Configured setup handles d) : Kept setup d.driverId d :=
  ⟨rfl, ⟨_, hc.inv⟩, configured_tidy hc⟩

/-- Whatever was scripted and called before, every configured slot is free, and a write
    returns what its script asks for. -/
theorem write_scripted (hc : Driver.Configured setup handles d) (f : Features) (steps : List (FakeBackendScript × Op))
    (script : FakeBackendScript) {b : PreparedBinding} (hb : b ∈ setup.bindings.toList) (pixels : List Rgb48) :
    (afterScripted f d steps).engine.backend.inner.Tidy (setup.bindings.toList.map specOf) ∧
      ∃ r, (afterScripted f d steps).engine.lifecycle = .ready r ∧
        ((scripted script (afterScripted f d steps)).transition f (.writeRgb48 ⟨d.driverId, b.logicalChannel⟩ pixels)).result =
          if r.ingressViolation then .error (.error (expected .backendContract))
          else written (script.outcome (specOf b) pixels.length) := by
  have hkept := (configured_kept hc).run f steps
  have hscripted := hkept.scripted script
  obtain ⟨r, hi⟩ := hscripted.inv
  refine ⟨hkept.tidy, r, hi.lifecycle, ?_⟩
  -- the binding's record, as it was configured
  have htable := hi.table b.logicalChannel.asIndex
  rw [bindingAt_self setup.valid hb, Option.map_some, Option.map_eq_some_iff] at htable
  obtain ⟨record, hl, hrecord⟩ := htable
  have hchannel : record.backendChannel = (specOf b).channel := congrArg ChannelState.backendChannel hrecord
  have hlen : record.lenPixels = (specOf b).pixels.toNat := congrArg ChannelState.lenPixels hrecord
  rw [Driver.write_answered hi (show Channel.owner ⟨d.driverId, b.logicalChannel⟩ = _ from hscripted.driverId.symm) hl,
    answer_scripted hscripted.tidy (List.mem_map_of_mem hb) hchannel hlen]
  rfl

/-- A write that finds every channel busy, and one whose publish fails. -/
def failing : List (FakeBackendScript × Op) :=
  [({ FakeBackendScript.default with acquire := .replicate _ .busy }, .writeRgb48 (handle 0) frame),
    ({ FakeBackendScript.default with publish := .replicate _ (some (.transportFault 7)) }, .writeRgb48 (handle 0) frame)]

theorem write_scripted_failing :
    (afterScripted bayer pair.1 failing).engine.backend.inner.Tidy (pairSetup.bindings.toList.map specOf) ∧
      ∃ r, (afterScripted bayer pair.1 failing).engine.lifecycle = .ready r ∧
        ((scripted .default (afterScripted bayer pair.1 failing)).transition bayer
            (.writeRgb48 ⟨pair.1.driverId, ⟨0⟩⟩ frame)).result =
          if r.ingressViolation then .error (.error (expected .backendContract))
          else written (FakeBackendScript.default.outcome ⟨⟨0⟩, 2, .grb⟩ frame.length) :=
  write_scripted pair_configured bayer failing .default
    (show (⟨⟨0⟩, ⟨0⟩, 2, .grb⟩ : PreparedBinding) ∈ pairSetup.bindings.toList from List.mem_cons_self ..) frame

/-- The failed writes left nothing behind. -/
example : FakeBackendScript.default.outcome ⟨⟨0⟩, 2, .grb⟩ frame.length = .ok () := by decide +kernel

end LedWireDriver.TestSupport
