/-
  LedWireDriver.Api.Backend — the backend extension boundary (`src/api/backend.rs`).

  A backend is any type `B` with the operations of `LedBackend`: each takes the backend's
  state and returns its reply with the state afterwards, so a reply may depend on
  everything that happened before. A write lease borrows the backend until it is dropped:
  `dropLease` is what that end of the borrow leaves in the backend (an abort, unless the
  lease was published). `bytesMut` gives the exposed slice and the lease once the slice has
  been overwritten; nothing says that two calls expose the same slice.
-/

import LedWireDriver.Model

namespace LedWireDriver.Api

inductive BackendError where
  | invalidBinding
  | transportFault (rawCode : UInt8)
  deriving DecidableEq, Repr

inductive BackendSignal where
  | opaqueToken (token : UInt8)
  deriving DecidableEq, Repr

inductive BackendEvent where
  | transferComplete
  deriving DecidableEq, Repr

structure BackendChannelSpec where
  channel : BackendChannelId
  pixels : UInt16
  layout : PixelLayout
  deriving DecidableEq, Repr

class BackendWriteLease (L : Type) where
  channel : L → BackendChannelId
  bytesMut : L → List UInt8 × (List UInt8 → L)
  publish : L → Except BackendError Unit × L

inductive AcquireWrite (G : Type) where
  | ready (lease : G)
  | busy
  deriving DecidableEq, Repr

inductive StartTransfer where
  | started
  | busy
  deriving DecidableEq, Repr

structure BackendCapabilities where
  maxChannels : Nat
  maxBytesPerChannel : Option UInt32
  deriving DecidableEq, Repr

class LedBackend (B : Type) where
  WriteLease : Type
  writeLease : BackendWriteLease WriteLease
  init : B → Except BackendError Unit × B
  capabilities : B → BackendCapabilities
  configureChannels : List BackendChannelSpec → B → Except BackendError Unit × B
  acquireWriteTarget : BackendChannelId → B → Except BackendError (AcquireWrite WriteLease) × B
  dropLease : WriteLease → B → B
  submitChannels : UInt32 → B → Except BackendError StartTransfer × B
  onSignal : BackendSignal → B → B
  onEvent : BackendEvent → B → B

export LedBackend (WriteLease)

instance (B : Type) [LedBackend B] : BackendWriteLease (WriteLease B) := LedBackend.writeLease

end LedWireDriver.Api
