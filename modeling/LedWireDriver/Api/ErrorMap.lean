/-
  LedWireDriver.Api.ErrorMap — the public errors and the projection of the engine's errors
  onto them (`src/api/errors.rs`, `error_map.rs`).

  Each public boundary enumerates the engine errors it expects; the others go to
  `unexpected_engine_error`, which returns a fallback (and panics with debug assertions
  on). A `Projected` error keeps beside the public error what reached that backstop.
-/

import LedWireDriver.Engine.Runtime

namespace LedWireDriver.Api

open Engine

inductive RegisterError where
  | invalidBinding
  | duplicateChannel
  | emptyConfiguration
  | alreadyConfigured
  | backend
  deriving DecidableEq, Repr

inductive DriverInitError where
  | backend
  deriving DecidableEq, Repr

inductive RuntimeError where
  | busy
  | invalidChannel
  | lengthMismatch
  | backendContract
  | backend
  deriving DecidableEq, Repr

structure Projected (T : Type) where
  error : T
  /-- The operation and the engine error that reached `unexpected_engine_error`. -/
  backstop : Option (String × EngineError)
  deriving DecidableEq, Repr

def expected {T : Type} (error : T) : Projected T := ⟨error, none⟩

def unexpectedEngineError {T : Type} (operation : String) (err : EngineError) (fallback : T) : Projected T :=
  ⟨fallback, some (operation, err)⟩

def mapDriverInitError (err : EngineError) : Projected DriverInitError :=
  match err with
  | .backend _ => expected .backend
  | _ => unexpectedEngineError "engine.init" err .backend

def mapRegisterBindError (err : EngineError) : Projected RegisterError :=
  match err with
  | .channelAlreadyRegistered => expected .duplicateChannel
  | .channelOutOfRange | .configurationLimitExceeded => expected .invalidBinding
  | .backendContractViolation _ => expected .invalidBinding
  | .backend .invalidBinding => expected .invalidBinding
  | .backend (.transportFault _) => expected .backend
  | _ => unexpectedEngineError "engine registration" err .backend

def mapRuntimeWritePrepareError (err : EngineError) : Projected RuntimeError :=
  match err with
  | .writeBusy => expected .busy
  | .channelOutOfRange | .channelNotRegistered => expected .invalidChannel
  | .backendContractViolation _ => expected .backendContract
  | .backend _ => expected .backend
  | _ => unexpectedEngineError "engine.acquire_prepared_write" err .backend

def mapRuntimeWritePackError (err : EngineError) : Projected RuntimeError :=
  match err with
  | .sourceLengthMismatch _ _ => expected .lengthMismatch
  | .backendContractViolation _ => expected .backendContract
  | .backend _ => expected .backend
  | _ => unexpectedEngineError "prepared_write.pack_rgb48_active" err .backend

/-- The projection three boundaries share, up to the operation they name. -/
def mapRuntimeError (operation : String) (err : EngineError) : Projected RuntimeError :=
  match err with
  | .channelOutOfRange | .channelNotRegistered => expected .invalidChannel
  | .backendContractViolation _ => expected .backendContract
  | .backend _ => expected .backend
  | _ => unexpectedEngineError operation err .backend

def mapRuntimeWritePublishError : EngineError → Projected RuntimeError := mapRuntimeError "prepared_write.publish"

def mapRuntimeMarkPublishedError : EngineError → Projected RuntimeError :=
  mapRuntimeError "engine.mark_channel_published"

def mapRuntimeCommitError : EngineError → Projected RuntimeError := mapRuntimeError "engine.submit_dirty"

def mapRuntimeServiceError (err : EngineError) : Projected RuntimeError :=
  match err with
  | .backendContractViolation _ => expected .backendContract
  | .backend _ => expected .backend
  | _ => unexpectedEngineError "engine.service" err .backend

end LedWireDriver.Api
