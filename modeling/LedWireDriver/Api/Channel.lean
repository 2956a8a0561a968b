/-
  LedWireDriver.Api.Channel — runtime channel handles (`src/api/channel.rs`).
-/

import LedWireDriver.Model

namespace LedWireDriver.Api

/-- The driver instance a handle belongs to. -/
structure DriverId where
  raw : UInt32
  deriving DecidableEq, Repr

structure Channel where
  driverId : DriverId
  id : ChannelId
  deriving DecidableEq, Repr

def Channel.owner (c : Channel) : DriverId := c.driverId

def Channel.asIndex (c : Channel) : Nat := c.id.asIndex

structure ConfiguredChannels where
  entries : Vector (Option Channel) driverMaxChannels
  deriving DecidableEq, Repr

namespace ConfiguredChannels

def fromEntries (entries : Vector (Option Channel) driverMaxChannels) : ConfiguredChannels := ⟨entries⟩

def get (c : ConfiguredChannels) (id : ChannelId) : Option Channel := c.entries[id.asIndex]?.join

end ConfiguredChannels

end LedWireDriver.Api
