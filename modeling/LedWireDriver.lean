import LedWireDriver.Attempts
import LedWireDriver.Transport
import LedWireDriver.Phase
import LedWireDriver.Routing
import LedWireDriver.Denotation
import LedWireDriver.Twins
import LedWireDriver.Ingress
import LedWireDriver.Reachable
import LedWireDriver.Truthful
import LedWireDriver.DriverIds
import LedWireDriver.Atomicity
import LedWireDriver.Brightness
import LedWireDriver.Api.SetupProofs
import LedWireDriver.Protocol
import LedWireDriver.Delivery
import LedWireDriver.Display
import LedWireDriver.DebugProofs
import LedWireDriver.Completion
import LedWireDriver.Fidelity
import LedWireDriver.Drain
import LedWireDriver.Refused
import LedWireDriver.Overwritten
import LedWireDriver.Unordered
