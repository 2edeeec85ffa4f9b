import MicroDevice.Memory.Layout

/-! # Device configurations

A configuration names a device, the toolchain that compiles for it, its memory layout and
how it is reached. Nothing is checked when it is built: each consumer asks for what it
needs and gets it or the error that names what is missing.
-/

namespace MicroDevice

/-- How a device is reached. -/
inductive CommsMethod where
  | host
  | openocd
  deriving DecidableEq, Repr

namespace CommsMethod

/-- The name a method has in configuration files. -/
def name : CommsMethod → String
  | host => "host"
  | openocd => "openocd"

/-- The method of a name. -/
def ofName (name : String) : Except ConfigError CommsMethod :=
  if name = "host" then .ok host
  else if name = "openocd" then .ok openocd
  else .error (.unknownTransport name)

end CommsMethod

/-- How a device is reached, with what the method needs. -/
inductive Transport where
  | host
  | openocd (address : String) (port : UInt16)
  deriving DecidableEq, Repr

namespace Transport

/-- The method of a transport. -/
def method : Transport → CommsMethod
  | host => .host
  | openocd _ _ => .openocd

/-- The address and port of the debug server; empty and zero where there is none. -/
def endpoint : Transport → String × UInt16
  | host => ("", 0)
  | openocd address port => (address, port)

end Transport

/-- The configuration of a device. -/
structure DeviceConfig where
  deviceId : String
  toolchainPrefix : String
  memLayout : MemoryLayout
  wordSize : UInt32
  thumbMode : Bool
  commsMethod : String
  serverAddr : Option String
  serverPort : Option UInt16
  deriving DecidableEq, Inhabited

namespace DeviceConfig

/-- The word size in bytes. -/
def wordSizeBytes (config : DeviceConfig) : Except ConfigError UInt32 :=
  if config.wordSize = 32 ∨ config.wordSize = 64 then .ok (config.wordSize / 8)
  else .error (.wordSize config.wordSize)

/-- The method the device is reached by. -/
def comms (config : DeviceConfig) : Except ConfigError CommsMethod :=
  CommsMethod.ofName config.commsMethod

/-- The transport the device is reached by: the method has to be known, and a debug server
needs its address and then its port. -/
def transport (config : DeviceConfig) : Except ConfigError Transport :=
  match config.comms with
  | .error error => .error error
  | .ok .host => .ok .host
  | .ok .openocd =>
      match config.serverAddr, config.serverPort with
      | none, _ => .error (.missingEndpoint config.commsMethod .serverAddr)
      | some _, none => .error (.missingEndpoint config.commsMethod .serverPort)
      | some address, some port => .ok (.openocd address port)

end DeviceConfig

end MicroDevice
