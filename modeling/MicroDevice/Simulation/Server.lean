import MicroDevice.Channel.Network
import MicroDevice.Channel.Params

/-! # Scripted debug servers

A server that answers each command with the next entry of a list, and with success beyond
its end, and the parameters of a board behind it.
-/

namespace MicroDevice.Simulation

/-- An answer that ends with the terminator. -/
def reply (bytes : Bytes) : ServerAnswer :=
  ⟨bytes ++ [Connection.terminator], false⟩

/-- The server that answers with the entries of a list in their order. -/
def server (entries : List ServerAnswer) : Server := fun earlier _ =>
  (entries[earlier.length]?).getD (reply (Text.encode "micrort-ok"))

/-- The parameters of a board that has the given kinds of regions, of 256 bytes each. -/
def boardParams (kinds : List RegionKind) : ChannelParams where
  method := .openocd
  runtime := ⟨"/tmp/micrort_runtime.obj"⟩
  toolchainPrefix := "arm-none-eabi-"
  regions := kinds.map fun kind =>
    let base := match kind with
      | .text => some 0x20000180
      | .stack => some 0x20040000
      | _ => none
    ⟨kind, base, 0x100⟩
  wordSize := 32
  thumbMode := true
  address := "127.0.0.1"
  port := 6666

end MicroDevice.Simulation
