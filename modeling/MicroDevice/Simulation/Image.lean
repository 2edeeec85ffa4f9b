import MicroDevice.Channel.Params
import MicroDevice.Files.FileTree
import MicroDevice.Object.Field

/-! # Runtime images

The least that a channel to the host needs: a runtime that holds headers alone, in a file, and
the eight regions of a device.
-/

namespace MicroDevice.Simulation

/-- A number in a fixed count of bytes, the least significant first. -/
def littleEndian (count value : Nat) : Bytes :=
  (List.range count).map fun place => UInt8.ofNat (value >>> (8 * place))

/-- The header of a section of loaded code. The section has no contents, whatever size it
declares. -/
def codeSection (size : UInt64) : Bytes :=
  littleEndian 4 0 ++ littleEndian 4 1 ++ littleEndian 8 6 ++ littleEndian 8 0 ++
    littleEndian 8 0 ++ littleEndian 8 size.toNat ++ littleEndian 4 0 ++ littleEndian 4 0 ++
    littleEndian 8 1 ++ littleEndian 8 0

/-- An ELF file for 64-bit machines whose sections of loaded code declare the given sizes. -/
def codeImage (sizes : List UInt64) : Bytes :=
  [0x7F, 0x45, 0x4C, 0x46, 2, 1, 1, 0] ++ List.replicate 8 0 ++ littleEndian 2 1 ++
    littleEndian 2 62 ++ littleEndian 4 1 ++ littleEndian 8 0 ++ littleEndian 8 0 ++
    littleEndian 8 (if sizes = [] then 0 else 64) ++ littleEndian 4 0 ++ littleEndian 2 64 ++
    littleEndian 2 56 ++ littleEndian 2 0 ++ littleEndian 2 64 ++
    littleEndian 2 sizes.length ++ littleEndian 2 0xFFF0 ++ sizes.flatMap codeSection

/-- A fresh file tree with a runtime in it. -/
def filesWith (image : Bytes) : FileTree :=
  FileTree.fresh.put ["work".toList, "runtime.obj".toList] (.file image)

/-- What a channel to the host is opened with: the eight regions of 4096 bytes each, at the given
addresses. -/
def imageParams (base : RegionKind → Option UInt64) : ChannelParams where
  method := .host
  runtime := ⟨"runtime.obj"⟩
  toolchainPrefix := ""
  regions := RegionKind.all.map fun kind => ⟨kind, base kind, 4096⟩
  wordSize := 64
  thumbMode := false
  address := ""
  port := 0

end MicroDevice.Simulation
