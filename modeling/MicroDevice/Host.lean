/-! # The host machine

The machine a session is driven from, described by its operating system and the width of
its pointers.
-/

namespace MicroDevice

/-- The operating system and pointer width of a machine. -/
structure Host where
  os : String
  pointerWidth : UInt32
  deriving DecidableEq, Repr

namespace Host

/-- The machine the library itself runs on. -/
def current : Host := ⟨"linux", 64⟩

/-- Whether the operating system is Linux. -/
def isLinux (host : Host) : Bool :=
  host.os == "linux"

/-- Whether pointers have 64 bits. -/
def is64Bit (host : Host) : Bool :=
  host.pointerWidth == 64

/-- The word size in bits. -/
def wordSize (host : Host) : UInt32 :=
  host.pointerWidth

end Host

end MicroDevice
