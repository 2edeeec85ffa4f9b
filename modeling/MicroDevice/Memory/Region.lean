import MicroDevice.Word

/-! # Memory regions

A device's memory is divided into eight named regions. A region has a size and
may have a base address; an unset base leaves the placement open.
-/

namespace MicroDevice

/-- The eight regions a runtime is placed into, in canonical order. -/
inductive RegionKind where
  | text
  | rodata
  | data
  | bss
  | args
  | heap
  | workspace
  | stack
  deriving DecidableEq, Repr

namespace RegionKind

/-- Every region kind, in canonical order. -/
def all : List RegionKind :=
  [text, rodata, data, bss, args, heap, workspace, stack]

/-- The name a region kind has in configuration files. -/
def name : RegionKind → String
  | text => "text"
  | rodata => "rodata"
  | data => "data"
  | bss => "bss"
  | args => "args"
  | heap => "heap"
  | workspace => "workspace"
  | stack => "stack"

/-- The position of a region kind in canonical order. -/
def index (kind : RegionKind) : Nat :=
  all.idxOf kind

/-- The region kind of a name. -/
def ofName? (name : String) : Option RegionKind :=
  all.find? (fun kind => kind.name == name)

theorem mem_all (kind : RegionKind) : kind ∈ all := by
  cases kind <;> decide

end RegionKind

/-- A region of a layout: its kind, its base address when one is set, and its size in bytes. -/
structure MemoryRegion where
  kind : RegionKind
  base : Option UInt64
  size : UInt64
  deriving DecidableEq, Repr

namespace MemoryRegion

/-- The base address a debug server is given: zero when none is set. -/
def wireBase (region : MemoryRegion) : UInt64 :=
  region.base.getD 0

/-- The first address past a positioned region, or the greatest address when that is past the
top. -/
def limit? (region : MemoryRegion) : Option UInt64 :=
  region.base.map (fun base => Word.addSaturating base region.size)

/-- Two positioned regions overlap when each begins before the other ends. -/
def overlaps (first second : MemoryRegion) : Bool :=
  match first.base, first.limit?, second.base, second.limit? with
  | some firstBase, some firstLimit, some secondBase, some secondLimit =>
      firstBase < secondLimit && secondBase < firstLimit
  | _, _, _, _ => false

end MemoryRegion

end MicroDevice
