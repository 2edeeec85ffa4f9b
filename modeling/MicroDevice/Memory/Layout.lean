import MicroDevice.Config.Error

/-! # Memory layouts

A layout gives each region kind an extent or leaves it out. Everything that lists
regions goes through the canonical order of the kinds, so the order of insertion
leaves no trace.
-/

namespace MicroDevice

/-- What a layout holds for one kind: an optional start address and a size in bytes. -/
structure Extent where
  start : Option UInt64
  size : UInt64
  deriving DecidableEq, Repr

/-- A memory layout: for each region kind, its extent if it is present. -/
structure MemoryLayout where
  extent? : RegionKind → Option Extent

namespace MemoryLayout

/-- A layout is determined by the extents of its kinds. -/
theorem ext_extent {first second : MemoryLayout}
    (same : ∀ kind, first.extent? kind = second.extent? kind) : first = second := by
  cases first
  cases second
  exact congrArg mk (funext same)

instance : DecidableEq MemoryLayout := fun first second =>
  decidable_of_iff (∀ kind ∈ RegionKind.all, first.extent? kind = second.extent? kind)
    ⟨fun same => ext_extent fun kind => same kind (RegionKind.mem_all kind),
      fun same _ _ => same ▸ rfl⟩

/-- The layout without regions. -/
def empty : MemoryLayout := ⟨fun _ => none⟩

instance : Inhabited MemoryLayout := ⟨empty⟩

/-- The layout with the extent of one kind replaced. -/
def insert (layout : MemoryLayout) (kind : RegionKind) (start : Option UInt64) (size : UInt64) :
    MemoryLayout :=
  ⟨fun other => if other = kind then some ⟨start, size⟩ else layout.extent? other⟩

/-- The layout without one kind. -/
def erase (layout : MemoryLayout) (kind : RegionKind) : MemoryLayout :=
  ⟨fun other => if other = kind then none else layout.extent? other⟩

/-- The region of a kind, if the layout has it. -/
def region? (layout : MemoryLayout) (kind : RegionKind) : Option MemoryRegion :=
  (layout.extent? kind).map fun extent => ⟨kind, extent.start, extent.size⟩

/-- The regions present, in canonical order. -/
def regions (layout : MemoryLayout) : List MemoryRegion :=
  RegionKind.all.filterMap layout.region?

/-- The region of a kind, which has to be present and not empty. -/
def require (layout : MemoryLayout) (kind : RegionKind) : Except ConfigError MemoryRegion :=
  match layout.region? kind with
  | some region => if 0 < region.size then .ok region else .error (.missingRegion kind)
  | none => .error (.missingRegion kind)

/-- All eight regions in canonical order, or the first that is missing or empty. -/
def requireAll (layout : MemoryLayout) : Except ConfigError (List MemoryRegion) :=
  RegionKind.all.mapM layout.require

/-- Whether all eight regions are present and not empty. -/
def isComplete (layout : MemoryLayout) : Bool :=
  layout.requireAll.isOk

/-- The sum of all region sizes, when it is a word. -/
def totalSize (layout : MemoryLayout) : Option UInt64 :=
  Word.sum? (layout.regions.map (·.size))

/-- The pairs of a list that overlap, the earlier region first. -/
def overlapsAmong : List MemoryRegion → List (MemoryRegion × MemoryRegion)
  | [] => []
  | region :: later =>
      (later.filter region.overlaps).map (fun other => (region, other)) ++ overlapsAmong later

/-- The pairs of regions that overlap, in canonical order. -/
def overlappingPairs (layout : MemoryLayout) : List (MemoryRegion × MemoryRegion) :=
  overlapsAmong layout.regions

end MemoryLayout

end MicroDevice
