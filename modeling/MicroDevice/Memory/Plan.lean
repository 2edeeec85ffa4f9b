import MicroDevice.Memory.Layout

/-! # Planning a memory layout

Sections are placed one after another from a base address. A section asks for a fixed
number of bytes or for a share of what the fixed sections leave, by weight; every size is
rounded down to whole words.
-/

namespace MicroDevice

/-- What a section asks for. -/
inductive SectionDemand where
  | bytes (count : UInt64)
  | weight (share : Float)

/-- A section to place: its kind and what it asks for. -/
structure Section where
  kind : RegionKind
  demand : SectionDemand

namespace MemoryLayout

/-- The sizes asked for in bytes, in order. -/
def fixedSizes (sections : List Section) : List UInt64 :=
  sections.filterMap fun entry =>
    match entry.demand with
    | .bytes count => some count
    | .weight _ => none

/-- The weights asked for, in order. -/
def weights (sections : List Section) : List Float :=
  sections.filterMap fun entry =>
    match entry.demand with
    | .bytes _ => none
    | .weight share => some share

/-- The bytes a demand comes to before rounding: weights share `remaining` in proportion to
`totalWeight`, and count for nothing unless that is positive. -/
def rawSize (totalWeight : Float) (remaining : UInt64) : SectionDemand → UInt64
  | .bytes count => count
  | .weight share =>
      if 0.0 < totalWeight then ((share / totalWeight) * remaining.toFloat).toUInt64 else 0

/-- Place sections one after another, the first at `next`, into `placed`. -/
def placeFrom (wordSize : UInt64) (raw : SectionDemand → UInt64) :
    (next : UInt64) → (placed : MemoryLayout) → List Section → Except PlacementError MemoryLayout
  | _, placed, [] => .ok placed
  | next, placed, entry :: later =>
      let size := Word.roundDown (raw entry.demand) wordSize
      if size = 0 then .error (.emptySection entry.kind)
      else
        match Word.add? next size with
        | none => .error (.pastTop entry.kind)
        | some following =>
            placeFrom wordSize raw following (placed.insert entry.kind (some next) size) later

/-- The layout that places sections in order from a base address within the memory given. -/
def plan (base available wordSize : UInt64) (sections : List Section) :
    Except PlacementError MemoryLayout :=
  if wordSize = 0 then .error .zeroWordSize
  else if base % wordSize ≠ 0 then .error (.misalignedBase base wordSize)
  else
    match Word.sum? (fixedSizes sections) with
    | none => .error .fixedSizesOverflow
    | some fixed =>
        if available < fixed then .error (.overcommitted fixed available)
        else
          let totalWeight := (weights sections).foldl (· + ·) 0.0
          placeFrom wordSize (rawSize totalWeight (available - fixed)) base empty sections

end MemoryLayout

end MicroDevice
