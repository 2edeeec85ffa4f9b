import Mathlib.Order.Bounds.Defs
import MicroDevice.Proofs.Channel.Placement

/-! # How the host packs regions

Regions are given their places one after another (`HostChannel.allot`): one with an address is
placed there, and one without comes at the first aligned address after the last one that had none
(`HostChannel.Packs`). This is so for any list of regions, also where a later region of a kind
takes the place of an earlier one in the channel. The addresses are computed in words, and none of
the computations goes past the top (`HostChannel.regions_packed_in_order`).
-/

namespace MicroDevice

/-- The number of the address after an emulated region. -/
def Placement.limit (placement : Placement) : Nat :=
  placement.base.toNat + placement.size.toNat

/-- A placement that ends before another begins is apart from it. -/
theorem Placement.apart_of_limit_le {first second : Placement}
    (before : first.limit ≤ second.base.toNat) : first.Apart second := by
  intro address occupies alsoOccupies
  have begins := UInt64.le_iff_toNat_le.mp alsoOccupies.1
  have ends : address.toNat < first.limit := occupies.2
  omega

/-- The ceiling of a number is the least multiple of the step that is no less. -/
theorem Word.isLeast_ceiling {step : Nat} (positive : 0 < step) (value : Nat) :
    IsLeast {bound | step ∣ bound ∧ value ≤ bound} (Word.ceiling value step) :=
  ⟨⟨Word.dvd_ceiling value step, Word.le_ceiling positive value⟩,
    fun _ bounds => Word.ceiling_le positive bounds.2 bounds.1⟩

namespace HostChannel

/-- A region and the place that it is given. -/
structure Allotment where
  region : MemoryRegion
  placement : Placement

/-- The places that regions are given one after another, from an address on. -/
def allot (wordBytes : UInt64) : (next : UInt64) → List MemoryRegion → List Allotment
  | _, [] => []
  | next, region :: later =>
      match region.base with
      | none =>
          let base := Word.roundUp next wordBytes
          ⟨region, base, region.size⟩ :: allot wordBytes (base + region.size) later
      | some base => ⟨region, base, region.size⟩ :: allot wordBytes next later

/-- The place of the last region of a kind. -/
def lastPlacement? (allotments : List Allotment) (kind : RegionKind) : Option Placement :=
  (allotments.reverse.find? fun allotment => allotment.region.kind = kind).map (·.placement)

/-- Where the packing has come to after some regions: to the end of the last one without an
address, or still to where it began. -/
def frontier (start : Nat) (earlier : List Allotment) : Nat :=
  earlier.foldl (fun reached allotment =>
    if allotment.region.base = none then allotment.placement.limit else reached) start

/-- A region is where it belongs after others: at its address, or at the first aligned address
that they leave. It ends inside the address space. -/
structure Packs (start step : Nat) (earlier : List Allotment) (allotment : Allotment) : Prop where
  size_eq : allotment.placement.size = allotment.region.size
  placed : ∀ base, allotment.region.base = some base → allotment.placement.base = base
  unplaced : allotment.region.base = none →
    IsLeast {address | step ∣ address ∧ frontier start earlier ≤ address}
      allotment.placement.base.toNat
  inside : allotment.placement.limit < UInt64.size

section Allotting

variable {wordBytes next : UInt64} {region : MemoryRegion} {later : List MemoryRegion}

/-- A region without a base is allotted the next aligned address, and the cursor moves past it. -/
theorem allot_cons_none (unplaced : region.base = none) :
    allot wordBytes next (region :: later) =
      ⟨region, Word.roundUp next wordBytes, region.size⟩ ::
        allot wordBytes (Word.roundUp next wordBytes + region.size) later := by
  rw [allot, unplaced]

/-- A region with a base is allotted that base, and the cursor stays. -/
theorem allot_cons_some {base : UInt64} (placed : region.base = some base) :
    allot wordBytes next (region :: later) =
      ⟨region, base, region.size⟩ :: allot wordBytes next later := by
  rw [allot, placed]

/-- Every region is allotted once, in order. -/
theorem map_region_allot (wordBytes next : UInt64) (regions : List MemoryRegion) :
    (allot wordBytes next regions).map (·.region) = regions := by
  induction regions generalizing next with
  | nil => rfl
  | cons region later ih =>
      rcases based : region.base with _ | base
      · rw [allot_cons_none based, List.map_cons, ih]
      · rw [allot_cons_some based, List.map_cons, ih]

/-- The last placement of a kind is among the later allotments, or else it is the first one if that
is of the kind. -/
theorem lastPlacement?_cons (allotment : Allotment) (allotments : List Allotment)
    (kind : RegionKind) :
    lastPlacement? (allotment :: allotments) kind =
      (lastPlacement? allotments kind).or
        (if kind = allotment.region.kind then some allotment.placement else none) := by
  unfold lastPlacement?
  rw [List.reverse_cons, List.find?_append, Option.map_or]
  rcases List.find? _ allotments.reverse with _ | found
  · by_cases same : kind = allotment.region.kind
    · simp [same]
    · simp [same, Ne.symm same]
  · simp

/-- A channel has each kind where the last region of the kind was placed. -/
theorem place_eq_lastPlacement? {placed result : RegionKind → Option Placement}
    {regions : List MemoryRegion} (places : place wordBytes next placed regions = .ok result)
    (kind : RegionKind) :
    result kind = (lastPlacement? (allot wordBytes next regions) kind).or (placed kind) := by
  induction regions generalizing next placed with
  | nil =>
      cases places
      rfl
  | cons region later ih =>
      rw [place] at places
      rcases based : region.base with _ | base <;> rw [based] at places
      · rw [allot_cons_none based, lastPlacement?_cons, ih places, Option.or_assoc]
        dsimp only
        split <;> rfl
      · dsimp only at places
        rcases adds : Word.add? base region.size with _ | limit <;> rw [adds] at places
        · cases places
        · rw [allot_cons_some based, lastPlacement?_cons, ih places, Option.or_assoc]
          dsimp only
          split <;> rfl

end Allotting

variable {wordBytes next : UInt64} {regions : List MemoryRegion} {allotment : Allotment}

/-- A region without an address is placed exactly, and leaves room for those after it. -/
theorem room_of_unplaced {region : MemoryRegion} {later : List MemoryRegion}
    (positive : 0 < wordBytes.toNat) (unplaced : region.base = none)
    (fits : Word.ceiling next.toNat wordBytes.toNat +
      packedBytes wordBytes.toNat (region :: later) < UInt64.size) :
    (Word.roundUp next wordBytes).toNat = Word.ceiling next.toNat wordBytes.toNat ∧
      (Word.roundUp next wordBytes).toNat + region.size.toNat =
        (Word.roundUp next wordBytes + region.size).toNat ∧
      Word.ceiling (Word.roundUp next wordBytes + region.size).toNat wordBytes.toNat +
        packedBytes wordBytes.toNat later < UInt64.size := by
  rw [packedBytes_cons_none _ unplaced] at fits
  have room : Word.ceiling next.toNat wordBytes.toNat +
      Word.ceiling region.size.toNat wordBytes.toNat < UInt64.size := by omega
  obtain ⟨base_eq, limit_eq⟩ := Word.toNat_roundUp_add positive room
  refine ⟨base_eq, by rw [base_eq, limit_eq], ?_⟩
  rw [limit_eq, Word.ceiling_add positive (Word.dvd_ceiling _ _)]
  omega

/-- What is packed after the frontier that a first region leaves is packed after that region. -/
theorem Packs.cons {start further step : Nat} {earlier : List Allotment} {first : Allotment}
    (packs : Packs further step earlier allotment)
    (further_eq : (if first.region.base = none then first.placement.limit else start) = further) :
    Packs start step (first :: earlier) allotment := by
  subst further_eq
  exact ⟨packs.size_eq, packs.placed, packs.unplaced, packs.inside⟩

/-- Each region is packed after those before it, as far as the arena does not reach the top and
those with an address end inside the address space. -/
theorem packs_of_allot (positive : 0 < wordBytes.toNat)
    (fits : Word.ceiling next.toNat wordBytes.toNat + packedBytes wordBytes.toNat regions <
      UInt64.size)
    (inside : ∀ region ∈ regions, ∀ base, region.base = some base →
      base.toNat + region.size.toNat < UInt64.size)
    {earlier later : List Allotment}
    (split : allot wordBytes next regions = earlier ++ allotment :: later) :
    Packs next.toNat wordBytes.toNat earlier allotment := by
  induction regions generalizing next earlier with
  | nil =>
      rw [allot] at split
      cases earlier <;> cases split
  | cons region rest ih =>
      have insideRest := fun other member => inside other (List.mem_cons_of_mem region member)
      rcases based : region.base with _ | base
      · obtain ⟨base_eq, limit_eq, room⟩ := room_of_unplaced positive based fits
        rw [allot_cons_none based] at split
        rcases List.cons_eq_append_iff.mp split with ⟨rfl, same⟩ | ⟨others, rfl, onward⟩
        · cases same
          refine ⟨rfl, fun base placed => ?_, fun _ => ?_, limit_eq.trans_lt (UInt64.toNat_lt _)⟩
          · cases based.symm.trans placed
          · change IsLeast _ (Word.roundUp next wordBytes).toNat
            rw [base_eq]
            exact Word.isLeast_ceiling positive next.toNat
        · exact (ih room insideRest onward).cons ((if_pos based).trans limit_eq)
      · rw [packedBytes_cons_some _ based] at fits
        rw [allot_cons_some based] at split
        rcases List.cons_eq_append_iff.mp split with ⟨rfl, same⟩ | ⟨others, rfl, onward⟩
        · cases same
          refine ⟨rfl, fun held placed => ?_, fun unplaced => ?_, ?_⟩
          · exact Option.some.inj (based.symm.trans placed)
          · cases based.symm.trans unplaced
          · exact inside region List.mem_cons_self base based
        · exact (ih fits insideRest onward).cons (if_neg (by simp [based]))

/-- The packing only goes up. -/
theorem le_base_of_mem_allot (positive : 0 < wordBytes.toNat)
    (fits : Word.ceiling next.toNat wordBytes.toNat + packedBytes wordBytes.toNat regions <
      UInt64.size)
    (member : allotment ∈ allot wordBytes next regions)
    (unplaced : allotment.region.base = none) :
    next.toNat ≤ allotment.placement.base.toNat := by
  induction regions generalizing next with
  | nil => cases member
  | cons region rest ih =>
      rcases based : region.base with _ | base
      · obtain ⟨base_eq, limit_eq, room⟩ := room_of_unplaced positive based fits
        have covered := Word.le_ceiling positive next.toNat
        rw [allot_cons_none based] at member
        rcases List.mem_cons.mp member with rfl | onward
        · exact base_eq ▸ covered
        · have above := ih room onward
          omega
      · rw [packedBytes_cons_some _ based] at fits
        rw [allot_cons_some based] at member
        rcases List.mem_cons.mp member with rfl | onward
        · cases based.symm.trans unplaced
        · exact ih fits onward

/-- Each region that is packed ends before the next ones begin. -/
theorem pairwise_allot (positive : 0 < wordBytes.toNat)
    (fits : Word.ceiling next.toNat wordBytes.toNat + packedBytes wordBytes.toNat regions <
      UInt64.size) :
    ((allot wordBytes next regions).filter fun allotment =>
      allotment.region.base = none).Pairwise fun first second =>
        first.placement.limit ≤ second.placement.base.toNat := by
  induction regions generalizing next with
  | nil => exact .nil
  | cons region rest ih =>
      rcases based : region.base with _ | base
      · obtain ⟨-, limit_eq, room⟩ := room_of_unplaced positive based fits
        rw [allot_cons_none based, List.filter_cons_of_pos (by simp [based])]
        refine List.pairwise_cons.mpr ⟨fun second member => ?_, ih room⟩
        obtain ⟨onward, unplaced⟩ := List.mem_filter.mp member
        have above := le_base_of_mem_allot positive room onward (of_decide_eq_true unplaced)
        exact limit_eq.trans_le above
      · rw [packedBytes_cons_some _ based] at fits
        rw [allot_cons_some based, List.filter_cons_of_neg (by simp [based])]
        exact ih fits

/-- When a channel is opened, however many regions there are and whatever the word size, each
region is given a place in the order of the list, and the channel has the last one of each kind.
Those with an address keep it. The others begin at multiples of the bytes of a word: the first at
the least one from the beginning of the arena on, and each further one at the least one from the
end of the one before it on, so that no two of them meet. No place reaches past the top. -/
theorem regions_packed_in_order {params : ChannelParams} {files : FileTree}
    {channel : HostChannel} (opened : openWith params files = .ok channel) :
    let allotments := allot params.alignment arenaBase params.regions
    allotments.map (·.region) = params.regions ∧
      (∀ kind, channel.placement? kind = lastPlacement? allotments kind) ∧
      (∀ earlier allotment later, allotments = earlier ++ allotment :: later →
        Packs arenaBase.toNat (max 1 (params.wordSize.toNat / 8)) earlier allotment) ∧
      (allotments.filter fun allotment => allotment.region.base = none).Pairwise
        fun first second => first.placement.Apart second.placement := by
  intro allotments
  obtain ⟨_, _, placement?, -, -, total, -, places, rfl⟩ := openWith_ok_iff.mp opened
  have fits := arena_fits total
  have inside : ∀ region ∈ params.regions, ∀ base, region.base = some base →
      base.toNat + region.size.toNat < UInt64.size := by
    intro region member base placed
    have below := (place_isOk_iff _ _ _ _).mp ⟨placement?, places⟩ region member base placed
    exact below.trans_lt (by decide)
  refine ⟨map_region_allot _ _ _, fun kind => ?_, fun earlier allotment later split => ?_, ?_⟩
  · exact (place_eq_lastPlacement? places kind).trans Option.or_none
  · rw [← params.toNat_alignment]
    exact packs_of_allot params.alignment_pos fits inside split
  · exact (pairwise_allot params.alignment_pos fits).imp Placement.apart_of_limit_le

/-- Words of the greatest size, and a list that has kinds again, regions without bytes, and one
with an address among the others. -/
theorem repeated_regions_packed_in_order :
    let params := { Simulation.imageParams fun kind => if kind = .stack then some 7 else none with
      wordSize := 0xFFFFFFFF
      regions := (Simulation.imageParams fun kind =>
        if kind = .stack then some 7 else none).regions ++
          [⟨.heap, none, 0⟩, ⟨.heap, none, 1⟩, ⟨.heap, none, 3⟩] }
    ∃ channel, openWith params (Simulation.filesWith (Simulation.codeImage [])) = .ok channel ∧
      ((allot params.alignment arenaBase params.regions).filter fun allotment =>
        allotment.region.base = none).Pairwise
          fun first second => first.placement.Apart second.placement := by
  intro params
  have opens : (openWith params (Simulation.filesWith (Simulation.codeImage []))).isOk = true := by
    decide +kernel
  obtain ⟨channel, opened⟩ := isOk_iff.mp opens
  exact ⟨channel, opened, (regions_packed_in_order opened).2.2.2⟩

end HostChannel

end MicroDevice
