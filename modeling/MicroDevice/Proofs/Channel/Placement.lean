import Mathlib.Data.List.Pairwise
import Mathlib.Data.List.Perm.Basic
import MicroDevice.Proofs.Channel.Opening
import MicroDevice.Proofs.Memory.Overlap

/-! # Where the host emulates regions

A region with an address is emulated there. The others come one after another from the beginning
of the arena on, each at the first aligned address after the one before (`HostChannel.Emulates`),
and none of these addresses is past the top. So no two of the others share an address, and no
two regions do unless one with an address reaches into one without
(`HostChannel.emulated_apart_iff`).
-/

namespace MicroDevice

/-- The bytes that the regions without an address take up when each begins aligned. -/
def packedBytes (step : Nat) (regions : List MemoryRegion) : Nat :=
  ((regions.filter fun region => region.base = none).map fun region =>
    Word.ceiling region.size.toNat step).sum

@[simp] theorem packedBytes_nil (step : Nat) : packedBytes step [] = 0 := rfl

/-- A region without a base takes its size rounded up to whole steps. -/
theorem packedBytes_cons_none (step : Nat) {region : MemoryRegion} (unplaced : region.base = none)
    (later : List MemoryRegion) : packedBytes step (region :: later) =
      Word.ceiling region.size.toNat step + packedBytes step later := by
  simp [packedBytes, unplaced]

/-- A region with a base takes no room. -/
theorem packedBytes_cons_some (step : Nat) {region : MemoryRegion} {base : UInt64}
    (placed : region.base = some base) (later : List MemoryRegion) :
    packedBytes step (region :: later) = packedBytes step later := by
  simp [packedBytes, placed]

theorem packedBytes_append (step : Nat) (earlier later : List MemoryRegion) :
    packedBytes step (earlier ++ later) = packedBytes step earlier + packedBytes step later := by
  simp [packedBytes]

theorem packedBytes_cons (step : Nat) (region : MemoryRegion) (later : List MemoryRegion) :
    packedBytes step (region :: later) = packedBytes step [region] + packedBytes step later :=
  packedBytes_append step [region] later

/-- The room taken is at most a step for every byte. -/
theorem packedBytes_le {step : Nat} (positive : 0 < step) (regions : List MemoryRegion) :
    packedBytes step regions ≤ (regions.map fun region => region.size.toNat).sum * step := by
  induction regions with
  | nil => exact Nat.zero_le _
  | cons region later ih =>
      have rounded := Word.ceiling_le_mul positive region.size.toNat
      rw [List.map_cons, List.sum_cons, Nat.add_mul]
      rcases based : region.base with _ | base
      · rw [packedBytes_cons_none step based]
        omega
      · rw [packedBytes_cons_some step based]
        omega

/-- Two regions do not share an address. -/
def MemoryRegion.Apart (first second : MemoryRegion) : Prop :=
  ∀ address, first.Occupies address → ¬ second.Occupies address

/-- The addresses of an emulated region. -/
def Placement.Occupies (placement : Placement) (address : UInt64) : Prop :=
  placement.base ≤ address ∧ address.toNat < placement.base.toNat + placement.size.toNat

/-- Two emulated regions do not share an address. -/
def Placement.Apart (first second : Placement) : Prop :=
  ∀ address, first.Occupies address → ¬ second.Occupies address

instance MemoryRegion.symm_apart : Std.Symm MemoryRegion.Apart where
  symm _ _ apart := fun address occupies alsoOccupies => apart address alsoOccupies occupies

theorem Placement.Apart.symm {first second : Placement} (apart : first.Apart second) :
    second.Apart first := by
  intro address occupies alsoOccupies
  exact apart address alsoOccupies occupies

/-- Of two members of a list one comes before the other. -/
theorem exists_split_of_mem {α : Type} {list : List α} {first second : α} (member : first ∈ list)
    (alsoMember : second ∈ list) (different : first ≠ second) :
    ∃ earlier middle later, list = earlier ++ first :: (middle ++ second :: later) ∨
      list = earlier ++ second :: (middle ++ first :: later) := by
  obtain ⟨before, after, rfl⟩ := List.append_of_mem member
  rcases List.mem_append.mp alsoMember with isBefore | found
  · obtain ⟨earlier, middle, rfl⟩ := List.append_of_mem isBefore
    exact ⟨earlier, middle, after, .inr (List.append_assoc _ _ _)⟩
  · rcases List.mem_cons.mp found with same | isAfter
    · exact absurd same.symm different
    · obtain ⟨middle, later, rfl⟩ := List.append_of_mem isAfter
      exact ⟨before, middle, later, .inl rfl⟩

namespace ChannelParams

/-- Parameters with every kind once have a region of each kind. -/
theorem exists_region (params : ChannelParams)
    (kinds : (params.regions.map (·.kind)).Perm RegionKind.all) (kind : RegionKind) :
    ∃ region ∈ params.regions, region.kind = kind :=
  List.mem_map.mp (kinds.mem_iff.mpr kind.mem_all)

/-- The number of the address from which the regions without one are packed. -/
def arenaStart (params : ChannelParams) : Nat :=
  Word.ceiling HostChannel.arenaBase.toNat params.alignment.toNat

/-- No region with an address reaches into those without, where these are packed. -/
def ClearOfArena (params : ChannelParams) : Prop :=
  ∀ earlier unplaced later, params.regions = earlier ++ unplaced :: later →
    unplaced.base = none → ∀ placed ∈ params.regions, ∀ address, placed.Occupies address →
      address.toNat < params.arenaStart + packedBytes params.alignment.toNat earlier ∨
        params.arenaStart + packedBytes params.alignment.toNat earlier + unplaced.size.toNat ≤
          address.toNat

/-- A device is clear of the arena when each of its addresses is before it or past it. -/
theorem clearOfArena_of_outside {params : ChannelParams}
    (outside : ∀ placed ∈ params.regions, ∀ address, placed.Occupies address →
      address.toNat < params.arenaStart ∨
        params.arenaStart + packedBytes params.alignment.toNat params.regions ≤ address.toNat) :
    params.ClearOfArena := by
  intro earlier unplaced later split unbased placed member address occupies
  have outside := outside placed member address occupies
  have covered := Word.le_ceiling params.alignment_pos unplaced.size.toNat
  rw [split, packedBytes_append, packedBytes_cons_none _ unbased] at outside
  omega

end ChannelParams

/-- The stack alone has an address, so that it meets no other region. -/
theorem Simulation.pairwise_apart_stack (base : UInt64) :
    (imageParams fun kind => if kind = .stack then some base else none).regions.Pairwise
      MemoryRegion.Apart := by
  refine List.pairwise_map.mpr (RegionKind.nodup_all.imp ?_)
  intro first second different address occupies
  apply MemoryRegion.not_occupies
  have isStack : first = .stack := by
    by_contra other
    exact MemoryRegion.not_occupies (if_neg other) address occupies
  exact if_neg fun same => different (isStack.trans same.symm)

namespace HostChannel

/-- Where a region is emulated when the regions before it in a list are known: at its address, or
else after those that have none. -/
structure Emulates (start step : Nat) (earlier : List MemoryRegion) (region : MemoryRegion)
    (placement : Placement) : Prop where
  size_eq : placement.size = region.size
  placed : ∀ base, region.base = some base → placement.base = base
  unplaced : region.base = none → placement.base.toNat = start + packedBytes step earlier
  inside : placement.base.toNat + placement.size.toNat < UInt64.size

/-- The first of the regions is emulated, and room is taken for it if it has no address. -/
theorem place_cons {wordBytes next : UInt64} {placed result : RegionKind → Option Placement}
    {first : MemoryRegion} {rest : List MemoryRegion} (positive : 0 < wordBytes.toNat)
    (fits : Word.ceiling next.toNat wordBytes.toNat + packedBytes wordBytes.toNat [first] <
      UInt64.size)
    (places : place wordBytes next placed (first :: rest) = .ok result) :
    ∃ placement further,
      Emulates (Word.ceiling next.toNat wordBytes.toNat) wordBytes.toNat [] first placement ∧
      Word.ceiling further.toNat wordBytes.toNat =
        Word.ceiling next.toNat wordBytes.toNat + packedBytes wordBytes.toNat [first] ∧
      place wordBytes further
        (fun kind => if kind = first.kind then some placement else placed kind) rest =
          .ok result := by
  have size_eq : UInt64.size = 2 ^ 64 := rfl
  rw [place] at places
  rcases based : first.base with _ | base <;> rw [based] at places
  · rw [packedBytes_cons_none _ based, packedBytes_nil, Nat.add_zero] at fits ⊢
    have covered := Word.le_ceiling positive first.size.toNat
    obtain ⟨base_eq, further_eq⟩ := Word.toNat_roundUp_add positive fits
    refine ⟨⟨Word.roundUp next wordBytes, first.size⟩, _, ⟨rfl, ?_, ?_, ?_⟩, ?_, places⟩
    · intro base held
      cases based.symm.trans held
    · intro _
      exact base_eq
    · change (Word.roundUp next wordBytes).toNat + first.size.toNat < UInt64.size
      omega
    · rw [further_eq]
      exact Word.ceiling_add positive (Word.dvd_ceiling _ _) _
  · dsimp only at places
    rcases adds : Word.add? base first.size with _ | limit <;> rw [adds] at places
    · cases places
    · refine ⟨⟨base, first.size⟩, next, ⟨rfl, ?_, ?_, ?_⟩, ?_, places⟩
      · intro held same
        exact Option.some.inj (based.symm.trans same)
      · intro unplaced
        cases based.symm.trans unplaced
      · rw [← Word.add?_isSome_iff, adds]
        rfl
      · rw [packedBytes_cons_some _ based, packedBytes_nil, Nat.add_zero]

/-- A region emulated after some others is emulated after one more in front of them, if the start
moves back by its room. -/
theorem Emulates.cons {start further step : Nat} {first region : MemoryRegion}
    {earlier : List MemoryRegion} {placement : Placement}
    (emulates : Emulates further step earlier region placement)
    (further_eq : further = start + packedBytes step [first]) :
    Emulates start step (first :: earlier) region placement := by
  refine ⟨emulates.size_eq, emulates.placed, ?_, emulates.inside⟩
  intro unplaced
  rw [emulates.unplaced unplaced, further_eq, packedBytes_cons step first earlier, Nat.add_assoc]

/-- Regions that are placed are emulated as far as the arena does not reach the top, those of
other kinds as they were before. -/
theorem place_emulates {wordBytes next : UInt64} {placed result : RegionKind → Option Placement}
    {regions : List MemoryRegion} (positive : 0 < wordBytes.toNat)
    (fits : Word.ceiling next.toNat wordBytes.toNat + packedBytes wordBytes.toNat regions <
      UInt64.size)
    (places : place wordBytes next placed regions = .ok result) :
    (∀ kind, kind ∉ regions.map (·.kind) → result kind = placed kind) ∧
    ∀ earlier region later, regions = earlier ++ region :: later →
      region.kind ∉ later.map (·.kind) →
        ∃ placement, result region.kind = some placement ∧
          Emulates (Word.ceiling next.toNat wordBytes.toNat) wordBytes.toNat earlier region
            placement := by
  induction regions generalizing next placed with
  | nil =>
      cases places
      refine ⟨fun _ _ => rfl, ?_⟩
      intro earlier region later split
      cases earlier <;> cases split
  | cons first rest ih =>
      rw [packedBytes_cons] at fits
      obtain ⟨placement, further, emulates, further_eq, places⟩ :=
        place_cons positive (by omega) places
      obtain ⟨untouched, emulated⟩ := ih (by omega) places
      constructor
      · intro kind absent
        rw [List.map_cons, List.mem_cons, not_or] at absent
        rw [untouched kind absent.2, if_neg absent.1]
      · intro earlier region later split last
        cases earlier with
        | nil =>
            -- no later region of the kind puts another in its place
            cases split
            refine ⟨placement, ?_, emulates⟩
            rw [untouched _ last, if_pos rfl]
        | cons head earlier =>
            cases split
            obtain ⟨held, found, emulates⟩ := emulated earlier region later rfl last
            exact ⟨held, found, emulates.cons further_eq⟩

/-- The arena of a device that the host admits does not reach the top. -/
theorem arena_fits {params : ChannelParams} (total : checkTotal params.regions = .ok ()) :
    params.arenaStart + packedBytes params.alignment.toNat params.regions < UInt64.size := by
  -- at most 2 ^ 26 bytes, each with at most 2 ^ 29 for its alignment
  have size_eq : UInt64.size = 2 ^ 64 := rfl
  have base_eq : arenaBase.toNat = 2 ^ 28 := rfl
  have limit_eq : emulationLimit.toNat = 2 ^ 26 := rfl
  have start_lt := Word.ceiling_lt params.alignment_pos arenaBase.toNat
  have packed_le := packedBytes_le params.alignment_pos params.regions
  have product_le := Nat.mul_le_mul ((checkTotal_ok_iff _).mp total) params.alignment_le
  have step_le := params.alignment_le
  unfold ChannelParams.arenaStart
  omega

/-- Each region of an opened host channel is emulated at its base or after the regions that have
none. -/
theorem openWith_emulates {params : ChannelParams} {files : FileTree} {channel : HostChannel}
    (opened : openWith params files = .ok channel) (distinct : (params.regions.map (·.kind)).Nodup)
    {earlier later : List MemoryRegion} {region : MemoryRegion}
    (split : params.regions = earlier ++ region :: later) :
    ∃ placement, channel.placement? region.kind = some placement ∧
      Emulates params.arenaStart params.alignment.toNat earlier region placement := by
  obtain ⟨_, _, placement?, -, -, total, -, places, rfl⟩ := openWith_ok_iff.mp opened
  refine (place_emulates params.alignment_pos (arena_fits total) places).2 earlier region later
    split ?_
  rw [split, List.map_append, List.map_cons] at distinct
  exact (List.nodup_cons.mp distinct.of_append_right).1

namespace Emulates

variable {start step : Nat} {earlier : List MemoryRegion} {region : MemoryRegion}
  {placement : Placement}

/-- A region with a base is emulated at the very addresses it occupies. -/
theorem occupies_placed (emulates : Emulates start step earlier region placement) {base : UInt64}
    (placed : region.base = some base) (address : UInt64) :
    placement.Occupies address ↔ region.Occupies address := by
  rw [MemoryRegion.occupies_iff placed, Placement.Occupies, emulates.size_eq,
    emulates.placed base placed, UInt64.le_iff_toNat_le]

/-- A region without a base is emulated right after the room of those before it. -/
theorem occupies_unplaced (emulates : Emulates start step earlier region placement)
    (unplaced : region.base = none) (address : UInt64) :
    placement.Occupies address ↔
      start + packedBytes step earlier ≤ address.toNat ∧
        address.toNat < start + packedBytes step earlier + region.size.toNat := by
  rw [Placement.Occupies, emulates.size_eq, ← emulates.unplaced unplaced, UInt64.le_iff_toNat_le]

/-- Of two regions without an address, the later one begins after the end of the earlier one. -/
theorem apart_of_before {middle : List MemoryRegion} {second : MemoryRegion}
    {secondPlacement : Placement} (emulates : Emulates start step earlier region placement)
    (alsoEmulates : Emulates start step (earlier ++ region :: middle) second secondPlacement)
    (positive : 0 < step) (unplaced : region.base = none) (alsoUnplaced : second.base = none) :
    placement.Apart secondPlacement := by
  intro address occupies alsoOccupies
  rw [emulates.occupies_unplaced unplaced] at occupies
  rw [alsoEmulates.occupies_unplaced alsoUnplaced, packedBytes_append,
    packedBytes_cons_none step unplaced] at alsoOccupies
  have covered := Word.le_ceiling positive region.size.toNat
  omega

end Emulates

/-- The regions of a device are emulated, those without an address packed into the arena. -/
def EmulatesAll (params : ChannelParams) (placement : RegionKind → Placement) : Prop :=
  ∀ earlier region later, params.regions = earlier ++ region :: later →
    Emulates params.arenaStart params.alignment.toNat earlier region (placement region.kind)

namespace EmulatesAll

variable {params : ChannelParams} {placement : RegionKind → Placement}

/-- A region of a device that has a base is emulated at the addresses it occupies. -/
theorem occupies_placed (emulates : EmulatesAll params placement) {region : MemoryRegion}
    (member : region ∈ params.regions) {base : UInt64} (placed : region.base = some base)
    (address : UInt64) : (placement region.kind).Occupies address ↔ region.Occupies address := by
  obtain ⟨earlier, later, split⟩ := List.append_of_mem member
  exact (emulates earlier region later split).occupies_placed placed address

/-- Two regions without a base are emulated apart from each other. -/
theorem apart_of_split (emulates : EmulatesAll params placement) {first second : MemoryRegion}
    {earlier middle later : List MemoryRegion}
    (split : params.regions = earlier ++ first :: (middle ++ second :: later))
    (unplaced : first.base = none) (alsoUnplaced : second.base = none) :
    (placement first.kind).Apart (placement second.kind) := by
  have alsoSplit : params.regions = (earlier ++ first :: middle) ++ second :: later := by
    rw [split, List.append_assoc, List.cons_append]
  exact (emulates _ _ _ split).apart_of_before (emulates _ _ _ alsoSplit) params.alignment_pos
    unplaced alsoUnplaced

/-- Two regions that both have an address, or both have none, do not meet. -/
theorem apart_of_alike (emulates : EmulatesAll params placement)
    (apart : params.regions.Pairwise MemoryRegion.Apart) {first second : MemoryRegion}
    (member : first ∈ params.regions) (alsoMember : second ∈ params.regions)
    (different : first ≠ second) (alike : first.base = none ↔ second.base = none) :
    (placement first.kind).Apart (placement second.kind) := by
  rcases based : first.base with _ | base
  · have unplaced := alike.mp based
    obtain ⟨earlier, middle, later, split⟩ := exists_split_of_mem member alsoMember different
    rcases split with split | split
    · exact emulates.apart_of_split split based unplaced
    · exact (emulates.apart_of_split split unplaced based).symm
  · rcases alsoBased : second.base with _ | secondBase
    · cases based.symm.trans (alike.mpr alsoBased)
    · intro address occupies alsoOccupies
      rw [emulates.occupies_placed member based] at occupies
      rw [emulates.occupies_placed alsoMember alsoBased] at alsoOccupies
      have disjoint := apart.forall member alsoMember different
      exact disjoint address occupies alsoOccupies

/-- Where the regions with a base are clear of the arena, they are apart from those without one. -/
theorem apart_of_clear (emulates : EmulatesAll params placement) (clear : params.ClearOfArena)
    {placed unplaced : MemoryRegion} (member : placed ∈ params.regions)
    (alsoMember : unplaced ∈ params.regions) {base : UInt64} (based : placed.base = some base)
    (unbased : unplaced.base = none) :
    (placement placed.kind).Apart (placement unplaced.kind) := by
  intro address occupies alsoOccupies
  obtain ⟨earlier, later, split⟩ := List.append_of_mem alsoMember
  rw [emulates.occupies_placed member based] at occupies
  rw [(emulates earlier unplaced later split).occupies_unplaced unbased] at alsoOccupies
  have outside := clear earlier unplaced later split unbased placed member address occupies
  omega

/-- Where all regions are emulated apart from one another, those with a base are clear of the
arena. -/
theorem clear_of_apart (emulates : EmulatesAll params placement)
    (distinct : (params.regions.map (·.kind)).Nodup)
    (apart : ∀ first second, first ≠ second → (placement first).Apart (placement second)) :
    params.ClearOfArena := by
  intro earlier unplaced later split unbased placed member address occupies
  obtain ⟨base, based, -⟩ := id occupies
  have different : placed.kind ≠ unplaced.kind := by
    intro same
    have alsoMember : unplaced ∈ params.regions := by
      rw [split]
      exact List.mem_append_right _ List.mem_cons_self
    have equal := List.inj_on_of_nodup_map distinct member alsoMember same
    rw [equal, unbased] at based
    cases based
  have missed := apart _ _ different address
    ((emulates.occupies_placed member based address).mpr occupies)
  rw [(emulates earlier unplaced later split).occupies_unplaced unbased] at missed
  omega

/-- Among regions of all kinds the only ones that can meet are one with an address and one
without. -/
theorem apart_iff_clear (emulates : EmulatesAll params placement)
    (kinds : (params.regions.map (·.kind)).Perm RegionKind.all)
    (apart : params.regions.Pairwise MemoryRegion.Apart) :
    (∀ first second, first ≠ second → (placement first).Apart (placement second)) ↔
      params.ClearOfArena := by
  constructor
  · exact emulates.clear_of_apart (kinds.nodup_iff.mpr RegionKind.nodup_all)
  · intro clear firstKind secondKind different
    obtain ⟨first, member, rfl⟩ := params.exists_region kinds firstKind
    obtain ⟨second, alsoMember, rfl⟩ := params.exists_region kinds secondKind
    have distinct : first ≠ second := by
      rintro rfl
      exact different rfl
    rcases based : first.base with _ | base <;> rcases alsoBased : second.base with _ | other
    · exact emulates.apart_of_alike apart member alsoMember distinct (by rw [based, alsoBased])
    · exact (emulates.apart_of_clear clear alsoMember member alsoBased based).symm
    · exact emulates.apart_of_clear clear member alsoMember based alsoBased
    · exact emulates.apart_of_alike apart member alsoMember distinct
        (by simp [based, alsoBased])

end EmulatesAll

/-- An opened host channel emulates all regions of its device. -/
theorem openWith_emulatesAll {params : ChannelParams} {files : FileTree} {channel : HostChannel}
    (opened : openWith params files = .ok channel)
    (kinds : (params.regions.map (·.kind)).Perm RegionKind.all) :
    ∃ placement : RegionKind → Placement,
      (∀ kind, channel.placement? kind = some (placement kind)) ∧ EmulatesAll params placement := by
  have distinct : (params.regions.map (·.kind)).Nodup := kinds.nodup_iff.mpr RegionKind.nodup_all
  have placed : ∀ kind, ∃ placement, channel.placement? kind = some placement := by
    intro kind
    obtain ⟨region, member, rfl⟩ := params.exists_region kinds kind
    obtain ⟨earlier, later, split⟩ := List.append_of_mem member
    obtain ⟨placement, found, -⟩ := openWith_emulates opened distinct split
    exact ⟨placement, found⟩
  choose placement found using placed
  refine ⟨placement, found, ?_⟩
  intro earlier region later split
  obtain ⟨held, alsoFound, emulates⟩ := openWith_emulates opened distinct split
  rwa [Option.some.inj ((found region.kind).symm.trans alsoFound)]

/-- Where the regions with an address do not meet, the emulated regions of all kinds do not meet
just if none of those with an address reaches into those without. These are packed into the arena
wherever the others are. -/
theorem emulated_apart_iff {params : ChannelParams} {files : FileTree} {channel : HostChannel}
    (kinds : (params.regions.map (·.kind)).Perm RegionKind.all)
    (apart : params.regions.Pairwise MemoryRegion.Apart)
    (opened : openWith params files = .ok channel) :
    ∃ placement : RegionKind → Placement,
      (∀ kind, channel.placement? kind = some (placement kind)) ∧ EmulatesAll params placement ∧
      (∀ first ∈ params.regions, ∀ second ∈ params.regions, first.kind ≠ second.kind →
        (first.base = none ↔ second.base = none) →
          (placement first.kind).Apart (placement second.kind)) ∧
      ((∀ first second, first ≠ second → (placement first).Apart (placement second)) ↔
        params.ClearOfArena) := by
  obtain ⟨placement, found, emulates⟩ := openWith_emulatesAll opened kinds
  refine ⟨placement, found, emulates, ?_, emulates.apart_iff_clear kinds apart⟩
  intro first member second alsoMember different alike
  refine emulates.apart_of_alike apart member alsoMember ?_ alike
  rintro rfl
  exact different rfl

/-- A stack outside the arena is not met by the regions that are packed there. -/
theorem emulated_apart_with_stack_beyond :
    let params := Simulation.imageParams fun kind => if kind = .stack then some 0x20000000 else none
    let files := Simulation.filesWith (Simulation.codeImage [])
    (params.regions.map (·.kind)).Perm RegionKind.all ∧
      params.regions.Pairwise MemoryRegion.Apart ∧
      ∃ channel, openWith params files = .ok channel ∧ ∃ placement : RegionKind → Placement,
        (∀ kind, channel.placement? kind = some (placement kind)) ∧
        ∀ first second, first ≠ second → (placement first).Apart (placement second) := by
  intro params files
  have kinds : (params.regions.map (·.kind)).Perm RegionKind.all := List.Perm.refl _
  have apart := Simulation.pairwise_apart_stack 0x20000000
  have opens : (openWith params files).isOk = true := by decide +kernel
  obtain ⟨channel, opened⟩ := isOk_iff.mp opens
  obtain ⟨placement, found, -, -, iff_clear⟩ := emulated_apart_iff kinds apart opened
  refine ⟨kinds, apart, channel, opened, placement, found, iff_clear.mpr ?_⟩
  apply ChannelParams.clearOfArena_of_outside
  rintro region member address ⟨base, based, from_base, -⟩
  obtain ⟨kind, -, rfl⟩ := List.mem_map.mp member
  dsimp only at based
  split at based
  · cases based
    have arena_le : params.arenaStart + packedBytes params.alignment.toNat params.regions ≤
        (0x20000000 : UInt64).toNat := by decide +kernel
    exact .inr (arena_le.trans (UInt64.le_iff_toNat_le.mp from_base))
  · cases based

/-- A stack with its address at the beginning of the arena is emulated over the text. -/
theorem text_emulated_over_stack :
    let params := Simulation.imageParams fun kind => if kind = .stack then some arenaBase else none
    let files := Simulation.filesWith (Simulation.codeImage [])
    (params.regions.map (·.kind)).Perm RegionKind.all ∧
      params.regions.Pairwise MemoryRegion.Apart ∧
      ∃ channel text stack, openWith params files = .ok channel ∧
        channel.placement? .text = some text ∧ channel.placement? .stack = some stack ∧
        text.Occupies arenaBase ∧ stack.Occupies arenaBase := by
  intro params files
  have opens : (openWith params files).isOk = true := by decide +kernel
  obtain ⟨channel, opened⟩ := isOk_iff.mp opens
  have text : (openWith params files).toOption.bind (·.placement? .text) =
      some ⟨arenaBase, 4096⟩ := by decide +kernel
  have stack : (openWith params files).toOption.bind (·.placement? .stack) =
      some ⟨arenaBase, 4096⟩ := by decide +kernel
  have meets : Placement.Occupies ⟨arenaBase, 4096⟩ arenaBase := ⟨UInt64.le_refl _, by decide⟩
  rw [opened] at text stack
  exact ⟨List.Perm.refl _, Simulation.pairwise_apart_stack arenaBase, channel, _, _, opened, text,
    stack, meets, meets⟩

end HostChannel

end MicroDevice
