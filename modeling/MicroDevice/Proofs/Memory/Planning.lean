import Mathlib.Algebra.BigOperators.Ring.List
import MicroDevice.Memory.Plan
import MicroDevice.Proofs.Memory.Overlap

/-! # Planned layouts

A plan that succeeds stacks its sections: each begins where the one before ends, with the size
that its demand comes to in whole words, and none ends past the top (`MemoryLayout.Stacks`). What
weights come to does not matter for that. Of sections of one kind the last stays in the layout,
so the regions of a plan are apart whether kinds are repeated or not
(`MemoryLayout.plan_stacks`).
-/

namespace MicroDevice

/-- The bytes that sections take up when each has the size of its demand. -/
def stackedBytes (size : SectionDemand → UInt64) (sections : List Section) : Nat :=
  (sections.map fun entry => (size entry.demand).toNat).sum

@[simp] theorem stackedBytes_nil (size : SectionDemand → UInt64) : stackedBytes size [] = 0 := rfl

@[simp] theorem stackedBytes_cons (size : SectionDemand → UInt64) (entry : Section)
    (later : List Section) :
    stackedBytes size (entry :: later) = (size entry.demand).toNat + stackedBytes size later :=
  rfl

theorem stackedBytes_append (size : SectionDemand → UInt64) (earlier later : List Section) :
    stackedBytes size (earlier ++ later) =
      stackedBytes size earlier + stackedBytes size later := by
  simp [stackedBytes]

namespace MemoryLayout

/-! ## Placement -/

/-- Sections of given sizes put into a layout one after another, the first at `next`. -/
def stackFrom (size : SectionDemand → UInt64) :
    (next : UInt64) → (placed : MemoryLayout) → List Section → MemoryLayout
  | _, placed, [] => placed
  | next, placed, entry :: later =>
      stackFrom size (next + size entry.demand)
        (placed.insert entry.kind (some next) (size entry.demand)) later

/-- Placing succeeds exactly when every section keeps a word after rounding and the stack of them
ends within the address space; the layout is then the sections stacked one after the other. -/
theorem placeFrom_eq_ok_iff {wordSize : UInt64} {raw : SectionDemand → UInt64}
    {sections : List Section} {next : UInt64} {placed layout : MemoryLayout} :
    placeFrom wordSize raw next placed sections = .ok layout ↔
      (∀ entry ∈ sections, Word.roundDown (raw entry.demand) wordSize ≠ 0) ∧
        next.toNat + stackedBytes (fun demand => Word.roundDown (raw demand) wordSize) sections <
          UInt64.size ∧
        stackFrom (fun demand => Word.roundDown (raw demand) wordSize) next placed sections =
          layout := by
  induction sections generalizing next placed with
  | nil =>
      rw [placeFrom, stackFrom, stackedBytes_nil, Except.ok.injEq]
      exact ⟨fun same => ⟨by simp, next.toNat_lt, same⟩, fun fits => fits.2.2⟩
  | cons entry later ih =>
      rw [placeFrom, stackFrom, List.forall_mem_cons, stackedBytes_cons]
      split
      · rename_i empty
        exact iff_of_false (fun impossible => nomatch impossible) fun fits => fits.1.1 empty
      · rename_i filled
        rcases adds : Word.add? next (Word.roundDown (raw entry.demand) wordSize) with
          _ | following
        · have overflows := Word.add?_isSome_iff.not.mp (by rw [adds]; exact Bool.noConfusion)
          refine iff_of_false (fun impossible => nomatch impossible) fun fits => ?_
          omega
        · have following_eq := Word.add?_eq_some_iff.mp adds
          dsimp only
          rw [ih, following_eq, Nat.add_assoc, Word.eq_add_of_add? adds]
          exact ⟨fun fits => ⟨⟨filled, fits.1⟩, fits.2⟩, fun fits => ⟨fits.1.2, fits.2⟩⟩

/-- Stacked sections leave in a layout the last section of each kind, and of other kinds what was
there before. -/
theorem extent?_stackFrom {size : SectionDemand → UInt64} {sections : List Section}
    {next : UInt64} (below : next.toNat + stackedBytes size sections < UInt64.size)
    (placed : MemoryLayout) (kind : RegionKind) (extent : Extent) :
    (stackFrom size next placed sections).extent? kind = some extent ↔
      (∃ earlier entry later address, sections = earlier ++ entry :: later ∧
        (∀ other ∈ later, other.kind ≠ kind) ∧ entry.kind = kind ∧
        address.toNat = next.toNat + stackedBytes size earlier ∧
        extent = ⟨some address, size entry.demand⟩) ∨
      (∀ entry ∈ sections, entry.kind ≠ kind) ∧ placed.extent? kind = some extent := by
  induction sections generalizing next placed with
  | nil => simp [stackFrom]
  | cons entry later ih =>
      rw [stackedBytes_cons] at below
      have following : (next + size entry.demand).toNat =
          next.toNat + (size entry.demand).toNat := by
        rw [UInt64.toNat_add, Nat.mod_eq_of_lt]
        exact Nat.lt_of_le_of_lt (by omega) below
      rw [stackFrom, ih (by rw [following]; omega), following]
      constructor
      · rintro (⟨earlier, found, last, address, rfl, isLast, named, located, same⟩ | ⟨other, held⟩)
        · refine .inl ⟨entry :: earlier, found, last, address, rfl, isLast, named, ?_, same⟩
          rw [located, stackedBytes_cons, Nat.add_assoc]
        · by_cases named : entry.kind = kind
          · refine .inl ⟨[], entry, later, next, rfl, other, named, rfl, ?_⟩
            simpa [insert, named, eq_comm] using held
          · refine .inr ⟨List.forall_mem_cons.mpr ⟨named, other⟩, ?_⟩
            simpa [insert, Ne.symm named] using held
      · rintro (⟨earlier, found, last, address, split, isLast, named, located, same⟩ | ⟨other, held⟩)
        · rcases List.cons_eq_append_iff.mp split with ⟨rfl, begins⟩ | ⟨before, rfl, rfl⟩
          · cases begins
            have isNext : address = next := UInt64.toNat_inj.mp located
            exact .inr ⟨isLast, by simp [insert, named, same, isNext]⟩
          · rw [stackedBytes_cons, ← Nat.add_assoc] at located
            exact .inl ⟨before, found, last, address, rfl, isLast, named, located, same⟩
        · obtain ⟨differs, other⟩ := List.forall_mem_cons.mp other
          exact .inr ⟨other, by simpa [insert, Ne.symm differs] using held⟩

/-! ## Stacked sections -/

/-- A layout that holds sections one after another from `base` on, each with the size of its
demand. -/
structure Stacks (layout : MemoryLayout) (base wordSize : UInt64)
    (size : SectionDemand → UInt64) (sections : List Section) : Prop where
  filled : ∀ entry ∈ sections, 0 < size entry.demand
  whole : ∀ entry ∈ sections, wordSize.toNat ∣ (size entry.demand).toNat
  size_bytes : ∀ count, size (.bytes count) = count - count % wordSize
  below_top : base.toNat + stackedBytes size sections < UInt64.size
  mem_regions_iff : ∀ region, region ∈ layout.regions ↔
    ∃ earlier entry later address, sections = earlier ++ entry :: later ∧
      (∀ other ∈ later, other.kind ≠ entry.kind) ∧
      address.toNat = base.toNat + stackedBytes size earlier ∧
      region = ⟨entry.kind, some address, size entry.demand⟩

/-- Regions of the given kinds are there, the first at `next` and each of the others where the
one before it ends. -/
def FollowOn (layout : MemoryLayout) : (next : Nat) → List RegionKind → Prop
  | _, [] => True
  | next, kind :: later =>
      ∃ address size, layout.region? kind = some ⟨kind, some address, size⟩ ∧
        address.toNat = next ∧ layout.FollowOn (next + size.toNat) later

/-- Placing sections leaves them stacked, whatever their demands come to. -/
theorem stacks_of_placeFrom {base wordSize : UInt64} {raw : SectionDemand → UInt64}
    {sections : List Section} {layout : MemoryLayout}
    (raw_bytes : ∀ count, raw (.bytes count) = count)
    (places : placeFrom wordSize raw base empty sections = .ok layout) :
    layout.Stacks base wordSize (fun demand => Word.roundDown (raw demand) wordSize)
      sections := by
  obtain ⟨filled, below, rfl⟩ := placeFrom_eq_ok_iff.mp places
  refine ⟨?_, ?_, ?_, below, ?_⟩
  · intro entry member
    exact UInt64.pos_iff_ne_zero.mpr (filled entry member)
  · intro entry _
    rw [Word.toNat_roundDown]
    exact Nat.dvd_mul_left _ _
  · intro count
    rw [raw_bytes, Word.roundDown]
  · rintro ⟨kind, start, size⟩
    rw [mem_regions, extent?_stackFrom below]
    constructor
    · rintro (⟨earlier, entry, later, address, split, isLast, rfl, located, same⟩ | ⟨-, absent⟩)
      · cases same
        exact ⟨earlier, entry, later, address, split, isLast, located, rfl⟩
      · cases absent
    · rintro ⟨earlier, entry, later, address, split, isLast, located, same⟩
      cases same
      exact .inl ⟨earlier, entry, later, address, split, isLast, rfl, located, rfl⟩

/-- Of two sections of a stack, one ends before the other begins. -/
theorem apart_of_splits (size : SectionDemand → UInt64)
    {earlier before later after : List Section} {first second : Section}
    (same : earlier ++ first :: later = before ++ second :: after)
    (differs : first.kind ≠ second.kind) :
    stackedBytes size earlier + (size first.demand).toNat ≤ stackedBytes size before ∨
      stackedBytes size before + (size second.demand).toNat ≤ stackedBytes size earlier := by
  rcases List.append_eq_append_iff.mp same with ⟨middle, rfl, begins⟩ | ⟨middle, rfl, begins⟩
  · rcases List.cons_eq_append_iff.mp begins with ⟨-, same⟩ | ⟨rest, rfl, -⟩
    · cases same
      exact absurd rfl differs
    · left
      rw [stackedBytes_append, stackedBytes_cons]
      omega
  · rcases List.cons_eq_append_iff.mp begins with ⟨-, same⟩ | ⟨rest, rfl, -⟩
    · cases same
      exact absurd rfl differs
    · right
      rw [stackedBytes_append, stackedBytes_cons]
      omega

/-- Sizes that are all whole words stack to whole words. -/
theorem dvd_stackedBytes {size : SectionDemand → UInt64} {sections : List Section} {step : Nat}
    (whole : ∀ entry ∈ sections, step ∣ (size entry.demand).toNat) :
    step ∣ stackedBytes size sections := by
  apply List.dvd_sum
  intro bytes member
  obtain ⟨entry, isSection, rfl⟩ := List.mem_map.mp member
  exact whole entry isSection

namespace Stacks

variable {layout : MemoryLayout} {base wordSize : UInt64} {size : SectionDemand → UInt64}
  {sections : List Section}

/-- Every region stacked from an aligned base has an aligned base of its own. -/
theorem aligned (stacked : layout.Stacks base wordSize size sections)
    (aligned : wordSize.toNat ∣ base.toNat) {region : MemoryRegion}
    (member : region ∈ layout.regions) :
    ∃ address, region.base = some address ∧ wordSize.toNat ∣ address.toNat := by
  obtain ⟨earlier, entry, later, address, rfl, -, located, rfl⟩ :=
    (stacked.mem_regions_iff region).mp member
  refine ⟨address, rfl, ?_⟩
  rw [located]
  apply Nat.dvd_add aligned
  apply dvd_stackedBytes
  intro other isEarlier
  exact stacked.whole other (List.mem_append_left _ isEarlier)

/-- Every region ends before the end of the stack. -/
theorem ends_within (stacked : layout.Stacks base wordSize size sections) {region : MemoryRegion}
    (member : region ∈ layout.regions) :
    ∃ address, region.base = some address ∧
      address.toNat + region.size.toNat ≤ base.toNat + stackedBytes size sections := by
  obtain ⟨earlier, entry, later, address, rfl, -, located, rfl⟩ :=
    (stacked.mem_regions_iff region).mp member
  refine ⟨address, rfl, ?_⟩
  dsimp only
  rw [located, stackedBytes_append, stackedBytes_cons]
  omega

/-- Stacked regions report no overlap. -/
theorem overlappingPairs_eq_nil (stacked : layout.Stacks base wordSize size sections) :
    layout.overlappingPairs = [] := by
  apply List.eq_nil_iff_forall_not_mem.mpr
  rintro ⟨first, second⟩ member
  obtain ⟨member, alsoMember, before, overlap⟩ :=
    (mem_overlapsAmong layout.pairwise_regions).mp member
  obtain ⟨earlier, entry, _, address, split, -, located, rfl⟩ :=
    (stacked.mem_regions_iff first).mp member
  obtain ⟨alsoEarlier, other, _, otherAddress, alsoSplit, -, alsoLocated, rfl⟩ :=
    (stacked.mem_regions_iff second).mp alsoMember
  have differs : entry.kind ≠ other.kind := fun same => by simp [same] at before
  rw [MemoryRegion.overlaps_of_bases rfl rfl] at overlap
  dsimp only at overlap
  have apart := apart_of_splits size (split.symm.trans alsoSplit) differs
  omega

/-- Sections of distinct kinds lie one after the other from the base, in their order. -/
theorem followOn (stacked : layout.Stacks base wordSize size sections)
    (distinct : (sections.map (·.kind)).Nodup) :
    layout.FollowOn base.toNat (sections.map (·.kind)) := by
  -- the sections still to come begin where those before end
  have ahead : ∀ rest earlier, sections = earlier ++ rest →
      layout.FollowOn (base.toNat + stackedBytes size earlier) (rest.map (·.kind)) := by
    intro rest
    induction rest with
    | nil =>
        intro _ _
        trivial
    | cons entry later ih =>
        intro earlier split
        have isLast : ∀ other ∈ later, other.kind ≠ entry.kind := by
          rw [split, List.map_append, List.map_cons] at distinct
          have fresh := (List.nodup_cons.mp distinct.of_append_right).1
          intro other member same
          exact fresh (List.mem_map.mpr ⟨other, member, same⟩)
        have below := stacked.below_top
        rw [split, stackedBytes_append] at below
        have located : (UInt64.ofNat (base.toNat + stackedBytes size earlier)).toNat =
            base.toNat + stackedBytes size earlier := by
          apply UInt64.toNat_ofNat_of_lt'
          omega
        have held := mem_regions.mp ((stacked.mem_regions_iff _).mpr
          ⟨earlier, entry, later, _, split, isLast, located, rfl⟩)
        refine ⟨_, _, by rw [region?, held]; rfl, located, ?_⟩
        have follows := ih (earlier ++ [entry]) (by rw [split, List.append_assoc]; rfl)
        rwa [stackedBytes_append, stackedBytes_cons, stackedBytes_nil, Nat.add_zero,
          ← Nat.add_assoc] at follows
  exact ahead sections [] rfl

end Stacks

/-! ## Plans -/

/-- What a plan that succeeds has checked: the base is whole words, and the fixed sizes add up to
a word that is within the memory given. -/
theorem plan_eq_ok {base available wordSize : UInt64} {sections : List Section}
    {layout : MemoryLayout} (planned : plan base available wordSize sections = .ok layout) :
    wordSize.toNat ∣ base.toNat ∧ ∃ fixed, Word.sum? (fixedSizes sections) = some fixed ∧
      fixed ≤ available ∧
      placeFrom wordSize (rawSize ((weights sections).foldl (· + ·) 0.0) (available - fixed)) base
        empty sections = .ok layout := by
  unfold plan at planned
  split at planned
  · cases planned
  split at planned
  · cases planned
  rename_i aligned
  split at planned
  · cases planned
  rename_i fixed sums
  split at planned
  · cases planned
  rename_i fits
  refine ⟨?_, fixed, sums, UInt64.not_lt.mp fits, planned⟩
  apply Nat.dvd_of_mod_eq_zero
  rw [← UInt64.toNat_mod, not_not.mp aligned, UInt64.toNat_zero]

/-- A plan that succeeds stacks its sections from the base on, whatever the weights are. Its
regions begin at whole words and are apart, and if no kind is repeated they follow on one another
in the order of the sections. -/
theorem plan_stacks {base available wordSize : UInt64} {sections : List Section}
    {layout : MemoryLayout} (planned : plan base available wordSize sections = .ok layout) :
    (∃ size, layout.Stacks base wordSize size sections) ∧
      (∀ region ∈ layout.regions, ∃ address, region.base = some address ∧
        wordSize.toNat ∣ address.toNat) ∧
      layout.overlappingPairs = [] ∧
      ((sections.map (·.kind)).Nodup →
        layout.FollowOn base.toNat (sections.map (·.kind))) := by
  obtain ⟨aligned, fixed, -, -, places⟩ := plan_eq_ok planned
  have stacked := stacks_of_placeFrom (fun _ => rfl) places
  exact ⟨⟨_, stacked⟩, fun _ member => stacked.aligned aligned member,
    stacked.overlappingPairs_eq_nil, stacked.followOn⟩

/-- Four sections share 5000 bytes, two of them by weight. The heap that is placed last stays. -/
theorem plan_stacks_repeated_heap :
    let sections : List Section := [⟨.text, .bytes 1002⟩, ⟨.heap, .weight 3⟩, ⟨.stack, .weight 1⟩,
      ⟨.heap, .bytes 8⟩]
    let layout := (((empty.insert .text (some 0x20000000) 1000).insert .heap (some 0x200003E8)
      2992).insert .stack (some 0x20000F98) 996).insert .heap (some 0x2000137C) 8
    plan 0x20000000 5000 4 sections = .ok layout ∧
      (∃ size, layout.Stacks 0x20000000 4 size sections) ∧
      layout.overlappingPairs = [] := by
  intro sections layout
  have planned : plan 0x20000000 5000 4 sections = .ok layout := by decide +kernel
  obtain ⟨stacked, -, apart, -⟩ := plan_stacks planned
  exact ⟨planned, stacked, apart⟩

end MemoryLayout

end MicroDevice
