import MicroDevice.Proofs.Memory.Planning

/-! # Plans of fixed sizes

Where no section asks for a share, one arithmetic condition says whether a plan succeeds: the base
is whole words, the memory given holds what is asked for, each section holds a word, and the words
of all of them end at the top or before (`MemoryLayout.plan_fixed_iff`). A plan that fails says why
(`MemoryLayout.Refused`). When its sections are placed, the first of them at fault is named.
-/

namespace MicroDevice

/-- A kind of region and the number of bytes asked for it. -/
abbrev FixedSize := RegionKind × UInt64

namespace MemoryLayout

/-- The sections that ask for the given sizes. -/
def fixedSections (sizes : List FixedSize) : List Section :=
  sizes.map fun fixed => ⟨fixed.1, .bytes fixed.2⟩

/-- The bytes that are asked for. -/
def askedBytes (sizes : List FixedSize) : Nat :=
  (sizes.map fun fixed => fixed.2.toNat).sum

/-- The bytes of the whole words in each of the sizes. -/
def wholeBytes (wordSize : UInt64) (sizes : List FixedSize) : Nat :=
  (sizes.map fun fixed => fixed.2.toNat / wordSize.toNat * wordSize.toNat).sum

/-- The base is whole words, which have a size. -/
structure WholeBase (base wordSize : UInt64) : Prop where
  sized : wordSize ≠ 0
  aligned : wordSize.toNat ∣ base.toNat

/-- A section that comes after others is at fault: it does not hold a word, or it ends past the
top. -/
def FaultyAfter (base wordSize : UInt64) (earlier : List FixedSize) (fixed : FixedSize) : Prop :=
  fixed.2 < wordSize ∨ UInt64.size ≤ base.toNat + wholeBytes wordSize (earlier ++ [fixed])

/-- None of the sections is at fault. -/
def NoneFaulty (base wordSize : UInt64) (sizes : List FixedSize) : Prop :=
  ∀ earlier fixed later, sizes = earlier ++ fixed :: later →
    ¬ FaultyAfter base wordSize earlier fixed

/-- Why sections of fixed sizes cannot be placed. What is said of the memory as a whole comes
before what is said of a section, and of the sections at fault the first is named. -/
inductive Refused (base available wordSize : UInt64) (sizes : List FixedSize) :
    PlacementError → Prop
  | zeroWordSize (zero : wordSize = 0) : Refused base available wordSize sizes .zeroWordSize
  | misalignedBase (sized : wordSize ≠ 0) (misaligned : ¬ wordSize.toNat ∣ base.toNat) :
      Refused base available wordSize sizes (.misalignedBase base wordSize)
  | fixedSizesOverflow (whole : WholeBase base wordSize)
      (overflows : UInt64.size ≤ askedBytes sizes) :
      Refused base available wordSize sizes .fixedSizesOverflow
  | overcommitted {needed : UInt64} (whole : WholeBase base wordSize)
      (needs : needed.toNat = askedBytes sizes) (exceeds : available < needed) :
      Refused base available wordSize sizes (.overcommitted needed available)
  | faultySection {earlier later : List FixedSize} {kind : RegionKind} {count : UInt64}
      (whole : WholeBase base wordSize) (fits : askedBytes sizes ≤ available.toNat)
      (split : sizes = earlier ++ (kind, count) :: later)
      (faulty : FaultyAfter base wordSize earlier (kind, count))
      (first : NoneFaulty base wordSize earlier) :
      Refused base available wordSize sizes
        (if count < wordSize then .emptySection kind else .pastTop kind)

/-! ## Placement that fails -/

/-- A property of a split of a list holds where the first element splits it off, or further on. -/
theorem exists_split_cons_iff {Element : Type} {first : Element} {later : List Element}
    {holds : List Element → Element → Prop} :
    (∃ earlier found rest, first :: later = earlier ++ found :: rest ∧ holds earlier found) ↔
      holds [] first ∨ ∃ earlier found rest,
        later = earlier ++ found :: rest ∧ holds (first :: earlier) found := by
  constructor
  · rintro ⟨earlier, found, rest, split, held⟩
    rcases List.cons_eq_append_iff.mp split with ⟨rfl, begins⟩ | ⟨before, rfl, rfl⟩
    · cases begins
      exact .inl held
    · exact .inr ⟨before, found, rest, rfl, held⟩
  · rintro (held | ⟨earlier, found, rest, rfl, held⟩)
    · exact ⟨[], first, later, rfl, held⟩
    · exact ⟨first :: earlier, found, rest, rfl, held⟩

/-- Placing sections fails at the first that is empty or ends past the top, and names it. -/
theorem placeFrom_eq_error_iff {wordSize : UInt64} {raw : SectionDemand → UInt64}
    {sections : List Section} {next : UInt64} {placed : MemoryLayout} {error : PlacementError} :
    placeFrom wordSize raw next placed sections = .error error ↔
      ∃ earlier entry later, sections = earlier ++ entry :: later ∧
        (∀ other ∈ earlier, Word.roundDown (raw other.demand) wordSize ≠ 0) ∧
        next.toNat + stackedBytes (fun demand => Word.roundDown (raw demand) wordSize) earlier <
          UInt64.size ∧
        (Word.roundDown (raw entry.demand) wordSize = 0 ∧ error = .emptySection entry.kind ∨
          Word.roundDown (raw entry.demand) wordSize ≠ 0 ∧
            UInt64.size ≤ next.toNat + stackedBytes
              (fun demand => Word.roundDown (raw demand) wordSize) (earlier ++ [entry]) ∧
            error = .pastTop entry.kind) := by
  induction sections generalizing next placed with
  | nil =>
      refine iff_of_false (fun impossible => nomatch impossible) ?_
      rintro ⟨earlier, entry, later, split, -⟩
      exact absurd split.symm (List.append_ne_nil_of_right_ne_nil _ (List.cons_ne_nil _ _))
  | cons entry later ih =>
      rw [placeFrom, exists_split_cons_iff]
      simp only [List.nil_append, stackedBytes_cons, stackedBytes_nil, List.cons_append,
        List.forall_mem_cons, List.not_mem_nil, false_implies, implies_true, true_and,
        Nat.add_zero, next.toNat_lt]
      split
      · rename_i empty
        simp [empty, eq_comm]
      · rename_i filled
        rcases adds : Word.add? next (Word.roundDown (raw entry.demand) wordSize) with
          _ | following
        · have overflows := Word.add?_isSome_iff.not.mp (by rw [adds]; exact Bool.noConfusion)
          have notFurther {taken : Nat} : ¬ next.toNat +
              ((Word.roundDown (raw entry.demand) wordSize).toNat + taken) < UInt64.size := by
            omega
          simp [filled, notFurther, Nat.not_lt.mp overflows, eq_comm]
        · have following_eq := Word.add?_eq_some_iff.mp adds
          have within : ¬ UInt64.size ≤
              next.toNat + (Word.roundDown (raw entry.demand) wordSize).toNat := by
            rw [← following_eq]
            exact Nat.not_le.mpr following.toNat_lt
          dsimp only
          rw [ih, following_eq]
          simp [filled, within, Nat.add_assoc]

/-! ## Fixed sizes -/

section FixedSizes

variable {base wordSize rest : UInt64} {total : Float} {sizes earlier : List FixedSize}
  {fixed : FixedSize}

@[simp] theorem wholeBytes_nil (wordSize : UInt64) : wholeBytes wordSize [] = 0 := rfl

theorem wholeBytes_append (wordSize : UInt64) (earlier later : List FixedSize) :
    wholeBytes wordSize (earlier ++ later) =
      wholeBytes wordSize earlier + wholeBytes wordSize later := by
  simp [wholeBytes]

/-- Sections made of sizes alone ask for exactly those sizes, in their order. -/
theorem fixedSizes_fixedSections (sizes : List FixedSize) :
    fixedSizes (fixedSections sizes) = sizes.map Prod.snd := by
  rw [fixedSizes, fixedSections, List.filterMap_map, ← List.filterMap_eq_map]
  rfl

/-- Sections made of sizes alone carry no weight. -/
theorem weights_fixedSections (sizes : List FixedSize) : weights (fixedSections sizes) = [] := by
  rw [weights, fixedSections, List.filterMap_map]
  exact List.filterMap_eq_nil_iff.mpr fun _ _ => rfl

/-- Whatever is left for weights, stacking fixed sections takes their sizes rounded down to whole
words. -/
theorem stackedBytes_fixedSections (total : Float) (rest : UInt64) (sizes : List FixedSize) :
    stackedBytes (fun demand => Word.roundDown (rawSize total rest demand) wordSize)
      (fixedSections sizes) = wholeBytes wordSize sizes := by
  simp [stackedBytes, fixedSections, wholeBytes, Function.comp_def, rawSize, Word.toNat_roundDown]

/-- A size in whole words is nothing just if it does not hold a word. -/
theorem roundDown_eq_zero_iff (sized : wordSize ≠ 0) (count : UInt64) :
    Word.roundDown count wordSize = 0 ↔ count < wordSize := by
  have positive : 0 < wordSize.toNat := UInt64.pos_iff_ne_zero.mpr sized
  rw [← UInt64.toNat_inj, Word.toNat_roundDown, UInt64.toNat_zero, Nat.mul_eq_zero,
    Nat.div_eq_zero_iff, UInt64.lt_iff_toNat_lt]
  omega

/-- Sections of which none is at fault hold a word each and end at the top or before. -/
theorem noneFaulty_iff :
    NoneFaulty base wordSize sizes ↔
      (∀ fixed ∈ sizes, wordSize ≤ fixed.2) ∧
        base.toNat + wholeBytes wordSize sizes < UInt64.size := by
  constructor
  · intro none
    constructor
    · intro fixed member
      obtain ⟨earlier, later, split⟩ := List.append_of_mem member
      exact UInt64.not_lt.mp fun small => none earlier fixed later split (.inl small)
    · rcases List.eq_nil_or_concat sizes with rfl | ⟨earlier, last, rfl⟩
      · exact base.toNat_lt
      · rw [List.concat_eq_append] at none ⊢
        exact Nat.not_le.mp fun past => none earlier last [] rfl (.inr past)
  · rintro ⟨filled, below⟩ earlier fixed later rfl (small | past)
    · exact absurd (filled fixed (by simp)) (UInt64.not_le.mpr small)
    · rw [List.append_cons, wholeBytes_append] at below
      omega

/-- Sections of which none is at fault are filled and end below the top. -/
theorem filled_fixedSections_iff (total : Float) (rest : UInt64) (sized : wordSize ≠ 0) :
    ((∀ entry ∈ fixedSections sizes,
        Word.roundDown (rawSize total rest entry.demand) wordSize ≠ 0) ∧
      base.toNat + stackedBytes (fun demand => Word.roundDown (rawSize total rest demand) wordSize)
        (fixedSections sizes) < UInt64.size) ↔ NoneFaulty base wordSize sizes := by
  rw [noneFaulty_iff, stackedBytes_fixedSections, fixedSections, List.forall_mem_map]
  refine and_congr_left fun _ => forall₂_congr fun fixed _ => ?_
  exact (roundDown_eq_zero_iff sized fixed.2).not.trans UInt64.not_lt

/-- Sections of fixed sizes are placed just if none of them is at fault. -/
theorem place_fixedSections_ok_iff (sized : wordSize ≠ 0) :
    (∃ layout, placeFrom wordSize (rawSize total rest) base empty (fixedSections sizes) =
        .ok layout) ↔ NoneFaulty base wordSize sizes := by
  simp only [placeFrom_eq_ok_iff, ← filled_fixedSections_iff total rest sized]
  exact ⟨fun ⟨_, filled, below, _⟩ => ⟨filled, below⟩,
    fun ⟨filled, below⟩ => ⟨_, filled, below, rfl⟩⟩

/-- A split of sections of fixed sizes is one of the sizes. -/
theorem exists_split_of_fixedSections {before after : List Section} {entry : Section}
    (split : fixedSections sizes = before ++ entry :: after) :
    ∃ earlier fixed later, sizes = earlier ++ fixed :: later ∧ before = fixedSections earlier ∧
      entry = ⟨fixed.1, .bytes fixed.2⟩ := by
  obtain ⟨earlier, others, rfl, rfl, ends⟩ := List.map_eq_append_iff.mp split
  obtain ⟨fixed, later, rfl, rfl, -⟩ := List.map_eq_cons_iff.mp ends
  exact ⟨earlier, fixed, later, rfl, rfl, rfl⟩

/-- A section of a fixed size that is empty or ends past the top is at fault. -/
theorem faultyAfter_iff (sized : wordSize ≠ 0) {error : PlacementError} :
    (Word.roundDown (rawSize total rest (.bytes fixed.2)) wordSize = 0 ∧
          error = .emptySection fixed.1 ∨
        Word.roundDown (rawSize total rest (.bytes fixed.2)) wordSize ≠ 0 ∧
          UInt64.size ≤ base.toNat + stackedBytes
            (fun demand => Word.roundDown (rawSize total rest demand) wordSize)
            (fixedSections earlier ++ [⟨fixed.1, .bytes fixed.2⟩]) ∧
          error = .pastTop fixed.1) ↔
      FaultyAfter base wordSize earlier fixed ∧
        error = if fixed.2 < wordSize then .emptySection fixed.1 else .pastTop fixed.1 := by
  have bytes : stackedBytes (fun demand => Word.roundDown (rawSize total rest demand) wordSize)
      (fixedSections earlier ++ [⟨fixed.1, .bytes fixed.2⟩]) =
        wholeBytes wordSize (earlier ++ [fixed]) := by
    rw [← stackedBytes_fixedSections total rest, fixedSections, fixedSections,
      List.map_append]
    rfl
  rw [bytes, rawSize, ne_eq, roundDown_eq_zero_iff sized, FaultyAfter]
  by_cases small : fixed.2 < wordSize <;> simp [small]

/-- Placing sections of fixed sizes fails at the first that is at fault, and names it. -/
theorem place_fixedSections_error_iff (sized : wordSize ≠ 0) {error : PlacementError} :
    placeFrom wordSize (rawSize total rest) base empty (fixedSections sizes) = .error error ↔
      ∃ earlier fixed later, sizes = earlier ++ fixed :: later ∧
        NoneFaulty base wordSize earlier ∧ FaultyAfter base wordSize earlier fixed ∧
        error = if fixed.2 < wordSize then .emptySection fixed.1 else .pastTop fixed.1 := by
  rw [placeFrom_eq_error_iff]
  constructor
  · rintro ⟨before, entry, after, split, filled, below, fails⟩
    obtain ⟨earlier, fixed, later, rfl, rfl, rfl⟩ := exists_split_of_fixedSections split
    exact ⟨earlier, fixed, later, rfl, (filled_fixedSections_iff _ _ sized).mp ⟨filled, below⟩,
      (faultyAfter_iff sized).mp fails⟩
  · rintro ⟨earlier, fixed, later, rfl, none, fails⟩
    obtain ⟨filled, below⟩ := (filled_fixedSections_iff _ _ sized).mpr none
    exact ⟨fixedSections earlier, ⟨fixed.1, .bytes fixed.2⟩, fixedSections later,
      by simp [fixedSections], filled, below, (faultyAfter_iff sized).mpr fails⟩

end FixedSizes

/-! ## Plans -/

section Plans

variable {base available wordSize : UInt64} {sizes : List FixedSize}

theorem misaligned_iff : base % wordSize ≠ 0 ↔ ¬ wordSize.toNat ∣ base.toNat := by
  rw [Nat.dvd_iff_mod_eq_zero, ← UInt64.toNat_mod, ne_eq, ← UInt64.toNat_inj, UInt64.toNat_zero]

/-- A word size of zero is refused first, whatever the sections ask for. -/
theorem plan_of_zeroWordSize (zero : wordSize = 0) (sections : List Section) :
    plan base available wordSize sections = .error .zeroWordSize := by
  rw [plan, if_pos zero]

/-- A base that is no multiple of a positive word size is refused before any section is looked
at. -/
theorem plan_of_misaligned (sized : wordSize ≠ 0) (misaligned : ¬ wordSize.toNat ∣ base.toNat)
    (sections : List Section) :
    plan base available wordSize sections = .error (.misalignedBase base wordSize) := by
  rw [plan, if_neg sized, if_pos (misaligned_iff.mpr misaligned)]

/-- From a base of whole words, sections of fixed sizes are placed if the memory holds what they
ask for. -/
theorem plan_of_whole (whole : WholeBase base wordSize) :
    plan base available wordSize (fixedSections sizes) =
      match Word.sum? (sizes.map Prod.snd) with
      | none => .error .fixedSizesOverflow
      | some needed =>
          if available < needed then .error (.overcommitted needed available)
          else placeFrom wordSize (rawSize 0.0 (available - needed)) base empty
            (fixedSections sizes) := by
  rw [plan, if_neg whole.sized, if_neg (misaligned_iff.not.mpr (not_not.mpr whole.aligned)),
    fixedSizes_fixedSections, weights_fixedSections]
  rfl

theorem askedBytes_eq (sizes : List FixedSize) :
    askedBytes sizes = ((sizes.map Prod.snd).map UInt64.toNat).sum := by
  rw [List.map_map]
  rfl

/-- The checked sum of the sizes is a word when it is the bytes asked for, with nothing lost. -/
theorem sum?_sizes_eq_some_iff {needed : UInt64} :
    Word.sum? (sizes.map Prod.snd) = some needed ↔ needed.toNat = askedBytes sizes := by
  rw [Word.sum?_eq_some_iff, askedBytes_eq]

/-- The checked sum of the sizes overflows exactly when the bytes asked for do not fit in a word. -/
theorem sum?_sizes_eq_none_iff :
    Word.sum? (sizes.map Prod.snd) = none ↔ UInt64.size ≤ askedBytes sizes := by
  rw [Word.sum?_eq_none_iff, askedBytes_eq]

/-- Sections that ask for no more than there is are placed. -/
theorem plan_of_fits (whole : WholeBase base wordSize) (fits : askedBytes sizes ≤ available.toNat) :
    ∃ rest, plan base available wordSize (fixedSections sizes) =
      placeFrom wordSize (rawSize 0.0 rest) base empty (fixedSections sizes) := by
  rcases sums : Word.sum? (sizes.map Prod.snd) with _ | needed
  · have overflows := sum?_sizes_eq_none_iff.mp sums
    have word := available.toNat_lt
    exact absurd (overflows.trans fits) (Nat.not_le.mpr word)
  · have within : ¬ available < needed := by
      rw [UInt64.lt_iff_toNat_lt, sum?_sizes_eq_some_iff.mp sums]
      exact Nat.not_lt.mpr fits
    rw [plan_of_whole whole, sums]
    exact ⟨available - needed, if_neg within⟩

/-- A plan that is refused fails for the reason given. -/
theorem Refused.plan_eq {error : PlacementError}
    (refused : Refused base available wordSize sizes error) :
    plan base available wordSize (fixedSections sizes) = .error error := by
  cases refused with
  | zeroWordSize zero => exact plan_of_zeroWordSize zero _
  | misalignedBase sized misaligned => exact plan_of_misaligned sized misaligned _
  | fixedSizesOverflow whole overflows =>
      rw [plan_of_whole whole, sum?_sizes_eq_none_iff.mpr overflows]
  | overcommitted whole needs exceeds =>
      rw [plan_of_whole whole, sum?_sizes_eq_some_iff.mpr needs]
      exact if_pos exceeds
  | @faultySection earlier later kind count whole fits split faulty first =>
      obtain ⟨rest, plans⟩ := plan_of_fits whole fits
      rw [plans]
      exact (place_fixedSections_error_iff whole.sized).mpr
        ⟨earlier, (kind, count), later, split, first, faulty, rfl⟩

/-- A plan of fixed sizes succeeds if nothing is at fault, or it is refused. -/
theorem plan_cases (base available wordSize : UInt64) (sizes : List FixedSize) :
    (WholeBase base wordSize ∧ askedBytes sizes ≤ available.toNat ∧
        NoneFaulty base wordSize sizes ∧
        ∃ layout, plan base available wordSize (fixedSections sizes) = .ok layout) ∨
      ∃ error, Refused base available wordSize sizes error := by
  by_cases zero : wordSize = 0
  · exact .inr ⟨_, .zeroWordSize zero⟩
  by_cases aligned : wordSize.toNat ∣ base.toNat
  · have whole : WholeBase base wordSize := ⟨zero, aligned⟩
    by_cases fits : askedBytes sizes ≤ available.toNat
    · obtain ⟨rest, plans⟩ := plan_of_fits whole fits
      rw [plans]
      rcases placed : placeFrom wordSize (rawSize 0.0 rest) base empty (fixedSections sizes) with
        error | layout
      · obtain ⟨earlier, fixed, later, split, first, faulty, -⟩ :=
          (place_fixedSections_error_iff zero).mp placed
        exact .inr ⟨_, .faultySection whole fits split faulty first⟩
      · exact .inl ⟨whole, fits, (place_fixedSections_ok_iff zero).mp ⟨layout, placed⟩, layout, rfl⟩
    · rcases sums : Word.sum? (sizes.map Prod.snd) with _ | needed
      · exact .inr ⟨_, .fixedSizesOverflow whole (sum?_sizes_eq_none_iff.mp sums)⟩
      · have needs := sum?_sizes_eq_some_iff.mp sums
        refine .inr ⟨_, .overcommitted whole needs ?_⟩
        rw [UInt64.lt_iff_toNat_lt, needs]
        exact Nat.not_le.mp fits
  · exact .inr ⟨_, .misalignedBase zero aligned⟩

/-- Fixed sizes can be planned exactly when the base is whole, the memory holds them all and no
section is faulty. -/
theorem exists_plan_iff :
    (∃ layout, plan base available wordSize (fixedSections sizes) = .ok layout) ↔
      WholeBase base wordSize ∧ askedBytes sizes ≤ available.toNat ∧
        NoneFaulty base wordSize sizes := by
  constructor
  · rintro ⟨layout, planned⟩
    rcases plan_cases base available wordSize sizes with
      ⟨whole, fits, none, -⟩ | ⟨error, refused⟩
    · exact ⟨whole, fits, none⟩
    · rw [refused.plan_eq] at planned
      cases planned
  · rintro ⟨whole, fits, none⟩
    obtain ⟨rest, plans⟩ := plan_of_fits whole fits
    rw [plans]
    exact (place_fixedSections_ok_iff whole.sized).mpr none

/-- The error of a refused plan is determined by the base, the memory and the sizes. -/
theorem plan_eq_error_iff {error : PlacementError} :
    plan base available wordSize (fixedSections sizes) = .error error ↔
      Refused base available wordSize sizes error := by
  refine ⟨fun fails => ?_, Refused.plan_eq⟩
  rcases plan_cases base available wordSize sizes with
    ⟨-, -, -, layout, planned⟩ | ⟨reason, refused⟩
  · rw [planned] at fails
    cases fails
  · rw [refused.plan_eq] at fails
    cases fails
    exact refused

/-- A plan of fixed sizes succeeds just if words have a size, the base is whole words, the memory
given holds what is asked for, each section holds a word, and the words of all sections end at the
top or before. It fails otherwise, for one reason: of the sections that cannot be placed, the first
is named. -/
theorem plan_fixed_iff (base available wordSize : UInt64) (sizes : List FixedSize) :
    ((∃ layout, plan base available wordSize (fixedSections sizes) = .ok layout) ↔
      wordSize ≠ 0 ∧ wordSize.toNat ∣ base.toNat ∧ askedBytes sizes ≤ available.toNat ∧
        (∀ fixed ∈ sizes, wordSize ≤ fixed.2) ∧
        base.toNat + wholeBytes wordSize sizes ≤ 2 ^ 64 - 1) ∧
    ∀ error, plan base available wordSize (fixedSections sizes) = .error error ↔
      Refused base available wordSize sizes error := by
  have top : (2 ^ 64 - 1 : Nat) + 1 = UInt64.size := rfl
  refine ⟨exists_plan_iff.trans ?_, fun error => plan_eq_error_iff⟩
  rw [noneFaulty_iff, ← top, Nat.lt_succ_iff]
  exact ⟨fun ⟨⟨sized, aligned⟩, others⟩ => ⟨sized, aligned, others⟩,
    fun ⟨sized, aligned, others⟩ => ⟨⟨sized, aligned⟩, others⟩⟩

/-- Two sections are placed up to the top, of which the second leaves bytes of its last word. -/
theorem plan_up_to_top :
    ∃ layout, plan 0xFFFFFFFFFFFFFFE0 32 8 (fixedSections [(.text, 16), (.heap, 15)]) =
      .ok layout :=
  (plan_fixed_iff 0xFFFFFFFFFFFFFFE0 32 8 [(.text, 16), (.heap, 15)]).1.mpr (by decide)

/-- Both sections are too small for a word, and the first of them is named. -/
example : plan 0 64 8 (fixedSections [(.text, 16), (.heap, 7), (.stack, 1)]) =
    .error (.emptySection .heap) := by decide

end Plans

end MemoryLayout

end MicroDevice
