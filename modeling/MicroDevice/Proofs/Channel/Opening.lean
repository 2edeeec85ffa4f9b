import MicroDevice.Channel.Host
import MicroDevice.Proofs.Channel.Stack
import MicroDevice.Simulation.Image

/-! # Opening a channel to the host

A channel to the host is opened just if the runtime is an object whose code fits the text region,
the regions fit the emulation, and those with an address end inside the address space
(`HostChannel.opens_iff_code_fits`). The bytes of code are counted in a word. An object that
declares more of them than a word holds is not let through either, but it is not refused with an
error: opening panics.
-/

namespace MicroDevice

namespace Object

/-- The bytes of loaded code that the section headers declare. -/
def Elf.codeBytes (elf : Elf) : Nat :=
  ((elf.sections.filter ElfSection.isCode).map fun header => header.size.toNat).sum

/-- The bytes of loaded code in an object, if it is one that can be loaded. A Mach-O file counts
for none. -/
def ObjectFile.codeBytes? : ObjectFile → Option Nat
  | .elf contents => some contents.codeBytes
  | .machO => some 0
  | .foreign => none

/-- The sizes of the loaded code add up to what the headers declare, as they are natural numbers. -/
theorem Elf.codeBytes_eq (elf : Elf) :
    elf.codeBytes =
      (((elf.sections.filter ElfSection.isCode).map (·.size)).map UInt64.toNat).sum := by
  rw [codeBytes, List.map_map]
  rfl

end Object

namespace HostChannel

/-- The bytes of loaded code in the runtime, if it can be read and loaded. -/
def loadedCode? (params : ChannelParams) (files : FileTree) : Option Nat :=
  (files.read params.runtime).toOption.bind fun contents =>
    (Object.ObjectFile.ofBytes? contents).bind Object.ObjectFile.codeBytes?

/-- A device fits the host with a number of bytes of code. -/
structure Admits (params : ChannelParams) (code : Nat) : Prop where
  total : (params.regions.map fun region => region.size.toNat).sum ≤ emulationLimit.toNat
  text : ∃ text, params.region? .text = some text ∧ code ≤ text.size.toNat
  inside : ∀ region ∈ params.regions, ∀ base, region.base = some base →
    base.toNat + region.size.toNat ≤ Word.top.toNat

/-- A code size is known when the runtime file is read and its object has one. -/
theorem loadedCode?_eq_some {params : ChannelParams} {files : FileTree} {code : Nat}
    (loaded : loadedCode? params files = some code) :
    ∃ contents, files.read params.runtime = .ok contents ∧
      (Object.ObjectFile.ofBytes? contents).bind Object.ObjectFile.codeBytes? = some code := by
  unfold loadedCode? at loaded
  rcases read : files.read params.runtime with fault | contents <;> rw [read] at loaded
  · cases loaded
  · exact ⟨contents, rfl, loaded⟩

/-- The code of an object is counted as it is, unless its bytes are too many for a word. -/
theorem codeSize_ok_iff {contents : Bytes} {code : UInt64} :
    codeSize contents = .ok code ↔
      (Object.ObjectFile.ofBytes? contents).bind Object.ObjectFile.codeBytes? =
        some code.toNat := by
  unfold codeSize
  rcases Object.ObjectFile.ofBytes? contents with _ | (elf | _ | _)
  · simp
  · have counted : elf.codeSize? = some code ↔ elf.codeBytes = code.toNat := by
      rw [Object.Elf.codeSize?, Word.sum?_eq_some_iff, elf.codeBytes_eq]
      exact eq_comm
    rw [Option.bind_some, Object.ObjectFile.codeBytes?, Option.some.injEq, ← counted]
    dsimp only
    rcases elf.codeSize? with _ | size
    · simp
    · rw [Except.ok.injEq, Option.some.injEq]
  · rw [Except.ok.injEq, ← UInt64.toNat_inj, Option.bind_some, Object.ObjectFile.codeBytes?,
      Option.some.injEq]
    rfl
  · simp [Object.ObjectFile.codeBytes?]

/-- Counting the code of an object panics just if its bytes are too many for a word. -/
theorem codeSize_panics_iff {contents : Bytes} {message : String} :
    codeSize contents = .error (.panic message) ↔ message = Word.overflowText ∧
      ∃ code, (Object.ObjectFile.ofBytes? contents).bind Object.ObjectFile.codeBytes? =
        some code ∧ UInt64.size ≤ code := by
  unfold codeSize
  rcases Object.ObjectFile.ofBytes? contents with _ | (elf | _ | _)
  · simp [openError]
  · have uncounted : elf.codeSize? = none ↔ UInt64.size ≤ elf.codeBytes := by
      rw [Object.Elf.codeSize?, Word.sum?_eq_none_iff, elf.codeBytes_eq]
    dsimp only
    rcases sizes : elf.codeSize? with _ | size
    · have tooMany := uncounted.mp sizes
      simp [Object.ObjectFile.codeBytes?, tooMany, eq_comm]
    · have few : ¬ UInt64.size ≤ elf.codeBytes := by
        rw [← uncounted, sizes]
        exact Option.some_ne_none size
      simp [Object.ObjectFile.codeBytes?, few]
  · have small : ¬ UInt64.size ≤ 0 := by decide
    simp [Object.ObjectFile.codeBytes?, small]
  · simp [openError, Object.ObjectFile.codeBytes?]

/-- The sizes of the regions pass the check when their sum is within the limit of emulation. -/
theorem checkTotal_ok_iff (regions : List MemoryRegion) :
    checkTotal regions = .ok () ↔
      (regions.map fun region => region.size.toNat).sum ≤ emulationLimit.toNat := by
  have small : emulationLimit.toNat < UInt64.size := by decide
  have sum_eq : ((regions.map (·.size)).map UInt64.toNat).sum =
      (regions.map fun region => region.size.toNat).sum := by
    rw [List.map_map]
    rfl
  unfold checkTotal
  rcases sums : Word.sum? (regions.map (·.size)) with _ | total
  · have overflows : ¬ (regions.map fun region => region.size.toNat).sum < UInt64.size := by
      rw [← sum_eq, ← Word.sum?_isSome_iff, sums]
      exact Bool.noConfusion
    rw [sums]
    refine iff_of_false (by simp) ?_
    omega
  · rw [sums, ← sum_eq, ← Word.toNat_of_sum? sums, ← UInt64.le_iff_toNat_le]
    simp

/-- Code passes the check when there is a text region that is large enough for it. -/
theorem checkText_ok_iff (params : ChannelParams) (code : UInt64) :
    checkText params code = .ok () ↔
      ∃ text, params.region? .text = some text ∧ code.toNat ≤ text.size.toNat := by
  unfold checkText
  rcases params.region? .text with _ | text
  · simp
  · simp [← UInt64.le_iff_toNat_le]

/-- Regions can be placed just if those with an address end inside the address space. -/
theorem place_isOk_iff (wordBytes next : UInt64) (placed : RegionKind → Option Placement)
    (regions : List MemoryRegion) :
    (∃ result, place wordBytes next placed regions = .ok result) ↔
      ∀ region ∈ regions, ∀ base, region.base = some base →
        base.toNat + region.size.toNat ≤ Word.top.toNat := by
  have top_eq : Word.top.toNat = UInt64.size - 1 := rfl
  have size_pos : 0 < UInt64.size := by decide
  induction regions generalizing next placed with
  | nil => exact iff_of_true ⟨placed, rfl⟩ (by simp)
  | cons region later ih =>
      rw [List.forall_mem_cons, place]
      rcases based : region.base with _ | base
      · have rest := ih (Word.roundUp next wordBytes + region.size) fun kind =>
          if kind = region.kind then some ⟨Word.roundUp next wordBytes, region.size⟩
          else placed kind
        refine rest.trans ?_
        simp
      · have ends : (Word.add? base region.size).isSome = true ↔
            base.toNat + region.size.toNat < UInt64.size := Word.add?_isSome_iff
        dsimp only
        rcases adds : Word.add? base region.size with _ | limit <;> rw [adds] at ends
        · have past : ¬ base.toNat + region.size.toNat < UInt64.size := by
            rw [← ends]
            exact Bool.noConfusion
          refine iff_of_false (by simp) ?_
          rintro ⟨inside, -⟩
          have inside := inside base rfl
          omega
        · have fits := ends.mp rfl
          have rest := ih next fun kind =>
            if kind = region.kind then some ⟨base, region.size⟩ else placed kind
          refine rest.trans ?_
          simp only [Option.some.injEq, forall_eq']
          constructor
          · intro inside
            exact ⟨by omega, inside⟩
          · exact fun both => both.2

theorem isOk_iff {Error Answer : Type} {result : Except Error Answer} :
    result.isOk = true ↔ ∃ answer, result = .ok answer := by
  cases result <;> simp [Except.isOk, Except.toBool]

/-- A channel is opened when every check passes, with the regions that were placed. -/
theorem openWith_ok_iff {params : ChannelParams} {files : FileTree} {channel : HostChannel} :
    openWith params files = .ok channel ↔
      ∃ contents code placement?, files.read params.runtime = .ok contents ∧
        codeSize contents = .ok code ∧ checkTotal params.regions = .ok () ∧
        checkText params code = .ok () ∧
        place params.alignment arenaBase (fun _ => none) params.regions = .ok placement? ∧
        channel = ⟨placement?, params.alignment, .idle, true⟩ := by
  have alignment_eq : (if params.wordBytes = 0 then 1 else params.wordBytes) = params.alignment :=
    rfl
  unfold openWith
  rw [alignment_eq]
  rcases read : files.read params.runtime with fault | contents
  · simp [Except.mapError, bind, Except.bind]
  rcases sized : codeSize contents with fault | code
  · simp [Except.mapError, bind, Except.bind, sized]
  rcases checked : checkTotal params.regions with fault | _
  · simp [Except.mapError, bind, Except.bind, sized]
  rcases holds : checkText params code with fault | _
  · simp [Except.mapError, bind, Except.bind, sized, holds]
  rcases places : place params.alignment arenaBase (fun _ => none) params.regions with
    fault | placement?
  · simp [Except.mapError, bind, Except.bind, sized, holds, places]
  · simp [Except.mapError, bind, Except.bind, pure, Except.pure, sized, holds, places, eq_comm]

/-- Opening panics where the code is counted, and nowhere else. -/
theorem openWith_panics_iff {params : ChannelParams} {files : FileTree} {message : String} :
    openWith params files = .error (.panic message) ↔
      ∃ contents, files.read params.runtime = .ok contents ∧
        codeSize contents = .error (.panic message) := by
  unfold openWith
  rcases files.read params.runtime with fault | contents
  · simp [Except.mapError, bind, Except.bind, openError]
  rcases sized : codeSize contents with fault | code
  · simp [Except.mapError, bind, Except.bind, sized]
  rcases checkTotal params.regions with fault | _
  · simp [Except.mapError, bind, Except.bind, sized, openError]
  rcases holds : checkText params code with fault | _
  · simp [Except.mapError, bind, Except.bind, sized, holds, openError]
  rcases places : place (if params.wordBytes = 0 then 1 else params.wordBytes) arenaBase
    (fun _ => none) params.regions with fault | placement?
  · simp [Except.mapError, bind, Except.bind, sized, holds, places, openError]
  · simp [Except.mapError, bind, Except.bind, pure, Except.pure, sized, holds, places]

/-- A host channel opens exactly when the code of its runtime has a size and the parameters admit
it. -/
theorem isOk_openWith_iff (params : ChannelParams) (files : FileTree) :
    (openWith params files).isOk = true ↔
      ∃ code, loadedCode? params files = some code ∧ Admits params code := by
  rw [isOk_iff]
  constructor
  · rintro ⟨channel, opened⟩
    obtain ⟨contents, code, placement?, read, sized, total, text, places, -⟩ :=
      openWith_ok_iff.mp opened
    refine ⟨code.toNat, ?_, (checkTotal_ok_iff _).mp total, (checkText_ok_iff params code).mp text,
      (place_isOk_iff _ _ _ _).mp ⟨placement?, places⟩⟩
    rw [loadedCode?, read]
    exact codeSize_ok_iff.mp sized
  · rintro ⟨code, loaded, admits⟩
    obtain ⟨contents, read, isObject⟩ := loadedCode?_eq_some loaded
    obtain ⟨text, found, fits⟩ := admits.text
    obtain ⟨placement?, places⟩ :=
      (place_isOk_iff params.alignment arenaBase (fun _ => none) _).mpr admits.inside
    -- what fits a region is counted in a word
    have code_eq : (UInt64.ofNat code).toNat = code :=
      UInt64.toNat_ofNat_of_lt' (Nat.lt_of_le_of_lt fits text.size.toNat_lt)
    have sized : codeSize contents = .ok (UInt64.ofNat code) := by
      rw [codeSize_ok_iff, code_eq]
      exact isObject
    have holds : checkText params (UInt64.ofNat code) = .ok () := by
      rw [checkText_ok_iff, code_eq]
      exact admits.text
    have total := (checkTotal_ok_iff params.regions).mpr admits.total
    exact ⟨_, openWith_ok_iff.mpr
      ⟨contents, UInt64.ofNat code, placement?, read, sized, total, holds, places, rfl⟩⟩

/-- A channel to the host is opened just if the runtime is an object whose code fits the text
region, the regions fit the emulation, and those with an address end inside the address space. An
object whose code does not fit is never let through: opening is refused, or it panics, which it
does just if the runtime declares more code than a word can count. -/
theorem opens_iff_code_fits (params : ChannelParams) (files : FileTree) :
    ((openWith params files).isOk = true ↔
      ∃ code, loadedCode? params files = some code ∧ Admits params code) ∧
    (∀ code text, loadedCode? params files = some code → params.region? .text = some text →
      text.size.toNat < code → (openWith params files).isOk = false) ∧
    ∀ message, openWith params files = .error (.panic message) ↔
      message = "attempt to add with overflow" ∧
        ∃ code, loadedCode? params files = some code ∧ 2 ^ 64 ≤ code := by
  refine ⟨isOk_openWith_iff params files, fun code text loaded found tooMuch => ?_,
    fun message => ?_⟩
  · rw [← Bool.not_eq_true, isOk_openWith_iff]
    rintro ⟨_, same, admits⟩
    obtain ⟨_, alsoFound, fits⟩ := admits.text
    cases loaded.symm.trans same
    cases found.symm.trans alsoFound
    omega
  · rw [openWith_panics_iff]
    constructor
    · rintro ⟨contents, read, panics⟩
      obtain ⟨isOverflow, code, isObject, tooMany⟩ := codeSize_panics_iff.mp panics
      refine ⟨isOverflow, code, ?_, tooMany⟩
      rw [loadedCode?, read]
      exact isObject
    · rintro ⟨isOverflow, code, loaded, tooMany⟩
      obtain ⟨contents, read, isObject⟩ := loadedCode?_eq_some loaded
      exact ⟨contents, read, codeSize_panics_iff.mpr ⟨isOverflow, code, isObject, tooMany⟩⟩

/-- With a text region of 4096 bytes, a runtime that declares as much code is let through. One that
declares half as much as there are addresses is refused, and one that declares as much as there
are makes opening panic. -/
theorem opens_unless_code_overflows :
    let params := Simulation.imageParams fun _ => none
    let files (sizes : List UInt64) := Simulation.filesWith (Simulation.codeImage sizes)
    (openWith params (files [4096])).isOk = true ∧
      (openWith params (files [0x8000000000000000])).isOk = false ∧
      openWith params (files [0x8000000000000000, 0x8000000000000000]) =
        .error (.panic "attempt to add with overflow") := by
  intro params files
  have little : loadedCode? params (files [4096]) = some 4096 := by decide +kernel
  have half : loadedCode? params (files [0x8000000000000000]) = some 0x8000000000000000 := by
    decide +kernel
  have whole : loadedCode? params (files [0x8000000000000000, 0x8000000000000000]) =
      some (2 ^ 64) := by
    decide +kernel
  refine ⟨(opens_iff_code_fits params _).1.mpr ⟨4096, little, ?_, ?_, ?_⟩, ?_, ?_⟩
  · decide
  · exact ⟨_, rfl, by decide⟩
  · intro region member base based
    obtain ⟨kind, -, rfl⟩ := List.mem_map.mp member
    cases based
  · exact (opens_iff_code_fits params _).2.1 _ _ half rfl (by decide)
  · exact ((opens_iff_code_fits params _).2.2 _).mpr ⟨rfl, _, whole, Nat.le_refl _⟩

end HostChannel

end MicroDevice
