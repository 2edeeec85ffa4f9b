import MicroDevice.Channel.Params
import MicroDevice.Proofs.Memory.Words

/-! # The top of a stack

A stack begins with the last whole word at or before its end, on both transports. They count the
bytes of a word differently if it has less than eight bits, which makes no difference to the top
of a stack (`stackTop?_alignment`).
-/

namespace MicroDevice

namespace ChannelParams

/-- The number of bytes that regions are aligned to: those of a word, or one. -/
def alignment (params : ChannelParams) : UInt64 :=
  if params.wordBytes = 0 then 1 else params.wordBytes

theorem toNat_wordBytes (params : ChannelParams) :
    params.wordBytes.toNat = params.wordSize.toNat / 8 := by
  rw [wordBytes, UInt32.toNat_toUInt64, UInt32.toNat_div]
  rfl

/-- Where a word has no whole byte, regions are aligned to single bytes. -/
theorem toNat_alignment (params : ChannelParams) :
    params.alignment.toNat = max 1 (params.wordSize.toNat / 8) := by
  rw [← toNat_wordBytes, alignment]
  split
  · rename_i zero
    rw [zero]
    rfl
  · rename_i positive
    have ne_zero : params.wordBytes.toNat ≠ 0 := by
      intro zero
      exact positive (UInt64.toNat_inj.mp zero)
    omega

theorem alignment_pos (params : ChannelParams) : 0 < params.alignment.toNat := by
  rw [toNat_alignment]
  omega

/-- The alignment is small beside an address, since a word size has 32 bits. -/
theorem alignment_le (params : ChannelParams) : params.alignment.toNat ≤ 2 ^ 29 := by
  have bounded := params.wordSize.toNat_lt
  rw [toNat_alignment]
  omega

end ChannelParams

/-- A stack has no top just if it ends past the greatest address. -/
theorem stackTop?_eq_none_iff {base size wordBytes : UInt64} :
    stackTop? base size wordBytes = none ↔ 2 ^ 64 - 1 < base.toNat + size.toNat := by
  have size_eq : UInt64.size = 2 ^ 64 := rfl
  rw [stackTop?, Option.map_eq_none_iff, ← Option.not_isSome_iff_eq_none, Word.add?_isSome_iff]
  omega

/-- The top of a stack that ends inside the address space is the last whole word there. -/
theorem stackTop?_eq_some_iff {base size wordBytes top : UInt64}
    (positive : 0 < wordBytes.toNat) :
    stackTop? base size wordBytes = some top ↔ base.toNat + size.toNat < 2 ^ 64 ∧
      top.toNat = (base.toNat + size.toNat) / wordBytes.toNat * wordBytes.toNat := by
  have ne_zero : wordBytes ≠ 0 := by
    rintro rfl
    exact absurd positive (Nat.lt_irrefl 0)
  rcases adds : Word.add? base size with _ | limit
  · have none : stackTop? base size wordBytes = none := by rw [stackTop?, adds, Option.map_none]
    have past := stackTop?_eq_none_iff.mp none
    rw [none]
    refine iff_of_false (Option.some_ne_none top).symm ?_
    omega
  · have limit_eq := Word.add?_eq_some_iff.mp adds
    have bounded := limit.toNat_lt
    rw [stackTop?, adds, Option.map_some, if_neg ne_zero, Option.some.injEq, ← limit_eq,
      ← UInt64.toNat_inj, Word.toNat_roundDown]
    constructor
    · exact fun same => ⟨bounded, same.symm⟩
    · exact fun rounded => rounded.2.symm

/-- A word of no bytes and a word of one byte leave the top of a stack as it is. -/
theorem stackTop?_alignment (params : ChannelParams) (base size : UInt64) :
    stackTop? base size params.alignment = stackTop? base size params.wordBytes := by
  by_cases none : params.wordBytes = 0
  · have whole (top : UInt64) : Word.roundDown top 1 = top := by
      rw [← UInt64.toNat_inj, Word.toNat_roundDown]
      exact (Nat.mul_one _).trans (Nat.div_one _)
    have one : params.alignment = 1 := if_pos none
    rw [one, none, stackTop?, stackTop?]
    simp only [whole, ite_self, if_true]
  · rw [ChannelParams.alignment, if_neg none]

end MicroDevice
