import MicroDevice.Proofs.Toml.Strings
import MicroDevice.Toml.Value

/-! # Values that are read back

A text shows a datum (`Shows`) when it is read as the datum at the end of a line. Strings, truth
values and natural numbers of 63 bits are shown by what is written for them.
-/

namespace MicroDevice.Toml

/-- At the end of a line, the text is read as the datum. -/
structure Shows (text : List Char) (datum : Datum) : Prop where
  noBlank : ∀ rest, dropBlanks (text ++ '\n' :: rest) = text ++ '\n' :: rest
  reads : ∀ rest, value nestingLimit (text ++ '\n' :: rest) = some (datum, '\n' :: rest)

theorem dropBlanks_cons {c : Char} (other : isBlank c = false) (rest : List Char) :
    dropBlanks (c :: rest) = c :: rest := by
  simp [dropBlanks, other]

/-- A value that begins with no bracket contains no others. -/
theorem value_eq_scalar {c : Char} (bracket : c ≠ '[') (brace : c ≠ '{') (limit : Nat)
    (rest : List Char) : value limit (c :: rest) = scalar (c :: rest) := by
  cases limit <;> simp [value, bracket, brace]

/-- A written string shows its text. -/
theorem shows_string (text : String) : Shows (stringText text) (.string text) := by
  have quoted : ∃ quote later, stringText text = quote :: later ∧ (quote = '"' ∨ quote = '\'') := by
    unfold stringText StringForm.write
    cases StringForm.choose text.toList <;> exact ⟨_, _, rfl, by decide⟩
  obtain ⟨quote, later, begins, isQuote⟩ := quoted
  refine ⟨fun rest => ?_, fun rest => ?_⟩
  · rw [begins]
    apply dropBlanks_cons
    rcases isQuote with rfl | rfl <;> rfl
  · have read := string_stringText text rest
    rw [begins, List.cons_append] at read ⊢
    rcases isQuote with rfl | rfl
    · rw [value_eq_scalar (by decide) (by decide)]
      simp [scalar, read]
    · rw [value_eq_scalar (by decide) (by decide)]
      simp [scalar, read]

theorem shows_boolean (truth : Bool) :
    Shows (if truth then "true".toList else "false".toList) (.boolean truth) := by
  cases truth <;> exact ⟨fun _ => rfl, fun _ => rfl⟩

/-! ## Numbers -/

/-- Digits before the end of a line are read as they are. -/
theorem digits_append {written : List Char} (areDigits : ∀ c ∈ written, c.isDigit = true)
    (named : written ≠ []) (rest : List Char) :
    digits Char.isDigit (written ++ '\n' :: rest) = some (written, '\n' :: rest) := by
  have taken : (written ++ '\n' :: rest).takeWhile (fun c => c.isDigit || c = '_') = written := by
    rw [List.takeWhile_append_of_pos fun c member => by simp [areDigits c member]]
    simp
  have noMark : '_' ∉ written := fun member => absurd (areDigits '_' member) (by decide)
  have kept : written.filter (· ≠ '_') = written := by
    rw [List.filter_eq_self]
    intro c member
    simp only [ne_eq, decide_eq_true_eq]
    exact fun mark => noMark (mark ▸ member)
  unfold digits
  dsimp only
  rw [taken, List.splitOn_eq_singleton noMark, kept]
  simp [named]

/-- A text without a dash after four characters is no date. -/
theorem date?_of_mark {text : List Char} (mark : text[4]? ≠ some '-') : date? text = none := by
  unfold date?
  split
  · simp at mark
  · rfl

/-- A text without a digit among its first four characters is no date. -/
theorem date?_of_year {text : List Char} {c : Char} (member : c ∈ text.take 4)
    (other : c.isDigit = false) : date? text = none := by
  unfold date?
  split
  · rename_i y1 y2 y3 y4 _ _ _ _ _
    have notYear : [y1, y2, y3, y4].all Char.isDigit = false := by
      rw [List.all_eq_false]
      exact ⟨c, member, by simp [other]⟩
    simp [notYear]
  · rfl

/-- A text without a colon after two characters is no time. -/
theorem time?_of_mark {text : List Char} (mark : text[2]? ≠ some ':') : time? text = none := by
  unfold time?
  split
  · simp at mark
  · rfl

/-- A text without a digit among its first two characters is no time. -/
theorem time?_of_hour {text : List Char} {c : Char} (member : c ∈ text.take 2)
    (other : c.isDigit = false) : time? text = none := by
  unfold time?
  split
  · rename_i h1 h2 _ _ _ _ _
    have noHour : twoDigits? h1 h2 0 23 = none := by
      have mixed : c = h1 ∨ c = h2 := by simpa using member
      rcases mixed with rfl | rfl <;> simp [twoDigits?, other]
    simp [noHour]
  · rfl

/-- In a text of digits that ends a line, what stands at a place is a digit or a line end, or the
line has ended before. -/
theorem digits_getElem? {written : List Char} (areDigits : ∀ c ∈ written, c.isDigit = true)
    (rest : List Char) (place : Nat) (mark : Char) (noDigit : mark.isDigit = false)
    (noLine : mark ≠ '\n') :
    (written ++ '\n' :: rest)[place]? ≠ some mark ∨
      '\n' ∈ (written ++ '\n' :: rest).take place := by
  rcases Nat.lt_trichotomy written.length place with before | here | after
  · right
    rw [List.take_append]
    apply List.mem_append_right
    obtain ⟨more, count⟩ := Nat.exists_eq_add_of_lt before
    have left : place - written.length = more + 1 := by omega
    rw [left, List.take_succ_cons]
    exact List.mem_cons_self
  · left
    rw [← here, List.getElem?_append_right (Nat.le_refl _), Nat.sub_self]
    simpa using noLine.symm
  · left
    rw [List.getElem?_append_left after]
    intro found
    have digit := areDigits mark (List.mem_of_getElem? found)
    rw [noDigit] at digit
    cases digit

/-- No date and no time begins with digits that end their line. -/
theorem moment_digits {written : List Char} (areDigits : ∀ c ∈ written, c.isDigit = true)
    (rest : List Char) : moment (written ++ '\n' :: rest) = none := by
  have noDate : date? (written ++ '\n' :: rest) = none := by
    rcases digits_getElem? areDigits rest 4 '-' rfl (by decide) with mark | ended
    · exact date?_of_mark mark
    · exact date?_of_year ended rfl
  have noTime : time? (written ++ '\n' :: rest) = none := by
    rcases digits_getElem? areDigits rest 2 ':' rfl (by decide) with mark | ended
    · exact time?_of_mark mark
    · exact time?_of_hour ended rfl
  simp [moment, afterMoment?, noDate, noTime]

/-- A natural number below the bound is a datum of its own value. -/
theorem signedDatum?_ofNat {value : Nat} (small : (value : Int) < integerBound) :
    signedDatum? value = some (.integer value) := by
  have least : -integerBound ≤ (value : Int) := le_trans (by decide) (Int.natCast_nonneg value)
  unfold signedDatum?
  rw [if_pos]
  rw [Bool.and_eq_true, decide_eq_true_eq, decide_eq_true_eq]
  exact ⟨least, small⟩

/-- The digits of a number are read up to the end of the line. -/
theorem wholeDigits_toDigits (value : Nat) (rest : List Char) :
    wholeDigits (Nat.toDigits 10 value ++ '\n' :: rest) =
      some (Nat.toDigits 10 value, '\n' :: rest) := by
  have areDigits : ∀ c ∈ Nat.toDigits 10 value, c.isDigit = true :=
    fun c => Text.isDigit_of_mem_toDigits
  have read := digits_append areDigits Nat.toDigits_ne_nil rest
  rw [wholeDigits, read]
  rcases Text.toDigits_cases value with zero | ⟨first, later, digits, nonzero⟩
  · simp [zero]
  · simp [digits, nonzero]

/-- Whole digits that end their line are read as an integer. -/
theorem unsignedNumber_of_wholeDigits {text written rest : List Char} {datum : Datum}
    (begins : ∀ c ∈ text.head?, c.isDigit = true)
    (whole : wholeDigits text = some (written, '\n' :: rest))
    (fits : signedDatum? (Nat.ofDigitChars 10 written 0) = some datum) :
    unsignedNumber false text = some (datum, '\n' :: rest) := by
  unfold unsignedNumber
  split
  · exact absurd (begins 'i' rfl) (by decide)
  · exact absurd (begins 'n' rfl) (by decide)
  · have noFraction : fractionDigits ('\n' :: rest) = some (none, '\n' :: rest) := rfl
    have noExponent : exponentPart ('\n' :: rest) = some (none, '\n' :: rest) := rfl
    -- one part after the other: the bounds of integers are not to be computed with
    have isWhole : ((none : Option (List Char)).isNone && (none : Option Int).isNone) = true := rfl
    rw [whole, Option.bind_eq_bind, Option.bind_some]
    dsimp only
    rw [noFraction, Option.bind_eq_bind, Option.bind_some]
    dsimp only
    rw [noExponent, Option.bind_eq_bind, Option.bind_some]
    dsimp only
    rw [if_pos isWhole, if_neg Bool.false_ne_true, fits, Option.bind_eq_bind, Option.bind_some,
      Option.pure_def]

/-- The digits of a number below the bound are read as that number. -/
theorem unsignedNumber_digits {value : Nat} (small : (value : Int) < integerBound)
    (rest : List Char) :
    unsignedNumber false (Nat.toDigits 10 value ++ '\n' :: rest) =
      some (.integer value, '\n' :: rest) := by
  have whole := wholeDigits_toDigits value rest
  have fits : signedDatum? (Nat.ofDigitChars 10 (Nat.toDigits 10 value) 0) =
      some (.integer value) := by
    rw [Nat.ofDigitChars_ten_toDigits]
    exact signedDatum?_ofNat small
  apply unsignedNumber_of_wholeDigits _ whole fits
  intro c head
  rw [List.head?_append, List.head?_eq_some_head Nat.toDigits_ne_nil] at head
  cases head
  exact Text.isDigit_of_mem_toDigits (List.head_mem _)

/-- A number without a sign is read as its value. -/
theorem number_digits {value : Nat} (small : (value : Int) < integerBound) (rest : List Char) :
    number (Nat.toDigits 10 value ++ '\n' :: rest) = some (.integer value, '\n' :: rest) := by
  have read := unsignedNumber_digits small rest
  rcases Text.toDigits_cases value with zero | ⟨first, later, digits, nonzero⟩
  · rw [zero] at read ⊢
    exact read
  · have digit : first.isDigit = true :=
      Text.isDigit_of_mem_toDigits (digits ▸ List.mem_cons_self)
    have notMinus : first ≠ '-' := fun minus => absurd (minus ▸ digit) (by decide)
    have notPlus : first ≠ '+' := fun plus => absurd (plus ▸ digit) (by decide)
    rw [digits, List.cons_append] at read ⊢
    simp [number, nonzero, sign, notMinus, notPlus, read]

/-- The digits of a number of 63 bits show the number. -/
theorem shows_natural {value : Nat} (small : (value : Int) < integerBound) :
    Shows (Nat.toDigits 10 value) (.integer value) := by
  have areDigits : ∀ c ∈ Nat.toDigits 10 value, c.isDigit = true :=
    fun c => Text.isDigit_of_mem_toDigits
  obtain ⟨first, later, digits⟩ : ∃ first later, Nat.toDigits 10 value = first :: later :=
    List.exists_cons_of_ne_nil Nat.toDigits_ne_nil
  have digit : first.isDigit = true := areDigits first (digits ▸ List.mem_cons_self)
  have other : ∀ c, c.isDigit = false → first ≠ c := by
    rintro c noDigit rfl
    rw [digit] at noDigit
    cases noDigit
  refine ⟨fun rest => ?_, fun rest => ?_⟩
  · rw [digits]
    apply dropBlanks_cons
    simp [isBlank, other ' ' rfl, other '\t' rfl]
  · have noMoment := moment_digits areDigits rest
    have read := number_digits small rest
    rw [digits, List.cons_append] at noMoment read ⊢
    rw [value_eq_scalar (other '[' rfl) (other '{' rfl)]
    unfold scalar
    split
    · rename_i same
      exact absurd (List.cons.inj same).1 (other 't' rfl)
    · rename_i same
      exact absurd (List.cons.inj same).1 (other 'f' rfl)
    · rename_i same
      exact absurd (List.cons.inj same).1 (other '"' rfl)
    · rename_i same
      exact absurd (List.cons.inj same).1 (other '\'' rfl)
    · rw [noMoment, read]
      rfl

end MicroDevice.Toml
