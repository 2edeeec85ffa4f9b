import MicroDevice.Json.Token
import MicroDevice.Json.Writer
import MicroDevice.Proofs.Text.Digits

/-! # The tokens of written values

A written value is read as its tokens, whatever is written around it
(`Tree.tokensFrom_textAt`). What follows a value is a comma, a new line, or nothing; this is
what ends a numeral.
-/

namespace MicroDevice.Json

/-- The numeral that a natural number is written as. -/
def Numeral.ofNat (value : Nat) : Numeral :=
  ⟨false, Nat.toDigits 10 value, none, none⟩

mutual

/-- The tokens of a value. -/
def Tree.tokens : Tree → List Token
  | .natural value => [.numeral (.ofNat value)]
  | .boolean value => [.boolean value]
  | .string text => [.string (text.toList.map .scalar)]
  | .array [] => [.openBracket, .closeBracket]
  | .array (item :: later) =>
      .openBracket :: item.tokens ++ itemsTokens later ++ [.closeBracket]
  | .object [] => [.openBrace, .closeBrace]
  | .object ((name, value) :: later) =>
      .openBrace :: .string (name.toList.map .scalar) :: .colon :: value.tokens ++
        membersTokens later ++ [.closeBrace]

/-- The tokens of the items after the first. -/
def itemsTokens : List Tree → List Token
  | [] => []
  | item :: later => .comma :: item.tokens ++ itemsTokens later

/-- The tokens of the members after the first. -/
def membersTokens : List (String × Tree) → List Token
  | [] => []
  | (name, value) :: later =>
      .comma :: .string (name.toList.map .scalar) :: .colon :: value.tokens ++
        membersTokens later

end

/-! ## Strings -/

/-- A code of two zeros and two more digits stands for its character. -/
theorem tokensFrom_code (pieces : List Piece) {high low : Char} {left right : Nat}
    (highDigit : Text.hexDigit? high = some left) (lowDigit : Text.hexDigit? low = some right)
    (rest : List Char) :
    tokensFrom (.string pieces) ('\\' :: 'u' :: '0' :: '0' :: high :: low :: rest) =
      tokensFrom (.string (Piece.ofCode (left * 16 + right) :: pieces)) rest := by
  have zero := Text.hexDigit?_zero
  simp [tokensFrom, Mode.step, highDigit, lowDigit, zero, Text.hexValue]

theorem Piece.ofCode_toNat {c : Char} (low : c.toNat < 0xD800) : ofCode c.toNat = .scalar c := by
  have outside : ¬ 0xD800 ≤ c.toNat := by omega
  simp [ofCode, outside]

/-- A character of a string is read back, escaped or not. -/
theorem tokensFrom_escapedChar (pieces : List Piece) (c : Char) (rest : List Char) :
    tokensFrom (.string pieces) (escapedChar c ++ rest) =
      tokensFrom (.string (.scalar c :: pieces)) rest := by
  by_cases special : c = '"' ∨ c = '\\' ∨ c = '\x08' ∨ c = '\x0c' ∨ c = '\n' ∨ c = '\r' ∨ c = '\t'
  · rcases special with rfl | rfl | rfl | rfl | rfl | rfl | rfl <;> rfl
  · simp only [not_or] at special
    obtain ⟨quote, backslash, backspace, feed, newline, turn, tab⟩ := special
    simp only [escapedChar, quote, backslash, backspace, feed, newline, turn, tab, ↓reduceIte]
    split
    · rename_i small
      have digit := Text.hexDigit?_digitChar c.toNat small
      have code := tokensFrom_code pieces Text.hexDigit?_zero digit rest
      rw [Nat.zero_mul, Nat.zero_add, Piece.ofCode_toNat (by omega)] at code
      exact code
    · split
      · rename_i large small
        have digit := Text.hexDigit?_digitChar (c.toNat - 0x10) (by omega)
        have code := tokensFrom_code pieces Text.hexDigit?_one digit rest
        have value : 1 * 16 + (c.toNat - 0x10) = c.toNat := by omega
        rw [value, Piece.ofCode_toNat (by omega)] at code
        exact code
      · rename_i large
        simp [tokensFrom, Mode.step, quote, backslash, large]

/-- Escaped characters are read back up to the closing quote. -/
theorem tokensFrom_escaped (pieces : List Piece) (chars rest : List Char) :
    tokensFrom (.string pieces) (chars.flatMap escapedChar ++ '"' :: rest) =
      .string (pieces.reverse ++ chars.map .scalar) :: tokensFrom .between rest := by
  induction chars generalizing pieces with
  | nil => simp [tokensFrom, Mode.step]
  | cons c later ih =>
      rw [List.flatMap_cons, List.append_assoc, tokensFrom_escapedChar, ih]
      simp

/-- A written string is read as one token of its characters. -/
theorem tokensFrom_stringText (text : String) (rest : List Char) :
    tokensFrom .between (stringText text ++ rest) =
      .string (text.toList.map .scalar) :: tokensFrom .between rest := by
  have body := tokensFrom_escaped [] text.toList rest
  simpa [stringText, tokensFrom, Mode.step, Mode.start] using body

/-! ## Blanks and numerals -/

/-- The line breaks and the indentation of a rendering add no token. -/
theorem tokensFrom_newLine (depth : Nat) (rest : List Char) :
    tokensFrom .between (newLine depth ++ rest) = tokensFrom .between rest := by
  have blanks : ∀ count, tokensFrom .between (List.replicate count ' ' ++ rest) =
      tokensFrom .between rest := by
    intro count
    induction count with
    | zero => rfl
    | succ count ih =>
        rw [List.replicate_succ, List.cons_append]
        simpa [tokensFrom, Mode.step, Mode.start, Mode.isSpace] using ih
  simpa [newLine, tokensFrom, Mode.step, Mode.start, Mode.isSpace] using blanks (2 * depth)

/-- What may follow a written value: nothing, a comma or a new line. -/
def EndsValue (rest : List Char) : Prop :=
  ∀ c ∈ rest.head?, c = ',' ∨ c = '\n'

theorem endsValue_nil : EndsValue [] := by
  simp [EndsValue]

theorem endsValue_comma (rest : List Char) : EndsValue (',' :: rest) := by
  simp [EndsValue]

theorem endsValue_newLine (depth : Nat) (rest : List Char) :
    EndsValue (newLine depth ++ rest) := by
  simp [EndsValue, newLine]

/-- The scan of a natural number of which some digits were read. -/
def wholeScan (stage : Stage) (digits : List Char) : Scan :=
  ⟨stage, ⟨false, digits, none, none⟩⟩

/-- A natural number ends where a value may end. -/
theorem tokensFrom_ends {stage : Stage} (complete : stage = .zero ∨ stage = .whole)
    (digits : List Char) {rest : List Char} (ends : EndsValue rest) :
    tokensFrom (.numeral (wholeScan stage digits)) rest =
      .numeral ⟨false, digits, none, none⟩ :: tokensFrom .between rest := by
  cases rest with
  | nil => rcases complete with rfl | rfl <;> rfl
  | cons c later =>
      have ending : c = ',' ∨ c = '\n' := ends c rfl
      rcases complete with rfl | rfl <;> rcases ending with rfl | rfl <;> rfl

/-- Digits are read to their end, which the text after them marks. -/
theorem tokensFrom_digits (front digits : List Char) (areDigits : ∀ c ∈ digits, c.isDigit = true)
    {rest : List Char} (ends : EndsValue rest) :
    tokensFrom (.numeral (wholeScan .whole front)) (digits ++ rest) =
      .numeral ⟨false, front ++ digits, none, none⟩ :: tokensFrom .between rest := by
  induction digits generalizing front with
  | nil =>
      rw [List.nil_append, List.append_nil]
      exact tokensFrom_ends (Or.inr rfl) front ends
  | cons c later ih =>
      have digit := areDigits c List.mem_cons_self
      have next := ih (front ++ [c]) fun other member =>
        areDigits other (List.mem_cons_of_mem c member)
      rw [List.append_assoc, List.singleton_append] at next
      rw [List.cons_append, ← next]
      simp [tokensFrom, Mode.step, Scan.push, Scan.pushDigit, wholeScan, digit]

/-- A digit between tokens begins a numeral. -/
theorem Mode.start_digit {c : Char} (digit : c.isDigit = true) :
    start c = ⟨[], (Scan.begin? c).map .numeral⟩ := by
  have notSpace : isSpace c = false := by
    simp only [isSpace, Bool.or_eq_false_iff, decide_eq_false_iff_not]
    refine ⟨⟨⟨?_, ?_⟩, ?_⟩, ?_⟩ <;> rintro rfl <;> simp at digit
  unfold start
  split <;> first
    | simp at digit
    | rw [notSpace]; rfl

/-- A written natural number is read as its numeral. -/
theorem tokensFrom_natural (value : Nat) {rest : List Char} (ends : EndsValue rest) :
    tokensFrom .between (Nat.toDigits 10 value ++ rest) =
      .numeral (.ofNat value) :: tokensFrom .between rest := by
  rw [Numeral.ofNat]
  rcases Text.toDigits_cases value with zero | ⟨first, later, digits, nonzero⟩
  · rw [zero]
    exact tokensFrom_ends (Or.inl rfl) ['0'] ends
  · have areDigits : ∀ c ∈ first :: later, c.isDigit = true := by
      rw [← digits]
      exact fun c => Text.isDigit_of_mem_toDigits
    have digit := areDigits first List.mem_cons_self
    have further := tokensFrom_digits [first] later
      (fun c member => areDigits c (List.mem_cons_of_mem first member)) ends
    have notMinus : first ≠ '-' := by
      rintro rfl
      simp at digit
    have begins : Scan.begin? first = some (wholeScan .whole [first]) := by
      simp [Scan.begin?, wholeScan, nonzero, notMinus, digit]
    rw [List.singleton_append] at further
    rw [digits, List.cons_append, ← further]
    simp [tokensFrom, Mode.step, Mode.start_digit digit, begins]

/-! ## Values -/

/-- A written truth value is read as its token. -/
theorem tokensFrom_boolean (value : Bool) (rest : List Char) :
    tokensFrom .between ((if value then "true".toList else "false".toList) ++ rest) =
      .boolean value :: tokensFrom .between rest := by
  cases value <;> rfl

theorem tokensFrom_mark {c : Char} (token : Token)
    (mark : Mode.start c = ⟨[token], some .between⟩) (rest : List Char) :
    tokensFrom .between (c :: rest) = token :: tokensFrom .between rest := by
  simp [tokensFrom, Mode.step, mark]

/-- The name of a member and what divides it from its value. -/
theorem tokensFrom_name (name : String) (rest : List Char) :
    tokensFrom .between (stringText name ++ ':' :: ' ' :: rest) =
      .string (name.toList.map .scalar) :: .colon :: tokensFrom .between rest := by
  rw [tokensFrom_stringText, tokensFrom_mark .colon rfl]
  rfl

/-- The further items of an array may follow a value. -/
theorem endsValue_itemsText (depth : Nat) (items : List Tree) {rest : List Char}
    (ends : EndsValue rest) : EndsValue (itemsText depth items ++ rest) := by
  cases items with
  | nil => simpa [itemsText] using ends
  | cons item later => exact endsValue_comma _

theorem endsValue_membersText (depth : Nat) (members : List (String × Tree)) {rest : List Char}
    (ends : EndsValue rest) : EndsValue (membersText depth members ++ rest) := by
  cases members with
  | nil => simpa [membersText] using ends
  | cons member later => exact endsValue_comma _

mutual

/-- A written value is read as its tokens. -/
theorem Tree.tokensFrom_textAt (depth : Nat) (tree : Tree) {rest : List Char}
    (ends : EndsValue rest) :
    tokensFrom .between (tree.textAt depth ++ rest) = tree.tokens ++ tokensFrom .between rest := by
  match tree with
  | .natural value => exact tokensFrom_natural value ends
  | .boolean value => exact tokensFrom_boolean value rest
  | .string text => exact tokensFrom_stringText text rest
  | .array [] => rfl
  | .array (item :: later) =>
      have closes := endsValue_newLine depth (']' :: rest)
      have first := item.tokensFrom_textAt (depth + 1)
        (endsValue_itemsText (depth + 1) later closes)
      have others := tokensFrom_itemsText (depth + 1) later closes
      simp only [Tree.textAt, Tree.tokens, List.cons_append, List.append_assoc, List.nil_append]
      rw [tokensFrom_mark .openBracket rfl, tokensFrom_newLine, first, others,
        tokensFrom_newLine, tokensFrom_mark .closeBracket rfl]
  | .object [] => rfl
  | .object ((name, value) :: later) =>
      have closes := endsValue_newLine depth ('}' :: rest)
      have first := value.tokensFrom_textAt (depth + 1)
        (endsValue_membersText (depth + 1) later closes)
      have others := tokensFrom_membersText (depth + 1) later closes
      simp only [Tree.textAt, Tree.tokens, List.cons_append, List.append_assoc, List.nil_append]
      rw [tokensFrom_mark .openBrace rfl, tokensFrom_newLine, tokensFrom_name, first,
        others, tokensFrom_newLine, tokensFrom_mark .closeBrace rfl]

/-- The text of further items is read as their tokens. -/
theorem tokensFrom_itemsText (depth : Nat) (items : List Tree) {rest : List Char}
    (ends : EndsValue rest) :
    tokensFrom .between (itemsText depth items ++ rest) =
      itemsTokens items ++ tokensFrom .between rest := by
  match items with
  | [] => rfl
  | item :: later =>
      have first := item.tokensFrom_textAt depth (endsValue_itemsText depth later ends)
      have others := tokensFrom_itemsText depth later ends
      simp only [itemsText, itemsTokens, List.cons_append, List.append_assoc]
      rw [tokensFrom_mark .comma rfl, tokensFrom_newLine, first, others]

/-- The text of further members is read as their tokens. -/
theorem tokensFrom_membersText (depth : Nat) (members : List (String × Tree)) {rest : List Char}
    (ends : EndsValue rest) :
    tokensFrom .between (membersText depth members ++ rest) =
      membersTokens members ++ tokensFrom .between rest := by
  match members with
  | [] => rfl
  | (name, value) :: later =>
      have first := value.tokensFrom_textAt depth (endsValue_membersText depth later ends)
      have others := tokensFrom_membersText depth later ends
      simp only [membersText, membersTokens, List.cons_append, List.append_assoc]
      rw [tokensFrom_mark .comma rfl, tokensFrom_newLine, tokensFrom_name, first,
        others]

end

/-- The tokens of the text of a value. -/
theorem Tree.tokens_render (tree : Tree) : Json.tokens tree.render = tree.tokens := by
  have written := tree.tokensFrom_textAt 0 endsValue_nil
  rw [List.append_nil] at written
  rw [Json.tokens, render, String.toList_ofList, written]
  exact List.append_nil tree.tokens

/-- The end of a line after a value is no token. -/
theorem Tree.tokens_render_line (tree : Tree) :
    Json.tokens (tree.render ++ "\n") = tree.tokens := by
  have written := tree.tokensFrom_textAt 0 (endsValue_newLine 0 [])
  rw [tokensFrom_newLine] at written
  rw [Json.tokens, render, String.toList_append, String.toList_ofList]
  exact written.trans (List.append_nil tree.tokens)

end MicroDevice.Json
