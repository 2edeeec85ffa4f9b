import MicroDevice.Proofs.Text.Digits
import MicroDevice.Toml.Quoted
import MicroDevice.Toml.Writer

/-! # Strings that are read back

A string that ends its line is read as the characters it was written for, in whatever form it
was written (`string_stringText`). The forms of one line never show their own quote. In the
forms of several lines quotes may stand next to the closing delimiter: of a run of quotes at
most two are shown, so that a run of three to five is the end of the string (`EndsRun`).
-/

namespace MicroDevice.Toml

/-! ## Characters between double quotes -/

/-- What a reader of strings between double quotes makes of the characters other than quotes. -/
structure ReadsEscapes (isLong : Bool) (read : List Char → Reading) : Prop where
  plain : ∀ {c}, isPlain c = true → c ≠ '"' → c ≠ '\\' →
    ∀ rest, read (c :: rest) = (read rest).cons c
  lineFeed : isLong = true → ∀ rest, read ('\n' :: rest) = (read rest).cons '\n'
  escape : ∀ mark {c}, escaped? mark = some c →
    ∀ rest, read ('\\' :: mark :: rest) = (read rest).cons c
  code : ∀ {high low left right c}, Text.hexDigit? high = some left →
    Text.hexDigit? low = some right → left * 16 + right = c.toNat → c.toNat < 0xD800 →
      ∀ rest, read ('\\' :: 'u' :: '0' :: '0' :: high :: low :: rest) = (read rest).cons c

theorem character?_toNat {c : Char} (small : c.toNat < 0xD800) : character? c.toNat = some c := by
  simp [character?, small]

/-- The reader of basic strings undoes every escape. -/
theorem reads_basicFrom : ReadsEscapes false (basicFrom .none) where
  plain isPlain quote backslash rest := by simp [basicFrom, isPlain, quote, backslash]
  lineFeed impossible := by cases impossible
  escape _ _ escaped rest := by simp [basicFrom, escaped]
  code highDigit lowDigit value small rest := by
    have zero := Text.hexDigit?_zero
    have character := character?_toNat small
    simp [basicFrom, escaped?, codeLength?, zero, highDigit, lowDigit, value, character]

/-- The reader of basic strings of several lines undoes every escape and takes line feeds. -/
theorem reads_longBasicFrom : ReadsEscapes true (longBasicFrom .none) where
  plain isPlain quote backslash rest := by
    simp [longBasicFrom, Escape.settle, closing?, isPlain, quote, backslash]
  lineFeed _ rest := by simp [longBasicFrom, Escape.settle, closing?]
  escape _ _ escaped rest := by simp [longBasicFrom, Escape.settle, closing?, escaped]
  code highDigit lowDigit value small rest := by
    have zero := Text.hexDigit?_zero
    have character := character?_toNat small
    simp [longBasicFrom, Escape.settle, closing?, escaped?, codeLength?, zero, highDigit,
      lowDigit, value, character]

/-- A character other than a quote is read back, escaped or not. -/
theorem ReadsEscapes.escapedChar {isLong : Bool} {read : List Char → Reading}
    (reads : ReadsEscapes isLong read) {c : Char} (quote : c ≠ '"') (rest : List Char) :
    read (Toml.escapedChar isLong c ++ rest) = (read rest).cons c := by
  by_cases special : c = '\x08' ∨ c = '\t' ∨ c = '\x0c' ∨ c = '\r' ∨ c = '\\'
  · rcases special with rfl | rfl | rfl | rfl | rfl <;> exact reads.escape _ rfl rest
  · by_cases newline : c = '\n'
    · subst newline
      cases isLong with
      | true => exact reads.lineFeed rfl rest
      | false => exact reads.escape _ rfl rest
    · simp only [not_or] at special
      obtain ⟨backspace, tab, feed, turn, backslash⟩ := special
      simp only [Toml.escapedChar, backspace, tab, newline, feed, turn, backslash, ↓reduceIte]
      by_cases digit : c.toNat < 0x10
      · have low := Text.hexDigit?_toUpper c.toNat digit
        rw [if_pos digit]
        exact reads.code Text.hexDigit?_zero low (by omega) (by omega) rest
      · by_cases control : c.toNat < 0x20
        · have low := Text.hexDigit?_toUpper (c.toNat - 0x10) (by omega)
          rw [if_neg digit, if_pos control]
          exact reads.code Text.hexDigit?_one low (by omega) (by omega) rest
        · by_cases delete : c.toNat = 0x7F
          · have seven := Text.hexDigit?_digitChar 7 (by decide)
            have fifteen := Text.hexDigit?_toUpper 15 (by decide)
            rw [if_neg digit, if_neg control, if_pos delete]
            exact reads.code seven fifteen (by omega) (by omega) rest
          · have plain : isPlain c = true := by
              simp [isPlain, delete]
              omega
            rw [if_neg digit, if_neg control, if_neg delete]
            exact reads.plain plain quote backslash rest

/-- A character is escaped, or it stands for itself. -/
theorem escapedChar_cases (isLong : Bool) (c : Char) :
    (∃ later, escapedChar isLong c = '\\' :: later) ∨ (escapedChar isLong c = [c] ∧ c ≠ '\r') := by
  by_cases turn : c = '\r'
  · left
    rw [turn]
    exact ⟨['r'], rfl⟩
  · by_cases newline : c = '\n'
    · subst newline
      cases isLong with
      | true => exact Or.inr ⟨rfl, turn⟩
      | false => exact Or.inl ⟨['n'], rfl⟩
    · unfold escapedChar
      repeat' split
      all_goals first
        | exact Or.inl ⟨_, rfl⟩
        | exact Or.inr ⟨rfl, turn⟩

/-- The escape of a character does not begin with a quote. -/
theorem head_escapedChar (isLong : Bool) {c : Char} (quote : c ≠ '"') :
    ∃ first later, escapedChar isLong c = first :: later ∧ first ≠ '"' := by
  rcases escapedChar_cases isLong c with ⟨later, escape⟩ | ⟨plain, -⟩
  · exact ⟨'\\', later, escape, by decide⟩
  · exact ⟨c, [], plain, quote⟩

/-! ## Strings of one line -/

/-- A string between double quotes on one line escapes every quote in it. -/
theorem basicFrom_basicBody (chars rest : List Char) :
    basicFrom .none (basicBody false 0 0 chars ++ '"' :: rest) = some (chars, rest) := by
  induction chars with
  | nil => simp [basicBody, basicFrom]
  | cons c later ih =>
      by_cases quote : c = '"'
      · subst quote
        have escape := reads_basicFrom.escape '"' rfl
          (basicBody false 0 0 later ++ '"' :: rest)
        simp only [basicBody, ↓reduceIte, Nat.lt_irrefl, List.cons_append]
        rw [escape, ih]
        rfl
      · have character := reads_basicFrom.escapedChar quote
          (basicBody false 0 0 later ++ '"' :: rest)
        rw [basicBody, if_neg quote, List.append_assoc, character, ih]
        rfl

/-- Once the allowed quotes are used up, nothing written begins with a bare quote. -/
theorem head_basicBody (isLong : Bool) {allowed run : Nat} (used : allowed ≤ run) (c : Char)
    (later : List Char) :
    ∃ first further, basicBody isLong allowed run (c :: later) = first :: further ∧
      first ≠ '"' := by
  rw [basicBody]
  by_cases quote : c = '"'
  · rw [if_pos quote, if_neg (Nat.not_lt.mpr used)]
    exact ⟨_, _, rfl, by decide⟩
  · obtain ⟨first, further, escape, differs⟩ := head_escapedChar isLong quote
    rw [if_neg quote, escape]
    exact ⟨_, _, rfl, differs⟩

/-- A literal string is read up to its closing quote. -/
theorem literal_append {chars : List Char}
    (plain : ∀ c ∈ chars, isPlain c = true ∧ c ≠ '\'') (rest : List Char) :
    literal (chars ++ '\'' :: rest) = some (chars, rest) := by
  induction chars with
  | nil => simp [literal]
  | cons c later ih =>
      obtain ⟨isPlain, noQuote⟩ := plain c List.mem_cons_self
      have following := ih fun other member => plain other (List.mem_cons_of_mem c member)
      simp [literal, isPlain, noQuote, following, Reading.cons]

/-! ## Strings of several lines -/

/-- The number of quotes that a text begins with. -/
def leading (quote : Char) (text : List Char) : Nat :=
  (text.takeWhile (· = quote)).length

theorem leading_cons_self (quote : Char) (text : List Char) :
    leading quote (quote :: text) = leading quote text + 1 := by
  simp [leading]

theorem leading_cons_ne {quote c : Char} (differs : c ≠ quote) (text : List Char) :
    leading quote (c :: text) = 0 := by
  simp [leading, differs]

/-- The quotes among the first characters of a text are its leading ones, cut off at the count. -/
theorem takeWhile_take (quote : Char) (text : List Char) (count : Nat) :
    (text.take count).takeWhile (· = quote) =
      List.replicate (min count (leading quote text)) quote := by
  induction text generalizing count with
  | nil => simp [leading]
  | cons c later ih =>
      cases count with
      | zero => simp
      | succ count =>
          by_cases same : c = quote
          · subst same
            simp [leading_cons_self, ih, List.replicate_succ]
          · simp [leading_cons_ne same, same]

/-- The end of a string is a run of at least three quotes, of which the last three of the first
five close it. -/
theorem closing?_eq (quote : Char) (text : List Char) :
    closing? quote text =
      if 3 ≤ leading quote text then
        some (List.replicate (min 5 (leading quote text) - 3) quote,
          text.drop (min 5 (leading quote text)))
      else none := by
  have run := takeWhile_take quote text 5
  unfold closing?
  dsimp only
  rw [run, List.length_replicate, List.drop_replicate]
  by_cases closes : 3 ≤ leading quote text
  · rw [if_pos closes, if_pos (by omega)]
  · rw [if_neg closes, if_neg (by omega)]

/-- At most two quotes in a row close no string of several lines. -/
theorem closing?_of_leading {quote : Char} {text : List Char} (few : leading quote text ≤ 2) :
    closing? quote text = none := by
  rw [closing?_eq, if_neg (by omega)]

/-- A quote before the end of a string belongs to the string, as long as the run has no more than
five of them. -/
theorem closing?_cons {quote : Char} {text : List Char} {chars rest : List Char}
    (few : leading quote text ≤ 4) (closes : closing? quote text = some (chars, rest)) :
    closing? quote (quote :: text) = some (quote :: chars, rest) := by
  rw [closing?_eq] at closes ⊢
  split at closes
  · rename_i run
    have bound : min 5 (leading quote text) = leading quote text := by omega
    have longer : min 5 (leading quote text + 1) = leading quote text + 1 := by omega
    have further : leading quote text + 1 - 3 = leading quote text - 3 + 1 := by omega
    rw [bound] at closes
    cases closes
    rw [leading_cons_self, if_pos (by omega), longer, further, List.replicate_succ,
      List.drop_succ_cons]
  · cases closes

/-- The delimiter that ends a string and its line. -/
def ending (quote : Char) (rest : List Char) : List Char :=
  quote :: quote :: quote :: '\n' :: rest

/-- A text after some quotes shows at most two of them in a row, those before it included,
unless it is at its end. -/
def EndsRun (quote : Char) (run : Nat) (text : List Char) : Prop :=
  leading quote text + run ≤ 2 ∨ (3 ≤ leading quote text ∧ leading quote text + run ≤ 5)

theorem leading_ending {quote : Char} (notLine : quote ≠ '\n') (rest : List Char) :
    leading quote (ending quote rest) = 3 := by
  simp [ending, leading_cons_self, leading_cons_ne notLine.symm]

/-- An ending closes its string with nothing more in it. -/
theorem closing?_ending {quote : Char} (notLine : quote ≠ '\n') (rest : List Char) :
    closing? quote (ending quote rest) = some ([], '\n' :: rest) := by
  rw [closing?_eq, leading_ending notLine]
  rfl

/-- At most two quotes may stand before an ending. -/
theorem endsRun_ending {quote : Char} (notLine : quote ≠ '\n') {run : Nat} (few : run ≤ 2)
    (rest : List Char) : EndsRun quote run (ending quote rest) := by
  rw [EndsRun, leading_ending notLine]
  omega

theorem EndsRun.cons {quote : Char} {run : Nat} {text : List Char}
    (ends : EndsRun quote (run + 1) text) : EndsRun quote run (quote :: text) := by
  rw [EndsRun, leading_cons_self]
  rw [EndsRun] at ends
  omega

/-- A character other than the quote ends every short run. -/
theorem endsRun_cons_ne {quote c : Char} (differs : c ≠ quote) {run : Nat} (few : run ≤ 2)
    (text : List Char) : EndsRun quote run (c :: text) := by
  rw [EndsRun, leading_cons_ne differs]
  omega

/-- What a reader of strings of several lines does about quotes: it ends where they end the
string, and otherwise takes them. -/
structure ReadsQuotes (quote : Char) (read : List Char → Reading) : Prop where
  ends : ∀ {text reading}, closing? quote text = some reading → read text = some reading
  takes : ∀ {text}, closing? quote (quote :: text) = none →
    read (quote :: text) = (read text).cons quote

/-- A quote that is shown is read back. -/
theorem ReadsQuotes.cons {quote : Char} {read : List Char → Reading}
    (reads : ReadsQuotes quote read) {run : Nat} {text chars rest : List Char}
    (ends : EndsRun quote (run + 1) text) (following : read text = some (chars, rest)) :
    read (quote :: text) = some (quote :: chars, rest) := by
  rcases ends with few | ⟨closes, few⟩
  · have open_ : closing? quote (quote :: text) = none := by
      apply closing?_of_leading
      rw [leading_cons_self]
      omega
    rw [reads.takes open_, following]
    rfl
  · -- the text is at the end of the string, so the quote is one of the run that ends it
    have closed : closing? quote text = some (chars, rest) := by
      rcases found : closing? quote text with _ | reading
      · rw [closing?_eq, if_pos closes] at found
        cases found
      · rw [← reads.ends found, following]
    exact reads.ends (closing?_cons (by omega) closed)

/-- The reader of long basic strings ends at closing quotes and takes all others. -/
theorem readsQuotes_longBasicFrom : ReadsQuotes '"' (longBasicFrom .none) where
  ends {text reading} closes := by
    cases text with
    | nil => cases closes
    | cons c later => simp [longBasicFrom, Escape.settle, closes]
  takes {text} open_ := by
    simp [longBasicFrom, Escape.settle, open_, isPlain]

/-- The reader of long literal strings ends at its closing quotes and takes all others. -/
theorem readsQuotes_longLiteralFrom : ReadsQuotes '\'' longLiteralFrom where
  ends {text reading} closes := by
    cases text with
    | nil => cases closes
    | cons c later => simp [longLiteralFrom, closes]
  takes {text} open_ := by
    simp [longLiteralFrom, open_, isPlain]

/-- A long basic body never shows three quotes in a row before its end. -/
theorem endsRun_basicBody {run : Nat} (few : run ≤ 2) (chars rest : List Char) :
    EndsRun '"' run (basicBody true 2 run chars ++ ending '"' rest) := by
  induction chars generalizing run with
  | nil => exact endsRun_ending (by decide) few rest
  | cons c later ih =>
      by_cases allowed : run < 2
      · by_cases quote : c = '"'
        · rw [basicBody, if_pos quote, if_pos allowed]
          exact (ih (by omega)).cons
        · obtain ⟨first, further, escape, differs⟩ := head_escapedChar true quote
          rw [basicBody, if_neg quote, escape]
          exact endsRun_cons_ne differs few _
      · have used : 2 ≤ run := by omega
        obtain ⟨first, further, body, differs⟩ := head_basicBody true used c later
        rw [body]
        exact endsRun_cons_ne differs few _

/-- A string between three double quotes escapes every third quote of a run. -/
theorem longBasicFrom_basicBody {run : Nat} (few : run ≤ 2) (chars rest : List Char) :
    longBasicFrom .none (basicBody true 2 run chars ++ ending '"' rest) =
      some (chars, '\n' :: rest) := by
  induction chars generalizing run with
  | nil => exact readsQuotes_longBasicFrom.ends (closing?_ending (by decide) rest)
  | cons c later ih =>
      rw [basicBody]
      by_cases quote : c = '"'
      · subst quote
        rw [if_pos rfl]
        by_cases allowed : run < 2
        · rw [if_pos allowed]
          exact readsQuotes_longBasicFrom.cons
            (endsRun_basicBody (by omega) later rest) (ih (by omega))
        · have escape := reads_longBasicFrom.escape '"' rfl
            (basicBody true 2 0 later ++ ending '"' rest)
          rw [if_neg allowed, List.cons_append, List.cons_append, escape, ih (by omega)]
          rfl
      · have character := reads_longBasicFrom.escapedChar quote
          (basicBody true 2 0 later ++ ending '"' rest)
        rw [if_neg quote, List.append_assoc, character, ih (by omega)]
        rfl

/-- The longest run found so far only grows. -/
theorem le_longestRun (quote : Char) (run longest : Nat) (chars : List Char) :
    longest ≤ StringForm.longestRun quote run longest chars := by
  induction chars generalizing run longest with
  | nil => exact Nat.le_refl longest
  | cons c later ih =>
      rw [StringForm.longestRun]
      split
      · exact le_trans (Nat.le_max_left longest (run + 1)) (ih _ _)
      · exact ih _ _

/-- A text without three quotes in a row shows none before its ending. -/
theorem endsRun_chars {run longest : Nat} (few : run ≤ 2) {chars : List Char}
    (short : StringForm.longestRun '\'' run longest chars ≤ 2) (rest : List Char) :
    EndsRun '\'' run (chars ++ ending '\'' rest) := by
  induction chars generalizing run longest with
  | nil => exact endsRun_ending (by decide) few rest
  | cons c later ih =>
      rw [StringForm.longestRun] at short
      by_cases quote : c = '\''
      · rw [if_pos quote] at short
        have longer := le_longestRun '\'' (run + 1) (max longest (run + 1)) later
        rw [quote]
        exact (ih (by omega) short).cons
      · exact endsRun_cons_ne quote few _

/-- A string between three single quotes shows its characters as they are. -/
theorem longLiteralFrom_append {run longest : Nat} (few : run ≤ 2) {chars : List Char}
    (plain : ∀ c ∈ chars, c = '\n' ∨ isPlain c = true)
    (short : StringForm.longestRun '\'' run longest chars ≤ 2) (rest : List Char) :
    longLiteralFrom (chars ++ ending '\'' rest) = some (chars, '\n' :: rest) := by
  induction chars generalizing run longest with
  | nil => exact readsQuotes_longLiteralFrom.ends (closing?_ending (by decide) rest)
  | cons c later ih =>
      have others : ∀ other ∈ later, other = '\n' ∨ isPlain other = true :=
        fun other member => plain other (List.mem_cons_of_mem c member)
      rw [StringForm.longestRun] at short
      by_cases quote : c = '\''
      · subst quote
        rw [if_pos rfl] at short
        have longer := le_longestRun '\'' (run + 1) (max longest (run + 1)) later
        exact readsQuotes_longLiteralFrom.cons (endsRun_chars (by omega) short rest)
          (ih (by omega) others short)
      · rw [if_neg quote] at short
        have following := ih (Nat.zero_le 2) others short
        have open_ : closing? '\'' (c :: (later ++ ending '\'' rest)) = none := by
          apply closing?_of_leading
          rw [leading_cons_ne quote]
          omega
        have shown := plain c List.mem_cons_self
        rw [List.cons_append, longLiteralFrom, open_]
        simp [shown, following, Reading.cons]

/-! ## Forms -/

/-- The line end with which a string of several lines begins is no part of it. -/
theorem dropLineEnd_leading (hasLineEnd : Bool) (text : List Char)
    (other : hasLineEnd = false → ∀ c ∈ text.head?, c ≠ '\n' ∧ c ≠ '\r') :
    dropLineEnd ((if hasLineEnd then ['\n'] else []) ++ text) = text := by
  cases hasLineEnd with
  | true => rfl
  | false =>
      cases text with
      | nil => rfl
      | cons c later =>
          obtain ⟨lineFeed, turn⟩ := other rfl c rfl
          simp [dropLineEnd, lineEnd?, lineFeed, turn]

/-- A body without line feeds does not begin with a line break. -/
theorem head_longBody {chars : List Char} (noLine : chars.contains '\n' = false)
    (rest : List Char) :
    ∀ c ∈ (basicBody true 2 0 chars ++ ending '"' rest).head?, c ≠ '\n' ∧ c ≠ '\r' := by
  cases chars with
  | nil => simp [basicBody, ending]
  | cons c later =>
      have noFeed : c ≠ '\n' := by
        rintro rfl
        simp at noLine
      rw [basicBody]
      by_cases quote : c = '"'
      · simp [quote]
      · rw [if_neg quote]
        rcases escapedChar_cases true c with ⟨later, escape⟩ | ⟨plain, noReturn⟩
        · simp [escape]
        · simp [plain, noFeed, noReturn]

/-- A text written as a basic string is read back. -/
theorem string_basic (chars rest : List Char) :
    string (StringForm.basic.write chars ++ '\n' :: rest) = some (chars, '\n' :: rest) := by
  have body := basicFrom_basicBody chars ('\n' :: rest)
  have written : StringForm.basic.write chars ++ '\n' :: rest =
      '"' :: (basicBody false 0 0 chars ++ '"' :: '\n' :: rest) := by
    simp [StringForm.write, StringForm.delimiter, StringForm.isLong, StringForm.body]
  rw [written]
  cases chars with
  | nil => rfl
  | cons c later =>
      obtain ⟨first, further, begins, differs⟩ :=
        head_basicBody false (Nat.le_refl 0) c later
      rw [begins] at body ⊢
      simpa [string, basic, differs] using body

/-- A plain text without quotes that is written as a literal string is read back. -/
theorem string_literal {chars : List Char}
    (plain : ∀ c ∈ chars, isPlain c = true ∧ c ≠ '\'') (rest : List Char) :
    string (StringForm.literal.write chars ++ '\n' :: rest) = some (chars, '\n' :: rest) := by
  have body := literal_append plain ('\n' :: rest)
  have written : StringForm.literal.write chars ++ '\n' :: rest =
      '\'' :: (chars ++ '\'' :: '\n' :: rest) := by
    simp [StringForm.write, StringForm.delimiter, StringForm.isLong, StringForm.body]
  rw [written]
  cases chars with
  | nil => rfl
  | cons c later =>
      have differs := (plain c List.mem_cons_self).2
      simpa [string, differs] using body

/-- A text written as a basic string of several lines is read back. -/
theorem string_longBasic (chars rest : List Char) :
    string (StringForm.longBasic.write chars ++ '\n' :: rest) = some (chars, '\n' :: rest) := by
  have body := longBasicFrom_basicBody (Nat.zero_le 2) chars rest
  have begins := dropLineEnd_leading (chars.contains '\n')
    (basicBody true 2 0 chars ++ ending '"' rest) fun noLine => head_longBody noLine rest
  have written : StringForm.longBasic.write chars ++ '\n' :: rest =
      '"' :: '"' :: '"' :: ((if chars.contains '\n' then ['\n'] else []) ++
        (basicBody true 2 0 chars ++ ending '"' rest)) := by
    simp [StringForm.write, StringForm.delimiter, StringForm.isLong, StringForm.body, ending]
  rw [written, string, begins, body]

/-- A plain text without three quotes in a row that is written as a literal string of several lines
is read back. -/
theorem string_longLiteral {chars : List Char}
    (plain : ∀ c ∈ chars, c = '\n' ∨ isPlain c = true)
    (short : StringForm.longestRun '\'' 0 0 chars ≤ 2) (rest : List Char) :
    string (StringForm.longLiteral.write chars ++ '\n' :: rest) = some (chars, '\n' :: rest) := by
  have body := longLiteralFrom_append (Nat.zero_le 2) plain short rest
  have begins := dropLineEnd_leading (chars.contains '\n') (chars ++ ending '\'' rest)
    fun noLine c first => by
      cases chars with
      | nil =>
          cases first
          decide
      | cons _ later =>
          cases first
          have noFeed : c ≠ '\n' := by
            rintro rfl
            simp at noLine
          refine ⟨noFeed, ?_⟩
          rintro rfl
          simpa [isPlain] using plain _ List.mem_cons_self
  have written : StringForm.longLiteral.write chars ++ '\n' :: rest =
      '\'' :: '\'' :: '\'' :: ((if chars.contains '\n' then ['\n'] else []) ++
        (chars ++ ending '\'' rest)) := by
    simp [StringForm.write, StringForm.delimiter, StringForm.isLong, StringForm.body, ending]
  rw [written, string, begins, body]

/-- A character that needs no escape may stand in a string, unless it ends the line. -/
theorem isPlain_of_not_control {c : Char} (shown : StringForm.isControl c = false) :
    c = '\n' ∨ isPlain c = true := by
  by_cases lineFeed : c = '\n'
  · exact Or.inl lineFeed
  · by_cases tab : c = '\t'
    · subst tab
      exact Or.inr rfl
    · simp [StringForm.isControl, lineFeed, tab] at shown
      right
      simp [isPlain, tab, shown]

/-- A string that ends its line is read as the characters it was written for. -/
theorem string_stringText (text : String) (rest : List Char) :
    string (stringText text ++ '\n' :: rest) = some (text.toList, '\n' :: rest) := by
  rw [stringText]
  generalize text.toList = chars
  have shown (plain : chars.any StringForm.isControl = false) :
      ∀ c ∈ chars, c = '\n' ∨ isPlain c = true := by
    intro c member
    apply isPlain_of_not_control
    exact Bool.eq_false_iff.mpr fun control => by
      rw [List.any_eq_false] at plain
      exact plain c member control
  unfold StringForm.choose
  dsimp only
  split
  · exact string_basic chars rest
  · split
    · rename_i oneLine
      simp only [Bool.and_eq_true, Bool.not_eq_true', List.contains_eq_mem,
        decide_eq_false_iff_not] at oneLine
      obtain ⟨⟨plain, noQuote⟩, noLine⟩ := oneLine
      refine string_literal (fun c member => ⟨?_, fun quote => noQuote (quote ▸ member)⟩) rest
      exact (shown plain c member).resolve_left fun lineFeed => noLine (lineFeed ▸ member)
    · split
      · exact string_longBasic chars rest
      · split
        · rename_i fewQuotes
          simp only [Bool.and_eq_true, Bool.not_eq_true', decide_eq_true_eq] at fewQuotes
          exact string_longLiteral (shown fewQuotes.1) fewQuotes.2 rest
        · split
          · exact string_longBasic chars rest
          · exact string_basic chars rest

end MicroDevice.Toml
