import MicroDevice.Json.Token

/-! # Texts divided between tokens

The tokens of a text are those of its parts if it is divided where a token ends
(`tokensFrom_append`): a mark or a blank ends whatever token comes before it. Conversely a text
with a mark among its tokens is divided by that mark (`dividedBy_of_mark`).
-/

namespace MicroDevice.Json

/-- The tokens of one character that stand for themselves. -/
def Token.isMark : Token → Bool
  | openBrace | closeBrace | openBracket | closeBracket | colon | comma => true
  | _ => false

/-- The characters that end a token without being a part of it: the marks and the blanks. -/
def dividers : List Char :=
  ['{', '}', '[', ']', ':', ',', ' ', '\t', '\n', '\r']

/-- A text begins with a divider, or is empty. -/
def Divided (rest : List Char) : Prop :=
  ∀ c ∈ rest.head?, c ∈ dividers

/-- A text of blanks alone. -/
def Blank (chars : List Char) : Prop :=
  ∀ c ∈ chars, Mode.isSpace c = true

/-- The tokens are those of a text without a malformed place. -/
def Lexes (mode : Mode) (chars : List Char) : Prop :=
  .malformed ∉ tokensFrom mode chars

theorem mem_dividers_of_isSpace {c : Char} (blank : Mode.isSpace c = true) : c ∈ dividers := by
  simp only [Mode.isSpace, Bool.or_eq_true, decide_eq_true_eq] at blank
  rcases blank with ((rfl | rfl) | rfl) | rfl <;> decide

/-- A divider ends a complete numeral. -/
theorem Scan.push_divider {scan : Scan} {c : Char} (divides : c ∈ dividers)
    (complete : scan.isComplete = true) : scan.push c = .done := by
  obtain ⟨stage, numeral⟩ := scan
  simp only [dividers, List.mem_cons, List.not_mem_nil, or_false] at divides
  cases stage <;> first
    | rcases divides with rfl | rfl | rfl | rfl | rfl | rfl | rfl | rfl | rfl | rfl <;> rfl
    | cases complete

/-- The tokens of a text are those of its first character's step and those of the rest. -/
theorem tokensFrom_cons (mode : Mode) (c : Char) (later : List Char) :
    tokensFrom mode (c :: later) =
      match (mode.step c).next with
      | some next => (mode.step c).tokens ++ tokensFrom next later
      | none => (mode.step c).tokens ++ [.malformed] := rfl

/-- The character that ends a numeral is read on between tokens. -/
theorem tokensFrom_numeral {scan : Scan} {c : Char} (done : scan.push c = .done)
    (later : List Char) :
    tokensFrom (.numeral scan) (c :: later) =
      .numeral scan.numeral :: tokensFrom .between (c :: later) := by
  rw [tokensFrom_cons, tokensFrom_cons]
  simp only [Mode.step, done]
  cases (Mode.start c).next <;> rfl

theorem tokensFrom_blank {c : Char} (blank : Mode.isSpace c = true) (later : List Char) :
    tokensFrom .between (c :: later) = tokensFrom .between later := by
  simp only [Mode.isSpace, Bool.or_eq_true, decide_eq_true_eq] at blank
  rcases blank with ((rfl | rfl) | rfl) | rfl <;> rfl

/-- Blanks between tokens add none. -/
theorem tokensFrom_blanks {blanks : List Char} (blank : Blank blanks) (later : List Char) :
    tokensFrom .between (blanks ++ later) = tokensFrom .between later := by
  induction blanks with
  | nil => rfl
  | cons c blanks ih =>
      obtain ⟨first, others⟩ := List.forall_mem_cons.mp blank
      rw [List.cons_append, tokensFrom_blank first, ih others]

/-- The tokens of a text that is divided where a token ends are those of its parts. -/
theorem tokensFrom_append {mode : Mode} {chars rest : List Char} (lexes : Lexes mode chars)
    (divided : Divided rest) :
    tokensFrom mode (chars ++ rest) = tokensFrom mode chars ++ tokensFrom .between rest := by
  induction chars generalizing mode with
  | nil =>
      cases rest with
      | nil => exact (List.append_nil _).symm
      | cons c rest =>
          have divides : c ∈ dividers := divided c rfl
          unfold Lexes at lexes
          cases mode with
          | between => rfl
          | numeral scan =>
              by_cases complete : scan.isComplete = true
              · have finished : tokensFrom (.numeral scan) [] = [.numeral scan.numeral] :=
                  if_pos complete
                rw [List.nil_append, tokensFrom_numeral (Scan.push_divider divides complete),
                  finished]
                rfl
              · have broken : tokensFrom (.numeral scan) [] = [.malformed] := if_neg complete
                rw [broken] at lexes
                exact absurd List.mem_cons_self lexes
          | word expected token => exact absurd List.mem_cons_self lexes
          | string pieces => exact absurd List.mem_cons_self lexes
          | escape pieces => exact absurd List.mem_cons_self lexes
          | code pieces digits => exact absurd List.mem_cons_self lexes
  | cons c chars ih =>
      unfold Lexes at lexes
      rw [tokensFrom_cons] at lexes
      rw [List.cons_append, tokensFrom_cons, tokensFrom_cons]
      rcases next : (mode.step c).next with _ | next <;> rw [next] at lexes
      · exact absurd (List.mem_append_right _ List.mem_cons_self) lexes
      · rw [List.mem_append, not_or] at lexes
        dsimp only
        rw [ih lexes.2, List.append_assoc]

theorem divided_cons {c : Char} (later : List Char) (divides : c ∈ dividers) :
    Divided (c :: later) := by
  intro d first
  cases first
  exact divides

/-- Blanks in front of a divided text leave it divided. -/
theorem divided_blanks {blanks later : List Char} (blank : Blank blanks) (divided : Divided later) :
    Divided (blanks ++ later) := by
  cases blanks with
  | nil => exact divided
  | cons c blanks => exact divided_cons _ (mem_dividers_of_isSpace (blank c List.mem_cons_self))

/-- A place in a text is between tokens if the tokens of the text are those before it and those
after it. -/
def Between (before after : List Char) : Prop :=
  Lexes .between before ∧
    tokensFrom .between (before ++ after) =
      tokensFrom .between before ++ tokensFrom .between after

/-- Between tokens there may be any blanks. -/
theorem Between.tokensFrom_blanks {before blanks after : List Char}
    (between : Between before after) (blank : Blank blanks) :
    tokensFrom .between (before ++ (blanks ++ after)) =
      tokensFrom .between before ++ tokensFrom .between after := by
  cases blanks with
  | nil => exact between.2
  | cons c blanks =>
      have divided : Divided (c :: (blanks ++ after)) :=
        divided_cons _ (mem_dividers_of_isSpace (blank c List.mem_cons_self))
      rw [← Json.tokensFrom_blanks blank after]
      exact tokensFrom_append between.1 divided

/-! ## Division at a mark -/

/-- What one character can do if it does not end a numeral. Only between tokens does it stand for
a mark. -/
inductive Plain : Mode → Char → Mode.Step → Prop
  | silent {mode : Mode} {c : Char} (next : Option Mode) : Plain mode c ⟨[], next⟩
  | mark {c : Char} {token : Token} (isMark : token.isMark = true) :
      Plain .between c ⟨[token], some .between⟩
  | ends {mode : Mode} {c : Char} {token : Token} (notMark : token.isMark = false) :
      Plain mode c ⟨[token], some .between⟩

/-- A mode in which no mark is expected. Such are all modes that a reading comes to. -/
def Mode.Regular : Mode → Prop
  | word _ token => token.isMark = false
  | _ => True

/-- Between tokens every character takes a plain step. -/
theorem plain_start (c : Char) : Plain .between c (Mode.start c) := by
  unfold Mode.start
  split <;> first
    | exact .mark rfl
    | exact .silent _
    | split <;> exact .silent _

/-- In a regular mode a character takes a plain step, or it ends a numeral. -/
theorem plain_or_done {mode : Mode} (regular : mode.Regular) (c : Char) :
    Plain mode c (mode.step c) ∨ ∃ scan, mode = .numeral scan ∧ scan.push c = .done := by
  cases mode with
  | between => exact .inl (plain_start c)
  | numeral scan =>
      rcases pushed : scan.push c with further | _ | _
      · rw [Mode.step, pushed]
        exact .inl (.silent _)
      · exact .inr ⟨scan, rfl, pushed⟩
      · rw [Mode.step, pushed]
        exact .inl (.silent _)
  | word expected token =>
      cases expected with
      | nil => exact .inl (.silent none)
      | cons first later =>
          rw [Mode.step]
          split
          · split
            · exact .inl (.ends regular)
            · exact .inl (.silent _)
          · exact .inl (.silent _)
  | string pieces =>
      rw [Mode.step]
      split
      · exact .inl (.ends rfl)
      · split
        · exact .inl (.silent _)
        · split <;> exact .inl (.silent _)
  | escape pieces =>
      rw [Mode.step]
      split <;> exact .inl (.silent _)
  | code pieces digits =>
      rw [Mode.step]
      split
      · exact .inl (.silent _)
      · dsimp only
        split <;> exact .inl (.silent _)

/-- The mode that a character between tokens begins is regular. -/
theorem Mode.regular_start {c : Char} {next : Mode} (begins : (start c).next = some next) :
    next.Regular := by
  unfold start at begins
  split at begins <;> first
    | (cases begins; trivial)
    | split at begins
      · cases begins
        trivial
      · obtain ⟨scan, -, rfl⟩ := Option.map_eq_some_iff.mp begins
        trivial

/-- Modes stay regular. -/
theorem Mode.Regular.next {mode next : Mode} {c : Char} (regular : mode.Regular)
    (steps : (mode.step c).next = some next) : next.Regular := by
  cases mode with
  | between => exact regular_start steps
  | numeral scan =>
      rw [step] at steps
      split at steps
      · cases steps
        trivial
      · exact regular_start steps
      · cases steps
  | word expected token =>
      cases expected with
      | nil => cases steps
      | cons first later =>
          rw [step] at steps
          split at steps
          · split at steps <;> cases steps
            · trivial
            · exact regular
          · cases steps
  | string pieces =>
      rw [step] at steps
      split at steps
      · cases steps
        trivial
      · split at steps
        · cases steps
          trivial
        · split at steps <;> cases steps
          trivial
  | escape pieces =>
      rw [step] at steps
      split at steps
      · cases steps
        trivial
      · obtain ⟨piece, -, rfl⟩ := Option.map_eq_some_iff.mp steps
        trivial
  | code pieces digits =>
      rw [step] at steps
      split at steps
      · cases steps
      · dsimp only at steps
        split at steps <;> cases steps <;> trivial

/-- The end of a text finishes no mark. -/
theorem Mode.notMark_of_mem_finish {mode : Mode} {token : Token} (member : token ∈ mode.finish) :
    token.isMark = false := by
  unfold finish at member
  split at member
  · cases member
  · split at member <;> rw [List.mem_singleton.mp member] <;> rfl
  · rw [List.mem_singleton.mp member]
    rfl

/-- A text is divided by the character of a mark between two lists of tokens. -/
def DividedBy (mark : Token) (mode : Mode) (chars : List Char) (before after : List Token) :
    Prop :=
  ∃ first c rest, chars = first ++ c :: rest ∧ Mode.start c = ⟨[mark], some .between⟩ ∧
    tokensFrom mode first = before ∧ tokensFrom .between rest = after

namespace DividedBy

variable {mark : Token} {mode next : Mode} {c : Char} {chars : List Char}
  {before after : List Token}

/-- A character in front of a divided text adds its own tokens to those before the mark. -/
theorem cons (divided : DividedBy mark next chars before after)
    (steps : (mode.step c).next = some next) :
    DividedBy mark mode (c :: chars) ((mode.step c).tokens ++ before) after := by
  obtain ⟨first, d, rest, split, isMark, lexed, follows⟩ := divided
  refine ⟨c :: first, d, rest, by rw [split, List.cons_append], isMark, ?_, follows⟩
  rw [tokensFrom_cons, steps, ← lexed]

/-- Where a numeral ends, the text is divided as if it were read on between tokens. -/
theorem numeral {scan : Scan} (done : scan.push c = .done) (complete : scan.isComplete = true)
    (divided : DividedBy mark .between (c :: chars) before after) :
    DividedBy mark (.numeral scan) (c :: chars) (.numeral scan.numeral :: before) after := by
  obtain ⟨first, d, rest, split, isMark, rfl, follows⟩ := divided
  refine ⟨first, d, rest, split, isMark, ?_, follows⟩
  cases first with
  | nil => exact if_pos complete
  | cons e first =>
      cases split
      exact tokensFrom_numeral done first

end DividedBy

/-- Only a complete numeral can be ended. -/
theorem Scan.isComplete_of_done {scan : Scan} {c : Char} (done : scan.push c = .done) :
    scan.isComplete = true := by
  obtain ⟨stage, numeral⟩ := scan
  unfold push at done
  split at done
  · split at done <;> cases done
  · cases stage <;> first
      | rfl
      | cases done
      | (dsimp only at done; split at done <;> cases done)

/-- A character that does not end a numeral divides a text itself, or the text after it is
divided. -/
theorem DividedBy.of_plain {mark : Token} (isMark : mark.isMark = true) {mode : Mode} {c : Char}
    {chars : List Char} {before after : List Token} (plain : Plain mode c (mode.step c))
    (lexed : tokensFrom mode (c :: chars) = before ++ mark :: after)
    (goesOn : ∀ next before, (mode.step c).next = some next →
      tokensFrom next chars = before ++ mark :: after → DividedBy mark next chars before after) :
    DividedBy mark mode (c :: chars) before after := by
  have continues {next : Mode} {before : List Token} (steps : (mode.step c).next = some next)
      (lexed : tokensFrom next chars = before ++ mark :: after) :
      DividedBy mark mode (c :: chars) ((mode.step c).tokens ++ before) after :=
    (goesOn next before steps lexed).cons steps
  rw [tokensFrom_cons] at lexed
  rcases step : mode.step c with ⟨tokens, next⟩
  rw [step] at plain lexed continues
  cases plain with
  | silent =>
      cases next with
      | none =>
          -- a text that breaks off has no tokens after that
          have member : mark ∈ before ++ mark :: after := by simp
          rw [← lexed] at member
          have broken : mark = .malformed := List.mem_singleton.mp member
          rw [broken] at isMark
          cases isMark
      | some next => exact continues rfl lexed
  | mark alsoMark =>
      cases before with
      | nil =>
          cases lexed
          exact ⟨[], c, chars, rfl, step, rfl, rfl⟩
      | cons token before =>
          obtain ⟨rfl, rest⟩ := List.cons.inj lexed
          exact continues rfl rest
  | ends notMark =>
      cases before with
      | nil =>
          rw [(List.cons.inj lexed).1, isMark] at notMark
          cases notMark
      | cons token before =>
          obtain ⟨rfl, rest⟩ := List.cons.inj lexed
          exact continues rfl rest

/-- A text whose tokens have a mark among them is divided by the character of the mark. -/
theorem dividedBy_of_mark {mark : Token} (isMark : mark.isMark = true) {mode : Mode}
    (regular : mode.Regular) {chars : List Char} {before after : List Token}
    (lexed : tokensFrom mode chars = before ++ mark :: after) :
    DividedBy mark mode chars before after := by
  induction chars generalizing mode before with
  | nil =>
      have member : mark ∈ mode.finish := by
        rw [tokensFrom] at lexed
        rw [lexed]
        simp
      rw [Mode.notMark_of_mem_finish member] at isMark
      cases isMark
  | cons c chars ih =>
      rcases plain_or_done regular c with plain | ⟨scan, rfl, done⟩
      · exact .of_plain isMark plain lexed fun _ _ steps => ih (regular.next steps)
      · -- the character is read a second time, between tokens
        rw [tokensFrom_numeral done] at lexed
        cases before with
        | nil =>
            rw [← (List.cons.inj lexed).1] at isMark
            cases isMark
        | cons token before =>
            obtain ⟨rfl, rest⟩ := List.cons.inj lexed
            have begins : Mode.Regular .between := trivial
            have divided : DividedBy mark .between (c :: chars) before after :=
              .of_plain isMark (plain_start c) rest fun _ _ steps => ih (begins.next steps)
            exact divided.numeral done (Scan.isComplete_of_done done)

/-! ## Blanks -/

/-- A token that has begun goes on, ends, or breaks off. -/
theorem Mode.next_ne_between {mode : Mode} {c : Char} (inside : mode ≠ between)
    (silent : (mode.step c).tokens = []) : (mode.step c).next ≠ some between := by
  cases mode with
  | between => exact absurd rfl inside
  | numeral scan =>
      rcases pushed : scan.push c with further | _ | _ <;> rw [step, pushed] at silent ⊢
      · simp
      · cases silent
      · simp
  | word expected token =>
      cases expected with
      | nil => simp [step]
      | cons first later =>
          by_cases same : c = first <;> by_cases last : later = [] <;> simp_all [step]
  | string pieces =>
      by_cases quote : c = '"'
      · simp [step, quote] at silent
      · by_cases escape : c = '\\' <;> by_cases small : c.toNat < 0x20 <;>
          simp [step, quote, escape, small]
  | escape pieces =>
      by_cases code : c = 'u' <;> simp [step, code]
  | code pieces digits =>
      rw [step]
      split
      · simp
      · dsimp only
        split <;> simp

/-- What has begun a token does not end without tokens. -/
theorem tokensFrom_ne_nil {mode : Mode} (inside : mode ≠ .between) (chars : List Char) :
    tokensFrom mode chars ≠ [] := by
  induction chars generalizing mode with
  | nil =>
      rw [tokensFrom]
      cases mode with
      | between => exact absurd rfl inside
      | numeral scan =>
          rw [Mode.finish]
          split <;> exact List.cons_ne_nil _ _
      | word expected token => exact List.cons_ne_nil _ _
      | string pieces => exact List.cons_ne_nil _ _
      | escape pieces => exact List.cons_ne_nil _ _
      | code pieces digits => exact List.cons_ne_nil _ _
  | cons c chars ih =>
      intro none
      rw [tokensFrom_cons] at none
      rcases steps : (mode.step c).next with _ | next <;> rw [steps] at none
      · exact List.append_ne_nil_of_right_ne_nil _ (List.cons_ne_nil _ _) none
      · obtain ⟨silent, rest⟩ := List.append_eq_nil_iff.mp none
        have goesOn : next ≠ .between := by
          rintro rfl
          exact Mode.next_ne_between inside silent steps
        exact ih goesOn rest

/-- Only a blank leaves no trace. -/
theorem Mode.isSpace_of_start {c : Char} (trackless : start c = ⟨[], some between⟩) :
    isSpace c = true := by
  unfold start at trackless
  split at trackless
  case h_11 =>
    split at trackless
    · assumption
    · obtain ⟨scan, -, impossible⟩ := Option.map_eq_some_iff.mp (congrArg Step.next trackless)
      cases impossible
  all_goals cases trackless

/-- A text without tokens is blank. -/
theorem blank_of_tokensFrom {chars : List Char} (none : tokensFrom .between chars = []) :
    Blank chars := by
  induction chars with
  | nil => exact List.forall_mem_nil _
  | cons c chars ih =>
      by_cases blank : Mode.isSpace c = true
      · rw [tokensFrom_blank blank] at none
        exact List.forall_mem_cons.mpr ⟨blank, ih none⟩
      · rw [tokensFrom_cons] at none
        rcases steps : (Mode.step .between c).next with _ | next <;> rw [steps] at none
        · exact absurd none (List.append_ne_nil_of_right_ne_nil _ (List.cons_ne_nil _ _))
        · obtain ⟨silent, rest⟩ := List.append_eq_nil_iff.mp none
          have begins : next ≠ .between := by
            rintro rfl
            have trackless : Mode.start c = ⟨[], some .between⟩ := by
              rw [← silent, ← steps]
              rfl
            exact blank (Mode.isSpace_of_start trackless)
          exact absurd rest (tokensFrom_ne_nil begins chars)

end MicroDevice.Json
