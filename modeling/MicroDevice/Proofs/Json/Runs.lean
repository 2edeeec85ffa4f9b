import MicroDevice.Json.Reader

/-! # Readings of values

A reading goes from token to token (`Runs`), and a value is whole if the reading of its tokens
does not break off (`runs_of_assemble`, `assemble_of_runs`). The tokens of a value are read alike
wherever a value may stand (`Runs.frame`), and what is read after a value begins with the tokens of
the value (`Runs.divide`).
-/

namespace MicroDevice

namespace Datum

theorem isWhole_sequence_reverse {items : List Datum} :
    (sequence items.reverse).isWhole = true ↔ ∀ item ∈ items, item.isWhole = true := by
  rw [isWhole, allWhole_iff]
  simp only [List.mem_reverse]

theorem isWhole_mapping_reverse {entries : List (Key × Datum)} :
    (mapping entries.reverse).isWhole = true ↔ ∀ entry ∈ entries, entry.2.isWhole = true := by
  rw [isWhole, entriesWhole_iff]
  simp only [List.mem_reverse]

end Datum

namespace Json

/-- A reading goes over tokens from one place to another, and none of them is out of place. -/
inductive Runs : Focus → List Frame → List Token → Focus → List Frame → Prop
  | refl (focus : Focus) (frames : List Frame) : Runs focus frames [] focus frames
  | step {focus next last : Focus} {frames stack final : List Frame} {token : Token}
      {later : List Token} (advances : advance focus frames token = some (next, stack))
      (runs : Runs next stack later last final) : Runs focus frames (token :: later) last final

/-- Tokens are read as a value. -/
def Reads (tokens : List Token) (value : Datum) : Prop :=
  Runs .value [] tokens (.after value) []

variable {focus middle last : Focus} {frames stack final outer : List Frame}
  {tokens first rest : List Token} {value : Datum}

theorem Runs.trans (runs : Runs focus frames first middle stack)
    (further : Runs middle stack rest last final) :
    Runs focus frames (first ++ rest) last final := by
  induction runs with
  | refl focus frames => exact further
  | step advances runs ih => exact .step advances (ih further)

/-- A run to the end of a value with no container open is assembled to that value. -/
theorem assemble_of_runs (runs : Runs focus frames tokens (.after value) []) :
    assemble focus frames tokens = ⟨value, true⟩ := by
  generalize ended : Focus.after value = last at runs
  generalize closed : ([] : List Frame) = final at runs
  induction runs with
  | refl focus frames =>
      subst ended closed
      rfl
  | step advances runs ih =>
      rw [assemble, advances]
      exact ih ended closed

/-! ## Readings that break off -/

/-- A document holds nothing malformed, and has an end. -/
def IsWhole (document : Document) : Prop :=
  document.ended = true ∧ document.root.isWhole = true

/-- A value inside a whole document is whole. -/
theorem isWhole_of_enclose (within : (enclose frames value).isWhole = true) :
    value.isWhole = true := by
  induction frames generalizing value with
  | nil => exact within
  | cons frame outer ih =>
      cases frame with
      | sequence items =>
          have held := ih within
          rw [Datum.isWhole, Datum.allWhole_iff] at held
          exact held value (List.mem_reverse.mpr List.mem_cons_self)
      | mapping entries key =>
          have held := ih within
          rw [Datum.isWhole, Datum.entriesWhole_iff] at held
          exact held (key, value) (List.mem_reverse.mpr List.mem_cons_self)

/-- A mapping with a malformed value is not whole. -/
theorem not_isWhole_mapping {entries : List (Key × Datum)}
    (member : ∃ key, (key, Datum.malformed) ∈ entries) :
    ¬ (Datum.mapping entries).isWhole = true := by
  obtain ⟨key, member⟩ := member
  rw [Datum.isWhole, Datum.entriesWhole_iff]
  exact fun whole => Bool.noConfusion (whole _ member)

/-- A document that breaks off is not whole. -/
theorem not_isWhole_breakOff (focus : Focus) (frames : List Frame) :
    ¬ IsWhole (breakOff focus frames) := by
  rintro ⟨ended, whole⟩
  cases focus with
  | value => cases isWhole_of_enclose whole
  | firstItem => cases isWhole_of_enclose whole
  | key entries =>
      exact not_isWhole_mapping ⟨none, by simp [malformedEntry]⟩ (isWhole_of_enclose whole)
  | firstKey =>
      exact not_isWhole_mapping ⟨none, by simp [malformedEntry]⟩ (isWhole_of_enclose whole)
  | colon entries key =>
      exact not_isWhole_mapping ⟨key, by simp⟩ (isWhole_of_enclose whole)
  | after value =>
      rcases frames with _ | ⟨items | ⟨entries, key⟩, outer⟩
      · cases ended
      · have held := isWhole_of_enclose whole
        rw [Datum.isWhole, Datum.allWhole_iff] at held
        cases held .malformed (by simp)
      · exact not_isWhole_mapping ⟨none, by simp [malformedEntry]⟩ (isWhole_of_enclose whole)

/-- A reading that comes to a whole document does not break off. -/
theorem runs_of_assemble (read : assemble focus frames tokens = ⟨value, true⟩)
    (whole : value.isWhole = true) : Runs focus frames tokens (.after value) [] := by
  have unbroken (focus : Focus) (frames : List Frame) : breakOff focus frames ≠ ⟨value, true⟩ :=
    fun broken => not_isWhole_breakOff focus frames (broken ▸ ⟨rfl, whole⟩)
  induction tokens generalizing focus frames with
  | nil =>
      unfold assemble at read
      split at read
      · cases read
        exact .refl _ _
      · exact absurd read (unbroken _ _)
      · rename_i impossible
        cases impossible
  | cons token later ih =>
      rcases advances : advance focus frames token with _ | ⟨next, stack⟩
      · rw [assemble, advances] at read
        exact absurd read (unbroken _ _)
      · rw [assemble, advances] at read
        exact .step advances (ih read)

/-! ## What runs keep -/

/-- A malformed token is out of place everywhere. -/
theorem advance_malformed (focus : Focus) (frames : List Frame) :
    advance focus frames .malformed = none := by
  cases focus <;> rcases frames with _ | ⟨_ | _, _⟩ <;> rfl

/-- Nothing malformed is read on. -/
theorem Runs.notMalformed (runs : Runs focus frames tokens last final) :
    .malformed ∉ tokens := by
  induction runs with
  | refl focus frames => exact List.not_mem_nil
  | @step focus next last frames stack final token later advances runs ih =>
      rw [List.mem_cons, not_or]
      refine ⟨?_, ih⟩
      rintro rfl
      cases (advance_malformed focus frames).symm.trans advances

/-- Nothing that a container holds so far is malformed. -/
def Frame.IsWhole : Frame → Prop
  | sequence items => ∀ item ∈ items, item.isWhole = true
  | mapping entries _ => ∀ entry ∈ entries, entry.2.isWhole = true

/-- Nothing that a focus holds is malformed. -/
def Focus.IsWhole : Focus → Prop
  | key entries | colon entries _ => ∀ entry ∈ entries, entry.2.isWhole = true
  | after value => value.isWhole = true
  | _ => True

/-- The datum of a numeral is whole. -/
theorem Numeral.isWhole_datum (numeral : Numeral) : numeral.datum.isWhole = true := by
  unfold datum
  dsimp only
  split
  · rfl
  · split
    · rfl
    · split <;> rfl

/-- The datum of a scalar token is whole. -/
theorem Token.isWhole_of_scalar {token : Token} (isScalar : token.scalar? = some value) :
    value.isWhole = true := by
  unfold scalar? at isScalar
  split at isScalar
  · cases isScalar
    rfl
  · cases isScalar
    rfl
  · cases isScalar
    exact Numeral.isWhole_datum _
  · split at isScalar <;> cases isScalar <;> rfl
  · cases isScalar

/-- Beginning a value among whole frames leaves them whole. -/
theorem beginValue_whole {token : Token} (held : ∀ frame ∈ frames, frame.IsWhole)
    (begins : beginValue frames token = some (focus, stack)) :
    focus.IsWhole ∧ ∀ frame ∈ stack, frame.IsWhole := by
  unfold beginValue at begins
  split at begins
  · cases begins
    exact ⟨trivial, List.forall_mem_cons.mpr ⟨List.forall_mem_nil _, held⟩⟩
  · cases begins
    exact ⟨trivial, held⟩
  · obtain ⟨value, isScalar, same⟩ := Option.map_eq_some_iff.mp begins
    cases same
    exact ⟨Token.isWhole_of_scalar isScalar, held⟩

/-- A token that is in its place adds nothing malformed. -/
theorem advance_whole {token : Token} (whole : focus.IsWhole)
    (held : ∀ frame ∈ frames, frame.IsWhole)
    (advances : advance focus frames token = some (middle, stack)) :
    middle.IsWhole ∧ ∀ frame ∈ stack, frame.IsWhole := by
  have ofKey {entries : List (Key × Datum)} (whole : (Focus.key entries).IsWhole)
      (begins : beginKey entries frames token = some (middle, stack)) :
      middle.IsWhole ∧ ∀ frame ∈ stack, frame.IsWhole := by
    unfold beginKey at begins
    split at begins <;> cases begins
    exact ⟨whole, held⟩
  unfold advance at advances
  split at advances
  · exact beginValue_whole held advances
  · cases advances
    obtain ⟨items, outer⟩ := List.forall_mem_cons.mp held
    exact ⟨Datum.isWhole_sequence_reverse.mpr items, outer⟩
  · exact beginValue_whole held advances
  · exact ofKey whole advances
  · cases advances
    exact ⟨rfl, held⟩
  · exact ofKey (List.forall_mem_nil _) advances
  · cases advances
    exact ⟨trivial, List.forall_mem_cons.mpr ⟨whole, held⟩⟩
  · cases advances
  · cases advances
    obtain ⟨items, outer⟩ := List.forall_mem_cons.mp held
    exact ⟨trivial, List.forall_mem_cons.mpr ⟨List.forall_mem_cons.mpr ⟨whole, items⟩, outer⟩⟩
  · cases advances
    obtain ⟨items, outer⟩ := List.forall_mem_cons.mp held
    exact ⟨Datum.isWhole_sequence_reverse.mpr (List.forall_mem_cons.mpr ⟨whole, items⟩), outer⟩
  · cases advances
    obtain ⟨entries, outer⟩ := List.forall_mem_cons.mp held
    exact ⟨List.forall_mem_cons.mpr ⟨whole, entries⟩, outer⟩
  · cases advances
    obtain ⟨entries, outer⟩ := List.forall_mem_cons.mp held
    exact ⟨Datum.isWhole_mapping_reverse.mpr (List.forall_mem_cons.mpr ⟨whole, entries⟩), outer⟩
  · cases advances

/-- A run among whole values leads to whole values. -/
theorem Runs.whole (runs : Runs focus frames tokens last final) (whole : focus.IsWhole)
    (held : ∀ frame ∈ frames, frame.IsWhole) :
    last.IsWhole ∧ ∀ frame ∈ final, frame.IsWhole := by
  induction runs with
  | refl focus frames => exact ⟨whole, held⟩
  | step advances runs ih =>
      obtain ⟨next, stack⟩ := advance_whole whole held advances
      exact ih next stack

/-- A text is read as a whole value if and only if its reading does not break off. -/
theorem reads_iff {text : String} :
    Reads (Json.tokens text) value ↔ read text = ⟨value, true⟩ ∧ value.isWhole = true := by
  constructor
  · intro reads
    exact ⟨assemble_of_runs reads, (reads.whole trivial (List.forall_mem_nil _)).1⟩
  · rintro ⟨read, whole⟩
    exact runs_of_assemble read whole

/-! ## Values in their places -/

/-- The place of a token out of a reading, with other containers open further out. -/
def around (outer : List Frame) (place : Focus × List Frame) : Focus × List Frame :=
  (place.1, place.2 ++ outer)

/-- Beginning a value does not look at the containers further out. -/
theorem beginValue_append (frames outer : List Frame) (token : Token) :
    beginValue (frames ++ outer) token = (beginValue frames token).map (around outer) := by
  cases token with
  | string pieces =>
      unfold beginValue Token.scalar?
      dsimp only
      cases Piece.text? pieces <;> rfl
  | _ => rfl

theorem beginKey_append (entries : List (Key × Datum)) (frames outer : List Frame)
    (token : Token) :
    beginKey entries (frames ++ outer) token =
      (beginKey entries frames token).map (around outer) := by
  cases token <;> rfl

/-- A token is read alike with other containers open further out, unless it is the innermost of
these that the token is for. -/
theorem advance_append (item : focus = .firstItem → frames ≠ [])
    (inner : ∀ value, focus = .after value → frames ≠ []) (outer : List Frame) (token : Token) :
    advance focus (frames ++ outer) token = (advance focus frames token).map (around outer) := by
  cases focus with
  | value => exact beginValue_append frames outer token
  | firstItem =>
      cases frames with
      | nil => exact absurd rfl (item rfl)
      | cons frame frames =>
          have begins := beginValue_append (frame :: frames) outer token
          cases frame <;> cases token <;> first
            | rfl
            | exact begins
  | key entries => exact beginKey_append entries frames outer token
  | firstKey => cases token <;> rfl
  | colon entries key => cases token <;> rfl
  | after value =>
      cases frames with
      | nil => exact absurd rfl (inner value rfl)
      | cons frame frames => cases frame <;> cases token <;> rfl

/-- A first item is expected only within an open array. -/
theorem beginValue_item {token : Token}
    (begins : beginValue frames token = some (focus, stack)) :
    focus = .firstItem → stack ≠ [] := by
  rintro rfl
  unfold beginValue at begins
  split at begins
  · cases begins
    exact List.cons_ne_nil _ _
  · cases begins
  · obtain ⟨value, -, impossible⟩ := Option.map_eq_some_iff.mp begins
    cases impossible

/-- An item is the first only in an array that is open. -/
theorem advance_item {token : Token}
    (advances : advance focus frames token = some (middle, stack)) :
    middle = .firstItem → stack ≠ [] := by
  unfold advance at advances
  split at advances <;> first
    | exact beginValue_item advances
    | (rintro rfl; cases advances)
    | (rintro rfl; unfold beginKey at advances; split at advances <;> cases advances)

/-- A value is read alike with other containers open around it. -/
theorem Runs.frame (runs : Runs focus frames tokens (.after value) [])
    (item : focus = .firstItem → frames ≠ []) (outer : List Frame) :
    Runs focus (frames ++ outer) tokens (.after value) outer := by
  generalize ended : Focus.after value = last, closed : ([] : List Frame) = final at runs
  induction runs with
  | refl focus frames =>
      subst ended closed
      exact .refl _ _
  | @step focus middle last frames stack final token later advances runs ih =>
      have inner : ∀ value, focus = .after value → frames ≠ [] := by
        rintro value rfl rfl
        cases advances
      refine .step ?_ (ih (advance_item advances) ended closed)
      rw [advance_append item inner, advances]
      rfl

/-- What is read after a place begins with what ends the containers that are open there. -/
theorem Runs.divide (runs : Runs focus (frames ++ outer) tokens (.after value) [])
    (item : focus = .firstItem → frames ≠ []) :
    ∃ first rest found, tokens = first ++ rest ∧ Runs focus frames first (.after found) [] ∧
      Runs (.after found) outer rest (.after value) [] := by
  generalize started : frames ++ outer = stack at runs
  generalize ended : Focus.after value = last, closed : ([] : List Frame) = final at runs
  induction runs generalizing frames with
  | refl focus stack =>
      subst ended
      obtain ⟨rfl, rfl⟩ := List.append_eq_nil_iff.mp (started.trans closed.symm)
      subst closed
      exact ⟨[], [], value, rfl, .refl _ _, .refl _ _⟩
  | @step focus middle last stack further final token later advances runs ih =>
      subst started
      by_cases inner : ∀ value, focus = .after value → frames ≠ []
      · rw [advance_append item inner] at advances
        obtain ⟨⟨next, rest⟩, goes, same⟩ := Option.map_eq_some_iff.mp advances
        cases same
        obtain ⟨first, others, found, rfl, reads, follows⟩ :=
          ih (advance_item goes) rfl ended closed
        exact ⟨token :: first, others, found, rfl, .step goes reads, follows⟩
      · -- the place is the one after a value with nothing open
        obtain ⟨found, isAfter⟩ := Classical.not_forall.mp inner
        obtain ⟨rfl, isEmpty⟩ := Classical.not_imp.mp isAfter
        obtain rfl := Classical.not_not.mp isEmpty
        subst ended closed
        exact ⟨[], token :: later, found, rfl, .refl _ _, .step advances runs⟩

/-- What is read from where a value may begin begins with the tokens of a value. -/
theorem Runs.leads (runs : Runs .value outer tokens (.after value) []) :
    ∃ first rest found, tokens = first ++ rest ∧ Reads first found ∧
      Runs (.after found) outer rest (.after value) [] := by
  rw [← List.nil_append outer] at runs
  exact runs.divide (by simp)

/-! ## Where a reading ends -/

/-- Nothing follows a value that stands alone. -/
theorem Runs.ended {found : Datum} (runs : Runs (.after found) [] tokens (.after value) []) :
    tokens = [] ∧ found = value := by
  cases runs with
  | refl => exact ⟨rfl, rfl⟩
  | step advances runs => cases advances

/-- An array is read as a sequence. -/
theorem Runs.sequence {items : List Datum}
    (runs : Runs .value [.sequence items] tokens (.after value) []) :
    ∃ items, value = .sequence items := by
  -- on the number of tokens: each item takes some of them
  induction measured : tokens.length using Nat.strongRecOn generalizing tokens items with
  | ind count ih =>
      obtain ⟨first, rest, found, rfl, -, follows⟩ := runs.leads
      cases follows with
      | @step _ _ _ _ _ _ token later advances further =>
          cases token with
          | closeBracket =>
              cases advances
              exact ⟨_, further.ended.2.symm⟩
          | comma =>
              cases advances
              rw [List.length_append, List.length_cons] at measured
              exact ih later.length (by omega) further rfl
          | _ => cases advances

/-- A run from inside a lone array ends with a sequence. -/
theorem Runs.firstItem (runs : Runs .firstItem [.sequence []] tokens (.after value) []) :
    ∃ items, value = .sequence items := by
  cases runs with
  | @step _ _ _ _ _ _ token later advances further =>
      cases token with
      | closeBracket =>
          cases advances
          exact ⟨_, further.ended.2.symm⟩
      | _ => exact Runs.sequence (.step advances further)

theorem Numeral.datum_ne_mapping (numeral : Numeral) (entries : List (Key × Datum)) :
    numeral.datum ≠ .mapping entries := by
  unfold datum
  dsimp only
  split
  · simp
  · split
    · simp
    · split <;> simp [floatDatum]

theorem Token.scalar_ne_mapping (token : Token) (entries : List (Key × Datum)) :
    token.scalar? ≠ some (.mapping entries) := by
  unfold scalar?
  split
  · simp
  · simp
  · simp [Numeral.datum_ne_mapping]
  · split <;> simp
  · simp

/-- An object begins with a brace. -/
theorem Reads.openBrace {entries : List (Key × Datum)} (reads : Reads tokens (.mapping entries)) :
    ∃ later, tokens = .openBrace :: later ∧
      Runs .firstKey [] later (.after (.mapping entries)) [] := by
  cases reads with
  | @step _ middle _ _ stack _ token later advances runs =>
      change beginValue [] token = some (middle, stack) at advances
      unfold beginValue at advances
      split at advances
      · cases advances
        obtain ⟨items, impossible⟩ := runs.firstItem
        cases impossible
      · cases advances
        exact ⟨later, rfl, runs⟩
      · obtain ⟨found, isScalar, same⟩ := Option.map_eq_some_iff.mp advances
        cases same
        obtain ⟨-, rfl⟩ := runs.ended
        exact absurd isScalar (Token.scalar_ne_mapping token entries)

/-- A key and a colon come before the value of a member. -/
theorem Runs.key {done : List (Key × Datum)}
    (runs : Runs (.key done) [] tokens (.after value) []) :
    ∃ pieces later, tokens = .string pieces :: .colon :: later ∧
      Runs .value [.mapping done (Piece.text? pieces)] later (.after value) [] := by
  cases runs with
  | @step _ _ _ _ _ _ token later begins runs =>
      cases token with
      | string pieces =>
          cases begins
          cases runs with
          | @step _ _ _ _ _ _ token later advances runs =>
              cases token with
              | colon =>
                  cases advances
                  exact ⟨pieces, later, rfl, runs⟩
              | _ => cases advances
      | _ => cases begins

/-- A member may come first in an object. -/
theorem Runs.atFirst (runs : Runs (.key []) [] tokens (.after value) []) :
    Runs .firstKey [] tokens (.after value) [] := by
  cases runs with
  | @step _ _ _ _ _ _ token later begins runs =>
      cases token with
      | string pieces => exact .step begins runs
      | _ => cases begins

/-- What comes first in an object is its end, or a member. -/
theorem Runs.firstKey (runs : Runs .firstKey [] tokens (.after value) []) :
    tokens = [.closeBrace] ∨ Runs (.key []) [] tokens (.after value) [] := by
  cases runs with
  | @step _ _ _ _ _ _ token later advances runs =>
      cases token with
      | closeBrace =>
          cases advances
          obtain ⟨rfl, -⟩ := runs.ended
          exact .inl rfl
      | string pieces => exact .inr (.step advances runs)
      | _ => cases advances

/-- After a member comes the end of its object, or a comma and another member. -/
theorem Runs.after_member {found : Datum} {done : List (Key × Datum)} {key : Key}
    (runs : Runs (.after found) [.mapping done key] tokens (.after value) []) :
    tokens = [.closeBrace] ∨ ∃ later,
      tokens = .comma :: later ∧ Runs (.key ((key, found) :: done)) [] later (.after value) [] := by
  cases runs with
  | @step _ _ _ _ _ _ token later advances runs =>
      cases token with
      | closeBrace =>
          cases advances
          obtain ⟨rfl, -⟩ := runs.ended
          exact .inl rfl
      | comma =>
          cases advances
          exact .inr ⟨later, rfl, runs⟩
      | _ => cases advances

end Json

end MicroDevice
