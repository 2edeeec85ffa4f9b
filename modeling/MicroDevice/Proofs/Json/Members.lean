import MicroDevice.Proofs.Json.Division
import MicroDevice.Proofs.Json.Runs

/-! # Objects and their members

The text of an object is put together from its members with their blanks (`Object.text`), and is
read as the mapping of what they hold (`Object.read_text`). Every text that is read as a mapping is
that of an object (`exists_object`).
-/

namespace MicroDevice.Json

/-- A member of an object: the texts of its key and its value with the blanks around them, and
what they are read as. -/
structure Member where
  key : String
  pieces : List Piece
  isKey : tokens key = [.string pieces]
  value : String
  datum : Datum
  isValue : Reads (tokens value) datum

/-- An object as it stands in a text: its members, and the blanks around its braces. -/
structure Object where
  lead : String
  isBlank_lead : Blank lead.toList
  members : List Member
  gap : String
  isBlank_gap : Blank gap.toList
  trail : String
  isBlank_trail : Blank trail.toList

namespace Member

variable (member : Member)

/-- What a member is called. -/
def name : Key :=
  Piece.text? member.pieces

/-- What a member is read as. -/
def entry : Key × Datum :=
  (member.name, member.datum)

/-- The characters of a member. -/
def chars : List Char :=
  member.key.toList ++ ':' :: member.value.toList

/-- The tokens of a member. -/
def allTokens : List Token :=
  .string member.pieces :: .colon :: tokens member.value

end Member

namespace Object

/-- The text of an object. -/
def text (object : Object) : String :=
  String.ofList (object.lead.toList ++ '{' ::
    (List.intercalate [','] (object.members.map Member.chars) ++ object.gap.toList ++
      '}' :: object.trail.toList))

/-- The object with other members. -/
def withMembers (object : Object) (members : List Member) : Object :=
  { object with members }

end Object

/-! ## Reading an object -/

/-- The text of a member is read as the tokens of its key, a colon and those of its value. -/
theorem Member.tokensFrom_chars (member : Member) {rest : List Char} (divided : Divided rest) :
    tokensFrom .between (member.chars ++ rest) = member.allTokens ++ tokensFrom .between rest := by
  have key : tokensFrom .between member.key.toList = [.string member.pieces] := member.isKey
  have keyLexes : Lexes .between member.key.toList := by
    rw [Lexes, key]
    simp
  have valueLexes : Lexes .between member.value.toList := member.isValue.notMalformed
  have atColon : Divided (':' :: (member.value.toList ++ rest)) := divided_cons _ (by decide)
  have value := tokensFrom_append valueLexes divided
  calc tokensFrom .between (member.chars ++ rest)
      = tokensFrom .between (member.key.toList ++ ':' :: (member.value.toList ++ rest)) := by
        rw [chars, List.append_assoc, List.cons_append]
    _ = .string member.pieces :: .colon ::
          tokensFrom .between (member.value.toList ++ rest) := by
        rw [tokensFrom_append keyLexes atColon, key]
        rfl
    _ = member.allTokens ++ tokensFrom .between rest := by
        rw [value]
        rfl

/-- Members written with commas between them are read as their tokens with commas between them. -/
theorem tokensFrom_members (members : List Member) {rest : List Char} (divided : Divided rest) :
    tokensFrom .between (List.intercalate [','] (members.map Member.chars) ++ rest) =
      List.intercalate [.comma] (members.map Member.allTokens) ++ tokensFrom .between rest := by
  induction members with
  | nil => rfl
  | cons member later ih =>
      cases later with
      | nil =>
          simp only [List.map_cons, List.map_nil, List.intercalate_singleton]
          exact member.tokensFrom_chars divided
      | cons next later =>
          rw [List.map_cons] at ih
          have atComma : Divided (',' ::
              (List.intercalate [','] (next.chars :: later.map Member.chars) ++ rest)) :=
            divided_cons _ (by decide)
          simp only [List.map_cons, List.intercalate_cons_cons, List.append_assoc,
            List.cons_append, List.nil_append]
          rw [member.tokensFrom_chars atComma]
          exact congrArg (fun tokens => member.allTokens ++ .comma :: tokens) ih

/-- The tokens of an object are its braces around those of its members. -/
theorem Object.tokens_text (object : Object) :
    tokens object.text =
      .openBrace :: (List.intercalate [.comma] (object.members.map Member.allTokens) ++
        [.closeBrace]) := by
  have trail : tokensFrom .between object.trail.toList = [] := by
    have all := tokensFrom_blanks object.isBlank_trail []
    rwa [List.append_nil] at all
  have atEnd : Divided (object.gap.toList ++ '}' :: object.trail.toList) :=
    divided_blanks object.isBlank_gap (divided_cons _ (by decide))
  have ends : tokensFrom .between (object.gap.toList ++ '}' :: object.trail.toList) =
      [.closeBrace] := by
    rw [tokensFrom_blanks object.isBlank_gap]
    exact congrArg (.closeBrace :: ·) trail
  have members := tokensFrom_members object.members atEnd
  rw [ends] at members
  rw [tokens, text, String.toList_ofList, tokensFrom_blanks object.isBlank_lead, List.append_assoc]
  exact congrArg (.openBrace :: ·) members

/-- A member is read as its entry. -/
theorem Member.runs (member : Member) (done : List (Key × Datum)) :
    Runs (.key done) [] member.allTokens (.after member.datum) [.mapping done member.name] := by
  have value := member.isValue.frame (by simp) [.mapping done member.name]
  exact .step rfl (.step rfl value)

/-- Members are read as their entries. -/
theorem runs_members (first : Member) (later : List Member) (done : List (Key × Datum)) :
    Runs (.key done) [] (List.intercalate [.comma] ((first :: later).map Member.allTokens) ++
        [.closeBrace])
      (.after (.mapping (done.reverse ++ (first :: later).map Member.entry))) [] := by
  induction later generalizing first done with
  | nil =>
      have ends : Runs (.after first.datum) [.mapping done first.name] [.closeBrace]
          (.after (.mapping (first.entry :: done).reverse)) [] := .step rfl (.refl _ _)
      rw [List.reverse_cons] at ends
      rw [List.map_singleton, List.intercalate_singleton]
      exact (first.runs done).trans ends
  | cons next later ih =>
      have others := ih next (first.entry :: done)
      have comma : Runs (.after first.datum) [.mapping done first.name] [.comma]
          (.key (first.entry :: done)) [] := .step rfl (.refl _ _)
      rw [List.reverse_cons, List.append_assoc] at others
      rw [List.map_cons, List.map_cons, List.intercalate_cons_cons, List.append_assoc,
        List.append_assoc]
      exact (first.runs done).trans (comma.trans others)

/-- An object is read as the mapping of what it holds. -/
theorem Object.reads_text (object : Object) :
    Reads (tokens object.text) (.mapping (object.members.map Member.entry)) := by
  rw [object.tokens_text]
  refine .step rfl ?_
  rcases object.members with _ | ⟨first, later⟩
  · exact .step rfl (.refl _ _)
  · exact (runs_members first later []).atFirst

/-- An object is read as the mapping of its members' entries. -/
theorem Object.read_text (object : Object) :
    read object.text = ⟨.mapping (object.members.map Member.entry), true⟩ :=
  (reads_iff.mp object.reads_text).1

/-! ## Every object -/

/-- The character of a mark. -/
def Token.mark : Token → Char
  | openBrace => '{'
  | closeBrace => '}'
  | openBracket => '['
  | closeBracket => ']'
  | colon => ':'
  | _ => ','

/-- Only the character of a mark begins that mark. -/
theorem eq_mark_of_start {c : Char} {mark : Token} (isMark : mark.isMark = true)
    (starts : Mode.start c = ⟨[mark], some .between⟩) : c = mark.mark := by
  unfold Mode.start at starts
  split at starts
  case h_11 => split at starts <;> cases starts
  all_goals first
    | (cases starts; rfl)
    | cases starts

/-- A text whose tokens have a mark among them is divided by the mark. -/
theorem exists_division {mark : Token} (isMark : mark.isMark = true) (before : List Token)
    {chars : List Char} {after : List Token}
    (lexed : tokensFrom .between chars = before ++ mark :: after) :
    ∃ first rest, chars = first ++ mark.mark :: rest ∧ tokensFrom .between first = before ∧
      tokensFrom .between rest = after := by
  have regular : Mode.Regular .between := trivial
  obtain ⟨first, c, rest, divided, starts, lexed⟩ := dividedBy_of_mark isMark regular lexed
  rw [eq_mark_of_start isMark starts] at divided
  exact ⟨first, rest, divided, lexed⟩

/-- A text read as a key, a colon and a text read as a value make up a member. -/
theorem exists_member {key value : List Char} {pieces : List Piece} {datum : Datum}
    (isKey : tokensFrom .between key = [.string pieces])
    (isValue : Reads (tokensFrom .between value) datum) :
    ∃ member : Member, member.chars = key ++ ':' :: value := by
  let member : Member := {
    key := String.ofList key, pieces, datum
    isKey := by rw [tokens, String.toList_ofList, isKey]
    value := String.ofList value
    isValue := by rwa [tokens, String.toList_ofList] }
  refine ⟨member, ?_⟩
  rw [Member.chars, String.toList_ofList, String.toList_ofList]

/-- What is read from a key to the end of an object is the text of members. -/
theorem exists_members {chars : List Char} {done : List (Key × Datum)} {value : Datum}
    (runs : Runs (.key done) [] (tokensFrom .between chars) (.after value) []) :
    ∃ first later trail, Blank trail ∧
      chars = List.intercalate [','] ((first :: later).map Member.chars) ++ '}' :: trail := by
  -- on the number of tokens: each member takes some of them
  induction measured : (tokensFrom .between chars).length using Nat.strongRecOn
      generalizing chars done with
  | ind count ih =>
      obtain ⟨pieces, after, lexed, runs⟩ := runs.key
      obtain ⟨key, rest, rfl, isKey, rfl⟩ :=
        exists_division (rfl : Token.colon.isMark = true) [.string pieces] lexed
      obtain ⟨first, others, datum, divided, isValue, follows⟩ :=
        runs.leads
      rcases follows.after_member with rfl | ⟨later, rfl, goesOn⟩
      · obtain ⟨value, trail, rfl, rfl, ends⟩ :=
            exists_division (rfl : Token.closeBrace.isMark = true) first divided
        obtain ⟨member, spelled⟩ := exists_member isKey isValue
        refine ⟨member, [], trail, blank_of_tokensFrom ends, ?_⟩
        rw [List.map_singleton, List.intercalate_singleton, spelled]
        simp [Token.mark]
      · obtain ⟨value, further, rfl, rfl, rfl⟩ :=
            exists_division (rfl : Token.comma.isMark = true) first divided
        obtain ⟨member, spelled⟩ := exists_member isKey isValue
        have fewer : (tokensFrom .between further).length < count := by
          rw [← measured, lexed, divided]
          simp
          omega
        obtain ⟨next, members, trail, blank, rfl⟩ := ih _ fewer goesOn rfl
        refine ⟨member, next :: members, trail, blank, ?_⟩
        simp [List.intercalate_cons_cons, spelled, Token.mark]

/-- Every text that is read as a mapping is the text of an object. -/
theorem exists_object {text : String} {entries : List (Key × Datum)}
    (reads : Reads (tokens text) (.mapping entries)) : ∃ object : Object, object.text = text := by
  obtain ⟨later, lexed, runs⟩ := reads.openBrace
  obtain ⟨lead, rest, divided, leadLexed, rfl⟩ :=
    exists_division (rfl : Token.openBrace.isMark = true) [] lexed
  -- the part after the brace settles what the object is
  suffices holds : ∃ (members : List Member) (gap trail : List Char), Blank gap ∧ Blank trail ∧
      rest = List.intercalate [','] (members.map Member.chars) ++ gap ++ '}' :: trail by
    obtain ⟨members, gap, trail, isBlank_gap, isBlank_trail, rfl⟩ := holds
    let object : Object := {
      members, lead := String.ofList lead, gap := String.ofList gap, trail := String.ofList trail
      isBlank_lead := by rw [String.toList_ofList]; exact blank_of_tokensFrom leadLexed
      isBlank_gap := by rwa [String.toList_ofList]
      isBlank_trail := by rwa [String.toList_ofList] }
    refine ⟨object, String.toList_inj.mp ?_⟩
    rw [divided, Object.text, String.toList_ofList, String.toList_ofList, String.toList_ofList,
      String.toList_ofList]
    rfl
  rcases runs.firstKey with closes | runs
  · obtain ⟨gap, trail, rfl, empty, ends⟩ :=
      exists_division (rfl : Token.closeBrace.isMark = true) [] closes
    exact ⟨[], gap, trail, blank_of_tokensFrom empty, blank_of_tokensFrom ends, rfl⟩
  · obtain ⟨first, members, trail, blank, rfl⟩ := exists_members runs
    refine ⟨first :: members, [], trail, List.forall_mem_nil _, blank, ?_⟩
    rw [List.append_nil]

end MicroDevice.Json
