import MicroDevice.Json.Reader
import MicroDevice.Proofs.Json.Tokens

/-! # Reading what was written

The text of a value is read as the datum of the value (`read_render`), whatever the names and
strings in it. The tokens of a value, wherever a value may begin, lead to the place after it
with its datum read and the open containers as they were.
-/

namespace MicroDevice.Json

mutual

/-- What a reader meets for a written value. -/
def Tree.datum : Tree → Datum
  | .natural value => (Numeral.ofNat value).datum
  | .boolean value => .boolean value
  | .string text => .string text
  | .array items => .sequence (itemsData items)
  | .object members => .mapping (membersData members)

/-- What a reader meets for the items of an array. -/
def itemsData : List Tree → List Datum
  | [] => []
  | item :: later => item.datum :: itemsData later

/-- What a reader meets for the members of an object. -/
def membersData : List (String × Tree) → List (Key × Datum)
  | [] => []
  | (name, value) :: later => (some name, value.datum) :: membersData later

end

/-- The data of members pair each name with the datum of its tree. -/
theorem membersData_eq_map (members : List (String × Tree)) :
    membersData members = members.map fun member => (some member.1, member.2.datum) := by
  induction members with
  | nil => rfl
  | cons member later ih => rw [membersData, ih]; rfl

/-- A natural number of 64 bits is read as an integer. -/
theorem Numeral.datum_ofNat {value : Nat} (fits : value < UInt64.size) :
    (ofNat value).datum = .integer value := by
  have bounded : value < wordBound := fits
  simp [datum, ofNat, Nat.ofDigitChars_ten_toDigits, bounded]

/-- The characters of a string are those that were written. -/
theorem Piece.text?_scalars (text : String) : text? (text.toList.map .scalar) = some text := by
  have characters : ∀ chars, characters? (chars.map .scalar) = some chars := by
    intro chars
    induction chars with
    | nil => rfl
    | cons c later ih => simp [characters?, ih]
  rw [text?, characters, Option.map_some, String.ofList_toList]

/-- A token that carries a reading on. -/
theorem assemble_advance {focus : Focus} {frames : List Frame} {token : Token} (next : Focus)
    (stack : List Frame) (advances : advance focus frames token = some (next, stack))
    (later : List Token) :
    assemble focus frames (token :: later) = assemble next stack later := by
  cases focus <;> simp [assemble, advances]

/-- The tokens of a value do not begin with the end of an array. -/
theorem Tree.tokens_eq_cons (tree : Tree) :
    ∃ token later, tree.tokens = token :: later ∧ token ≠ .closeBracket := by
  match tree with
  | .natural _ | .boolean _ | .string _ | .array [] | .object [] => exact ⟨_, _, rfl, by simp⟩
  | .array (_ :: _) | .object ((_, _) :: _) =>
      rw [tokens]
      exact ⟨_, _, rfl, by simp⟩

/-- Where the first item of an array is due, a value begins as it does elsewhere. -/
theorem assemble_firstItem (frames : List Frame) (tree : Tree) (rest : List Token) :
    assemble .firstItem frames (tree.tokens ++ rest) =
      assemble .value frames (tree.tokens ++ rest) := by
  obtain ⟨token, later, tokens, differs⟩ := tree.tokens_eq_cons
  have begins : advance .firstItem frames token = advance .value frames token := by
    cases token <;> simp_all [advance]
  rw [tokens, List.cons_append, assemble, assemble, begins]
  rfl

/-- The name of a member and the colon after it lead to the value. -/
theorem assemble_name (done : List (Key × Datum)) (name : String) (frames : List Frame)
    (rest : List Token) :
    assemble (.key done) frames (.string (name.toList.map .scalar) :: .colon :: rest) =
      assemble .value (.mapping done (some name) :: frames) rest := by
  have key : advance (.key done) frames (.string (name.toList.map .scalar)) =
      some (.colon done (some name), frames) := by
    simp [advance, beginKey, Piece.text?_scalars]
  rw [assemble_advance _ _ key]
  exact assemble_advance _ _ rfl rest

theorem assemble_firstKey (pieces : List Piece) (frames : List Frame) (rest : List Token) :
    assemble .firstKey frames (.string pieces :: rest) =
      assemble (.key []) frames (.string pieces :: rest) := by
  rw [assemble_advance (.colon [] (Piece.text? pieces)) frames rfl,
    assemble_advance (.colon [] (Piece.text? pieces)) frames rfl]

mutual

/-- The tokens of a value lead to the place after it. -/
theorem Tree.assemble_tokens (tree : Tree) (frames : List Frame) (rest : List Token) :
    assemble .value frames (tree.tokens ++ rest) = assemble (.after tree.datum) frames rest := by
  match tree with
  | .natural value => exact assemble_advance _ _ rfl rest
  | .boolean value => exact assemble_advance _ _ rfl rest
  | .string text =>
      apply assemble_advance
      simp [advance, beginValue, Token.scalar?, Piece.text?_scalars, Tree.datum]
  | .array [] => rfl
  | .array (item :: later) =>
      have first := item.assemble_tokens (.sequence [] :: frames)
        (itemsTokens later ++ .closeBracket :: rest)
      have others := assemble_itemsTokens later item.datum [] frames rest
      simp only [Tree.tokens, List.cons_append, List.append_assoc, List.nil_append]
      rw [assemble_advance .firstItem (.sequence [] :: frames) rfl,
        assemble_firstItem, first, others]
      rfl
  | .object [] => rfl
  | .object ((name, value) :: later) =>
      have first := value.assemble_tokens (.mapping [] (some name) :: frames)
        (membersTokens later ++ .closeBrace :: rest)
      have others := assemble_membersTokens later name value.datum [] frames rest
      simp only [Tree.tokens, List.cons_append, List.append_assoc, List.nil_append]
      rw [assemble_advance .firstKey frames rfl, assemble_firstKey,
        assemble_name, first, others]
      rfl

/-- The further items of an array are collected up to its closing bracket. -/
theorem assemble_itemsTokens (items : List Tree) (value : Datum) (done : List Datum)
    (frames : List Frame) (rest : List Token) :
    assemble (.after value) (.sequence done :: frames)
        (itemsTokens items ++ .closeBracket :: rest) =
      assemble (.after (.sequence (done.reverse ++ value :: itemsData items))) frames rest := by
  match items with
  | [] =>
      have ended : (value :: done).reverse = done.reverse ++ [value] := List.reverse_cons
      rw [itemsTokens, itemsData, ← ended]
      exact assemble_advance _ _ rfl rest
  | item :: later =>
      have next := item.assemble_tokens (.sequence (value :: done) :: frames)
        (itemsTokens later ++ .closeBracket :: rest)
      have others := assemble_itemsTokens later item.datum (value :: done) frames rest
      simp only [itemsTokens, itemsData, List.cons_append, List.append_assoc]
      rw [assemble_advance .value (.sequence (value :: done) :: frames) rfl,
        next, others, List.reverse_cons, List.append_assoc]
      rfl

/-- The further members of an object are collected up to its closing brace. -/
theorem assemble_membersTokens (members : List (String × Tree)) (name : String) (value : Datum)
    (done : List (Key × Datum)) (frames : List Frame) (rest : List Token) :
    assemble (.after value) (.mapping done (some name) :: frames)
        (membersTokens members ++ .closeBrace :: rest) =
      assemble (.after (.mapping (done.reverse ++ (some name, value) :: membersData members)))
        frames rest := by
  match members with
  | [] =>
      have ended : ((some name, value) :: done).reverse = done.reverse ++ [(some name, value)] :=
        List.reverse_cons
      rw [membersTokens, membersData, ← ended]
      exact assemble_advance _ _ rfl rest
  | (following, datum) :: later =>
      have next := datum.assemble_tokens
        (.mapping ((some name, value) :: done) (some following) :: frames)
        (membersTokens later ++ .closeBrace :: rest)
      have others := assemble_membersTokens later following datum.datum
        ((some name, value) :: done) frames rest
      simp only [membersTokens, membersData, List.cons_append, List.append_assoc]
      rw [assemble_advance (.key ((some name, value) :: done)) frames rfl,
        assemble_name, next, others, List.reverse_cons, List.append_assoc]
      rfl

end

/-- The tokens of a tree are assembled to its datum. -/
theorem assemble_tree (tree : Tree) : assemble .value [] tree.tokens = ⟨tree.datum, true⟩ := by
  have whole := tree.assemble_tokens [] []
  rw [List.append_nil] at whole
  rw [whole]
  rfl

/-- The text of a value is read as the datum of the value, after which nothing follows. -/
theorem read_render (tree : Tree) : read tree.render = ⟨tree.datum, true⟩ := by
  rw [read, tree.tokens_render, assemble_tree]

/-- A value may be followed by the end of its line. -/
theorem read_render_line (tree : Tree) : read (tree.render ++ "\n") = ⟨tree.datum, true⟩ := by
  rw [read, tree.tokens_render_line, assemble_tree]

end MicroDevice.Json
