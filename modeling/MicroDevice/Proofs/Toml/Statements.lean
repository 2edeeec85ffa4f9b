import MicroDevice.Proofs.Toml.Values
import MicroDevice.Toml.Reader

/-! # Statements that are read back

A text states some steps (`Stated`) when they are read from it with as much fuel as it is long.
A line before such a text states an assignment more (`Stated.assigns`), and a header the
beginning of a table (`Stated.beginsTable`), as long as their names need no quotes.
-/

namespace MicroDevice.Toml

/-! ## Keys -/

/-- A name that needs no quotes. -/
structure IsBare (name : String) : Prop where
  bare : ∀ c ∈ name.toList, isBare c = true
  named : name.toList ≠ []

/-- The writer's test for a bare name is the one that readers make. -/
theorem isBare_of_all {name : String}
    (bare : (!name.toList.isEmpty && name.toList.all isBare) = true) : IsBare name := by
  rw [Bool.and_eq_true, Bool.not_eq_true', List.isEmpty_eq_false_iff, List.all_eq_true] at bare
  exact ⟨bare.2, bare.1⟩

/-- A text after which a bare name ends. -/
structure EndsName (rest : List Char) : Prop where
  noName : ∀ c ∈ rest.head?, isBare c = false
  noDot : ∀ c ∈ (dropBlanks rest).head?, c ≠ '.'

/-- A bare character differs from every character that needs quotes. -/
theorem IsBare.ne {c : Char} (bare : isBare c = true) (other : Char)
    (quoted : isBare other = false) : c ≠ other := by
  rintro rfl
  rw [bare] at quoted
  cases quoted

/-- What begins with a name begins with no blank. -/
theorem IsBare.dropBlanks_append {name : String} (isBare : IsBare name) (rest : List Char) :
    dropBlanks (name.toList ++ rest) = name.toList ++ rest := by
  obtain ⟨first, later, begins⟩ := List.exists_cons_of_ne_nil isBare.named
  have bare := isBare.bare first (begins ▸ List.mem_cons_self)
  rw [begins]
  apply dropBlanks_cons
  simp [isBlank, IsBare.ne bare ' ' rfl, IsBare.ne bare '\t' rfl]

/-- A bare name is read up to the first character that belongs to no name. -/
theorem keyPart_append {name : String} (isBare : IsBare name) (rest : List Char)
    (noName : ∀ c ∈ rest.head?, Toml.isBare c = false) :
    keyPart (name.toList ++ rest) = some (name.toList, rest) := by
  have taken : (name.toList ++ rest).takeWhile Toml.isBare = name.toList := by
    rw [List.takeWhile_append_of_pos isBare.bare]
    cases rest with
    | nil => simp
    | cons c later => simp [noName c rfl]
  obtain ⟨first, later, begins⟩ := List.exists_cons_of_ne_nil isBare.named
  have bare := isBare.bare first (begins ▸ List.mem_cons_self)
  unfold keyPart
  split
  · rename_i same
    rw [begins] at same
    exact absurd (List.cons.inj same).1 (IsBare.ne bare _ rfl)
  · rename_i same
    rw [begins] at same
    exact absurd (List.cons.inj same).1 (IsBare.ne bare _ rfl)
  · rw [taken]
    simp [isBare.named]

/-- The last name of a key. -/
theorem keyParts_last {name : String} (isBare : IsBare name) {rest : List Char}
    (ends : EndsName rest) (limit : Nat) :
    keyParts (limit + 1) (name.toList ++ rest) = some ([name], dropBlanks rest) := by
  have part := keyPart_append isBare rest ends.noName
  rw [keyParts, isBare.dropBlanks_append, part, Option.bind_eq_bind, Option.bind_some]
  dsimp only
  split
  · rename_i dot
    exact absurd rfl (ends.noDot '.' (by rw [dot]; rfl))
  · rw [String.ofList_toList]
    rfl

/-- A name of a table that leads to the rest of a key. -/
theorem keyParts_dot {name : String} (isBare : IsBare name) {text rest : List Char} {limit : Nat}
    {later : List String} (follows : keyParts limit text = some (later, rest)) :
    keyParts (limit + 1) (name.toList ++ '.' :: text) = some (name :: later, rest) := by
  have part := keyPart_append isBare ('.' :: text) (by rintro c ⟨⟩; rfl)
  have dot : dropBlanks ('.' :: text) = '.' :: text := dropBlanks_cons rfl text
  rw [keyParts, isBare.dropBlanks_append, part, Option.bind_eq_bind, Option.bind_some]
  dsimp only
  simp [dot, follows]

/-- A bare name is read as a key of one part, with the blanks after it. -/
theorem keyPath_name {name : String} (isBare : IsBare name) {rest : List Char}
    (ends : EndsName rest) :
    keyPath (name.toList ++ rest) = some (⟨[], name⟩, dropBlanks rest) := by
  rw [keyPath, nestingLimit, keyParts_last isBare ends]
  rfl

/-- Two bare names around a dot are read as a key within a table. -/
theorem keyPath_dot {table name : String} (tableBare : IsBare table) (nameBare : IsBare name)
    {rest : List Char} (ends : EndsName rest) :
    keyPath (table.toList ++ '.' :: (name.toList ++ rest)) =
      some (⟨[table], name⟩, dropBlanks rest) := by
  rw [keyPath, nestingLimit, keyParts_dot tableBare (keyParts_last nameBare ends 77)]
  rfl

/-! ## Lines and headers -/

/-- The steps that are read from a text with fuel for its length. -/
def Stated (text : List Char) (steps : List Statement) : Prop :=
  ∀ fuel, text.length < fuel → statements fuel text = some steps

theorem stated_nil : Stated [] [] := by
  intro fuel enough
  cases fuel with
  | zero => cases enough
  | succ fuel => rfl

/-- A statement whose text begins with neither a blank, a comment nor a line end. -/
theorem Stated.cons {c : Char} {text rest : List Char} {first : Statement}
    {later : List Statement} (visible : isBlank c = false ∧ c ≠ '#' ∧ c ≠ '\n' ∧ c ≠ '\r')
    (shorter : rest.length ≤ text.length) (reads : statement (c :: text) = some (first, rest))
    (follows : Stated rest later) : Stated (c :: text) (first :: later) := by
  intro fuel enough
  obtain ⟨noBlank, noComment, noFeed, noReturn⟩ := visible
  cases fuel with
  | zero => cases enough
  | succ fuel =>
      have left : rest.length < fuel := by
        rw [List.length_cons] at enough
        omega
      rw [statements, dropBlanks_cons noBlank]
      simp [noComment, noFeed, noReturn, reads, follows fuel left]

/-- An empty line states nothing. -/
theorem Stated.emptyLine {text : List Char} {steps : List Statement} (follows : Stated text steps) :
    Stated ('\n' :: text) steps := by
  intro fuel enough
  cases fuel with
  | zero => cases enough
  | succ fuel => exact follows fuel (by rw [List.length_cons] at enough; omega)

theorem endLine_lineFeed (rest : List Char) : endLine ('\n' :: rest) = some rest := rfl

/-- A line assigns the datum that its value shows. -/
theorem Stated.assigns {name : String} (isBare : IsBare name) {value : List Char} {datum : Datum}
    (shows : Shows value datum) {rest : List Char} {later : List Statement}
    (follows : Stated rest later) :
    Stated (line name value ++ rest) (.assignment ⟨[], name⟩ datum :: later) := by
  obtain ⟨first, others, begins⟩ := List.exists_cons_of_ne_nil isBare.named
  have bare := isBare.bare first (begins ▸ List.mem_cons_self)
  have written : line name value ++ rest =
      name.toList ++ ' ' :: '=' :: ' ' :: (value ++ '\n' :: rest) := by
    simp [line]
  have key : keyPath (name.toList ++ ' ' :: '=' :: ' ' :: (value ++ '\n' :: rest)) =
      some (⟨[], name⟩, '=' :: ' ' :: (value ++ '\n' :: rest)) := by
    apply keyPath_name isBare
    exact ⟨by rintro c ⟨⟩; rfl, by rintro c ⟨⟩; decide⟩
  have reads : member (Toml.value nestingLimit)
      (name.toList ++ ' ' :: '=' :: ' ' :: (value ++ '\n' :: rest)) =
        some ((⟨[], name⟩, datum), '\n' :: rest) := by
    have noBlank : dropBlanks (' ' :: (value ++ '\n' :: rest)) = value ++ '\n' :: rest :=
      shows.noBlank rest
    rw [member, key, Option.bind_eq_bind, Option.bind_some]
    simp only
    rw [noBlank, shows.reads rest]
    rfl
  have notHeader := IsBare.ne bare '[' rfl
  rw [written]
  rw [begins, List.cons_append] at reads ⊢
  apply Stated.cons _ _ _ follows
  · exact ⟨by simp [isBlank, IsBare.ne bare ' ' rfl, IsBare.ne bare '\t' rfl],
      IsBare.ne bare _ rfl, IsBare.ne bare _ rfl, IsBare.ne bare _ rfl⟩
  · simp
    omega
  · unfold statement
    split
    · rename_i same
      exact absurd (List.cons.inj same).1 notHeader
    · rename_i same
      exact absurd (List.cons.inj same).1 notHeader
    · rw [reads, Option.bind_eq_bind, Option.bind_some]
      dsimp only
      rw [endLine_lineFeed]
      rfl

/-- A header, of which it is known how its key is read, begins a table. -/
theorem Stated.beginsTable {name : String} {key : KeyPath} {rest : List Char}
    {later : List Statement}
    (begins : ∀ c ∈ name.toList.head?, c ≠ '[')
    (reads : keyPath (name.toList ++ ']' :: '\n' :: rest) = some (key, ']' :: '\n' :: rest))
    (follows : Stated rest later) : Stated (tableHeader name ++ rest) (.table key :: later) := by
  have written : tableHeader name ++ rest =
      '\n' :: '[' :: (name.toList ++ ']' :: '\n' :: rest) := by
    simp [tableHeader]
  rw [written]
  apply Stated.emptyLine
  apply Stated.cons (by decide) _ _ follows
  · simp
    omega
  · have header : header 1 (name.toList ++ ']' :: '\n' :: rest) = some (key, rest) := by
      rw [Toml.header, reads]
      rfl
    unfold statement
    split
    · rename_i same
      cases chars : name.toList with
      | nil => simp [chars] at same
      | cons c others =>
          simp only [chars, List.cons_append, List.cons.injEq, true_and] at same
          exact absurd same.1 (begins c (by rw [chars]; rfl))
    · rename_i same
      rw [← (List.cons.inj same).2, header]
      rfl
    · rename_i other
      exact absurd rfl (other _)

/-! ## Lines of fields -/

/-- Assignments to the table that the last header named. -/
def assignments (fields : List (String × Datum)) : List Statement :=
  fields.map fun field => .assignment ⟨[], field.1⟩ field.2

/-- Lines that state assignments, whatever comes after them. -/
structure Lines (text : List Char) (fields : List (String × Datum)) : Prop where
  before : ∀ {rest : List Char} {later : List Statement}, Stated rest later →
    Stated (text ++ rest) (assignments fields ++ later)

theorem lines_nil : Lines [] [] :=
  ⟨fun follows => follows⟩

theorem lines_line {name : String} (isBare : IsBare name) {value : List Char} {datum : Datum}
    (shows : Shows value datum) : Lines (line name value) [(name, datum)] :=
  ⟨fun follows => follows.assigns isBare shows⟩

/-- Lines written one after another state the fields of both. -/
theorem Lines.append {first second : List Char} {fields others : List (String × Datum)}
    (ofFirst : Lines first fields) (ofSecond : Lines second others) :
    Lines (first ++ second) (fields ++ others) := by
  refine ⟨fun {rest later} follows => ?_⟩
  have both := ofFirst.before (ofSecond.before follows)
  rw [assignments, List.map_append, List.append_assoc, List.append_assoc]
  exact both

end MicroDevice.Toml
