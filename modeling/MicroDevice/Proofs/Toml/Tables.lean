import Mathlib.Data.List.Basic
import MicroDevice.Proofs.Toml.Statements

/-! # Tables that are built up

Assignments of different names are added to the table that the last header named, and the
tables around it stay as they are (`foldlM_assignments`). Which tables these are is said by
the place of the table in the tree (`Reaches`).
-/

namespace MicroDevice.Toml

/-! ## Entries -/

/-- Values of names, as a table holds them. -/
def plainEntries (fields : List (String × Datum)) : Entries :=
  fields.map fun field => (field.1, .value field.2)

/-- A name that no entry has is not found. -/
theorem lookup_of_fresh {entries : Entries} {name : String} (fresh : name ∉ entries.map Prod.fst) :
    entries.lookup name = none := by
  rw [List.lookup_eq_none_iff]
  intro entry member
  rw [bne_iff_ne]
  rintro rfl
  exact fresh (List.mem_map_of_mem member)

/-- A fresh entry at the end of a table is found under its name. -/
theorem lookup_append_singleton {entries : Entries} {name : String}
    (fresh : name ∉ entries.map Prod.fst) (item : Item) :
    (entries ++ [(name, item)]).lookup name = some item := by
  rw [List.lookup_append, lookup_of_fresh fresh]
  simp

/-- Replacing the fresh last entry of a table leaves all others. -/
theorem replace_append_singleton {entries : Entries} {name : String}
    (fresh : name ∉ entries.map Prod.fst) (item changed : Item) :
    Entries.replace (entries ++ [(name, item)]) name changed = entries ++ [(name, changed)] := by
  have kept : entries.map (fun entry => if entry.1 = name then (name, changed) else entry) =
      entries.map id := by
    apply List.map_congr_left
    intro entry member
    apply if_neg
    rintro rfl
    exact fresh (List.mem_map_of_mem member)
  rw [Entries.replace, List.map_append, kept, List.map_id]
  simp

theorem entriesData_append (first second : Entries) :
    entriesData (first ++ second) = entriesData first ++ entriesData second := by
  induction first with
  | nil => rfl
  | cons entry later ih =>
      obtain ⟨name, item⟩ := entry
      simp [entriesData, ih]

/-- The data of plain entries are their fields. -/
theorem entriesData_plainEntries (fields : List (String × Datum)) :
    entriesData (plainEntries fields) = fields.map fun field => (some field.1, field.2) := by
  induction fields with
  | nil => rfl
  | cons field later ih =>
      have rest : entriesData (plainEntries later) =
          later.map fun field => (some field.1, field.2) := ih
      simp only [plainEntries, List.map_cons, entriesData, Item.datum] at rest ⊢
      rw [rest]

/-! ## Changes at a place -/

/-- A path leads, from a table of an origin, to a place in the tree with an origin of its own:
what changes there changes the table, and nothing else does. -/
def Reaches (path : List String) (start origin : Origin) (frame : Entries → Entries) : Prop :=
  ∀ (change : Origin → Entries → Option Entries) (inner changed : Entries),
    change origin inner = some changed →
      changeAt .passage change path start (frame inner) = some (frame changed)

theorem reaches_here (origin : Origin) : Reaches [] origin origin fun inner => inner := by
  intro change inner changed changes
  rw [changeAt]
  exact changes

/-- The last item of a table is reached by its name, if nothing else in the table has it. -/
theorem Reaches.last {path : List String} {start origin : Origin} {frame : Entries → Entries}
    (reaches : Reaches path start origin frame) {entries : Entries} {name : String}
    (fresh : name ∉ entries.map Prod.fst) (above : Origin) :
    Reaches (name :: path) above origin
      fun inner => entries ++ [(name, .table start (frame inner))] := by
  intro change inner changed changes
  rw [changeAt, lookup_append_singleton fresh]
  have later := reaches change inner changed changes
  simp [later, replace_append_singleton fresh]

/-! ## Steps -/

/-- A value is assigned to a fresh name at the end of a table. -/
theorem assign_fresh {origin : Origin} (plain : origin ≠ .dotted) {entries : Entries}
    {name : String} (fresh : name ∉ entries.map Prod.fst) (datum : Datum) :
    assign ⟨[], name⟩ datum origin entries = some (entries ++ [(name, .value datum)]) := by
  simp [assign, changeAt, addValue, plain, lookup_of_fresh fresh, Entries.append]

/-- Assignments of different names that a table lacks are added to it in their order. -/
theorem foldlM_assignments {path : List String} {origin : Origin} {frame : Entries → Entries}
    (reaches : Reaches path .header origin frame) (plain : origin ≠ .dotted)
    {fields : List (String × Datum)} {inner : Entries}
    (distinct : (inner.map Prod.fst ++ fields.map Prod.fst).Nodup) :
    (assignments fields).foldlM Builder.perform ⟨path, frame inner⟩ =
      some ⟨path, frame (inner ++ plainEntries fields)⟩ := by
  induction fields generalizing inner with
  | nil => simp [assignments, plainEntries]
  | cons field later ih =>
      obtain ⟨name, datum⟩ := field
      have fresh : name ∉ inner.map Prod.fst := by
        intro member
        rw [List.nodup_append] at distinct
        exact distinct.2.2 name member name (by simp) rfl
      have first := reaches _ _ _ (assign_fresh plain fresh datum)
      have rest : (assignments later).foldlM Builder.perform
          ⟨path, frame (inner ++ [(name, .value datum)])⟩ =
            some ⟨path, frame (inner ++ [(name, .value datum)] ++ plainEntries later)⟩ := by
        apply ih
        simpa using distinct
      simp only [assignments, List.map_cons, List.foldlM_cons, Builder.perform, first,
        Option.bind_eq_bind, Option.bind_some, Option.pure_def] at rest ⊢
      rw [rest]
      simp [plainEntries]

/-- A header adds an empty table to the table that its path leads to. -/
theorem perform_table {path : List String} {origin : Origin} {frame : Entries → Entries}
    (reaches : Reaches path .header origin frame) {entries : Entries} {name : String}
    (fresh : name ∉ entries.map Prod.fst) (before : List String) :
    Builder.perform ⟨before, frame entries⟩ (.table ⟨path, name⟩) =
      some ⟨path ++ [name], frame (entries ++ [(name, .table .header [])])⟩ := by
  have adds : addTable name origin entries = some (entries ++ [(name, .table .header [])]) := by
    simp [addTable, lookup_of_fresh fresh, Entries.append]
  have changes := reaches (addTable name) _ _ adds
  simp [Builder.perform, changes]

/-- A header whose path begins a table of its own adds that table first. -/
theorem perform_table_passage {entries : Entries} {table : String}
    (fresh : table ∉ entries.map Prod.fst) (name : String) (before : List String) :
    Builder.perform ⟨before, entries⟩ (.table ⟨[table], name⟩) =
      some ⟨[table, name], entries ++ [(table, .table .passage [(name, .table .header [])])]⟩ := by
  simp [Builder.perform, changeAt, lookup_of_fresh fresh, addTable, Entries.append]

end MicroDevice.Toml
