import Mathlib.Data.List.Basic
import MicroDevice.Data.Record
import MicroDevice.Data.Scalar

/-! # Records that are read back

A record written as a mapping of some of its fields, each at most once and in any order, is
read by putting the fields into a draft one after another (`RecordReader.read_named`). This
only needs that the reader knows its fields by their names, that putting a field marks that
field and no other, and that different fields may be put in either order. Steps that commute may be
taken in any order (`foldlM_perm`).
-/

namespace MicroDevice

/-! ## Results in a row -/

section Rows

variable {Fault State Entry : Type} {step : State → Entry → Except Fault State}
  {state last : State} {entry : Entry} {before after entries shuffled : List Entry}

/-- A sequence of reads succeeds when the first does and the second succeeds on its answer. -/
theorem bind_ok {Value Answer : Type} {result : Except Fault Value}
    {next : Value → Except Fault Answer} {answer : Answer} :
    (result >>= next) = .ok answer ↔ ∃ value, result = .ok value ∧ next value = .ok answer := by
  cases result <;> simp [bind, Except.bind]

theorem foldlM_cons_ok :
    (entry :: after).foldlM step state = .ok last ↔
      ∃ next, step state entry = .ok next ∧ after.foldlM step next = .ok last := by
  rw [List.foldlM_cons, bind_ok]

theorem foldlM_append_ok :
    (before ++ after).foldlM step state = .ok last ↔
      ∃ middle, before.foldlM step state = .ok middle ∧ after.foldlM step middle = .ok last := by
  rw [List.foldlM_append, bind_ok]

/-- In a row that succeeds each step does. -/
theorem exists_step_of_foldlM (done : entries.foldlM step state = .ok last)
    (member : entry ∈ entries) : ∃ earlier later, step earlier entry = .ok later := by
  obtain ⟨before, after, rfl⟩ := List.append_of_mem member
  obtain ⟨middle, -, rest⟩ := foldlM_append_ok.mp done
  obtain ⟨next, first, -⟩ := foldlM_cons_ok.mp rest
  exact ⟨middle, next, first⟩

/-- An entry may be taken for another with the same steps. -/
theorem foldlM_replace {other : Entry} (same : ∀ state, step state other = step state entry)
    (before after : List Entry) (state : State) :
    (before ++ other :: after).foldlM step state =
      (before ++ entry :: after).foldlM step state := by
  simp only [List.foldlM_append, List.foldlM_cons, same]

/-- Two entries commute where one follows the other. -/
def Exchange (step : State → Entry → Except Fault State) (first second : Entry) : Prop :=
  ∀ {state middle last}, step state first = .ok middle → step middle second = .ok last →
    ∃ between, step state second = .ok between ∧ step between first = .ok last

/-- Neighbours that commute may change places. -/
theorem foldlM_swap {first second : Entry} (exchange : Exchange step first second)
    (done : (first :: second :: after).foldlM step state = .ok last) :
    (second :: first :: after).foldlM step state = .ok last := by
  obtain ⟨middle, begins, rest⟩ := foldlM_cons_ok.mp done
  obtain ⟨next, follows, rest⟩ := foldlM_cons_ok.mp rest
  obtain ⟨between, instead, ends⟩ := exchange begins follows
  exact foldlM_cons_ok.mpr ⟨between, instead, foldlM_cons_ok.mpr ⟨next, ends, rest⟩⟩

/-- Entries that commute may be taken in any order. -/
theorem foldlM_perm (perm : entries.Perm shuffled)
    (commute : entries.Pairwise fun first second =>
      Exchange step first second ∧ Exchange step second first)
    (done : entries.foldlM step state = .ok last) : shuffled.foldlM step state = .ok last := by
  induction perm generalizing state with
  | nil => exact done
  | cons entry _ ih =>
      obtain ⟨next, first, rest⟩ := foldlM_cons_ok.mp done
      exact foldlM_cons_ok.mpr ⟨next, first, ih commute.of_cons rest⟩
  | swap first second later =>
      have both := (List.pairwise_cons.mp commute).1 first List.mem_cons_self
      exact foldlM_swap both.1 done
  | trans perm _ earlier later =>
      have kept := commute.perm perm fun both => ⟨both.2, both.1⟩
      exact later kept (earlier commute done)

end Rows

/-! ## Fields of a record -/

namespace RecordReader

variable {Field Draft Result : Type} {reader : RecordReader Field Draft Result}

/-- The entries of fields with their data. -/
def named (reader : RecordReader Field Draft Result) (data : List (Field × Datum)) :
    List (Key × Datum) :=
  data.map fun entry => (some (reader.fieldName entry.1), entry.2)

/-- Put fields into a draft one after another. -/
def putAll (reader : RecordReader Field Draft Result) (draft : Draft)
    (data : List (Field × Datum)) : Except ReadFault Draft :=
  data.foldlM (fun draft entry => reader.put draft entry.1 entry.2) draft

theorem putAll_cons {draft grown : Draft} {field : Field} {value : Datum}
    (first : reader.put draft field value = .ok grown) (later : List (Field × Datum)) :
    reader.putAll draft ((field, value) :: later) = reader.putAll grown later := by
  simp [putAll, first, bind, Except.bind]

/-- Fields whose data are read whatever the draft fill it one after another. -/
theorem putAll_fill {data : List (Field × Datum)} {fill : Draft → Field → Draft}
    (puts : ∀ entry ∈ data, ∀ draft,
      reader.put draft entry.1 entry.2 = .ok (fill draft entry.1)) (draft : Draft) :
    reader.putAll draft data = .ok ((data.map Prod.fst).foldl fill draft) := by
  induction data generalizing draft with
  | nil => rfl
  | cons entry later ih =>
      rw [putAll_cons (puts entry List.mem_cons_self draft)]
      exact ih (fun other member => puts other (List.mem_cons_of_mem entry member)) _

variable [DecidableEq Field]

/-- What a reader of records has to keep to. -/
structure Lawful (reader : RecordReader Field Draft Result) : Prop where
  field?_name : ∀ field, reader.field? (reader.fieldName field) = some field
  holds_blank : ∀ field, reader.holds reader.blank field = false
  holds_put : ∀ {draft later field value}, reader.put draft field value = .ok later →
    ∀ other, reader.holds later other = (decide (other = field) || reader.holds draft other)
  put_comm : ∀ {draft middle later field other value datum}, field ≠ other →
    reader.put draft field value = .ok middle → reader.put middle other datum = .ok later →
      ∃ between, reader.put draft other datum = .ok between ∧
        reader.put between field value = .ok later

/-- Different fields may be put in any order. -/
theorem putAll_perm (lawful : reader.Lawful) {data shuffled : List (Field × Datum)}
    (perm : data.Perm shuffled) (distinct : (data.map Prod.fst).Nodup) {draft last : Draft}
    (put : reader.putAll draft data = .ok last) : reader.putAll draft shuffled = .ok last := by
  have exchange {first second : Field × Datum} (differs : first.1 ≠ second.1) :
      Exchange (fun draft (entry : Field × Datum) => reader.put draft entry.1 entry.2)
        first second :=
    fun begins follows => lawful.put_comm differs begins follows
  refine foldlM_perm perm ?_ put
  refine (List.pairwise_map.mp distinct).imp ?_
  intro first second differs
  exact ⟨exchange differs, exchange (Ne.symm differs)⟩

/-- The entry that names a missing field puts that field. -/
theorem putEntry_named (lawful : reader.Lawful) {draft : Draft} {field : Field}
    (missing : reader.holds draft field = false) (value : Datum) :
    reader.putEntry draft (some (reader.fieldName field), value) =
      reader.put draft field value := by
  simp [putEntry, lawful.field?_name, missing]

/-- Entries of different fields that a draft lacks are put into it. -/
theorem foldlM_named (lawful : reader.Lawful) {data : List (Field × Datum)}
    (distinct : (data.map Prod.fst).Nodup) {draft : Draft}
    (missing : ∀ field ∈ data.map Prod.fst, reader.holds draft field = false) :
    (reader.named data).foldlM reader.putEntry draft = reader.putAll draft data := by
  induction data generalizing draft with
  | nil => rfl
  | cons entry later ih =>
      obtain ⟨field, value⟩ := entry
      rw [List.map_cons, List.nodup_cons] at distinct
      have first := putEntry_named lawful (missing field (by simp)) value
      simp only [named, putAll, List.map_cons, List.foldlM_cons, first]
      rcases put : reader.put draft field value with fault | grown
      · rfl
      · have rest : (reader.named later).foldlM reader.putEntry grown =
            reader.putAll grown later := by
          apply ih distinct.2
          intro other member
          have differs : other ≠ field := fun same => distinct.1 (same ▸ member)
          rw [lawful.holds_put put, missing other (List.mem_cons_of_mem field member)]
          simp [differs]
        exact rest

/-- A mapping of different fields is read as what putting them in some order gives. -/
theorem read_named (lawful : reader.Lawful) {data shuffled : List (Field × Datum)}
    (perm : data.Perm shuffled) (distinct : (data.map Prod.fst).Nodup) {draft : Draft}
    (put : reader.putAll reader.blank data = .ok draft) {result : Result}
    (complete : reader.complete? draft = some result) :
    reader.read (.mapping (reader.named shuffled)) = .ok result := by
  have kept := (perm.map Prod.fst).nodup_iff.mp distinct
  have folded := foldlM_named lawful kept fun field _ => lawful.holds_blank field
  rw [putAll_perm lawful perm distinct put] at folded
  rw [read, ofEntries, folded]
  simp [bind, Except.bind, complete]

/-- Reading a value and storing it succeeds when the value can be read. -/
theorem stored_ok {Value Stored : Type} {result : Except ReadFault Value} {store : Value → Stored}
    {last : Stored} (done : (do return store (← result)) = .ok last) :
    ∃ value, result = .ok value ∧ last = store value := by
  rcases result with fault | value
  · cases done
  · cases done
    exact ⟨value, rfl, rfl⟩

theorem ok_stored {Value Stored : Type} {result : Except ReadFault Value} {value : Value}
    (read : result = .ok value) (store : Value → Stored) :
    (do return store (← result)) = .ok (store value) := by
  rw [read]
  rfl

end RecordReader

namespace Datum

/-- A natural number below the bound is read back. -/
theorem natural_ofNat {value bound : Nat} (fits : value < bound) (expected : String) :
    natural bound expected (.integer value) = .ok value := by
  have within : (0 : Int) ≤ value ∧ (value : Int) < bound := by omega
  simp [natural, within]

theorem word16_toNat (word : UInt16) : word16 (.integer word.toNat) = .ok word := by
  rw [word16, natural_ofNat word.toNat_lt]
  exact congrArg Except.ok (UInt16.ofNat_toNat (x := word))

theorem word32_toNat (word : UInt32) : word32 (.integer word.toNat) = .ok word := by
  rw [word32, natural_ofNat word.toNat_lt]
  exact congrArg Except.ok (UInt32.ofNat_toNat (x := word))

theorem word64_toNat (word : UInt64) : word64 (.integer word.toNat) = .ok word := by
  rw [word64, natural_ofNat word.toNat_lt]
  exact congrArg Except.ok (UInt64.ofNat_toNat (x := word))

theorem nullable_word16_toNat (word : UInt16) :
    nullable word16 (.integer word.toNat) = .ok (some word) := by
  rw [nullable, word16_toNat]
  · rfl
  · simp

theorem nullable_word64_toNat (word : UInt64) :
    nullable word64 (.integer word.toNat) = .ok (some word) := by
  rw [nullable, word64_toNat]
  · rfl
  · simp

end Datum

end MicroDevice
