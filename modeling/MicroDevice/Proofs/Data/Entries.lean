import MicroDevice.Proofs.Data.Records

/-! # Records with their entries in another order

All entries of a record commute (`exchange_putEntry`), so that it is read alike from them in another
order (`ofEntries_perm`). Entries of unknown names do nothing, and a field that comes twice is
refused (`ofEntries_doubled`). Records that were read hold nothing malformed
(`isWhole_of_read`).
-/

namespace MicroDevice

namespace RecordReader

variable {Field Draft Result : Type} {reader : RecordReader Field Draft Result}
  {entries shuffled before after : List (Key × Datum)} {result : Result}

/-- The names that a reader knows. -/
def names (reader : RecordReader Field Draft Result) : List String :=
  reader.fields.map reader.fieldName

/-- A name has no field exactly when the reader does not list it. -/
theorem field?_eq_none_iff {name : String} : reader.field? name = none ↔ name ∉ reader.names := by
  rw [field?, List.find?_eq_none, names, List.mem_map, not_exists]
  simp

theorem fieldName_of_field? {name : String} {field : Field}
    (known : reader.field? name = some field) : reader.fieldName field = name := by
  simpa using List.find?_some known

/-- What an entry does to a draft: nothing if its name is unknown, else its field is put. -/
theorem putEntry_ok {draft later : Draft} {key : Key} {value : Datum}
    (put : reader.putEntry draft (key, value) = .ok later) :
    ∃ name, key = some name ∧
      ((reader.field? name = none ∧ value.isWhole = true ∧ later = draft) ∨
        ∃ field, reader.field? name = some field ∧ reader.holds draft field = false ∧
          reader.put draft field value = .ok later) := by
  rcases key with _ | name
  · cases put
  · refine ⟨name, rfl, ?_⟩
    rw [putEntry] at put
    rcases known : reader.field? name with _ | field
    · rw [known] at put
      dsimp only at put
      split at put
      · rename_i whole
        cases put
        exact .inl ⟨rfl, whole, rfl⟩
      · cases put
    · rw [known] at put
      dsimp only at put
      split at put
      · cases put
      · rename_i lacks
        exact .inr ⟨field, rfl, Bool.eq_false_iff.mpr lacks, put⟩

/-- An entry of unknown name and whole value is skipped. -/
theorem putEntry_unknown {name : String} (unknown : reader.field? name = none) {value : Datum}
    (whole : value.isWhole = true) (draft : Draft) :
    reader.putEntry draft (some name, value) = .ok draft := by
  rw [putEntry, unknown]
  exact if_pos whole

/-- An entry of known name puts its field into a draft that lacks it. -/
theorem putEntry_known {name : String} {field : Field} (known : reader.field? name = some field)
    {draft : Draft} (lacks : reader.holds draft field = false) (value : Datum) :
    reader.putEntry draft (some name, value) = reader.put draft field value := by
  rw [putEntry, known]
  exact if_neg (Bool.eq_false_iff.mp lacks)

/-- Entries are read into a record when each is put in turn and the draft they leave is complete. -/
theorem ofEntries_ok :
    reader.ofEntries entries = .ok result ↔
      ∃ draft, entries.foldlM reader.putEntry reader.blank = .ok draft ∧
        reader.complete? draft = some result := by
  rw [ofEntries, bind_ok]
  refine exists_congr fun draft => and_congr_right fun _ => ?_
  rcases reader.complete? draft with _ | found <;> simp

variable [DecidableEq Field]

/-- All entries of a record commute. -/
theorem exchange_putEntry (lawful : reader.Lawful) (first second : Key × Datum) :
    Exchange reader.putEntry first second := by
  intro draft middle last begins follows
  obtain ⟨key, value⟩ := first
  obtain ⟨otherKey, datum⟩ := second
  obtain ⟨name, rfl, ⟨unknown, whole, rfl⟩ | ⟨field, known, lacks, puts⟩⟩ := putEntry_ok begins
  · exact ⟨last, follows, putEntry_unknown unknown whole last⟩
  · obtain ⟨otherName, rfl, ⟨unknown, whole, rfl⟩ | ⟨other, also, lacksOther, follows⟩⟩ :=
      putEntry_ok follows
    · exact ⟨draft, putEntry_unknown unknown whole draft, begins⟩
    · rw [lawful.holds_put puts, Bool.or_eq_false_iff, decide_eq_false_iff_not] at lacksOther
      obtain ⟨differs, lacksOther⟩ := lacksOther
      obtain ⟨between, instead, ends⟩ := lawful.put_comm (Ne.symm differs) puts follows
      refine ⟨between, (putEntry_known also lacksOther datum).trans instead, ?_⟩
      have still : reader.holds between field = false := by
        rw [lawful.holds_put instead, lacks]
        simp [Ne.symm differs]
      exact (putEntry_known known still value).trans ends

/-- A record is read alike from its entries in another order. -/
theorem ofEntries_perm (lawful : reader.Lawful) (perm : entries.Perm shuffled)
    (reads : reader.ofEntries entries = .ok result) : reader.ofEntries shuffled = .ok result := by
  obtain ⟨draft, folded, complete⟩ := ofEntries_ok.mp reads
  have commute : entries.Pairwise fun first second =>
      Exchange reader.putEntry first second ∧ Exchange reader.putEntry second first :=
    List.pairwise_of_forall fun first second =>
      ⟨exchange_putEntry lawful first second, exchange_putEntry lawful second first⟩
  exact ofEntries_ok.mpr ⟨draft, foldlM_perm perm commute folded, complete⟩

omit [DecidableEq Field] in
/-- A record is read alike with an entry of an unknown name. -/
theorem ofEntries_unknown {name : String} (unknown : name ∉ reader.names) {value : Datum}
    (whole : value.isWhole = true) (reads : reader.ofEntries (before ++ after) = .ok result) :
    reader.ofEntries (before ++ (some name, value) :: after) = .ok result := by
  obtain ⟨draft, folded, complete⟩ := ofEntries_ok.mp reads
  obtain ⟨middle, begins, ends⟩ := foldlM_append_ok.mp folded
  have skipped := putEntry_unknown (field?_eq_none_iff.mpr unknown) whole middle
  have inserted := foldlM_append_ok.mpr ⟨middle, begins, foldlM_cons_ok.mpr ⟨middle, skipped, ends⟩⟩
  exact ofEntries_ok.mpr ⟨draft, inserted, complete⟩

/-- A field is read at most once, and not at all once a draft holds it. -/
theorem count_of_foldlM (lawful : reader.Lawful) {name : String} {field : Field}
    (known : reader.field? name = some field) {draft last : Draft}
    (folded : entries.foldlM reader.putEntry draft = .ok last) :
    (entries.map Prod.fst).count (some name) ≤ if reader.holds draft field then 0 else 1 := by
  induction entries generalizing draft with
  | nil => exact Nat.zero_le _
  | cons entry later ih =>
      obtain ⟨key, value⟩ := entry
      obtain ⟨next, first, rest⟩ := foldlM_cons_ok.mp folded
      have fewer := ih rest
      obtain ⟨found, rfl, outcome⟩ := putEntry_ok first
      by_cases same : found = name
      · subst same
        obtain ⟨unknown, -, -⟩ | ⟨other, also, lacks, puts⟩ := outcome
        · rw [unknown] at known
          cases known
        · cases known.symm.trans also
          have held : reader.holds next field = true := by
            rw [lawful.holds_put puts]
            simp
          rw [held] at fewer
          simpa [lacks] using fewer
      · have kept : reader.holds next field = reader.holds draft field := by
          obtain ⟨-, -, rfl⟩ | ⟨other, also, -, puts⟩ := outcome
          · rfl
          · have differs : field ≠ other := by
              rintro rfl
              exact same ((fieldName_of_field? also).symm.trans (fieldName_of_field? known))
            rw [lawful.holds_put puts]
            simp [differs]
        rw [kept] at fewer
        simpa [same] using fewer

/-- A record with a known field that comes twice is refused. -/
theorem ofEntries_doubled (lawful : reader.Lawful) {name : String} (known : name ∈ reader.names)
    (twice : 2 ≤ (entries.map Prod.fst).count (some name)) :
    reader.ofEntries entries ≠ .ok result := by
  intro reads
  obtain ⟨draft, folded, -⟩ := ofEntries_ok.mp reads
  rcases found : reader.field? name with _ | field
  · exact field?_eq_none_iff.mp found known
  · have once := count_of_foldlM lawful found folded
    rw [lawful.holds_blank, if_neg Bool.false_ne_true] at once
    omega

/-! ## What was read is whole -/

omit [DecidableEq Field] in
/-- A record that was read holds nothing malformed. -/
theorem isWhole_of_read (refused : reader.surplus = .refused)
    (whole : ∀ {draft field value later}, reader.put draft field value = .ok later →
      value.isWhole = true)
    {datum : Datum} (reads : reader.read datum = .ok result) : datum.isWhole = true := by
  cases datum with
  | mapping entries =>
      obtain ⟨draft, folded, -⟩ := ofEntries_ok.mp reads
      rw [Datum.isWhole, Datum.entriesWhole_iff]
      rintro ⟨key, value⟩ member
      obtain ⟨earlier, later, put⟩ := exists_step_of_foldlM folded member
      obtain ⟨-, -, ⟨-, isWhole, -⟩ | ⟨field, -, -, puts⟩⟩ := putEntry_ok put
      · exact isWhole
      · exact whole puts
  | sequence items =>
      obtain ⟨draft, folded, completes⟩ := bind_ok.mp reads
      have fits : items.length ≤ reader.fields.length := by
        rw [refused] at completes
        split at completes
        · split at completes
          · cases completes
          · rename_i within
            simpa using within
        · cases completes
      rw [Datum.isWhole, Datum.allWhole_iff]
      intro item member
      rw [← List.map_snd_zip fits] at member
      obtain ⟨⟨field, item⟩, zipped, rfl⟩ := List.mem_map.mp member
      obtain ⟨earlier, later, puts⟩ := exists_step_of_foldlM folded zipped
      exact whole puts
  | malformed => cases reads
  | _ => rfl

end RecordReader

end MicroDevice
