import MicroDevice.Proofs.Config.Fields
import MicroDevice.Proofs.Data.Entries

/-! # Configurations with their entries in another order

The regions of a layout commute if they have different names, and of those with the same name the
last holds (`MemoryLayout.foldlM_insert`). The layout of a configuration may be taken for another
(`DeviceConfig.ofEntries_withLayout`). A configuration that was read holds nothing malformed
(`DeviceConfig.takesWhole_read`).
-/

namespace MicroDevice

variable {surplus : Surplus} {value : Datum} {extent : Extent}

/-! ## Layouts -/

namespace MemoryLayout

variable {layout later last : MemoryLayout} {kind other : RegionKind}
  {entries shuffled before after : List (Key × Datum)}

/-- Of two regions of one kind the later replaces the earlier. -/
theorem insert_insert (layout : MemoryLayout) (kind : RegionKind) (start start' : Option UInt64)
    (size size' : UInt64) :
    (layout.insert kind start size).insert kind start' size' = layout.insert kind start' size' := by
  apply ext_extent
  intro found
  by_cases same : found = kind <;> simp [insert, same]

/-- Regions of different kinds are inserted in either order. -/
theorem insert_comm (layout : MemoryLayout) (differ : kind ≠ other) (start start' : Option UInt64)
    (size size' : UInt64) :
    (layout.insert kind start size).insert other start' size' =
      (layout.insert other start' size').insert kind start size := by
  apply ext_extent
  intro found
  by_cases first : found = kind
  · subst first
    simp [insert, differ]
  · simp [insert, first]

theorem name_of_ofName? {name : String} (known : RegionKind.ofName? name = some kind) :
    kind.name = name := by
  simpa using List.find?_some known

/-- What an entry does to a layout: it puts the extent of a region in its place. -/
theorem putEntry_ok {key : Key} (put : putEntry surplus layout (key, value) = .ok later) :
    ∃ kind extent, key = some (RegionKind.name kind) ∧
      (Extent.reader surplus).read value = .ok extent ∧
      later = layout.insert kind extent.start extent.size := by
  rcases key with _ | name
  · cases put
  · rw [putEntry] at put
    rcases known : RegionKind.ofName? name with _ | kind
    · rw [known] at put
      cases put
    · rw [known] at put
      obtain ⟨extent, reads, rfl⟩ := RecordReader.stored_ok put
      exact ⟨kind, extent, by rw [name_of_ofName? known], reads, rfl⟩

/-- Each entry of a layout that is read is a region that can be read. -/
theorem exists_extent {key : Key} (reads : ofDatum surplus (.mapping entries) = .ok layout)
    (member : (key, value) ∈ entries) :
    ∃ kind extent, key = some (RegionKind.name kind) ∧
      (Extent.reader surplus).read value = .ok extent := by
  obtain ⟨earlier, later, put⟩ := exists_step_of_foldlM reads member
  obtain ⟨kind, extent, key_eq, region, -⟩ := putEntry_ok put
  exact ⟨kind, extent, key_eq, region⟩

/-- An entry under the name of a kind inserts the extent that its value reads as. -/
theorem putEntry_kind (layout : MemoryLayout) (kind : RegionKind)
    (reads : (Extent.reader surplus).read value = .ok extent) :
    putEntry surplus layout (some kind.name, value) =
      .ok (layout.insert kind extent.start extent.size) := by
  have known : RegionKind.ofName? kind.name = some kind := by
    cases kind <;> rfl
  rw [putEntry, known]
  exact RecordReader.ok_stored reads fun extent => layout.insert kind extent.start extent.size

/-- Entries of different keys may be exchanged. -/
theorem exchange_putEntry {first second : Key × Datum} (differ : first.1 ≠ second.1) :
    Exchange (putEntry surplus) first second := by
  intro layout middle last begins follows
  obtain ⟨key, value⟩ := first
  obtain ⟨otherKey, datum⟩ := second
  obtain ⟨kind, extent, rfl, reads, rfl⟩ := putEntry_ok begins
  obtain ⟨other, further, rfl, also, rfl⟩ := putEntry_ok follows
  have kinds : kind ≠ other := by
    rintro rfl
    exact differ rfl
  refine ⟨_, putEntry_kind layout other also, ?_⟩
  rw [putEntry_kind _ kind reads, insert_comm layout kinds]

/-- Only a mapping is read as a layout. -/
theorem exists_entries (reads : ofDatum surplus value = .ok layout) :
    ∃ entries, value = .mapping entries := by
  cases value with
  | mapping entries => exact ⟨entries, rfl⟩
  | _ => cases reads

/-- Entries with different names may come in any order. -/
theorem ofDatum_perm (perm : entries.Perm shuffled) (distinct : (entries.map Prod.fst).Nodup)
    (reads : ofDatum surplus (.mapping entries) = .ok layout) :
    ofDatum surplus (.mapping shuffled) = .ok layout := by
  refine foldlM_perm perm ?_ reads
  refine (List.pairwise_map.mp distinct).imp ?_
  intro first second differ
  exact ⟨exchange_putEntry differ, exchange_putEntry (Ne.symm differ)⟩

/-- Neighbours with different names may change places. -/
theorem ofDatum_swap {first second : Key × Datum} (differ : first.1 ≠ second.1)
    (reads : ofDatum surplus (.mapping (before ++ first :: second :: after)) = .ok layout) :
    ofDatum surplus (.mapping (before ++ second :: first :: after)) = .ok layout := by
  obtain ⟨middle, begins, rest⟩ := foldlM_append_ok.mp reads
  exact foldlM_append_ok.mpr ⟨middle, begins, foldlM_swap (exchange_putEntry differ) rest⟩

/-- A region holds unless one of its kind comes later. -/
theorem foldlM_insert (start : Option UInt64) (size : UInt64)
    (folded : after.foldlM (putEntry surplus) layout = .ok last) :
    after.foldlM (putEntry surplus) (layout.insert kind start size) =
      .ok (if some kind.name ∈ after.map Prod.fst then last else last.insert kind start size) := by
  induction after generalizing layout with
  | nil =>
      cases folded
      rfl
  | cons entry after ih =>
      obtain ⟨key, value⟩ := entry
      obtain ⟨next, first, rest⟩ := foldlM_cons_ok.mp folded
      obtain ⟨other, extent, rfl, reads, rfl⟩ := putEntry_ok first
      refine foldlM_cons_ok.mpr ⟨_, putEntry_kind _ other reads, ?_⟩
      by_cases same : kind = other
      · subst same
        rw [insert_insert, rest]
        simp
      · have names : kind.name ≠ other.name := by
          intro named
          cases kind <;> cases other <;> first
            | exact same rfl
            | exact absurd named (by decide)
        have elsewhere : some kind.name ∈ some other.name :: after.map Prod.fst ↔
            some kind.name ∈ after.map Prod.fst := by
          simp [names]
        rw [insert_comm _ same, ih rest, List.map_cons]
        simp only [elsewhere]

/-- An entry with a valid region may come anywhere. It holds unless one with its name comes
later. -/
theorem ofDatum_insert (kind : RegionKind)
    (region : (Extent.reader surplus).read value = .ok extent)
    (reads : ofDatum surplus (.mapping (before ++ after)) = .ok layout) :
    ofDatum surplus (.mapping (before ++ (some kind.name, value) :: after)) =
      .ok (if some kind.name ∈ after.map Prod.fst then layout
        else layout.insert kind extent.start extent.size) := by
  obtain ⟨middle, begins, rest⟩ := foldlM_append_ok.mp reads
  exact foldlM_append_ok.mpr ⟨middle, begins, foldlM_cons_ok.mpr
    ⟨_, putEntry_kind middle kind region, foldlM_insert extent.start extent.size rest⟩⟩

/-- A region may be taken for another that is read alike. -/
theorem ofDatum_replace {other : Datum} (key : Key)
    (same : (Extent.reader surplus).read other = (Extent.reader surplus).read value) :
    ofDatum surplus (.mapping (before ++ (key, other) :: after)) =
      ofDatum surplus (.mapping (before ++ (key, value) :: after)) := by
  refine foldlM_replace (fun layout => ?_) before after empty
  cases key with
  | none => rfl
  | some name => rw [putEntry, putEntry, same]

end MemoryLayout

/-! ## The layout of a configuration -/

namespace DeviceConfig

variable {entries before after : List (Key × Datum)} {config : DeviceConfig}

/-- A draft that is complete with one layout is complete with any. -/
theorem complete?_withLayout {draft : Draft} {layout : MemoryLayout}
    (complete : { draft with memLayout := some layout }.complete? = some config) :
    config.memLayout = layout ∧ ∀ other,
      { draft with memLayout := some other }.complete? =
        some { config with memLayout := other } := by
  obtain ⟨deviceId, prefixed, _, wordSize, thumbMode, method, address, port⟩ := draft
  cases deviceId <;> cases wordSize <;> cases method <;> cases complete
  exact ⟨rfl, fun other => rfl⟩

/-- The layout of a configuration is read from its entry, and may be taken for another. -/
theorem ofEntries_withLayout
    (reads : (reader surplus).ofEntries (before ++ (some Field.memLayout.name, value) :: after) =
      .ok config) :
    MemoryLayout.ofDatum surplus value = .ok config.memLayout ∧
      ∀ {other layout}, MemoryLayout.ofDatum surplus other = .ok layout →
        (reader surplus).ofEntries (before ++ (some Field.memLayout.name, other) :: after) =
          .ok { config with memLayout := layout } := by
  have lawful := lawful_reader surplus
  have last (entry : Key × Datum) : (before ++ entry :: after).Perm (before ++ after ++ [entry]) :=
    List.perm_middle.trans (List.perm_append_singleton entry (before ++ after)).symm
  -- the fields commute, so that the layout may be read last
  obtain ⟨draft, folded, complete⟩ :=
    RecordReader.ofEntries_ok.mp (RecordReader.ofEntries_perm lawful (last _) reads)
  obtain ⟨middle, begins, ends⟩ := foldlM_append_ok.mp folded
  obtain ⟨next, put, done⟩ := foldlM_cons_ok.mp ends
  cases done
  have known := lawful.field?_name .memLayout
  obtain ⟨name, named, ⟨unknown, -⟩ | ⟨field, also, lacks, puts⟩⟩ := RecordReader.putEntry_ok put
  · cases named
    cases known.symm.trans unknown
  · cases named
    cases known.symm.trans also
    obtain ⟨layout, layoutRead, rfl⟩ := RecordReader.stored_ok puts
    obtain ⟨rfl, completes⟩ := complete?_withLayout complete
    refine ⟨layoutRead, ?_⟩
    intro other layout otherRead
    let store (layout : MemoryLayout) : Draft := { middle with memLayout := some layout }
    have puts : (reader surplus).put middle .memLayout other = .ok (store layout) :=
      RecordReader.ok_stored otherRead store
    have put := (RecordReader.putEntry_known known lacks other).trans puts
    have folded : (before ++ after ++ [(some Field.memLayout.name, other)]).foldlM
        (reader surplus).putEntry (reader surplus).blank = .ok (store layout) :=
      foldlM_append_ok.mpr ⟨middle, begins, foldlM_cons_ok.mpr ⟨_, put, rfl⟩⟩
    exact RecordReader.ofEntries_perm lawful (last _).symm
      (RecordReader.ofEntries_ok.mpr ⟨_, folded, completes layout⟩)

end DeviceConfig

/-! ## What was read is whole -/

/-- A reader takes nothing malformed. -/
def Datum.TakesWhole {Value : Type} (read : Datum → Except ReadFault Value) : Prop :=
  ∀ datum value, read datum = .ok value → datum.isWhole = true

namespace Datum

variable {Value Wider : Type} {read : Datum → Except ReadFault Value}

theorem takesWhole_text : TakesWhole text := by
  intro datum value reads
  cases datum <;> first
    | rfl
    | cases reads

theorem takesWhole_truth : TakesWhole truth := by
  intro datum value reads
  cases datum <;> first
    | rfl
    | cases reads

theorem takesWhole_natural (bound : Nat) (expected : String) :
    TakesWhole (natural bound expected) := by
  intro datum value reads
  cases datum <;> first
    | rfl
    | cases reads

theorem TakesWhole.map (takes : TakesWhole read) (change : Value → Wider) :
    TakesWhole fun datum => change <$> read datum := by
  intro datum value reads
  rcases first : read datum with fault | found
  · simp [first] at reads
  · exact takes datum found first

theorem TakesWhole.nullable (takes : TakesWhole read) : TakesWhole (nullable read) := by
  intro datum value reads
  cases datum with
  | null => rfl
  | _ => exact takes.map some _ value reads

theorem takesWhole_word16 : TakesWhole word16 := (takesWhole_natural _ _).map _

theorem takesWhole_word32 : TakesWhole word32 := (takesWhole_natural _ _).map _

theorem takesWhole_word64 : TakesWhole word64 := (takesWhole_natural _ _).map _

end Datum

/-- Extents are read from whole data only. -/
theorem Extent.takesWhole_read : Datum.TakesWhole (reader .refused).read := by
  intro datum extent reads
  refine RecordReader.isWhole_of_read rfl ?_ reads
  intro draft field value later put
  cases field <;> obtain ⟨found, reads, -⟩ := RecordReader.stored_ok put
  · exact Datum.takesWhole_word64.nullable _ _ reads
  · exact Datum.takesWhole_word64 _ _ reads

/-- Layouts are read from whole data only. -/
theorem MemoryLayout.takesWhole_ofDatum : Datum.TakesWhole (ofDatum .refused) := by
  intro datum layout reads
  cases datum with
  | mapping entries =>
      rw [Datum.isWhole, Datum.entriesWhole_iff]
      rintro ⟨key, value⟩ member
      obtain ⟨kind, extent, -, region⟩ := exists_extent reads member
      exact Extent.takesWhole_read _ _ region
  | _ => cases reads

/-- A configuration that was read holds nothing malformed. -/
theorem DeviceConfig.takesWhole_read : Datum.TakesWhole (reader .refused).read := by
  intro datum config reads
  refine RecordReader.isWhole_of_read rfl ?_ reads
  intro draft field value later put
  cases field <;> obtain ⟨found, reads, -⟩ := RecordReader.stored_ok put
  · exact Datum.takesWhole_text _ _ reads
  · exact Datum.takesWhole_text _ _ reads
  · exact MemoryLayout.takesWhole_ofDatum _ _ reads
  · exact Datum.takesWhole_word32 _ _ reads
  · exact Datum.takesWhole_truth _ _ reads
  · exact Datum.takesWhole_text _ _ reads
  · exact Datum.takesWhole_text.nullable _ _ reads
  · exact Datum.takesWhole_word16.nullable _ _ reads

end MicroDevice
