import Mathlib.Logic.Relation
import MicroDevice.Config.Text
import MicroDevice.Proofs.Action.Moves
import MicroDevice.Proofs.Config.JsonText
import MicroDevice.Proofs.Config.Orders
import MicroDevice.Proofs.Json.Members

/-! # Configurations in rearranged texts

The text of a configuration may be rearranged (`DeviceConfig.Rearranged`): blanks and the order of
members do not matter, nor do members of unknown names, and the regions of a layout may change
places if their names differ. A field that comes twice is refused, while of two regions of one name
the last holds (`DeviceConfig.ofJson_rearranged`).
-/

namespace MicroDevice

/-! ## Texts of objects that differ -/

namespace Json

/-- The blanks in a place between two tokens of a text are changed. -/
inductive Respaced : String → String → Prop
  | blanks {before old new after : List Char} (between : Between before after)
      (isBlank_old : Blank old) (isBlank_new : Blank new) :
      Respaced (String.ofList (before ++ (old ++ after))) (String.ofList (before ++ (new ++ after)))

/-- The members of an object come in another order, or there is one more of an unknown name. -/
inductive Rearranged (names : List String) : String → String → Prop
  | permute {object : Object} {members : List Member} (perm : object.members.Perm members) :
      Rearranged names object.text (object.withMembers members).text
  | insert {object : Object} {before after : List Member} {member : Member} {name : String}
      (split : object.members = before ++ after) (named : member.name = some name)
      (unknown : name ∉ names) :
      Rearranged names object.text (object.withMembers (before ++ member :: after)).text

/-- There is one more member of a known name that another member of the object has. -/
inductive Doubled (names : List String) : String → String → Prop
  | insert {object : Object} {before after : List Member} {member : Member} {name : String}
      (split : object.members = before ++ after) (named : member.name = some name)
      (known : name ∈ names) (present : ∃ other ∈ object.members, other.name = some name) :
      Doubled names object.text (object.withMembers (before ++ member :: after)).text

/-- The value of a member of an object is changed. -/
inductive Within (name : String) (Changes : String → String → Prop) : String → String → Prop
  | value {object : Object} {before after : List Member} {member changed : Member}
      (split : object.members = before ++ member :: after) (named : member.name = some name)
      (sameKey : changed.key = member.key) (changes : Changes member.value changed.value) :
      Within name Changes object.text (object.withMembers (before ++ changed :: after)).text

end Json

/-- The regions of a layout come in another order, or a region is rearranged. Regions that share a
name stay in their order. -/
inductive MemoryLayout.Rearranged : String → String → Prop
  | permute {object : Json.Object} {members : List Json.Member}
      (distinct : (object.members.map Json.Member.name).Nodup)
      (perm : object.members.Perm members) :
      Rearranged object.text (object.withMembers members).text
  | exchange {object : Json.Object} {before after : List Json.Member} {first second : Json.Member}
      (split : object.members = before ++ first :: second :: after)
      (differ : first.name ≠ second.name) :
      Rearranged object.text (object.withMembers (before ++ second :: first :: after)).text
  | region {text changed : String} {name : String}
      (within : Json.Within name (Json.Rearranged (Extent.reader .refused).names) text changed) :
      Rearranged text changed

/-- There is one more region in a layout. It is the last of its name, or one comes after it. -/
inductive MemoryLayout.RegionAdded (region : MemoryRegion) : Bool → String → String → Prop
  | last {object : Json.Object} {before after : List Json.Member} {member : Json.Member}
      (split : object.members = before ++ after) (named : member.name = some region.kind.name)
      (valid : (Extent.reader .refused).read member.datum = .ok ⟨region.base, region.size⟩)
      (isLast : ∀ other ∈ after, other.name ≠ some region.kind.name) :
      RegionAdded region true object.text (object.withMembers (before ++ member :: after)).text
  | followed {object : Json.Object} {before after : List Json.Member} {member : Json.Member}
      (split : object.members = before ++ after) (named : member.name = some region.kind.name)
      (valid : (Extent.reader .refused).read member.datum = .ok ⟨region.base, region.size⟩)
      (follows : ∃ other ∈ after, other.name = some region.kind.name) :
      RegionAdded region false object.text (object.withMembers (before ++ member :: after)).text

namespace DeviceConfig

/-- Blanks are changed, or the members of the configuration, of its layout or of a region are
rearranged. -/
inductive Rearranged : String → String → Prop
  | respace {text changed : String} (respaced : Json.Respaced text changed) :
      Rearranged text changed
  | fields {text changed : String}
      (rearranged : Json.Rearranged (reader .refused).names text changed) :
      Rearranged text changed
  | layout {text changed : String}
      (within : Json.Within Field.memLayout.name MemoryLayout.Rearranged text changed) :
      Rearranged text changed

/-- A field of the configuration or of a region comes twice. -/
inductive Doubled : String → String → Prop
  | field {text changed : String} (doubled : Json.Doubled (reader .refused).names text changed) :
      Doubled text changed
  | regionField {text changed : String} {name : String}
      (within : Json.Within Field.memLayout.name
        (Json.Within name (Json.Doubled (Extent.reader .refused).names)) text changed) :
      Doubled text changed

end DeviceConfig

/-! ## What is read of a text -/

namespace Json

variable {Value : Type} {read : Datum → Except ReadFault Value} {value : Value}
  {text changed : String}

/-- A text is read as a value. -/
def ReadsAs (read : Datum → Except ReadFault Value) (text : String) (value : Value) : Prop :=
  ∃ datum, Reads (tokens text) datum ∧ read datum = .ok value

/-- A text is read as one datum. -/
theorem Reads.unique {tokens : List Token} {datum other : Datum} (reads : Reads tokens datum)
    (also : Reads tokens other) : datum = other := by
  have same := (assemble_of_runs reads).symm.trans (assemble_of_runs also)
  cases same
  rfl

/-- A text that is read as a datum is read as the values of that datum. -/
theorem readsAs_iff {datum : Datum} (reads : Reads (tokens text) datum) :
    ReadsAs read text value ↔ read datum = .ok value := by
  constructor
  · rintro ⟨found, also, done⟩
    cases reads.unique also
    exact done
  · exact fun done => ⟨datum, reads, done⟩

/-- An object is read as what the mapping of its members is read as. -/
theorem Object.readsAs_iff (object : Object) :
    ReadsAs read object.text value ↔
      read (.mapping (object.members.map Member.entry)) = .ok value :=
  Json.readsAs_iff object.reads_text

/-- An object with a member is read with its entry among the others. -/
theorem Object.reads_among {object : Object} {before after : List Member} {member : Member}
    {name : String} (split : object.members = before ++ member :: after)
    (named : member.name = some name) :
    Reads (tokens object.text) (.mapping (before.map Member.entry ++
      (some name, member.datum) :: after.map Member.entry)) := by
  have reads := object.reads_text
  rwa [split, List.map_append, List.map_cons, Member.entry, named] at reads

theorem names_entries (members : List Member) :
    (members.map Member.entry).map Prod.fst = members.map Member.name := by
  rw [List.map_map]
  rfl

theorem Member.readsAs_iff (member : Member) :
    ReadsAs read member.value value ↔ read member.datum = .ok value :=
  Json.readsAs_iff member.isValue

/-- Changed blanks change no token. -/
theorem Respaced.tokens_eq (respaced : Respaced text changed) : tokens changed = tokens text := by
  obtain ⟨between, isBlank_old, isBlank_new⟩ := respaced
  rw [tokens, tokens, String.toList_ofList, String.toList_ofList,
    between.tokensFrom_blanks isBlank_old, between.tokensFrom_blanks isBlank_new]

section Records

variable {Field Draft Result : Type} {reader : RecordReader Field Draft Result} {result : Result}

/-- A record is read alike from a rearranged text. -/
theorem Rearranged.readsAs [DecidableEq Field] (lawful : reader.Lawful)
    (rearranged : Rearranged reader.names text changed)
    (reads : ReadsAs reader.read text result) : ReadsAs reader.read changed result := by
  cases rearranged with
  | permute perm =>
      rw [Object.readsAs_iff] at reads ⊢
      exact RecordReader.ofEntries_perm lawful (perm.map Member.entry) reads
  | @insert object before after member name split named unknown =>
      rw [Object.readsAs_iff, split, List.map_append] at reads
      have whole : member.datum.isWhole = true := (reads_iff.mp member.isValue).2
      rw [Json.readsAs_iff (Object.reads_among rfl named)]
      exact RecordReader.ofEntries_unknown unknown whole reads

/-- A record with a known field that comes twice is not read. -/
theorem Doubled.not_readsAs [DecidableEq Field] (lawful : reader.Lawful)
    (doubled : Doubled reader.names text changed) : ¬ ReadsAs reader.read changed result := by
  cases doubled with
  | @insert object before after member name split named known present =>
      rw [Object.readsAs_iff]
      refine RecordReader.ofEntries_doubled lawful known ?_
      obtain ⟨other, isMember, also⟩ := present
      rw [split] at isMember
      have once : 0 < ((before ++ after).map Member.name).count (some name) :=
        List.count_pos_iff.mpr (List.mem_map.mpr ⟨other, isMember, also⟩)
      rw [names_entries, Object.withMembers]
      simp only [List.map_append, List.map_cons, List.count_append, List.count_cons, named,
        BEq.rfl, if_true] at once ⊢
      omega

end Records

/-- Members with the same key text have the same name. -/
theorem Member.name_eq_of_key {member other : Member} (sameKey : other.key = member.key) :
    other.name = member.name := by
  have same : [Token.string other.pieces] = [.string member.pieces] := by
    rw [← other.isKey, sameKey, member.isKey]
  rw [name, name, Token.string.inj (List.singleton_inj.mp same)]

/-- Where the value of a member is changed, what is read is the same but for what it holds. -/
theorem Within.parts {name : String} {Changes : String → String → Prop}
    (within : Within name Changes text changed) :
    ∃ (before after : List (Key × Datum)) (member other : Member),
      Changes member.value other.value ∧
        Reads (tokens text) (.mapping (before ++ (some name, member.datum) :: after)) ∧
        Reads (tokens changed) (.mapping (before ++ (some name, other.datum) :: after)) := by
  cases within with
  | @value object before after member other split named sameKey changes =>
      have sameName : other.name = some name := (Member.name_eq_of_key sameKey).trans named
      exact ⟨before.map Member.entry, after.map Member.entry, member, other, changes,
        Object.reads_among split named, Object.reads_among rfl sameName⟩

end Json

/-! ## Layouts and configurations -/

/-- A layout is read alike from a rearranged text. -/
theorem MemoryLayout.Rearranged.readsAs {text changed : String} {layout : MemoryLayout}
    (rearranged : Rearranged text changed)
    (reads : Json.ReadsAs (ofDatum .refused) text layout) :
    Json.ReadsAs (ofDatum .refused) changed layout := by
  cases rearranged with
  | @permute object members distinct perm =>
      rw [Json.Object.readsAs_iff] at reads ⊢
      refine ofDatum_perm (perm.map Json.Member.entry) ?_ reads
      rw [Json.names_entries]
      exact distinct
  | @exchange object before after first second split differ =>
      rw [Json.Object.readsAs_iff, split, List.map_append] at reads
      rw [Json.Object.readsAs_iff, Json.Object.withMembers, List.map_append]
      exact ofDatum_swap differ reads
  | region within =>
      obtain ⟨before, after, member, other, changes, isText, isChanged⟩ := within.parts
      rw [Json.readsAs_iff isText] at reads
      rw [Json.readsAs_iff isChanged]
      obtain ⟨kind, extent, -, region⟩ :=
        exists_extent reads (List.mem_append_right before List.mem_cons_self)
      have also := changes.readsAs (Extent.lawful_reader .refused) (member.readsAs_iff.mpr region)
      rw [ofDatum_replace _ ((other.readsAs_iff.mp also).trans region.symm)]
      exact reads

namespace DeviceConfig

variable {text changed : String} {config : DeviceConfig} {Changes : String → String → Prop}

/-- A text is parsed as a configuration if it is read as one to its end. -/
theorem ofJson_ok_iff :
    ofJson text = .ok config ↔ Json.ReadsAs (reader .refused).read text config := by
  constructor
  · intro parses
    obtain ⟨found, reads, ends⟩ := bind_ok.mp (Action.mapError_eq_ok.mp parses)
    rcases document : Json.read text with ⟨root, ended⟩
    rw [document] at reads ends
    cases ended <;> cases ends
    exact ⟨root, Json.reads_iff.mpr ⟨document, takesWhole_read _ _ reads⟩, reads⟩
  · rintro ⟨root, isRead, reads⟩
    refine Action.mapError_eq_ok.mpr ?_
    rw [(Json.reads_iff.mp isRead).1, ofDocument, reads]
    rfl

/-- Where the value of the layout is changed, the configuration is read with the changed layout. -/
theorem readsAs_within (within : Json.Within Field.memLayout.name Changes text changed)
    (parses : ofJson text = .ok config) :
    ∃ value other, Changes value other ∧
      Json.ReadsAs (MemoryLayout.ofDatum .refused) value config.memLayout ∧
      ∀ {layout}, Json.ReadsAs (MemoryLayout.ofDatum .refused) other layout →
        ofJson changed = .ok { config with memLayout := layout } := by
  obtain ⟨before, after, member, other, changes, isText, isChanged⟩ := within.parts
  have reads := (Json.readsAs_iff isText).mp (ofJson_ok_iff.mp parses)
  obtain ⟨layoutRead, others⟩ := ofEntries_withLayout reads
  refine ⟨member.value, other.value, changes, member.readsAs_iff.mpr layoutRead, ?_⟩
  intro layout otherRead
  rw [ofJson_ok_iff, Json.readsAs_iff isChanged]
  exact others (other.readsAs_iff.mp otherRead)

/-- A rearranged text is read as the same configuration. -/
theorem ofJson_of_rearranged (rearranged : Rearranged text changed)
    (parses : ofJson text = .ok config) : ofJson changed = .ok config := by
  cases rearranged with
  | respace respaced =>
      rw [ofJson, Json.read, respaced.tokens_eq]
      exact parses
  | fields rearranged =>
      rw [ofJson_ok_iff] at parses ⊢
      exact rearranged.readsAs (lawful_reader .refused) parses
  | layout within =>
      obtain ⟨value, other, changes, reads, follows⟩ := readsAs_within within parses
      exact follows (changes.readsAs reads)

/-- A text with a doubled field is not read as any configuration. -/
theorem not_ofJson_of_doubled (doubled : Doubled text changed) : ofJson changed ≠ .ok config := by
  rw [Ne, ofJson_ok_iff]
  cases doubled with
  | field doubled => exact doubled.not_readsAs (lawful_reader .refused)
  | regionField within =>
      intro reads
      obtain ⟨before, after, member, other, changes, -, isChanged⟩ := within.parts
      have reads := (Json.readsAs_iff isChanged).mp reads
      obtain ⟨layoutRead, -⟩ := ofEntries_withLayout reads
      obtain ⟨before, after, member, region, doubled, -, isLayout⟩ := changes.parts
      have folded := (Json.readsAs_iff isLayout).mp (other.readsAs_iff.mpr layoutRead)
      obtain ⟨kind, extent, -, regionRead⟩ := MemoryLayout.exists_extent folded
        (List.mem_append_right before List.mem_cons_self)
      exact doubled.not_readsAs (Extent.lawful_reader .refused) (region.readsAs_iff.mpr regionRead)

/-- With one more region a layout is read as one that has it, unless another of its name comes
later. -/
theorem readsAs_inserted {object : Json.Object} {before after : List Json.Member}
    {member : Json.Member} {region : MemoryRegion} {layout : MemoryLayout}
    (split : object.members = before ++ after) (named : member.name = some region.kind.name)
    (valid : (Extent.reader .refused).read member.datum = .ok ⟨region.base, region.size⟩)
    (reads : Json.ReadsAs (MemoryLayout.ofDatum .refused) object.text layout) :
    Json.ReadsAs (MemoryLayout.ofDatum .refused)
      (object.withMembers (before ++ member :: after)).text
      (if some region.kind.name ∈ after.map Json.Member.name then layout
        else layout.insertRegion region) := by
  rw [Json.Object.readsAs_iff, split, List.map_append] at reads
  have inserted := MemoryLayout.ofDatum_insert region.kind valid reads
  rw [Json.names_entries] at inserted
  rw [Json.readsAs_iff (Json.Object.reads_among rfl named)]
  exact inserted

/-- A layout with one more region text reads as the layout with that region inserted, unless a later
region of the same kind replaces it. -/
theorem readsAs_of_regionAdded {region : MemoryRegion} {isLast : Bool} {layout : MemoryLayout}
    (added : MemoryLayout.RegionAdded region isLast text changed)
    (reads : Json.ReadsAs (MemoryLayout.ofDatum .refused) text layout) :
    Json.ReadsAs (MemoryLayout.ofDatum .refused) changed
      (if isLast then layout.insertRegion region else layout) := by
  cases added with
  | @last object before after member split named valid isLast =>
      have alone : some region.kind.name ∉ after.map Json.Member.name := by
        intro member
        obtain ⟨other, isMember, also⟩ := List.mem_map.mp member
        exact isLast other isMember also
      have inserted := readsAs_inserted split named valid reads
      rwa [if_neg alone] at inserted
  | @followed object before after member split named valid follows =>
      have inserted := readsAs_inserted split named valid reads
      rwa [if_pos (List.mem_map.mpr follows)] at inserted

/-- The text of a configuration that is an object consists of members, and so do those of its
layout and its regions. -/
theorem exists_objects {entries : List (Key × Datum)} (parses : ofJson text = .ok config)
    (isObject : (Json.read text).root = .mapping entries) :
    ∃ object : Json.Object, object.text = text ∧
      ∀ member ∈ object.members, member.name = some Field.memLayout.name →
        ∃ layout : Json.Object, layout.text = member.value ∧
          ∀ region ∈ layout.members, ∀ fields, region.datum = .mapping fields →
            ∃ inner : Json.Object, inner.text = region.value := by
  obtain ⟨root, isRead, -⟩ := ofJson_ok_iff.mp parses
  rw [(Json.reads_iff.mp isRead).1] at isObject
  cases isObject
  obtain ⟨object, rfl⟩ := Json.exists_object isRead
  refine ⟨object, rfl, ?_⟩
  intro member isMember named
  obtain ⟨before, after, split⟩ := List.append_of_mem isMember
  have reads := (Json.readsAs_iff (Json.Object.reads_among split named)).mp
    (ofJson_ok_iff.mp parses)
  obtain ⟨layoutRead, -⟩ := ofEntries_withLayout reads
  obtain ⟨regions, isMapping⟩ := MemoryLayout.exists_entries layoutRead
  obtain ⟨layout, spelled⟩ := Json.exists_object (isMapping ▸ member.isValue)
  refine ⟨layout, spelled, ?_⟩
  intro region isRegion fields isMapping
  exact Json.exists_object (isMapping ▸ region.isValue)

/-- A text that is parsed as a configuration, and is an object, consists of members. However it is
rearranged, it is parsed as the same configuration. With a field that comes twice it is refused.
With one more region in its layout it is parsed with the last region of each name. -/
theorem ofJson_rearranged {entries : List (Key × Datum)} (parses : ofJson text = .ok config)
    (isObject : (Json.read text).root = .mapping entries) :
    (∃ object : Json.Object, object.text = text ∧
      ∀ member ∈ object.members, member.name = some Field.memLayout.name →
        ∃ layout : Json.Object, layout.text = member.value ∧
          ∀ region ∈ layout.members, ∀ fields, region.datum = .mapping fields →
            ∃ inner : Json.Object, inner.text = region.value) ∧
    (∀ changed, Relation.ReflTransGen Rearranged text changed → ofJson changed = .ok config) ∧
    (∀ changed, Doubled text changed → ∃ error, ofJson changed = .error error) ∧
    ∀ changed region isLast,
      Json.Within Field.memLayout.name (MemoryLayout.RegionAdded region isLast) text changed →
        ofJson changed = .ok (if isLast then
          { config with memLayout := config.memLayout.insertRegion region } else config) := by
  refine ⟨exists_objects parses isObject, ?_, ?_, ?_⟩
  · intro changed rearranged
    induction rearranged with
    | refl => exact parses
    | tail _ step ih => exact ofJson_of_rearranged step ih
  · intro changed doubled
    rcases parsed : ofJson changed with error | found
    · exact ⟨error, rfl⟩
    · exact absurd parsed (not_ofJson_of_doubled doubled)
  · intro changed region isLast within
    obtain ⟨value, other, added, reads, follows⟩ := readsAs_within within parses
    rw [follows (readsAs_of_regionAdded added reads)]
    cases isLast <;> rfl

/-- The text that is written for a configuration may have its members in reverse. -/
theorem ofJson_reversed :
    let config := Simulation.awkwardConfig 0xFFFFFFFFFFFFFFFF
    ∃ object : Json.Object, object.text = config.toJson ∧
      ofJson (object.withMembers object.members.reverse).text = .ok config := by
  intro config
  have isObject : (Json.read config.toJson).root =
      .mapping ((reader .refused).named config.fieldData) := by
    rw [toJson, Json.read_render, datum_json]
  obtain ⟨⟨object, spelled, -⟩, rearranged, -⟩ := ofJson_rearranged config.ofJson_toJson isObject
  refine ⟨object, spelled, rearranged _ (.single (.fields ?_))⟩
  rw [← spelled]
  exact .permute (List.reverse_perm object.members).symm

end DeviceConfig

end MicroDevice
