import MicroDevice.Proofs.Object.Fields
import MicroDevice.Proofs.Object.Loading
import MicroDevice.Proofs.Object.Names

/-! # Symbols of library objects

The object file of a library, of either width and either byte order, is read back: its header, its
section headers, its symbols and their names. It loads as a module whose symbols are the names of
the functions that the library defines for others (`Simulation.Library.loads`).
-/

namespace MicroDevice

namespace Object

theorem ElfForm.le_sectionBytes (form : ElfForm) : 40 ≤ form.sectionBytes := by
  obtain ⟨_ | _, _ | _⟩ := form <;> decide

theorem ElfForm.sectionBytes_pos (form : ElfForm) : 0 < form.sectionBytes :=
  Nat.lt_of_lt_of_le (by decide) form.le_sectionBytes

theorem ElfForm.symbolBytes_pos (form : ElfForm) : 0 < form.symbolBytes := by
  obtain ⟨_ | _, _ | _⟩ := form <;> decide

theorem ElfForm.symbolBytes_le (form : ElfForm) : form.symbolBytes ≤ 24 := by
  obtain ⟨_ | _, _ | _⟩ := form <;> decide

theorem ElfForm.le_pow_wordBytes (form : ElfForm) : 256 ^ 4 ≤ 256 ^ form.wordBytes := by
  obtain ⟨_ | _, _ | _⟩ := form <;> decide

theorem ElfForm.pow_wordBytes_le (form : ElfForm) : 256 ^ form.wordBytes ≤ UInt64.size := by
  obtain ⟨_ | _, _ | _⟩ := form <;> decide

/-! ## Records -/

/-- A symbol takes the bytes that its form reserves for one. -/
theorem ElfSymbol.length_record (form : ElfForm) (symbol : ElfSymbol) :
    (symbol.record form).length = form.symbolBytes := by
  obtain ⟨width, order⟩ := form
  rw [ElfSymbol.record, Object.length_record]
  cases width <;> rfl

/-- A symbol whose fields fit is read back from its record. -/
theorem ElfSymbol.read?_record {form : ElfForm} {symbol : ElfSymbol} {bytes : Bytes} {offset : Nat}
    (held : slice? bytes offset form.symbolBytes = some (symbol.record form))
    (nameFits : symbol.nameOffset < 256 ^ 4) (bindingFits : symbol.binding < 16)
    (kindFits : symbol.kind < 16) (indexFits : symbol.sectionIndex < 256 ^ 2) :
    read? form bytes offset = some symbol := by
  have infoFits : symbol.binding * 16 + symbol.kind < 256 ^ 1 := by omega
  have high : (symbol.binding * 16 + symbol.kind) / 16 = symbol.binding := by omega
  have low : (symbol.binding * 16 + symbol.kind) % 16 = symbol.kind := by omega
  obtain ⟨width, order⟩ := form
  cases width with
  | bits32 =>
      have name : field? order (symbol.record ⟨.bits32, order⟩) 0 4 = some symbol.nameOffset :=
        field?_record 0 rfl rfl nameFits
      have info : field? order (symbol.record ⟨.bits32, order⟩) 12 1 =
          some (symbol.binding * 16 + symbol.kind) := field?_record 3 rfl rfl infoFits
      have index : field? order (symbol.record ⟨.bits32, order⟩) 14 2 =
          some symbol.sectionIndex := field?_record 5 rfl rfl indexFits
      simp only [read?, held, Option.bind_eq_bind, Option.bind_some, name, info, index, high, low]
      rfl
  | bits64 =>
      have name : field? order (symbol.record ⟨.bits64, order⟩) 0 4 = some symbol.nameOffset :=
        field?_record 0 rfl rfl nameFits
      have info : field? order (symbol.record ⟨.bits64, order⟩) 4 1 =
          some (symbol.binding * 16 + symbol.kind) := field?_record 1 rfl rfl infoFits
      have index : field? order (symbol.record ⟨.bits64, order⟩) 6 2 =
          some symbol.sectionIndex := field?_record 3 rfl rfl indexFits
      simp only [read?, held, Option.bind_eq_bind, Option.bind_some, name, info, index, high, low]
      rfl

theorem ElfSection.length_record (form : ElfForm) (nameOffset info : Nat) (header : ElfSection) :
    (header.record form nameOffset info).length = form.sectionBytes := by
  obtain ⟨width, order⟩ := form
  rw [ElfSection.record, Object.length_record]
  cases width <;> rfl

/-- What is read of a section header fits into its fields. -/
structure ElfSection.Fits (form : ElfForm) (header : ElfSection) : Prop where
  kind : header.kind < 256 ^ 4
  flags : header.flags < 256 ^ form.wordBytes
  offset : header.offset < 256 ^ form.wordBytes
  size : header.size.toNat < 256 ^ form.wordBytes
  link : header.link < 256 ^ 4
  entryBytes : header.entryBytes < 256 ^ form.wordBytes

/-- The places of what is read of a section header, for both widths. -/
theorem ElfSection.read?_eq (form : ElfForm) (bytes : Bytes) (offset : Nat) :
    read? form bytes offset = (slice? bytes offset form.sectionBytes).bind fun header => do
      let read := field? form.order header
      let width := form.wordBytes
      return ⟨← read 4 4, ← read 8 width, ← read (8 + 2 * width) width,
        UInt64.ofNat (← read (8 + 3 * width) width), ← read (8 + 4 * width) 4,
        ← read (16 + 5 * width) width⟩ := by
  obtain ⟨_ | _, order⟩ := form <;> rfl

/-- A section header whose fields fit is read back from its record. -/
theorem ElfSection.read?_record {form : ElfForm} {nameOffset info : Nat} {header : ElfSection}
    {bytes : Bytes} {offset : Nat} (fits : header.Fits form)
    (held : slice? bytes offset form.sectionBytes = some (header.record form nameOffset info)) :
    read? form bytes offset = some header := by
  have kind : field? form.order (header.record form nameOffset info) 4 4 = some header.kind :=
    field?_record 1 rfl rfl fits.kind
  have flags : field? form.order (header.record form nameOffset info) 8 form.wordBytes =
      some header.flags := field?_record 2 rfl rfl fits.flags
  have place : field? form.order (header.record form nameOffset info) (8 + 2 * form.wordBytes)
      form.wordBytes = some header.offset :=
    field?_record 4 rfl (by obtain ⟨_ | _, order⟩ := form <;> rfl) fits.offset
  have size : field? form.order (header.record form nameOffset info) (8 + 3 * form.wordBytes)
      form.wordBytes = some header.size.toNat :=
    field?_record 5 rfl (by obtain ⟨_ | _, order⟩ := form <;> rfl) fits.size
  have link : field? form.order (header.record form nameOffset info) (8 + 4 * form.wordBytes) 4 =
      some header.link :=
    field?_record 6 rfl (by obtain ⟨_ | _, order⟩ := form <;> rfl) fits.link
  have entryBytes : field? form.order (header.record form nameOffset info)
      (16 + 5 * form.wordBytes) form.wordBytes = some header.entryBytes :=
    field?_record 9 rfl (by obtain ⟨_ | _, order⟩ := form <;> rfl) fits.entryBytes
  rw [read?_eq, held, Option.bind_some]
  simp only [Option.bind_eq_bind, Option.bind_some, kind, flags, place, size, link, entryBytes,
    UInt64.ofNat_toNat]
  rfl

/-- The places of what is read of a file header, for both widths. -/
theorem ElfHeader.read?_eq (form : ElfForm) (bytes : Bytes) :
    read? form bytes = (slice? bytes 0 form.headerBytes).bind fun header => do
      let read := field? form.order header
      let width := form.wordBytes
      return ⟨← read (16 + (8 + 2 * width)) width, ← read (16 + (20 + 3 * width)) 2,
        ← read (16 + (22 + 3 * width)) 2⟩ := by
  obtain ⟨_ | _, order⟩ := form <;> rfl

end Object

namespace Simulation.Library

open Object

variable {form : ElfForm} {library : Library}

/-! ## The parts of an object file -/

theorem length_identification (form : ElfForm) : form.identification.length = 16 := by
  obtain ⟨_ | _, _ | _⟩ := form <;> rfl

theorem length_header (form : ElfForm) (library : Library) :
    (library.header form).length = form.headerBytes := by
  rw [header, List.length_append, length_identification, length_record]
  obtain ⟨_ | _, order⟩ := form <;> rfl

theorem length_symbolTable (form : ElfForm) (library : Library) :
    (library.symbolTable form).length = library.elfSymbols.length * form.symbolBytes :=
  length_flatMap_of_uniform (ElfSymbol.length_record form) library.elfSymbols

/-- The section names end before the section headers begin. -/
theorem sectionNameOffset_le (form : ElfForm) (library : Library) :
    library.sectionNameOffset form + sectionNames.length ≤ library.sectionOffset form := by
  unfold sectionOffset
  omega

theorem length_sections (form : ElfForm) (library : Library) :
    (library.sections form).length = 5 := rfl

/-- What stands before the section headers. -/
theorem length_before (form : ElfForm) (library : Library) :
    (library.header form ++ library.code ++ library.symbolTable form ++ library.names ++
      sectionNames ++ library.padding form).length = library.sectionOffset form := by
  have le := sectionNameOffset_le form library
  simp only [List.length_append, length_header, padding, List.length_replicate]
  unfold sectionNameOffset nameOffset symbolOffset at le ⊢
  omega

theorem length_sectionRecord (form : ElfForm) (library : Library) (entry : Nat × ElfSection) :
    (library.sectionRecord form entry).length = form.sectionBytes :=
  ElfSection.length_record form entry.1 _ entry.2

/-- An image ends with its five section headers. -/
theorem length_image (form : ElfForm) (library : Library) :
    (library.image form).length = library.sectionOffset form + 5 * form.sectionBytes := by
  rw [image, List.length_append, length_before,
    length_flatMap_of_uniform (length_sectionRecord form library), length_sections]

/-! ## The places of the parts -/

/-- The file header is at the beginning of an image. -/
theorem slice?_header (form : ElfForm) (library : Library) :
    slice? (library.image form) 0 form.headerBytes = some (library.header form) := by
  have split : library.image form = [] ++ library.header form ++
      (library.code ++ library.symbolTable form ++ library.names ++ sectionNames ++
        library.padding form ++ (library.sections form).flatMap (library.sectionRecord form)) := by
    simp only [image, List.nil_append, List.append_assoc]
  exact slice?_middle split rfl (length_header form library)

/-- Each symbol is at its place in the symbol table of an image. -/
theorem slice?_symbol (form : ElfForm) (library : Library) {index : Nat}
    (inside : index < library.elfSymbols.length) :
    slice? (library.image form) (library.symbolOffset form + index * form.symbolBytes)
      form.symbolBytes = some (library.elfSymbols[index].record form) := by
  have split : library.image form = (library.header form ++ library.code) ++
      library.elfSymbols.flatMap (ElfSymbol.record form) ++ (library.names ++ sectionNames ++
        library.padding form ++ (library.sections form).flatMap (library.sectionRecord form)) := by
    simp only [image, symbolTable, List.append_assoc]
  have found := slice?_flatMap (ElfSymbol.length_record form) _ split inside
  rwa [List.length_append, length_header] at found

theorem slice?_names (form : ElfForm) (library : Library) :
    slice? (library.image form) (library.nameOffset form) library.names.length =
      some library.names := by
  have split : library.image form =
      (library.header form ++ library.code ++ library.symbolTable form) ++ library.names ++
        (sectionNames ++ library.padding form ++
          (library.sections form).flatMap (library.sectionRecord form)) := by
    simp only [image, List.append_assoc]
  apply slice?_middle split _ rfl
  rw [List.length_append, List.length_append, length_header]
  rfl

theorem slice?_sectionNames (form : ElfForm) (library : Library) :
    slice? (library.image form) (library.sectionNameOffset form) sectionNames.length =
      some sectionNames := by
  have split : library.image form =
      (library.header form ++ library.code ++ library.symbolTable form ++ library.names) ++
        sectionNames ++ (library.padding form ++
          (library.sections form).flatMap (library.sectionRecord form)) := by
    simp only [image, List.append_assoc]
  apply slice?_middle split _ rfl
  rw [List.length_append, List.length_append, List.length_append, length_header]
  rfl

/-- Each section header is at its place in an image. -/
theorem slice?_section (form : ElfForm) (library : Library) {index : Nat}
    (inside : index < (library.sections form).length) :
    slice? (library.image form) (library.sectionOffset form + index * form.sectionBytes)
      form.sectionBytes = some (library.sectionRecord form (library.sections form)[index]) := by
  have found := slice?_flatMap (length_sectionRecord form library) (library.sections form)
    (List.append_nil (library.image form)).symm inside
  rwa [length_before] at found

/-! ## Reading an object file -/

theorem ofBytes?_image (form : ElfForm) (library : Library) :
    ElfForm.ofBytes? (library.image form) = some form := by
  obtain ⟨_ | _, _ | _⟩ := form <;> rfl

/-- The places in an object file that are read are numbers that it has room for. -/
theorem Fits.sectionOffset_lt (fits : library.Fits form) :
    library.sectionOffset form < 256 ^ form.wordBytes := by
  have image := fits.image
  have filled := form.sectionBytes_pos
  rw [length_image] at image
  omega

/-- The header of an image is read with its sections' place and count. -/
theorem readHeader (fits : library.Fits form) :
    ElfHeader.read? form (library.image form) =
      some ⟨library.sectionOffset form, 5, 4⟩ := by
  have place (offset width : Nat) : field? form.order (library.header form) (16 + offset) width =
      field? form.order (record form.order [(2, 1), (2, library.machine.toNat), (4, 1),
        (form.wordBytes, 0), (form.wordBytes, 0), (form.wordBytes, library.sectionOffset form),
        (4, 0), (2, form.headerBytes), (2, 0), (2, 0), (2, form.sectionBytes), (2, 5), (2, 4)])
          offset width := by
    rw [← length_identification form]
    exact field?_append form.order _ _ offset width
  have sections : field? form.order (library.header form) (16 + (8 + 2 * form.wordBytes))
      form.wordBytes = some (library.sectionOffset form) := by
    rw [place]
    exact field?_record 5 rfl (by obtain ⟨_ | _, order⟩ := form <;> rfl)
      fits.sectionOffset_lt
  have count : field? form.order (library.header form) (16 + (20 + 3 * form.wordBytes)) 2 =
      some 5 := by
    rw [place]
    exact field?_record 11 rfl (by obtain ⟨_ | _, order⟩ := form <;> rfl) (by decide)
  have names : field? form.order (library.header form) (16 + (22 + 3 * form.wordBytes)) 2 =
      some 4 := by
    rw [place]
    exact field?_record 12 rfl (by obtain ⟨_ | _, order⟩ := form <;> rfl) (by decide)
  rw [ElfHeader.read?_eq, slice?_header, Option.bind_some]
  simp only [Option.bind_eq_bind, Option.bind_some, sections, count, names]
  rfl

/-- Every section header of an object file fits. -/
theorem Fits.sections_fit (fits : library.Fits form) :
    ∀ entry ∈ library.sections form, entry.2.Fits form := by
  have last := sectionNameOffset_le form library
  have small := fits.sectionOffset_lt
  have word := form.pow_wordBytes_le
  have narrow := form.le_pow_wordBytes
  have entry := form.symbolBytes_le
  unfold sectionNameOffset nameOffset symbolOffset at last
  -- a size within the file is what its header states
  have stated : ∀ {kind flags offset count link entryBytes : Nat}, kind < 256 ^ 4 →
      flags < 256 ^ 4 → offset < 256 ^ form.wordBytes → count < 256 ^ form.wordBytes →
      link < 256 ^ 4 → entryBytes < 256 ^ 4 →
      ElfSection.Fits form ⟨kind, flags, offset, .ofNat count, link, entryBytes⟩ := by
    intro kind flags offset count link entryBytes isKind hasFlags begins ends links each
    refine ⟨isKind, hasFlags.trans_le narrow, begins, ?_, links, each.trans_le narrow⟩
    rwa [UInt64.toNat_ofNat_of_lt' (ends.trans_le word)]
  have nothing : 0 < 256 ^ form.wordBytes := by omega
  intro header member
  simp only [sections, List.mem_cons, List.not_mem_nil, or_false] at member
  rcases member with rfl | rfl | rfl | rfl | rfl
  · exact @stated 0 0 0 0 0 0 (by decide) (by decide) nothing nothing (by decide) (by decide)
  · exact stated (by decide) (by decide) (by omega) (by omega) (by decide) (by decide)
  · exact stated (by decide) (by decide) (by unfold symbolOffset; omega) (by omega) (by decide)
      (by omega)
  · exact stated (by decide) (by decide) (by unfold nameOffset symbolOffset; omega) (by omega)
      (by decide) (by decide)
  · exact stated (by decide) (by decide)
      (by unfold sectionNameOffset nameOffset symbolOffset; omega) (by omega) (by decide)
      (by decide)

/-- Each section of an image is read back. -/
theorem readSection (fits : library.Fits form) {index : Nat}
    (inside : index < (library.sections form).length) :
    ElfSection.read? form (library.image form)
      (library.sectionOffset form + index * form.sectionBytes) =
        some (library.sections form)[index].2 :=
  ElfSection.read?_record (fits.sections_fit _ (List.getElem_mem inside))
    (slice?_section form library inside)

/-- All sections of an image are read back in order. -/
theorem readSections (fits : library.Fits form) :
    ElfSection.readAll? form (library.image form) ⟨library.sectionOffset form, 5, 4⟩ =
      some ((library.sections form).map Prod.snd) := by
  have filled : library.sectionOffset form ≠ 0 := by
    have last := sectionNameOffset_le form library
    have names : 0 < sectionNames.length := by decide
    omega
  have first := readSection fits (Nat.zero_lt_succ 4)
  rw [Nat.zero_mul, Nat.add_zero] at first
  have room : ¬(library.image form).length / form.sectionBytes < 5 := by
    rw [length_image, Nat.not_lt, Nat.le_div_iff_mul_le form.sectionBytes_pos]
    exact Nat.le_add_left _ _
  have later : (List.range 4).mapM (fun index => ElfSection.read? form (library.image form)
      (library.sectionOffset form + (index + 1) * form.sectionBytes)) =
        some ((library.sections form).tail.map Prod.snd) := by
    apply mapM_range_eq_some
    · rfl
    · intro index inside
      rw [List.getElem_map, List.getElem_tail]
      exact readSection fits (Nat.succ_lt_succ inside)
  rw [ElfSection.readAll?, if_neg filled]
  simp only [Option.bind_eq_bind, first, Option.bind_some]
  rw [if_neg (by decide : ¬(5 : Nat) = 0), if_neg room, later]
  rfl

/-- An offset at which a name stands is inside the table. -/
theorem lt_of_namedAt {texts : Bytes} {offset : Nat} {name : String}
    (named : NamedAt texts offset name) : offset < texts.length := by
  obtain ⟨before, after, rfl, rfl⟩ := named
  simp only [List.length_append, List.length_cons]
  omega

/-- Every symbol of the table is read back from its record. -/
theorem readSymbol (fits : library.Fits form) {bytes : Bytes} {offset : Nat} {symbol : ElfSymbol}
    (member : symbol ∈ library.elfSymbols)
    (held : slice? bytes offset form.symbolBytes = some (symbol.record form)) :
    ElfSymbol.read? form bytes offset = some symbol := by
  rcases List.mem_cons.mp member with rfl | later
  · exact ElfSymbol.read?_record held (by decide) (by decide) (by decide) (by decide)
  · obtain ⟨entry, isEntry, rfl⟩ := List.mem_map.mp later
    have named := lt_of_namedAt (library.named entry isEntry)
    exact ElfSymbol.read?_record held (named.trans_le fits.names) entry.2.binding.isLt
      entry.2.kind.isLt entry.2.sectionIndex.toNat_lt

/-- The symbols of an image are read back in order. -/
theorem readSymbols (fits : library.Fits form) :
    Elf.symbols? form (library.image form) ⟨ElfSection.symbolTable, 0, library.symbolOffset form,
      .ofNat (library.symbolTable form).length, 3, form.symbolBytes⟩ =
        some library.elfSymbols := by
  have last := sectionNameOffset_le form library
  have small := fits.sectionOffset_lt
  have word := form.pow_wordBytes_le
  unfold sectionNameOffset nameOffset at last
  have size : (UInt64.ofNat (library.symbolTable form).length).toNat / form.symbolBytes =
      library.elfSymbols.length := by
    rw [UInt64.toNat_ofNat_of_lt' (by omega), length_symbolTable]
    exact Nat.mul_div_cancel _ form.symbolBytes_pos
  have some : 0 < (library.symbolTable form).length := by
    rw [length_symbolTable]
    exact Nat.mul_pos (Nat.zero_lt_succ _) form.symbolBytes_pos
  have inside : library.symbolOffset form < (library.image form).length ∧
      library.symbolOffset form + library.elfSymbols.length * form.symbolBytes ≤
        (library.image form).length := by
    rw [length_image, ← length_symbolTable]
    omega
  rw [Elf.symbols?]
  dsimp only
  rw [size, if_pos inside]
  apply mapM_range_eq_some rfl
  intro index isSymbol
  exact readSymbol fits (List.getElem_mem isSymbol) (slice?_symbol form library isSymbol)

/-- What is read of an object file: all that it was made of. -/
theorem readImage (fits : library.Fits form) :
    Elf.ofBytes? (library.image form) = some ⟨form, (library.sections form).map Prod.snd,
      library.elfSymbols, placedFrom 0 ("" :: library.texts)⟩ := by
  have last := sectionNameOffset_le form library
  have small := fits.sectionOffset_lt
  have word := form.pow_wordBytes_le
  unfold sectionNameOffset at last
  have size {count : Nat} (inside : count ≤ library.sectionOffset form) :
      (UInt64.ofNat count).toNat = count :=
    UInt64.toNat_ofNat_of_lt' (by omega)
  have wholeTexts : ∀ text ∈ "" :: library.texts, '\x00' ∉ text.toList :=
    List.forall_mem_cons.mpr ⟨by decide, library.textsWhole⟩
  have wholeNames : ∀ text ∈ ["", ".text", ".symtab", ".strtab", ".shstrtab"],
      '\x00' ∉ text.toList := by decide
  have sectionTexts : Elf.stringTable? (library.image form)
      ((library.sections form).map Prod.snd) 4 =
        some (placedFrom 0 ["", ".text", ".symtab", ".strtab", ".shstrtab"]) := by
    change (slice? (library.image form) (library.sectionNameOffset form)
      (UInt64.ofNat sectionNames.length).toNat).bind StringTable.ofBytes? = _
    rw [size (by omega), slice?_sectionNames]
    exact StringTable.ofBytes?_zeroEnded wholeNames
  have texts : Elf.stringTable? (library.image form) ((library.sections form).map Prod.snd) 3 =
      some (placedFrom 0 ("" :: library.texts)) := by
    change (slice? (library.image form) (library.nameOffset form)
      (UInt64.ofNat library.names.length).toNat).bind StringTable.ofBytes? = _
    rw [size (by omega), slice?_names]
    exact StringTable.ofBytes?_zeroEnded wholeTexts
  have tables : ((library.sections form).map Prod.snd).reverse.find?
      (fun entry => entry.kind = ElfSection.symbolTable) =
        some ⟨ElfSection.symbolTable, 0, library.symbolOffset form,
          .ofNat (library.symbolTable form).length, 3, form.symbolBytes⟩ := rfl
  simp only [Elf.ofBytes?, Option.bind_eq_bind, Option.bind_some, ofBytes?_image, readHeader fits,
    readSections fits, sectionTexts, tables, readSymbols fits, texts]
  rfl

/-! ## Loading an object file -/

/-- The entry of a symbol is a global function exactly when the symbol is exported. -/
theorem isGlobalFunction_entry (symbol : LibrarySymbol) (offset : Nat) :
    (symbol.entry offset).isGlobalFunction = symbol.isExported := by
  have sameIndex : symbol.sectionIndex.toNat = 0 ↔ symbol.sectionIndex = 0 :=
    @UInt16.toNat_inj symbol.sectionIndex 0
  have index : decide (symbol.sectionIndex.toNat ≠ 0) = decide (symbol.sectionIndex ≠ 0) :=
    decide_eq_decide.mpr (not_congr sameIndex)
  exact congrArg (symbol.binding.val = 1 && symbol.kind.val = 2 && ·) index

/-- The names that are found for the functions among the symbols are their names. -/
theorem filterMap_name?_entries {texts : List String}
    (whole : ∀ text ∈ texts, '\x00' ∉ text.toList) {entries : List (Nat × LibrarySymbol)}
    (named : ∀ entry ∈ entries, NamedAt (zeroEnded texts) entry.1 entry.2.name) :
    ((entries.map fun entry => entry.2.entry entry.1).filter
        ElfSymbol.isGlobalFunction).filterMap (fun symbol =>
          (placedFrom 0 texts).name? symbol.nameOffset) =
      ((entries.map Prod.snd).filter LibrarySymbol.isExported).map (·.name) := by
  induction entries with
  | nil => rfl
  | cons entry later ih =>
      obtain ⟨first, others⟩ := List.forall_mem_cons.mp named
      have found : (placedFrom 0 texts).name? (entry.2.entry entry.1).nameOffset =
          some entry.2.name := name?_of_namedAt whole entry.2.whole first
      rw [List.map_cons, List.filter_cons, isGlobalFunction_entry, List.map_cons, List.filter_cons]
      by_cases exported : entry.2.isExported = true
      · rw [if_pos exported, if_pos exported, List.filterMap_cons, found, ih others]
        rfl
      · rw [if_neg exported, if_neg exported, ih others]

/-- The functions that an object file defines for others, by their names. -/
theorem globalFunctions_image (library : Library) (headers : List ElfSection) :
    Elf.globalFunctions ⟨form, headers, library.elfSymbols, placedFrom 0 ("" :: library.texts)⟩ =
      (library.symbols.filter LibrarySymbol.isExported).map (·.name) := by
  have wholeTexts : ∀ text ∈ "" :: library.texts, '\x00' ∉ text.toList :=
    List.forall_mem_cons.mpr ⟨by decide, library.textsWhole⟩
  rw [Elf.globalFunctions, elfSymbols, List.filter_cons_of_neg (by decide)]
  exact filterMap_name?_entries wholeTexts library.named

/-- Inspecting an image tells its format and lists its exported functions. -/
theorem inspectObject_image (fits : library.Fits form) :
    inspectObject (library.image form) = .ok (match form.width with
      | .bits32 => "elf32"
      | .bits64 => "elf64", (library.symbols.filter LibrarySymbol.isExported).map (·.name)) := by
  have begun : elfMark.isPrefixOf (library.image form) = true := by
    obtain ⟨_ | _, _ | _⟩ := form <;> rfl
  have long : ¬(library.image form).length < hintBytes := by
    have enough := form.le_sectionBytes
    rw [length_image, hintBytes]
    omega
  rw [inspectObject, ObjectFile.ofBytes?, if_neg long, if_pos begun, readImage fits]
  rw [← globalFunctions_image library ((library.sections form).map Prod.snd)]
  rfl

/-- Every list of symbols can be laid out, for instance with the names in their order. -/
theorem exists_layout (symbols : List LibrarySymbol) : ∃ library : Library,
    library.symbols = symbols := by
  have placed : ∀ earlier : List String, ∃ entries : List (Nat × LibrarySymbol),
      entries.map Prod.snd = symbols ∧ ∀ entry ∈ entries, NamedAt
        (zeroEnded (earlier ++ symbols.map (·.name))) entry.1 entry.2.name := by
    induction symbols with
    | nil => exact fun _ => ⟨[], rfl, List.forall_mem_nil _⟩
    | cons symbol later ih =>
        intro earlier
        obtain ⟨entries, same, named⟩ := ih (earlier ++ [symbol.name])
        refine ⟨((zeroEnded earlier).length, symbol) :: entries, ?_, ?_⟩
        · rw [List.map_cons, same]
        · rw [List.append_assoc] at named
          refine List.forall_mem_cons.mpr ⟨?_, named⟩
          refine ⟨zeroEnded earlier, zeroEnded (later.map (·.name)), ?_, rfl⟩
          rw [List.map_cons, zeroEnded_append, zeroEnded_cons, List.append_assoc]
  obtain ⟨entries, same, named⟩ := placed [""]
  refine ⟨⟨0, [], symbols.map LibrarySymbol.name, entries, ?_, named⟩, same⟩
  intro text member
  obtain ⟨symbol, -, rfl⟩ := List.mem_map.mp member
  exact symbol.whole

/-- Every list of symbols can be laid out, and every object file that it is laid out in loads as a
module of the width of the file. The symbols of the module are the names of the functions among
them that are defined for others, in their order and as often as they are there. -/
theorem loads (symbols : List LibrarySymbol) :
    (∃ library : Library, library.symbols = symbols) ∧
      ∀ (library : Library) (form : ElfForm) (files : FileTree) (path : Path),
        library.symbols = symbols → library.Fits form →
          files.read path = .ok (library.image form) →
            ∃ module, loadObject files path = .ok module ∧
              module.format = (match form.width with
                | .bits32 => "elf32"
                | .bits64 => "elf64") ∧
              module.symbols = (symbols.filter LibrarySymbol.isExported).map (·.name) ∧
              ∀ name, module.hasSymbol name = true ↔
                ∃ symbol ∈ symbols, symbol.name = name ∧ symbol.binding = 1 ∧ symbol.kind = 2 ∧
                  symbol.sectionIndex ≠ 0 := by
  refine ⟨exists_layout symbols, ?_⟩
  rintro library form files path rfl fits held
  refine ⟨_, loadObject_eq_ok held (inspectObject_image fits), rfl, rfl, ?_⟩
  intro name
  simp only [MicroModule.hasSymbol, List.contains_iff_mem, List.mem_map, List.mem_filter,
    LibrarySymbol.isExported, Bool.and_eq_true, decide_eq_true_eq]
  constructor
  · rintro ⟨symbol, ⟨member, ⟨binding, kind⟩, index⟩, same⟩
    exact ⟨symbol, member, same, Fin.ext binding, Fin.ext kind, index⟩
  · rintro ⟨symbol, member, same, binding, kind, index⟩
    exact ⟨symbol, ⟨member, ⟨congrArg Fin.val binding, congrArg Fin.val kind⟩, index⟩, same⟩

/-- A library with names that share their ends, one of them local, one of them twice, and one of
a function that is defined elsewhere. -/
def sample : Library where
  machine := 62
  code := List.replicate 16 0xC3
  texts := ["add", "helper", "größe"]
  entries := [(5, ⟨"helper", 0, 2, 1, by decide⟩), (1, ⟨"add", 1, 2, 1, by decide⟩),
    (12, ⟨"größe", 1, 2, 1, by decide⟩), (1, ⟨"add", 1, 2, 1, by decide⟩),
    (7, ⟨"lper", 1, 2, 0, by decide⟩)]
  textsWhole := by decide
  named := by
    have add : NamedAt (zeroEnded ["", "add", "helper", "größe"]) 1 "add" :=
      ⟨zeroEnded [""], zeroEnded ["helper", "größe"], by decide, by decide⟩
    have helper : NamedAt (zeroEnded ["", "add", "helper", "größe"]) 5 "helper" :=
      ⟨zeroEnded ["", "add"], zeroEnded ["größe"], by decide, by decide⟩
    have size : NamedAt (zeroEnded ["", "add", "helper", "größe"]) 12 "größe" :=
      ⟨zeroEnded ["", "add", "helper"], [], by decide, by decide⟩
    have ending : NamedAt (zeroEnded ["", "add", "helper", "größe"]) 7 "lper" :=
      ⟨zeroEnded ["", "add"] ++ Text.encode "he", zeroEnded ["größe"], by decide, by decide⟩
    intro entry member
    simp only [List.mem_cons, List.not_mem_nil, or_false] at member
    rcases member with rfl | rfl | rfl | rfl | rfl
    · exact helper
    · exact add
    · exact size
    · exact add
    · exact ending

theorem loads_sample :
    let form : ElfForm := ⟨.bits32, .big⟩
    sample.Fits form ∧
      (filesWith (sample.image form)).read ⟨"runtime.obj"⟩ = .ok (sample.image form) ∧
      ∃ module, loadObject (filesWith (sample.image form)) ⟨"runtime.obj"⟩ = .ok module ∧
        module.format = "elf32" ∧ module.symbols = ["add", "größe", "add"] ∧
        module.hasSymbol "größe" = true := by
  intro form
  have fits : sample.Fits form := ⟨by decide +kernel, by decide +kernel⟩
  have held : (filesWith (sample.image form)).read ⟨"runtime.obj"⟩ = .ok (sample.image form) := rfl
  obtain ⟨-, load⟩ := loads sample.symbols
  obtain ⟨module, loaded, format, symbols, defines⟩ := load sample form _ _ rfl fits held
  refine ⟨fits, held, module, loaded, format, symbols.trans (by decide), ?_⟩
  have isSymbol : (⟨"größe", 1, 2, 1, by decide⟩ : LibrarySymbol) ∈ sample.symbols :=
    List.mem_cons_of_mem _ (List.mem_cons_of_mem _ List.mem_cons_self)
  exact (defines "größe").mpr ⟨_, isSymbol, rfl, rfl, rfl, by decide⟩

end Simulation.Library

end MicroDevice
