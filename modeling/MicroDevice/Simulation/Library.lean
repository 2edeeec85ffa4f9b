import Mathlib.Algebra.Group.Nat.Defs
import MicroDevice.Object.Format
import MicroDevice.Simulation.Image

/-! # Library objects

What a compiler leaves of a library: a relocatable ELF file, of either width and either byte
order, with its code, a table of its symbols, and the names of its symbols and sections.
-/

namespace MicroDevice

namespace Object

/-- A number in a fixed count of bytes. -/
def ByteOrder.bytes (order : ByteOrder) (width value : Nat) : Bytes :=
  match order with
  | little => Simulation.littleEndian width value
  | big => (Simulation.littleEndian width value).reverse

/-- Numbers one after another, each with its width. -/
def record (order : ByteOrder) (fields : List (Nat × Nat)) : Bytes :=
  fields.flatMap fun field => order.bytes field.1 field.2

/-- Texts one after another, each with its zero byte. -/
def zeroEnded (texts : List String) : Bytes :=
  texts.flatMap fun text => Text.encode text ++ [0]

/-- Whether a table of texts has a name at an offset: all of it, up to a zero byte. -/
def NamedAt (texts : Bytes) (offset : Nat) (name : String) : Prop :=
  ∃ before after, texts = before ++ Text.encode name ++ 0 :: after ∧ before.length = offset

/-- The first bytes of a file of a form. -/
def ElfForm.identification (form : ElfForm) : Bytes :=
  let width : UInt8 := match form.width with
    | .bits32 => 1
    | .bits64 => 2
  let order : UInt8 := match form.order with
    | .little => 1
    | .big => 2
  elfMark ++ [width, order, 1] ++ List.replicate 9 0

/-- The record of a section header, for a section with a name in the table of names. -/
def ElfSection.record (form : ElfForm) (nameOffset info : Nat) (header : ElfSection) : Bytes :=
  Object.record form.order [(4, nameOffset), (4, header.kind), (form.wordBytes, header.flags),
    (form.wordBytes, 0), (form.wordBytes, header.offset), (form.wordBytes, header.size.toNat),
    (4, header.link), (4, info), (form.wordBytes, 1), (form.wordBytes, header.entryBytes)]

/-- The record of a symbol, for one of eight bytes at address zero. The symbol of no symbol has no
bytes. -/
def ElfSymbol.record (form : ElfForm) (symbol : ElfSymbol) : Bytes :=
  let info := symbol.binding * 16 + symbol.kind
  let size := if symbol = ⟨0, 0, 0, 0⟩ then 0 else 8
  Object.record form.order <|
    match form.width with
    | .bits32 => [(4, symbol.nameOffset), (4, 0), (4, size), (1, info), (1, 0),
        (2, symbol.sectionIndex)]
    | .bits64 => [(4, symbol.nameOffset), (1, info), (1, 0), (2, symbol.sectionIndex), (8, 0),
        (8, size)]

end Object

namespace Simulation

open Object

/-- A symbol of a library. Its name has no zero byte, since that would end it. -/
structure LibrarySymbol where
  name : String
  binding : Fin 16
  kind : Fin 16
  sectionIndex : UInt16
  whole : '\x00' ∉ name.toList

/-- Whether a symbol is a function that the library defines for all others. -/
def LibrarySymbol.isExported (symbol : LibrarySymbol) : Bool :=
  symbol.binding.val = 1 && symbol.kind.val = 2 && symbol.sectionIndex ≠ 0

/-- A symbol as its table has it, with the offset of its name. -/
def LibrarySymbol.entry (offset : Nat) (symbol : LibrarySymbol) : ElfSymbol :=
  ⟨offset, symbol.binding, symbol.kind, symbol.sectionIndex.toNat⟩

/-- A library as a compiler lays it out: its code for a machine, the texts of its table of names,
and its symbols, each with the offset of its name in that table. -/
structure Library where
  machine : UInt16
  code : Bytes
  texts : List String
  entries : List (Nat × LibrarySymbol)
  textsWhole : ∀ text ∈ texts, '\x00' ∉ text.toList
  named : ∀ entry ∈ entries, NamedAt (zeroEnded ("" :: texts)) entry.1 entry.2.name

namespace Library

variable (form : ElfForm) (library : Library)

/-- The symbols of a library, in the order of their table. -/
def symbols : List LibrarySymbol :=
  library.entries.map Prod.snd

/-- The table of the names of the symbols. It begins with the empty text. -/
def names : Bytes :=
  zeroEnded ("" :: library.texts)

/-- The symbols as their table has them. The first is that of no symbol. -/
def elfSymbols : List ElfSymbol :=
  ⟨0, 0, 0, 0⟩ :: library.entries.map fun entry => entry.2.entry entry.1

/-- The table of symbols. -/
def symbolTable : Bytes :=
  library.elfSymbols.flatMap (ElfSymbol.record form)

/-- The table of the names of the sections. -/
def sectionNames : Bytes :=
  zeroEnded ["", ".text", ".symtab", ".strtab", ".shstrtab"]

/-- Where the table of symbols begins. -/
def symbolOffset : Nat :=
  form.headerBytes + library.code.length

/-- Where the table of the names of the symbols begins. -/
def nameOffset : Nat :=
  library.symbolOffset form + (library.symbolTable form).length

/-- Where the table of the names of the sections begins. -/
def sectionNameOffset : Nat :=
  library.nameOffset form + library.names.length

/-- Where the section headers begin: at a multiple of eight bytes. -/
def sectionOffset : Nat :=
  (library.sectionNameOffset form + sectionNames.length + 7) / 8 * 8

/-- The file header. -/
def header : Bytes :=
  form.identification ++ record form.order [(2, 1), (2, library.machine.toNat), (4, 1),
    (form.wordBytes, 0), (form.wordBytes, 0), (form.wordBytes, library.sectionOffset form), (4, 0),
    (2, form.headerBytes), (2, 0), (2, 0), (2, form.sectionBytes), (2, 5), (2, 4)]

/-- The section headers, each with the offset of its name. -/
def sections : List (Nat × ElfSection) :=
  [(0, ⟨0, 0, 0, 0, 0, 0⟩),
    (1, ⟨1, 6, form.headerBytes, .ofNat library.code.length, 0, 0⟩),
    (7, ⟨ElfSection.symbolTable, 0, library.symbolOffset form,
      .ofNat (library.symbolTable form).length, 3, form.symbolBytes⟩),
    (15, ⟨3, 0, library.nameOffset form, .ofNat library.names.length, 0, 0⟩),
    (23, ⟨3, 0, library.sectionNameOffset form, .ofNat sectionNames.length, 0, 0⟩)]

/-- The first global symbol, as the header of the table of symbols states it. -/
def firstGlobal : Nat :=
  1 + (library.symbols.takeWhile fun symbol => symbol.binding.val = 0).length

/-- The record of a section header. -/
def sectionRecord (entry : Nat × ElfSection) : Bytes :=
  entry.2.record form entry.1
    (if entry.2.kind = ElfSection.symbolTable then library.firstGlobal else 0)

/-- The bytes between the tables and the section headers. -/
def padding : Bytes :=
  List.replicate
    (library.sectionOffset form - (library.sectionNameOffset form + sectionNames.length)) 0

/-- The object file of a library. -/
def image : Bytes :=
  library.header form ++ library.code ++ library.symbolTable form ++ library.names ++
    sectionNames ++ library.padding form ++
    (library.sections form).flatMap (library.sectionRecord form)

/-- Whether the places in the object file of a library are numbers that it has room for. -/
structure Fits : Prop where
  names : library.names.length ≤ 256 ^ 4
  image : (library.image form).length ≤ 256 ^ form.wordBytes

end Library

end Simulation

end MicroDevice
