import MicroDevice.Object.StringTable
import MicroDevice.Word

/-! # ELF files

What is read of an ELF file: its section headers and the symbols of its last symbol table,
with their names. A file is refused when its header, its section headers, its symbols or
one of the two string tables are not wholly inside it.
-/

namespace MicroDevice.Object

/-- The two widths of ELF files. -/
inductive ElfClass where
  | bits32
  | bits64
  deriving DecidableEq, Repr

/-- How the numbers of an ELF file are written. -/
structure ElfForm where
  width : ElfClass
  order : ByteOrder
  deriving DecidableEq, Repr

namespace ElfForm

/-- The number of bytes of an address. -/
def wordBytes (form : ElfForm) : Nat :=
  match form.width with
  | .bits32 => 4
  | .bits64 => 8

/-- The number of bytes of the file header. -/
def headerBytes (form : ElfForm) : Nat :=
  match form.width with
  | .bits32 => 52
  | .bits64 => 64

/-- The number of bytes of a section header. -/
def sectionBytes (form : ElfForm) : Nat :=
  match form.width with
  | .bits32 => 40
  | .bits64 => 64

/-- The number of bytes of a symbol. -/
def symbolBytes (form : ElfForm) : Nat :=
  match form.width with
  | .bits32 => 16
  | .bits64 => 24

/-- The form that the fifth and sixth byte of a file announce. -/
def ofBytes? (bytes : Bytes) : Option ElfForm := do
  let width ← match (bytes[4]? : Option UInt8) with
    | some 1 => some ElfClass.bits32
    | some 2 => some ElfClass.bits64
    | _ => none
  let order ← match (bytes[5]? : Option UInt8) with
    | some 1 => some ByteOrder.little
    | some 2 => some ByteOrder.big
    | _ => none
  return ⟨width, order⟩

end ElfForm

/-- What is read of a file header. -/
structure ElfHeader where
  sectionOffset : Nat
  sectionCount : Nat
  namesIndex : Nat
  deriving DecidableEq, Repr

/-- The header of a file, if it is complete. -/
def ElfHeader.read? (form : ElfForm) (bytes : Bytes) : Option ElfHeader := do
  let header ← slice? bytes 0 form.headerBytes
  let read := field? form.order header
  match form.width with
  | .bits32 => return ⟨← read 32 4, ← read 48 2, ← read 50 2⟩
  | .bits64 => return ⟨← read 40 8, ← read 60 2, ← read 62 2⟩

/-- What is read of a section header. -/
structure ElfSection where
  kind : Nat
  flags : Nat
  offset : Nat
  size : UInt64
  link : Nat
  entryBytes : Nat
  deriving DecidableEq, Repr

namespace ElfSection

/-- The kind of a section that holds symbols. -/
def symbolTable : Nat := 2

/-- The section header at an offset. -/
def read? (form : ElfForm) (bytes : Bytes) (offset : Nat) : Option ElfSection := do
  let header ← slice? bytes offset form.sectionBytes
  let read := field? form.order header
  match form.width with
  | .bits32 =>
      return ⟨← read 4 4, ← read 8 4, ← read 16 4, UInt64.ofNat (← read 20 4), ← read 24 4,
        ← read 36 4⟩
  | .bits64 =>
      return ⟨← read 4 4, ← read 8 8, ← read 24 8, UInt64.ofNat (← read 32 8), ← read 40 4,
        ← read 56 8⟩

/-- Whether a section is loaded and holds code. -/
def isCode (header : ElfSection) : Bool :=
  header.flags / 2 % 2 = 1 && header.flags / 4 % 2 = 1

/-- The section headers of a file. A count of zero stands for the size of the first one. -/
def readAll? (form : ElfForm) (bytes : Bytes) (header : ElfHeader) : Option (List ElfSection) :=
  if header.sectionOffset = 0 then some []
  else do
    let first ← read? form bytes header.sectionOffset
    let count := if header.sectionCount = 0 then first.size.toNat else header.sectionCount
    if bytes.length / form.sectionBytes < count then none
    else
      let later ← (List.range (count - 1)).mapM fun index =>
        read? form bytes (header.sectionOffset + (index + 1) * form.sectionBytes)
      return first :: later

end ElfSection

/-- A symbol of a file. -/
structure ElfSymbol where
  nameOffset : Nat
  binding : Nat
  kind : Nat
  sectionIndex : Nat
  deriving DecidableEq, Repr

namespace ElfSymbol

/-- The symbol at an offset. -/
def read? (form : ElfForm) (bytes : Bytes) (offset : Nat) : Option ElfSymbol := do
  let entry ← slice? bytes offset form.symbolBytes
  let read := field? form.order entry
  let (infoOffset, indexOffset) := match form.width with
    | .bits32 => (12, 14)
    | .bits64 => (4, 6)
  let info ← read infoOffset 1
  return ⟨← read 0 4, info / 16, info % 16, ← read indexOffset 2⟩

/-- Whether a symbol is a function that the file defines for all others. -/
def isGlobalFunction (symbol : ElfSymbol) : Bool :=
  symbol.binding = 1 && symbol.kind = 2 && symbol.sectionIndex ≠ 0

end ElfSymbol

/-- What is read of an ELF file. -/
structure Elf where
  form : ElfForm
  sections : List ElfSection
  symbols : List ElfSymbol
  names : StringTable
  deriving Repr

namespace Elf

/-- The index that stands for the link of the first section. -/
def extendedIndex : Nat := 0xFFFF

/-- The string table in the section of an index; an index out of range has an empty one. -/
def stringTable? (bytes : Bytes) (sections : List ElfSection) (index : Nat) : Option StringTable :=
  let index := if index = extendedIndex then (sections.head?.map (·.link)).getD 0 else index
  match sections[index]? with
  | none => some []
  | some header => (slice? bytes header.offset header.size.toNat).bind StringTable.ofBytes?

/-- The symbols in a section. -/
def symbols? (form : ElfForm) (bytes : Bytes) (table : ElfSection) : Option (List ElfSymbol) :=
  let count := table.size.toNat / table.entryBytes
  if table.offset < bytes.length ∧ table.offset + count * form.symbolBytes ≤ bytes.length then
    (List.range count).mapM fun index =>
      ElfSymbol.read? form bytes (table.offset + index * form.symbolBytes)
  else none

/-- What is read of a file that begins as ELF files do. -/
def ofBytes? (bytes : Bytes) : Option Elf := do
  let form ← ElfForm.ofBytes? bytes
  let header ← ElfHeader.read? form bytes
  let sections ← ElfSection.readAll? form bytes header
  let _ ← stringTable? bytes sections header.namesIndex
  match sections.reverse.find? fun entry => entry.kind = ElfSection.symbolTable with
  | none => return ⟨form, sections, [], []⟩
  | some table =>
      let symbols ← symbols? form bytes table
      let names ← stringTable? bytes sections table.link
      return ⟨form, sections, symbols, names⟩

/-- The number of bytes of loaded code that the section headers declare, if it is a word. -/
def codeSize? (elf : Elf) : Option UInt64 :=
  Word.sum? ((elf.sections.filter ElfSection.isCode).map (·.size))

/-- The names of the functions that the file defines for all others, in their order. -/
def globalFunctions (elf : Elf) : List String :=
  (elf.symbols.filter ElfSymbol.isGlobalFunction).filterMap fun symbol =>
    elf.names.name? symbol.nameOffset

end Elf

end MicroDevice.Object
