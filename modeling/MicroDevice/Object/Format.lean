import MicroDevice.Object.Elf

/-! # Formats of object files

A file is told by its first bytes: an ELF file, a Mach-O file, or something foreign. A file
that begins as a format and does not go on as it has to is broken.
-/

namespace MicroDevice.Object

/-- What a file turns out to be. -/
inductive ObjectFile where
  | elf (contents : Elf)
  | machO
  | foreign
  deriving Repr

/-- The number of bytes that tell a format. -/
def hintBytes : Nat := 16

/-- The first bytes of an ELF file. -/
def elfMark : Bytes := [0x7F, 0x45, 0x4C, 0x46]

/-- The first bytes of an archive. -/
def archiveMark : Bytes := Text.encode "!<arch>\n"

/-- The first bytes of a Mach-O file for several machines. -/
def fatMark : Bytes := [0xCA, 0xFE, 0xBA, 0xBE]

/-- The first bytes of Mach-O files, each with the number of bytes of the header. -/
def machOMarks : List (Bytes × Nat) :=
  [([0xFE, 0xED, 0xFA, 0xCE], 28), ([0xCE, 0xFA, 0xED, 0xFE], 28),
    ([0xFE, 0xED, 0xFA, 0xCF], 32), ([0xCF, 0xFA, 0xED, 0xFE], 32)]

/-- The number of bytes of the header of an archive member. -/
def memberHeaderBytes : Nat := 60

/-- The size that the header of an archive member states, in decimal digits. -/
def memberSize? (header : Bytes) : Option Nat :=
  let digits := ((header.drop 48).take 10).takeWhile (· ≠ 0x20)
  if digits ≠ [] && digits.all fun byte => 0x30 ≤ byte && byte ≤ 0x39 then
    some (Nat.ofDigitChars 10 (digits.map fun byte => Char.ofNat byte.toNat) 0)
  else none

/-- Whether the rest of an archive is a sequence of members. Members begin at even offsets.
The fuel bounds their number. -/
def hasMembers (bytes : Bytes) : (fuel offset : Nat) → Bool
  | 0, _ => false
  | fuel + 1, offset =>
      if bytes.length ≤ offset + 1 then true
      else
        let offset := offset + offset % 2
        match (slice? bytes offset memberHeaderBytes).bind memberSize? with
        | some size => hasMembers bytes fuel (offset + memberHeaderBytes + size)
        | none => false

/-- Whether a file that begins as an archive is one. -/
def isArchive (bytes : Bytes) : Bool :=
  hasMembers bytes (bytes.length + 1) archiveMark.length

/-- Whether a file that begins with a program stub has the headers of an executable: the
offset of its signature, the signature, and a file header with its section headers. -/
def isExecutable (bytes : Bytes) : Bool :=
  let read := field? .little bytes
  let found := do
    let start ← read 0x3C 4
    let signature ← read start 4
    let sectionCount ← read (start + 6) 2
    let optionalBytes ← read (start + 20) 2
    let mark ← if optionalBytes = 0 then some 0x10B else read (start + 24) 2
    let _ ← slice? bytes (start + 24 + optionalBytes) (40 * sectionCount)
    return signature = 0x4550 && (mark = 0x10B || mark = 0x20B)
  found.getD false

/-- What a file turns out to be, unless it is broken. -/
def ObjectFile.ofBytes? (bytes : Bytes) : Option ObjectFile :=
  if bytes.length < hintBytes then none
  else if elfMark.isPrefixOf bytes then (Elf.ofBytes? bytes).map .elf
  else if archiveMark.isPrefixOf bytes then if isArchive bytes then some .foreign else none
  else if bytes.take 2 = [0x4D, 0x5A] then if isExecutable bytes then some .foreign else none
  else if fatMark.isPrefixOf bytes then some .machO
  else
    match machOMarks.find? fun entry => entry.1.isPrefixOf bytes with
    | some (_, headerBytes) => if headerBytes ≤ bytes.length then some .machO else none
    | none => some .foreign

end MicroDevice.Object
