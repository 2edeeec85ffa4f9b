/-! # Texts as bytes

Texts are stored as UTF-8. Reading is either strict (`decode?`) or lenient
(`decodeLossy`): a lenient reading puts U+FFFD for every longest run of bytes that
begins a character and does not complete it, and for every byte that begins none.
-/

namespace MicroDevice

/-- The contents of a file, or a piece of a stream. -/
abbrev Bytes := List UInt8

namespace Text

/-- The UTF-8 bytes of a text. -/
def encode (text : String) : Bytes :=
  text.toUTF8.data.toList

/-- The text of a sequence of bytes that is valid UTF-8. -/
def decode? (bytes : Bytes) : Option String :=
  String.fromUTF8? ⟨bytes.toArray⟩

/-- What a leading byte announces. -/
structure Lead where
  /-- The number of bytes that have to follow. -/
  following : Nat
  /-- The least and greatest value of the first of them. -/
  range : UInt8 × UInt8
  /-- The bits of the code point that the leading byte holds. -/
  bits : Nat

/-- What a byte announces when it begins a character of several bytes. -/
def lead? (byte : UInt8) : Option Lead :=
  if 0xC2 ≤ byte && byte ≤ 0xDF then some ⟨1, (0x80, 0xBF), byte.toNat - 0xC0⟩
  else if byte = 0xE0 then some ⟨2, (0xA0, 0xBF), 0⟩
  else if byte = 0xED then some ⟨2, (0x80, 0x9F), 0x0D⟩
  else if 0xE1 ≤ byte && byte ≤ 0xEF then some ⟨2, (0x80, 0xBF), byte.toNat - 0xE0⟩
  else if byte = 0xF0 then some ⟨3, (0x90, 0xBF), 0⟩
  else if byte = 0xF4 then some ⟨3, (0x80, 0x8F), 4⟩
  else if 0xF1 ≤ byte && byte ≤ 0xF3 then some ⟨3, (0x80, 0xBF), byte.toNat - 0xF0⟩
  else none

/-- Read the bytes that follow a leading byte: the code point if they complete a
character, and the bytes left. -/
def follow : (count : Nat) → (range : UInt8 × UInt8) → (bits : Nat) → Bytes → Option Nat × Bytes
  | 0, _, bits, rest => (some bits, rest)
  | _ + 1, _, _, [] => (none, [])
  | count + 1, (least, greatest), bits, byte :: rest =>
      if least ≤ byte && byte ≤ greatest then
        follow count (0x80, 0xBF) (bits * 64 + (byte.toNat - 0x80)) rest
      else (none, byte :: rest)

/-- Reading continuation bytes never lengthens what is left. -/
theorem follow_length (count : Nat) (range : UInt8 × UInt8) (bits : Nat) (bytes : Bytes) :
    (follow count range bits bytes).2.length ≤ bytes.length := by
  induction bytes generalizing count range bits with
  | nil => cases count <;> simp [follow]
  | cons byte rest shorter =>
      cases count with
      | zero => simp [follow]
      | succ count =>
          obtain ⟨least, greatest⟩ := range
          simp only [follow]
          split
          · exact Nat.le_succ_of_le (shorter _ _ _)
          · exact Nat.le_refl _

/-- The character put for bytes that are no character. -/
def replacement : Char := Char.ofNat 0xFFFD

/-- The characters of a sequence of bytes, with U+FFFD for what is not UTF-8. -/
def decodeLossyList : Bytes → List Char
  | [] => []
  | byte :: rest =>
      if byte < 0x80 then Char.ofNat byte.toNat :: decodeLossyList rest
      else
        match lead? byte with
        | none => replacement :: decodeLossyList rest
        | some lead =>
            let outcome := follow lead.following lead.range lead.bits rest
            (outcome.1.map Char.ofNat).getD replacement :: decodeLossyList outcome.2
termination_by bytes => bytes.length
decreasing_by
  · simp
  · simp
  · exact Nat.lt_succ_of_le (follow_length _ _ _ _)

/-- The text of a sequence of bytes, with U+FFFD for what is not UTF-8. -/
def decodeLossy (bytes : Bytes) : String :=
  String.ofList (decodeLossyList bytes)

end Text

end MicroDevice
