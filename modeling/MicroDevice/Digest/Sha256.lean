import MicroDevice.Text.Utf8

/-! # SHA-256

The digest of a sequence of bytes: the message is padded to whole blocks of 64 bytes, each
block is spread over 64 words, and the words are folded into a state of eight words.
-/

namespace MicroDevice.Sha256

/-- The eight words that blocks are folded into. -/
structure State where
  a : UInt32
  b : UInt32
  c : UInt32
  d : UInt32
  e : UInt32
  f : UInt32
  g : UInt32
  h : UInt32
  deriving DecidableEq, Repr

/-- The state before the first block. -/
def initial : State :=
  ⟨0x6a09e667, 0xbb67ae85, 0x3c6ef372, 0xa54ff53a, 0x510e527f, 0x9b05688c, 0x1f83d9ab, 0x5be0cd19⟩

/-- The constants of the 64 rounds. -/
def constants : List UInt32 :=
  [0x428a2f98, 0x71374491, 0xb5c0fbcf, 0xe9b5dba5, 0x3956c25b, 0x59f111f1, 0x923f82a4, 0xab1c5ed5,
    0xd807aa98, 0x12835b01, 0x243185be, 0x550c7dc3, 0x72be5d74, 0x80deb1fe, 0x9bdc06a7, 0xc19bf174,
    0xe49b69c1, 0xefbe4786, 0x0fc19dc6, 0x240ca1cc, 0x2de92c6f, 0x4a7484aa, 0x5cb0a9dc, 0x76f988da,
    0x983e5152, 0xa831c66d, 0xb00327c8, 0xbf597fc7, 0xc6e00bf3, 0xd5a79147, 0x06ca6351, 0x14292967,
    0x27b70a85, 0x2e1b2138, 0x4d2c6dfc, 0x53380d13, 0x650a7354, 0x766a0abb, 0x81c2c92e, 0x92722c85,
    0xa2bfe8a1, 0xa81a664b, 0xc24b8b70, 0xc76c51a3, 0xd192e819, 0xd6990624, 0xf40e3585, 0x106aa070,
    0x19a4c116, 0x1e376c08, 0x2748774c, 0x34b0bcb5, 0x391c0cb3, 0x4ed8aa4a, 0x5b9cca4f, 0x682e6ff3,
    0x748f82ee, 0x78a5636f, 0x84c87814, 0x8cc70208, 0x90befffa, 0xa4506ceb, 0xbef9a3f7, 0xc67178f2]

/-- A word rotated to the right. -/
def rotate (word : UInt32) (count : UInt32) : UInt32 :=
  (word >>> count) ||| (word <<< (32 - count))

/-- The word of four bytes, the most significant first. -/
def word (bytes : Bytes) : UInt32 :=
  bytes.foldl (fun value byte => (value <<< 8) ||| byte.toUInt32) 0

/-- The bytes of a number, the most significant first. -/
def bigEndian (count : Nat) (value : Nat) : Bytes :=
  (List.range count).reverse.map fun place => UInt8.ofNat (value / Nat.pow 256 place % 256)

/-- The number of zero bytes that fill the last block of a message. -/
def fill (length : Nat) : Nat :=
  (119 - length % 64) % 64

/-- A message with its end mark, zeros, and its length in bits. -/
def pad (message : Bytes) : Bytes :=
  message ++ 0x80 :: List.replicate (fill message.length) 0 ++ bigEndian 8 (8 * message.length)

/-- The pieces of a list that have a given length, the last one perhaps less. The fuel bounds
their number. -/
def pieces (size : Nat) : (fuel : Nat) → Bytes → List Bytes
  | 0, _ => []
  | _ + 1, [] => []
  | fuel + 1, bytes => bytes.take size :: pieces size fuel (bytes.drop size)

/-- The word that follows sixteen words of a schedule. -/
def nextWord (window : List UInt32) : UInt32 :=
  let at_ (index : Nat) := window[index]?.getD 0
  let early := at_ 1
  let late := at_ 14
  (rotate late 17 ^^^ rotate late 19 ^^^ (late >>> 10)) + at_ 9 +
    (rotate early 7 ^^^ rotate early 18 ^^^ (early >>> 3)) + at_ 0

/-- So many words of the schedule that begins with sixteen words. -/
def schedule : (count : Nat) → (window : List UInt32) → List UInt32
  | 0, _ => []
  | count + 1, window => window.head?.getD 0 :: schedule count (window.tail ++ [nextWord window])

/-- The state after one round. -/
def round (state : State) (constant : UInt32 × UInt32) : State :=
  let choice := (state.e &&& state.f) ^^^ (~~~state.e &&& state.g)
  let first := state.h + (rotate state.e 6 ^^^ rotate state.e 11 ^^^ rotate state.e 25) + choice +
    constant.1 + constant.2
  let majority := (state.a &&& state.b) ^^^ (state.a &&& state.c) ^^^ (state.b &&& state.c)
  let second := (rotate state.a 2 ^^^ rotate state.a 13 ^^^ rotate state.a 22) + majority
  ⟨first + second, state.a, state.b, state.c, state.d + first, state.e, state.f, state.g⟩

/-- The state after one block. -/
def compress (state : State) (block : Bytes) : State :=
  let words := schedule 64 ((pieces 4 16 block).map word)
  let last := (constants.zip words).foldl round state
  ⟨state.a + last.a, state.b + last.b, state.c + last.c, state.d + last.d, state.e + last.e,
    state.f + last.f, state.g + last.g, state.h + last.h⟩

/-- The words of a state. -/
def State.words (state : State) : List UInt32 :=
  [state.a, state.b, state.c, state.d, state.e, state.f, state.g, state.h]

/-- The state after all blocks of a message. -/
def hash (message : Bytes) : State :=
  let padded := pad message
  (pieces 64 padded.length padded).foldl compress initial

/-- A byte as two hexadecimal digits in lower case. -/
def hexByte (byte : UInt8) : List Char :=
  [Nat.digitChar (byte.toNat / 16), Nat.digitChar (byte.toNat % 16)]

/-- The digest of a message, in hexadecimal digits. -/
def digest (message : Bytes) : String :=
  String.ofList (((hash message).words.flatMap fun word => bigEndian 4 word.toNat).flatMap hexByte)

end MicroDevice.Sha256
