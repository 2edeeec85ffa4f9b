import MicroDevice.Json.Numeral
import MicroDevice.Text.Characters

/-! # JSON tokens

A text is cut into tokens in one pass over its characters: a `Mode` says what the
characters read so far have begun. A token that is not well formed ends the list with
`malformed`. Blanks between tokens leave no trace.
-/

namespace MicroDevice.Json

/-- A piece of a string: a character, or half of an escaped surrogate pair. -/
inductive Piece where
  | scalar (c : Char)
  | surrogate (code : Nat)
  deriving DecidableEq, Repr

namespace Piece

/-- The piece an escaped code stands for. -/
def ofCode (code : Nat) : Piece :=
  if 0xD800 ≤ code && code ≤ 0xDFFF then surrogate code else scalar (Char.ofNat code)

/-- The character of a surrogate pair. -/
def pair? (high low : Nat) : Option Char :=
  if high < 0xDC00 && 0xDC00 ≤ low then
    some (Char.ofNat (0x10000 + (high - 0xD800) * 0x400 + (low - 0xDC00)))
  else none

/-- The characters of a string, if its surrogates come in pairs. -/
def characters? : List Piece → Option (List Char)
  | [] => some []
  | scalar c :: later => (characters? later).map (c :: ·)
  | surrogate high :: surrogate low :: later =>
      match pair? high low with
      | some c => (characters? later).map (c :: ·)
      | none => none
  | surrogate _ :: _ => none

/-- The text of a string, if its surrogates come in pairs. -/
def text? (pieces : List Piece) : Option String :=
  (characters? pieces).map String.ofList

end Piece

/-- A token of a JSON text. -/
inductive Token where
  | openBrace
  | closeBrace
  | openBracket
  | closeBracket
  | colon
  | comma
  | null
  | boolean (value : Bool)
  | numeral (numeral : Numeral)
  | string (pieces : List Piece)
  | malformed
  deriving DecidableEq, Repr

/-- What the characters read so far have begun. The pieces of a string are held in reverse. -/
inductive Mode where
  | between
  | numeral (scan : Scan)
  | word (expected : List Char) (token : Token)
  | string (pieces : List Piece)
  | escape (pieces : List Piece)
  | code (pieces : List Piece) (digits : List Char)
  deriving DecidableEq, Repr

namespace Mode

/-- What one character does: it ends some tokens, and another mode begins unless the
character is out of place. -/
structure Step where
  tokens : List Token
  next : Option Mode

/-- Whether a character may stand between tokens. -/
def isSpace (c : Char) : Bool :=
  c = ' ' || c = '\t' || c = '\n' || c = '\r'

/-- The step of a character between tokens. -/
def start (c : Char) : Step :=
  match c with
  | '{' => ⟨[.openBrace], some between⟩
  | '}' => ⟨[.closeBrace], some between⟩
  | '[' => ⟨[.openBracket], some between⟩
  | ']' => ⟨[.closeBracket], some between⟩
  | ':' => ⟨[.colon], some between⟩
  | ',' => ⟨[.comma], some between⟩
  | '"' => ⟨[], some (string [])⟩
  | 'n' => ⟨[], some (word ['u', 'l', 'l'] .null)⟩
  | 't' => ⟨[], some (word ['r', 'u', 'e'] (.boolean true))⟩
  | 'f' => ⟨[], some (word ['a', 'l', 's', 'e'] (.boolean false))⟩
  | c =>
      if isSpace c then ⟨[], some between⟩
      else ⟨[], (Scan.begin? c).map numeral⟩

/-- The piece of an escape of one character. -/
def escaped? (c : Char) : Option Piece :=
  match c with
  | '"' => some (.scalar '"')
  | '\\' => some (.scalar '\\')
  | '/' => some (.scalar '/')
  | 'b' => some (.scalar '\x08')
  | 'f' => some (.scalar '\x0c')
  | 'n' => some (.scalar '\n')
  | 'r' => some (.scalar '\r')
  | 't' => some (.scalar '\t')
  | _ => none

/-- The step of a character in any mode. -/
def step : Mode → Char → Step
  | between, c => start c
  | numeral scan, c =>
      match scan.push c with
      | .more further => ⟨[], some (numeral further)⟩
      | .done =>
          let following := start c
          ⟨.numeral scan.numeral :: following.tokens, following.next⟩
      | .broken => ⟨[], none⟩
  | word [] _, _ => ⟨[], none⟩
  | word (expected :: later) token, c =>
      if c = expected then
        if later = [] then ⟨[token], some between⟩ else ⟨[], some (word later token)⟩
      else ⟨[], none⟩
  | string pieces, c =>
      if c = '"' then ⟨[.string pieces.reverse], some between⟩
      else if c = '\\' then ⟨[], some (escape pieces)⟩
      else if c.toNat < 0x20 then ⟨[], none⟩
      else ⟨[], some (string (.scalar c :: pieces))⟩
  | escape pieces, c =>
      if c = 'u' then ⟨[], some (code pieces [])⟩
      else ⟨[], (escaped? c).map fun piece => string (piece :: pieces)⟩
  | code pieces digits, c =>
      match Text.hexDigit? c with
      | none => ⟨[], none⟩
      | some _ =>
          let digits := digits ++ [c]
          if digits.length = 4 then
            ⟨[], some (string (Piece.ofCode (Text.hexValue digits) :: pieces))⟩
          else ⟨[], some (code pieces digits)⟩

/-- The tokens that the end of the text completes. -/
def finish : Mode → List Token
  | between => []
  | numeral scan => if scan.isComplete then [.numeral scan.numeral] else [.malformed]
  | _ => [.malformed]

end Mode

/-- The tokens of a text that is read on from a mode. -/
def tokensFrom : Mode → List Char → List Token
  | mode, [] => mode.finish
  | mode, c :: later =>
      let step := mode.step c
      match step.next with
      | some next => step.tokens ++ tokensFrom next later
      | none => step.tokens ++ [.malformed]

/-- The tokens of a text. -/
def tokens (text : String) : List Token :=
  tokensFrom .between text.toList

end MicroDevice.Json
