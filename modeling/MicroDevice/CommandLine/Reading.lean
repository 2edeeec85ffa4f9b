import MicroDevice.CommandLine.Form

/-! # Reading command lines

The words of a command line are read from the first to the last, and the first word that
does not fit ends the reading. A word that begins with a dash is an option, until the
divider `--`. An option takes its value from after an equals sign or from the next word.
-/

namespace MicroDevice.CommandLine

/-- What a word looks like before the divider. -/
inductive WordShape where
  | divider
  /-- The name of an option, and the value attached to it. -/
  | name (name : String) (attached : Option String)
  | letters (letters : List Char)
  | plain
  deriving DecidableEq, Repr

/-- The shape of a word. A single dash is plain. -/
def WordShape.ofWord (word : String) : WordShape :=
  match word.toList with
  | ['-', '-'] => .divider
  | '-' :: '-' :: rest =>
      .name (String.ofList (rest.takeWhile (· ≠ '=')))
        (match rest.dropWhile (· ≠ '=') with
          | [] => none
          | _ :: value => some (String.ofList value))
  | '-' :: letter :: rest => .letters (letter :: rest)
  | _ => .plain

/-- What has been read of a command line. -/
structure Reading where
  /-- The names of commands, from the outermost. -/
  commands : List String
  /-- The options by their names, with their values. -/
  options : List (String × String)
  operands : List String
  deriving DecidableEq, Repr

namespace Reading

/-- The reading of no words. -/
def empty : Reading := ⟨[], [], []⟩

/-- The reading with one more option. -/
def give (reading : Reading) (option : OptionForm) (value : String) : Except Refusal Reading :=
  let given := reading.options.any fun earlier => earlier.1 == option.name
  if (option.use.repeats || !given) && option.use.accepts value then
    .ok { reading with options := reading.options ++ [(option.name, value)] }
  else .error .misuse

/-- The reading with an option that stands alone. -/
def giveAlone (reading : Reading) (option : OptionForm) : Except Refusal Reading :=
  match option.use with
  | .mark => reading.give option ""
  | .tally => reading.give option ""
  | .question answer => .error answer
  | .single _ => .error .misuse
  | .repeated => .error .misuse

/-- The reading with an option and the value attached to it. -/
def giveAttached (reading : Reading) (option : OptionForm) (value : String) :
    Except Refusal Reading :=
  match option.use with
  | .single _ => reading.give option value
  | .repeated => reading.give option value
  | _ => .error .misuse

/-- The reading with the options of some letters. -/
def giveLetters (form : Form) : Reading → List Char → Except Refusal Reading
  | reading, [] => .ok reading
  | reading, letter :: later =>
      match form.lettered? letter with
      | none => .error .misuse
      | some option =>
          match reading.giveAlone option with
          | .error refusal => .error refusal
          | .ok next => giveLetters form next later

/-- The reading with one more operand, which the form has to have a place for. -/
def operand (form : Form) (reading : Reading) (word : String) : Except Refusal Reading :=
  match form with
  | .group _ _ => .error .misuse
  | .command _ operands =>
      match operands[reading.operands.length]? with
      | none => .error .misuse
      | some accepts =>
          if accepts word then .ok { reading with operands := reading.operands ++ [word] }
          else .error .misuse

/-- Read the words after the divider, which are operands. -/
def readOperands (form : Form) : Reading → List String → Except Refusal Reading
  | reading, [] => .ok reading
  | reading, word :: later =>
      match reading.operand form word with
      | .error refusal => .error refusal
      | .ok next => readOperands form next later

/-- The word that asks for help about the commands that follow it. -/
def helpWord : String := "help"

/-- What a question for help about commands comes to. -/
def helpAbout : Form → List String → Refusal
  | _, [] => .help
  | form, word :: later =>
      match form.command? word with
      | some next => helpAbout next later
      | none =>
          match form with
          | .group _ _ => if word = helpWord ∧ later = [] then .help else .misuse
          | .command _ _ => .misuse

/-- Read words that follow the form they have led to. -/
def read : Form → Reading → List String → Except Refusal Reading
  | _, reading, [] => .ok reading
  | form, reading, word :: later =>
      match WordShape.ofWord word with
      | .divider => readOperands form reading later
      | .letters letters =>
          match giveLetters form reading letters with
          | .error refusal => .error refusal
          | .ok next => read form next later
      | .plain =>
          match form with
          | .group _ commands =>
              match commands.lookup word with
              | some next => read next { reading with commands := reading.commands ++ [word] } later
              | none => .error (if word = helpWord then helpAbout form later else .misuse)
          | .command _ _ =>
              match reading.operand form word with
              | .error refusal => .error refusal
              | .ok next => read form next later
      | .name name attached =>
          match form.named? name with
          | none => .error .misuse
          | some option =>
              match option.use, attached, later with
              | .single _, none, value :: rest =>
                  if WordShape.ofWord value = .plain then
                    match reading.give option value with
                    | .error refusal => .error refusal
                    | .ok next => read form next rest
                  else .error .misuse
              | .repeated, none, value :: rest =>
                  match reading.give option value with
                  | .error refusal => .error refusal
                  | .ok next => read form next rest
              | _, some value, later =>
                  match reading.giveAttached option value with
                  | .error refusal => .error refusal
                  | .ok next => read form next later
              | _, none, later =>
                  match reading.giveAlone option with
                  | .error refusal => .error refusal
                  | .ok next => read form next later

/-- The value of an option. -/
def value? (reading : Reading) (name : String) : Option String :=
  reading.options.lookup name

/-- The values of an option that may be repeated. -/
def values (reading : Reading) (name : String) : List String :=
  (reading.options.filter fun given => given.1 == name).map (·.2)

/-- Whether an option was given. -/
def has (reading : Reading) (name : String) : Bool :=
  (reading.value? name).isSome

end Reading

end MicroDevice.CommandLine
