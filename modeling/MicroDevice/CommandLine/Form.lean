/-! # Forms of command lines

A form says which options and operands a command takes, or which commands a group of
commands holds. Options have a name, written after two dashes, and perhaps a letter, written
after one.
-/

namespace MicroDevice.CommandLine

/-- Why a command line is not carried out. -/
inductive Refusal where
  | misuse
  | help
  | version
  deriving DecidableEq, Repr

/-- What an option takes, and how often it may be given. -/
inductive OptionUse where
  /-- No value, and given once. -/
  | mark
  /-- No value, and given any number of times. -/
  | tally
  /-- One value of some kind, and given once. -/
  | single (accepts : String → Bool)
  /-- Any value, which may look like an option, and given any number of times. -/
  | repeated
  /-- A question to the program, answered at once. -/
  | question (answer : Refusal)

namespace OptionUse

/-- Whether an option may be given more than once. -/
def repeats : OptionUse → Bool
  | mark => false
  | single _ => false
  | _ => true

/-- Whether an option takes a value. -/
def accepts (use : OptionUse) (value : String) : Bool :=
  match use with
  | single accepts => accepts value
  | _ => true

end OptionUse

/-- An option of a command. Options that take a value have no letter. -/
structure OptionForm where
  name : String
  letter : Option Char
  use : OptionUse

/-- What may follow the name of a command. -/
inductive Form where
  | group (options : List OptionForm) (commands : List (String × Form))
  /-- A command, with the kind of each operand. -/
  | command (options : List OptionForm) (operands : List (String → Bool))

namespace Form

/-- The options that may stand at a place. -/
def options : Form → List OptionForm
  | group options _ => options
  | command options _ => options

/-- The option of a name. -/
def named? (form : Form) (name : String) : Option OptionForm :=
  form.options.find? fun option => option.name == name

/-- The option of a letter. -/
def lettered? (form : Form) (letter : Char) : Option OptionForm :=
  form.options.find? fun option => option.letter == some letter

/-- The form after the name of a command. -/
def command? (form : Form) (name : String) : Option Form :=
  match form with
  | group _ commands => commands.lookup name
  | command _ _ => none

end Form

end MicroDevice.CommandLine
