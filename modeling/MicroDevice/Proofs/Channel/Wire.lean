import MicroDevice.Proofs.Channel.Commands
import MicroDevice.Proofs.Text.Digits

/-! # Commands on the wire

The server receives all bytes that a channel writes (`Network.wire`), however it divides them into
commands. Of the commands of an operation a channel writes those up to the first that fails, and
all of them if the operation succeeds (`DebugChannel.Sends`). The address that a command was made
with can be read back from its text.
-/

namespace MicroDevice

/-- All bytes that were written to the server. -/
def Network.wire (network : Network) : Bytes :=
  network.received.flatMap Connection.framed

namespace Connection

/-- Pieces framed one by one are the pieces joined by terminators, framed as a whole. -/
theorem flatMap_framed {pieces : List Bytes} (some : pieces ≠ []) :
    pieces.flatMap framed = framed ([terminator].intercalate pieces) := by
  induction pieces with
  | nil => exact absurd rfl some
  | cons piece later ih =>
      cases later with
      | nil => simp [framed]
      | cons next later =>
          rw [List.flatMap_cons, ih (List.cons_ne_nil _ _), List.intercalate_cons_cons]
          simp only [framed, List.append_assoc]

/-- However a server divides what was written, it gets all of it. -/
theorem flatMap_framed_commandsIn (bytes : Bytes) :
    (commandsIn (framed bytes)).flatMap framed = framed bytes := by
  have pieces : commandsIn (framed bytes) = bytes.splitOn terminator := by
    rw [commandsIn, framed, List.splitOn_append_cons_self, List.splitOn_nil,
      List.dropLast_concat]
  rw [pieces, flatMap_framed (List.splitOn_ne_nil _ _), List.intercalate_splitOn]

/-- A command adds itself, framed, to the bytes written. -/
theorem wire_command (text : String) (state : Connection × Network) :
    ((command text).run state).2.2.wire = state.2.wire ++ framed (Text.encode text) := by
  change (state.2.received ++ commandsIn (framed (Text.encode text))).flatMap framed = _
  rw [List.flatMap_append, flatMap_framed_commandsIn, Network.wire]

end Connection

namespace DebugChannel

open Connection

/-- Commands are written to a server, the first of them or, if the operation is done, all. -/
def Sends (commands : List String) (done : Prop) (before after : Network) : Prop :=
  ∃ sent, sent <+: commands ∧ (done → sent = commands) ∧
    after.wire = before.wire ++ sent.flatMap written

/-- An operation that is done has written all of its commands. -/
theorem Sends.of_done {commands : List String} {done : Prop} {before after : Network}
    (sends : Sends commands done before after) (isDone : done) :
    after.wire = before.wire ++ commands.flatMap written := by
  obtain ⟨sent, -, all, wire_eq⟩ := sends
  rw [wire_eq, all isDone]

/-- What one command writes comes before what the later ones write. -/
theorem Sends.cons {command : String} {later : List String} {done : Prop}
    {before middle after : Network} (first : middle.wire = before.wire ++ written command)
    (rest : Sends later done middle after) : Sends (command :: later) done before after := by
  obtain ⟨sent, isPrefix, all, wire_eq⟩ := rest
  refine ⟨command :: sent, (List.prefix_cons_inj command).mpr isPrefix,
    fun isDone => congrArg (command :: ·) (all isDone), ?_⟩
  rw [wire_eq, first, List.flatMap_cons, List.append_assoc]

/-- Running commands in turn writes a prefix of them, and all of them when it succeeds. -/
theorem sends_runAll {Fault : Type} (worded : String → ReplyFault → Fault)
    (commands : List String) (state : Connection × Network) :
    Sends commands (((runAll worded commands).run state).1 = .ok ()) state.2
      ((runAll worded commands).run state).2.2 := by
  induction commands generalizing state with
  | nil => exact ⟨[], List.nil_prefix, fun _ => rfl, (List.append_nil _).symm⟩
  | cons command later ih =>
      have first := wire_command (caught command) state
      rw [runAll_cons]
      rcases verdict ((Connection.command (caught command)).run state).1 with fault | _
      · refine ⟨[command], ⟨later, rfl⟩, ?_, ?_⟩
        · intro impossible
          cases impossible
        · rw [List.flatMap_singleton]
          exact first
      · exact (ih ((Connection.command (caught command)).run state).2).cons first

/-! ## Addresses in commands -/

/-- The number that a word writes in base sixteen, after the mark of the base. -/
def hexWord? : List Char → Option Nat
  | '0' :: 'x' :: digits =>
      if !digits.isEmpty && digits.all fun digit => (Text.hexDigit? digit).isSome then
        some (Text.hexValue digits)
      else none
  | _ => none

/-- The address at which a command loads an image: the last but one of its words. -/
def loadOffset? (command : String) : Option Nat :=
  if "load_image ".toList <+: command.toList then
    (command.toList.splitOn ' ').reverse[1]?.bind hexWord?
  else none

/-- The address to which a command sets the stack pointer: the last of its three words. -/
def stackAddress? (command : String) : Option Nat :=
  match command.toList.splitOn ' ' with
  | [register, name, address] =>
      if register = "reg".toList ∧ name = "sp".toList then hexWord? address else none
  | _ => none

/-- An address that is written in hexadecimal is read back. -/
theorem hexWord?_toDigits (value : Nat) :
    hexWord? ('0' :: 'x' :: Nat.toDigits 16 value) = some value := by
  have notEmpty : (Nat.toDigits 16 value).isEmpty = false :=
    List.isEmpty_eq_false_iff.mpr Nat.toDigits_ne_nil
  have digits : (Nat.toDigits 16 value).all fun digit => (Text.hexDigit? digit).isSome := by
    rw [List.all_eq_true]
    intro digit member
    obtain ⟨number, small, rfl⟩ := Text.exists_digit_of_mem_toDigits (by decide) member
    rw [Text.hexDigit?_digitChar number small]
    rfl
  rw [hexWord?, notEmpty, digits, Text.hexValue_toDigits]
  rfl

/-- A written address holds no blank. -/
theorem blank_not_mem_address (value : Nat) : ' ' ∉ '0' :: 'x' :: Nat.toDigits 16 value := by
  simp only [List.mem_cons, not_or]
  refine ⟨by decide, by decide, fun member => ?_⟩
  obtain ⟨digit, small, same⟩ := Text.exists_digit_of_mem_toDigits (by decide) member
  have value := Text.hexDigit?_digitChar digit small
  rw [← same] at value
  cases value

/-- The address of an opening can be read back from the command that loads the runtime. -/
theorem loadOffset?_loading (runtime : Path) (base : UInt64) :
    ∃ load, loading runtime base = ["reset halt", load] ∧
      loadOffset? load = some base.toNat := by
  obtain ⟨load, load_eq⟩ : ∃ load, load = "load_image " ++ runtime.text ++ " 0x" ++
      String.ofList (Nat.toDigits 16 base.toNat) ++ " elf" := ⟨_, rfl⟩
  refine ⟨load, by rw [loading, load_eq], ?_⟩
  have text : load.toList = ("load_image ".toList ++ runtime.text.toList) ++
      ' ' :: (('0' :: 'x' :: Nat.toDigits 16 base.toNat) ++ ' ' :: "elf".toList) := by
    simp [load_eq]
  have begins : "load_image ".toList <+: load.toList := by
    rw [text, List.append_assoc]
    exact List.prefix_append _ _
  have last : "elf".toList.splitOn ' ' = ["elf".toList] := by decide
  -- the path may have blanks in it, but what follows it has two words
  rw [loadOffset?, if_pos begins, text, List.splitOn_append_cons_self,
    List.splitOn_append_cons_self, List.splitOn_eq_singleton (blank_not_mem_address _), last]
  generalize ("load_image ".toList ++ runtime.text.toList).splitOn ' ' = leading
  rw [List.reverse_append]
  exact hexWord?_toDigits _

/-- The address of an entry can be read back from the command that sets the stack pointer. -/
theorem stackAddress?_commands (stackPointer : UInt64) :
    ∃ sets, commands stackPointer .enter = ["reset halt", sets] ∧
      stackAddress? sets = some stackPointer.toNat := by
  refine ⟨_, rfl, ?_⟩
  have text : ("reg sp 0x" ++ String.ofList (Nat.toDigits 16 stackPointer.toNat)).toList =
      "reg".toList ++ ' ' :: ("sp".toList ++
        ' ' :: ('0' :: 'x' :: Nat.toDigits 16 stackPointer.toNat)) := by
    simp
  rw [stackAddress?, text, List.splitOn_append_cons_self, List.splitOn_append_cons_self,
    List.splitOn_eq_singleton (by decide), List.splitOn_eq_singleton (by decide),
    List.splitOn_eq_singleton (blank_not_mem_address _)]
  exact (if_pos ⟨rfl, rfl⟩).trans (hexWord?_toDigits _)

end DebugChannel

end MicroDevice
