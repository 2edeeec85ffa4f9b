import MicroDevice.Proofs.Channel.Commands
import MicroDevice.Proofs.Text.Digits
import MicroDevice.Proofs.Text.Encoding

/-! # Conversations with a debug server

What a channel over a debug server and the server say to each other, as a list of exchanges. Each
operation runs through its commands and stops after the first that fails (`Course`). On the life
of a channel (`Life`) these courses follow one another until it is closed, and the server gets
just the commands of the exchanges.
-/

namespace MicroDevice

/-- Using an opener is opening a channel and, if that succeeds, making the calls of the hooks on
it. -/
theorem Opener.run_use {Kind : Type} [Channel Kind] (opener : Opener Kind)
    (params : ChannelParams) (files : FileTree) (hooks : List Hook) (network : Network) :
    (opener.use params files hooks).run network =
      match (opener params files).run network with
      | (.error error, later) => (.error error, later)
      | (.ok channel, later) =>
          (.ok (Action.runEach (hooks.map Channel.perform) (channel, later)).1,
            (Action.runEach (hooks.map Channel.perform) (channel, later)).2.2) := by
  unfold Opener.use
  rfl

namespace DebugChannel

open Connection

/-- A command of an operation, and what comes of the call that sends it. -/
structure Exchange where
  command : String
  answer : Except IoFault String

namespace Exchange

/-- The call that sends the command. -/
def call (exchange : Exchange) : Action (Connection × Network) IoFault String :=
  Connection.command (caught exchange.command)

/-- The answer says that the command succeeded. -/
def Succeeds (exchange : Exchange) : Prop :=
  ∃ reply, exchange.answer = .ok reply ∧ Text.trim reply = "micrort-ok"

/-- Why the command failed: there is no answer, the answer reports an error, or it is none that
the command could give. -/
inductive Fails : Exchange → ReplyFault → Prop
  | connection (command : String) (fault : IoFault) :
      Fails ⟨command, .error fault⟩ (.connection fault)
  | reported {command reply message : String}
      (reports : Text.trim reply = "micrort-error:" ++ message) :
      Fails ⟨command, .ok reply⟩ (.reported (Text.trim message))
  | unexpected {command reply : String} (not_ok : Text.trim reply ≠ "micrort-ok")
      (untagged : ∀ message, Text.trim reply ≠ "micrort-error:" ++ message) :
      Fails ⟨command, .ok reply⟩ (.unexpected (Text.trim reply))

end Exchange

/-- The course of an operation: its commands are sent in order, and none after one that failed. -/
inductive Course : List String → List Exchange → Except (String × ReplyFault) Unit → Prop
  | done : Course [] [] (.ok ())
  | stopped {command : String} {answer : Except IoFault String} {fault : ReplyFault}
      {later : List String} (fails : Exchange.Fails ⟨command, answer⟩ fault) :
      Course (command :: later) [⟨command, answer⟩] (.error (command, fault))
  | next {command : String} {answer : Except IoFault String} {later : List String}
      {exchanges : List Exchange} {outcome : Except (String × ReplyFault) Unit}
      (succeeds : Exchange.Succeeds ⟨command, answer⟩) (rest : Course later exchanges outcome) :
      Course (command :: later) (⟨command, answer⟩ :: exchanges) outcome

/-- The operations of a channel one after another. On an open channel each takes its course. A
channel that was closed sends nothing any more, and all that it is asked for fails. -/
inductive Uses (stackPointer : UInt64) :
    (isOpen : Bool) → List Hook → List Exchange → List (Except SessionError Unit) → Prop
  | nil {isOpen : Bool} : Uses stackPointer isOpen [] [] []
  | run {hook : Hook} {hooks : List Hook} {exchanges later : List Exchange}
      {outcome : Except (String × ReplyFault) Unit} {outcomes : List (Except SessionError Unit)}
      (other : hook ≠ .close) (course : Course (commands stackPointer hook) exchanges outcome)
      (rest : Uses stackPointer true hooks later outcomes) :
      Uses stackPointer true (hook :: hooks) (exchanges ++ later)
        (outcome.mapError (fun (command, fault) => .channel (.command command fault)) :: outcomes)
  | close {hooks : List Hook} {outcomes : List (Except SessionError Unit)}
      (rest : Uses stackPointer false hooks [] outcomes) :
      Uses stackPointer true (.close :: hooks) [] (.ok () :: outcomes)
  | shut {hook : Hook} {hooks : List Hook} {outcomes : List (Except SessionError Unit)}
      (rest : Uses stackPointer false hooks [] outcomes) :
      Uses stackPointer false (hook :: hooks) [] (.error (.channel .debugClosed) :: outcomes)

/-- The life of a channel that reached its server. Nothing is sent if the regions do not say where
the runtime is loaded and the stack begins. Else opening takes its course, and the operations
follow if it succeeds. -/
inductive Life (params : ChannelParams) :
    List Hook → List Exchange → Except SessionError (List (Except SessionError Unit)) → Prop
  | unplaced {hooks : List Hook} {fault : OpenFault} (lacks : Places params (.error fault)) :
      Life params hooks [] (.error (.opening ⟨"openocd", fault⟩))
  | refused {hooks : List Hook} {base top : UInt64} {exchanges : List Exchange}
      {command : String} {fault : ReplyFault} (places : Places params (.ok (base, top)))
      (course : Course (loading params.runtime base) exchanges (.error (command, fault))) :
      Life params hooks exchanges (.error (.opening ⟨"openocd", .command command fault⟩))
  | opened {hooks : List Hook} {base top : UInt64} {exchanges later : List Exchange}
      {outcomes : List (Except SessionError Unit)} (places : Places params (.ok (base, top)))
      (course : Course (loading params.runtime base) exchanges (.ok ()))
      (uses : Uses top true hooks later outcomes) :
      Life params hooks (exchanges ++ later) (.ok outcomes)

/-! ## Calls that were made -/

/-- A client that makes the calls of exchanges gets their answers, and comes to another state. -/
def Held (exchanges : List Exchange) (state last : Connection × Network) : Prop :=
  Action.runEach (exchanges.map Exchange.call) state = (exchanges.map (·.answer), last)

/-- What the next call of a client makes. -/
def exchangeOf (command : String) (state : Connection × Network) : Exchange :=
  ⟨command, ((Connection.command (caught command)).run state).1⟩

variable {state middle last : Connection × Network} {exchanges first later : List Exchange}

theorem held_nil (state : Connection × Network) : Held [] state state := rfl

/-- A call made before a conversation prolongs it. -/
theorem Held.cons {command : String}
    (held : Held later ((Connection.command (caught command)).run state).2 last) :
    Held (exchangeOf command state :: later) state last := by
  unfold Held at held ⊢
  rw [List.map_cons, List.map_cons, Action.runEach_cons]
  change (_ :: (Action.runEach _ ((Connection.command (caught command)).run state).2).1,
    (Action.runEach _ ((Connection.command (caught command)).run state).2).2) = _
  rw [held]
  rfl

theorem Held.append (begun : Held first state middle) (held : Held later middle last) :
    Held (first ++ later) state last := by
  unfold Held at begun held ⊢
  rw [List.map_append, List.map_append, Action.runEach_append, begun, held]

/-- A server receives the commands of a conversation, in order and one for each call. -/
theorem Held.received_eq (held : Held exchanges state last)
    (clean : ∀ exchange ∈ exchanges, terminator ∉ Text.encode (caught exchange.command)) :
    last.2.received = state.2.received ++
      exchanges.map fun exchange => Text.encode (caught exchange.command) := by
  have texts : ∀ text ∈ exchanges.map fun exchange => caught exchange.command,
      terminator ∉ Text.encode text := by
    intro text member
    obtain ⟨exchange, found, rfl⟩ := List.mem_map.mp member
    exact clean exchange found
  have received := received_runEach _ texts state
  have calls : (exchanges.map fun exchange => caught exchange.command).map Connection.command =
      exchanges.map Exchange.call := List.map_map
  rw [calls, held, List.map_map] at received
  exact received

/-! ## Operations -/

/-- A reply that is judged to be a fault makes its exchange fail with that fault. -/
theorem judge_error {reply : String} {fault : ReplyFault} (judged : judge reply = .error fault)
    (command : String) : Exchange.Fails ⟨command, .ok reply⟩ fault := by
  unfold judge at judged
  dsimp only at judged
  split at judged
  · cases judged
  · rename_i not_ok
    split at judged
    · rename_i isTagged
      cases judged
      obtain ⟨message, split⟩ := List.isPrefixOf_iff_prefix.mp isTagged
      have reports : Text.trim reply = "micrort-error:" ++ String.ofList message := by
        apply String.toList_injective
        rw [String.toList_append, @String.toList_ofList message]
        exact split.symm
      have length : errorTag.length = errorTag.toList.length := String.length_toList.symm
      have rest : (Text.trim reply).toList.drop errorTag.length = message := by
        rw [length, ← split, List.drop_left]
      rw [rest]
      exact .reported reports
    · rename_i untagged
      cases judged
      refine .unexpected not_ok fun message reports => untagged ?_
      rw [reports, String.toList_append]
      exact List.isPrefixOf_iff_prefix.mpr (List.prefix_append _ _)

/-- An exchange succeeds or fails, as its verdict says. -/
theorem verdict_cases (command : String) (answer : Except IoFault String) :
    (verdict answer = .ok () ∧ Exchange.Succeeds ⟨command, answer⟩) ∨
      ∃ fault, verdict answer = .error fault ∧ Exchange.Fails ⟨command, answer⟩ fault := by
  rcases judged : verdict answer with fault | _
  · refine .inr ⟨fault, rfl, ?_⟩
    cases answer with
    | error lost =>
        cases judged
        exact .connection command lost
    | ok reply =>
        change judge reply = .error fault at judged
        exact judge_error judged command
  · exact .inl ⟨rfl, verdict_ok_iff.mp judged⟩

/-- Running commands takes its course. -/
theorem course_of_runAll {Fault : Type} (worded : String → ReplyFault → Fault)
    (commands : List String) (state : Connection × Network) :
    ∃ exchanges outcome last, Course commands exchanges outcome ∧ Held exchanges state last ∧
      (runAll worded commands).run state =
        (outcome.mapError fun (command, fault) => worded command fault, last) := by
  induction commands generalizing state with
  | nil => exact ⟨[], .ok (), state, .done, held_nil state, rfl⟩
  | cons command commands ih =>
      rw [runAll_cons]
      rcases verdict_cases command ((Connection.command (caught command)).run state).1 with
        ⟨succeeded, succeeds⟩ | ⟨fault, failed, fails⟩
      · obtain ⟨exchanges, outcome, last, course, held, ran⟩ :=
          ih ((Connection.command (caught command)).run state).2
        rw [succeeded]
        exact ⟨exchangeOf command state :: exchanges, outcome, last,
          .next succeeds course, held.cons, ran⟩
      · rw [failed]
        exact ⟨[exchangeOf command state], .error (command, fault),
          ((Connection.command (caught command)).run state).2,
          .stopped fails, (held_nil _).cons, rfl⟩

/-- A closed channel refuses everything and sends nothing. -/
theorem uses_shut (stackPointer : UInt64) (hooks : List Hook) (network : Network) :
    ∃ outcomes, Uses stackPointer false hooks [] outcomes ∧
      Action.runEach (hooks.map Channel.perform) ((⟨none, stackPointer⟩ : DebugChannel), network) =
        (outcomes, ⟨none, stackPointer⟩, network) := by
  induction hooks with
  | nil => exact ⟨[], .nil, rfl⟩
  | cons hook hooks ih =>
      obtain ⟨outcomes, uses, ran⟩ := ih
      refine ⟨_, .shut uses, ?_⟩
      have refused : (Channel.perform hook).run
          ((⟨none, stackPointer⟩ : DebugChannel), network) =
            (.error (.channel .debugClosed), ⟨none, stackPointer⟩, network) := by
        cases hook <;> rfl
      rw [List.map_cons, Action.runEach_cons, refused, ran]

/-- The operations of an open channel take their courses until it is closed. -/
theorem uses_open (stackPointer : UInt64) (hooks : List Hook) (connection : Connection)
    (network : Network) :
    ∃ exchanges outcomes left channel last,
      Uses stackPointer true hooks exchanges outcomes ∧
      Held exchanges (connection, network) (left, last) ∧
      Action.runEach (hooks.map Channel.perform)
        ((⟨some connection, stackPointer⟩ : DebugChannel), network) =
          (outcomes, channel, last) := by
  induction hooks generalizing connection network with
  | nil => exact ⟨[], [], connection, _, network, .nil, held_nil _, rfl⟩
  | cons hook hooks ih =>
      by_cases closes : hook = .close
      · -- the operations after this one find a closed channel, which the induction says nothing of
        subst closes
        obtain ⟨outcomes, uses, ran⟩ := uses_shut stackPointer hooks network
        refine ⟨[], _, connection, ⟨none, stackPointer⟩, network, .close uses, held_nil _, ?_⟩
        have closed : (Channel.perform .close).run
            ((⟨some connection, stackPointer⟩ : DebugChannel), network) =
              (.ok (), ⟨none, stackPointer⟩, network) := rfl
        rw [List.map_cons, Action.runEach_cons, closed, ran]
      · obtain ⟨first, outcome, ⟨rest, middle⟩, course, begun, performed⟩ :=
          course_of_runAll ChannelFault.command (commands stackPointer hook) (connection, network)
        obtain ⟨later, outcomes, left, channel, last, uses, held, ran⟩ := ih rest middle
        refine ⟨first ++ later, _, left, channel, last, .run closes course uses,
          begun.append held, ?_⟩
        have asked := perform_of_open closes connection stackPointer network
        rw [performed] at asked
        rw [List.map_cons, Action.runEach_cons, asked, ran]
        cases outcome <;> rfl

/-! ## Commands hold no terminator -/

/-- Only commands of the operation are sent in its course. -/
theorem Course.command_mem {commands : List String} {exchanges : List Exchange}
    {outcome : Except (String × ReplyFault) Unit} (course : Course commands exchanges outcome) :
    ∀ exchange ∈ exchanges, exchange.command ∈ commands := by
  induction course with
  | done => exact List.forall_mem_nil _
  | stopped fails => exact List.forall_mem_singleton.mpr List.mem_cons_self
  | next succeeds rest ih =>
      exact List.forall_mem_cons.mpr
        ⟨List.mem_cons_self, fun exchange member => List.mem_cons_of_mem _ (ih exchange member)⟩

/-- A text in which a server does not find the end of a command. -/
def Clean (text : String) : Prop :=
  terminator ∉ Text.encode text

instance (text : String) : Decidable (Clean text) :=
  inferInstanceAs (Decidable (terminator ∉ Text.encode text))

theorem clean_append_iff {text more : String} : Clean (text ++ more) ↔ Clean text ∧ Clean more := by
  unfold Clean Text.encode String.toUTF8
  rw [String.toByteArray_append, ByteArray.data_append, Array.toList_append, List.mem_append,
    not_or]

/-- No hexadecimal digit is encoded with a terminator. -/
theorem not_mem_utf8EncodeChar_digitChar :
    ∀ digit < 16, terminator ∉ String.utf8EncodeChar (Nat.digitChar digit) := by
  decide

/-- Hexadecimal numbers are clean of terminators. -/
theorem clean_digits (value : Nat) : Clean (String.ofList (Nat.toDigits 16 value)) := by
  unfold Clean
  rw [Text.encode_ofList, List.mem_flatMap]
  rintro ⟨c, member, holds⟩
  obtain ⟨digit, small, rfl⟩ := Text.exists_digit_of_mem_toDigits (by decide) member
  exact not_mem_utf8EncodeChar_digitChar digit small holds

theorem clean_caught {command : String} (clean : Clean command) : Clean (caught command) := by
  unfold caught
  simp only [clean_append_iff, clean, and_true]
  decide

/-- The commands of every hook are clean. -/
theorem clean_commands (stackPointer : UInt64) (hook : Hook) :
    ∀ command ∈ commands stackPointer hook, Clean command := by
  cases hook with
  | enter =>
      have sets : Clean ("reg sp 0x" ++ String.ofList (Nat.toDigits 16 stackPointer.toNat)) :=
        clean_append_iff.mpr ⟨by decide, clean_digits _⟩
      exact List.forall_mem_cons.mpr ⟨by decide, List.forall_mem_singleton.mpr sets⟩
  | exit => exact List.forall_mem_singleton.mpr (by decide)
  | close => exact List.forall_mem_nil _

/-- The commands that load a runtime are clean when its path is. -/
theorem clean_loading {runtime : Path} (clean : Clean runtime.text) (base : UInt64) :
    ∀ command ∈ loading runtime base, Clean command := by
  have loads : Clean ("load_image " ++ runtime.text ++ " 0x" ++
      String.ofList (Nat.toDigits 16 base.toNat) ++ " elf") := by
    simp only [clean_append_iff, clean, clean_digits, and_true]
    decide
  exact List.forall_mem_cons.mpr ⟨by decide, List.forall_mem_singleton.mpr loads⟩

/-- Every command sent by the hooks of a channel is clean. -/
theorem Uses.clean {stackPointer : UInt64} {isOpen : Bool} {hooks : List Hook}
    {exchanges : List Exchange} {outcomes : List (Except SessionError Unit)}
    (uses : Uses stackPointer isOpen hooks exchanges outcomes) :
    ∀ exchange ∈ exchanges, Clean exchange.command := by
  induction uses with
  | nil => exact List.forall_mem_nil _
  | run other course rest ih =>
      refine List.forall_mem_append.mpr ⟨fun exchange member => ?_, ih⟩
      exact clean_commands _ _ _ (course.command_mem exchange member)
  | close rest ih => exact ih
  | shut rest ih => exact ih

/-- Every command sent in the life of a channel is clean when the path of its runtime is. -/
theorem Life.clean {params : ChannelParams} (runtime : Clean params.runtime.text)
    {hooks : List Hook} {exchanges : List Exchange}
    {outcome : Except SessionError (List (Except SessionError Unit))}
    (life : Life params hooks exchanges outcome) :
    ∀ exchange ∈ exchanges, Clean exchange.command := by
  have opening {base : UInt64} {exchanges : List Exchange}
      {outcome : Except (String × ReplyFault) Unit}
      (course : Course (loading params.runtime base) exchanges outcome) :
      ∀ exchange ∈ exchanges, Clean exchange.command :=
    fun exchange member => clean_loading runtime base _ (course.command_mem exchange member)
  cases life with
  | unplaced lacks => exact List.forall_mem_nil _
  | refused places course => exact opening course
  | opened places course uses => exact List.forall_mem_append.mpr ⟨opening course, uses.clean⟩

/-! ## The life of a channel -/

/-- Opening a channel and using it makes the calls of its life, one after another. -/
theorem held_of_use {server : Server} {network : Network} (hosts : network.server = some server)
    (params : ChannelParams) (files : FileTree) (hooks : List Hook) :
    ∃ exchanges outcome left last, Life params hooks exchanges outcome ∧
      Held exchanges (fresh, network) (left, last) ∧
      (openDebug.use params files hooks).run network = (outcome, last) := by
  have opens := @run_openDebug params files network server hosts
  have used := openDebug.run_use params files hooks network
  rcases places : addresses params with fault | ⟨base, top⟩ <;> rw [places] at opens <;>
    replace places := places_iff.mpr places
  · rw [opens] at used
    exact ⟨[], _, fresh, network, .unplaced places, held_nil _, used⟩
  · obtain ⟨first, outcome, ⟨connection, middle⟩, course, begun, ran⟩ :=
      course_of_runAll OpenFault.command (loading params.runtime base) (fresh, network)
    dsimp only at opens
    rw [ran] at opens
    cases outcome with
    | error failure =>
        rw [opens] at used
        exact ⟨first, _, connection, middle, .refused places course, begun, used⟩
    | ok _ =>
        obtain ⟨later, outcomes, left, channel, last, uses, held, performed⟩ :=
          uses_open top hooks connection middle
        have opened : (openDebug params files).run network =
            (.ok ⟨some connection, top⟩, middle) := opens
        rw [opened] at used
        dsimp only at used
        rw [performed] at used
        exact ⟨first ++ later, .ok outcomes, left, last, .opened places course uses,
          begun.append held, used⟩

/-- On whatever server, a channel that is opened and used lives through exchanges: what is
reported of its operations is what comes of their courses, the server gets just the commands of
the exchanges, in order, and the client gets their answers from it, call by call. -/
theorem life_of_use {server : Server} {network : Network} (hosts : network.server = some server)
    {params : ChannelParams} (clean : terminator ∉ Text.encode params.runtime.text)
    (files : FileTree) (hooks : List Hook) :
    ∃ outcome last exchanges,
      (openDebug.use params files hooks).run network = (outcome, last) ∧
      Life params hooks exchanges outcome ∧
      last.received = network.received ++
        exchanges.map (fun exchange => Text.encode (caught exchange.command)) ∧
      (Action.runEach (exchanges.map fun exchange => Connection.command (caught exchange.command))
        (fresh, network)).1 = exchanges.map (·.answer) := by
  obtain ⟨exchanges, outcome, left, last, life, held, used⟩ := held_of_use hosts params files hooks
  refine ⟨outcome, last, exchanges, used, life, ?_, congrArg Prod.fst held⟩
  exact held.received_eq fun exchange member => clean_caught (life.clean clean exchange member)

/-- A device that refuses to be halted is not entered, and a channel that was closed does not have
it halted any more. -/
theorem life_with_refused_halt :
    let params := Simulation.boardParams RegionKind.all
    let confirms := Simulation.reply (Text.encode okTag)
    let server := Simulation.server
      [confirms, confirms, Simulation.reply (Text.encode "micrort-error: target is locked\n")]
    let hooks : List Hook := [.enter, .exit, .close, .exit]
    terminator ∉ Text.encode params.runtime.text ∧
      ((openDebug.use params FileTree.fresh hooks).run ⟨some server, []⟩).1 =
        .ok [.error (.channel (.command "reset halt" (.reported "target is locked"))), .ok (),
          .ok (), .error (.channel .debugClosed)] ∧
      ∃ exchanges,
        Life params hooks exchanges
          ((openDebug.use params FileTree.fresh hooks).run ⟨some server, []⟩).1 ∧
        exchanges.map (fun exchange => Text.encode (caught exchange.command)) =
          ["reset halt", "load_image /tmp/micrort_runtime.obj 0x20000180 elf", "reset halt",
            "halt"].map (fun command => Text.encode (caught command)) := by
  intro params confirms server hooks
  have clean : terminator ∉ Text.encode params.runtime.text := by decide
  have reported : ((openDebug.use params FileTree.fresh hooks).run ⟨some server, []⟩).1 =
      .ok [.error (.channel (.command "reset halt" (.reported "target is locked"))), .ok (),
        .ok (), .error (.channel .debugClosed)] := by
    decide +kernel
  have sent : ((openDebug.use params FileTree.fresh hooks).run ⟨some server, []⟩).2.received =
      ["reset halt", "load_image /tmp/micrort_runtime.obj 0x20000180 elf", "reset halt",
        "halt"].map (fun command => Text.encode (caught command)) := by
    decide +kernel
  obtain ⟨outcome, last, exchanges, used, life, received, -⟩ :=
    @life_of_use server ⟨some server, []⟩ rfl params clean FileTree.fresh hooks
  rw [used] at reported sent ⊢
  rw [received, List.nil_append] at sent
  exact ⟨clean, reported, exchanges, life, sent⟩

/-- A layout without a stack keeps a channel from being opened though no command failed: none is
sent. -/
theorem nothing_sent_without_stack :
    let params := Simulation.boardParams (RegionKind.all.filter (· ≠ .stack))
    let used := (openDebug.use params FileTree.fresh []).run ⟨some (Simulation.server []), []⟩
    terminator ∉ Text.encode params.runtime.text ∧ used.1.isOk = false ∧
      ¬ ∃ base exchanges result, Course (loading params.runtime base) exchanges result ∧
        used.2.received =
          exchanges.map fun exchange => Text.encode (caught exchange.command) := by
  intro params used
  have clean : terminator ∉ Text.encode params.runtime.text := by decide
  have none : used.2.received = [] := rfl
  refine ⟨clean, rfl, ?_⟩
  rintro ⟨base, exchanges, result, course, received⟩
  rw [none] at received
  cases course <;> cases received

end DebugChannel

end MicroDevice
