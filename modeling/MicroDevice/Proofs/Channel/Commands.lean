import MicroDevice.Channel.Basic
import MicroDevice.Proofs.Action.Moves
import MicroDevice.Proofs.Channel.Framing
import MicroDevice.Proofs.Channel.Stack

/-! # Commands of a debug channel

An operation of a channel over a debug server runs commands up to the first whose reply does not
say that it succeeded. The commands are written out here (`DebugChannel.loading`,
`DebugChannel.commands`), as are the form in which they go to the server (`DebugChannel.caught`) and
the addresses in them (`DebugChannel.Places`). An operation succeeds just if the stream of the
server confirms all its commands (`DebugChannel.Confirms`). A reply that the end of the connection
cut off counts as well, if it is the last that the operation waits for.
-/

namespace MicroDevice.DebugChannel

open Connection

/-! ## What the server is given -/

/-- The commands of an opening: the device is halted, and the runtime is loaded at an address. -/
def loading (runtime : Path) (base : UInt64) : List String :=
  ["reset halt",
    "load_image " ++ runtime.text ++ " 0x" ++ String.ofList (Nat.toDigits 16 base.toNat) ++ " elf"]

/-- Opening a connection sends the commands that load the runtime. -/
theorem openCommands_eq (runtime : Path) (base : UInt64) :
    openCommands runtime base = loading runtime base := rfl

/-- The commands of an operation. An entry halts the device and sets its stack pointer. -/
def commands (stackPointer : UInt64) : Hook → List String
  | .enter => ["reset halt", "reg sp 0x" ++ String.ofList (Nat.toDigits 16 stackPointer.toNat)]
  | .exit => ["halt"]
  | .close => []

/-- The form in which a command goes to the server: its failure is caught, and the reply says
whether it failed. -/
def caught (command : String) : String :=
  "if \x7b[catch \x7b" ++ command ++
    "\x7d err]\x7d \x7bconcat micrort-error: $err\x7d else \x7bconcat micrort-ok\x7d"

/-- What is written to a server for a command. -/
def written (command : String) : Bytes :=
  framed (Text.encode (caught command))

/-- A command is sent inside a catch whose answer tells how it went. -/
theorem tagged_eq (command : String) : tagged command = caught command := by
  have tail : "\x7d err]\x7d \x7bconcat " ++ (errorTag ++ (" $err\x7d else \x7bconcat " ++
      (okTag ++ "\x7d"))) =
        "\x7d err]\x7d \x7bconcat micrort-error: $err\x7d else \x7bconcat micrort-ok\x7d" := by
    decide
  unfold tagged caught
  rw [String.append_assoc, String.append_assoc, String.append_assoc, String.append_assoc]
  exact congrArg (_ ++ ·) tail

/-- What the regions of a device say of where the runtime is loaded and its stack begins, or why
they do not say so. The first region of a kind counts, and one without an address is at address
zero. The stack begins with the last whole word at or before its end. -/
inductive Places (params : ChannelParams) : Except OpenFault (UInt64 × UInt64) → Prop
  | noText (lacks : ∀ region ∈ params.regions, region.kind ≠ .text) :
      Places params (.error .noTextRegion)
  | noStack (hasText : ∃ region ∈ params.regions, region.kind = .text)
      (lacks : ∀ region ∈ params.regions, region.kind ≠ .stack) :
      Places params (.error .noStackRegion)
  | pastTop {stack : MemoryRegion} (hasText : ∃ region ∈ params.regions, region.kind = .text)
      (isStack : params.regions.find? (·.kind = .stack) = some stack)
      (past : 2 ^ 64 ≤ (stack.base.getD 0).toNat + stack.size.toNat) :
      Places params (.error .stackPastTop)
  | placed {text stack : MemoryRegion} {top : UInt64}
      (isText : params.regions.find? (·.kind = .text) = some text)
      (isStack : params.regions.find? (·.kind = .stack) = some stack)
      (inside : (stack.base.getD 0).toNat + stack.size.toNat < 2 ^ 64)
      (rounded : top.toNat = ((stack.base.getD 0).toNat + stack.size.toNat) /
        max 1 (params.wordSize.toNat / 8) * max 1 (params.wordSize.toNat / 8)) :
      Places params (.ok (text.base.getD 0, top))

/-- The addresses of a channel are those that its regions say, and no others. -/
theorem places_iff {params : ChannelParams} {result : Except OpenFault (UInt64 × UInt64)} :
    Places params result ↔ addresses params = result := by
  have lacks_iff (kind : RegionKind) : params.region? kind = none ↔
      ∀ region ∈ params.regions, region.kind ≠ kind := by
    simp [ChannelParams.region?]
  have has_iff (kind : RegionKind) : (∃ region, params.region? kind = some region) ↔
      ∃ region ∈ params.regions, region.kind = kind := by
    rw [← Option.isSome_iff_exists, ChannelParams.region?, List.find?_isSome]
    simp
  have top_iff (stack : MemoryRegion) (top : UInt64) :
      stackTop? stack.wireBase stack.size params.wordBytes = some top ↔
        (stack.base.getD 0).toNat + stack.size.toNat < 2 ^ 64 ∧
          top.toNat = ((stack.base.getD 0).toNat + stack.size.toNat) /
            max 1 (params.wordSize.toNat / 8) * max 1 (params.wordSize.toNat / 8) := by
    rw [← stackTop?_alignment, stackTop?_eq_some_iff params.alignment_pos,
      params.toNat_alignment]
    rfl
  unfold addresses
  constructor
  · intro places
    cases places with
    | noText lacks => rw [(lacks_iff .text).mpr lacks]
    | noStack hasText lacks =>
        obtain ⟨text, isText⟩ := (has_iff .text).mpr hasText
        rw [isText, (lacks_iff .stack).mpr lacks]
    | @pastTop stack hasText isStack past =>
        obtain ⟨text, isText⟩ := (has_iff .text).mpr hasText
        have isStack : params.region? .stack = some stack := isStack
        have none : stackTop? stack.wireBase stack.size params.wordBytes = none :=
          stackTop?_eq_none_iff.mpr (Nat.lt_of_succ_le past)
        rw [isText, isStack]
        dsimp only
        rw [none]
    | @placed text stack top isText isStack inside rounded =>
        have isText : params.region? .text = some text := isText
        have isStack : params.region? .stack = some stack := isStack
        rw [isText, isStack]
        dsimp only
        rw [(top_iff stack top).mpr ⟨inside, rounded⟩]
        rfl
  · rintro rfl
    rcases isText : params.region? .text with _ | text
    · exact .noText ((lacks_iff .text).mp isText)
    have hasText := (has_iff .text).mp ⟨text, isText⟩
    rcases isStack : params.region? .stack with _ | stack
    · exact .noStack hasText ((lacks_iff .stack).mp isStack)
    dsimp only
    rcases ends : stackTop? stack.wireBase stack.size params.wordBytes with _ | top
    · exact .pastTop hasText isStack (Nat.succ_le_of_lt (stackTop?_eq_none_iff.mp ends))
    · obtain ⟨inside, rounded⟩ := (top_iff stack top).mp ends
      exact .placed isText isStack inside rounded

/-! ## Runs of commands -/

/-- What an answer to a command says of it. -/
def verdict : Except IoFault String → Except ReplyFault Unit
  | .ok reply => judge reply
  | .error fault => .error (.connection fault)

/-- A reply is taken for a success when it is the success tag, but for the blanks around it. -/
theorem judge_ok_iff {reply : String} : judge reply = .ok () ↔ Text.trim reply = okTag := by
  unfold judge
  dsimp only
  constructor
  · intro confirmed
    split at confirmed
    · assumption
    · split at confirmed <;> cases confirmed
  · exact fun confirmed => if_pos confirmed

/-- An answer is taken for a success when there is a reply and it is the success tag. -/
theorem verdict_ok_iff {answer : Except IoFault String} :
    verdict answer = .ok () ↔ ∃ reply, answer = .ok reply ∧ Text.trim reply = okTag := by
  cases answer with
  | error fault =>
      constructor
      · intro impossible
        cases impossible
      · rintro ⟨reply, impossible, -⟩
        cases impossible
  | ok reply =>
      rw [verdict, judge_ok_iff]
      simp

/-- A checked command is the caught command with the verdict on its answer. -/
theorem run_runChecked (command : String) (state : Connection × Network) :
    (runChecked command).run state =
      (verdict ((Connection.command (caught command)).run state).1,
        ((Connection.command (caught command)).run state).2) := by
  unfold runChecked
  rw [tagged_eq, Action.run_bind, Action.run_widen]
  rcases (Connection.command (caught command)).run state with ⟨fault | reply, later⟩ <;> rfl

/-- Running commands goes on after the first if its verdict is good. -/
theorem runAll_cons {Fault : Type} (worded : String → ReplyFault → Fault) (command : String)
    (later : List String) (state : Connection × Network) :
    (runAll worded (command :: later)).run state =
      match verdict ((Connection.command (caught command)).run state).1 with
      | .ok () => (runAll worded later).run ((Connection.command (caught command)).run state).2
      | .error fault =>
          (.error (worded command fault), ((Connection.command (caught command)).run state).2) := by
  rw [runAll, Action.run_bind, Action.run_widen, run_runChecked]
  rcases verdict ((Connection.command (caught command)).run state).1 with fault | _ <;> rfl

/-- A hook other than closing runs its commands over the open connection and keeps it open. -/
theorem perform_of_open {hook : Hook} (other : hook ≠ .close) (connection : Connection)
    (stackPointer : UInt64) (network : Network) :
    (Channel.perform hook).run ((⟨some connection, stackPointer⟩ : DebugChannel), network) =
      let (result, connection, later) :=
        (runAll ChannelFault.command (commands stackPointer hook)).run (connection, network)
      (result.mapError .channel, ⟨some connection, stackPointer⟩, later) := by
  cases hook with
  | enter => rfl
  | exit => rfl
  | close => exact absurd rfl other

/-! ## Confirmations -/

/-- A stream begins with so many replies each of which says that its command succeeded. The last
of them may lack its terminator, if the stream ends there. -/
def Confirms (count : Nat) (stream : Bytes) : Prop :=
  ∃ confirming : List Bytes, confirming.length = count ∧
    (∀ reply ∈ confirming, terminator ∉ reply ∧ Text.trim (Text.decodeLossy reply) = okTag) ∧
    (confirming.flatMap framed <+: stream ∨ confirming.flatMap framed = stream ++ [terminator])

theorem confirms_zero (stream : Bytes) : Confirms 0 stream :=
  ⟨[], rfl, by simp, .inl (List.nil_prefix)⟩

/-- An empty reply confirms nothing. -/
theorem trim_decodeLossy_nil : Text.trim (Text.decodeLossy []) ≠ okTag := by
  rw [Text.decodeLossy, Text.decodeLossyList]
  decide

/-- A complete reply at the beginning of a stream confirms the first command. -/
theorem confirms_framed_iff {reply rest : Bytes} {count : Nat} (whole : terminator ∉ reply) :
    Confirms (count + 1) (framed reply ++ rest) ↔
      Text.trim (Text.decodeLossy reply) = okTag ∧ Confirms count rest := by
  constructor
  · rintro ⟨_ | ⟨first, later⟩, counted, confirm, split⟩
    · cases counted
    · obtain ⟨⟨alsoWhole, agrees⟩, others⟩ := List.forall_mem_cons.mp confirm
      rcases split with ⟨more, complete⟩ | cut
      · rw [List.flatMap_cons, List.append_assoc] at complete
        obtain ⟨rfl, left⟩ := framed_append_inj alsoWhole whole complete
        exact ⟨agrees, later, Nat.succ.inj counted, others, .inl ⟨more, left⟩⟩
      · rw [List.flatMap_cons, List.append_assoc] at cut
        obtain ⟨rfl, left⟩ := framed_append_inj alsoWhole whole cut
        exact ⟨agrees, later, Nat.succ.inj counted, others, .inr left⟩
  · rintro ⟨agrees, later, rfl, confirm, split⟩
    refine ⟨reply :: later, rfl, List.forall_mem_cons.mpr ⟨⟨whole, agrees⟩, confirm⟩, ?_⟩
    rw [List.flatMap_cons, List.append_assoc]
    exact split.imp (List.prefix_append_right_inj _).mpr (congrArg _)

/-- A reply that the end of the stream cut off confirms the last command. -/
theorem confirms_cut_iff {reply : Bytes} {count : Nat} (whole : terminator ∉ reply) :
    Confirms (count + 1) reply ↔ Text.trim (Text.decodeLossy reply) = okTag ∧ count = 0 := by
  constructor
  · rintro ⟨_ | ⟨first, later⟩, counted, confirm, complete | cut⟩
    · cases counted
    · cases counted
    · -- a complete reply would bring a terminator into the stream
      have member : terminator ∈ reply := complete.subset (by simp [framed])
      exact absurd member whole
    · obtain ⟨alsoWhole, agrees⟩ := confirm first List.mem_cons_self
      have same : framed first ++ later.flatMap framed = framed reply ++ [] := by
        rw [List.append_nil]
        exact cut
      obtain ⟨rfl, none⟩ := framed_append_inj alsoWhole whole same
      cases later with
      | nil => exact ⟨agrees, (Nat.succ.inj counted).symm⟩
      | cons reply later => simp [framed] at none
  · rintro ⟨agrees, rfl⟩
    refine ⟨[reply], rfl, List.forall_mem_singleton.mpr ⟨whole, agrees⟩, .inr ?_⟩
    rw [List.flatMap_singleton, framed]

/-- Nothing confirms no command, since no reply that says so is empty. -/
theorem confirms_nil_iff {count : Nat} : Confirms count [] ↔ count = 0 := by
  constructor
  · intro confirms
    cases count with
    | zero => rfl
    | succ count =>
        have none := (confirms_cut_iff List.not_mem_nil).mp confirms
        exact absurd none.1 trim_decodeLossy_nil
  · rintro rfl
    exact confirms_zero []

/-- What a call takes off a stream confirms the first command or does not, as its verdict says. -/
theorem confirms_succ_iff {stream rest : Bytes} {answer : Except IoFault String} {count : Nat}
    (takes : Takes stream answer rest) :
    Confirms (count + 1) stream ↔ verdict answer = .ok () ∧ Confirms count rest := by
  cases takes with
  | reply whole =>
      rw [verdict, judge_ok_iff]
      exact confirms_framed_iff whole
  | cut whole some =>
      rw [verdict, judge_ok_iff, confirms_nil_iff]
      exact confirms_cut_iff whole
  | nothing =>
      refine iff_of_false ?_ ?_
      · exact fun confirms => Nat.succ_ne_zero _ (confirms_nil_iff.mp confirms)
      · rintro ⟨impossible, -⟩
        cases impossible

variable {params : ChannelParams} {files : FileTree} {network : Network} {server : Server}

/-- A network with a server is connected to without having been told anything. -/
theorem connect_of_server (hosts : network.server = some server) :
    Connection.connect.run network = (.ok fresh, network) := by
  unfold Connection.connect Action.run
  dsimp only
  rw [hosts]

/-- A channel that reaches a server is opened by commands if the regions have addresses. -/
theorem run_openDebug (hosts : network.server = some server) :
    (openDebug params files).run network =
      match addresses params with
      | .error fault => (.error (.opening ⟨"openocd", fault⟩), network)
      | .ok (base, top) =>
          let (result, connection, later) :=
            (runAll OpenFault.command (loading params.runtime base)).run (fresh, network)
          match result with
          | .ok () => (.ok ⟨some connection, top⟩, later)
          | .error fault => (.error (.opening ⟨"openocd", fault⟩), later) := by
  have connects : (Connection.connect.widen (OpenFault.unreachable params.address
      params.port)).run network = (.ok fresh, network) := by
    rw [Action.run_widen, connect_of_server hosts]
    rfl
  unfold openDebug openWith
  rw [Action.run_widen, Action.run_bind_of_ok connects]
  rcases addresses params with fault | ⟨base, top⟩
  · rfl
  · have ready : (Action.ofResult (.ok (base, top)) : Action Network OpenFault _).run network =
        (.ok (base, top), network) := rfl
    rw [Action.run_bind_of_ok ready]
    unfold Action.run
    dsimp only
    rw [openCommands_eq]
    rcases runAll OpenFault.command (loading params.runtime base) (fresh, network) with
      ⟨fault | _, connection, later⟩ <;> rfl

/-- Commands all succeed just if what waits for the client confirms them. -/
theorem runAll_ok_iff {Fault : Type} (worded : String → ReplyFault → Fault)
    {state : Connection × Network} (hosts : state.2.server = some server)
    (commands : List String) :
    ((runAll worded commands).run state).1 = .ok () ↔
      Confirms commands.length (incoming server (commands.map written) state) := by
  induction commands generalizing state with
  | nil => exact iff_of_true rfl (confirms_zero _)
  | cons command later ih =>
      have takes := takes_command hosts (caught command) (later.map written)
      have goes := @ih ((Connection.command (caught command)).run state).2 hosts
      rw [runAll_cons, List.length_cons, List.map_cons, written, confirms_succ_iff takes, ← goes]
      rcases verdict ((Connection.command (caught command)).run state).1 with fault | _
      · constructor
        · intro impossible
          cases impossible
        · rintro ⟨impossible, -⟩
          cases impossible
      · exact ⟨fun succeeds => ⟨rfl, succeeds⟩, And.right⟩

/-- On whatever server, an operation of a channel succeeds just if the server confirms all of its
commands: opening if also the regions have addresses, entering and exiting on an open channel. A
reply that the end of the connection cut off confirms the last of the commands as well. -/
theorem succeeds_iff_confirmed (server : Server) (network : Network)
    (hosts : network.server = some server) :
    (∀ params files, ((openDebug params files).run network).1.isOk = true ↔
      ∃ base top, Places params (.ok (base, top)) ∧
        Confirms 2 (server.stream network.received 0
          ((loading params.runtime base).map written))) ∧
    ∀ connection stackPointer hook, hook ≠ .close →
      (((Channel.perform hook).run ((⟨some connection, stackPointer⟩ : DebugChannel),
          network)).1 = .ok () ↔
        Confirms (commands stackPointer hook).length
          (incoming server ((commands stackPointer hook).map written) (connection, network))) := by
  constructor
  · intro params files
    simp only [places_iff]
    rw [run_openDebug hosts]
    rcases addresses params with fault | ⟨base, top⟩
    · constructor
      · intro impossible
        cases impossible
      · rintro ⟨_, _, impossible, -⟩
        cases impossible
    · have opens := @runAll_ok_iff server _ OpenFault.command (fresh, network) hosts
        (loading params.runtime base)
      change _ ↔ Confirms 2 (server.stream network.received 0
        ((loading params.runtime base).map written)) at opens
      rcases ran : (runAll OpenFault.command (loading params.runtime base)).run
        (fresh, network) with ⟨fault | _, connection, later⟩ <;> rw [ran] at opens <;>
        dsimp only <;> rw [ran]
      · constructor
        · intro impossible
          cases impossible
        · rintro ⟨_, _, same, confirms⟩
          cases same
          cases opens.mpr confirms
      · exact iff_of_true rfl ⟨base, top, rfl, opens.mp rfl⟩
  · intro connection stackPointer hook other
    rw [perform_of_open other, ← runAll_ok_iff ChannelFault.command hosts]
    exact Action.mapError_eq_ok

/-- A channel is opened on a reply of which only the beginning came before the connection ended. -/
theorem opens_on_cut_reply :
    let params := Simulation.boardParams RegionKind.all
    let server := Simulation.server
      [Simulation.reply (Text.encode okTag), ⟨Text.encode okTag, true⟩]
    let stream := server.stream [] 0 ((loading params.runtime 0x20000180).map written)
    stream.count terminator = 1 ∧
      ((openDebug params FileTree.fresh).run ⟨some server, []⟩).1.isOk = true := by
  intro params server stream
  have sent : stream = framed (Text.encode okTag) ++ Text.encode okTag := by decide +kernel
  have agrees : Text.trim (Text.decodeLossy (Text.encode okTag)) = okTag := by decide +kernel
  have opens := (succeeds_iff_confirmed server ⟨some server, []⟩ rfl).1 params FileTree.fresh
  refine ⟨by rw [sent]; decide, opens.mpr ⟨0x20000180, 0x20040100, places_iff.mpr (by decide), ?_⟩⟩
  refine ⟨[Text.encode okTag, Text.encode okTag], rfl, ?_, .inr ?_⟩
  · simp only [List.mem_cons, List.not_mem_nil, or_false, or_self]
    rintro reply rfl
    exact ⟨by decide, agrees⟩
  · change _ = stream ++ [terminator]
    rw [sent]
    rfl

end MicroDevice.DebugChannel
