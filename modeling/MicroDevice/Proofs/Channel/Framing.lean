import Mathlib.Data.List.Basic
import Mathlib.Data.List.TakeWhile
import MicroDevice.Proofs.Action.Moves
import MicroDevice.Simulation.Server

/-! # Replies in a stream

All that a server sends on a connection is one stream of bytes (`Server.stream`), however it is
spread over the answers. The terminators cut the stream into replies, and a client that sends
commands one after another gets these replies one by one, until there are no more of them.
-/

namespace MicroDevice

/-- What a server sends while a client writes to it and waits for a reply each time. There are
`spare` complete replies that nobody has waited for, and a server that has none of them when the
client waits has sent its last. -/
def Server.stream (server : Server) :
    (earlier : List Bytes) → (spare : Nat) → (written : List Bytes) → Bytes
  | _, _, [] => []
  | earlier, spare, bytes :: later =>
      let commands := Connection.commandsIn bytes
      let answer := server.hear earlier commands
      let complete := spare + answer.bytes.count Connection.terminator
      answer.bytes ++
        if answer.ends ∨ complete = 0 then []
        else stream server (earlier ++ commands) (complete - 1) later

namespace Connection

/-- The pieces of a stream between its terminators. What follows the last terminator is a piece
unless it is empty. -/
def replies (stream : Bytes) : List Bytes :=
  let pieces := stream.splitOn terminator
  if pieces.getLast? = some [] then pieces.dropLast else pieces

/-- What a client makes of the reply at a place in a stream. -/
def answerAt (stream : Bytes) (place : Nat) : Except IoFault String :=
  match (replies stream)[place]? with
  | some reply => .ok (Text.decodeLossy reply)
  | none => .error .connectionClosed

/-- The bytes that wait for a client which goes on to write: those it has not read, and those the
server sends meanwhile. -/
def incoming (server : Server) (written : List Bytes) (state : Connection × Network) : Bytes :=
  state.1.pending ++
    if state.1.ended then []
    else server.stream state.2.received (state.1.pending.count terminator) written

variable {reply rest : Bytes}

@[simp] theorem replies_nil : replies [] = [] := by
  decide

/-- A framed reply at the beginning of a stream is its first piece. -/
theorem replies_framed_append (whole : terminator ∉ reply) (rest : Bytes) :
    replies (framed reply ++ rest) = reply :: replies rest := by
  have pieces : (framed reply ++ rest).splitOn terminator =
      reply :: rest.splitOn terminator := by
    rw [framed, List.append_assoc, List.singleton_append, List.splitOn_append_cons_self,
      List.splitOn_eq_singleton whole]
    rfl
  have some := List.splitOn_ne_nil terminator rest
  unfold replies
  dsimp only
  rw [pieces, List.getLast?_cons_of_ne_nil some, List.dropLast_cons_of_ne_nil some]
  split <;> rfl

/-- A stream that ends within a reply has that beginning for its only piece. -/
theorem replies_cut (whole : terminator ∉ reply) (some : reply ≠ []) :
    replies reply = [reply] := by
  unfold replies
  dsimp only
  rw [List.splitOn_eq_singleton whole, if_neg]
  simpa using some

/-- What is left of a stream when a client has taken so many of its replies. -/
def Leaves (count : Nat) (stream rest : Bytes) : Prop :=
  ∃ consumed, stream = consumed ++ rest ∧ replies consumed = (replies stream).take count ∧
    replies rest = (replies stream).drop count

/-- What one call takes from a stream: a reply with its terminator, all that is left if there is
no terminator, or nothing. -/
inductive Takes : Bytes → Except IoFault String → Bytes → Prop
  | reply {reply rest : Bytes} (whole : terminator ∉ reply) :
      Takes (framed reply ++ rest) (.ok (Text.decodeLossy reply)) rest
  | cut {reply : Bytes} (whole : terminator ∉ reply) (some : reply ≠ []) :
      Takes reply (.ok (Text.decodeLossy reply)) []
  | nothing : Takes [] (.error .connectionClosed) []

namespace Takes

variable {stream rest : Bytes} {answer : Except IoFault String}

/-- The reply that is taken from a stream is the one at place zero. -/
theorem answerAt_zero (takes : Takes stream answer rest) : answerAt stream 0 = answer := by
  cases takes with
  | reply whole => rw [answerAt, replies_framed_append whole]; rfl
  | cut whole some => rw [answerAt, replies_cut whole some]; rfl
  | nothing => rw [answerAt, replies_nil]; rfl

/-- The later replies of a stream are those of the rest, once one was taken. -/
theorem answerAt_succ (takes : Takes stream answer rest) (place : Nat) :
    answerAt stream (place + 1) = answerAt rest place := by
  cases takes with
  | reply whole => rw [answerAt, replies_framed_append whole]; rfl
  | cut whole some => rw [answerAt, replies_cut whole some]; rfl
  | nothing => rfl

/-- A client that takes one reply and then more of what is left has taken so many in all. -/
theorem leaves_succ (takes : Takes stream answer rest) {count : Nat} {last : Bytes}
    (leaves : Leaves count rest last) : Leaves (count + 1) stream last := by
  obtain ⟨consumed, split, taken, left⟩ := leaves
  cases takes with
  | @reply reply rest whole =>
      refine ⟨framed reply ++ consumed, ?_, ?_, ?_⟩
      · rw [split, List.append_assoc]
      · rw [replies_framed_append whole, replies_framed_append whole, taken, List.take_succ_cons]
      · rw [replies_framed_append whole, left, List.drop_succ_cons]
  | cut whole some =>
      obtain ⟨rfl, rfl⟩ := List.append_eq_nil_iff.mp split.symm
      refine ⟨stream, (List.append_nil _).symm, ?_, ?_⟩
      · rw [replies_cut whole some, List.take_succ_cons, List.take_nil]
      · rw [replies_cut whole some, List.drop_succ_cons, List.drop_nil, replies_nil]
  | nothing =>
      obtain ⟨rfl, rfl⟩ := List.append_eq_nil_iff.mp split.symm
      exact ⟨[], rfl, by simp, by simp⟩

end Takes

/-- What waiting for a reply takes from the bytes that are pending. -/
inductive Receiving (connection : Connection) : Except IoFault Bytes → Connection → Prop
  | reply {reply rest : Bytes} (whole : terminator ∉ reply)
      (split : connection.pending = framed reply ++ rest) :
      Receiving connection (.ok reply) { connection with pending := rest }
  | cut (whole : terminator ∉ connection.pending) (some : connection.pending ≠ []) :
      Receiving connection (.ok connection.pending) ⟨[], true⟩
  | nothing (none : connection.pending = []) :
      Receiving connection (.error .connectionClosed) ⟨[], true⟩

theorem notTerminator_of_not_mem {bytes : Bytes} (whole : terminator ∉ bytes) :
    ∀ byte ∈ bytes, decide (byte ≠ terminator) = true := by
  intro byte member
  exact decide_eq_true fun same => whole (same ▸ member)

/-- A framed reply is received whole, and the rest is left. -/
theorem receive_framed (whole : terminator ∉ reply) (rest : Bytes) (ended : Bool) :
    receive.run ⟨framed reply ++ rest, ended⟩ = (.ok reply, ⟨rest, ended⟩) := by
  have before := notTerminator_of_not_mem whole
  have taken : (framed reply ++ rest).takeWhile (fun byte => decide (byte ≠ terminator)) =
      reply := by
    rw [framed, List.append_assoc, List.takeWhile_append_of_pos before]
    simp
  have left : (framed reply ++ rest).dropWhile (fun byte => decide (byte ≠ terminator)) =
      terminator :: rest := by
    rw [framed, List.append_assoc, List.dropWhile_append_of_pos before]
    simp
  unfold receive Action.run
  simp only [taken, left]

/-- A stream can be split in one way only into a framed reply and a rest. -/
theorem framed_append_inj {other more : Bytes} (whole : terminator ∉ reply)
    (alsoWhole : terminator ∉ other) (same : framed reply ++ rest = framed other ++ more) :
    reply = other ∧ rest = more := by
  have received := receive_framed whole rest false
  rw [same, receive_framed alsoWhole] at received
  cases received
  exact ⟨rfl, rfl⟩

/-- Whatever is received was taken from the beginning of what is pending. -/
theorem receiving (connection : Connection) :
    Receiving connection (receive.run connection).1 (receive.run connection).2 := by
  obtain ⟨pending, ended⟩ := connection
  by_cases member : terminator ∈ pending
  · obtain ⟨reply, rest, rfl, whole⟩ := List.eq_append_cons_of_mem member
    have split : reply ++ terminator :: rest = framed reply ++ rest := by
      rw [framed, List.append_assoc, List.singleton_append]
    rw [split, receive_framed whole]
    exact .reply whole rfl
  · have all := notTerminator_of_not_mem member
    unfold receive Action.run
    simp only [List.takeWhile_eq_self_iff.mpr all, List.dropWhile_eq_nil_iff.mpr all]
    by_cases none : pending = []
    · rw [if_pos none]
      exact .nothing none
    · rw [if_neg none]
      exact .cut member none

/-- A clean command that is framed is received as one command. -/
theorem commandsIn_framed {bytes : Bytes} (clean : terminator ∉ bytes) :
    commandsIn (framed bytes) = [bytes] := by
  rw [commandsIn, framed, List.splitOn_append_cons_self, List.splitOn_eq_singleton clean,
    List.splitOn_nil]
  rfl

/-! ## One call -/

variable {server : Server} {state : Connection × Network}

/-- What a network is told, its server hears. -/
theorem hear_of_server (hosts : state.2.server = some server) (commands : List Bytes) :
    state.2.hear commands = server.hear state.2.received commands := by
  rw [Network.hear, hosts]

/-- Writing brings what the server sends then into the connection, and leaves what comes later. -/
theorem incoming_write (hosts : state.2.server = some server) (bytes : Bytes)
    (later : List Bytes) :
    incoming server (bytes :: later) state =
      (write bytes state).1.pending ++
        if (write bytes state).1.ended ∨ (write bytes state).1.pending.count terminator = 0 then []
        else server.stream (write bytes state).2.received
          ((write bytes state).1.pending.count terminator - 1) later := by
  obtain ⟨⟨pending, ended⟩, network⟩ := state
  unfold incoming write
  simp only [hear_of_server hosts, Server.stream]
  cases ended with
  | true => simp
  | false => simp [List.count_append]

/-- Sending a command writes it framed and receives one reply. -/
theorem run_command (text : String) (state : Connection × Network) :
    (command text).run state =
      ((receive.run (write (framed (Text.encode text)) state).1).1.map Text.decodeLossy,
        (receive.run (write (framed (Text.encode text)) state).1).2,
        (write (framed (Text.encode text)) state).2) := rfl

/-- A call takes the next reply from what waits for the client. -/
theorem takes_command (hosts : state.2.server = some server) (text : String)
    (later : List Bytes) :
    Takes (incoming server (framed (Text.encode text) :: later) state)
      ((command text).run state).1 (incoming server later ((command text).run state).2) := by
  rw [incoming_write hosts, run_command]
  generalize write (framed (Text.encode text)) state = after
  obtain ⟨connection, network⟩ := after
  have receives := receiving connection
  rcases ran : receive.run connection with ⟨result, last⟩
  rw [ran] at receives
  cases receives with
  | @reply reply rest whole split =>
      have counted : connection.pending.count terminator = rest.count terminator + 1 := by
        rw [split, framed, List.count_append, List.count_append, List.count_eq_zero.mpr whole]
        simp [Nat.add_comm]
      rw [counted, split, List.append_assoc]
      simp only [Nat.add_one_ne_zero, or_false, Nat.add_sub_cancel]
      exact .reply whole
  | cut whole some =>
      rw [if_pos (.inr (List.count_eq_zero.mpr whole)), List.append_nil]
      exact .cut whole some
  | nothing none =>
      rw [none, List.count_nil, if_pos (.inr rfl)]
      exact .nothing

/-! ## Calls one after another -/

/-- The calls of a client get the replies of what waits for it, one after another. -/
theorem runEach_command (hosts : state.2.server = some server) (texts : List String) :
    let stream := incoming server (texts.map fun text => framed (Text.encode text)) state
    let outcome := Action.runEach (texts.map command) state
    outcome.1 = (List.range texts.length).map (answerAt stream) ∧
      Leaves texts.length stream outcome.2.1.pending := by
  induction texts generalizing state with
  | nil =>
      refine ⟨rfl, [], ?_, rfl, ?_⟩
      · simp [incoming, Server.stream, Action.runEach]
      · simp [incoming, Server.stream, Action.runEach]
  | cons text later ih =>
      have takes := takes_command hosts text (later.map fun text => framed (Text.encode text))
      obtain ⟨answers, leaves⟩ := @ih ((command text).run state).2 hosts
      refine ⟨?_, takes.leaves_succ leaves⟩
      have first := takes.answerAt_zero
      have others := takes.answerAt_succ
      rw [List.length_cons, List.range_succ_eq_map]
      simp only [List.map_cons, List.map_map, Function.comp_def, first, Nat.succ_eq_add_one,
        others]
      rw [← answers]
      rfl

/-- A server receives each command without a terminator just as it was sent. -/
theorem received_runEach (texts : List String)
    (clean : ∀ text ∈ texts, terminator ∉ Text.encode text) (state : Connection × Network) :
    (Action.runEach (texts.map command) state).2.2.received =
      state.2.received ++ texts.map Text.encode := by
  induction texts generalizing state with
  | nil => exact (List.append_nil _).symm
  | cons text later ih =>
      obtain ⟨cleanFirst, cleanLater⟩ := List.forall_mem_cons.mp clean
      have first : ((command text).run state).2.2.received =
          state.2.received ++ [Text.encode text] := by
        rw [run_command, write, commandsIn_framed cleanFirst]
      rw [List.map_cons, List.map_cons, Action.runEach_cons, ih cleanLater, first,
        List.append_assoc, List.singleton_append]

/-- A client that connects to a server and sends commands, none of which holds a terminator, has
the server receive just these commands, in order. Its calls get the replies in the stream of the
server one after another, and fail when there are no more. What they took off the stream is just
these replies, and what they left is the rest of it. -/
theorem calls_take_replies (network : Network) (hosts : network.server = some server)
    (texts : List String) (clean : ∀ text ∈ texts, terminator ∉ Text.encode text) :
    let stream := server.stream network.received 0
      (texts.map fun text => framed (Text.encode text))
    let (answers, connection, later) := Action.runEach (texts.map command) (fresh, network)
    later.received = network.received ++ texts.map Text.encode ∧
      answers = (List.range texts.length).map (fun place =>
        match (replies stream)[place]? with
        | some reply => .ok (Text.decodeLossy reply)
        | none => .error .connectionClosed) ∧
      ∃ consumed, stream = consumed ++ connection.pending ∧
        replies consumed = (replies stream).take texts.length ∧
        replies connection.pending = (replies stream).drop texts.length := by
  obtain ⟨answers, leaves⟩ := @runEach_command server (fresh, network) hosts texts
  exact ⟨received_runEach texts clean (fresh, network), answers, leaves⟩

/-- Four calls on a server whose first answer holds two replies, and which ends in the midst of a
third one. -/
theorem calls_take_spare_and_cut_replies :
    let server := Simulation.server [Simulation.reply [0x78, terminator, 0x79], ⟨[], false⟩,
      ⟨[0x7A], true⟩]
    (∀ text ∈ ["a", "b", "c", "d"], terminator ∉ Text.encode text) ∧
      (Action.runEach (["a", "b", "c", "d"].map command) (fresh, ⟨some server, []⟩)).1 =
        [.ok (Text.decodeLossy [0x78]), .ok (Text.decodeLossy [0x79]),
          .ok (Text.decodeLossy [0x7A]), .error .connectionClosed] := by
  intro server
  have clean : ∀ text ∈ ["a", "b", "c", "d"], terminator ∉ Text.encode text := by decide
  obtain ⟨-, answers, -⟩ := calls_take_replies ⟨some server, []⟩ rfl ["a", "b", "c", "d"] clean
  have pieces : replies (server.stream [] 0
      (["a", "b", "c", "d"].map fun text => framed (Text.encode text))) =
        [[0x78], [0x79], [0x7A]] := by
    decide
  refine ⟨clean, answers.trans ?_⟩
  rw [pieces]
  rfl

end Connection

end MicroDevice
