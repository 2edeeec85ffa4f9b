import MicroDevice.Proofs.Channel.Agreement
import MicroDevice.Proofs.Session.OnHost
import MicroDevice.Proofs.Session.Run

/-! # The stack pointer of a session

Every entry of a session sets the stack pointer to the last whole word at or before the end of the
stack (`Session.stack_pointer_tops_stack`), over both transports and whatever was done before. The
end is rounded down, so the pointer is in the stack unless the stack is all in one word and ends
before the next.
-/

namespace MicroDevice

/-- A pointer is the last whole word at or before the end of a stack. It is not before the stack
just if the part of a word at its end is within the stack. -/
structure TopsStack (step base size pointer : Nat) : Prop where
  dvd : step ∣ pointer
  le_end : pointer ≤ base + size
  near : base + size < pointer + step
  base_le_iff : base ≤ pointer ↔ (base + size) % step ≤ size

/-- Rounding the end of a stack down to whole words gives its top. -/
theorem topsStack_of_eq {step base size pointer : Nat} (positive : 0 < step)
    (rounded : pointer = (base + size) / step * step) : TopsStack step base size pointer := by
  have split := Nat.div_add_mod (base + size) step
  have small := Nat.mod_lt (base + size) positive
  rw [Nat.mul_comm] at split
  exact ⟨⟨_, rounded.trans (Nat.mul_comm _ _)⟩, by omega, by omega, by omega⟩

/-- The first region of a kind in a layout is the one that the layout has. -/
theorem MemoryLayout.region?_of_find? {layout : MemoryLayout} {kind : RegionKind}
    {region : MemoryRegion}
    (found : (layout.regions.find? fun region => region.kind = kind) = some region) :
    layout.region? kind = some region := by
  have kind_eq : region.kind = kind := by simpa using List.find?_some found
  have held := mem_regions.mp (List.mem_of_find?_eq_some found)
  rw [kind_eq] at held
  rw [region?, held, ← kind_eq]
  rfl

/-- Where a device has its stack: on the host the channel emulates it, over a debug server it is
at the address that goes over the wire. -/
def DeviceChannel.StackAt (config : DeviceConfig) (base size : UInt64) : DeviceChannel → Prop
  | .host channel => channel.placement? .stack = some ⟨base, size⟩ ∧
      config.EmulatedAt .stack ⟨base, size⟩
  | .debug _ => ∃ region, config.memLayout.region? .stack = some region ∧
      region.wireBase = base ∧ region.size = size

/-- What entering a session does to the stack pointer. An entry on the host sets the register, or
fails and changes nothing. Over a debug server it has the device halted and then sends the command
that sets the pointer, unless it fails before. -/
def Live.EntrySets (pointer : UInt64) (live : Live DeviceChannel) : Prop :=
  let entry := Live.enter.run live
  match live.session.channel with
  | .host host =>
      match entry.1 with
      | .ok () => ∃ registers : ExecutionContext, registers.sp = pointer ∧
          entry.2.session.channel = .host { host with context := registers }
      | .error _ => entry.2.session.channel = .host host
  | .debug _ => ∃ sets, DebugChannel.stackAddress? sets = some pointer.toNat ∧
      DebugChannel.Sends ["reset halt", sets] (entry.1 = .ok ()) live.world.network
        entry.2.world.network

namespace DebugChannel

variable {params : ChannelParams} {files : FileTree} {network later : Network}
  {channel : DebugChannel}

/-- A channel is not opened unless there is a server. -/
theorem exists_server_of_openDebug
    (opened : (openDebug params files).run network = (.ok channel, later)) :
    ∃ server, network.server = some server := by
  rcases hosts : network.server with _ | server
  · have failed : (Connection.connect.widen (OpenFault.unreachable params.address
        params.port)).run network =
          (.error (.unreachable params.address params.port .connectionRefused), network) := by
      rw [Action.run_widen]
      unfold Connection.connect Action.run
      simp only [hosts, Except.mapError]
    unfold openDebug openWith at opened
    rw [Action.run_widen, Action.run_bind_of_error failed] at opened
    cases opened
  · exact ⟨server, rfl⟩

/-- A debug channel has addresses only if the stack region has a top, which is the stack pointer. -/
theorem addresses_ok {base top : UInt64} (places : addresses params = .ok (base, top)) :
    ∃ stack, params.region? .stack = some stack ∧
      stackTop? stack.wireBase stack.size params.wordBytes = some top := by
  unfold addresses at places
  split at places
  · cases places
  · cases places
  · rename_i text stack hasText hasStack
    split at places
    · cases places
    · rename_i ends
      cases places
      exact ⟨stack, hasStack, ends⟩

end DebugChannel

/-- A session over a debug server has its channel open, with the stack pointer to set. -/
def Live.OnDebug (pointer : UInt64) (live : Live DeviceChannel) : Prop :=
  ∃ connection, live.session.channel = .debug ⟨some connection, pointer⟩

/-- A channel over a debug server was opened by the opener of these. -/
theorem DeviceChannel.openDebug_of_openDevice {params : ChannelParams} {files : FileTree}
    {network later : Network} {channel : DebugChannel}
    (opened : (openDevice params files).run network = (.ok (.debug channel), later)) :
    (openDebug params files).run network = (.ok channel, later) := by
  unfold openDevice at opened
  split at opened
  · obtain ⟨host, _, -, made⟩ := Action.run_bind_ok opened
    cases made
  · obtain ⟨opens, _, opensDebug, made⟩ := Action.run_bind_ok opened
    cases made
    exact opensDebug

/-- What a channel over a debug server does in a session. -/
theorem DeviceChannel.perform_debug {hook : Hook} (other : hook ≠ .close)
    (connection : Connection) (pointer : UInt64) (network : Network) :
    (Channel.perform hook).run
        ((.debug ⟨some connection, pointer⟩ : DeviceChannel), network) =
      let outcome := (DebugChannel.runAll ChannelFault.command
        (DebugChannel.commands pointer hook)).run (connection, network)
      (outcome.1.mapError .channel, .debug ⟨some outcome.2.1, pointer⟩, outcome.2.2) := by
  have inner : (Channel.perform hook).run
      ((.debug ⟨some connection, pointer⟩ : DeviceChannel), network) =
        let outcome :=
          (Channel.perform hook).run ((⟨some connection, pointer⟩ : DebugChannel), network)
        (outcome.1, DeviceChannel.debug outcome.2.1, outcome.2.2) := rfl
  rw [inner, DebugChannel.perform_of_open other]

namespace Live.OnDebug

variable {pointer : UInt64} {live : Live DeviceChannel}

/-- Entries and exits leave the stack pointer to set as it is. -/
theorem kept : Live.KeptByCalls (Live.OnDebug pointer) where
  ask hook live result after other onDebug asked := by
    obtain ⟨connection, channel_eq⟩ := onDebug
    have performed := asked.performed
    rw [channel_eq] at performed
    rw [DeviceChannel.perform_debug other] at performed
    exact ⟨_, (Prod.mk.inj (Prod.mk.inj performed).2).1.symm⟩
  setPhase _ _ onDebug := onDebug

/-- The commands of an entry are sent if the channel is asked. -/
theorem entrySets (onDebug : live.OnDebug pointer) : live.EntrySets pointer := by
  obtain ⟨connection, channel_eq⟩ := onDebug
  obtain ⟨sets, enters, sets_eq⟩ := DebugChannel.stackAddress?_commands pointer
  have sends := DebugChannel.sends_runAll ChannelFault.command ["reset halt", sets]
    (connection, live.world.network)
  have asks {result : Except SessionError Unit} {after : Live DeviceChannel}
      (asked : Asked .enter live result after) :
      DebugChannel.Sends ["reset halt", sets] (result = .ok ()) live.world.network
        after.world.network := by
    have performed := asked.performed
    rw [channel_eq, DeviceChannel.perform_debug (by decide), enters] at performed
    obtain ⟨rfl, rest⟩ := Prod.mk.inj performed
    rw [← (Prod.mk.inj rest).2, Action.mapError_eq_ok]
    exact sends
  have entering := Live.entering live
  unfold EntrySets
  rw [channel_eq]
  refine ⟨sets, sets_eq, ?_⟩
  rcases ran : Live.enter.run live with ⟨result, after⟩
  rw [ran] at entering
  cases entering with
  | refused refuses =>
      refine ⟨[], List.nil_prefix, fun done => ?_, (List.append_nil _).symm⟩
      cases done
  | failed allowed asked =>
      have sent := asks asked
      exact sent
  | entered allowed asked =>
      have sent := asks asked
      exact sent

end Live.OnDebug

/-- All operations of a session leave its channel over a debug server open, with the same stack
pointer. -/
theorem Stage.invariant_onDebug (pointer : UInt64) :
    Stage.Invariant True fun stage => stage.live.OnDebug pointer :=
  Stage.invariant_of_calls Live.OnDebug.kept fun _ _ _ onDebug _ => onDebug

/-- An entry of a session on the host sets the register. -/
theorem Live.OnHost.entrySets {host : HostChannel} {ready : ExecutionContext}
    {live : Live DeviceChannel} (onHost : live.OnHost host ready) (isReady : host.Ready ready) :
    live.EntrySets ready.sp := by
  obtain ⟨context, channel_eq, -, -⟩ := onHost.channel
  have sameHost : live.session.channel = .host { host with context } := channel_eq
  unfold EntrySets
  rw [sameHost]
  dsimp only
  rcases ran : Live.enter.run live with ⟨error | _, later⟩
  · rw [onHost.of_enter_error isReady ran]
    exact sameHost
  · obtain ⟨registers, entered_eq, -, entered⟩ := (onHost.of_enter isReady ran).channel
    have inside : later.session.phase = .entered := by
      cases Live.entering_of_run ran
      rfl
    exact ⟨registers, by rw [entered inside], entered_eq⟩

namespace Session

/-- Whatever is done with a session, each of its entries sets the stack pointer to the same
address, which is the last whole word at or before the end of the stack. -/
def EntersAtTop (config : DeviceConfig) (session : Session DeviceChannel) (opened : World) :
    Prop :=
  ∃ base size pointer, session.channel.StackAt config base size ∧
    TopsStack (config.wordSize.toNat / 8) base.toNat size.toNat pointer.toNat ∧
    ∀ steps passed, (Stage.start session opened).Passes steps passed →
      passed.live.EntrySets pointer

variable {registry : Registry} {machine : Host} {config : DeviceConfig} {before opened : World}
  {session : Session DeviceChannel}

/-- On the host the stack is emulated, and the registers have its top. -/
theorem entrySets_of_host {host : HostChannel}
    (built : (build ⟨registry, machine, openDevice⟩ config).run before = (.ok session, opened))
    (isHost : session.channel = .host host) :
    session.EntersAtTop config opened := by
  obtain ⟨params, files, checked, alignment_eq, emulated⟩ :=
    emulated_of_build built checksHost_openDevice isHost
  obtain ⟨text, hasText, -, -⟩ := emulated .text
  obtain ⟨stack, hasStack, isStack, inside⟩ := emulated .stack
  obtain ⟨top, top_eq, isReady⟩ := HostChannel.ready_of_openWith checked hasText hasStack inside
  have idle : host.context = .idle := by
    obtain ⟨_, _, _, -, -, -, -, -, rfl⟩ := HostChannel.openWith_ok_iff.mp checked
    rfl
  have begins := (opened_of_build built).onHost isHost idle ⟨true, text.base, top⟩
  have positive := params.alignment_pos
  rw [alignment_eq] at top_eq positive
  refine ⟨stack.base, stack.size, top, ?_, topsStack_of_eq positive top_eq, ?_⟩
  · rw [isHost]
    exact ⟨hasStack, isStack⟩
  · intro steps passed passes
    exact ((Stage.invariant_onHost isReady).passes passes (fun _ => trivial) begins).entrySets
      isReady

/-- Over a debug server the stack is where the wire has it, and its top was kept when the channel
was opened. -/
theorem entrySets_of_debug {channel : DebugChannel}
    (built : (build ⟨registry, machine, openDevice⟩ config).run before = (.ok session, opened))
    (isDebug : session.channel = .debug channel) :
    session.EntersAtTop config opened := by
  obtain ⟨params, files, network, later, opens, regions_eq, alignment_eq, -, -⟩ :=
    opener_of_build built
  rw [isDebug] at opens
  have alsoOpens := DeviceChannel.openDebug_of_openDevice opens
  obtain ⟨server, hosts⟩ := DebugChannel.exists_server_of_openDebug alsoOpens
  obtain ⟨_, places, isOpen, -⟩ := DebugChannel.loads_of_openDebug hosts alsoOpens
  obtain ⟨connection, pointer⟩ := channel
  obtain ⟨connection, rfl⟩ := Option.isSome_iff_exists.mp isOpen
  obtain ⟨stack, found, ends⟩ := DebugChannel.addresses_ok places
  rw [← stackTop?_alignment] at ends
  obtain ⟨-, top_eq⟩ := (stackTop?_eq_some_iff params.alignment_pos).mp ends
  have positive := params.alignment_pos
  rw [alignment_eq] at top_eq positive
  refine ⟨stack.wireBase, stack.size, pointer, ?_, topsStack_of_eq positive top_eq, ?_⟩
  · rw [isDebug]
    rw [ChannelParams.region?, regions_eq] at found
    exact ⟨stack, MemoryLayout.region?_of_find? found, rfl, rfl⟩
  · intro steps passed passes
    exact ((Stage.invariant_onDebug pointer).passes passes (fun _ => trivial)
      ⟨connection, isDebug⟩).entrySets

/-- A session that is built on either transport is entered at the top of its stack, whatever is
done with it. -/
theorem stack_pointer_tops_stack
    (built : (build ⟨registry, machine, openDevice⟩ config).run before = (.ok session, opened)) :
    session.EntersAtTop config opened := by
  rcases opens : session.channel with host | channel
  · exact entrySets_of_host built opens
  · exact entrySets_of_debug built opens

end Session

namespace Simulation

/-- A configuration for the scripted device behind a debug server. -/
def boardConfig (start size : UInt64) : DeviceConfig where
  deviceId := "mock"
  toolchainPrefix := ""
  memLayout := benchConfig.memLayout.insert .stack (some start) size
  wordSize := 32
  thumbMode := false
  commsMethod := "openocd"
  serverAddr := some "127.0.0.1"
  serverPort := some 6666

/-- The world of the bench with a debug server that confirms all commands. -/
def boardWorld : World :=
  { benchWorld with network := ⟨some (server []), []⟩ }

end Simulation

/-- A session over a debug server is entered at the top of a stack of nineteen bytes. -/
theorem Session.stack_pointer_tops_stack_of_board :
    ∃ session opened, (Session.build Simulation.hostSetup
        (Simulation.boardConfig 0x20040000 19)).run Simulation.boardWorld =
          (.ok session, opened) ∧
      session.EntersAtTop (Simulation.boardConfig 0x20040000 19) opened := by
  have succeeds : ((Session.build Simulation.hostSetup
      (Simulation.boardConfig 0x20040000 19)).run Simulation.boardWorld).1.isOk = true := by
    decide +kernel
  rcases built : (Session.build Simulation.hostSetup
    (Simulation.boardConfig 0x20040000 19)).run Simulation.boardWorld with
      ⟨error | session, opened⟩ <;> rw [built] at succeeds
  · cases succeeds
  · exact ⟨session, opened, rfl, Session.stack_pointer_tops_stack built⟩

/-- A stack that lies between two words has the pointer set to an address before it. -/
theorem Session.stack_pointer_before_stack :
    ∃ session opened entered, (Session.build Simulation.hostSetup
        (Simulation.boardConfig 0x20040001 1)).run Simulation.boardWorld = (.ok session, opened) ∧
      session.config.memLayout.extent? .stack = some ⟨some 0x20040001, 1⟩ ∧
      Live.enter.run ⟨session, opened⟩ = (.ok (), entered) ∧
      entered.world.network.received.getLast? =
        some (Text.encode (DebugChannel.tagged "reg sp 0x20040000")) := by
  have evaluates : (match (Session.build Simulation.hostSetup
        (Simulation.boardConfig 0x20040001 1)).run Simulation.boardWorld with
      | (.ok session, opened) =>
          match Live.enter.run ⟨session, opened⟩ with
          | (.ok (), entered) => decide
              (session.config.memLayout.extent? .stack = some ⟨some 0x20040001, 1⟩ ∧
                entered.world.network.received.getLast? =
                  some (Text.encode (DebugChannel.tagged "reg sp 0x20040000")))
          | (.error _, _) => false
      | (.error _, _) => false) = true := by
    decide +kernel
  rcases built : (Session.build Simulation.hostSetup
    (Simulation.boardConfig 0x20040001 1)).run Simulation.boardWorld with
      ⟨error | session, opened⟩ <;> rw [built] at evaluates
  · cases evaluates
  · dsimp only at evaluates
    rcases entry : Live.enter.run ⟨session, opened⟩ with ⟨error | _, entered⟩ <;>
      rw [entry] at evaluates
    · cases evaluates
    · obtain ⟨held, sent⟩ := of_decide_eq_true evaluates
      exact ⟨session, opened, entered, rfl, held, entry, sent⟩

end MicroDevice
