import MicroDevice.Proofs.Channel.Calls
import MicroDevice.Proofs.Channel.Conversation
import MicroDevice.Proofs.Channel.Wire

/-! # The transports agree on addresses

A device whose text and stack regions have addresses is driven alike over both transports: the
registers that the host sets are the addresses that the debug server is given
(`ChannelParams.transports_agree`). The host takes a word for at least one byte where the debug
channel takes it for none, and the stack is checked when one channel is entered and the other is
opened; neither makes a difference.
-/

namespace MicroDevice

namespace HostChannel

variable {params : ChannelParams} {files : FileTree} {host : HostChannel} {kind : RegionKind}
  {region : MemoryRegion} {base : UInt64}

/-- A region with an address is emulated there, and ends inside the address space. -/
theorem placed_of_openWith (opened : openWith params files = .ok host)
    (distinct : (params.regions.map (·.kind)).Nodup) (found : params.region? kind = some region)
    (based : region.base = some base) :
    host.placement? kind = some ⟨base, region.size⟩ ∧
      base.toNat + region.size.toNat < UInt64.size := by
  have kind_eq : region.kind = kind := by simpa using List.find?_some found
  obtain ⟨earlier, later, split⟩ := List.append_of_mem (List.mem_of_find?_eq_some found)
  obtain ⟨placement, placed, emulates⟩ := openWith_emulates opened distinct split
  have base_eq := emulates.placed base based
  have inside := emulates.inside
  rw [base_eq, emulates.size_eq] at inside
  refine ⟨?_, inside⟩
  rw [← kind_eq, placed, ← base_eq, ← emulates.size_eq]

end HostChannel

namespace DebugChannel

open Connection

variable {params : ChannelParams} {files : FileTree} {network later : Network} {server : Server}
  {text stack : MemoryRegion}

/-- With a text region and a stack region, the addresses are the base of the one and the top of the
other, if the stack has a top. -/
theorem addresses_eq (hasText : params.region? .text = some text)
    (hasStack : params.region? .stack = some stack) :
    addresses params =
      match stackTop? stack.wireBase stack.size params.wordBytes with
      | none => .error .stackPastTop
      | some top => .ok (text.wireBase, top) := by
  rcases ends : stackTop? stack.wireBase stack.size params.wordBytes with _ | top <;>
    simp [addresses, hasText, hasStack, ends]

/-- A channel that was opened had the runtime loaded, and keeps the top of the stack. -/
theorem loads_of_openDebug (hosts : network.server = some server) {channel : DebugChannel}
    (opened : (openDebug params files).run network = (.ok channel, later)) :
    ∃ base, addresses params = .ok (base, channel.stackPointer) ∧
      channel.connection.isSome = true ∧
      later.wire = network.wire ++ (loading params.runtime base).flatMap written := by
  rw [run_openDebug hosts] at opened
  rcases places : addresses params with fault | ⟨base, top⟩ <;> rw [places] at opened
  · cases opened
  · have sends := sends_runAll OpenFault.command (loading params.runtime base)
      (fresh, network)
    dsimp only at opened
    rcases ran : (runAll OpenFault.command (loading params.runtime base)).run
      (fresh, network) with ⟨fault | _, connection, last⟩ <;> rw [ran] at opened sends
    · cases opened
    · cases opened
      exact ⟨base, rfl, rfl, sends.of_done rfl⟩

/-- The stack is the reason for a refusal just if the addresses are refused for it. -/
theorem openDebug_stackPastTop_iff (hosts : network.server = some server) :
    ((openDebug params files).run network).1 = .error (.opening ⟨"openocd", .stackPastTop⟩) ↔
      addresses params = .error .stackPastTop := by
  rw [run_openDebug hosts]
  rcases addresses params with fault | ⟨base, top⟩
  · simp
  · dsimp only
    obtain ⟨exchanges, outcome, last, -, -, ran⟩ :=
      course_of_runAll OpenFault.command (loading params.runtime base) (fresh, network)
    rw [ran]
    cases outcome with
    | error failure => simp [Except.mapError]
    | ok _ => simp [Except.mapError]

/-- An entry has the device halted and then its stack pointer set. -/
theorem sends_enter (connection : Connection) (stackPointer : UInt64) (before : Network) :
    let entry := DebugChannel.enter.run (⟨some connection, stackPointer⟩, before)
    Sends (commands stackPointer .enter) (entry.1 = .ok ()) before entry.2.2 :=
  sends_runAll ChannelFault.command (commands stackPointer .enter) (connection, before)

end DebugChannel

namespace ChannelParams

open DebugChannel

/-- Where the text and the stack regions of a device have addresses, both transports place it
alike, whatever the word size is. If both open, the registers that every entry of the host channel
sets are the addresses that the debug server is given: the runtime is loaded at the program
counter, and every entry sets the stack pointer to the same address unless the server fails
before. A debug server that is reached is not the reason for a refusal on account of the stack:
that comes just if the stack ends past the top of the address space, and then the host channel is
not opened either. -/
theorem transports_agree (params : ChannelParams) (files : FileTree) {network : Network}
    {server : Server} (hosts : network.server = some server)
    (distinct : (params.regions.map (·.kind)).Nodup) {text stack : MemoryRegion}
    {textBase stackBase : UInt64} (hasText : params.region? .text = some text)
    (textBased : text.base = some textBase) (hasStack : params.region? .stack = some stack)
    (stackBased : stack.base = some stackBase) :
    (∀ host channel later, HostChannel.openWith params files = .ok host →
      (openDebug params files).run network = (.ok channel, later) →
        ∃ registers load sets,
          (∀ context, HostChannel.enter { host with context } =
            (.ok (), { host with context := registers })) ∧
          later.wire = network.wire ++ written "reset halt" ++ written load ∧
          loadOffset? load = some registers.pc.toNat ∧
          channel.connection.isSome = true ∧
          (∀ connection before,
            let entry := DebugChannel.enter.run ({ channel with connection := some connection },
              before)
            Sends ["reset halt", sets] (entry.1 = .ok ()) before entry.2.2) ∧
          stackAddress? sets = some registers.sp.toNat) ∧
    (((openDebug params files).run network).1 = .error (.opening ⟨"openocd", .stackPastTop⟩) ↔
      2 ^ 64 - 1 < stackBase.toNat + stack.size.toNat) ∧
    (2 ^ 64 - 1 < stackBase.toNat + stack.size.toNat →
      (HostChannel.openWith params files).isOk = false) := by
  have textWire : text.wireBase = textBase := by rw [MemoryRegion.wireBase, textBased]; rfl
  have stackWire : stack.wireBase = stackBase := by rw [MemoryRegion.wireBase, stackBased]; rfl
  have placed := addresses_eq hasText hasStack
  rw [textWire, stackWire] at placed
  refine ⟨?_, ?_, ?_⟩
  · intro host channel later opened alsoOpened
    obtain ⟨base, isPlaced, isOpen, wire_eq⟩ := loads_of_openDebug hosts alsoOpened
    obtain ⟨textPlaced, -⟩ := HostChannel.placed_of_openWith opened distinct hasText textBased
    obtain ⟨stackPlaced, -⟩ := HostChannel.placed_of_openWith opened distinct hasStack stackBased
    obtain ⟨load, opens, load_eq⟩ := loadOffset?_loading params.runtime base
    obtain ⟨sets, enters, sets_eq⟩ := stackAddress?_commands channel.stackPointer
    have ends : stackTop? stackBase stack.size params.wordBytes = some channel.stackPointer ∧
        base = textBase := by
      rw [placed] at isPlaced
      split at isPlaced
      · cases isPlaced
      · rename_i top ends
        cases isPlaced
        exact ⟨ends, rfl⟩
    obtain ⟨ends, rfl⟩ := ends
    have ready : host.Ready ⟨true, base, channel.stackPointer⟩ := by
      obtain ⟨_, _, placement?, -, -, -, -, -, rfl⟩ := HostChannel.openWith_ok_iff.mp opened
      refine ⟨rfl, ?_⟩
      dsimp only at textPlaced stackPlaced
      simp only [HostChannel.armedContext, textPlaced, stackPlaced, stackTop?_alignment, ends]
    refine ⟨⟨true, base, channel.stackPointer⟩, load, sets, ready.enter, ?_, load_eq, isOpen, ?_,
      sets_eq⟩
    · rw [wire_eq, opens, List.append_assoc]
      simp
    · intro connection before
      rw [← enters]
      exact sends_enter connection channel.stackPointer before
  · rw [openDebug_stackPastTop_iff hosts, placed]
    rw [← @stackTop?_eq_none_iff stackBase stack.size params.wordBytes]
    rcases stackTop? stackBase stack.size params.wordBytes with _ | top <;> simp
  · intro past
    rcases opened : HostChannel.openWith params files with fault | host
    · rfl
    · have inside := (HostChannel.placed_of_openWith opened distinct hasStack stackBased).2
      rw [UInt64.size] at inside
      omega

/-- A word size of four bits comes to no bytes for one transport and to one byte for the other,
and the registers agree. -/
theorem transports_agree_without_words :
    let params : ChannelParams := { Simulation.imageParams (fun
      | .text => some 0x20000180
      | .stack => some 0x20040000
      | _ => none) with wordSize := 4 }
    let files := Simulation.filesWith (Simulation.codeImage [16])
    let network : Network := ⟨some (Simulation.server []), []⟩
    (params.regions.map (·.kind)).Nodup ∧
      ∃ host channel later registers load sets,
        HostChannel.openWith params files = .ok host ∧
        (openDebug params files).run network = (.ok channel, later) ∧
        host.enter = (.ok (), { host with context := registers }) ∧
        later.wire = written "reset halt" ++ written load ∧
        loadOffset? load = some registers.pc.toNat ∧
        Sends ["reset halt", sets]
          ((DebugChannel.enter.run (channel, later)).1 = .ok ()) later
          (DebugChannel.enter.run (channel, later)).2.2 ∧
        stackAddress? sets = some registers.sp.toNat := by
  intro params files network
  have distinct : (params.regions.map (·.kind)).Nodup := by decide
  obtain ⟨host, opened⟩ := HostChannel.isOk_iff.mp
    (by decide +kernel : (HostChannel.openWith params files).isOk = true)
  obtain ⟨channel, alsoOpened⟩ := HostChannel.isOk_iff.mp
    (by decide +kernel : ((openDebug params files).run network).1.isOk = true)
  obtain ⟨agree, -, -⟩ := @transports_agree params files network _ rfl distinct
    ⟨.text, some 0x20000180, 4096⟩ ⟨.stack, some 0x20040000, 4096⟩ 0x20000180 0x20040000
    (by decide) rfl (by decide) rfl
  obtain ⟨registers, load, sets, enters, wire_eq, loads, isOpen, sends, sets_eq⟩ :=
    agree host channel _ opened (Prod.ext alsoOpened rfl)
  refine ⟨distinct, host, channel, _, registers, load, sets, opened, Prod.ext alsoOpened rfl,
    enters host.context, wire_eq, loads, ?_, sets_eq⟩
  obtain ⟨connection, stackPointer⟩ := channel
  obtain ⟨connection, rfl⟩ := Option.isSome_iff_exists.mp isOpen
  exact sends connection _

end ChannelParams

end MicroDevice
