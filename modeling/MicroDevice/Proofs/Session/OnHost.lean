import MicroDevice.Proofs.Channel.Calls
import MicroDevice.Proofs.Session.Closing
import MicroDevice.Proofs.Session.Stages
import MicroDevice.Simulation.Bench

/-! # Sessions on the host

A session over a channel to the host and the emulated device keep in step: the session is entered
just if the device is armed (`Live.OnHost`). What was checked when the channel was opened is enough
for each entry to find the registers that it sets, so that no operation fails but an entry that is
nested in another.
-/

namespace MicroDevice

namespace MemoryLayout

/-- A kind that is provided has a non-empty region somewhere in the list. -/
theorem exists_split_of_provides {layout : MemoryLayout} {kind : RegionKind}
    (provides : layout.provides kind = true) :
    ∃ earlier region later, layout.regions = earlier ++ region :: later ∧ region.kind = kind ∧
      0 < region.size := by
  rcases held : layout.extent? kind with _ | ⟨start, size⟩
  · simp [MemoryLayout.provides, held] at provides
  · have filled : 0 < size := by simpa [MemoryLayout.provides, held] using provides
    have member : ⟨kind, start, size⟩ ∈ layout.regions := mem_regions.mpr held
    obtain ⟨earlier, later, split⟩ := List.append_of_mem member
    exact ⟨earlier, ⟨kind, start, size⟩, later, split, rfl, filled⟩

end MemoryLayout

namespace DeviceConfig

/-- Where the region of a kind is emulated: at its address, or else packed into the arena. -/
def EmulatedAt (config : DeviceConfig) (kind : RegionKind) (placement : Placement) : Prop :=
  ∃ earlier region later, config.memLayout.regions = earlier ++ region :: later ∧
    region.kind = kind ∧ 0 < region.size ∧
    HostChannel.Emulates HostChannel.arenaBase.toNat (config.wordSize.toNat / 8) earlier region
      placement

/-- The words of a device that can be built for have four bytes or eight. -/
theorem wordBytes_of_isOk {config : DeviceConfig} (sized : config.wordSizeBytes.isOk = true) :
    config.wordSize.toNat / 8 = 4 ∨ config.wordSize.toNat / 8 = 8 := by
  unfold wordSizeBytes at sized
  split at sized
  · rename_i known
    rcases known with isSize | isSize
    · exact .inl (by rw [isSize]; rfl)
    · exact .inr (by rw [isSize]; rfl)
  · cases sized

end DeviceConfig

namespace Session

variable {Kind : Type}

/-- What a session was built with passed the checks of the builder, and its channel comes from the
opener. -/
theorem opener_of_build {setup : SessionSetup Kind} {config : DeviceConfig}
    {before opened : World} {session : Session Kind}
    (built : (build setup config).run before = (.ok session, opened)) :
    ∃ params files network later, (setup.opener params files).run network =
        (.ok session.channel, later) ∧
      params.regions = config.memLayout.regions ∧
      params.alignment.toNat = config.wordSize.toNat / 8 ∧
      params.arenaStart = HostChannel.arenaBase.toNat ∧
      ∀ kind, config.memLayout.provides kind = true := by
  obtain ⟨regions, housed, compiled, required, sized, -, -, opens, -, -⟩ := build_ok built
  obtain ⟨regions_eq, provides⟩ := MemoryLayout.requireAll_ok required
  obtain ⟨made, -⟩ := Prod.mk.inj opens
  have wordBytes := DeviceConfig.wordBytes_of_isOk sized
  have alignment_eq :
      (channelParams config regions session.transport session.runtime).alignment.toNat =
        config.wordSize.toNat / 8 := by
    rw [ChannelParams.toNat_alignment]
    change max 1 (config.wordSize.toNat / 8) = _
    omega
  refine ⟨_, _, _, _, Prod.ext made rfl, regions_eq, alignment_eq, ?_, provides⟩
  unfold ChannelParams.arenaStart
  apply Word.ceiling_of_dvd
  · exact ChannelParams.alignment_pos _
  · rw [alignment_eq]
    rcases wordBytes with four | eight
    · rw [four]
      decide
    · rw [eight]
      decide

variable [HostBacked Kind]

/-- The regions of a session over a channel to the host are emulated inside the address space. -/
theorem emulated_of_build {setup : SessionSetup Kind} {config : DeviceConfig}
    {before opened : World} {session : Session Kind} {host : HostChannel}
    (built : (build setup config).run before = (.ok session, opened))
    (checks : setup.opener.ChecksHost) (isHost : session.channel = HostBacked.ofHost host) :
    ∃ params files, HostChannel.openWith params files = .ok host ∧
      params.alignment.toNat = config.wordSize.toNat / 8 ∧
      ∀ kind, ∃ placement, host.placement? kind = some placement ∧
        config.EmulatedAt kind placement ∧
        placement.base.toNat + placement.size.toNat < UInt64.size := by
  obtain ⟨params, files, network, later, opens, regions_eq, alignment_eq, start_eq, provides⟩ :=
    opener_of_build built
  rw [isHost] at opens
  have checked := checks _ _ _ _ _ opens
  have distinct : (params.regions.map (·.kind)).Nodup := by
    rw [regions_eq]
    exact config.memLayout.nodup_kinds
  refine ⟨params, files, checked, alignment_eq, fun kind => ?_⟩
  obtain ⟨earlier, region, after, split, rfl, filled⟩ :=
    MemoryLayout.exists_split_of_provides (provides kind)
  obtain ⟨placement, found, emulates⟩ :=
    HostChannel.openWith_emulates checked distinct (regions_eq.trans split)
  rw [alignment_eq, start_eq] at emulates
  exact ⟨placement, found, ⟨earlier, region, after, split, rfl, filled, emulates⟩,
    emulates.inside⟩

/-- A session over a channel to the host is ready: the registers that an entry sets are the
beginning of the text and the last whole word of the stack. -/
theorem ready_of_build {setup : SessionSetup Kind} {config : DeviceConfig}
    {before opened : World} {session : Session Kind} {host : HostChannel}
    (built : (build setup config).run before = (.ok session, opened))
    (checks : setup.opener.ChecksHost) (isHost : session.channel = HostBacked.ofHost host) :
    ∃ text stack top, config.EmulatedAt .text text ∧ config.EmulatedAt .stack stack ∧
      top.toNat = (stack.base.toNat + stack.size.toNat) / (config.wordSize.toNat / 8) *
        (config.wordSize.toNat / 8) ∧
      host.Ready ⟨true, text.base, top⟩ ∧ host.context = .idle := by
  obtain ⟨params, files, checked, alignment_eq, emulated⟩ := emulated_of_build built checks isHost
  obtain ⟨text, hasText, isText, -⟩ := emulated .text
  obtain ⟨stack, hasStack, isStack, inside⟩ := emulated .stack
  obtain ⟨top, top_eq, isReady⟩ :=
    HostChannel.ready_of_openWith checked hasText hasStack inside
  rw [alignment_eq] at top_eq
  obtain ⟨_, _, _, -, -, -, -, -, rfl⟩ := HostChannel.openWith_ok_iff.mp checked
  exact ⟨text, stack, top, isText, isStack, top_eq, isReady, rfl⟩

end Session

/-- A session over a channel to the host keeps in step with the device: it is entered just if the
device is armed, and then the registers are those that an entry sets. -/
structure Live.OnHost {Kind : Type} [HostBacked Kind] (host : HostChannel)
    (ready : ExecutionContext) (live : Live Kind) : Prop where
  channel : ∃ context, live.session.channel = HostBacked.ofHost { host with context } ∧
    (live.session.phase = .entered ↔ context.armed = true) ∧
    (live.session.phase = .entered → context = ready)
  allowed : live.session.phase ≠ .entered → live.session.phase.refusal? = none
  notClosed : live.session.isClosed = false

namespace Live.OnHost

variable {Kind : Type} [HostBacked Kind] {host : HostChannel} {ready : ExecutionContext}
  {live : Live Kind}

/-- Outside of a scope a session over a ready host enters and stays in step with it. -/
theorem enter (onHost : live.OnHost host ready) (isReady : host.Ready ready)
    (outside : live.session.phase ≠ .entered) :
    ∃ inside, Live.enter.run live = (.ok (), inside) ∧ inside.OnHost host ready ∧
      inside.session.phase = .entered := by
  obtain ⟨context, channel_eq, -, -⟩ := onHost.channel
  have entering := Live.entering live
  rcases ran : Live.enter.run live with ⟨result, inside⟩
  rw [ran] at entering
  cases entering with
  | refused refuses => cases (onHost.allowed outside).symm.trans refuses
  | failed allowed asked =>
      have performed := asked.performed
      rw [channel_eq, HostBacked.perform_enter isReady] at performed
      cases performed
  | entered allowed asked =>
      have performed := asked.performed
      rw [channel_eq, HostBacked.perform_enter isReady] at performed
      obtain ⟨-, rest⟩ := Prod.mk.inj performed
      obtain ⟨same, -⟩ := Prod.mk.inj rest
      refine ⟨_, rfl, ⟨⟨ready, same.symm, ?_, fun _ => rfl⟩, ?_, ?_⟩, rfl⟩
      · exact iff_of_true rfl isReady.armed
      · exact fun apart => absurd rfl apart
      · rw [asked.session_eq]
        exact onHost.notClosed

/-- An entry that fails leaves the session as it is. -/
theorem of_enter_error (onHost : live.OnHost host ready) (isReady : host.Ready ready)
    {error : SessionError} {later : Live Kind}
    (failed : Live.enter.run live = (.error error, later)) :
    later = live := by
  by_cases inside : live.session.phase = .entered
  · rw [Live.enter_of_entered inside] at failed
    exact (Prod.mk.inj failed).2.symm
  · obtain ⟨entered, ran, -, -⟩ := onHost.enter isReady inside
    cases ran.symm.trans failed

/-- An entry that succeeded left the session in step with the host. -/
theorem of_enter (onHost : live.OnHost host ready) (isReady : host.Ready ready)
    {later : Live Kind} (ran : Live.enter.run live = (.ok (), later)) :
    later.OnHost host ready := by
  by_cases inside : live.session.phase = .entered
  · rw [Live.enter_of_entered inside] at ran
    cases ran
  · obtain ⟨entered, alsoRan, entersOnHost, -⟩ := onHost.enter isReady inside
    cases ran.symm.trans alsoRan
    exact entersOnHost

/-- Exiting succeeds, and leaves the device disarmed. -/
theorem exit (onHost : live.OnHost host ready) (isReady : host.Ready ready) :
    (Live.exit.run live).1 = .ok () ∧ live.release.OnHost host ready := by
  obtain ⟨context, channel_eq, -, -⟩ := onHost.channel
  have exiting := Live.exiting live
  rw [Live.release]
  rcases ran : Live.exit.run live with ⟨result, later⟩
  rw [ran] at exiting
  cases exiting with
  | idle outside => exact ⟨rfl, onHost⟩
  | exited inside asked =>
      have performed := asked.performed
      rw [setPhase, channel_eq, HostBacked.perform_exit isReady] at performed
      obtain ⟨succeeded, rest⟩ := Prod.mk.inj performed
      obtain ⟨same, -⟩ := Prod.mk.inj rest
      have left : later.session.phase = .exited := asked.phase_eq
      refine ⟨succeeded.symm, ⟨_, same.symm, ?_, ?_⟩, ?_, ?_⟩
      · rw [left]
        exact iff_of_false Phase.noConfusion Bool.noConfusion
      · rw [left]
        exact fun impossible => Phase.noConfusion impossible
      · rw [left]
        exact fun _ => rfl
      · rw [asked.session_eq]
        exact onHost.notClosed

/-- Closing the channel of a session over a ready host succeeds and shuts the host. -/
theorem closeChannel (onHost : live.OnHost host ready) (isReady : host.Ready ready) :
    (Live.closeChannel.run live).1 = .ok () ∧
      (Live.closeChannel.run live).2.session.channel = HostBacked.ofHost host.shut := by
  obtain ⟨context, channel_eq, -, -⟩ := onHost.channel
  have performed := (Live.closing onHost.notClosed).performed
  rw [channel_eq, HostBacked.perform_close isReady] at performed
  obtain ⟨succeeded, rest⟩ := Prod.mk.inj performed
  exact ⟨succeeded.symm, (Prod.mk.inj rest).1.symm⟩

theorem close (onHost : live.OnHost host ready) (isReady : host.Ready ready) :
    live.close.1 = .ok () := by
  obtain ⟨exited, left⟩ := onHost.exit isReady
  have closed := (left.closeChannel isReady).1
  unfold Live.close
  rw [Live.release] at closed
  dsimp only
  rw [exited]
  exact closed

end Live.OnHost

variable {Kind : Type} [HostBacked Kind]

/-- All operations of a session keep it in step with the device. -/
theorem Stage.invariant_onHost {host : HostChannel} {ready : ExecutionContext}
    (isReady : host.Ready ready) :
    Stage.Invariant True fun stage : Stage Kind => stage.live.OnHost host ready where
  told _ _ onHost := onHost
  forget _ _ onHost := onHost
  refuse _ _ _ onHost ran := by
    rw [onHost.of_enter_error isReady ran]
    exact onHost
  enter _ _ onHost ran := onHost.of_enter isReady ran
  gain _ _ onHost ran := onHost.of_enter isReady ran
  release _ onHost := (onHost.exit isReady).2
  build _ _ _ onHost _ := ⟨onHost.channel, onHost.allowed, onHost.notClosed⟩

/-- What a session over a channel to the host does at a stage, if an entry sets the registers as
given. -/
structure Stage.TracksHost (host : HostChannel) (ready : ExecutionContext) (stage : Stage Kind) :
    Prop where
  /-- The session is entered just if the device is armed, and then has these registers. -/
  inStep : ∃ context, stage.live.session.channel = HostBacked.ofHost { host with context } ∧
    (stage.live.session.phase = .entered ↔ context.armed = true) ∧
    (stage.live.session.phase = .entered → context = ready)
  /-- Entering fails just if the session is entered, and else sets the registers. -/
  nested : stage.live.session.phase = .entered →
    Live.enter.run stage.live = (.error .reentrancy, stage.live)
  enters : stage.live.session.phase ≠ .entered → ∃ inside,
    Live.enter.run stage.live = (.ok (), inside) ∧ inside.session.phase = .entered ∧
      inside.session.channel = HostBacked.ofHost { host with context := ready }
  exits : (Live.exit.run stage.live).1 = .ok ()
  closes : stage.live.close.1 = .ok ()
  /-- However the session is ended, its channel refuses everything after that. -/
  shut : ∀ finale, ∃ closed : HostChannel,
    (Live.closeChannel.run (stage.left finale)).2.session.channel = HostBacked.ofHost closed ∧
      closed.context = ⟨false, 0, 0⟩ ∧
      ∀ hook network, (Channel.perform hook).run ((HostBacked.ofHost closed : Kind), network) =
        (.error (.channel .hostClosed), HostBacked.ofHost closed, network)

/-- A session in step with a ready host tracks it in all that it can do next. -/
theorem Live.OnHost.tracks {host : HostChannel} {ready : ExecutionContext} {stage : Stage Kind}
    (onHost : stage.live.OnHost host ready) (isReady : host.Ready ready) :
    stage.TracksHost host ready where
  inStep := onHost.channel
  nested := Live.enter_of_entered
  enters outside := by
    obtain ⟨inside, ran, entersOnHost, entered⟩ := onHost.enter isReady outside
    obtain ⟨_, channel_eq, -, registers⟩ := entersOnHost.channel
    rw [registers entered] at channel_eq
    exact ⟨inside, ran, entered, channel_eq⟩
  exits := (onHost.exit isReady).1
  closes := onHost.close isReady
  shut finale := by
    have left : (stage.left finale).OnHost host ready :=
      Stage.left_of_release (Live.OnHost host ready) onHost (onHost.exit isReady).2 finale
    refine ⟨host.shut, (left.closeChannel isReady).2, rfl, ?_⟩
    intro hook network
    exact HostBacked.perform_shut hook host network

/-- A session that was built over a channel to the host is in step with the device. -/
theorem Session.Opened.onHost {before opened : World} {session : Session Kind}
    {host : HostChannel} (opens : session.Opened before opened)
    (isHost : session.channel = HostBacked.ofHost host) (idle : host.context = .idle)
    (ready : ExecutionContext) : Live.OnHost host ready ⟨session, opened⟩ := by
  have outside : session.phase ≠ .entered := by
    rw [opens.phase_eq]
    exact Phase.noConfusion
  refine ⟨⟨host.context, isHost, ?_, fun inside => absurd inside outside⟩, ?_, opens.notClosed⟩
  · rw [idle]
    exact iff_of_false outside Bool.noConfusion
  · rw [opens.phase_eq]
    exact fun _ => rfl

/-- Whatever is done with a session over a channel to the host, at each moment the session is
entered just if the device is armed. An entry sets the program counter to the beginning of the text
and the stack pointer to the last whole word of the stack, and fails in an entered session alone. -/
theorem Session.tracks_host {setup : SessionSetup Kind} {config : DeviceConfig}
    {before opened : World} {session : Session Kind} {host : HostChannel}
    (built : (Session.build setup config).run before = (.ok session, opened))
    (checks : setup.opener.ChecksHost) (isHost : session.channel = HostBacked.ofHost host) :
    ∃ text stack top, config.EmulatedAt .text text ∧ config.EmulatedAt .stack stack ∧
      top.toNat = (stack.base.toNat + stack.size.toNat) / (config.wordSize.toNat / 8) *
        (config.wordSize.toNat / 8) ∧
      ∀ steps passed, (Stage.start session opened).Passes steps passed →
        passed.TracksHost host ⟨true, text.base, top⟩ := by
  obtain ⟨text, stack, top, isText, isStack, top_eq, isReady, idle⟩ :=
    Session.ready_of_build built checks isHost
  have begins := (Session.opened_of_build built).onHost isHost idle ⟨true, text.base, top⟩
  refine ⟨text, stack, top, isText, isStack, top_eq, ?_⟩
  intro steps passed passes
  have onHost : passed.live.OnHost host ⟨true, text.base, top⟩ :=
    (Stage.invariant_onHost isReady).passes passes (fun _ => trivial) begins
  exact onHost.tracks isReady

namespace Simulation

/-- A session over a channel to the host is built on the bench. -/
theorem hostBuild_ok : ∃ session opened host,
    (Session.build hostSetup benchConfig).run benchWorld = (.ok session, opened) ∧
      session.channel = .host host := by
  have succeeds : ((Session.build hostSetup benchConfig).run benchWorld).1.toOption.any
      (fun session => session.channel.rec (fun _ => true) fun _ => false) = true := by
    decide +kernel
  rcases built : (Session.build hostSetup benchConfig).run benchWorld with
    ⟨error | session, opened⟩ <;> rw [built] at succeeds
  · cases succeeds
  · rcases isHost : session.channel with host | debug
    · exact ⟨session, opened, host, rfl, isHost⟩
    · simp [isHost, Except.toOption] at succeeds

end Simulation

/-- A session on the host is entered in the body of a scope that is exited from within, and again
after that, with a guard that is forgotten. -/
theorem Session.tracks_host_through_scopes :
    ∃ session opened host, (Session.build Simulation.hostSetup Simulation.benchConfig).run
        Simulation.benchWorld = (.ok session, opened) ∧ session.channel = .host host ∧
      let stage := ((Stage.start session opened).playAll
        [.within [.enter, .exit, .enter] (.unwound "boom"), .enter, .forgetGuard 0]).2
      ∃ text stack top, Simulation.benchConfig.EmulatedAt .text text ∧
        Simulation.benchConfig.EmulatedAt .stack stack ∧
        top.toNat = (stack.base.toNat + stack.size.toNat) / 8 * 8 ∧
        stage.TracksHost host ⟨true, text.base, top⟩ := by
  obtain ⟨session, opened, host, built, isHost⟩ := Simulation.hostBuild_ok
  obtain ⟨text, stack, top, isText, isStack, top_eq, tracks⟩ :=
    Session.tracks_host built checksHost_openDevice isHost
  have passes := Stage.passes_playAll (Stage.start session opened)
    [.within [.enter, .exit, .enter] (.unwound "boom"), .enter, .forgetGuard 0]
  exact ⟨session, opened, host, built, isHost, text, stack, top, isText, isStack, top_eq,
    tracks _ _ passes⟩

end MicroDevice
