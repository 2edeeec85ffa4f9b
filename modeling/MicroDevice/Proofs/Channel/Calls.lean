import MicroDevice.Channel.Basic
import MicroDevice.Proofs.Action.Moves
import MicroDevice.Proofs.Channel.Placement

/-! # Calls of a channel to the host

What comes of the operations of a channel to the host: an open one whose stack ends inside the
address space is entered and exited as often as one likes, and a closed one refuses all of them.
All kinds of channels that have these among them behave so (`HostBacked`).
-/

namespace MicroDevice

namespace HostChannel

variable {host : HostChannel} {ready : ExecutionContext}

/-- A channel is ready to be entered: it is open, and the registers for an entry are known. -/
structure Ready (host : HostChannel) (ready : ExecutionContext) : Prop where
  isOpen : host.isOpen = true
  arms : host.armedContext = .ok ready

/-- What an operation does to a channel. -/
def call (hook : Hook) (host : HostChannel) : Except ChannelFault Unit × HostChannel :=
  match hook with
  | .enter => host.enter
  | .exit => host.exit
  | .close => host.close

/-- The channel once it was closed. -/
def shut (host : HostChannel) : HostChannel :=
  { host with placement? := fun _ => none, context := .idle, isOpen := false }

/-- The context that a host channel is armed with is an armed one. -/
theorem Ready.armed (isReady : host.Ready ready) : ready.armed = true := by
  have arms := isReady.arms
  unfold armedContext at arms
  split at arms
  · split at arms
    · cases arms
      rfl
    · cases arms
  · cases arms

/-- Entering a ready host channel installs the armed context. -/
theorem Ready.enter (isReady : host.Ready ready) (context : ExecutionContext) :
    HostChannel.enter { host with context } = (.ok (), { host with context := ready }) := by
  have arms : armedContext { host with context } = .ok ready := isReady.arms
  rw [HostChannel.enter, if_pos isReady.isOpen, arms]

/-- Exiting from a ready host channel disarms the device and keeps its registers. -/
theorem Ready.exit (isReady : host.Ready ready) (context : ExecutionContext) :
    HostChannel.exit { host with context } =
      (.ok (), { host with context := { context with armed := false } }) :=
  if_pos isReady.isOpen

/-- Closing a ready host channel shuts it. -/
theorem Ready.close (isReady : host.Ready ready) (context : ExecutionContext) :
    HostChannel.close { host with context } = (.ok (), host.shut) :=
  if_pos isReady.isOpen

/-- A channel that was opened is ready if its stack ends inside the address space. -/
theorem ready_of_openWith {params : ChannelParams} {files : FileTree} {text stack : Placement}
    (opened : openWith params files = .ok host) (hasText : host.placement? .text = some text)
    (hasStack : host.placement? .stack = some stack)
    (inside : stack.base.toNat + stack.size.toNat < UInt64.size) :
    ∃ top, top.toNat = (stack.base.toNat + stack.size.toNat) / params.alignment.toNat *
        params.alignment.toNat ∧ host.Ready ⟨true, text.base, top⟩ := by
  obtain ⟨_, _, placement?, -, -, -, -, -, rfl⟩ := openWith_ok_iff.mp opened
  rcases ends : stackTop? stack.base stack.size params.alignment with _ | top
  · have past := stackTop?_eq_none_iff.mp ends
    rw [UInt64.size] at inside
    omega
  · obtain ⟨-, top_eq⟩ := (stackTop?_eq_some_iff params.alignment_pos).mp ends
    refine ⟨top, top_eq, rfl, ?_⟩
    dsimp only at hasText hasStack
    simp only [armedContext, hasText, hasStack, ends]

end HostChannel

/-- The kinds of channels that have the channels to the host among them. -/
class HostBacked (Kind : Type) extends Channel Kind where
  ofHost : HostChannel → Kind
  perform_ofHost : ∀ hook host network, (Channel.perform hook).run (ofHost host, network) =
    (((Channel.perform hook).run (host, network)).1,
      ofHost ((Channel.perform hook).run (host, network)).2.1, network)

instance : HostBacked HostChannel where
  ofHost host := host
  perform_ofHost _ _ _ := rfl

instance : HostBacked DeviceChannel where
  ofHost := .host
  perform_ofHost _ _ _ := rfl

namespace HostBacked

variable {Kind : Type} [HostBacked Kind] {host : HostChannel} {ready : ExecutionContext}

/-- A hook of a host channel is its call, with the error worded for sessions and the network
untouched. -/
theorem perform_eq (hook : Hook) (host : HostChannel) (network : Network) :
    (Channel.perform hook).run ((ofHost host : Kind), network) =
      ((host.call hook).1.mapError .channel, ofHost (host.call hook).2, network) := by
  rw [perform_ofHost]
  cases hook <;> rfl

/-- The entry hook of a ready host channel succeeds with the armed context. -/
theorem perform_enter (isReady : host.Ready ready) (context : ExecutionContext)
    (network : Network) :
    (Channel.perform .enter).run ((ofHost { host with context } : Kind), network) =
      (.ok (), ofHost { host with context := ready }, network) := by
  rw [perform_eq, HostChannel.call, isReady.enter]
  rfl

/-- The exit hook of a ready host channel succeeds and disarms the device. -/
theorem perform_exit (isReady : host.Ready ready) (context : ExecutionContext)
    (network : Network) :
    (Channel.perform .exit).run ((ofHost { host with context } : Kind), network) =
      (.ok (), ofHost { host with context := { context with armed := false } }, network) := by
  rw [perform_eq, HostChannel.call, isReady.exit]
  rfl

/-- The closing hook of a ready host channel succeeds and shuts it. -/
theorem perform_close (isReady : host.Ready ready) (context : ExecutionContext)
    (network : Network) :
    (Channel.perform .close).run ((ofHost { host with context } : Kind), network) =
      (.ok (), ofHost host.shut, network) := by
  rw [perform_eq, HostChannel.call, isReady.close]
  rfl

/-- A channel that was closed refuses every operation and is left as it is. -/
theorem perform_shut (hook : Hook) (host : HostChannel) (network : Network) :
    (Channel.perform hook).run ((ofHost host.shut : Kind), network) =
      (.error (.channel .hostClosed), ofHost host.shut, network) := by
  rw [perform_eq]
  cases hook <;> rfl

end HostBacked

/-- An opener makes no other channels to the host than those that were checked. -/
def Opener.ChecksHost {Kind : Type} [HostBacked Kind] (opener : Opener Kind) : Prop :=
  ∀ params files network host later,
    (opener params files).run network = (.ok (HostBacked.ofHost host), later) →
      HostChannel.openWith params files = .ok host

/-- The opener of host channels makes those that were checked. -/
theorem checksHost_openHost : Opener.ChecksHost openHost := by
  intro params files network host later opened
  exact (Prod.mk.inj opened).1

/-- The opener of devices makes no host channels but those that were checked. -/
theorem checksHost_openDevice : Opener.ChecksHost openDevice := by
  intro params files network host later opened
  unfold openDevice at opened
  split at opened
  · obtain ⟨channel, _, opens, made⟩ := Action.run_bind_ok opened
    cases made
    exact checksHost_openHost _ _ _ _ _ opens
  · obtain ⟨channel, _, -, made⟩ := Action.run_bind_ok opened
    cases made

end MicroDevice
