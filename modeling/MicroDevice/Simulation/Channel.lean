import MicroDevice.Channel.Basic

/-! # Scripted channels

A channel that runs nothing: its operations succeed, save those whose numbers are listed.
-/

namespace MicroDevice.Simulation

/-- A scripted channel: how often each operation was called, and the calls that fail. -/
structure ScriptedChannel where
  calls : Hook → Nat
  failing : Hook → List Nat

namespace ScriptedChannel

/-- The channel after one more call of an operation. -/
def count (channel : ScriptedChannel) (hook : Hook) : ScriptedChannel :=
  { channel with calls := fun other => channel.calls other + if other = hook then 1 else 0 }

instance : Channel ScriptedChannel where
  perform hook := fun (channel, network) =>
    let later := channel.count hook
    (if (channel.failing hook).contains (later.calls hook) then
      .error (.channel (.other (hook.name ++ " failed")))
    else .ok (), later, network)

end ScriptedChannel

/-- Open a scripted channel, or fail with a text. -/
def openScripted (failure : Option String) (failing : Hook → List Nat) : Opener ScriptedChannel :=
  fun _ _ =>
    match failure with
    | some text => Action.fail (.opening ⟨"mock", .other text⟩)
    | none => return ⟨fun _ => 0, failing⟩

end MicroDevice.Simulation
