import MicroDevice.CommandLine.Program
import MicroDevice.Proofs.Action.Moves

/-! # What commands print

The runs of the parts that commands are made of.
-/

namespace MicroDevice.CommandLine

variable {Answer : Type}

/-- An attempt only adds its description to the failure. -/
@[simp] theorem run_attempting (attempt : String) (action : Action Console Failure Answer)
    (console : Console) :
    (attempting attempt action).run console =
      ((action.run console).1.mapError (Failure.during attempt), (action.run console).2) := rfl

/-- What came to nothing is told by a status that is not zero. -/
theorem Failure.status_ne_zero (failure : Failure) : failure.status ≠ 0 := by
  cases failure <;> simp [status]

namespace Console

@[simp] theorem run_print (text : String) (console : Console) :
    (print text).run console = (.ok (), { console with output := console.output ++ text }) := rfl

@[simp] theorem run_printLine (line : String) (console : Console) :
    (printLine line).run console =
      (.ok (), { console with output := console.output ++ (line ++ "\n") }) := rfl

@[simp] theorem run_printLines (lines : List String) (console : Console) :
    (printLines lines).run console =
      (.ok (), { console with output := console.output ++ String.join (lines.map (· ++ "\n")) }) :=
  rfl

/-- Asking for the registry registers the built-in backends. -/
@[simp] theorem run_registry (console : Console) :
    registry.run console = (.ok (Registry.builtins .current),
      { console with registered := ToolchainFamily.builtins.map (·.deviceId) }) := rfl

/-- An action of the world run from the console leaves output and registrations alone. -/
@[simp] theorem run_inWorld {Error : Type} (failure : Error → Failure)
    (action : Action World Error Answer) (console : Console) :
    (inWorld failure action).run console =
      ((action.run console.world).1.mapError failure,
        { console with world := (action.run console.world).2 }) := rfl

end Console

/-- Loading a configuration changes nothing. -/
theorem run_loadConfig (file : Path) (console : Console) :
    (loadConfig file).run console =
      (((DeviceConfig.load console.world.files file).mapError configFailure).mapError
        (Failure.during ("loading " ++ file.text)), console) := rfl

end MicroDevice.CommandLine
