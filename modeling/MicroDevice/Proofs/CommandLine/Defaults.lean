import MicroDevice.Proofs.CommandLine.Consoles
import MicroDevice.Proofs.Config.Defaults

/-! # Printing and validating default configurations

The program prints the default configuration of a device so that the text is read as that
configuration, and what it says of the text when it validates it is what is missing of the endpoint
of the debug server.
-/

namespace MicroDevice.CommandLine

/-! ## Runs of commands -/

/-- Showing the default configuration of a known backend prints its text. -/
theorem run_showConfig {deviceId : String} {endpoint : ServerEndpoint} {format : ConfigFormat}
    {backend : DeviceBackend} {config : DeviceConfig} {text : String}
    (known : (Registry.builtins .current).get deviceId = .ok backend)
    (made : backend.defaultConfig endpoint = .ok config) (written : format.write config = .ok text)
    (console : Console) :
    (showConfig deviceId endpoint format).run console =
      (.ok (), { console with
        output := console.output ++ text
        registered := ToolchainFamily.builtins.map (·.deviceId) }) := by
  simp only [showConfig, Action.run_bind, Console.run_registry, run_attempting, Action.run_widen,
    Action.run_ofResult, known, made, Except.mapError]
  cases format with
  | toml =>
      have written : config.toToml = .ok text := written
      simp only [Action.run_bind, Action.run_widen, Action.run_ofResult, written, Except.mapError,
        Console.run_print]
  | json =>
      have written : config.toJson ++ "\n" = text := Except.ok.inj written
      rw [Console.run_printLine, written]

/-- What validation prints. -/
def validationText (file : Path) (asJson : Bool) (issues : List Issue) : String :=
  let errors := issues.countP fun issue => issue.severity = .error
  if asJson then (issuesReport file (errors == 0) issues).render ++ "\n"
  else String.join (((issues.map fun issue => issue.severity.name ++ ": " ++ issue.message) ++
    if errors = 0 then [file.text ++ ": ok"] else []).map (· ++ "\n"))

/-- Validating a named configuration prints its issues and fails exactly when one of them is an
error. -/
theorem run_validate {file : Path} {config : DeviceConfig} {console : Console}
    (loads : DeviceConfig.load console.world.files file = .ok config)
    (named : config.deviceId ≠ "") (asJson : Bool) :
    let issues := (Registry.builtins .current).issues config
    let errors := issues.countP fun issue => issue.severity = .error
    (validate file asJson).run console =
      (if errors = 0 then .ok () else .error (.causes [file.text ++ s!": {errors} error(s)"]),
        { console with
          output := console.output ++ validationText file asJson issues
          registered := ToolchainFamily.builtins.map (·.deviceId) }) := by
  intro issues errors
  have issued : ((fun registry : Registry => registry.issues config) <$> Console.registry).run
      console = (.ok issues, { console with
        registered := ToolchainFamily.builtins.map (·.deviceId) }) := rfl
  have judged (console : Console) :
      (if errors = 0 then return () else
        Action.fail (.causes [file.text ++ s!": {errors} error(s)"]) : Action Console Failure Unit).run
          console =
        (if errors = 0 then .ok () else .error (.causes [file.text ++ s!": {errors} error(s)"]),
          console) := by
    split <;> rfl
  simp only [validate, Action.run_bind, run_loadConfig, loads, Except.mapError, if_neg named,
    issued]
  cases asJson with
  | true =>
      rw [if_pos rfl, Action.run_bind, Console.run_printLine]
      exact judged _
  | false =>
      rw [if_neg Bool.false_ne_true, Action.run_bind, Console.run_printLines]
      exact judged _

/-! ## The program -/

/-- The program that shows a default configuration prints its text and ends with status zero. -/
theorem perform_showConfig {deviceId : String} {endpoint : ServerEndpoint} {format : ConfigFormat}
    {backend : DeviceBackend} {config : DeviceConfig} {text : String}
    (known : (Registry.builtins .current).get deviceId = .ok backend)
    (made : backend.defaultConfig endpoint = .ok config) (written : format.write config = .ok text)
    (verbosity : Nat) (sessionName : String) (world : World) :
    ∃ ended,
      Invocation.perform ⟨.showConfig deviceId endpoint format, verbosity⟩ sessionName world =
        (ended, world) ∧ ended.status = 0 ∧ ended.output = text := by
  have ran := run_showConfig known made written ⟨world, "", []⟩
  unfold Invocation.perform Request.perform
  dsimp only
  rw [ran]
  exact ⟨_, rfl, rfl, String.empty_append⟩

/-- The program that validates a configuration prints its issues and ends with status zero exactly
when none of them is an error. -/
theorem perform_validate {file : Path} {config : DeviceConfig} {world : World}
    (loads : DeviceConfig.load world.files file = .ok config) (named : config.deviceId ≠ "")
    (asJson : Bool) (verbosity : Nat) (sessionName : String) :
    let issues := (Registry.builtins .current).issues config
    ∃ ended, Invocation.perform ⟨.validate file asJson, verbosity⟩ sessionName world =
      (ended, world) ∧ ended.output = validationText file asJson issues ∧
        (ended.status = 0 ↔ ∀ issue ∈ issues, issue.severity ≠ .error) := by
  intro issues
  have ran := @run_validate file config ⟨world, "", []⟩ loads named asJson
  unfold Invocation.perform Request.perform
  dsimp only at ran ⊢
  rw [ran]
  by_cases clean : issues.countP (fun issue => issue.severity = .error) = 0
  · rw [if_pos clean]
    refine ⟨_, rfl, String.empty_append, iff_of_true rfl fun issue member => ?_⟩
    simpa using List.countP_eq_zero.mp clean issue member
  · rw [if_neg clean]
    refine ⟨_, rfl, String.empty_append, iff_of_false Nat.one_ne_zero fun harmless => clean ?_⟩
    apply List.countP_eq_zero.mpr
    intro issue member
    simpa using harmless issue member

/-- The program prints the default configuration of a built-in device as a text that is read as this
configuration. Validating the text finds nothing if the device is the host itself or the endpoint
of the debug server was given; otherwise it finds one error, which names what is missing, the
address before the port. -/
theorem printed_default_validates {deviceId : String}
    (known : deviceId ∈ (Registry.builtins .current).ids) (endpoint : ServerEndpoint)
    (format : ConfigFormat) :
    ∃ backend config text, (Registry.builtins .current).get deviceId = .ok backend ∧
      backend.defaultConfig endpoint = .ok config ∧
      (∀ verbosity sessionName world, ∃ ended,
        Invocation.perform ⟨.showConfig deviceId endpoint format, verbosity⟩ sessionName world =
          (ended, world) ∧ ended.status = 0 ∧ ended.output = text) ∧
      format.read text = .ok config ∧
      let issues := (Registry.builtins .current).issues config
      (issues = [] ↔ config.commsMethod = "host" ∨
        endpoint.address ≠ none ∧ endpoint.port ≠ none) ∧
      (config.commsMethod ≠ "host" → endpoint.address = none → issues =
        [⟨.error, "comms method 'openocd' requires 'server_addr' to be set"⟩]) ∧
      (config.commsMethod ≠ "host" → endpoint.address ≠ none → endpoint.port = none → issues =
        [⟨.error, "comms method 'openocd' requires 'server_port' to be set"⟩]) ∧
      ∀ verbosity sessionName world file asJson, world.files.readText file = .ok text →
        (file.extension? = some "json" ↔ format = .json) → ∃ ended,
          Invocation.perform ⟨.validate file asJson, verbosity⟩ sessionName world =
            (ended, world) ∧ ended.output = validationText file asJson issues ∧
            (ended.status = 0 ↔ issues = []) := by
  obtain ⟨family, isBuiltin, rfl⟩ : ∃ family ∈ ToolchainFamily.builtins,
      family.deviceId = deviceId := by
    have listed := (Registry.Holds.builtins .current).perm_ids.mem_iff.mp known
    rw [List.map_map] at listed
    exact List.mem_map.mp listed
  obtain ⟨config, made, isDefault⟩ := ToolchainFamily.defaultConfig_ok isBuiltin endpoint
  obtain ⟨text, written, reads⟩ := isDefault.exists_text format
  have got : (Registry.builtins .current).get family.deviceId = .ok (family.backend .current) := by
    rw [Registry.get, Registry.find_builtins isBuiltin]
  refine ⟨family.backend .current, config, text, got, made, perform_showConfig got made written,
    reads, ?_⟩
  intro issues
  have issued : issues = _ := (isDefault.issues_eq isBuiltin).trans isDefault.transport_issues
  have harmful : (∀ issue ∈ issues, issue.severity ≠ .error) ↔ issues = [] := by
    rw [issued]
    split
    · simp
    · split <;> simp
  have validates : ∀ verbosity sessionName world file asJson,
      world.files.readText file = .ok text → (file.extension? = some "json" ↔ format = .json) →
        ∃ ended, Invocation.perform ⟨.validate file asJson, verbosity⟩ sessionName world =
          (ended, world) ∧ ended.output = validationText file asJson issues ∧
          (ended.status = 0 ↔ issues = []) := by
    intro verbosity sessionName world file asJson stored matching
    have named : config.deviceId ≠ "" := by
      rw [isDefault.deviceId]
      intro empty
      have named := Registry.trim_of_builtins (Registry.find_builtins isBuiltin .current)
      rw [empty] at named
      exact named (by decide)
    have loads : DeviceConfig.load world.files file = .ok config := by
      rw [DeviceConfig.load_of_readText stored, DeviceConfig.ofText]
      cases format with
      | toml => exact (if_neg fun json => by cases matching.mp json).trans reads
      | json => exact (if_pos (matching.mpr rfl)).trans reads
    rw [← harmful]
    exact perform_validate loads named asJson verbosity sessionName
  rcases method : family.method
  · have isHost : config.commsMethod = "host" := by
      rw [isDefault.method, method]
      rfl
    rw [method, if_pos rfl] at issued
    exact ⟨iff_of_true issued (Or.inl isHost), fun other => absurd isHost other,
      fun other => absurd isHost other, validates⟩
  · have notHost : config.commsMethod ≠ "host" := by
      rw [isDefault.method, method]
      decide
    rw [method, if_neg (by decide)] at issued
    refine ⟨?_, fun _ absent => ?_, fun _ present absent => ?_, validates⟩
    · rw [← ServerEndpoint.missing_eq_none_iff, issued]
      rcases endpoint.missing? with _ | field <;> simp [notHost]
    · rw [issued, ServerEndpoint.missing_of_address absent]
      rfl
    · rw [issued, ServerEndpoint.missing_of_port present absent]
      rfl

/-- Without an address, the text printed for a board is that of a configuration that lacks it. -/
theorem board_printed_without_address :
    let endpoint : ServerEndpoint := ⟨none, some 6666⟩
    "arm.stm32f746xx" ∈ (Registry.builtins .current).ids ∧
      ∃ config text, ToolchainFamily.stm32f746xx.defaultConfig .current endpoint = .ok config ∧
        ConfigFormat.json.read text = .ok config ∧
        (Registry.builtins .current).issues config =
          [⟨.error, "comms method 'openocd' requires 'server_addr' to be set"⟩] := by
  intro endpoint
  have known : "arm.stm32f746xx" ∈ (Registry.builtins .current).ids := by decide
  have isBuiltin : ToolchainFamily.stm32f746xx ∈ ToolchainFamily.builtins :=
    List.mem_cons_of_mem _ List.mem_cons_self
  refine ⟨known, ?_⟩
  obtain ⟨backend, config, text, got, made, -, reads, -, unaddressed, -⟩ :=
    printed_default_validates known endpoint .json
  cases (Registry.find_of_get got).symm.trans (Registry.find_builtins isBuiltin .current)
  obtain ⟨other, madeSo, isDefault⟩ := ToolchainFamily.defaultConfig_ok isBuiltin endpoint
  cases made.symm.trans madeSo
  have method : config.commsMethod ≠ "host" := by
    rw [isDefault.method]
    decide
  exact ⟨config, text, made, reads, unaddressed method rfl⟩

end MicroDevice.CommandLine
