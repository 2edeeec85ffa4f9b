import MicroDevice.CommandLine.Commands
import MicroDevice.Proofs.Build.Registry
import MicroDevice.Proofs.Session.Stopping
import MicroDevice.Simulation.Bench

/-! # Validation and the builder

The issues of a configuration contain an error just if the builder of a session would refuse the
configuration at one of the stages that look at it (`Registry.clean_issues_iff`), and the error
that it stops with is among them (`Session.mem_issues_of_firstFault`).
-/

namespace MicroDevice

variable {Kind : Type}

/-! ## Issues -/

/-- A list of issues without an error. -/
def Clean (issues : List Issue) : Prop :=
  ∀ issue ∈ issues, issue.severity ≠ .error

theorem clean_append {first second : List Issue} :
    Clean (first ++ second) ↔ Clean first ∧ Clean second := by
  simp only [Clean, List.mem_append]
  constructor
  · intro clean
    exact ⟨fun issue member => clean issue (Or.inl member),
      fun issue member => clean issue (Or.inr member)⟩
  · rintro ⟨ofFirst, ofSecond⟩ issue (member | member)
    · exact ofFirst issue member
    · exact ofSecond issue member

theorem clean_nil : Clean [] := by
  intro issue member
  cases member

theorem not_clean_error (message : String) : ¬ Clean [⟨.error, message⟩] := by
  intro clean
  exact clean _ List.mem_cons_self rfl

/-- The issues of a check are clean exactly when it succeeds. -/
theorem clean_ofResult {Answer : Type} {result : Except ConfigError Answer} :
    Clean (Issue.ofResult result) ↔ result.isOk = true := by
  cases result with
  | error error => exact iff_of_false (not_clean_error _) (by simp [Except.isOk, Except.toBool])
  | ok answer => exact iff_of_true clean_nil rfl

/-- Overlaps are warnings, so that they are clean. -/
theorem clean_overlaps (pairs : List (MemoryRegion × MemoryRegion)) :
    Clean (pairs.map Issue.ofOverlap) := by
  intro issue member
  obtain ⟨pair, -, rfl⟩ := List.mem_map.mp member
  simp [Issue.ofOverlap]

/-- Kinds that are looked at one by one have no issue just if requiring them one after another
succeeds. -/
theorem clean_require (layout : MemoryLayout) (kinds : List RegionKind) :
    Clean (kinds.flatMap fun kind => Issue.ofResult (layout.require kind)) ↔
      (kinds.mapM layout.require).isOk = true := by
  induction kinds with
  | nil => exact iff_of_true clean_nil rfl
  | cons kind later ih =>
      rw [List.flatMap_cons, clean_append, clean_ofResult, ih, List.mapM_cons]
      rcases layout.require kind with error | region
      · exact iff_of_false (fun both => by cases both.1) (fun impossible => by cases impossible)
      · rcases later.mapM layout.require with error | regions
        · exact iff_of_false (fun both => by cases both.2) (fun impossible => by cases impossible)
        · exact iff_of_true ⟨rfl, rfl⟩ rfl

namespace Registry

/-- A device id that is neither blank nor unknown is that of a backend. -/
theorem clean_device {registry : Registry} {deviceId : String}
    (named : ∀ backend, registry.find? deviceId = some backend → Text.trim deviceId ≠ "") :
    (Clean (if Text.trim deviceId = "" then [⟨.error, "device_id is empty"⟩] else []) ∧
      Clean (if deviceId ≠ "" ∧ registry.find? deviceId = none then
        [⟨.error, (BuildError.unknownDevice deviceId).message⟩] else [])) ↔
      (registry.get deviceId).isOk = true := by
  rcases found : registry.find? deviceId with _ | backend
  · have unknown : (registry.get deviceId).isOk ≠ true := by
      simp [get, found, Except.isOk, Except.toBool]
    refine iff_of_false ?_ unknown
    rintro ⟨notBlank, isKnown⟩
    by_cases unnamed : deviceId = ""
    · subst unnamed
      exact not_clean_error _ notBlank
    · rw [if_pos ⟨unnamed, rfl⟩] at isKnown
      exact not_clean_error _ isKnown
  · have known : (registry.get deviceId).isOk = true := by
      simp [get, found, Except.isOk, Except.toBool]
    refine iff_of_true ⟨?_, ?_⟩ known
    · rw [if_neg (named backend found)]
      exact clean_nil
    · rw [if_neg (by simp)]
      exact clean_nil

/-- The issues of a configuration are clean exactly when its device, regions, word size and
transport pass their checks. -/
theorem clean_issues_iff {registry : Registry} {config : DeviceConfig}
    (named : ∀ backend, registry.find? config.deviceId = some backend →
      Text.trim config.deviceId ≠ "") :
    Clean (registry.issues config) ↔
      (registry.get config.deviceId).isOk = true ∧ config.memLayout.requireAll.isOk = true ∧
        config.wordSizeBytes.isOk = true ∧ config.transport.isOk = true := by
  have overlaps := clean_overlaps config.memLayout.overlappingPairs
  have regions := clean_require config.memLayout RegionKind.all
  rw [← clean_device named, issues, DeviceConfig.issues]
  simp only [clean_append, clean_ofResult, regions, overlaps, and_true, MemoryLayout.requireAll]
  constructor
  · rintro ⟨⟨⟨⟨named, sized⟩, placed⟩, reached⟩, known⟩
    exact ⟨⟨named, known⟩, placed, sized, reached⟩
  · rintro ⟨⟨named, known⟩, placed, sized, reached⟩
    exact ⟨⟨⟨⟨named, sized⟩, placed⟩, reached⟩, known⟩

end Registry

/-! ## Stages -/

/-- The stages of a build that look at the configuration. -/
def BuildStage.ofConfig : List BuildStage :=
  [device, regions, wordSize, method, serverAddr, serverPort]

/-- The error of a failed query is an issue. -/
theorem Issue.mem_ofResult {Answer : Type} {result : Except ConfigError Answer}
    {error : SessionError} (fails : result.mapError .config = .error error) :
    ⟨.error, error.message⟩ ∈ ofResult result := by
  cases result with
  | error fault =>
      cases fails
      exact List.mem_cons_self
  | ok answer => cases fails

/-- The error of requiring all regions is among the issues of the single regions. -/
theorem mem_require {layout : MemoryLayout} {error : SessionError}
    (fails : layout.requireAll.mapError .config = .error error) :
    ⟨.error, error.message⟩ ∈
      RegionKind.all.flatMap fun kind => Issue.ofResult (layout.require kind) := by
  have required := layout.mapM_require RegionKind.all
  rw [MemoryLayout.requireAll] at fails
  rcases lacking : RegionKind.all.find? fun kind => !layout.provides kind with _ | kind
  · rw [required, lacking] at fails
    cases fails
  · have lacks : layout.provides kind = false := by simpa using List.find?_some lacking
    rw [required, lacking] at fails
    cases fails
    rw [List.mem_flatMap]
    refine ⟨kind, kind.mem_all, ?_⟩
    rw [MemoryLayout.require_of_lacks lacks]
    exact List.mem_cons_self

/-- The error of a check of the configuration alone is an issue. -/
theorem DeviceConfig.mem_issues_of_check {config : DeviceConfig} {error : SessionError}
    (fails : config.wordSizeBytes.mapError .config = .error error ∨
      config.memLayout.requireAll.mapError .config = .error error ∨
        config.transport.mapError .config = .error error) :
    ⟨.error, error.message⟩ ∈ config.issues := by
  rw [issues]
  simp only [List.mem_append]
  rcases fails with ofWordSize | ofRegions | ofTransport
  · exact .inl (.inl (.inl (.inr (Issue.mem_ofResult ofWordSize))))
  · exact .inl (.inl (.inr (mem_require ofRegions)))
  · exact .inl (.inr (Issue.mem_ofResult ofTransport))

/-- The error for an unknown device is an issue, if the device has a name. -/
theorem Registry.mem_issues_of_get {registry : Registry} {config : DeviceConfig}
    {error : SessionError} (named : config.deviceId ≠ "")
    (fails : (registry.get config.deviceId).mapError .build = .error error) :
    ⟨.error, error.message⟩ ∈ registry.issues config := by
  rw [issues]
  apply List.mem_append_right
  rcases found : registry.find? config.deviceId with _ | backend
  · rw [get, found] at fails
    rw [if_pos ⟨named, rfl⟩, ← Except.error.inj fails]
    exact List.mem_cons_self
  · rw [get, found] at fails
    cases fails

namespace Session

variable {setup : SessionSetup Kind} {config : DeviceConfig} {before : World}

/-- The error of a stage that looks at the configuration is an issue, unless the device has no
name. -/
theorem mem_issues_of_firstFault {stage : BuildStage} {refusal : Refusal}
    (first : firstFault? setup config before BuildStage.all = some (stage, refusal))
    (looks : stage ∈ BuildStage.ofConfig) (named : stage = .device → config.deviceId ≠ "") :
    ⟨.error, refusal.error.message⟩ ∈ setup.registry.issues config := by
  cases stage with
  | device =>
      have within := firstFault_within [.system, .pointerWidth] [.device] _ first (by decide)
        (by decide)
      exact Registry.mem_issues_of_get (named rfl) ((agrees_get setup config before).fails within)
  | regions =>
      have within := firstFault_within [.system, .pointerWidth, .device] [.regions] _ first
        (by decide) (by decide)
      have fails := (agrees_requireAll setup config before).fails within
      exact List.mem_append_left _ (DeviceConfig.mem_issues_of_check (.inr (.inl fails)))
  | wordSize =>
      have within := firstFault_within [.system, .pointerWidth, .device, .regions] [.wordSize] _
        first (by decide) (by decide)
      have fails := (agrees_wordSizeBytes setup config before).fails within
      exact List.mem_append_left _ (DeviceConfig.mem_issues_of_check (.inl fails))
  | method | serverAddr | serverPort =>
      -- one check resolves the transport, so these three stages are looked at together
      have within := firstFault_within [.system, .pointerWidth, .device, .regions, .wordSize,
        .directory, .source, .compilation, .artifact] [.method, .serverAddr, .serverPort] _ first
        (by decide) (by decide)
      have fails := (agrees_transport setup config before).fails within
      exact List.mem_append_left _ (DeviceConfig.mem_issues_of_check (.inr (.inr fails)))
  | system | pointerWidth | directory | source | compilation | artifact | opening =>
      exact absurd looks (by decide)

end Session

/-- A setup with the built-in devices of a host, on a 64-bit Linux machine. -/
def SessionSetup.onLinux (host : Host) (opener : Opener Kind) : SessionSetup Kind :=
  ⟨.builtins host, ⟨"linux", 64⟩, opener⟩

theorem SessionSetup.registry_onLinux (host : Host) (opener : Opener Kind) :
    (onLinux host opener).registry = .builtins host := rfl

/-- Validation finds no error in a configuration just if the built-in device of the session is
known and the layout, the word size and the transport are there. When a build on a 64-bit Linux
host stops at one of these, its error is among the issues, unless the device has no name. -/
theorem Registry.issues_agree_with_build (host : Host) (config : DeviceConfig) :
    ((∀ issue ∈ (builtins host).issues config, issue.severity ≠ .error) ↔
      ((builtins host).get config.deviceId).isOk = true ∧
        config.memLayout.requireAll.isOk = true ∧ config.wordSizeBytes.isOk = true ∧
          config.transport.isOk = true) ∧
    ∀ {Kind : Type} (opener : Opener Kind) (before : World) (stage : BuildStage)
      (refusal : Refusal),
      Session.firstFault? (.onLinux host opener) config before BuildStage.all =
          some (stage, refusal) →
        stage ∈ BuildStage.ofConfig → (stage = .device → config.deviceId ≠ "") →
          ((Session.build (.onLinux host opener) config).run before).1 = .error refusal.error ∧
            ⟨.error, refusal.error.message⟩ ∈ (builtins host).issues config := by
  refine ⟨clean_issues_iff fun backend found => trim_of_builtins found, ?_⟩
  intro Kind opener before stage refusal first looks named
  have member := Session.mem_issues_of_firstFault first looks named
  rw [SessionSetup.registry_onLinux] at member
  exact ⟨Session.build_fails first, member⟩

/-- A configuration for the host without regions is refused for the first region, and so it is
validated. -/
theorem Registry.issues_of_empty_layout :
    let config := { Simulation.benchConfig with deviceId := "host", memLayout := .empty }
    ((Session.build (.onLinux .current openDevice) config).run Simulation.benchWorld).1 =
        .error (.config (.missingRegion .text)) ∧
      ⟨.error, "memory layout is missing required region 'text'"⟩ ∈
        (builtins .current).issues config := by
  intro config
  have first : Session.firstFault? (.onLinux .current openDevice) config Simulation.benchWorld
      BuildStage.all = some (.regions, ⟨.config (.missingRegion .text),
        "memory layout is missing required region 'text'"⟩) := rfl
  exact (issues_agree_with_build .current config).2 openDevice Simulation.benchWorld .regions _
    first (by decide) (by decide)

end MicroDevice
