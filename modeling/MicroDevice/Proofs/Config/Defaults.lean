import MicroDevice.CommandLine.Commands
import MicroDevice.Proofs.Build.Registry
import MicroDevice.Proofs.Config.JsonText
import MicroDevice.Proofs.Config.TomlText

/-! # Default configurations

The default configuration of a built-in device has a text in each format
(`DeviceConfig.IsDefault.exists_text`), and it lacks nothing but what was not given of the endpoint
of its debug server (`DeviceConfig.IsDefault.issues_eq`).
-/

namespace MicroDevice

open CommandLine (ConfigFormat)

/-- The text of a configuration in a format. A JSON text is ended like a line. -/
def CommandLine.ConfigFormat.write (format : ConfigFormat) (config : DeviceConfig) :
    Except ConfigError String :=
  match format with
  | .toml => config.toToml
  | .json => .ok (config.toJson ++ "\n")

/-- The configuration of a text in a format. -/
def CommandLine.ConfigFormat.read (format : ConfigFormat) (text : String) :
    Except ConfigError DeviceConfig :=
  match format with
  | .toml => DeviceConfig.ofToml text
  | .json => DeviceConfig.ofJson text

/-! ## Layouts -/

/-- Whether a layout can be written, has all regions, and none that overlap. -/
def MemoryLayout.isSound (layout : MemoryLayout) : Bool :=
  layout.regions.all MemoryRegion.fitsToml &&
    RegionKind.all.all (fun kind => (layout.require kind).isOk) &&
    layout.overlappingPairs.isEmpty

/-- The sizes and addresses of each family, the weighted ones included, make a sound layout. -/
theorem ToolchainFamily.defaultLayout_sound {family : ToolchainFamily}
    (isBuiltin : family ∈ builtins) :
    ∃ layout, family.defaultLayout (family.wordSize.getD Host.current.wordSize) = .ok layout ∧
      layout.isSound = true := by
  have sound : ∀ family ∈ builtins, (family.defaultLayout
      (family.wordSize.getD Host.current.wordSize)).toOption.any MemoryLayout.isSound = true := by
    decide +kernel
  rcases planned : family.defaultLayout (family.wordSize.getD Host.current.wordSize) with
    error | layout
  · have impossible := sound family isBuiltin
    rw [planned] at impossible
    cases impossible
  · have isSound := sound family isBuiltin
    rw [planned] at isSound
    exact ⟨layout, rfl, isSound⟩

/-! ## Configurations -/

/-- A check that succeeds raises no issue. -/
theorem Issue.ofResult_of_isOk {Answer : Type} {result : Except ConfigError Answer}
    (succeeds : result.isOk = true) : ofResult result = [] := by
  cases result with
  | error error => cases succeeds
  | ok answer => rfl

/-- What is missing of an endpoint, the address before the port. -/
def ServerEndpoint.missing? (endpoint : ServerEndpoint) : Option EndpointField :=
  match endpoint.address, endpoint.port with
  | none, _ => some .serverAddr
  | some _, none => some .serverPort
  | some _, some _ => none

namespace ServerEndpoint

variable {endpoint : ServerEndpoint}

/-- An endpoint lacks nothing when it has an address and a port. -/
theorem missing_eq_none_iff :
    endpoint.missing? = none ↔ endpoint.address ≠ none ∧ endpoint.port ≠ none := by
  obtain ⟨address, port⟩ := endpoint
  cases address <;> cases port <;> simp [missing?]

theorem missing_of_address (absent : endpoint.address = none) :
    endpoint.missing? = some .serverAddr := by
  rw [missing?, absent]

theorem missing_of_port (present : endpoint.address ≠ none) (absent : endpoint.port = none) :
    endpoint.missing? = some .serverPort := by
  obtain ⟨address, given⟩ := Option.ne_none_iff_exists'.mp present
  rw [missing?, given, absent]

end ServerEndpoint

/-- A configuration is the default one of a family for an endpoint. -/
structure DeviceConfig.IsDefault (family : ToolchainFamily) (endpoint : ServerEndpoint)
    (config : DeviceConfig) : Prop where
  deviceId : config.deviceId = family.deviceId
  layout : config.memLayout.isSound = true
  wordSize : config.wordSizeBytes.isOk = true
  method : config.commsMethod = family.method.name
  endpoint : family.method = .openocd →
    config.serverAddr = endpoint.address ∧ config.serverPort = endpoint.port

namespace ToolchainFamily

variable {family : ToolchainFamily}

/-- Every built-in family makes its default configuration, whatever the endpoint. -/
theorem defaultConfig_ok (isBuiltin : family ∈ builtins) (endpoint : ServerEndpoint) :
    ∃ config, family.defaultConfig .current endpoint = .ok config ∧
      config.IsDefault family endpoint := by
  obtain ⟨layout, planned, sound⟩ := defaultLayout_sound isBuiltin
  have sized : ∀ family ∈ builtins, family.wordSize.getD Host.current.wordSize = 32 ∨
      family.wordSize.getD Host.current.wordSize = 64 := by
    decide
  have size := sized family isBuiltin
  unfold defaultConfig
  dsimp only
  rw [planned]
  refine ⟨_, rfl, rfl, sound, ?_, rfl, fun reached => ?_⟩
  · rw [DeviceConfig.wordSizeBytes, if_pos size]
    rfl
  · exact ⟨if_pos reached, if_pos reached⟩

end ToolchainFamily

namespace DeviceConfig.IsDefault

variable {family : ToolchainFamily} {endpoint : ServerEndpoint} {config : DeviceConfig}

/-- A device behind a debug server lacks what was not given of the endpoint. -/
theorem transport_issues (isDefault : config.IsDefault family endpoint) :
    Issue.ofResult config.transport =
      if family.method = .host then []
      else match endpoint.missing? with
        | some field => [⟨.error, (ConfigError.missingEndpoint "openocd" field).message⟩]
        | none => [] := by
  rcases method : family.method
  · have comms : config.comms = .ok .host := by
      rw [comms, isDefault.method, method]
      rfl
    rw [transport, comms]
    rfl
  · have comms : config.comms = .ok .openocd := by
      rw [comms, isDefault.method, method]
      rfl
    have named : config.commsMethod = "openocd" := by
      rw [isDefault.method, method]
      rfl
    obtain ⟨address, port⟩ := isDefault.endpoint method
    rw [transport, comms, address, port, named, if_neg (by decide), ServerEndpoint.missing?]
    rcases endpoint.address with _ | address
    · rfl
    · rcases endpoint.port with _ | port <;> rfl

/-- Nothing but the transport of a default configuration may have issues. -/
theorem issues_eq (isDefault : config.IsDefault family endpoint)
    (isBuiltin : family ∈ ToolchainFamily.builtins) :
    (Registry.builtins .current).issues config = Issue.ofResult config.transport := by
  have layout := isDefault.layout
  rw [MemoryLayout.isSound, Bool.and_eq_true, Bool.and_eq_true] at layout
  obtain ⟨⟨-, complete⟩, apart⟩ := layout
  have found : (Registry.builtins .current).find? config.deviceId =
      some (family.backend .current) := by
    rw [isDefault.deviceId]
    exact Registry.find_builtins isBuiltin .current
  have named : Text.trim config.deviceId ≠ "" := Registry.trim_of_builtins found
  have required : (RegionKind.all.flatMap fun kind =>
      Issue.ofResult (config.memLayout.require kind)) = [] := by
    apply List.flatMap_eq_nil_iff.mpr
    intro kind member
    exact Issue.ofResult_of_isOk (List.all_eq_true.mp complete kind member)
  rw [Registry.issues, DeviceConfig.issues, if_neg named, required, found,
    Issue.ofResult_of_isOk isDefault.wordSize, List.isEmpty_iff.mp apart]
  simp

/-- A default configuration has a text in each format, which is read as the configuration. -/
theorem exists_text (isDefault : config.IsDefault family endpoint) (format : ConfigFormat) :
    ∃ text, format.write config = .ok text ∧ format.read text = .ok config := by
  have layout := isDefault.layout
  rw [MemoryLayout.isSound, Bool.and_eq_true, Bool.and_eq_true] at layout
  obtain ⟨⟨fit, -⟩, -⟩ := layout
  cases format with
  | toml =>
      obtain ⟨text, written⟩ : ∃ text, config.toToml = .ok text :=
        ⟨_, DeviceConfig.toToml_eq_ok_iff.mpr ⟨List.all_eq_true.mp fit, rfl⟩⟩
      exact ⟨text, written, DeviceConfig.ofToml_toToml written⟩
  | json => exact ⟨_, rfl, config.ofJson_toJson_line⟩

end DeviceConfig.IsDefault

end MicroDevice
