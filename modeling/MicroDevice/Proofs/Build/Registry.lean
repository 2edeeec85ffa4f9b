import Mathlib.Data.List.Nodup
import Mathlib.Data.String.Basic
import MicroDevice.Build.Registry
import MicroDevice.Text.Characters

/-! # What a registry holds

A registry has the backends that were registered in it, each of them once and in the order of
their ids (`Registry.Holds`). It is looked up, refused and listed from these backends alone.
-/

namespace MicroDevice.Registry

variable {registry : Registry} {held backends : List DeviceBackend} {backend : DeviceBackend}

/-! ## Places -/

/-- Placing a backend adds it somewhere in the list. -/
theorem perm_place (backend : DeviceBackend) (backends : List DeviceBackend) :
    (place backend backends).Perm (backend :: backends) := by
  induction backends with
  | nil => exact .refl _
  | cons first later ih =>
      rw [place]
      split
      · exact .refl _
      · exact (ih.cons first).trans (.swap backend first later)

theorem mem_place {other : DeviceBackend} :
    other ∈ place backend backends ↔ other = backend ∨ other ∈ backends := by
  rw [(perm_place backend backends).mem_iff, List.mem_cons]

/-- A backend of a new id is put between those of lesser and of greater ids. -/
theorem sorted_place (sorted : (backends.map (·.deviceId)).Pairwise (· < ·))
    (isNew : ∀ other ∈ backends, other.deviceId ≠ backend.deviceId) :
    ((place backend backends).map (·.deviceId)).Pairwise (· < ·) := by
  induction backends with
  | nil => exact List.pairwise_singleton _ _
  | cons first later ih =>
      obtain ⟨least, sortedLater⟩ := List.pairwise_cons.mp sorted
      rw [place]
      split
      · rename_i before
        refine List.pairwise_cons.mpr ⟨fun id member => ?_, sorted⟩
        rcases List.mem_cons.mp member with rfl | isLater
        · exact before
        · exact before.trans (least id isLater)
      · rename_i notBefore
        have after : first.deviceId < backend.deviceId :=
          lt_of_le_of_ne (not_lt.mp notBefore) (isNew first List.mem_cons_self)
        refine List.pairwise_cons.mpr
          ⟨fun id member => ?_, ih sortedLater fun other isLater =>
            isNew other (List.mem_cons_of_mem first isLater)⟩
        obtain ⟨other, placed, rfl⟩ := List.mem_map.mp member
        rcases mem_place.mp placed with rfl | isLater
        · exact after
        · exact least _ (List.mem_map_of_mem isLater)

/-! ## Looking up -/

/-- A backend that is got was found. -/
theorem find_of_get {deviceId : String} (got : registry.get deviceId = .ok backend) :
    registry.find? deviceId = some backend := by
  unfold get at got
  split at got
  · rename_i found
    cases got
    exact found
  · cases got

theorem deviceId_of_find {deviceId : String} (found : registry.find? deviceId = some backend) :
    backend.deviceId = deviceId := by
  simpa using List.find?_some found

theorem deviceId_of_get {deviceId : String} (got : registry.get deviceId = .ok backend) :
    backend.deviceId = deviceId :=
  deviceId_of_find (find_of_get got)

/-- Among backends with ids of their own, looking up an id finds the backend that has it. -/
theorem find_eq_some_iff (distinct : (backends.map (·.deviceId)).Nodup) {deviceId : String} :
    backends.find? (fun other => other.deviceId == deviceId) = some backend ↔
      backend ∈ backends ∧ backend.deviceId = deviceId := by
  constructor
  · intro found
    exact ⟨List.mem_of_find?_eq_some found, by simpa using List.find?_some found⟩
  · rintro ⟨member, rfl⟩
    rcases found : backends.find? (fun other => other.deviceId == backend.deviceId) with _ | other
    · have unequal := List.find?_eq_none.mp found backend member
      simp at unequal
    · have same : other.deviceId = backend.deviceId := by simpa using List.find?_some found
      rw [found, List.inj_on_of_nodup_map distinct (List.mem_of_find?_eq_some found) member same]

/-! ## What is held -/

/-- A registry has just these backends, in the order of their ids. -/
structure Holds (registry : Registry) (held : List DeviceBackend) : Prop where
  sorted : registry.ids.Pairwise (· < ·)
  perm : registry.backends.Perm held

namespace Holds

theorem empty : Registry.empty.Holds [] := ⟨List.Pairwise.nil, .nil⟩

theorem perm_ids (holds : registry.Holds held) : registry.ids.Perm (held.map (·.deviceId)) :=
  holds.perm.map _

theorem nodup_ids (holds : registry.Holds held) : registry.ids.Nodup :=
  holds.sorted.imp fun less => ne_of_lt less

theorem nodup_held (holds : registry.Holds held) : (held.map (·.deviceId)).Nodup :=
  holds.perm_ids.nodup_iff.mp holds.nodup_ids

/-- A backend is found by its id among those held. -/
theorem find_eq (holds : registry.Holds held) (deviceId : String) :
    registry.find? deviceId = held.find? fun backend => backend.deviceId == deviceId := by
  apply Option.ext
  intro backend
  rw [find?, find_eq_some_iff holds.nodup_ids, find_eq_some_iff holds.nodup_held,
    holds.perm.mem_iff]

/-- Getting a backend finds it by its id among those held, or fails because the device is
unknown. -/
theorem get_eq (holds : registry.Holds held) (deviceId : String) :
    registry.get deviceId =
      match held.find? fun backend => backend.deviceId == deviceId with
      | some backend => .ok backend
      | none => .error (.unknownDevice deviceId) := by
  rcases found : held.find? fun backend => backend.deviceId == deviceId with _ | backend <;>
    simp only [get, holds.find_eq, found]

theorem size_eq (holds : registry.Holds held) : registry.size = held.length :=
  holds.perm.length_eq

/-- A backend whose id is held is refused. -/
theorem register_known (holds : registry.Holds held)
    (known : backend.deviceId ∈ held.map (·.deviceId)) :
    registry.register backend = .error (.duplicateDevice backend.deviceId) := by
  rw [register, holds.find_eq]
  split
  · rfl
  · rename_i unknown
    obtain ⟨other, member, same⟩ := List.mem_map.mp known
    have unequal := List.find?_eq_none.mp unknown other member
    simp [same] at unequal

/-- A backend of a new id is held from then on. -/
theorem register_new (holds : registry.Holds held)
    (isNew : backend.deviceId ∉ held.map (·.deviceId)) :
    ∃ grown, registry.register backend = .ok grown ∧ grown.Holds (held ++ [backend]) := by
  have others : ∀ other ∈ registry.backends, other.deviceId ≠ backend.deviceId := by
    intro other member same
    exact isNew (List.mem_map.mpr ⟨other, holds.perm.mem_iff.mp member, same⟩)
  have unknown : registry.find? backend.deviceId = none := by
    apply List.find?_eq_none.mpr
    intro other member
    simpa using others other member
  refine ⟨⟨place backend registry.backends⟩, by rw [register, unknown], ?_, ?_⟩
  · exact sorted_place holds.sorted others
  · have more : (place backend registry.backends).Perm (backend :: held) :=
      (perm_place backend registry.backends).trans (holds.perm.cons backend)
    exact more.trans (List.perm_append_singleton backend held).symm

/-- Backends with new ids of their own are all held in the end. -/
theorem registerAll (holds : registry.Holds held)
    (distinct : ((held ++ backends).map (·.deviceId)).Nodup) :
    (registry.registerAll backends).Holds (held ++ backends) := by
  induction backends generalizing registry held with
  | nil => rwa [List.append_nil]
  | cons first later ih =>
      have isNew : first.deviceId ∉ held.map (·.deviceId) := by
        intro known
        rw [List.map_append] at distinct
        exact List.disjoint_of_nodup_append distinct known List.mem_cons_self
      obtain ⟨grown, registers, holdsFirst⟩ := holds.register_new isNew
      rw [List.append_cons] at distinct ⊢
      have all := ih holdsFirst distinct
      rw [Registry.registerAll, List.foldl_cons, registers]
      exact all

/-- The registry of the process begins with the families that are known from the start. -/
theorem builtins (host : Host) :
    (Registry.builtins host).Holds (ToolchainFamily.builtins.map fun family =>
      family.backend host) :=
  empty.registerAll (by
    show (ToolchainFamily.builtins.map (·.deviceId)).Nodup
    decide)

end Holds

/-! ## Built-in devices -/

/-- A built-in device is that of a family. -/
theorem family_of_builtins {host : Host} {deviceId : String}
    (found : (builtins host).find? deviceId = some backend) :
    ∃ family ∈ ToolchainFamily.builtins, family.deviceId = deviceId ∧
      family.backend host = backend := by
  have member := (Holds.builtins host).perm.mem_iff.mp (List.mem_of_find?_eq_some found)
  obtain ⟨family, isBuiltin, rfl⟩ := List.mem_map.mp member
  exact ⟨family, isBuiltin, deviceId_of_find found, rfl⟩

/-- The device of a family is built in. -/
theorem find_builtins {family : ToolchainFamily} (isBuiltin : family ∈ ToolchainFamily.builtins)
    (host : Host) : (builtins host).find? family.deviceId = some (family.backend host) := by
  have holds := Holds.builtins host
  have member : family.backend host ∈ (builtins host).backends :=
    holds.perm.mem_iff.mpr (List.mem_map_of_mem isBuiltin)
  exact (find_eq_some_iff holds.nodup_ids).mpr ⟨member, rfl⟩

/-- The ids of built-in devices are not blank. -/
theorem trim_of_builtins {host : Host} {deviceId : String}
    (found : (builtins host).find? deviceId = some backend) : Text.trim deviceId ≠ "" := by
  have named : ∀ family ∈ ToolchainFamily.builtins, Text.trim family.deviceId ≠ "" := by
    decide
  obtain ⟨family, isBuiltin, rfl, -⟩ := family_of_builtins found
  exact named family isBuiltin

end MicroDevice.Registry
