import Mathlib.Data.List.Forall2
import MicroDevice.Build.Registries
import MicroDevice.Proofs.Action.Moves
import MicroDevice.Proofs.Build.Registry
import MicroDevice.Proofs.Text.Encoding
import MicroDevice.Simulation.Backend

/-! # Registries over time

What was asked of the registries of a process, with the answers, tells which backends were
registered in each of them (`Ledger`). At any time a registry answers by what was registered in it
(`Registries.Answers`): nothing is ever replaced or lost, and what is done to one registry does
not show in another, be it a copy.
-/

namespace MicroDevice

/-! ## Ledgers -/

/-- The backends that were registered in each registry, in the order of registration. -/
abbrev Ledger := List (List DeviceBackend)

/-- What a registry begins with. -/
def Ledger.beginning (host : Host) (withBuiltins : Bool) : List DeviceBackend :=
  if withBuiltins then ToolchainFamily.builtins.map fun family => family.backend host else []

/-- The ledger after a request that was answered. A copy begins with all that was registered in
its original. -/
def Ledger.enter (host : Host) (ledger : Ledger) (request : RegistryRequest)
    (answer : Except BuildError RegistryAnswer) : Ledger :=
  match request, answer with
  | .make withBuiltins, .ok (.made _) => ledger ++ [beginning host withBuiltins]
  | .copy number, .ok (.made _) => ledger ++ ledger[number]?.toList
  | .register number backend, .ok .registered => ledger.modify number (· ++ [backend])
  | _, _ => ledger

/-- The ledger of a process at its start. -/
def Ledger.ofProcess (host : Host) : Ledger := [beginning host true]

/-- The ledger after requests that were answered. -/
def Ledger.enterAll (host : Host) (ledger : Ledger)
    (history : List (RegistryRequest × Except BuildError RegistryAnswer)) : Ledger :=
  history.foldl (fun ledger (request, answer) => ledger.enter host request answer) ledger

namespace Registries

/-- Each registry holds what the ledger says. -/
def Match (registries : Registries) (ledger : Ledger) : Prop :=
  List.Forall₂ Registry.Holds registries ledger

variable {host : Host} {registries : Registries} {ledger : Ledger} {number : Nat}
  {registry : Registry} {held : List DeviceBackend}

namespace Match

theorem length_eq (accurate : registries.Match ledger) : registries.length = ledger.length :=
  List.Forall₂.length_eq accurate

/-- Every entry of the ledger has its registry. -/
theorem exists_registry (accurate : registries.Match ledger) (entry : ledger[number]? = some held) :
    ∃ registry, registries[number]? = some registry ∧ registry.Holds held := by
  induction accurate generalizing number with
  | nil => cases entry
  | cons holds _ ih =>
      cases number with
      | zero =>
          cases entry
          exact ⟨_, rfl, holds⟩
      | succ number => exact ih entry

/-- Every registry has its entry in the ledger. -/
theorem exists_entry (accurate : registries.Match ledger)
    (present : registries[number]? = some registry) :
    ∃ held, ledger[number]? = some held ∧ registry.Holds held := by
  induction accurate generalizing number with
  | nil => cases present
  | cons holds _ ih =>
      cases number with
      | zero =>
          cases present
          exact ⟨_, rfl, holds⟩
      | succ number => exact ih present

theorem concat (accurate : registries.Match ledger) (holds : registry.Holds held) :
    Match (registries ++ [registry]) (ledger ++ [held]) :=
  List.rel_append accurate (.cons holds .nil)

/-- A registry that has grown by a backend goes with an entry that has. -/
theorem replace {grown : Registry} {backend : DeviceBackend} (accurate : registries.Match ledger)
    (entry : ledger[number]? = some held) (holds : grown.Holds (held ++ [backend])) :
    Match (registries.set number grown) (ledger.modify number (· ++ [backend])) := by
  induction accurate generalizing number with
  | nil => cases entry
  | cons first later ih =>
      cases number with
      | zero =>
          cases entry
          exact .cons holds later
      | succ number => exact .cons first (ih entry)

/-- At the start of a process there is the registry of the built-in backends, as the ledger says. -/
theorem ofProcess (host : Host) : (Registries.ofProcess host).Match (Ledger.ofProcess host) :=
  .cons (.builtins host) .nil

end Match

/-! ## One request -/

/-- What is done with a numbered registry is done if there is one, and otherwise its absence is the
answer. -/
theorem run_withNumber (number : Nat)
    (act : Registry → Action Registries BuildError RegistryAnswer) (registries : Registries) :
    (withNumber number act).run registries =
      match registries[number]? with
      | some registry => (act registry).run registries
      | none => (.ok .absent, registries) := rfl

/-- What becomes of the registries after a request: they stay, there is one more, or one has grown
by a backend. -/
inductive Outcome (host : Host) (registries : Registries) :
    RegistryRequest → Except BuildError RegistryAnswer × Registries → Prop
  | stay {request : RegistryRequest} {answer : Except BuildError RegistryAnswer}
      (unrecorded : ∀ ledger, Ledger.enter host ledger request answer = ledger) :
      Outcome host registries request (answer, registries)
  | made (withBuiltins : Bool) :
      Outcome host registries (.make withBuiltins) (.ok (.made registries.length),
        registries ++ [if withBuiltins then .builtins host else .empty])
  | copied {number : Nat} {registry : Registry} (present : registries[number]? = some registry) :
      Outcome host registries (.copy number)
        (.ok (.made registries.length), registries ++ [registry])
  | registered {number : Nat} {registry grown : Registry} {backend : DeviceBackend}
      (present : registries[number]? = some registry)
      (registers : registry.register backend = .ok grown) :
      Outcome host registries (.register number backend)
        (.ok .registered, registries.set number grown)

/-- Every request comes to one of the cases of `Outcome`. -/
theorem outcome (host : Host) (registries : Registries) (request : RegistryRequest) :
    Outcome host registries request ((request.perform host).run registries) := by
  cases request with
  | make withBuiltins => exact .made withBuiltins
  | copy number =>
      rw [RegistryRequest.perform, run_withNumber]
      split
      · exact .copied ‹_›
      · exact .stay fun _ => rfl
  | register number backend =>
      rw [RegistryRequest.perform, run_withNumber]
      split
      · rename_i registry present
        rw [Action.run_bind, Action.run_ofResult]
        rcases registers : registry.register backend with error | grown
        · exact .stay fun _ => rfl
        · exact .registered present registers
      · exact .stay fun _ => rfl
  | get number deviceId =>
      rw [RegistryRequest.perform, run_withNumber]
      split
      · rename_i registry _
        rw [Action.run_bind, Action.run_ofResult]
        rcases registry.get deviceId with error | backend
        · exact .stay fun _ => rfl
        · exact .stay fun _ => rfl
      · exact .stay fun _ => rfl
  | ids number =>
      rw [RegistryRequest.perform, run_withNumber]
      split <;> exact .stay fun _ => rfl
  | size number =>
      rw [RegistryRequest.perform, run_withNumber]
      split <;> exact .stay fun _ => rfl

/-- The ledger stays accurate: a registration succeeds just if the id is new. -/
theorem Match.perform (accurate : registries.Match ledger) (request : RegistryRequest) :
    Match ((request.perform host).run registries).2
      (ledger.enter host request ((request.perform host).run registries).1) := by
  have outcome := outcome host registries request
  generalize (request.perform host).run registries = ran at outcome
  cases outcome with
  | stay unrecorded => rwa [unrecorded]
  | made withBuiltins =>
      refine accurate.concat ?_
      cases withBuiltins with
      | true => exact .builtins host
      | false => exact .empty
  | copied present =>
      obtain ⟨held, entry, holds⟩ := accurate.exists_entry present
      rw [Ledger.enter, entry]
      exact accurate.concat holds
  | @registered number registry grown backend present registers =>
      obtain ⟨held, entry, holds⟩ := accurate.exists_entry present
      have isNew : backend.deviceId ∉ held.map (·.deviceId) := by
        intro known
        rw [holds.register_known known] at registers
        cases registers
      obtain ⟨next, succeeds, holdsNext⟩ := holds.register_new isNew
      cases registers.symm.trans succeeds
      exact accurate.replace entry holdsNext

/-- A registry changes by nothing but a registration in it. -/
theorem perform_keeps (present : registries[number]? = some registry) {request : RegistryRequest}
    (elsewhere : ∀ backend, request ≠ .register number backend) :
    ((request.perform host).run registries).2[number]? = some registry := by
  have outcome := outcome host registries request
  generalize (request.perform host).run registries = ran at outcome
  have within : number < registries.length := (List.getElem?_eq_some_iff.mp present).1
  cases outcome with
  | stay _ => exact present
  | made _ => rwa [List.getElem?_append_left within]
  | copied _ => rwa [List.getElem?_append_left within]
  | @registered changed _ _ backend _ _ =>
      have other : changed ≠ number := fun same => elsewhere backend (same ▸ rfl)
      rwa [List.getElem?_set_ne other]

end Registries

/-- Nothing is taken from a ledger. -/
theorem Ledger.enter_grows {host : Host} {ledger : Ledger} {number : Nat}
    {held : List DeviceBackend} (entry : ledger[number]? = some held) (request : RegistryRequest)
    (answer : Except BuildError RegistryAnswer) :
    ∃ more, (ledger.enter host request answer)[number]? = some (held ++ more) := by
  have within : number < ledger.length := (List.getElem?_eq_some_iff.mp entry).1
  unfold enter
  split
  · exact ⟨[], by rw [List.getElem?_append_left within, entry, List.append_nil]⟩
  · exact ⟨[], by rw [List.getElem?_append_left within, entry, List.append_nil]⟩
  · rename_i changed backend
    by_cases same : changed = number
    · subst same
      exact ⟨[backend], by rw [List.getElem?_modify, entry]; simp⟩
    · exact ⟨[], by rw [List.getElem?_modify, entry]; simp [same]⟩
  · exact ⟨[], by rw [entry, List.append_nil]⟩

/-! ## Runs -/

/-- Entries of a ledger are only ever added to. -/
theorem Ledger.enterAll_grows {host : Host} {ledger : Ledger} {number : Nat}
    {held : List DeviceBackend} (entry : ledger[number]? = some held)
    (history : List (RegistryRequest × Except BuildError RegistryAnswer)) :
    ∃ more, (ledger.enterAll host history)[number]? = some (held ++ more) := by
  induction history generalizing ledger held with
  | nil => exact ⟨[], by rw [List.append_nil]; exact entry⟩
  | cons first later ih =>
      obtain ⟨more, entered⟩ := enter_grows entry first.1 first.2
      obtain ⟨further, enteredAll⟩ := ih entered
      exact ⟨more ++ further, by rw [← List.append_assoc]; exact enteredAll⟩

namespace Registries

variable {host : Host} {registries : Registries} {ledger : Ledger} {number : Nat}
  {registry : Registry} {held : List DeviceBackend}

/-- The ledger is accurate after any number of requests. -/
theorem Match.performAll (accurate : registries.Match ledger) (requests : List RegistryRequest) :
    Match (registries.performAll host requests).2
      (ledger.enterAll host (requests.zip (registries.performAll host requests).1)) := by
  induction requests generalizing registries ledger with
  | nil => exact accurate
  | cons request later ih => exact ih (accurate.perform request)

/-- A registry stays as it is as long as nothing is registered in it. -/
theorem performAll_keeps (present : registries[number]? = some registry)
    {requests : List RegistryRequest}
    (elsewhere : ∀ backend, RegistryRequest.register number backend ∉ requests) :
    (registries.performAll host requests).2[number]? = some registry := by
  induction requests generalizing registries with
  | nil => exact present
  | cons request later ih =>
      refine ih (perform_keeps present ?_) ?_
      · intro backend same
        exact elsewhere backend (same ▸ List.mem_cons_self)
      · intro backend member
        exact elsewhere backend (List.mem_cons_of_mem request member)

/-! ## Answers -/

/-- A registry answers by the backends that were registered in it. -/
structure Answers (host : Host) (registries : Registries) (number : Nat)
    (held : List DeviceBackend) : Prop where
  /-- No id was registered twice. -/
  distinct : (held.map (·.deviceId)).Nodup
  /-- An id is that of the backend which was registered with it; others are unknown. -/
  lookup : ∀ deviceId, ((RegistryRequest.get number deviceId).perform host).run registries =
    (match held.find? fun backend => backend.deviceId == deviceId with
      | some backend => .ok (.found backend)
      | none => .error (.unknownDevice deviceId), registries)
  /-- To register an id again fails and changes nothing. -/
  duplicate : ∀ backend, backend.deviceId ∈ held.map (·.deviceId) →
    ((RegistryRequest.register number backend).perform host).run registries =
      (.error (.duplicateDevice backend.deviceId), registries)
  /-- A new id is registered. -/
  registration : ∀ backend, backend.deviceId ∉ held.map (·.deviceId) →
    (((RegistryRequest.register number backend).perform host).run registries).1 =
      .ok .registered
  /-- The ids are those registered, in the order of their characters and of their bytes. -/
  listing : ∃ ids,
    ((RegistryRequest.ids number).perform host).run registries = (.ok (.ids ids), registries) ∧
    ((RegistryRequest.size number).perform host).run registries =
      (.ok (.size ids.length), registries) ∧
    ids.Pairwise (· < ·) ∧ (ids.map Text.encode).Pairwise (· < ·) ∧
    ∀ deviceId, deviceId ∈ ids ↔ deviceId ∈ held.map (·.deviceId)

/-- A backend is looked up in the numbered registry. -/
theorem run_get (present : registries[number]? = some registry) (deviceId : String) :
    ((RegistryRequest.get number deviceId).perform host).run registries =
      ((registry.get deviceId).map .found, registries) := by
  rw [RegistryRequest.perform, run_withNumber, present]
  dsimp only
  rw [Action.run_bind, Action.run_ofResult]
  rcases registry.get deviceId with error | backend <;> rfl

/-- A backend is registered in the numbered registry, unless that refuses. -/
theorem run_register (present : registries[number]? = some registry) (backend : DeviceBackend) :
    ((RegistryRequest.register number backend).perform host).run registries =
      match registry.register backend with
      | .ok grown => (.ok .registered, registries.set number grown)
      | .error error => (.error error, registries) := by
  rw [RegistryRequest.perform, run_withNumber, present]
  dsimp only
  rw [Action.run_bind, Action.run_ofResult]
  rcases registry.register backend with error | grown <;> rfl

theorem run_ids (present : registries[number]? = some registry) :
    ((RegistryRequest.ids number).perform host).run registries =
      (.ok (.ids registry.ids), registries) := by
  rw [RegistryRequest.perform, run_withNumber, present]
  rfl

theorem run_size (present : registries[number]? = some registry) :
    ((RegistryRequest.size number).perform host).run registries =
      (.ok (.size registry.size), registries) := by
  rw [RegistryRequest.perform, run_withNumber, present]
  rfl

/-- A registry that matches its entry answers by it. -/
theorem answers (accurate : registries.Match ledger) (entry : ledger[number]? = some held) :
    registries.Answers host number held := by
  obtain ⟨registry, present, holds⟩ := accurate.exists_registry entry
  refine ⟨holds.nodup_held, fun deviceId => ?_, fun backend known => ?_, fun backend isNew => ?_,
    registry.ids, run_ids present, ?_, holds.sorted, ?_, fun deviceId => holds.perm_ids.mem_iff⟩
  · rw [run_get present, holds.get_eq]
    rcases found : held.find? fun backend => backend.deviceId == deviceId with _ | backend
    · rw [found]
      rfl
    · rw [found]
      rfl
  · rw [run_register present, holds.register_known known]
  · obtain ⟨grown, registers, -⟩ := holds.register_new isNew
    rw [run_register present, registers]
  · rw [run_size present, Registry.size, Registry.ids, List.length_map]
  · exact List.pairwise_map.mpr (holds.sorted.imp Text.encode_lt_encode_iff.mpr)

/-- What an id was found to be, it is found to be forever. -/
theorem lookup_lasts (accurate : registries.Match ledger) {deviceId : String}
    {backend : DeviceBackend}
    (found : (((RegistryRequest.get number deviceId).perform host).run registries).1 =
      .ok (.found backend)) (later : List RegistryRequest) :
    (((RegistryRequest.get number deviceId).perform host).run
      (registries.performAll host later).2).1 = .ok (.found backend) := by
  rcases present : registries[number]? with _ | registry
  · rw [RegistryRequest.perform, run_withNumber, present] at found
    cases found
  obtain ⟨held, entry, -⟩ := accurate.exists_entry present
  obtain ⟨more, enteredAll⟩ : ∃ more, (ledger.enterAll host
      (later.zip (registries.performAll host later).1))[number]? = some (held ++ more) :=
    Ledger.enterAll_grows entry _
  rw [(answers accurate entry).lookup] at found
  rw [(answers (accurate.performAll later) enteredAll).lookup, List.find?_append]
  rcases first : held.find? fun other => other.deviceId == deviceId with _ | other
  · rw [first] at found
    cases found
  · rw [first] at found
    rw [first, Option.some_or]
    exact found

/-- A registry answers whatever it is asked as another one does. -/
structure AnswersAs (host : Host) (registries : Registries) (number : Nat) (others : Registries)
    (other : Nat) : Prop where
  get : ∀ deviceId, (((RegistryRequest.get number deviceId).perform host).run registries).1 =
    (((RegistryRequest.get other deviceId).perform host).run others).1
  ids : (((RegistryRequest.ids number).perform host).run registries).1 =
    (((RegistryRequest.ids other).perform host).run others).1
  size : (((RegistryRequest.size number).perform host).run registries).1 =
    (((RegistryRequest.size other).perform host).run others).1

/-- The same registry answers alike under any number. -/
theorem answersAs_of_present {others : Registries} {other : Nat}
    (present : registries[number]? = some registry) (presentToo : others[other]? = some registry)
    (host : Host) : AnswersAs host registries number others other where
  get deviceId := by rw [run_get present, run_get presentToo]
  ids := by rw [run_ids present, run_ids presentToo]
  size := by rw [run_size present, run_size presentToo]

/-- A copy answers as its original did when it was taken, until something is registered in it. -/
theorem copy_answers (present : registries[number]? = some registry) (host : Host) :
    ∃ copied taken,
      ((RegistryRequest.copy number).perform host).run registries = (.ok (.made copied), taken) ∧
      ∀ later, (∀ backend, RegistryRequest.register copied backend ∉ later) →
        AnswersAs host (taken.performAll host later).2 copied registries number := by
  refine ⟨registries.length, registries ++ [registry], ?_, fun later elsewhere => ?_⟩
  · rw [RegistryRequest.perform, run_withNumber, present]
    rfl
  · have copy : (registries ++ [registry])[registries.length]? = some registry :=
      List.getElem?_concat_length
    exact answersAs_of_present (performAll_keeps copy elsewhere) present host

/-- At any time in the life of a process its registries, the first one and those that were made or
copied later, answer by what was registered in them. What an id was found to be, it is found to be
forever. A copy answers as its original did when it was taken, whatever is registered elsewhere. -/
theorem answers_by_registrations (host : Host) (requests : List RegistryRequest) :
    let registries := ((ofProcess host).performAll host requests).2
    let ledger := (Ledger.ofProcess host).enterAll host
      (requests.zip ((ofProcess host).performAll host requests).1)
    registries.length = ledger.length ∧
    (∀ number held, ledger[number]? = some held → registries.Answers host number held) ∧
    (∀ number deviceId backend,
      (((RegistryRequest.get number deviceId).perform host).run registries).1 =
          .ok (.found backend) →
        ∀ later, (((RegistryRequest.get number deviceId).perform host).run
          (registries.performAll host later).2).1 = .ok (.found backend)) ∧
    (∀ number, number < registries.length → ∃ copied taken,
      ((RegistryRequest.copy number).perform host).run registries = (.ok (.made copied), taken) ∧
      ∀ later, (∀ backend, RegistryRequest.register copied backend ∉ later) →
        AnswersAs host (taken.performAll host later).2 copied registries number) := by
  intro registries ledger
  have accurate : registries.Match ledger := (Match.ofProcess host).performAll requests
  refine ⟨accurate.length_eq, fun number held entry => answers accurate entry,
    fun number deviceId backend found later => lookup_lasts accurate found later, ?_⟩
  intro number within
  exact copy_answers (List.getElem?_eq_getElem within) host

/-- A copy is not told of what is registered later, and an id is not taken twice. -/
example :
    let board := Simulation.backend "board" fun _ => .writes none
    ((ofProcess .current).performAll .current
      [.copy 0, .register 0 board, .register 0 board, .ids 0, .ids 1]).1 =
      [.ok (.made 1), .ok .registered, .error (.duplicateDevice "board"),
        .ok (.ids ["arm.stm32f746xx", "board", "host", "riscv_spike"]),
        .ok (.ids ["arm.stm32f746xx", "host", "riscv_spike"])] := by
  rfl

end Registries

end MicroDevice
