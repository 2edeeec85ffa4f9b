import Mathlib.Order.Defs.Unbundled
import MicroDevice.Action

/-! # The course of an action

An action that succeeds went through each of its parts with success (`Action.run_bind_ok`,
`Action.run_orTidy_ok`), and one that fails does so with an error of one of its parts
(`Action.FailsOnly`). Whatever comes of an action, the state it leaves is related to the
state it began with: `Action.Moves` says that an action moves every state along a preorder,
and is shown part by part.
-/

namespace MicroDevice.Action

variable {State Outer Error Wider Answer Next : Type}

/-! ## Runs that succeed -/

@[simp] theorem run_change (alter : State → State) (state : State) :
    (change alter : Action State Error Unit).run state = (.ok (), alter state) := rfl

theorem run_ofResult (result : Except Error Answer) (state : State) :
    (ofResult result : Action State Error Answer).run state = (result, state) := rfl

/-- A composite action is its first part followed by the second. -/
theorem run_bind (action : Action State Error Answer) (next : Answer → Action State Error Next)
    (state : State) :
    (action >>= next).run state =
      match action.run state with
      | (.ok value, later) => (next value).run later
      | (.error error, later) => (.error error, later) := rfl

theorem bind_bind {Last : Type} (action : Action State Error Answer)
    (next : Answer → Action State Error Next) (last : Next → Action State Error Last) :
    action >>= next >>= last = action >>= fun value => next value >>= last := by
  funext state
  change (action >>= next >>= last).run state =
    (action >>= fun value => next value >>= last).run state
  simp only [run_bind]
  rcases action.run state with ⟨error | value, later⟩ <;> rfl

theorem run_widen (wider : Error → Wider) (action : Action State Error Answer) (state : State) :
    (action.widen wider).run state =
      ((action.run state).1.mapError wider, (action.run state).2) := rfl

/-- An action that tidies up is the action, with the state put in order after a failure. -/
theorem run_orTidy (action : Action State Error Answer) (tidy : State → State) (state : State) :
    (action.orTidy tidy).run state =
      match action.run state with
      | (.ok value, later) => (.ok value, later)
      | (.error error, later) => (.error error, tidy later) := rfl

/-- A composite action succeeds when both of its parts do. -/
theorem run_bind_ok {action : Action State Error Answer}
    {next : Answer → Action State Error Next} {state last : State} {answer : Next}
    (done : (action >>= next).run state = (.ok answer, last)) :
    ∃ value later, action.run state = (.ok value, later) ∧
      (next value).run later = (.ok answer, last) := by
  rw [run_bind] at done
  rcases first : action.run state with ⟨error | value, later⟩
  · simp [first] at done
  · rw [first] at done
    exact ⟨value, later, rfl, done⟩

/-- Translating errors neither adds nor removes a success. -/
theorem mapError_eq_ok {result : Except Error Answer} {wider : Error → Wider} {value : Answer} :
    result.mapError wider = .ok value ↔ result = .ok value := by
  cases result with
  | error error =>
      constructor <;> intro impossible <;> cases impossible
  | ok answer =>
      constructor <;> intro same <;> cases same <;> rfl

/-- An action with its failures reworded succeeds when the action does. -/
theorem run_widen_ok {wider : Error → Wider} {action : Action State Error Answer}
    {state last : State} {answer : Answer}
    (done : (action.widen wider).run state = (.ok answer, last)) :
    action.run state = (.ok answer, last) := by
  obtain ⟨succeeds, left⟩ := Prod.mk.inj done
  exact Prod.ext (mapError_eq_ok.mp succeeds) left

/-- An action on a part succeeds when the action does, and the part is put back. -/
theorem run_onPart_ok {get : Outer → State} {set : Outer → State → Outer}
    {action : Action State Error Answer} {outer last : Outer} {answer : Answer}
    (done : (action.onPart get set).run outer = (.ok answer, last)) :
    ∃ later, action.run (get outer) = (.ok answer, later) ∧ set outer later = last := by
  obtain ⟨succeeds, left⟩ := Prod.mk.inj done
  exact ⟨(action.run (get outer)).2, Prod.ext succeeds rfl, left⟩

/-- An action that tidies up after failures succeeds when the action does. -/
theorem run_orTidy_ok {action : Action State Error Answer} {tidy : State → State}
    {state last : State} {answer : Answer}
    (done : (action.orTidy tidy).run state = (.ok answer, last)) :
    action.run state = (.ok answer, last) := by
  rw [run_orTidy] at done
  rcases first : action.run state with ⟨error | value, later⟩
  · simp [first] at done
  · simpa only [first] using done

/-- A lifted result that succeeds is a success of the result, with the state untouched. -/
theorem ofResult_ok {result : Except Error Answer} {state last : State} {answer : Answer}
    (done : (ofResult result : Action State Error Answer).run state = (.ok answer, last)) :
    result = .ok answer ∧ state = last :=
  Prod.mk.inj done

/-! ## Runs up to a failure -/

/-- After a first part that succeeds, a composite action goes on with the second. -/
theorem run_bind_of_ok {action : Action State Error Answer} {state later : State} {value : Answer}
    (first : action.run state = (.ok value, later)) (next : Answer → Action State Error Next) :
    (action >>= next).run state = (next value).run later := by
  rw [run_bind, first]

/-- A composite action fails where its first part does. -/
theorem run_bind_of_error {action : Action State Error Answer} {state later : State}
    {error : Error} (first : action.run state = (.error error, later))
    (next : Answer → Action State Error Next) :
    (action >>= next).run state = (.error error, later) := by
  rw [run_bind, first]

/-- Tidying up after errors leaves a success alone. -/
theorem run_orTidy_of_ok {action : Action State Error Answer} {state later : State}
    {value : Answer} (first : action.run state = (.ok value, later)) (tidy : State → State) :
    (action.orTidy tidy).run state = (.ok value, later) := by
  rw [run_orTidy, first]

/-- After an error the state is tidied and the error is kept. -/
theorem run_orTidy_of_error {action : Action State Error Answer} {state later : State}
    {error : Error} (first : action.run state = (.error error, later)) (tidy : State → State) :
    (action.orTidy tidy).run state = (.error error, tidy later) := by
  rw [run_orTidy, first]

/-! ## Runs one after another -/

theorem runEach_cons (action : Action State Error Answer)
    (later : List (Action State Error Answer)) (state : State) :
    runEach (action :: later) state =
      ((action.run state).1 :: (runEach later (action.run state).2).1,
        (runEach later (action.run state).2).2) := rfl

theorem runEach_append (first later : List (Action State Error Answer)) (state : State) :
    runEach (first ++ later) state =
      ((runEach first state).1 ++ (runEach later (runEach first state).2).1,
        (runEach later (runEach first state).2).2) := by
  induction first generalizing state with
  | nil => rfl
  | cons action first ih => rw [List.cons_append, runEach_cons, runEach_cons, ih]; rfl

/-! ## Failures -/

/-- Each failure of the action is one of those allowed. -/
def FailsOnly (allowed : Error → Prop) (action : Action State Error Answer) : Prop :=
  ∀ state error later, action.run state = (.error error, later) → allowed error

section Failures

variable {allowed : Error → Prop}

theorem failsOnly_pure (value : Answer) :
    (pure value : Action State Error Answer).FailsOnly allowed := by
  intro state error later failed
  cases failed

/-- A sequence fails only as its parts may. -/
theorem FailsOnly.bind {action : Action State Error Answer}
    {next : Answer → Action State Error Next} (fails : action.FailsOnly allowed)
    (later : ∀ value, (next value).FailsOnly allowed) : (action >>= next).FailsOnly allowed := by
  intro state error last failed
  rw [run_bind] at failed
  rcases ran : action.run state with ⟨fault | value, middle⟩ <;> rw [ran] at failed
  · cases failed
    exact fails state _ _ ran
  · exact later value middle error last failed

/-- A widened action fails only with the translations of its errors. -/
theorem FailsOnly.widen {permitted : Wider → Prop} {wider : Error → Wider}
    {action : Action State Error Answer}
    (fails : action.FailsOnly fun error => permitted (wider error)) :
    (action.widen wider).FailsOnly permitted := by
  intro state error later failed
  rw [run_widen] at failed
  rcases ran : action.run state with ⟨fault | value, middle⟩ <;> rw [ran] at failed
  · cases failed
    exact fails state _ _ ran
  · cases failed

/-- Tidying up adds no failure. -/
theorem FailsOnly.thenAlways {action : Action State Error Answer}
    (fails : action.FailsOnly allowed) (tidy : State → State) :
    (action.thenAlways tidy).FailsOnly allowed := by
  intro state error later failed
  obtain ⟨same, -⟩ := Prod.mk.inj failed
  exact fails state error (action.run state).2 (Prod.ext same rfl)

end Failures

/-! ## States before and after -/

/-- Whatever comes of the action, it moves each state along the relation. -/
def Moves (along : State → State → Prop) (action : Action State Error Answer) : Prop :=
  ∀ state, along state (action.run state).2

variable {along : State → State → Prop}

theorem moves_change {alter : State → State} (altered : ∀ state, along state (alter state)) :
    (change alter : Action State Error Unit).Moves along :=
  altered

theorem Moves.widen {action : Action State Error Answer} (moves : action.Moves along)
    (wider : Error → Wider) : (action.widen wider).Moves along :=
  moves

/-- An action that moves along a relation moves along every wider one. -/
theorem Moves.weaken {action : Action State Error Answer} (moves : action.Moves along)
    {around : State → State → Prop}
    (follows : ∀ before after, along before after → around before after) :
    action.Moves around :=
  fun state => follows state _ (moves state)

section Preorder

variable [IsPreorder State along]

theorem moves_ofResult (result : Except Error Answer) :
    (ofResult result : Action State Error Answer).Moves along :=
  fun state => refl_of along state

theorem moves_pure (value : Answer) : (pure value : Action State Error Answer).Moves along :=
  fun state => refl_of along state

/-- A composite action moves states along what both of its parts move them along. -/
theorem Moves.bind {action : Action State Error Answer}
    {next : Answer → Action State Error Next} (moves : action.Moves along)
    (later : ∀ value, (next value).Moves along) : (action >>= next).Moves along := by
  intro state
  have first := moves state
  rw [run_bind]
  rcases ran : action.run state with ⟨error | value, middle⟩ <;> rw [ran] at first
  · exact first
  · exact trans_of along first (later value middle)

/-- What follows a result needs to be known for that result alone. -/
theorem moves_ofResult_bind {result : Except Error Answer}
    {next : Answer → Action State Error Next}
    (later : ∀ value, result = .ok value → (next value).Moves along) :
    (ofResult result >>= next).Moves along := by
  intro state
  rw [run_bind, run_ofResult]
  rcases result with error | value
  · exact refl_of along state
  · exact later value rfl state

end Preorder

end MicroDevice.Action
