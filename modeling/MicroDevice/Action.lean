/-! # Actions on a state

An action answers or fails, and either way it leaves a state behind: what was done before a
failure stays done. Actions run one after another up to the first that fails.
-/

namespace MicroDevice

/-- What a program does to a state. -/
def Action (State Error Answer : Type) : Type :=
  State → Except Error Answer × State

namespace Action

variable {State Outer Error Wider Answer : Type}

/-- The answer or failure of an action on a state, and the state it leaves. -/
def run (action : Action State Error Answer) (state : State) : Except Error Answer × State :=
  action state

/-- The action that answers and does nothing. -/
def answer (value : Answer) : Action State Error Answer :=
  fun state => (.ok value, state)

/-- An action, and the one that its answer gives rise to. -/
def andThen {Next : Type} (action : Action State Error Answer)
    (next : Answer → Action State Error Next) : Action State Error Next :=
  fun state =>
    match action.run state with
    | (.ok value, later) => (next value).run later
    | (.error error, later) => (.error error, later)

instance : Monad (Action State Error) where
  pure := answer
  bind := andThen

/-- The action that has a given outcome and does nothing. -/
def ofResult (result : Except Error Answer) : Action State Error Answer :=
  fun state => (result, state)

/-- The action that fails. -/
def fail (error : Error) : Action State Error Answer :=
  ofResult (.error error)

/-- The action that answers something about the state. -/
def read (look : State → Answer) : Action State Error Answer :=
  fun state => (.ok (look state), state)

/-- The action that changes the state. -/
def change (alter : State → State) : Action State Error Unit :=
  fun state => (.ok (), alter state)

/-- An action whose failures are worded as those of a wider kind. -/
def widen (wider : Error → Wider) (action : Action State Error Answer) :
    Action State Wider Answer :=
  fun state =>
    let (result, later) := action.run state
    (result.mapError wider, later)

/-- An action on a part of a state. -/
def onPart (get : Outer → State) (set : Outer → State → Outer)
    (action : Action State Error Answer) : Action Outer Error Answer :=
  fun outer =>
    let (result, later) := action.run (get outer)
    (result, set outer later)

/-- An action after which the state is put in order, whether it fails or not. -/
def thenAlways (action : Action State Error Answer) (tidy : State → State) :
    Action State Error Answer :=
  fun state =>
    let (result, later) := action.run state
    (result, tidy later)

/-- An action after which the state is put in order if it fails. -/
def orTidy (action : Action State Error Answer) (tidy : State → State) :
    Action State Error Answer :=
  fun state =>
    match action.run state with
    | (.ok value, later) => (.ok value, later)
    | (.error error, later) => (.error error, tidy later)

/-- Run actions one after another, whatever comes of each. -/
def runEach : List (Action State Error Answer) → State → List (Except Error Answer) × State
  | [], state => ([], state)
  | action :: later, state =>
      let (outcome, middle) := action.run state
      let (outcomes, last) := runEach later middle
      (outcome :: outcomes, last)

end Action

end MicroDevice
