import Mathlib.Logic.Basic

/-!
# Stateful programs that may fail

A program reads and changes a state and ends with a value or an error; the
state survives an error.  `Respects` says that a relation holds between the
states before and after every run.  For a reflexive and transitive relation
it is proved along the program text, one rule for each way to build a
program.
-/

namespace HydraSeat.Foundation

abbrev Stateful (State Error : Type) := ExceptT Error (StateM State)

namespace Stateful

variable {State Error α β : Type}

def runOn (action : Stateful State Error α) (state : State) : Except Error α × State :=
  action.run.run state

def perform (operation : State → α × State) : Stateful State Error α :=
  ExceptT.mk fun state =>
    let (value, after) := operation state
    (.ok value, after)

def fail (error : Error) : Stateful State Error α := ExceptT.mk fun state => (.error error, state)

/-- Go on only when `condition` holds. -/
def demand (condition : Bool) (error : Error) : Stateful State Error Unit :=
  if condition then pure () else fail error

def ofExcept : Except Error α → Stateful State Error α
  | .ok value => pure value
  | .error error => fail error

/-- Run `cleanup` on the state when the program fails. -/
def onFailure (cleanup : State → State)
    (action : Stateful State Error α) : Stateful State Error α :=
  ExceptT.mk fun state =>
    match action.runOn state with
    | (.ok value, after) => (.ok value, after)
    | (.error error, after) => (.error error, cleanup after)

def Respects (relation : State → State → Prop) (action : Stateful State Error α) : Prop :=
  ∀ state, relation state (action.runOn state).2

section Rules

variable {relation : State → State → Prop}

theorem respects_perform {operation : State → α × State}
    (respects : ∀ state, relation state (operation state).2) :
    Respects relation (perform operation : Stateful State Error α) :=
  respects

variable (reflexive : ∀ state, relation state state)

include reflexive

theorem respects_pure (value : α) : Respects relation (pure value : Stateful State Error α) :=
  reflexive

theorem respects_fail (error : Error) : Respects relation (fail error : Stateful State Error α) :=
  reflexive

theorem respects_demand (condition : Bool) (error : Error) :
    Respects relation (demand condition error) := by
  cases condition with
  | false => exact respects_fail reflexive error
  | true => exact respects_pure reflexive ()

theorem respects_ofExcept (result : Except Error α) : Respects relation (ofExcept result) := by
  cases result with
  | ok value => exact respects_pure reflexive value
  | error error => exact respects_fail reflexive error

omit reflexive

variable
  (transitive :
    ∀ {first second third}, relation first second → relation second third → relation first third)

include transitive

theorem respects_bind {action : Stateful State Error α} {next : α → Stateful State Error β}
    (first : Respects relation action)
    (rest : ∀ value, Respects relation (next value)) :
    Respects relation (action >>= next) := by
  intro state
  have reached : relation state (action.runOn state).2 := first state
  have unfolded :
      (action >>= next).runOn state = match action.runOn state with
        | (.ok value, middle) => (next value).runOn middle
        | (.error error, middle) => (.error error, middle) := by
    change (ExceptT.bindCont next (action.runOn state).1).run (action.runOn state).2 = _
    cases action.runOn state with
    | mk result middle => cases result <;> rfl
  rw [unfolded]
  cases ran : action.runOn state with
  | mk result middle =>
    rw [ran] at reached
    cases result with
    | ok value => exact transitive reached (rest value middle)
    | error error => exact reached

theorem respects_onFailure {cleanup : State → State} {action : Stateful State Error α}
    (cleans : ∀ state, relation state (cleanup state))
    (respects : Respects relation action) :
    Respects relation (onFailure cleanup action) := by
  intro state
  have reached : relation state (action.runOn state).2 := respects state
  change relation state
    (match action.runOn state with
      | (.ok value, after) => (Except.ok value, after)
      | (.error error, after) => (Except.error error, cleanup after)).2
  cases ran : action.runOn state with
  | mk result middle =>
    rw [ran] at reached
    cases result with
    | ok value => exact reached
    | error error => exact transitive reached (cleans middle)

end Rules

end Stateful

end HydraSeat.Foundation
