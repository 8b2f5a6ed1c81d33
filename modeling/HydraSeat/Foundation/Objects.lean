import HydraSeat.Foundation.Command

/-!
# Objects whose operations call their environment

An operation of an object is a command: it calls the environment and ends
with a result.  `Ran` is one run of a command with the calls that it made,
each with the state it was made in.  `Meets` says what all the runs of a
command have in common, along the text of the command.

`Reached` is about an object over its whole life.  Its operations run one
after the other, each to its end; between two of them others may change the
state.  All calls so far are kept.
-/

namespace HydraSeat.Foundation

open Command List

variable {interface : Interface} {State α β : Type}

structure Entry (interface : Interface) (State : Type) where
  before : State
  request : interface.Call
  answer : interface.Answer request

/-- The run of a command from a state, with its calls, its result and the
state behind it. -/
inductive Ran (env : Environment interface State) :
    Command interface α → State → List (Entry interface State) → α → State → Prop
  | done (value : α) (state : State) : Ran env (.done value) state [] value state
  | call {request : interface.Call} {next : interface.Answer request → Command interface α}
      {answer : interface.Answer request} {before middle after : State}
      {entries : List (Entry interface State)} {value : α}
      (allowed : env before request answer middle)
      (rest : Ran env (next answer) middle entries value after) :
      Ran env (.call request next) before (⟨before, request, answer⟩ :: entries) value after

/-- Every run of the command from the state ends as `post` says. -/
def Meets (env : Environment interface State) (command : Command interface α) (state : State)
    (post : List (Entry interface State) → α → State → Prop) : Prop :=
  ∀ entries value after, Ran env command state entries value after → post entries value after

section Rules

variable {env : Environment interface State}
  {post : List (Entry interface State) → α → State → Prop}
  {state : State}

theorem meets_pure {value : α} (holds : post [] value state) :
    Meets env (pure value) state post := by
  intro entries returned after ran
  cases ran
  exact holds

theorem meets_call {request : interface.Call}
    {next : interface.Answer request → Command interface α}
    (continues :
      ∀ answer after, env state request answer after →
        Meets env (next answer) after
          fun entries value final => post (⟨state, request, answer⟩ :: entries) value final) :
    Meets env (.call request next) state post := by
  intro entries value after ran
  cases ran with
  | call allowed rest => exact continues _ _ allowed _ _ _ rest

variable {command : Command interface α}

theorem Ran.bind {next : α → Command interface β}
    {entries : List (Entry interface State)} {value : β} {after : State}
    (ran : Ran env (command >>= next) state entries value after) :
    ∃ first second middle between,
      entries = first ++ second ∧ Ran env command state first middle between ∧
        Ran env (next middle) between second value after := by
  induction command generalizing state entries with
  | done returned => exact ⟨[], entries, returned, state, rfl, .done returned state, ran⟩
  | call request following ih =>
    rw [call_bind_eq] at ran
    cases ran with
    | call allowed rest =>
      obtain ⟨first, second, middle, between, rfl, began, ended⟩ := ih _ rest
      exact ⟨_ :: first, second, middle, between, rfl, .call allowed began, ended⟩

theorem meets_bind {middle : List (Entry interface State) → α → State → Prop}
    {final : List (Entry interface State) → β → State → Prop} {next : α → Command interface β}
    (first : Meets env command state middle)
    (second :
      ∀ entries value between, middle entries value between →
        Meets env (next value) between
          fun more returned after => final (entries ++ more) returned after) :
    Meets env (command >>= next) state final := by
  intro entries value after ran
  obtain ⟨began, ended, returned, between, rfl, firstRan, secondRan⟩ := ran.bind
  exact second _ _ _ (first _ _ _ firstRan) _ _ _ secondRan

theorem meets_ask {request : interface.Call} {next : interface.Answer request → Command interface α}
    (continues :
      ∀ answer after, env state request answer after →
        Meets env (next answer) after
          fun entries value final => post (⟨state, request, answer⟩ :: entries) value final) :
    Meets env (ask request >>= next) state post :=
  meets_call continues

theorem meets_mono {stronger : List (Entry interface State) → α → State → Prop}
    (meets : Meets env command state stronger)
    (implies : ∀ entries value after, stronger entries value after → post entries value after) :
    Meets env command state post :=
  fun entries value after ran => implies entries value after (meets entries value after ran)

theorem meets_ran (command : Command interface α) :
    Meets env command state (Ran env command state) :=
  fun _ _ _ ran => ran

theorem meets_and {other : List (Entry interface State) → α → State → Prop}
    (left : Meets env command state post)
    (right : Meets env command state other) :
    Meets env command state
      fun entries value after => post entries value after ∧ other entries value after :=
  fun entries value after ran => ⟨left entries value after ran, right entries value after ran⟩

theorem meets_keeps {keeps : State → Prop} {allowed : interface.Call → Prop}
    (only : Only allowed command)
    (kept :
      ∀ before request answer after, keeps before → allowed request →
        env before request answer after → keeps after)
    (start : keeps state) :
    Meets env command state
      fun entries _ after =>
        keeps after ∧ ∀ entry ∈ entries, keeps entry.before ∧ allowed entry.request := by
  intro entries value after ran
  induction ran with
  | done value state => exact ⟨start, fun entry member => nomatch member⟩
  | call happened _ ih =>
    obtain ⟨permitted, rest⟩ := only
    obtain ⟨holds, all⟩ := ih (rest _) (kept _ _ _ _ start permitted happened)
    refine ⟨holds, ?_⟩
    intro entry member
    rcases mem_cons.mp member with rfl | later
    · exact ⟨start, permitted⟩
    · exact all entry later

end Rules

section Handler

variable {handler : State → (request : interface.Call) → interface.Answer request × State}

def handled (handler : State → (request : interface.Call) → interface.Answer request × State) :
    Environment interface State :=
  fun state request answer after => handler state request = (answer, after)

def entriesOf (handler : State → (request : interface.Call) → interface.Answer request × State) :
    Command interface α → State → List (Entry interface State)
  | .done _, _ => []
  | .call request next, state =>
    ⟨state, request, (handler state request).1⟩ ::
      entriesOf handler (next (handler state request).1) (handler state request).2

theorem ran_exec {env : Environment interface State}
    (answers :
      ∀ state request, env state request (handler state request).1 (handler state request).2)
    (command : Command interface α) (state : State) :
    Ran env command state (entriesOf handler command state)
      (exec handler command state).1 (exec handler command state).2 := by
  induction command generalizing state with
  | done value => exact .done value state
  | call request next ih => exact .call (answers state request) (ih _ _)

theorem entriesOf_answer {command : Command interface α} {state : State}
    {entry : Entry interface State}
    (member : entry ∈ entriesOf handler command state) :
    entry.answer = (handler entry.before entry.request).1 := by
  induction command generalizing state with
  | done value => cases member
  | call request next ih =>
    rcases mem_cons.mp member with rfl | later
    · rfl
    · exact ih _ later

end Handler

section Life

variable {Object Operation Result : Type}

/-- An object, the state around it and all its calls, after operations that
each met a condition when they started. -/
inductive Reached (perform : Object → Operation → Command interface (Result × Object))
    (env : Environment interface State)
    (outside : State → State → Prop)
    (condition : Object → Operation → State → Prop)
    (object : Object) (state : State) :
    Object → State → List (Entry interface State) → Prop
  | start : Reached perform env outside condition object state object state []
  | operation {before after : Object} {first last : State}
      {history entries : List (Entry interface State)} {result : Result}
      {operation : Operation}
      (earlier : Reached perform env outside condition object state before first history)
      (met : condition before operation first)
      (ran : Ran env (perform before operation) first entries (result, after) last) :
      Reached perform env outside condition object state after last (history ++ entries)
  | outside {before : Object} {first last : State} {history : List (Entry interface State)}
      (earlier : Reached perform env outside condition object state before first history)
      (changed : outside first last) :
      Reached perform env outside condition object state before last history

theorem Reached.invariant {perform : Object → Operation → Command interface (Result × Object)}
    {env : Environment interface State}
    {outside : State → State → Prop}
    {condition : Object → Operation → State → Prop}
    (invariant : Object → State → List (Entry interface State) → Prop)
    (preserved :
      ∀ object operation state history, invariant object state history →
        condition object operation state →
        Meets env (perform object operation) state
          fun entries outcome after => invariant outcome.2 after (history ++ entries))
    (undisturbed :
      ∀ object first last history, invariant object first history →
        outside first last → invariant object last history)
    {object : Object} {state : State} (start : invariant object state [])
    {reached : Object} {last : State}
    {history : List (Entry interface State)}
    (life : Reached perform env outside condition object state reached last history) :
    invariant reached last history := by
  induction life with
  | start => exact start
  | operation earlier met ran ih => exact preserved _ _ _ _ ih met _ _ _ ran
  | outside earlier changed ih => exact undisturbed _ _ _ _ ih changed

end Life

section Deeds

variable {Object Operation Result : Type}
variable {outside : State → State → Prop} {object : Object} {state : State}
  {operations : List Operation}

/-- One operation of an object, from its start to its end. -/
structure Deed (interface : Interface) (State Object Operation Result : Type) where
  object : Object
  operation : Operation
  state : State
  entries : List (Entry interface State)
  result : Result
  after : Object
  last : State

def historyOf (deeds : List (Deed interface State Object Operation Result)) :
    List (Entry interface State) :=
  deeds.flatMap (·.entries)

theorem historyOf_concat (deeds : List (Deed interface State Object Operation Result))
    (deed : Deed interface State Object Operation Result) :
    historyOf (deeds ++ [deed]) = historyOf deeds ++ deed.entries := by
  unfold historyOf
  rw [flatMap_append, flatMap_singleton]

/-- An object and the state around it behind its deeds. -/
inductive Lived (perform : Object → Operation → Command interface (Result × Object))
    (env : Environment interface State)
    (outside : State → State → Prop) (object : Object) (state : State) :
    Object → State → List (Deed interface State Object Operation Result) → Prop
  | start : Lived perform env outside object state object state []
  | operation {before after : Object} {first last : State}
      {deeds : List (Deed interface State Object Operation Result)}
      {operation : Operation} {entries : List (Entry interface State)}
      {result : Result}
      (earlier : Lived perform env outside object state before first deeds)
      (ran : Ran env (perform before operation) first entries (result, after) last) :
      Lived perform env outside object state after last
        (deeds ++ [⟨before, operation, first, entries, result, after, last⟩])
  | outside {before : Object} {first last : State}
      {deeds : List (Deed interface State Object Operation Result)}
      (earlier : Lived perform env outside object state before first deeds)
      (changed : outside first last) :
      Lived perform env outside object state before last deeds

variable {env : Environment interface State}
  {perform : Object → Operation → Command interface (Result × Object)}
  {deeds : List (Deed interface State Object Operation Result)}

/-- The invariant rule over the deeds of an object, of which each met a
condition. -/
theorem Lived.invariant
    (invariant : Object → State → List (Deed interface State Object Operation Result) → Prop)
    {condition : Deed interface State Object Operation Result → Prop}
    (preserved :
      ∀ object operation state deeds, invariant object state deeds →
        Meets env (perform object operation) state
          fun entries outcome after =>
            condition ⟨object, operation, state, entries, outcome.1, outcome.2, after⟩ →
              invariant outcome.2 after
                (deeds ++ [⟨object, operation, state, entries, outcome.1, outcome.2, after⟩]))
    (undisturbed :
      ∀ object first last deeds, invariant object first deeds →
        outside first last → invariant object last deeds) (start : invariant object state [])
    {reached : Object} {last : State}
    (life : Lived perform env outside object state reached last deeds)
    (met : ∀ deed ∈ deeds, condition deed) :
    invariant reached last deeds := by
  induction life with
  | start => exact start
  | operation earlier ran ih =>
    have before := ih fun deed member => met deed (mem_append_left _ member)
    exact preserved _ _ _ _ before _ _ _ ran (met _ (mem_append_right _ (mem_singleton_self _)))
  | outside earlier changed ih => exact undisturbed _ _ _ _ (ih met) changed

variable {handler : State → (request : interface.Call) → interface.Answer request × State}

theorem Lived.exec
    (answers :
      ∀ state request, env state request (handler state request).1 (handler state request).2)
    {before : Object} {first : State}
    (earlier : Lived perform env outside object state before first deeds)
    (operation : Operation) :
    Lived perform env outside object state (exec handler (perform before operation) first).1.2
      (exec handler (perform before operation) first).2
      (deeds ++
        [⟨before, operation, first, entriesOf handler (perform before operation) first,
          (exec handler (perform before operation) first).1.1,
          (exec handler (perform before operation) first).1.2,
          (exec handler (perform before operation) first).2⟩]) :=
  .operation earlier (ran_exec answers _ _)

def performed (handler : State → (request : interface.Call) → interface.Answer request × State)
    (perform : Object → Operation → Command interface (Result × Object))
    (object : Object) (operation : Operation) (state : State) :
    Deed interface State Object Operation Result where
  object
  operation
  state
  entries := entriesOf handler (perform object operation) state
  result := (exec handler (perform object operation) state).1.1
  after := (exec handler (perform object operation) state).1.2
  last := (exec handler (perform object operation) state).2

/-- Operations one after the other against a handler. -/
def enact (handler : State → (request : interface.Call) → interface.Answer request × State)
    (perform : Object → Operation → Command interface (Result × Object)) :
    Object → State → List Operation → List (Deed interface State Object Operation Result)
  | _, _, [] => []
  | object, state, operation :: operations =>
    let deed := performed handler perform object operation state
    deed :: enact handler perform deed.after deed.last operations

variable {deed : Deed interface State Object Operation Result}

theorem enact_performed
    (member : deed ∈ enact handler perform object state operations) :
    deed = performed handler perform deed.object deed.operation deed.state := by
  induction operations generalizing object state with
  | nil => cases member
  | cons operation operations ih =>
    rcases mem_cons.mp member with rfl | later
    · rfl
    · exact ih later

theorem enact_operation
    (member : deed ∈ enact handler perform object state operations) :
    deed.operation ∈ operations := by
  induction operations generalizing object state with
  | nil => cases member
  | cons operation operations ih =>
    rcases mem_cons.mp member with rfl | later
    · exact mem_cons_self
    · exact mem_cons_of_mem _ (ih later)

def objectBehind (object : Object) (deeds : List (Deed interface State Object Operation Result)) :
    Object :=
  (deeds.getLast?.map (·.after)).getD object

def stateBehind (state : State)
    (deeds : List (Deed interface State Object Operation Result)) : State :=
  (deeds.getLast?.map (·.last)).getD state

theorem objectBehind_cons (object : Object) (deed : Deed interface State Object Operation Result)
    (deeds : List (Deed interface State Object Operation Result)) :
    objectBehind object (deed :: deeds) = objectBehind deed.after deeds := by
  unfold objectBehind
  cases deeds with
  | nil => rfl
  | cons next deeds =>
    rw [getLast?_cons_cons, getLast?_eq_some_getLast (cons_ne_nil next deeds)]
    rfl

theorem stateBehind_cons (state : State) (deed : Deed interface State Object Operation Result)
    (deeds : List (Deed interface State Object Operation Result)) :
    stateBehind state (deed :: deeds) = stateBehind deed.last deeds := by
  unfold stateBehind
  cases deeds with
  | nil => rfl
  | cons next deeds =>
    rw [getLast?_cons_cons, getLast?_eq_some_getLast (cons_ne_nil next deeds)]
    rfl

theorem Lived.script
    (answers :
      ∀ state request, env state request (handler state request).1 (handler state request).2)
    {before : Object} {first : State}
    (earlier : Lived perform env outside object state before first deeds)
    (operations : List Operation) :
    Lived perform env outside object state
      (objectBehind before (enact handler perform before first operations))
      (stateBehind first
        (enact handler perform before first operations))
      (deeds ++ enact handler perform before first operations) := by
  induction operations generalizing before first deeds with
  | nil =>
    rw [enact, append_nil]
    exact earlier
  | cons operation operations ih =>
    rw [enact, objectBehind_cons, stateBehind_cons]
    have more := ih (earlier.exec answers operation)
    rw [append_assoc] at more
    exact more

end Deeds

end HydraSeat.Foundation
