import Mathlib.Logic.Relation

/-!
# Programs that call their environment

A command is a tree of calls: at each node the program makes one call and
goes on as a function of the answer.  A command is read in three ways.

* `Trace`: the events of one run, for any answers at all.  `Only` bounds the
  calls of all of them, and `Awaits` is a run that stops at an unanswered call.
* `exec`: the run against a handler that answers every call.
* `Safe`: every run against a relation that says which answers and which
  next states a call may have.  It asks a guarantee of every single call, so
  it also speaks about a program that is stopped between two calls.
-/

namespace HydraSeat.Foundation

/-- The calls a program may make and the answers each call may get. -/
structure Interface where
  Call : Type
  Answer : Call → Type

inductive Command (interface : Interface) (α : Type) : Type where
  | done (value : α)
  | call (request : interface.Call) (next : interface.Answer request → Command interface α)

namespace Command

variable {interface : Interface} {α β γ : Type}

def bind : Command interface α → (α → Command interface β) → Command interface β
  | .done value, continue_ => continue_ value
  | .call request next, continue_ => .call request fun answer => (next answer).bind continue_

instance : Monad (Command interface) where
  pure := Command.done
  bind := Command.bind

def ask (request : interface.Call) : Command interface (interface.Answer request) :=
  .call request .done

@[simp]
theorem call_bind_eq (request : interface.Call)
    (next : interface.Answer request → Command interface α)
    (after : α → Command interface β) :
    (Command.call request next >>= after) = .call request fun answer => next answer >>= after :=
  rfl

section Exec

variable {State : Type}

/-- The result, the calls made in order and the state left behind. -/
def exec (handler : State → (request : interface.Call) → interface.Answer request × State) :
    Command interface α → State → α × State
  | .done value, state => (value, state)
  | .call request next, state =>
    let (answer, after) := handler state request
    exec handler (next answer) after

end Exec

structure Event (interface : Interface) where
  request : interface.Call
  answer : interface.Answer request

/-- `Trace command events value`: with the answers recorded in `events` the
command makes exactly the calls recorded there and returns `value`. -/
inductive Trace : Command interface α → List (Event interface) → α → Prop
  | done (value : α) : Trace (.done value) [] value
  | call (request : interface.Call) (next : interface.Answer request → Command interface α)
      (answer : interface.Answer request)
      (events : List (Event interface)) (value : α)
      (rest : Trace (next answer) events value) :
      Trace (.call request next) (⟨request, answer⟩ :: events) value

variable {events : List (Event interface)} {value : α}

@[simp]
theorem trace_pure_iff {returned : α} :
    Trace (pure returned : Command interface α) events value ↔ events = [] ∧ returned = value := by
  constructor
  · intro trace
    cases trace
    exact ⟨rfl, rfl⟩
  · rintro ⟨rfl, rfl⟩
    exact .done returned

variable {request : interface.Call}

theorem trace_call_iff
    {next : interface.Answer request → Command interface α} :
    Trace (.call request next) events value ↔
      ∃ answer rest, events = ⟨request, answer⟩ :: rest ∧ Trace (next answer) rest value := by
  constructor
  · intro trace
    cases trace with
    | call _ _ answer rest _ continued => exact ⟨answer, rest, rfl, continued⟩
  · rintro ⟨answer, rest, rfl, continued⟩
    exact .call request next answer rest value continued

variable {command : Command interface α} {next : α → Command interface β}

theorem trace_bind_iff {value : β} :
    Trace (command >>= next) events value ↔
      ∃ first second middle, events = first ++ second ∧ Trace command first middle ∧
        Trace (next middle) second value := by
  induction command generalizing events with
  | done returned =>
    constructor
    · intro trace
      exact ⟨[], events, returned, rfl, .done returned, trace⟩
    · rintro ⟨first, second, middle, rfl, trace, continued⟩
      cases trace
      exact continued
  | call request following ih =>
    rw [call_bind_eq, trace_call_iff]
    constructor
    · rintro ⟨answer, rest, rfl, continued⟩
      obtain ⟨first, second, middle, rfl, trace, after⟩ := (ih answer).mp continued
      exact ⟨⟨request, answer⟩ :: first, second, middle, rfl,
        .call request following answer first middle trace, after⟩
    rintro ⟨first, second, middle, rfl, trace, after⟩
    cases trace with
    | call _ _ answer rest _ continued =>
      exact ⟨answer, rest ++ second, rfl,
        (ih answer).mpr ⟨rest, second, middle, rfl, continued, after⟩⟩

section Awaits

/-- `Awaits command events request`: after the calls recorded in `events`
the command makes the call `request`, whose answer never comes. -/
inductive Awaits : Command interface α → List (Event interface) → interface.Call → Prop
  | here (request : interface.Call) (next : interface.Answer request → Command interface α) :
      Awaits (.call request next) [] request
  | later (request : interface.Call) (next : interface.Answer request → Command interface α)
      (answer : interface.Answer request)
      (events : List (Event interface)) (awaited : interface.Call)
      (rest : Awaits (next answer) events awaited) :
      Awaits (.call request next) (⟨request, answer⟩ :: events) awaited

theorem not_awaits_pure :
    ¬ Awaits (pure value : Command interface α) events request :=
  nofun

theorem awaits_bind
    (awaits : Awaits (command >>= next) events request) :
    Awaits command events request ∨
      ∃ first second middle, events = first ++ second ∧ Trace command first middle ∧
        Awaits (next middle) second request := by
  induction command generalizing events with
  | done value => exact Or.inr ⟨[], events, value, rfl, .done value, awaits⟩
  | call asked following ih =>
    rw [call_bind_eq] at awaits
    cases awaits with
    | here => exact Or.inl (.here _ following)
    | later _ _ answer rest _ continued =>
      rcases ih answer continued with
        stopped | ⟨first, second, middle, rfl, trace, after⟩
      · exact Or.inl (.later asked following answer rest request stopped)
      · exact Or.inr ⟨⟨asked, answer⟩ :: first, second, middle, rfl,
          .call asked following answer first middle trace, after⟩

end Awaits

section Only

/-- Whatever the answers, the command makes allowed calls only. -/
def Only (allowed : interface.Call → Prop) : Command interface α → Prop
  | .done _ => True
  | .call request next => allowed request ∧ ∀ answer, Only allowed (next answer)

variable {allowed : interface.Call → Prop}

theorem only_pure : Only allowed (pure value : Command interface α) := trivial

theorem only_refused {condition : Prop} [Decidable condition] (passes : Only allowed command) :
    Only allowed (if condition then pure value else command) := by
  split
  · exact only_pure
  · exact passes

theorem only_ask (permitted : allowed request) :
    Only allowed (ask request) :=
  ⟨permitted, fun _ => trivial⟩

theorem only_bind
    (first : Only allowed command)
    (second : ∀ value, Only allowed (next value)) :
    Only allowed (command >>= next) := by
  induction command with
  | done value => exact second value
  | call request following ih => exact ⟨first.1, fun answer => ih answer (first.2 answer)⟩

theorem only_mono {others : interface.Call → Prop}
    (only : Only allowed command)
    (implies : ∀ request, allowed request → others request) :
    Only others command := by
  induction command with
  | done value => trivial
  | call request next ih => exact ⟨implies request only.1, fun answer => ih answer (only.2 answer)⟩

theorem only_trace
    (only : Only allowed command) (trace : Trace command events value) :
    ∀ event ∈ events, allowed event.request := by
  induction trace with
  | done value =>
    intro event member
    cases member
  | call request next answer events value rest ih =>
    intro event member
    rcases List.mem_cons.mp member with rfl | later
    · exact only.1
    · exact ih (only.2 answer) event later

end Only

section Record

variable {State : Type}

/-- Run against a handler and keep the events. -/
def record (handler : State → (request : interface.Call) → interface.Answer request × State) :
    Command interface α → State → α × List (Event interface)
  | .done value, _ => (value, [])
  | .call request next, state =>
    let (answer, after) := handler state request
    let (value, events) := record handler (next answer) after
    (value, ⟨request, answer⟩ :: events)

theorem record_trace
    (handler : State → (request : interface.Call) → interface.Answer request × State)
    (command : Command interface α) (state : State) :
    Trace command (record handler command state).2 (record handler command state).1 := by
  induction command generalizing state with
  | done value => exact .done value
  | call request next ih => exact .call request next _ _ _ (ih _ _)

end Record

section Safe

variable {State : Type}

/-- The answers and next states that a call may have in a state. -/
abbrev Environment (interface : Interface) (State : Type) :=
  State → (request : interface.Call) → interface.Answer request → State → Prop

/-- Every call meets `guarantee` between the states around it and the
result, if it is reached, meets `post`. -/
def Safe (env : Environment interface State)
    (guarantee : State → State → Prop) (post : α → State → Prop) :
    Command interface α → State → Prop
  | .done value, state => post value state
  | .call request next, state =>
    ∀ answer after, env state request answer after →
      guarantee state after ∧ Safe env guarantee post (next answer) after

variable {env : Environment interface State} {guarantee : State → State → Prop}
  {post : α → State → Prop} {state : State}

theorem safe_pure (holds : post value state) :
    Safe env guarantee post (pure value : Command interface α) state :=
  holds

theorem safe_bind {middle : α → State → Prop} {post : β → State → Prop}
    (first : Safe env guarantee middle command state)
    (second : ∀ value after, middle value after → Safe env guarantee post (next value) after) :
    Safe env guarantee post (command >>= next) state := by
  induction command generalizing state with
  | done value => exact second value state first
  | call request following ih =>
    intro answer after allowed
    obtain ⟨met, rest⟩ := first answer after allowed
    exact ⟨met, ih answer rest⟩

theorem safe_mono {stronger : State → State → Prop} {specific : α → State → Prop}
    (guaranteed : ∀ before after, stronger before after → guarantee before after)
    (returned : ∀ value after, specific value after → post value after)
    (safe : Safe env stronger specific command state) :
    Safe env guarantee post command state := by
  induction command generalizing state with
  | done value => exact returned value state safe
  | call request next ih =>
    intro answer after allowed
    obtain ⟨met, rest⟩ := safe answer after allowed
    exact ⟨guaranteed _ _ met, ih answer rest⟩

theorem safe_environment {narrower : Environment interface State}
    (allowed :
      ∀ before request answer after,
        narrower before request answer after → env before request answer after)
    (safe : Safe env guarantee post command state) :
    Safe narrower guarantee post command state := by
  induction command generalizing state with
  | done value => exact safe
  | call request next ih =>
    intro answer after happened
    obtain ⟨met, rest⟩ := safe answer after (allowed _ _ _ _ happened)
    exact ⟨met, ih answer rest⟩

theorem safe_invariant {invariant : State → Prop}
    (preserved : ∀ before after, invariant before → guarantee before after → invariant after)
    (start : invariant state)
    (safe : Safe env guarantee post command state) :
    Safe env (fun before after => invariant after ∧ guarantee before after) post command state := by
  induction command generalizing state with
  | done value => exact safe
  | call request next ih =>
    intro answer after allowed
    obtain ⟨met, rest⟩ := safe answer after allowed
    have holds := preserved state after start met
    exact ⟨⟨holds, met⟩, ih answer holds rest⟩

theorem safe_and {another : State → State → Prop} {first second : α → State → Prop}
    (left : Safe env guarantee first command state)
    (right : Safe env another second command state) :
    Safe env (fun before after => guarantee before after ∧ another before after)
      (fun value after => first value after ∧ second value after)
      command state := by
  induction command generalizing state with
  | done value => exact ⟨left, right⟩
  | call request next ih =>
    intro answer after allowed
    obtain ⟨leftMet, leftRest⟩ := left answer after allowed
    obtain ⟨rightMet, rightRest⟩ := right answer after allowed
    exact ⟨⟨leftMet, rightMet⟩, ih answer leftRest rightRest⟩

theorem safe_keeps {invariant : State → Prop}
    (preserved : ∀ before after, invariant before → guarantee before after → invariant after)
    (start : invariant state)
    (safe : Safe env guarantee post command state) :
    Safe env guarantee (fun value after => invariant after ∧ post value after) command state := by
  induction command generalizing state with
  | done value => exact ⟨start, safe⟩
  | call request next ih =>
    intro answer after allowed
    obtain ⟨met, rest⟩ := safe answer after allowed
    exact ⟨met, ih answer (preserved state after start met) rest⟩

theorem safe_answers {allowed : (request : interface.Call) → interface.Answer request → Prop}
    (answers :
      ∀ before request answer after, env before request answer after → allowed request answer)
    (command : Command interface α) (state : State) :
    Safe env (fun _ _ => True)
      (fun value _ =>
        ∃ events, Trace command events value ∧ ∀ event ∈ events, allowed event.request event.answer)
      command state := by
  induction command generalizing state with
  | done value => exact ⟨[], .done value, fun event member => nomatch member⟩
  | call request next ih =>
    intro answer middle happened
    refine ⟨trivial, safe_mono (fun _ _ => id) ?_ (ih answer middle)⟩
    rintro value after ⟨events, trace, all⟩
    refine ⟨⟨request, answer⟩ :: events, .call request next answer events value trace, ?_⟩
    intro event member
    rcases List.mem_cons.mp member with rfl | later
    · exact answers _ _ _ _ happened
    · exact all event later

theorem safe_exec {handler : State → (request : interface.Call) → interface.Answer request × State}
    (answers :
      ∀ state request, env state request (handler state request).1 (handler state request).2)
    (safe : Safe env guarantee post command state) :
    post (exec handler command state).1 (exec handler command state).2 := by
  induction command generalizing state with
  | done value => exact safe
  | call request next ih => exact ih _ (safe _ _ (answers state request)).2

end Safe

/-- A part of a state that can be read and replaced. -/
structure View (Whole Part : Type) where
  get : Whole → Part
  set : Whole → Part → Whole
  get_set : ∀ whole part, get (set whole part) = part
  set_get : ∀ whole, set whole (get whole) = whole
  set_set : ∀ whole first second, set (set whole first) second = set whole second

section Embed

variable {source target : Interface} {Whole Part : Type}

/-- A command of one interface over another that offers its calls. -/
def embed (translate : (request : source.Call) → Command target (source.Answer request)) :
    Command source α → Command target α
  | .done value => .done value
  | .call request next => translate request >>= fun answer => embed translate (next answer)

variable {translate : (request : source.Call) → Command target (source.Answer request)}
  (view : View Whole Part)

theorem safe_embed {inner : Environment source Part} {outer : Environment target Whole}
    {partGuarantee : Part → Part → Prop}
    {guarantee : Whole → Whole → Prop}
    {post : α → Part → Prop}
    (simulates :
      ∀ whole request (after : source.Answer request → Whole → Prop),
        (∀ answer part, inner (view.get whole) request answer part →
          guarantee whole (view.set whole part) ∧ after answer (view.set whole part)) →
        Safe outer guarantee after (translate request) whole)
    (guaranteed :
      ∀ whole part, partGuarantee (view.get whole) part → guarantee whole (view.set whole part))
    {command : Command source α} {whole : Whole}
    (safe : Safe inner partGuarantee post command (view.get whole)) :
    Safe outer guarantee (fun value after => ∃ part, post value part ∧ after = view.set whole part)
      (embed translate command) whole := by
  induction command generalizing whole with
  | done value => exact ⟨_, safe, (view.set_get whole).symm⟩
  | call request next ih =>
    rw [embed]
    refine safe_bind
      (simulates whole request
        (fun answer after =>
          ∃ part, after = view.set whole part ∧
            Safe inner partGuarantee post (next answer) part) ?_) ?_
    · intro answer part allowed
      obtain ⟨met, rest⟩ := safe answer part allowed
      exact ⟨guaranteed whole part met, part, rfl, rest⟩
    · rintro answer _ ⟨part, rfl, rest⟩
      refine safe_mono (fun _ _ => id) ?_ (ih answer (by rwa [view.get_set]))
      rintro value _ ⟨last, holds, rfl⟩
      exact ⟨last, holds, view.set_set whole part last⟩

end Embed

end Command

section Machine

open Command

variable {interface : Interface} {Operation Result State : Type}

/-- An operation that has started: which one, in which state, and what is
left of it. -/
structure Running (interface : Interface) (Operation Result State : Type) where
  operation : Operation
  started : State
  rest : Command interface Result

structure Configuration (interface : Interface) (Operation Result State : Type) where
  running : Option (Running interface Operation Result State) := none
  state : State

/-- Operations run one at a time and one call at a time; a running one may
be stopped for good after any call. -/
inductive MachineStep (program : Operation → Command interface Result)
    (env : Environment interface State) :
    Configuration interface Operation Result State →
      Configuration interface Operation Result State → Prop
  | start (operation : Operation) (state : State) :
      MachineStep program env ⟨none, state⟩ ⟨some ⟨operation, state, program operation⟩, state⟩
  | call (operation : Operation) (started before after : State) (request : interface.Call)
      (next : interface.Answer request → Command interface Result)
      (answer : interface.Answer request)
      (allowed : env before request answer after) :
      MachineStep program env ⟨some ⟨operation, started, .call request next⟩, before⟩
        ⟨some ⟨operation, started, next answer⟩, after⟩
  | finish (operation : Operation) (started state : State) (value : Result) :
      MachineStep program env ⟨some ⟨operation, started, .done value⟩, state⟩ ⟨none, state⟩
  | stop (running : Running interface Operation Result State) (state : State) :
      MachineStep program env ⟨some running, state⟩ ⟨none, state⟩

/-- What holds of a configuration between two steps. -/
structure Sound (env : Environment interface State) (invariant : State → Prop)
    (guarantee : Operation → State → State → Prop)
    (post : Operation → State → Result → State → Prop)
    (configuration : Configuration interface Operation Result State) : Prop where
  holds : invariant configuration.state
  safe :
    ∀ running, configuration.running = some running →
      Safe env (fun before after => invariant after ∧ guarantee running.operation before after)
        (post running.operation running.started) running.rest
        configuration.state

variable {invariant : State → Prop} {guarantee : Operation → State → State → Prop}
  {post : Operation → State → Result → State → Prop}

theorem Sound.next {program : Operation → Command interface Result}
    {env : Environment interface State}
    {before after : Configuration interface Operation Result State}
    (sound : Sound env invariant guarantee post before)
    (safe :
      ∀ operation state, invariant state →
        Safe env (fun before after => invariant after ∧ guarantee operation before after)
          (post operation state) (program operation) state)
    (step : MachineStep program env before after) :
    Sound env invariant guarantee post after := by
  cases step with
  | start operation state =>
    refine ⟨sound.holds, ?_⟩
    intro running same
    rw [← Option.some.inj same]
    exact safe operation state sound.holds
  | call operation started before after request next answer allowed =>
    obtain ⟨⟨holds, _⟩, rest⟩ := sound.safe _ rfl answer after allowed
    refine ⟨holds, ?_⟩
    intro running same
    rw [← Option.some.inj same]
    exact rest
  | finish operation started state value =>
    exact ⟨sound.holds, fun running impossible => nomatch impossible⟩
  | stop running state => exact ⟨sound.holds, fun running impossible => nomatch impossible⟩

variable {configuration : Configuration interface Operation Result State}

/-- If every operation is safe from every state of the invariant, then every
reachable configuration is sound. -/
theorem machine_sound {program : Operation → Command interface Result}
    {env : Environment interface State}
    (safe :
      ∀ operation state, invariant state →
        Safe env (fun before after => invariant after ∧ guarantee operation before after)
          (post operation state) (program operation) state)
    {initial : State} (start : invariant initial)
    (reached : Relation.ReflTransGen (MachineStep program env) ⟨none, initial⟩ configuration) :
    Sound env invariant guarantee post configuration := by
  induction reached with
  | refl => exact ⟨start, fun running impossible => nomatch impossible⟩
  | tail _ step sound => exact sound.next safe step

/-- A call of the running operation meets its guarantee; any other step
leaves the state alone. -/
theorem Sound.step {program : Operation → Command interface Result}
    {env : Environment interface State}
    {before after : Configuration interface Operation Result State}
    (sound : Sound env invariant guarantee post before)
    (step : MachineStep program env before after) :
    after.state = before.state ∨
      ∃ running, before.running = some running ∧
        guarantee running.operation before.state after.state := by
  cases step with
  | start operation state => exact Or.inl rfl
  | call operation started state next request following answer allowed =>
    exact Or.inr ⟨_, rfl, (sound.safe _ rfl answer next allowed).1.2⟩
  | finish operation started state value | stop running state => exact Or.inl rfl

theorem Sound.returned {env : Environment interface State}
    {operation : Operation} {started : State} {value : Result}
    (sound : Sound env invariant guarantee post configuration)
    (ended : configuration.running = some ⟨operation, started, .done value⟩) :
    post operation started value configuration.state :=
  sound.safe _ ended

/-- A command after a number of calls that a handler answers. -/
def advance (handler : State → (request : interface.Call) → interface.Answer request × State) :
    Nat → Command interface Result → State → Command interface Result × State
  | 0, command, state => (command, state)
  | _ + 1, .done value, state => (.done value, state)
  | count + 1, .call request next, state =>
    advance handler count (next (handler state request).1) (handler state request).2

/-- One more call is one more step, unless the command has ended. -/
theorem advance_step {program : Operation → Command interface Result}
    {env : Environment interface State}
    {handler : State → (request : interface.Call) → interface.Answer request × State}
    (allowed :
      ∀ state request, env state request (handler state request).1 (handler state request).2)
    (operation : Operation) (started : State) (count : Nat)
    (command : Command interface Result) (state : State) :
    advance handler (count + 1) command state = advance handler count command state ∨
      MachineStep program env
        ⟨some ⟨operation, started, (advance handler count command state).1⟩,
          (advance handler count command state).2⟩
        ⟨some ⟨operation, started, (advance handler (count + 1) command state).1⟩,
          (advance handler (count + 1) command state).2⟩ := by
  induction count generalizing command state with
  | zero =>
    cases command with
    | done value => exact Or.inl rfl
    | call request next =>
      exact Or.inr (.call operation started state _ request next _ (allowed state request))
  | succ count ih =>
    cases command with
    | done value => exact Or.inl rfl
    | call request next => exact ih _ _

/-- Nothing runs but allowed operations. -/
def Runs (allowed : Operation → Prop)
    (configuration : Configuration interface Operation Result State) : Prop :=
  ∀ running, configuration.running = some running → allowed running.operation

section Driven

variable {program : Operation → Command interface Result} {env : Environment interface State}
  {handler : State → (request : interface.Call) → interface.Answer request × State}
  (answers : ∀ state request, env state request (handler state request).1 (handler state request).2)
  (allowed : Operation → Prop) {operation : Operation}
  (permitted : allowed operation)

include answers

theorem advance_reached (started : State) (count : Nat)
    (command : Command interface Result) (state : State) :
    Relation.ReflTransGen (MachineStep program env) ⟨some ⟨operation, started, command⟩, state⟩
      ⟨some ⟨operation, started, (advance handler count command state).1⟩,
        (advance handler count command state).2⟩ := by
  induction count generalizing command state with
  | zero => exact .refl
  | succ count ih =>
    cases command with
    | done value => exact .refl
    | call request next =>
      exact (ih _ _).head (.call operation started state _ request next _ (answers state request))

include permitted

theorem exec_reached (started : State) (command : Command interface Result) (state : State) :
    Relation.ReflTransGen
      (fun before after => MachineStep program env before after ∧ Runs allowed after)
      ⟨some ⟨operation, started, command⟩, state⟩
      ⟨some ⟨operation, started, .done (exec handler command state).1⟩,
        (exec handler command state).2⟩ := by
  induction command generalizing state with
  | done value => exact .refl
  | call request next ih =>
    refine (ih (handler state request).1 (handler state request).2).head ⟨?_, ?_⟩
    · exact .call operation started state _ request next _ (answers state request)
    · intro running same
      rw [← Option.some.inj same]
      exact permitted

theorem operation_ends (state : State) :
    Relation.ReflTransGen
      (fun before after => MachineStep program env before after ∧ Runs allowed after)
      ⟨none, state⟩
      ⟨some ⟨operation, state, .done (exec handler (program operation) state).1⟩,
        (exec handler (program operation) state).2⟩ := by
  refine (exec_reached answers allowed permitted state
    (program operation) state).head ⟨.start operation state, ?_⟩
  intro running same
  rw [← Option.some.inj same]
  exact permitted

theorem operation_runs (state : State) :
    Relation.ReflTransGen
      (fun before after => MachineStep program env before after ∧ Runs allowed after)
      ⟨none, state⟩
      ⟨none, (exec handler (program operation) state).2⟩ := by
  refine (operation_ends answers allowed permitted state).tail ⟨.finish operation state _ _, ?_⟩
  intro running impossible
  cases impossible

end Driven

end Machine

end HydraSeat.Foundation
