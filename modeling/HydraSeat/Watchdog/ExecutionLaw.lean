import HydraSeat.Watchdog.RollbackRegistry
import Mathlib.Data.List.Perm.Basic

/-!
# What the executions of one registry do

A run is any number of executions of a registered plan, whatever the clock
shows and whatever the executor answers; an execution may also end in the
middle because the executor throws.  The attempts of a run are read off its
events.
-/

namespace HydraSeat.Watchdog

open Foundation
open Foundation.Command List

namespace RollbackRegistry

inductive RollbackCall where
  | steadyClock
  | invoke (action : RollbackActionDescriptor) (timeoutMilliseconds : UInt32)

def rollbackCalls : Interface where
  Call := RollbackCall
  Answer
    | .steadyClock => Int
    | .invoke _ _ => RollbackActionOutcome

def steadyClock : Command rollbackCalls Int := @ask rollbackCalls .steadyClock

def invoke (action : RollbackActionDescriptor) (timeoutMilliseconds : UInt32) :
    Command rollbackCalls RollbackActionOutcome :=
  @ask rollbackCalls (.invoke action timeoutMilliseconds)

/-- A call of the executor, with the milliseconds that the execution had
taken at the reading of the clock before it.  There is no outcome when the
executor throws. -/
structure Attempt where
  action : RollbackActionDescriptor
  timeoutMilliseconds : UInt32
  elapsed : Int
  outcome : Option RollbackActionOutcome

def Attempt.succeeded (attempt : Attempt) : Bool :=
  attempt.outcome.any fun outcome => satisfied outcome.result

def attemptsFrom (started latest : Int) : List (Event rollbackCalls) → List Attempt
  | [] => []
  | ⟨.steadyClock, reading⟩ :: events => attemptsFrom started reading events
  | ⟨.invoke action timeoutMilliseconds, outcome⟩ :: events =>
    { action := action, timeoutMilliseconds := timeoutMilliseconds
      elapsed := elapsedMilliseconds started latest, outcome := some outcome } ::
      attemptsFrom started latest events

/-- The first reading of the clock is the start of the execution. -/
def attempts : List (Event rollbackCalls) → List Attempt
  | ⟨.steadyClock, started⟩ :: events => attemptsFrom started started events
  | events => attemptsFrom 0 0 events

/-- The attempts of one execution and the summary it returned, if it did. -/
structure Execution where
  attempts : List Attempt
  summary : Option RollbackExecutionSummary

/-- One execution of a registry.  When the executor throws, the actions
satisfied before stay recorded and there is no summary. -/
inductive Executes (self : RollbackRegistry) : Execution → RollbackRegistry → Prop
  | returned {events : List (Event rollbackCalls)}
      {summary : RollbackExecutionSummary} {after : RollbackRegistry}
      (trace : Trace (self.execute steadyClock invoke) events (summary, after)) :
      Executes self ⟨attempts events, some summary⟩ after
  | thrown {manifest : RollbackPlanManifest} {started reading : Int}
      {before rest : List RollbackActionDescriptor}
      {action : RollbackActionDescriptor}
      {rounds : List (Event rollbackCalls)} {progress : Progress}
      {timeoutMilliseconds : UInt32}
      (armed : self.manifest = some manifest)
      (split : ordered manifest = before ++ action :: rest)
      (finished :
        Trace
          (executeActions steadyClock invoke manifest.rollbackTimeoutMilliseconds.toNat started
            { completedActionIds := self.completedActionIds } before)
          rounds progress)
      (stopped :
        Awaits
          (executeAction steadyClock invoke
            manifest.rollbackTimeoutMilliseconds.toNat started progress
            action)
          [⟨.steadyClock, reading⟩]
          (.invoke action timeoutMilliseconds)) :
      Executes self
        { attempts :=
            attemptsFrom started started rounds ++
              [{ action := action, timeoutMilliseconds := timeoutMilliseconds
                 elapsed := elapsedMilliseconds started reading, outcome := none }]
          summary := none }
        { self with completedActionIds := progress.completedActionIds }

inductive Executions : RollbackRegistry → List Execution → RollbackRegistry → Prop
  | none (self : RollbackRegistry) : Executions self [] self
  | more {self middle final : RollbackRegistry} {execution : Execution}
      {executions : List Execution}
      (first : Executes self execution middle)
      (rest : Executions middle executions final) :
      Executions self (execution :: executions) final

/-- Some attempt satisfied the action. -/
def SatisfiedIn (attempts : List Attempt) (action : RollbackActionDescriptor) : Prop :=
  ∃ attempt ∈ attempts, attempt.action = action ∧ attempt.succeeded = true

/-- What the outcome of an action tells of it: it was satisfied before the
execution, it was attempted in it with that outcome, or the budget had run
out before it. -/
inductive OutcomeOf (satisfiedBefore : RollbackActionDescriptor → Prop)
    (attempts : List Attempt) (action : RollbackActionDescriptor) :
    RollbackActionOutcome → Prop
  | remembered (earlier : satisfiedBefore action) :
      OutcomeOf satisfiedBefore attempts action (makeOutcome action .alreadySatisfied)
  | attempted {attempt : Attempt} {outcome : RollbackActionOutcome}
      (member : attempt ∈ attempts) (same : attempt.action = action)
      (answered : attempt.outcome = some outcome) :
      OutcomeOf satisfiedBefore attempts action outcome
  | late (outstanding : ¬ satisfiedBefore action)
      (skipped : ∀ attempt ∈ attempts, attempt.action ≠ action) :
      OutcomeOf satisfiedBefore attempts action (makeOutcome action .timedOut)

/-- A call of the executor gets some time, and no more than the action and
the budget have. -/
structure WithinBudget (totalBudget : Int) (attempt : Attempt) : Prop where
  positive : 0 < attempt.timeoutMilliseconds
  own : attempt.timeoutMilliseconds ≤ attempt.action.timeoutMilliseconds
  remaining : (attempt.timeoutMilliseconds.toNat : Int) ≤ totalBudget - attempt.elapsed

/-- What one execution does, after the attempts of `history`. -/
structure LawfulExecution (manifest : RollbackPlanManifest) (history : List Attempt)
    (execution : Execution) : Prop where
  registered : ∀ attempt ∈ execution.attempts, attempt.action ∈ manifest.actions
  descending :
    execution.attempts.Pairwise fun earlier later =>
      later.action.activationOrdinal < earlier.action.activationOrdinal
  outstanding : ∀ attempt ∈ execution.attempts, ¬ SatisfiedIn history attempt.action
  timeouts :
    ∀ attempt ∈ execution.attempts, WithinBudget manifest.rollbackTimeoutMilliseconds.toNat attempt
  outcomes :
    ∀ summary ∈ execution.summary,
      List.Forall₂ (OutcomeOf (SatisfiedIn history) execution.attempts)
        (ordered manifest) summary.outcomes
  allSatisfied :
    ∀ summary ∈ execution.summary,
      (summary.allSatisfied = true ↔
        ∀ action ∈ manifest.actions, SatisfiedIn (history ++ execution.attempts) action)
  recoveryRequired :
    ∀ summary ∈ execution.summary,
      (summary.recoveryRequired = true ↔
        ¬ ∀ action ∈ manifest.actions, SatisfiedIn (history ++ execution.attempts) action)

section Round

variable {totalBudget started reading latest : Int}
  {progress next : Progress} {action : RollbackActionDescriptor}
  {events : List (Event rollbackCalls)}
variable {timeoutMilliseconds : UInt32}

theorem trace_steadyClock (trace : Trace steadyClock events reading) :
    events = [⟨.steadyClock, reading⟩] := by
  obtain ⟨answer, rest, rfl, continued⟩ := trace_call_iff.mp trace
  cases continued
  rfl

theorem trace_invoke {outcome : RollbackActionOutcome}
    (trace : Trace (invoke action timeoutMilliseconds) events outcome) :
    events = [⟨.invoke action timeoutMilliseconds, outcome⟩] := by
  obtain ⟨answer, rest, rfl, continued⟩ := trace_call_iff.mp trace
  cases continued
  rfl

/-- The bounded timeout is never cut off by its 32 bits. -/
theorem boundedTimeout_within {elapsed : Int} (outcome : Option RollbackActionOutcome)
    (early : ¬ elapsed ≥ totalBudget)
    (someTime : boundedTimeout action totalBudget elapsed ≠ 0) :
    WithinBudget totalBudget
      { action := action, timeoutMilliseconds := boundedTimeout action totalBudget elapsed
        elapsed := elapsed, outcome := outcome } := by
  have bounded := action.timeoutMilliseconds.toNat_lt
  have value :
      (boundedTimeout action totalBudget elapsed).toNat =
        min action.timeoutMilliseconds.toNat (totalBudget - elapsed).toNat := by
    unfold boundedTimeout
    apply UInt32.toNat_ofNat_of_lt'
    change _ < 2 ^ 32
    omega
  refine ⟨UInt32.pos_iff_ne_zero.mpr someTime, ?_, ?_⟩
  · rw [UInt32.le_iff_toNat_le]
    dsimp only
    omega
  · dsimp only
    omega

inductive Round (totalBudget started : Int) (progress : Progress)
    (action : RollbackActionDescriptor) :
    List (Event rollbackCalls) → Progress → Prop
  | skipped (completed : action.actionId ∈ progress.completedActionIds) :
      Round totalBudget started progress action []
        (progress.skip (makeOutcome action .alreadySatisfied))
  | late {reading : Int} (fresh : action.actionId ∉ progress.completedActionIds) :
      Round totalBudget started progress action [⟨.steadyClock, reading⟩] (progress.timeOut action)
  | attempted {reading : Int} {attempt : Attempt} {outcome : RollbackActionOutcome}
      (fresh : action.actionId ∉ progress.completedActionIds)
      (same : attempt.action = action)
      (measured : attempt.elapsed = elapsedMilliseconds started reading)
      (answered : attempt.outcome = some outcome)
      (within : WithinBudget totalBudget attempt) :
      Round totalBudget started progress action
        [⟨.steadyClock, reading⟩, ⟨.invoke action attempt.timeoutMilliseconds, outcome⟩]
        (if satisfied outcome.result then progress.complete action outcome
          else progress.fail action outcome)

theorem executeAction_round (known : isKnownRollbackActionKind action.kind = true)
    (trace :
      Trace (executeAction steadyClock invoke totalBudget started progress action) events next) :
    Round totalBudget started progress action events next := by
  unfold executeAction at trace
  split at trace
  next completed =>
    cases trace
    exact .skipped completed
  next fresh =>
    obtain ⟨clock, rest, reading, rfl, read, continued⟩ := trace_bind_iff.mp trace
    rw [trace_steadyClock read]
    dsimp only at continued
    split at continued
    · cases continued
      exact .late fresh
    next early =>
      split at continued
      · cases continued
        exact .late fresh
      next someTime =>
        obtain ⟨during, after, outcome, rfl, executed, last⟩ := trace_bind_iff.mp continued
        unfold executeOne at executed
        rw [if_pos known] at executed
        rw [trace_invoke executed]
        have round :
            Round totalBudget started progress action
              [⟨.steadyClock, reading⟩, ⟨.invoke action _, outcome⟩]
              _ :=
          .attempted fresh rfl rfl rfl (boundedTimeout_within (some outcome) early someTime)
        split at last
        next holds =>
          cases last
          rw [if_pos holds] at round
          exact round
        next fails =>
          cases last
          rw [if_neg fails] at round
          exact round

theorem executeAction_awaits {other : RollbackActionDescriptor}
    (known : isKnownRollbackActionKind action.kind = true)
    (stopped :
      Awaits (executeAction steadyClock invoke totalBudget started progress action)
        [⟨.steadyClock, reading⟩] (.invoke other timeoutMilliseconds)) :
    other = action ∧ action.actionId ∉ progress.completedActionIds ∧
      WithinBudget totalBudget
        { action := action, timeoutMilliseconds := timeoutMilliseconds
          elapsed := elapsedMilliseconds started reading, outcome := none } := by
  unfold executeAction at stopped
  split at stopped
  · exact absurd stopped not_awaits_pure
  next fresh =>
    rcases awaits_bind stopped with
      clock | ⟨first, second, answer, split, read, continued⟩
    · cases clock with
      | later _ _ _ _ _ rest => exact absurd rest not_awaits_pure
    rw [trace_steadyClock read] at split
    obtain ⟨same, rfl⟩ := cons.inj split
    cases same
    dsimp only at continued
    split at continued
    · exact absurd continued not_awaits_pure
    next early =>
      split at continued
      · exact absurd continued not_awaits_pure
      next someTime =>
        rcases awaits_bind continued with
          invoked | ⟨during, after, outcome, split, _, last⟩
        · unfold executeOne at invoked
          rw [if_pos known] at invoked
          cases invoked
          exact ⟨rfl, fresh, boundedTimeout_within none early someTime⟩
        · split at last
          · exact absurd last not_awaits_pure
          · exact absurd last not_awaits_pure

end Round

/-- What the attempts of some rounds over `actions` do to the completed
identifiers. -/
structure AttemptsLaw (totalBudget : Int) (actions : List RollbackActionDescriptor)
    (before after : List UInt32) (attempts : List Attempt) : Prop where
  sublist : (attempts.map (·.action)).Sublist actions
  fresh : ∀ attempt ∈ attempts, attempt.action.actionId ∉ before
  within : ∀ attempt ∈ attempts, WithinBudget totalBudget attempt
  completed :
    ∀ actionId, actionId ∈ after ↔
      actionId ∈ before ∨
        ∃ attempt ∈ attempts, attempt.succeeded = true ∧ attempt.action.actionId = actionId
  nodup : before.Nodup → after.Nodup

/-- What finished rounds add to the summary. -/
structure RoundsLaw (totalBudget : Int) (actions : List RollbackActionDescriptor)
    (progress final : Progress) (attempts : List Attempt) : Prop extends
    AttemptsLaw totalBudget actions progress.completedActionIds
      final.completedActionIds attempts where
  outcomes :
    ∃ outcomes,
      final.summary.outcomes = progress.summary.outcomes ++ outcomes ∧
        List.Forall₂ (OutcomeOf (·.actionId ∈ progress.completedActionIds) attempts)
          actions outcomes
  required :
    final.summary.recoveryRequired = true ↔
      progress.summary.recoveryRequired = true ∨
        ∃ action ∈ actions, action.actionId ∉ final.completedActionIds

theorem AttemptsLaw.nil (totalBudget : Int) (completed : List UInt32)
    (actions : List RollbackActionDescriptor) :
    AttemptsLaw totalBudget actions completed completed [] where
  sublist := nil_sublist actions
  fresh _ member := absurd member not_mem_nil
  within _ member := absurd member not_mem_nil
  completed := by simp
  nodup := id

section Append

variable {totalBudget : Int} {first second : List RollbackActionDescriptor}
  {firstAttempts secondAttempts : List Attempt}
variable {before after : List UInt32}

theorem AttemptsLaw.append {middle : List UInt32}
    (earlier : AttemptsLaw totalBudget first before middle firstAttempts)
    (later : AttemptsLaw totalBudget second middle after secondAttempts) :
    AttemptsLaw totalBudget (first ++ second) before after (firstAttempts ++ secondAttempts) where
  sublist := by
    rw [map_append]
    exact earlier.sublist.append later.sublist
  fresh := by
    intro attempt member old
    rcases mem_append.mp member with member | member
    · exact earlier.fresh attempt member old
    · exact later.fresh attempt member ((earlier.completed _).mpr (Or.inl old))
  within := by
    intro attempt member
    rcases mem_append.mp member with member | member
    · exact earlier.within attempt member
    · exact later.within attempt member
  completed := by
    intro actionId
    rw [later.completed, earlier.completed, or_assoc]
    simp only [mem_append, or_and_right, exists_or]
  nodup := fun unique => later.nodup (earlier.nodup unique)

theorem AttemptsLaw.action_mem (law : AttemptsLaw totalBudget first before after firstAttempts)
    {attempt : Attempt} (member : attempt ∈ firstAttempts) :
    attempt.action ∈ first :=
  law.sublist.subset (mem_map_of_mem member)

/-- An identifier that no action of the later rounds has keeps its state in
them. -/
theorem AttemptsLaw.completed_of_other
    (law : AttemptsLaw totalBudget first before after firstAttempts)
    {actionId : UInt32}
    (other : ∀ action ∈ first, action.actionId ≠ actionId) :
    actionId ∈ after ↔ actionId ∈ before := by
  rw [law.completed]
  constructor
  · rintro (old | ⟨attempt, member, _, same⟩)
    · exact old
    · exact absurd same (other _ (law.action_mem member))
  · exact Or.inl

theorem OutcomeOf.weaken {before after : RollbackActionDescriptor → Prop}
    {attempts more : List Attempt} {action : RollbackActionDescriptor}
    {outcome : RollbackActionOutcome}
    (outcomeOf : OutcomeOf before attempts action outcome)
    (same : before action ↔ after action)
    (longer : ∀ attempt ∈ attempts, attempt ∈ more)
    (others : ∀ attempt ∈ more, attempt ∈ attempts ∨ attempt.action ≠ action) :
    OutcomeOf after more action outcome := by
  cases outcomeOf with
  | remembered earlier => exact .remembered (same.mp earlier)
  | attempted member equal answered => exact .attempted (longer _ member) equal answered
  | late outstanding skipped =>
    refine .late (fun done => outstanding (same.mpr done)) ?_
    intro attempt member
    rcases others attempt member with old | other
    · exact skipped attempt old
    · exact other

theorem forall₂_imp_of_mem {α β : Type} {R S : α → β → Prop} {left : List α} {right : List β}
    (related : List.Forall₂ R left right)
    (implies : ∀ a ∈ left, ∀ b, R a b → S a b) :
    List.Forall₂ S left right := by
  have members := (forall₂_and_left (p := (· ∈ left)) left right).mpr
    ⟨fun _ member => member, related⟩
  exact members.imp fun a b both => implies a both.1 b both.2

theorem RoundsLaw.append {progress middle final : Progress}
    (earlier : RoundsLaw totalBudget first progress middle firstAttempts)
    (later : RoundsLaw totalBudget second middle final secondAttempts)
    (apart : ∀ action ∈ first, ∀ other ∈ second, action.actionId ≠ other.actionId) :
    RoundsLaw totalBudget (first ++ second) progress final (firstAttempts ++ secondAttempts) where
  toAttemptsLaw := earlier.toAttemptsLaw.append later.toAttemptsLaw
  outcomes := by
    obtain ⟨firstOutcomes, firstGrown, firstOf⟩ := earlier.outcomes
    obtain ⟨secondOutcomes, secondGrown, secondOf⟩ := later.outcomes
    refine ⟨firstOutcomes ++ secondOutcomes, ?_, ?_⟩
    · rw [secondGrown, firstGrown, append_assoc]
    refine rel_append ?_ ?_
    · refine forall₂_imp_of_mem firstOf ?_
      intro action member outcome outcomeOf
      refine outcomeOf.weaken Iff.rfl (fun _ => mem_append_left _) ?_
      intro attempt attempted
      refine (mem_append.mp attempted).imp_right ?_
      intro attempted same
      exact apart action member _ (later.action_mem attempted) (same ▸ rfl)
    · refine forall₂_imp_of_mem secondOf ?_
      intro action member outcome outcomeOf
      refine outcomeOf.weaken ?_ (fun _ => mem_append_right _) ?_
      · exact earlier.completed_of_other fun other early => apart other early action member
      · intro attempt attempted
        refine (mem_append.mp attempted).symm.imp_right ?_
        intro attempted same
        exact apart _ (earlier.action_mem attempted) action member (same ▸ rfl)
  required := by
    rw [later.required, earlier.required, or_assoc]
    refine or_congr_right ?_
    have kept :
        ∀ action ∈ first,
          (action.actionId ∉ middle.completedActionIds ↔
            action.actionId ∉ final.completedActionIds) := by
      intro action member
      refine not_congr (later.completed_of_other ?_).symm
      intro other late
      exact (apart action member other late).symm
    constructor
    · rintro (⟨action, member, open_⟩ | ⟨action, member, open_⟩)
      · exact ⟨action, mem_append_left _ member, (kept action member).mp open_⟩
      · exact ⟨action, mem_append_right _ member, open_⟩
    · rintro ⟨action, member, open_⟩
      rcases mem_append.mp member with member | member
      · exact Or.inl ⟨action, member, (kept action member).mpr open_⟩
      · exact Or.inr ⟨action, member, open_⟩

end Append

section Rounds

variable {totalBudget started : Int} {progress next final : Progress}
  {action : RollbackActionDescriptor}
  {events : List (Event rollbackCalls)}

theorem RoundsLaw.nil (progress : Progress) : RoundsLaw totalBudget [] progress progress [] where
  toAttemptsLaw := .nil totalBudget progress.completedActionIds []
  outcomes := ⟨[], (append_nil _).symm, .nil⟩
  required := by simp

/-- An attempt of an outstanding action, with what it leaves completed. -/
theorem AttemptsLaw.single {completed : List UInt32} {attempt : Attempt}
    (fresh : action.actionId ∉ completed)
    (same : attempt.action = action)
    (within : WithinBudget totalBudget attempt) :
    AttemptsLaw totalBudget [action] completed
      (if attempt.succeeded then action.actionId :: completed
        else completed)
      [attempt] where
  sublist := by rw [← same]; exact List.Sublist.refl _
  fresh := by
    intro other member
    rw [mem_singleton.mp member, same]
    exact fresh
  within := by
    intro other member
    rw [mem_singleton.mp member]
    exact within
  completed := by
    intro actionId
    rw [← same]
    split
    next succeeded =>
      rw [mem_cons, or_comm]
      refine or_congr_right ?_
      simp only [mem_singleton, exists_eq_left, succeeded, true_and]
      exact eq_comm
    next failed => simp [failed]
  nodup := by
    intro unique
    split
    · exact nodup_cons.mpr ⟨fresh, unique⟩
    · exact unique

theorem Round.law (round : Round totalBudget started progress action events next) (latest : Int) :
    RoundsLaw totalBudget [action] progress next (attemptsFrom started latest events) := by
  cases round with
  | skipped completed =>
    exact
      { toAttemptsLaw := .nil totalBudget _ _
        outcomes := ⟨[_], rfl, .cons (.remembered completed) .nil⟩
        required := by simp [Progress.skip, completed] }
  | late fresh =>
    exact
      { toAttemptsLaw := .nil totalBudget _ _
        outcomes :=
          ⟨[_], rfl, .cons (.late fresh fun _ member => absurd member not_mem_nil) .nil⟩
        required := by simp [Progress.timeOut, fresh] }
  | @attempted reading attempt outcome fresh same measured answered within =>
    have attempts :
        attemptsFrom started latest
            [⟨.steadyClock, reading⟩, ⟨.invoke action attempt.timeoutMilliseconds, outcome⟩] =
          [attempt] := by
      subst same
      cases attempt
      dsimp only at measured answered
      rw [measured, answered]
      rfl
    have succeeded : attempt.succeeded = satisfied outcome.result := by
      unfold Attempt.succeeded
      rw [answered]
      rfl
    have law := AttemptsLaw.single fresh same within
    rw [attempts]
    rw [succeeded] at law
    have outcomeOf :
        List.Forall₂
          (OutcomeOf (·.actionId ∈ progress.completedActionIds) [attempt]) [action] [outcome] :=
      .cons (.attempted (mem_singleton.mpr rfl) same answered) .nil
    split
    next holds =>
      rw [if_pos holds] at law
      exact
        { toAttemptsLaw := law, outcomes := ⟨[outcome], rfl, outcomeOf⟩
          required := by simp [Progress.complete] }
    next fails =>
      rw [if_neg fails] at law
      exact
        { toAttemptsLaw := law, outcomes := ⟨[outcome], rfl, outcomeOf⟩
          required := by simp [Progress.fail, fresh] }

theorem attemptsFrom_append (started latest : Int) (first second : List (Event rollbackCalls)) :
    ∃ reading,
      attemptsFrom started latest (first ++ second) =
        attemptsFrom started latest first ++ attemptsFrom started reading second := by
  induction first generalizing latest with
  | nil => exact ⟨latest, rfl⟩
  | cons event first ih =>
    obtain ⟨request, answer⟩ := event
    cases request with
    | steadyClock => exact ih answer
    | invoke action timeoutMilliseconds =>
      obtain ⟨reading, split⟩ := ih latest
      exact ⟨reading, congrArg (cons _) split⟩

theorem executeActions_law {actions : List RollbackActionDescriptor}
    (known : ∀ action ∈ actions, isKnownRollbackActionKind action.kind = true)
    (unique : (actions.map (·.actionId)).Nodup)
    (trace :
      Trace (executeActions steadyClock invoke totalBudget started progress actions) events final)
    (latest : Int) :
    RoundsLaw totalBudget actions progress final (attemptsFrom started latest events) := by
  induction actions generalizing progress events latest with
  | nil =>
    obtain ⟨rfl, rfl⟩ := trace_pure_iff.mp trace
    exact .nil progress
  | cons action actions ih =>
    obtain ⟨first, second, next, rfl, round, continued⟩ := trace_bind_iff.mp trace
    obtain ⟨headFresh, tailUnique⟩ := nodup_cons.mp unique
    obtain ⟨reading, split⟩ := attemptsFrom_append started latest first second
    rw [split]
    have head := (executeAction_round (known action mem_cons_self) round).law latest
    have rest := ih (fun other member => known other (mem_cons_of_mem _ member))
      tailUnique continued reading
    refine head.append rest ?_
    intro earlier member later laterMember same
    rw [mem_singleton.mp member] at same
    exact headFresh (mem_map.mpr ⟨later, laterMember, same.symm⟩)

end Rounds

structure Remembers (manifest : RollbackPlanManifest) (history : List Attempt)
    (registry : RollbackRegistry) : Prop where
  armed : registry.manifest = some manifest
  registered : ∀ attempt ∈ history, attempt.action ∈ manifest.actions
  completed :
    ∀ actionId, actionId ∈ registry.completedActionIds ↔
      ∃ attempt ∈ history, attempt.succeeded = true ∧ attempt.action.actionId = actionId
  nodup : registry.completedActionIds.Nodup

section Execution

variable {manifest : RollbackPlanManifest} {history : List Attempt} {self after : RollbackRegistry}

theorem ordered_perm (manifest : RollbackPlanManifest) : (ordered manifest).Perm manifest.actions :=
  perm_insertionSort _ _

instance : Std.Total laterFirst where
  total left right := UInt32.le_total right.activationOrdinal left.activationOrdinal

instance : IsTrans RollbackActionDescriptor laterFirst where
  trans _ _ _ first second := UInt32.le_trans second first

section

variable (plan : ValidPlan manifest)
include plan

theorem ordered_descending :
    (ordered manifest).Pairwise fun earlier later =>
      later.activationOrdinal < earlier.activationOrdinal := by
  have sorted : (ordered manifest).Pairwise laterFirst :=
    pairwise_insertionSort laterFirst manifest.actions
  have unique :
      (ordered manifest).Pairwise fun earlier later =>
        earlier.activationOrdinal ≠ later.activationOrdinal := by
    have nodup := ((ordered_perm manifest).map (·.activationOrdinal)).nodup_iff.mpr plan.ordinals
    exact pairwise_map.mp nodup
  refine sorted.imp₂ ?_ unique
  intro earlier later above apart
  exact UInt32.lt_of_le_of_ne above apart.symm

theorem action_eq_of_actionId {action other : RollbackActionDescriptor}
    (member : action ∈ manifest.actions)
    (otherMember : other ∈ manifest.actions)
    (same : action.actionId = other.actionId) :
    action = other :=
  inj_on_of_nodup_map plan.actionIds member otherMember same

section

variable (remembers : Remembers manifest history self)
include remembers

theorem Remembers.satisfiedIn_iff {action : RollbackActionDescriptor}
    (member : action ∈ manifest.actions) :
    action.actionId ∈ self.completedActionIds ↔ SatisfiedIn history action := by
  rw [remembers.completed]
  constructor
  · rintro ⟨attempt, attempted, succeeded, same⟩
    have equal := action_eq_of_actionId plan (remembers.registered attempt attempted) member same
    exact ⟨attempt, attempted, equal, succeeded⟩
  · rintro ⟨attempt, attempted, equal, succeeded⟩
    exact ⟨attempt, attempted, succeeded, equal ▸ rfl⟩

/-- What the attempts of an execution are, and what the registry knows after
them. -/
theorem AttemptsLaw.execution {totalBudget : Int} {actions : List RollbackActionDescriptor}
    {completed : List UInt32} {attempts : List Attempt}
    (law : AttemptsLaw totalBudget actions self.completedActionIds completed attempts)
    (part : actions.Sublist (ordered manifest)) :
    (∀ attempt ∈ attempts, attempt.action ∈ manifest.actions) ∧
      attempts.Pairwise (fun earlier later =>
        later.action.activationOrdinal < earlier.action.activationOrdinal) ∧
      (∀ attempt ∈ attempts, ¬ SatisfiedIn history attempt.action) ∧
      Remembers manifest (history ++ attempts) { self with completedActionIds := completed } := by
  have registered : ∀ attempt ∈ attempts, attempt.action ∈ manifest.actions :=
    fun attempt member => (ordered_perm manifest).mem_iff.mp (part.subset (law.action_mem member))
  refine ⟨registered, ?_, ?_, ?_⟩
  · exact pairwise_map.mp ((ordered_descending plan).sublist (law.sublist.trans part))
  · intro attempt member done
    exact law.fresh attempt member
      ((remembers.satisfiedIn_iff plan (registered attempt member)).mpr done)
  exact
    { armed := remembers.armed
      registered := by
        intro attempt member
        rcases mem_append.mp member with member | member
        · exact remembers.registered attempt member
        · exact registered attempt member
      completed := by
        intro actionId
        rw [law.completed, remembers.completed]
        simp only [mem_append, or_and_right, exists_or]
      nodup := law.nodup remembers.nodup }

/-- Every registered action is completed exactly when the loop asks for no
recovery; the size of the set then says so. -/
theorem completed_length
    (all : ∀ action ∈ manifest.actions, action.actionId ∈ self.completedActionIds) :
    self.completedActionIds.length = manifest.actions.length := by
  have permuted : self.completedActionIds.Perm (manifest.actions.map (·.actionId)) := by
    refine (perm_ext_iff_of_nodup remembers.nodup plan.actionIds).mpr ?_
    intro actionId
    constructor
    · intro member
      obtain ⟨attempt, attempted, _, same⟩ := (remembers.completed actionId).mp member
      exact mem_map.mpr ⟨_, remembers.registered attempt attempted, same⟩
    · intro member
      obtain ⟨action, registered, rfl⟩ := mem_map.mp member
      exact all action registered
  rw [permuted.length_eq, length_map]

theorem execute_law {events : List (Event rollbackCalls)} {summary : RollbackExecutionSummary}
    (trace : Trace (self.execute steadyClock invoke) events (summary, after)) :
    LawfulExecution manifest history ⟨attempts events, some summary⟩ ∧
      Remembers manifest (history ++ attempts events) after := by
  unfold execute at trace
  rw [remembers.armed] at trace
  obtain ⟨clock, rest, started, rfl, read, continued⟩ := trace_bind_iff.mp trace
  obtain ⟨rounds, last, progress, rfl, looped, returned⟩ := trace_bind_iff.mp continued
  obtain ⟨rfl, same⟩ := trace_pure_iff.mp returned
  obtain ⟨rfl, rfl⟩ := Prod.mk.inj same
  rw [trace_steadyClock read, append_nil]
  have perm := ordered_perm manifest
  have law := executeActions_law
    (fun action member => (plan.actions action (perm.mem_iff.mp member)).known)
    ((perm.map _).nodup_iff.mpr plan.actionIds) looped started
  obtain ⟨registered, descending, outstanding, remembered⟩ :=
    law.toAttemptsLaw.execution plan remembers (List.Sublist.refl _)
  rw [remembers.armed] at remembered
  have satisfied_iff :
      (∀ action ∈ manifest.actions,
        SatisfiedIn (history ++ attemptsFrom started started rounds) action) ↔
      ∀ action ∈ manifest.actions, action.actionId ∈ progress.completedActionIds := by
    refine forall₂_congr fun action member => ?_
    exact (remembered.satisfiedIn_iff plan member).symm
  have required_iff :
      progress.summary.recoveryRequired = true ↔
        ¬ ∀ action ∈ manifest.actions, action.actionId ∈ progress.completedActionIds := by
    rw [law.required]
    simp [perm.mem_iff]
  refine ⟨⟨registered, descending, outstanding, law.within, ?_, ?_, ?_⟩, remembered⟩
  · rintro _ ⟨⟩
    obtain ⟨outcomes, grown, outcomesOf⟩ := law.outcomes
    dsimp only at grown ⊢
    rw [grown, nil_append]
    refine forall₂_imp_of_mem outcomesOf ?_
    intro action member outcome outcomeOf
    exact outcomeOf.weaken (remembers.satisfiedIn_iff plan (perm.mem_iff.mp member))
      (fun _ attempted => attempted) (fun _ => Or.inl)
  · rintro _ ⟨⟩
    refine Iff.trans ?_ satisfied_iff.symm
    dsimp only
    rw [Bool.and_eq_true, Bool.not_eq_eq_eq_not, Bool.not_true,
      ← Bool.not_eq_true, required_iff, not_not, beq_iff_eq]
    exact and_iff_left_of_imp (completed_length plan remembered)
  · rintro _ ⟨⟩
    exact required_iff.trans (not_congr satisfied_iff).symm

theorem executes_law {execution : Execution} (executes : Executes self execution after) :
    LawfulExecution manifest history execution ∧
      Remembers manifest (history ++ execution.attempts) after := by
  cases executes with
  | returned trace => exact execute_law plan remembers trace
  | @thrown registered started reading before rest action rounds progress
      timeoutMilliseconds armed split finished stopped =>
      obtain rfl : manifest = registered := Option.some.inj (remembers.armed.symm.trans armed)
      have perm := ordered_perm manifest
      have known : ∀ other ∈ ordered manifest, isKnownRollbackActionKind other.kind = true :=
        fun other member => (plan.actions other (perm.mem_iff.mp member)).known
      have unique : ((ordered manifest).map (·.actionId)).Nodup :=
        (perm.map _).nodup_iff.mpr plan.actionIds
      rw [split] at known unique
      rw [map_append] at unique
      have rounds := executeActions_law (fun other member => known other (mem_append_left _ member))
        unique.of_append_left finished started
      obtain ⟨_, fresh, within⟩ := executeAction_awaits
        (known action (mem_append_right _ mem_cons_self)) stopped
      have law := rounds.toAttemptsLaw.append (AttemptsLaw.single fresh rfl within)
      obtain ⟨registered, descending, outstanding, remembered⟩ :=
        law.execution plan remembers (by
          rw [split]
          exact (List.Sublist.refl before).append (singleton_sublist.mpr mem_cons_self))
      exact ⟨⟨registered, descending, outstanding, law.within, nofun, nofun, nofun⟩, remembered⟩

/-- A satisfied action is not attempted again, and every execution of the
run is lawful after the attempts of the executions before it. -/
theorem Executions.law {executions : List Execution} (run : Executions self executions after) :
    (∀ attempt ∈ executions.flatMap (·.attempts), ¬ SatisfiedIn history attempt.action) ∧
    (executions.flatMap (·.attempts)).Pairwise (fun earlier later =>
      earlier.succeeded = true → later.action ≠ earlier.action) ∧
    ∀ before execution rest, executions = before ++ execution :: rest →
      LawfulExecution manifest (history ++ before.flatMap (·.attempts)) execution := by
  induction run generalizing history with
  | none => exact ⟨fun _ member => absurd member not_mem_nil, .nil, by simp⟩
  | @more self middle final execution executions first rest ih =>
    obtain ⟨lawful, remembered⟩ := executes_law plan remembers first
    obtain ⟨laterOutstanding, laterOnce, laterLawful⟩ := ih remembered
    refine ⟨?_, ?_, ?_⟩
    · intro attempt member done
      rcases mem_append.mp member with member | member
      · exact lawful.outstanding attempt member done
      · obtain ⟨old, oldMember, same⟩ := done
        exact laterOutstanding attempt member ⟨old, mem_append_left _ oldMember, same⟩
    · refine pairwise_append.mpr ⟨?_, laterOnce, ?_⟩
      · refine lawful.descending.imp ?_
        intro earlier later below _ same
        rw [same] at below
        exact absurd below (UInt32.lt_irrefl _)
      · intro earlier early later late succeeded same
        exact laterOutstanding later late ⟨earlier, mem_append_right _ early, same.symm, succeeded⟩
    · intro before other others split
      cases before with
      | nil =>
        obtain ⟨rfl, rfl⟩ := cons.inj split
        rw [flatMap_nil, append_nil]
        exact lawful
      | cons head before =>
        obtain ⟨rfl, rfl⟩ := cons.inj split
        rw [flatMap_cons, ← append_assoc]
        exact laterLawful before other others rfl

end

end

end Execution

theorem remembers_registered {manifest : RollbackPlanManifest} {registry : RollbackRegistry}
    (registered : registerPlan {} manifest = .ok registry) :
    ValidPlan manifest ∧ Remembers manifest [] registry := by
  unfold registerPlan at registered
  split at registered
  · cases registered
  next valid =>
    obtain rfl := Except.ok.inj registered
    exact ⟨validPlan valid, rfl, fun _ member => absurd member not_mem_nil, by simp,
      nodup_nil⟩

/-- The law of all executions of a registered plan, whatever the clock and
the executor do. -/
theorem executions_law {manifest : RollbackPlanManifest} {registry final : RollbackRegistry}
    {executions : List Execution}
    (registered : registerPlan {} manifest = .ok registry)
    (run : Executions registry executions final) :
    (executions.flatMap (·.attempts)).Pairwise (fun earlier later =>
      earlier.succeeded = true → later.action ≠ earlier.action) ∧
    ∀ before execution rest, executions = before ++ execution :: rest →
      LawfulExecution manifest (before.flatMap (·.attempts)) execution := by
  obtain ⟨plan, remembers⟩ := remembers_registered registered
  exact (run.law plan remembers).2

/-- Two processes to end, the later one first. -/
def twoProcessPlan : RollbackPlanManifest where
  lease :=
    { sessionId := Vector.replicate 16 7, generation := 1, timeoutMilliseconds := 1000 }
  rollbackTimeoutMilliseconds := 500
  actions :=
    [{ actionId := 1, activationOrdinal := 1, timeoutMilliseconds := 100, generation := 1
       process := ⟨42, 2000⟩ },
      { actionId := 2, activationOrdinal := 2, timeoutMilliseconds := 100, generation := 1
        process := ⟨43, 2000⟩ }]

/-- The first call for action 1 fails; every other call succeeds. -/
def failingOnce (failed : Bool) (call : RollbackCall) : rollbackCalls.Answer call × Bool :=
  match call with
  | .steadyClock => ((0 : Int), failed)
  | .invoke action _ =>
    if action.actionId = 1 ∧ failed = false then (makeOutcome action .failed, true)
    else (makeOutcome action .success, failed)

def firstExecution :=
  record failingOnce (execute steadyClock invoke { manifest := some twoProcessPlan }) false

def secondExecution := record failingOnce (execute steadyClock invoke firstExecution.1.2) true

theorem repeatedExecutions :
    Executions { manifest := some twoProcessPlan }
      [⟨attempts firstExecution.2, some firstExecution.1.1⟩,
        ⟨attempts secondExecution.2, some secondExecution.1.1⟩]
      secondExecution.1.2 :=
  .more (.returned (record_trace _ _ _)) (.more (.returned (record_trace _ _ _)) (.none _))

theorem repeated_executions_law :
    LawfulExecution twoProcessPlan (attempts firstExecution.2)
      ⟨attempts secondExecution.2, some secondExecution.1.1⟩ := by
  have registered : registerPlan {} twoProcessPlan = .ok { manifest := some twoProcessPlan } := by
    decide
  have law := executions_law registered repeatedExecutions
  have second := law.2 [_] _ [] rfl
  rw [flatMap_singleton] at second
  exact second

end RollbackRegistry

end HydraSeat.Watchdog
