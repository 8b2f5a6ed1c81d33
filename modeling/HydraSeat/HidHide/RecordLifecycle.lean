import HydraSeat.HidHide.WriteAhead

/-!
# The life of a record

A record goes with the rollback action of its session: it is there no longer
than the action, and an active session holds the action that it was activated
with.
-/

namespace HydraSeat.HidHide

open Foundation
open Foundation.Command GuardedHidHideSession List

/-- The activation behind an active session, which has stayed active since. -/
def ActivatedBy (deeds : List GuardedDeed) (session : GuardedHidHideSession) : Prop :=
  ∃ earlier activation later,
    deeds = earlier ++ activation :: later ∧
      (∃ nowMilliseconds, activation.operation = .activate nowMilliseconds) ∧
      (∀ deed ∈ activation :: later, deed.after.transaction.phase = .active) ∧
      session.rollbackAction = activation.object.rollbackAction ∧
      session.recoveryArmed = activation.object.recoveryArmed

/-- What holds of the record of a session behind its deeds. -/
structure RecordKept (session : GuardedHidHideSession) (deeds : List GuardedDeed) : Prop where
  active :
    session.transaction.phase = .active →
      session.rollbackAction.isSome = true ∧ session.recoveryArmed = true ∧
        ActivatedBy deeds session
  idle :
    ∀ deed ∈ deeds, deed.operation = .rollback →
      ∀ result, deed.result = .session result → result.phase = .idle →
        deed.last.files deed.object.resourceId = none

/-- A preparation of a session that holds an action publishes a record, and
no removal of a record fails. -/
structure KeepsAction (deed : GuardedDeed) : Prop where
  publishes :
    ∀ request nowMilliseconds,
      deed.operation = .prepare request nowMilliseconds →
        deed.object.rollbackAction.isSome = true →
          ∃ entry ∈ deed.entries, publishes deed.object.resourceId entry = true
  removes :
    ∀ before text,
      (⟨before, .removeFile deed.object.resourceId, .failed text⟩ : SessionEntry) ∉ deed.entries

/-- What holds of a session between two operations. -/
structure ActionKept (session : GuardedHidHideSession) (world : World)
    (deeds : List GuardedDeed) : Prop extends
    RecordKept session deeds where
  coherent : Coherent session.transaction
  identity : session.rollbackAction.isSome = true → session.resourceId ≠ 0
  unheld : session.rollbackAction = none → world.files session.resourceId = none

section Law

variable {env : Environment sessionInterface World}
  {session after : GuardedHidHideSession} {world last : World}
  {deeds : List GuardedDeed} {operation : GuardedOperation}
  {entries : List SessionEntry} {reply : GuardedReply}
variable {deed : GuardedDeed}

theorem validIdentity_resourceId (valid : session.validIdentity = true) :
    session.resourceId ≠ 0 := by
  intro zero
  unfold validIdentity at valid
  rw [zero] at valid
  simp at valid

theorem ActivatedBy.concat (activated : ActivatedBy deeds session)
    (active : deed.after.transaction.phase = .active)
    (action : after.rollbackAction = session.rollbackAction)
    (armed : after.recoveryArmed = session.recoveryArmed) :
    ActivatedBy (deeds ++ [deed]) after := by
  obtain ⟨earlier, activation, later, rfl, isActivate, stays, sameAction, sameArmed⟩ := activated
  refine ⟨earlier, activation, later ++ [deed], ?_, isActivate, ?_,
    action.trans sameAction, armed.trans sameArmed⟩
  · rw [append_assoc, cons_append]
  intro other member
  rw [← cons_append] at member
  rcases mem_append.mp member with before | isLast
  · exact stays other before
  · rw [mem_singleton.mp isLast]
    exact active

theorem idle_concat (kept : RecordKept session deeds)
    (idle :
      deed.operation = .rollback →
        ∀ result, deed.result = .session result → result.phase = .idle →
          deed.last.files deed.object.resourceId = none) :
    ∀ other ∈ deeds ++ [deed], other.operation = .rollback →
      ∀ result, other.result = .session result → result.phase = .idle →
        other.last.files other.object.resourceId = none := by
  intro other member
  rcases mem_append.mp member with before | isLast
  · exact kept.idle other before
  · rw [mem_singleton.mp isLast]
    exact idle

section

variable (kept : ActionKept session world deeds)
include kept

theorem ActionKept.stays (before : session.transaction.phase = .active)
    (active : deed.after.transaction.phase = .active)
    (action : after.rollbackAction = session.rollbackAction)
    (armed : after.recoveryArmed = session.recoveryArmed) :
    after.rollbackAction.isSome = true ∧ after.recoveryArmed = true ∧
      ActivatedBy (deeds ++ [deed]) after := by
  obtain ⟨isHeld, isArmed, activated⟩ := kept.active before
  rw [← action] at isHeld
  rw [← armed] at isArmed
  exact ⟨isHeld, isArmed, activated.concat active action armed⟩

theorem ActionKept.passed {result : HidHideSessionResult} {transaction : HidHideSessionTransaction}
    (ran : InnerRun env world session operation entries result transaction last)
    (busy : transaction.phase ≠ .idle) :
    ActionKept { session with transaction } last
      (deeds ++
        [⟨session, operation, world, entries, .session result,
          { session with transaction }, last⟩]) := by
  obtain ⟨inner, _, performs⟩ := ran.performs
  obtain ⟨_, continues⟩ := ran.continues busy
  constructor
  case coherent => exact performs.coherent kept.coherent
  case identity => exact kept.identity
  case unheld =>
    rw [ran.files]
    exact kept.unheld
  case toRecordKept =>
    constructor
    case idle =>
      refine idle_concat kept.toRecordKept ?_
      intro _ other isResult idle
      cases isResult
      rw [ran.reported] at idle
      exact absurd idle busy
    case active =>
      intro active
      have isActive : transaction.phase = .active := active
      rcases continues with ⟨same, _⟩ | recovering | ⟨_, nowMilliseconds, _, _, isActivate, _⟩
      · refine kept.stays ?_ isActive rfl rfl
        rw [← same]
        exact isActive
      · rw [recovering] at isActive
        cases isActive
      · obtain ⟨armed, isHeld⟩ := ran.armed _ isActivate
        refine ⟨isHeld, armed, deeds, _, [], rfl, ⟨_, isActivate⟩, ?_, rfl, rfl⟩
        intro deed member
        rw [mem_singleton.mp member]
        exact isActive

/-- An operation that ends without an action and without a file. -/
theorem ActionKept.release (coherent : Coherent after.transaction)
    (inactive : after.transaction.phase ≠ .active)
    (free : after.rollbackAction = none)
    (sameResource : after.resourceId = session.resourceId)
    (files : last.files session.resourceId = none) :
    ActionKept after last
      (deeds ++ [⟨session, operation, world, entries, reply, after, last⟩]) where
  coherent := coherent
  active active := absurd active inactive
  idle := idle_concat kept.toRecordKept fun _ _ _ _ => files
  identity isHeld := by
    rw [free] at isHeld
    cases isHeld
  unheld _ := by
    rw [sameResource]
    exact files

theorem ActionKept.step
    (keeps : KeepsAction ⟨session, operation, world, entries, reply, after, last⟩)
    (guards : Guards env world session operation entries reply after last) :
    ActionKept after last
      (deeds ++ [⟨session, operation, world, entries, reply, after, last⟩]) := by
  have unpublished (preparing : Preparing session operation entries)
      (silent : ∀ entry ∈ entries, publishes session.resourceId entry = false) :
      session.rollbackAction = none := by
    obtain ⟨request, nowMilliseconds, isPrepare⟩ := preparing.isPrepare
    rw [← Option.not_isSome_iff_eq_none]
    intro isHeld
    obtain ⟨entry, member, published⟩ := keeps.publishes request nowMilliseconds isPrepare isHeld
    have unpublished := silent entry member
    rw [published] at unpublished
    cases unpublished
  cases guards with
  | refused isRequest _ _ =>
    exact
      { coherent := kept.coherent, active := fun active => kept.stays active active rfl rfl
        idle := idle_concat kept.toRecordKept fun isRollback => absurd isRollback isRequest.1
        identity := kept.identity, unheld := kept.unheld }
  | confirmed held prepared =>
    exact
      { coherent := kept.coherent
        active := by
          intro active
          have prepared : session.transaction.phase = .prepared := prepared
          rw [active] at prepared
          cases prepared
        idle := idle_concat kept.toRecordKept nofun
        identity := kept.identity, unheld := kept.unheld }
  | unprepared preparing silent files =>
    have free := unpublished preparing silent
    refine kept.release kept.coherent ?_ rfl rfl ?_
    · intro active
      have isHeld := (kept.active active).1
      rw [free] at isHeld
      cases isHeld
    · rw [files]
      exact kept.unheld free
  | unwritten preparing notActive notRecovering silent files =>
    refine kept.release (kept.coherent.release notActive notRecovering) nofun rfl rfl ?_
    rw [files]
    exact kept.unheld (unpublished preparing silent)
  | persisted preparing notActive notRecovering _ _ _ _ =>
    obtain ⟨request, nowMilliseconds, rfl⟩ := preparing.isPrepare
    exact
      { coherent := kept.coherent.prepare notActive notRecovering _
        active := by
          intro active
          cases active
        idle := idle_concat kept.toRecordKept nofun
        identity := fun _ => validIdentity_resourceId preparing.identity
        unheld := by
          intro free
          cases free }
  | passed ran busy => exact kept.passed ran busy
  | cleared ran idle free =>
    obtain ⟨inner, _, performs⟩ := ran.performs
    refine kept.release (performs.coherent kept.coherent) ?_ rfl rfl ?_
    · intro active
      have isIdle := idle
      rw [active] at isIdle
      cases isIdle
    · rw [ran.files]
      exact kept.unheld free
  | removed ran idle isHeld removed =>
    obtain ⟨inner, _, performs⟩ := ran.performs
    refine kept.release (performs.coherent kept.coherent) ?_ rfl rfl ?_
    · intro active
      have isIdle := idle
      rw [active] at isIdle
      cases isIdle
    · rw [removed.removed rfl]
      exact Function.update_self _ _ _
  | stuck ran idle isHeld failed reported =>
    rcases (failed.refused _ rfl).2 with zero | ⟨before, text, member⟩
    · exact absurd zero (kept.identity isHeld)
    · exact absurd (mem_append_right _ member) (keeps.removes before text)

end

end Law

section Life

variable {env : Environment sessionInterface World} {platform : Bool} {resourceId : UInt64}
  {actionId activationOrdinal rollbackTimeoutMilliseconds : UInt32}
  {start world : World} {session : GuardedHidHideSession}
  {deeds : List GuardedDeed}

/-- In a life that starts without a record and keeps its actions, no record
outlives its action. -/
theorem life_keeps_record (records : KeepsRecords env) (absent : start.files resourceId = none)
    (life :
      Lived perform env LeavesRecords
        (.create platform resourceId actionId activationOrdinal
          rollbackTimeoutMilliseconds) start session world deeds)
    (keeps : ∀ deed ∈ deeds, KeepsAction deed) :
    RecordKept session deeds := by
  refine ActionKept.toRecordKept (life.invariant ActionKept ?_ ?_ ?_ keeps)
  · intro session operation world deeds kept
    exact meets_mono (perform_guards records kept.coherent operation world)
      fun entries outcome after guards keeps => kept.step keeps guards
  · intro session first last deeds kept leaves
    refine ⟨kept.toRecordKept, kept.coherent, kept.identity, ?_⟩
    rw [leaves]
    exact kept.unheld
  · exact
      { coherent := ⟨iff_of_true rfl rfl, nofun, nofun⟩
        active := by
          intro active
          cases active
        idle := by
          intro deed member
          cases member
        identity := by
          intro isHeld
          cases isHeld
        unheld := fun _ => absent }

end Life

def sampleDeeds (operations : List GuardedOperation) : List GuardedDeed :=
  enact obligingPlatform perform (sampleSession 1) untouchedWorld operations

def sampleActivated : List GuardedOperation :=
  [.prepare sampleRequest 0, .confirmRecoveryArmed (makeHidHideSessionRollbackAction 1 1 1000 1 1),
    .activate 1]

theorem sampleDeeds_life (operations : List GuardedOperation) :
    Lived perform platformEnvironment LeavesRecords (sampleSession 1) untouchedWorld
      (objectBehind (sampleSession 1) (sampleDeeds operations))
      (stateBehind untouchedWorld (sampleDeeds operations))
      (sampleDeeds operations) :=
  Lived.start.script obligingPlatform_allowed operations

theorem sample_rollback_keeps_record :
    RecordKept (objectBehind (sampleSession 1) (sampleDeeds (sampleActivated ++ [.rollback])))
      (sampleDeeds (sampleActivated ++ [.rollback])) := by
  have unheld :
      ((sampleDeeds (sampleActivated ++ [.rollback])).all fun deed =>
        match deed.operation with
        | .prepare _ _ => deed.object.rollbackAction == none
        | _ => true) = true := by
    decide
  refine life_keeps_record platform_keepsRecords rfl (sampleDeeds_life _) ?_
  intro deed member
  constructor
  · intro request nowMilliseconds isPrepare isHeld
    have free := all_eq_true.mp unheld deed member
    rw [isPrepare] at free
    rw [beq_iff_eq.mp free] at isHeld
    cases isHeld
  · intro before text refused
    rw [enact_performed member] at refused
    cases entriesOf_answer refused

/-- A preparation that the active transaction refuses drops the action, and
the rollback behind it leaves the record. -/
theorem refused_preparation_leaves_record :
    ¬ ∀ (session : GuardedHidHideSession) (world : World) (deeds : List GuardedDeed),
      Lived perform platformEnvironment LeavesRecords
        (sampleSession 1) untouchedWorld session world deeds →
      RecordKept session deeds := by
  intro claim
  have left :
      ((sampleDeeds (sampleActivated ++ [.prepare sampleRequest 2, .rollback])).any fun deed =>
        deed.operation == .rollback &&
          (match deed.result with
            | .session result => result.phase == .idle
            | _ => false) &&
          (deed.last.files deed.object.resourceId).isSome) = true := by
    decide
  obtain ⟨deed, member, rest⟩ := any_eq_true.mp left
  rw [Bool.and_eq_true, Bool.and_eq_true, beq_iff_eq] at rest
  obtain ⟨⟨isRollback, idle⟩, found⟩ := rest
  have kept := (claim _ _ _ (sampleDeeds_life _)).idle deed member isRollback
  cases reply : deed.result with
  | session result =>
    rw [reply] at idle
    rw [kept result reply (beq_iff_eq.mp idle)] at found
    cases found
  | confirmed | notConfirmed =>
    rw [reply] at idle
    cases idle

end HydraSeat.HidHide
