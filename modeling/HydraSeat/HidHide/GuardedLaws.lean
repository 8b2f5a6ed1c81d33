import HydraSeat.HidHide.RecordKeeping

/-!
# What an operation of a guarded session does

`Guards` lists the outcomes: the session refuses, prepares with or without a
record, confirms, or runs an operation of its transaction and removes the
record behind it.
-/

namespace HydraSeat.HidHide

open Foundation
open Foundation.Command HidHideSessionTransaction List

def GuardedOperation.inner : GuardedOperation → Option SessionOperation
  | .activate nowMilliseconds => some (.activate nowMilliseconds)
  | .expireIfNeeded nowMilliseconds => some (.expireIfNeeded nowMilliseconds)
  | .rollback | .destroy => some .rollback
  | .prepare _ _ | .confirmRecoveryArmed _ => none

/-- A run of the transaction's operation. -/
structure InnerRun (env : Environment sessionInterface World) (world : World)
    (session : GuardedHidHideSession) (operation : GuardedOperation)
    (entries : List SessionEntry) (result : HidHideSessionResult)
    (transaction : HidHideSessionTransaction) (after : World) : Prop where
  armed :
    ∀ nowMilliseconds, operation = .activate nowMilliseconds →
      session.recoveryArmed = true ∧ session.rollbackAction.isSome = true
  performs :
    ∃ inner, operation.inner = some inner ∧
      Performs env world session.transaction inner entries (result, transaction)
  reported : result.phase = transaction.phase
  files : after.files = world.files
  calls : ∀ entry ∈ entries, entry.before.files = world.files ∧ entry.request.ofTransaction = true
  /-- An idle transaction does nothing. -/
  rests : session.transaction.phase = .idle → entries = [] ∧ transaction = session.transaction

structure Preparing (session : GuardedHidHideSession) (operation : GuardedOperation)
    (entries : List SessionEntry) : Prop where
  isPrepare : ∃ request nowMilliseconds, operation = .prepare request nowMilliseconds
  identity : session.validIdentity = true
  quiet : Quiet entries
  keeps : ∀ entry ∈ entries, ∀ removed, entry.request ≠ .removeFile removed

inductive Guards (env : Environment sessionInterface World) (world : World)
    (session : GuardedHidHideSession) :
    GuardedOperation → List SessionEntry → GuardedReply → GuardedHidHideSession → World → Prop
  | refused {operation : GuardedOperation} {reply : GuardedReply}
      (isRequest : operation ≠ .rollback ∧ operation ≠ .destroy)
      (unidentified :
        ∀ request nowMilliseconds,
          operation = .prepare request nowMilliseconds → session.validIdentity = false)
      (notConfirmed : reply ≠ .confirmed) :
      Guards env world session operation [] reply session world
  | confirmed {action : Watchdog.RollbackActionDescriptor}
      (held : session.rollbackAction = some action)
      (prepared : session.transaction.phase = .prepared) :
      Guards env world session (.confirmRecoveryArmed action) []
        .confirmed { session with recoveryArmed := true } world
  | unprepared {operation : GuardedOperation}
      {entries : List SessionEntry} {result : HidHideSessionResult}
      {last : World} (preparing : Preparing session operation entries)
      (silent : ∀ entry ∈ entries, publishes session.resourceId entry = false)
      (files : last.files = world.files) :
      Guards env world session operation entries (.session result) session.disarmed last
  | unwritten {operation : GuardedOperation} {entries : List SessionEntry}
      {result : HidHideSessionResult} {last : World}
      (preparing : Preparing session operation entries)
      (notActive : session.transaction.phase ≠ .active)
      (notRecovering : session.transaction.phase ≠ .recoveryRequired)
      (silent : ∀ entry ∈ entries, publishes session.resourceId entry = false)
      (files : last.files = world.files) :
      Guards env world session operation entries (.session result)
        { session.disarmed with
          transaction :=
            { session.transaction with plan := none, phase := .idle } }
        last
  | persisted {operation : GuardedOperation} {entries : List SessionEntry}
      {plan : HidHideSessionPlan} {result : HidHideSessionResult}
      {last : World} (preparing : Preparing session operation entries)
      (notActive : session.transaction.phase ≠ .active)
      (notRecovering : session.transaction.phase ≠ .recoveryRequired)
      (published : ∃ entry ∈ entries, publishes session.resourceId entry = true)
      (fresh : ∀ mutated, entries.foldl (mutatedAfter session.resourceId) mutated = false)
      (encoded : encodeHidHideSessionRecoveryRecord (session.recordOf plan) ≠ [])
      (files :
        last.files =
          Function.update world.files session.resourceId
            (some (encodeHidHideSessionRecoveryRecord (session.recordOf plan)))) :
      Guards env world session operation entries (.session result)
        { session.disarmed with
          transaction :=
            { session.transaction with plan := some plan, phase := .prepared }
          rollbackAction := some (session.actionOf plan) }
        last
  | passed {operation : GuardedOperation} {entries : List SessionEntry}
      {result : HidHideSessionResult}
      {transaction : HidHideSessionTransaction} {last : World}
      (ran : InnerRun env world session operation entries result transaction last)
      (busy : transaction.phase ≠ .idle) :
      Guards env world session operation entries (.session result) { session with transaction } last
  | cleared {operation : GuardedOperation} {entries : List SessionEntry}
      {result : HidHideSessionResult}
      {transaction : HidHideSessionTransaction} {last : World}
      (ran : InnerRun env world session operation entries result transaction last)
      (idle : transaction.phase = .idle)
      (free : session.rollbackAction = none) :
      Guards env world session operation entries (.session result)
        { session.disarmed with transaction } last
  | removed {operation : GuardedOperation}
      {entries removal : List SessionEntry} {result : HidHideSessionResult}
      {transaction : HidHideSessionTransaction} {between last : World}
      (ran : InnerRun env world session operation entries result transaction between)
      (idle : transaction.phase = .idle)
      (held : session.rollbackAction.isSome = true)
      (removed : Removed session.resourceId between removal (.ok ()) last) :
      Guards env world session operation (entries ++ removal)
        (.session result) { session.disarmed with transaction } last
  | stuck {operation : GuardedOperation} {entries removal : List SessionEntry} {error : ByteString}
      {result final : HidHideSessionResult}
      {transaction : HidHideSessionTransaction} {between last : World}
      (ran : InnerRun env world session operation entries result transaction between)
      (idle : transaction.phase = .idle)
      (held : session.rollbackAction.isSome = true)
      (failed : Removed session.resourceId between removal (.error error) last)
      (reported : final.phase = .idle) :
      Guards env world session operation (entries ++ removal)
        (.session final) { session with transaction } last

section Laws

variable {env : Environment sessionInterface World}
  {session : GuardedHidHideSession} {world : World}
variable {entries : List SessionEntry} {operation : GuardedOperation} {between : World}
  {transaction : HidHideSessionTransaction}

abbrev GuardsMeets (env : Environment sessionInterface World)
    (session : GuardedHidHideSession) (operation : GuardedOperation)
    (program : SessionProgram GuardedOutcome) (world : World) : Prop :=
  Meets env program world fun entries outcome after =>
    Guards env world session operation entries (.session outcome.1) outcome.2 after

theorem ofTransaction_silent (resourceId : UInt64)
    (calls : ∀ entry ∈ entries, entry.request.ofTransaction = true) :
    (∀ entry ∈ entries, publishes resourceId entry = false) ∧
      ∀ entry ∈ entries, ∀ removed, entry.request ≠ .removeFile removed := by
  constructor
  · rintro ⟨before, request, answer⟩ member
    have ofTransaction := calls _ member
    cases request with
    | replaceFile replaced => cases ofTransaction
    | _ => rfl
  · intro entry member removed isRemoval
    have ofTransaction := calls _ member
    rw [isRemoval] at ofTransaction
    cases ofTransaction

theorem rollback_prepared (transaction : HidHideSessionTransaction) (plan : HidHideSessionPlan) :
    ∃ result,
      { transaction with plan := some plan, phase := .prepared }.rollback =
        pure (result, { transaction with plan := none, phase := .idle }) :=
  ⟨_, rfl⟩

theorem persist_meets (records : KeepsRecords env)
    {plan : HidHideSessionPlan} (prepared : HidHideSessionResult)
    {earlier : List SessionEntry}
    (preparing : Preparing session operation earlier)
    (notActive : session.transaction.phase ≠ .active)
    (notRecovering : session.transaction.phase ≠ .recoveryRequired)
    (silent : ∀ entry ∈ earlier, publishes session.resourceId entry = false)
    (kept : between.files = world.files) :
    Meets env
      ({ session.disarmed with
          transaction :=
            { session.transaction with
              plan := some plan
              phase := .prepared } }.persist prepared plan)
      between fun entries outcome after =>
        Guards env world session operation (earlier ++ entries)
          (.session outcome.1) outcome.2 after := by
  obtain ⟨result, rolled⟩ := rollback_prepared session.transaction plan
  refine meets_bind (write_meets records _ between) ?_
  intro entries written after wrote
  have preparingAll : Preparing session operation (earlier ++ entries) := by
    refine ⟨preparing.isPrepare, preparing.identity, preparing.quiet.append wrote.quiet, ?_⟩
    intro entry member
    rcases mem_append.mp member with first | second
    · exact preparing.keeps entry first
    · exact wrote.keeps entry second
  cases written with
  | error error =>
    obtain ⟨quietWrite, files⟩ := wrote.refused error rfl
    dsimp only
    rw [rolled]
    refine meets_pure ?_
    rw [append_nil]
    refine .unwritten preparingAll notActive notRecovering ?_ (files.trans kept)
    intro entry member
    rcases mem_append.mp member with first | second
    · exact silent entry first
    · exact quietWrite entry second
  | ok =>
    obtain ⟨⟨entry, member, published⟩, fresh, encoded, files⟩ := wrote.written rfl
    refine meets_pure ?_
    rw [append_nil]
    refine .persisted preparingAll notActive notRecovering
      ⟨entry, mem_append_right _ member, published⟩ ?_ encoded ?_
    · intro mutated
      rw [foldl_append]
      exact fresh _
    · rw [← kept]
      exact files

theorem prepare_guards (records : KeepsRecords env) (request : HidHideSessionRequest)
    (nowMilliseconds : UInt64) (world : World) :
    GuardsMeets env session (.prepare request nowMilliseconds)
      (session.prepare request nowMilliseconds) world := by
  unfold GuardedHidHideSession.prepare
  split
  next unidentified =>
    rw [Bool.not_eq_true'] at unidentified
    exact meets_pure (.refused ⟨nofun, nofun⟩ (fun _ _ _ => unidentified) nofun)
  next identified =>
    rw [Bool.not_eq_true', Bool.not_eq_false] at identified
    refine meets_bind
      (meets_and (prepare_meets request nowMilliseconds world)
        ((prepare_only session.transaction request nowMilliseconds).files records world)) ?_
    rintro entries ⟨prepared, transaction⟩ between ⟨⟨reported, performs⟩, kept, calls⟩
    obtain ⟨silent, keeps⟩ :=
      ofTransaction_silent session.resourceId fun entry member => (calls entry member).2
    cases performs with
    | refused quiet unchanged fails =>
      have failed : prepared.succeeded = false := fails _ _ rfl
      have same : transaction = session.transaction := unchanged
      dsimp only
      rw [if_pos (by rw [failed]; rfl), same]
      refine meets_pure ?_
      rw [append_nil]
      exact .unprepared ⟨⟨_, _, rfl⟩, identified, quiet, keeps⟩ silent kept
    | prepared quiet notActive notRecovering told captured after succeeded returned =>
      have accepted : prepared.succeeded = true := succeeded
      have same : transaction = _ := after
      have planned : prepared.plan = _ := returned
      dsimp only
      rw [if_neg (by rw [accepted]; exact Bool.false_ne_true), planned, same]
      exact persist_meets records prepared
        ⟨⟨_, _, rfl⟩, identified, quiet, keeps⟩ notActive notRecovering
        silent kept
    | cancelled _ isPrepare _ => exact absurd rfl (isPrepare _ _)
    | cleaned _ _ isCleanup _ =>
      rcases isCleanup with ⟨_, impossible⟩ | impossible | impossible
      · cases impossible
      · cases impossible
      · cases impossible

theorem idle_rests (coherent : Coherent transaction)
    {inner : SessionOperation} (isInner : operation.inner = some inner)
    (world : World) :
    Meets env (transaction.perform inner) world
      fun entries outcome _ =>
        transaction.phase = .idle → entries = [] ∧ outcome.2 = transaction := by
  intro entries value after ran idle
  have free := coherent.planned.mp idle
  revert entries value after
  change Meets env (transaction.perform inner) world
    fun entries outcome _ => entries = [] ∧ outcome.2 = transaction
  have rolls : Meets env (transaction.rollbackInternal false) world
      fun entries outcome _ => entries = [] ∧ outcome.2 = transaction := by
    unfold rollbackInternal
    rw [free]
    refine meets_pure ⟨rfl, ?_⟩
    obtain ⟨platform, phase, plan, held⟩ := transaction
    cases idle
    cases free
    rfl
  cases operation with
  | prepare _ _ | confirmRecoveryArmed _ => cases isInner
  | activate nowMilliseconds =>
    cases isInner
    change Meets env (transaction.activate nowMilliseconds) world _
    unfold HidHideSessionTransaction.activate
    rw [if_neg (by rw [idle]; nofun), if_neg (by rw [idle]; nofun), free]
    exact meets_pure ⟨rfl, rfl⟩
  | expireIfNeeded nowMilliseconds =>
    cases isInner
    change Meets env (transaction.expireIfNeeded nowMilliseconds) world _
    unfold HidHideSessionTransaction.expireIfNeeded
    rw [free]
    exact meets_pure ⟨rfl, rfl⟩
  | rollback | destroy =>
    cases isInner
    exact rolls

theorem cleanup_guards (records : KeepsRecords env) {result : HidHideSessionResult}
    (ran : InnerRun env world session operation entries result transaction between) :
    Meets env ({ session with transaction }.cleanupRecoveryRecordIfSafe result) between
      fun more outcome after =>
        Guards env world session operation (entries ++ more)
          (.session outcome.1) outcome.2 after := by
  unfold GuardedHidHideSession.cleanupRecoveryRecordIfSafe
  split
  next busy =>
    refine meets_pure ?_
    rw [List.append_nil]
    rw [ran.reported] at busy
    exact .passed ran busy
  next idle =>
    rw [not_not, ran.reported] at idle
    split
    next held =>
      refine meets_bind (remove_meets records session.resourceId between) ?_
      intro removal value after removed
      cases value with
      | error error =>
        refine meets_pure ?_
        rw [List.append_nil]
        exact .stuck ran idle held removed (ran.reported.trans idle)
      | ok =>
        refine meets_pure ?_
        rw [List.append_nil]
        exact .removed ran idle held removed
    next free =>
      refine meets_pure ?_
      rw [List.append_nil]
      rw [Bool.not_eq_true, Option.isSome_eq_false_iff, Option.isNone_iff_eq_none] at free
      exact .cleared ran idle free

theorem through_guards (records : KeepsRecords env) (coherent : Coherent session.transaction)
    (operation : GuardedOperation) (inner : SessionOperation)
    (isInner : operation.inner = some inner)
    (armed :
      ∀ nowMilliseconds, operation = .activate nowMilliseconds →
        session.recoveryArmed = true ∧ session.rollbackAction.isSome = true)
    (world : World) :
    GuardsMeets env session operation
      (session.through (session.transaction.perform inner)) world := by
  refine meets_bind
    (meets_and (perform_meets coherent inner world)
      (meets_and ((perform_only session.transaction inner).files records world)
        (idle_rests coherent isInner world))) ?_
  rintro entries ⟨result, transaction⟩ between ⟨⟨reported, performs⟩, ⟨kept, calls⟩, rests⟩
  exact cleanup_guards records ⟨armed, ⟨inner, isInner, performs⟩, reported, kept, calls, rests⟩

theorem rollback_ends (transaction : HidHideSessionTransaction) (world : World) :
    Meets env (transaction.rollbackInternal false) world
      fun _ outcome _ => outcome.2.phase = .idle ∨ outcome.2.phase = .recoveryRequired := by
  cases planned : transaction.plan with
  | none =>
    unfold rollbackInternal
    rw [planned]
    exact meets_pure (.inl rfl)
  | some plan =>
    by_cases recovering : transaction.phase = .recoveryRequired
    · unfold rollbackInternal
      rw [planned]
      dsimp only
      rw [if_pos recovering]
      exact meets_pure (.inr recovering)
    by_cases prepared : transaction.phase = .prepared
    · unfold rollbackInternal
      rw [planned]
      dsimp only
      rw [if_neg recovering, if_pos prepared]
      exact meets_pure (.inl rfl)
    refine meets_mono (rollbackInternal_meets planned recovering prepared false world)
      fun entries outcome after cleaned => ?_
    rcases cleaned.ends with ⟨idle, _⟩ | ⟨recovers, _⟩
    · exact .inl idle
    · exact .inr recovers

theorem cleanup_transaction (result : HidHideSessionResult) (world : World) :
    Meets env (session.cleanupRecoveryRecordIfSafe result) world
      fun _ outcome _ => outcome.2.transaction = session.transaction := by
  unfold GuardedHidHideSession.cleanupRecoveryRecordIfSafe
  split
  · exact meets_pure rfl
  split
  · refine meets_bind (meets_ran _) fun entries value after ran => ?_
    cases value with
    | error error | ok => exact meets_pure rfl
  · exact meets_pure rfl

theorem destroy_guards (records : KeepsRecords env)
    (coherent : Coherent session.transaction) (world : World) :
    GuardsMeets env session .destroy session.destroy world := by
  have rolled : GuardsMeets env session .destroy session.rollback world := by
    refine through_guards records coherent .destroy .rollback rfl ?_ world
    intro nowMilliseconds isActivate
    cases isActivate
  have ends :
      Meets env session.rollback world fun _ outcome _ =>
        outcome.2.transaction.phase = .idle ∨ outcome.2.transaction.phase = .recoveryRequired := by
    refine meets_bind (rollback_ends session.transaction world) ?_
    rintro entries ⟨result, transaction⟩ between ended
    refine meets_mono (cleanup_transaction result between) fun more outcome after kept => ?_
    rw [kept]
    exact ended
  refine meets_bind (meets_and rolled ends) ?_
  rintro entries ⟨result, after⟩ between ⟨guards, ended⟩
  have rests : ∃ report, after.transaction.destroy = pure (report, after.transaction) := by
    unfold HidHideSessionTransaction.destroy
    rw [if_neg]
    · exact ⟨_, rfl⟩
    rintro (active | prepared)
    · rcases ended with idle | recovering
      · rw [active] at idle
        cases idle
      · rw [active] at recovering
        cases recovering
    · rcases ended with idle | recovering
      · rw [prepared] at idle
        cases idle
      · rw [prepared] at recovering
        cases recovering
  obtain ⟨report, rests⟩ := rests
  dsimp only
  rw [rests]
  refine meets_pure ?_
  rw [append_nil]
  exact guards

theorem perform_guards (records : KeepsRecords env) (coherent : Coherent session.transaction)
    (operation : GuardedOperation) (world : World) :
    Meets env (session.perform operation) world
      fun entries outcome after =>
        Guards env world session operation entries outcome.1 outcome.2 after := by
  have replies {program : SessionProgram GuardedOutcome}
      (guards : GuardsMeets env session operation program world) :
      Meets env (GuardedHidHideSession.replying program) world
        fun entries outcome after =>
          Guards env world session operation entries outcome.1 outcome.2 after := by
    refine meets_bind guards ?_
    rintro entries ⟨result, after⟩ between guarded
    refine meets_pure ?_
    rw [List.append_nil]
    exact guarded
  cases operation with
  | prepare request nowMilliseconds =>
    exact replies (prepare_guards records request nowMilliseconds world)
  | confirmRecoveryArmed action =>
    unfold GuardedHidHideSession.perform GuardedHidHideSession.confirmRecoveryArmed
    cases held : session.rollbackAction with
    | none => exact meets_pure (.refused (by simp) (by simp) (by simp))
    | some rollbackAction =>
      dsimp only
      split
      next error confirmed => exact meets_pure (.refused (by simp) (by simp) (by simp))
      next after confirmed =>
        obtain ⟨prepared, confirmed⟩ := not_taken confirmed (by simp)
        obtain ⟨matched, confirmed⟩ := not_taken confirmed (by simp)
        rw [not_not] at prepared matched
        cases confirmed
        have guards :
            Guards env world session (.confirmRecoveryArmed rollbackAction) [] .confirmed
              { session with recoveryArmed := true } world :=
          .confirmed held prepared
        rw [held] at guards
        rw [matched]
        exact meets_pure guards
  | activate nowMilliseconds =>
    apply replies
    unfold GuardedHidHideSession.activate
    split
    · exact meets_pure (.refused (by simp) (by simp) (by simp))
    next armed =>
      rw [Bool.or_eq_true, not_or, Bool.not_eq_true', Bool.not_eq_false,
        Option.isNone_iff_eq_none] at armed
      exact through_guards records coherent (.activate nowMilliseconds)
        (.activate nowMilliseconds) rfl
        (fun _ _ => ⟨armed.1, Option.isSome_iff_ne_none.mpr armed.2⟩)
        world
  | expireIfNeeded nowMilliseconds =>
    refine replies
      (through_guards records coherent (.expireIfNeeded nowMilliseconds)
        (.expireIfNeeded nowMilliseconds) rfl ?_ world)
    intro later isActivate
    cases isActivate
  | rollback =>
    refine replies (through_guards records coherent .rollback .rollback rfl ?_ world)
    intro later isActivate
    cases isActivate
  | destroy => exact replies (destroy_guards records coherent world)

end Laws

end HydraSeat.HidHide
