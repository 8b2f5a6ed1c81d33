import HydraSeat.HidHide.GuardedLaws

/-!
# Write ahead

No change reaches the platform before the record of the plan is durable and
its rollback action armed, and the record stays until the change is undone
or was never made.
-/

namespace HydraSeat.HidHide

open Foundation
open Foundation.Command GuardedHidHideSession GuardedOperation List

abbrev GuardedDeed :=
  Deed sessionInterface World GuardedHidHideSession GuardedOperation GuardedReply

/-- A session as its constructor leaves it. -/
def GuardedHidHideSession.create (platform : Bool) (resourceId : UInt64)
    (actionId activationOrdinal rollbackTimeoutMilliseconds : UInt32) :
    GuardedHidHideSession :=
  { transaction := { platform }, resourceId, actionId, activationOrdinal
    rollbackTimeoutMilliseconds }

def Confirmed (deeds : List GuardedDeed) (session : GuardedHidHideSession)
    (plan : HidHideSessionPlan) : Prop :=
  ∃ deed ∈ deeds,
    deed.operation = .confirmRecoveryArmed (session.actionOf plan) ∧
      deed.result = .confirmed ∧ deed.object.transaction.plan = some plan

/-- Nothing was changed since the record was published, or the state that it
describes was read back, and no entry is left in the session blacklist. -/
def SafeToRemove (resourceId : UInt64) (bytes : List UInt8) (history : List SessionEntry) : Prop :=
  recordMutated resourceId history = false ∨
    blacklistHeld history = false ∧
      ∃ record read, decodeHidHideSessionRecoveryRecord bytes = .ok record ∧
        lastRead history = some read ∧
        sameSnapshot read record.before = true

/-- What an operation of a guarded session keeps to. -/
structure WriteAhead (session : GuardedHidHideSession) (deeds : List GuardedDeed)
    (entries : List SessionEntry) : Prop where
  ahead :
    ∀ entry ∈ entries,
      ((∃ snapshot, entry.request = .writeState snapshot) ∨
        ∃ devices, entry.request = .addSessionBlacklist devices) →
      ∃ plan bytes, session.transaction.plan = some plan ∧
        entry.before.files session.resourceId = some bytes ∧
        decodeHidHideSessionRecoveryRecord bytes = .ok (session.recordOf plan) ∧
        Confirmed deeds session plan
  removal :
    ∀ earlier entry later, entries = earlier ++ entry :: later →
      ∀ removed, entry.request = .removeFile removed →
        removed = session.resourceId ∧
          ∀ bytes, entry.before.files removed = some bytes →
            SafeToRemove session.resourceId bytes (historyOf deeds ++ earlier)

/-- An activation that can go through has a record with a checksum. -/
def SpellsRecord (session : GuardedHidHideSession) (operation : GuardedOperation) : Prop :=
  ∀ ⦃nowMilliseconds plan⦄, operation = .activate nowMilliseconds →
    session.recoveryArmed = true → session.rollbackAction.isSome = true →
    session.transaction.phase = .prepared →
    session.transaction.plan = some plan →
    nowMilliseconds < plan.expiryAtMilliseconds →
    plan.request.nativeMutationApproved = true →
    plan.request.physicalAcceptanceEvidence.isSome = true →
    hashBytes (recordPayload (session.recordOf plan)) ≠ 0

/-- What holds of a guarded session between two operations. -/
structure Recorded (session : GuardedHidHideSession) (world : World)
    (deeds : List GuardedDeed) : Prop where
  coherent : Coherent session.transaction
  held : blacklistHeld (historyOf deeds) = session.transaction.sessionEntriesActive
  record :
    ∀ plan, session.transaction.plan = some plan →
      session.rollbackAction.isSome = true ∨ session.transaction.phase = .active →
        encodeHidHideSessionRecoveryRecord (session.recordOf plan) ≠ [] ∧
          world.files session.resourceId =
            some (encodeHidHideSessionRecoveryRecord (session.recordOf plan))
  action :
    ∀ action plan, session.rollbackAction = some action →
      session.transaction.plan = some plan → action = session.actionOf plan
  armed :
    ∀ plan, session.recoveryArmed = true → session.rollbackAction.isSome = true →
      session.transaction.plan = some plan → Confirmed deeds session plan
  active :
    ∀ plan, session.transaction.phase = .active →
      session.transaction.plan = some plan →
        Confirmed deeds session plan ∧ hashBytes (recordPayload (session.recordOf plan)) ≠ 0
  fresh :
    session.rollbackAction.isSome = true →
      session.transaction.phase = .prepared →
        recordMutated session.resourceId (historyOf deeds) = false
  leftover :
    session.rollbackAction.isSome = true →
      session.transaction.phase = .idle →
        ∀ bytes, world.files session.resourceId = some bytes →
          SafeToRemove session.resourceId bytes (historyOf deeds)

section Law

variable {env : Environment sessionInterface World}
  {session : GuardedHidHideSession} {world : World}
  {deeds : List GuardedDeed} {operation : GuardedOperation}
  {entries : List SessionEntry}

theorem activate_of_inner {nowMilliseconds : UInt64}
    (isInner : operation.inner = some (.activate nowMilliseconds)) :
    operation = .activate nowMilliseconds := by
  cases operation with
  | activate =>
    cases isInner
    rfl
  | _ => cases isInner

theorem recordMutated_append {resourceId : UInt64} {history more : List SessionEntry}
    (quiet : Quiet more)
    (silent : ∀ entry ∈ more, publishes resourceId entry = false) :
    recordMutated resourceId (history ++ more) = recordMutated resourceId history := by
  unfold recordMutated
  rw [foldl_append]
  generalize history.foldl (mutatedAfter resourceId) false = mutated
  induction more generalizing mutated with
  | nil => rfl
  | cons entry more ih =>
    have kept : mutatedAfter resourceId mutated entry = mutated := by
      unfold mutatedAfter
      rw [quiet entry mem_cons_self, silent entry List.mem_cons_self, Bool.or_false, Bool.not_false,
        Bool.true_and]
    rw [foldl_cons, kept]
    exact ih (fun entry member => quiet entry (mem_cons_of_mem _ member))
      (fun entry member => silent entry (mem_cons_of_mem _ member))
      mutated

theorem lastRead_append_blind {history more : List SessionEntry}
    (blind : ∀ entry ∈ more, readSnapshot? entry = none) :
    lastRead (history ++ more) = lastRead history := by
  unfold lastRead
  rw [filterMap_append, filterMap_eq_nil_iff.mpr blind, append_nil]

theorem SafeToRemove.append {resourceId : UInt64} {bytes : List UInt8}
    {history more : List SessionEntry}
    (safe : SafeToRemove resourceId bytes history) (quiet : Quiet more)
    (silent : ∀ entry ∈ more, publishes resourceId entry = false)
    (blind : ∀ entry ∈ more, readSnapshot? entry = none) :
    SafeToRemove resourceId bytes (history ++ more) := by
  rcases safe with clean | ⟨empty, record, read, decoded, found, same⟩
  · left
    rw [recordMutated_append quiet silent]
    exact clean
  refine .inr ⟨?_, record, read, decoded, ?_, same⟩
  · unfold blacklistHeld at empty ⊢
    rw [foldl_append, quiet.held]
    exact empty
  · rw [lastRead_append_blind blind]
    exact found

section

variable (recorded : Recorded session world deeds)
include recorded

variable {plan : HidHideSessionPlan}

theorem Recorded.decodes
    (planned : session.transaction.plan = some plan)
    (kept : session.rollbackAction.isSome = true ∨ session.transaction.phase = .active)
    (nonzero : hashBytes (recordPayload (session.recordOf plan)) ≠ 0) :
    ∃ bytes, world.files session.resourceId = some bytes ∧
      decodeHidHideSessionRecoveryRecord bytes = .ok (session.recordOf plan) := by
  obtain ⟨encoded, file⟩ := recorded.record plan planned kept
  exact ⟨_, file, (decode_eq_ok_iff _ _).mpr ⟨encoded, rfl, nonzero⟩⟩

section

variable (spells : SpellsRecord session operation) {result : HidHideSessionResult}
  {transaction : HidHideSessionTransaction} {after : World}
include spells

theorem Recorded.approved
    (ran : InnerRun env world session operation entries result transaction after)
    {nowMilliseconds : UInt64} {checks : List SessionEntry}
    (isActivate : operation = .activate nowMilliseconds)
    (approval : Approval env world session.transaction plan nowMilliseconds checks) :
    session.rollbackAction.isSome = true ∧ Confirmed deeds session plan ∧
      hashBytes (recordPayload (session.recordOf plan)) ≠ 0 := by
  obtain ⟨armed, isHeld⟩ := ran.armed _ isActivate
  obtain ⟨evidence, _, _, _, evidenced, _⟩ := approval.authorized
  exact ⟨isHeld, recorded.armed plan armed isHeld approval.planned,
    spells isActivate armed isHeld approval.phase approval.planned approval.unexpired
      approval.approved (Option.isSome_of_eq_some evidenced)⟩

theorem Recorded.covers
    (ran : InnerRun env world session operation entries result transaction after)
    (began :
      session.transaction.phase = .active ∨ ∃ entry ∈ entries, entry.request.mutates = true) :
    ∃ plan bytes, session.transaction.plan = some plan ∧
      world.files session.resourceId = some bytes ∧
      decodeHidHideSessionRecoveryRecord bytes = .ok (session.recordOf plan) ∧
      Confirmed deeds session plan := by
  have whileActive {plan : HidHideSessionPlan} (active : session.transaction.phase = .active)
      (planned : session.transaction.plan = some plan) :
      ∃ plan bytes, session.transaction.plan = some plan ∧
        world.files session.resourceId = some bytes ∧
        decodeHidHideSessionRecoveryRecord bytes = .ok (session.recordOf plan) ∧
        Confirmed deeds session plan := by
    obtain ⟨confirmed, nonzero⟩ := recorded.active plan active planned
    obtain ⟨bytes, file, decoded⟩ := recorded.decodes planned (.inr active) nonzero
    exact ⟨plan, bytes, planned, file, decoded, confirmed⟩
  rcases began with active | mutated
  · cases planned : session.transaction.plan with
    | none =>
      have idle := recorded.coherent.planned.mpr planned
      rw [active] at idle
      cases idle
    | some plan =>
      rw [← planned]
      exact whileActive active planned
  obtain ⟨inner, isInner, performs⟩ := ran.performs
  cases performs with
  | refused quiet _ _ | prepared quiet _ _ _ _ _ _ _ => exact absurd mutated quiet.not_mutates
  | cancelled _ _ _ => exact absurd mutated Quiet.nil.not_mutates
  | @activated nowMilliseconds plan checks calls found _ approval _ _ _ =>
    obtain ⟨isHeld, confirmed, nonzero⟩ :=
      recorded.approved spells ran (activate_of_inner isInner) approval
    obtain ⟨bytes, file, decoded⟩ := recorded.decodes approval.planned (.inl isHeld) nonzero
    exact ⟨plan, bytes, approval.planned, file, decoded, confirmed⟩
  | cleaned active planned _ _ => exact whileActive active planned

theorem Recorded.safe
    (ran : InnerRun env world session operation entries result transaction after)
    (idle : transaction.phase = .idle)
    (isHeld : session.rollbackAction.isSome = true) {bytes : List UInt8}
    (file : after.files session.resourceId = some bytes) :
    SafeToRemove session.resourceId bytes (historyOf deeds ++ entries) := by
  rw [ran.files] at file
  obtain ⟨inner, _, performs⟩ := ran.performs
  by_cases began :
      session.transaction.phase = .active ∨ ∃ entry ∈ entries, entry.request.mutates = true
  · obtain ⟨plan, content, planned, found, decoded, _⟩ := recorded.covers spells ran began
    obtain ⟨empty, other, read, otherPlanned, seen, same⟩ :=
      performs.returns recorded.coherent idle began
    rw [planned] at otherPlanned
    cases otherPlanned
    rw [file] at found
    cases found
    refine .inr ⟨?_, _, read, decoded, lastRead_append_some seen, same⟩
    have held := recorded.held
    unfold blacklistHeld at held ⊢
    rw [foldl_append, held, performs.held]
    exact empty
  · rw [not_or] at began
    obtain ⟨notActive, unmutated⟩ := began
    cases phase : session.transaction.phase with
    | idle =>
      rw [(ran.rests phase).1, append_nil]
      exact recorded.leftover isHeld phase bytes file
    | prepared =>
      have quiet : Quiet entries := by
        intro entry member
        rw [← Bool.not_eq_true]
        exact fun mutates => unmutated ⟨entry, member, mutates⟩
      have silent :=
        (ofTransaction_silent session.resourceId fun entry member => (ran.calls entry member).2).1
      left
      rw [recordMutated_append quiet silent]
      exact recorded.fresh isHeld phase
    | active => exact absurd phase notActive
    | rollingBack => exact absurd phase recorded.coherent.settled
    | recoveryRequired =>
      have kept := (performs.stays recorded.coherent phase).1
      have same : transaction = session.transaction := kept
      rw [same, phase] at idle
      cases idle

theorem Recorded.writeAhead {reply : GuardedReply} {after : GuardedHidHideSession} {last : World}
    (guards : Guards env world session operation entries reply after last) :
    WriteAhead session deeds entries := by
  have changes {entry : SessionEntry}
      (isChange :
        (∃ snapshot, entry.request = .writeState snapshot) ∨
          ∃ devices, entry.request = .addSessionBlacklist devices) :
      entry.request.mutates = true := by
    rcases isChange with ⟨snapshot, same⟩ | ⟨devices, same⟩
    · rw [same]
      rfl
    · rw [same]
      rfl
  have prepares (preparing : Preparing session operation entries) :
      WriteAhead session deeds entries := by
    constructor
    · intro entry member isChange
      have quiet := preparing.quiet entry member
      rw [changes isChange] at quiet
      cases quiet
    · rintro earlier entry later rfl removed isRemoval
      exact absurd isRemoval (preparing.keeps entry (mem_append_right _ mem_cons_self) removed)
  have nothing : WriteAhead session deeds [] := by
    constructor
    · intro entry member
      cases member
    · intro earlier entry later split
      cases earlier with
      | nil | cons head earlier => cases split
  have runs {calls : List SessionEntry} {result : HidHideSessionResult}
      {transaction : HidHideSessionTransaction} {between : World}
      (ran : InnerRun env world session operation calls result transaction between)
      {entry : SessionEntry} (member : entry ∈ calls)
      (isChange :
        (∃ snapshot, entry.request = .writeState snapshot) ∨
          ∃ devices, entry.request = .addSessionBlacklist devices) :
      ∃ plan bytes, session.transaction.plan = some plan ∧
        entry.before.files session.resourceId = some bytes ∧
        decodeHidHideSessionRecoveryRecord bytes = .ok (session.recordOf plan) ∧
        Confirmed deeds session plan := by
    rw [(ran.calls entry member).1]
    exact recorded.covers spells ran (.inr ⟨entry, member, changes isChange⟩)
  have keeps {calls : List SessionEntry} {result : HidHideSessionResult}
      {transaction : HidHideSessionTransaction} {between : World}
      (ran : InnerRun env world session operation calls result transaction between) :
      ∀ entry ∈ calls, ∀ removed, entry.request ≠ .removeFile removed :=
    (ofTransaction_silent session.resourceId fun entry member => (ran.calls entry member).2).2
  have removes {calls removal : List SessionEntry} {result : HidHideSessionResult}
      {transaction : HidHideSessionTransaction} {between end_ : World}
      {value : Except ByteString Unit}
      (ran : InnerRun env world session operation calls result transaction between)
      (idle : transaction.phase = .idle)
      (isHeld : session.rollbackAction.isSome = true)
      (removed : Removed session.resourceId between removal value end_) :
      WriteAhead session deeds (calls ++ removal) := by
    constructor
    · intro entry member isChange
      rcases mem_append.mp member with call | removing
      · exact runs ran call isChange
      · have quiet := removed.quiet entry removing
        rw [changes isChange] at quiet
        cases quiet
    · intro earlier entry later split removedId isRemoval
      rcases append_eq_append_iff.mp split with
        ⟨more, rfl, rest⟩ | ⟨more, callsSplit, rest⟩
      · obtain ⟨rfl, rfl, before⟩ := removed.first more entry later rest removedId isRemoval
        refine ⟨rfl, fun bytes file => ?_⟩
        rw [before] at file
        rw [append_nil]
        exact recorded.safe spells ran idle isHeld file
      · cases more with
        | nil =>
          rw [append_nil] at callsSplit
          obtain ⟨_, rfl, before⟩ := removed.first [] entry later rest.symm removedId isRemoval
          refine ⟨rfl, fun bytes file => ?_⟩
          rw [before] at file
          rw [← callsSplit]
          exact recorded.safe spells ran idle isHeld file
        | cons head more =>
          have isHead : entry = head := (List.cons.inj rest).1
          have member : entry ∈ calls := by
            rw [callsSplit, isHead]
            exact mem_append_right _ mem_cons_self
          exact absurd isRemoval (keeps ran entry member removedId)
  cases guards with
  | refused _ _ _ | confirmed _ _ => exact nothing
  | unprepared preparing _ _ | unwritten preparing _ _ _ _ | persisted preparing _ _ _ _ _ _ =>
    exact prepares preparing
  | passed ran _ | cleared ran _ _ =>
    constructor
    · intro entry member isChange
      exact runs ran member isChange
    · rintro earlier entry later rfl removed isRemoval
      exact absurd isRemoval (keeps ran entry (mem_append_right _ mem_cons_self) removed)
  | removed ran idle isHeld removed => exact removes ran idle isHeld removed
  | stuck ran idle isHeld failed _ => exact removes ran idle isHeld failed

end

end

variable {transaction : HidHideSessionTransaction}

theorem InnerRun.continues {result : HidHideSessionResult} {after : World}
    (ran : InnerRun env world session operation entries result transaction after)
    (busy : transaction.phase ≠ .idle) :
    transaction.plan = session.transaction.plan ∧
      (transaction = session.transaction ∧ Quiet entries ∨ transaction.phase = .recoveryRequired ∨
        transaction.phase = .active ∧
          ∃ nowMilliseconds plan checks,
            operation = .activate nowMilliseconds ∧
              Approval env world session.transaction plan nowMilliseconds checks) := by
  obtain ⟨inner, isInner, performs⟩ := ran.performs
  cases performs with
  | refused quiet unchanged _ =>
    have same : transaction = session.transaction := unchanged
    exact ⟨congrArg _ same, .inl ⟨same, quiet⟩⟩
  | prepared _ _ _ _ _ _ _ _ =>
    cases operation with
    | _ => cases isInner
  | cancelled _ _ after =>
    have idle : transaction = _ := after
    rw [idle] at busy
    exact absurd rfl busy
  | @activated nowMilliseconds plan checks calls found _ approval _ _ applied =>
    rcases applied.ends with ⟨active, planned⟩ | ends
    · exact ⟨planned.trans approval.planned.symm,
        .inr (.inr ⟨active, _, plan, checks, activate_of_inner isInner, approval⟩)⟩
    · rcases ends with ⟨idle, _⟩ | ⟨recovering, planned⟩
      · exact absurd idle busy
      · exact ⟨planned.trans approval.planned.symm, .inr (.inl recovering)⟩
  | cleaned _ planned _ cleaned =>
    rcases cleaned.ends with ⟨idle, _⟩ | ⟨recovering, kept⟩
    · exact absurd idle busy
    · exact ⟨kept.trans planned.symm, .inr (.inl recovering)⟩

theorem Confirmed.concat (confirmed : Confirmed deeds session plan)
    (deed : GuardedDeed) : Confirmed (deeds ++ [deed]) session plan := by
  obtain ⟨earlier, member, confirms⟩ := confirmed
  exact ⟨earlier, mem_append_left _ member, confirms⟩

theorem Recorded.heldBehind (recorded : Recorded session world deeds) {deed : GuardedDeed}
    {active : Bool}
    (step : deed.entries.foldl holdsAfter session.transaction.sessionEntriesActive = active) :
    blacklistHeld (historyOf (deeds ++ [deed])) = active := by
  have held := recorded.held
  unfold blacklistHeld at held ⊢
  rw [historyOf_concat, foldl_append, held]
  exact step

/-- An operation without calls keeps what is recorded. -/
theorem Recorded.uncalled (recorded : Recorded session world deeds) {deed : GuardedDeed}
    (callless : deed.entries = []) {recoveryArmed : Bool}
    (armed :
      ∀ plan, recoveryArmed = true → session.rollbackAction.isSome = true →
        session.transaction.plan = some plan → Confirmed (deeds ++ [deed]) session plan) :
    Recorded { session with recoveryArmed } world (deeds ++ [deed]) := by
  have same : historyOf (deeds ++ [deed]) = historyOf deeds := by
    rw [historyOf_concat, callless, append_nil]
  exact
    { recorded with
      held := same ▸ recorded.held
      armed := armed
      active := fun plan active planned =>
        (recorded.active plan active planned).imp_left fun confirmed => confirmed.concat _
      fresh := same ▸ recorded.fresh
      leftover := same ▸ recorded.leftover }

/-- A session that holds no action owes a record only while it is active. -/
theorem Recorded.ofDisarmed (coherent : Coherent session.transaction)
    (held : blacklistHeld (historyOf deeds) = session.transaction.sessionEntriesActive)
    (free : session.rollbackAction = none)
    (active :
      ∀ plan, session.transaction.phase = .active →
        session.transaction.plan = some plan →
          (encodeHidHideSessionRecoveryRecord (session.recordOf plan) ≠ [] ∧
            world.files session.resourceId =
              some (encodeHidHideSessionRecoveryRecord (session.recordOf plan))) ∧
            Confirmed deeds session plan ∧
            hashBytes (recordPayload (session.recordOf plan)) ≠ 0) :
    Recorded session world deeds := by
  have unheld : ¬ session.rollbackAction.isSome = true := by
    rw [free]
    exact Bool.false_ne_true
  constructor
  case coherent => exact coherent
  case held => exact held
  case record =>
    intro plan planned kept
    rcases kept with isHeld | isActive
    · exact absurd isHeld unheld
    · exact (active plan isActive planned).1
  case action =>
    intro action plan isHeld
    rw [free] at isHeld
    cases isHeld
  case armed =>
    intro plan _ isHeld
    exact absurd isHeld unheld
  case active =>
    intro plan isActive planned
    exact (active plan isActive planned).2
  case fresh =>
    intro isHeld
    exact absurd isHeld unheld
  case leftover =>
    intro isHeld
    exact absurd isHeld unheld

/-- An idle session owes at most that its record can be removed. -/
theorem Recorded.ofIdle (coherent : Coherent session.transaction)
    (held : blacklistHeld (historyOf deeds) = session.transaction.sessionEntriesActive)
    (idle : session.transaction.phase = .idle)
    (leftover :
      session.rollbackAction.isSome = true →
        ∀ bytes, world.files session.resourceId = some bytes →
          SafeToRemove session.resourceId bytes (historyOf deeds)) :
    Recorded session world deeds := by
  have planless {plan : HidHideSessionPlan} (planned : session.transaction.plan = some plan) :
      False := by
    rw [coherent.planned.mp idle] at planned
    cases planned
  constructor
  case coherent => exact coherent
  case held => exact held
  case record => exact fun plan planned => (planless planned).elim
  case action => exact fun action plan _ planned => (planless planned).elim
  case armed => exact fun plan _ _ planned => (planless planned).elim
  case active => exact fun plan _ planned => (planless planned).elim
  case fresh =>
    intro _ prepared
    rw [idle] at prepared
    cases prepared
  case leftover => exact fun isHeld _ => leftover isHeld

/-- A session without a plan and without an action is recorded. -/
theorem Recorded.ofFree (coherent : Coherent session.transaction)
    (held : blacklistHeld (historyOf deeds) = session.transaction.sessionEntriesActive)
    (idle : session.transaction.phase = .idle)
    (free : session.rollbackAction = none) :
    Recorded session world deeds := by
  refine .ofIdle coherent held idle fun isHeld => ?_
  rw [free] at isHeld
  cases isHeld

theorem Coherent.prepare (coherent : Coherent transaction)
    (notActive : transaction.phase ≠ .active)
    (notRecovering : transaction.phase ≠ .recoveryRequired)
    (plan : HidHideSessionPlan) :
    Coherent { transaction with plan := some plan, phase := .prepared } := by
  refine ⟨iff_of_false nofun nofun, nofun, ?_⟩
  intro held
  rcases coherent.held held with active | recovering
  · exact absurd active notActive
  · exact absurd recovering notRecovering

theorem Coherent.release (coherent : Coherent transaction)
    (notActive : transaction.phase ≠ .active)
    (notRecovering : transaction.phase ≠ .recoveryRequired) :
    Coherent { transaction with plan := none, phase := .idle } := by
  refine ⟨iff_of_true rfl rfl, nofun, ?_⟩
  intro held
  rcases coherent.held held with active | recovering
  · exact absurd active notActive
  · exact absurd recovering notRecovering

theorem Recorded.passed (recorded : Recorded session world deeds)
    (spells : SpellsRecord session operation)
    {result : HidHideSessionResult} {last : World}
    (ran : InnerRun env world session operation entries result transaction last)
    (busy : transaction.phase ≠ .idle) (reply : GuardedReply) :
    Recorded { session with transaction } last
      (deeds ++
        [⟨session, operation, world, entries, reply, { session with transaction }, last⟩]) := by
  obtain ⟨inner, _, performs⟩ := ran.performs
  obtain ⟨samePlan, continues⟩ := ran.continues busy
  have activation {plan : HidHideSessionPlan} (active : transaction.phase = .active)
      (planned : session.transaction.plan = some plan) :
      session.transaction.phase = .active ∨
        session.rollbackAction.isSome = true ∧ Confirmed deeds session plan ∧
          hashBytes (recordPayload (session.recordOf plan)) ≠ 0 := by
    rcases continues with ⟨same, _⟩ | recovering |
      ⟨_, nowMilliseconds, other, checks, isActivate, approval⟩
    · rw [same] at active
      exact .inl active
    · rw [recovering] at active
      cases active
    · have otherPlanned := approval.planned
      rw [planned] at otherPlanned
      cases otherPlanned
      exact .inr (recorded.approved spells ran isActivate approval)
  constructor
  case coherent => exact performs.coherent recorded.coherent
  case held => exact recorded.heldBehind performs.held
  case record =>
    intro plan planned kept
    rw [samePlan] at planned
    have earlier : session.rollbackAction.isSome = true ∨ session.transaction.phase = .active := by
      rcases kept with isHeld | active
      · exact .inl isHeld
      · exact (activation active planned).symm.imp_left And.left
    rw [ran.files]
    exact recorded.record plan planned earlier
  case action =>
    intro action plan isHeld planned
    rw [samePlan] at planned
    exact recorded.action action plan isHeld planned
  case armed =>
    intro plan armed isHeld planned
    rw [samePlan] at planned
    exact (recorded.armed plan armed isHeld planned).concat _
  case active =>
    intro plan active planned
    rw [samePlan] at planned
    rcases activation active planned with
      before | ⟨_, confirmed, nonzero⟩
    · obtain ⟨confirmed, nonzero⟩ := recorded.active plan before planned
      exact ⟨confirmed.concat _, nonzero⟩
    · exact ⟨confirmed.concat _, nonzero⟩
  case fresh =>
    intro isHeld prepared
    rcases continues with ⟨same, quiet⟩ | recovering | ⟨active, _⟩
    · rw [same] at prepared
      have silent :=
        (ofTransaction_silent session.resourceId fun entry member => (ran.calls entry member).2).1
      rw [historyOf_concat, recordMutated_append quiet silent]
      exact recorded.fresh isHeld prepared
    · rw [recovering] at prepared
      cases prepared
    · rw [active] at prepared
      cases prepared
  case leftover =>
    intro _ idle
    exact absurd idle busy

theorem Recorded.after (recorded : Recorded session world deeds)
    (spells : SpellsRecord session operation)
    {reply : GuardedReply} {after : GuardedHidHideSession} {last : World}
    (guards : Guards env world session operation entries reply after last) :
    Recorded after last (deeds ++ [⟨session, operation, world, entries, reply, after, last⟩]) := by
  cases guards with
  | refused _ _ _ =>
    exact recorded.uncalled rfl fun plan armed isHeld planned =>
      (recorded.armed plan armed isHeld planned).concat _
  | @confirmed action held prepared =>
    refine recorded.uncalled rfl fun plan _ _ planned => ?_
    have isAction := recorded.action action plan held planned
    exact ⟨_, mem_append_right _ (mem_singleton_self _), congrArg _ isAction, rfl, planned⟩
  | unprepared preparing _ files =>
    refine .ofDisarmed recorded.coherent (recorded.heldBehind (preparing.quiet.held _)) rfl ?_
    intro plan active planned
    obtain ⟨confirmed, nonzero⟩ := recorded.active plan active planned
    rw [files]
    exact ⟨recorded.record plan planned (.inr active), confirmed.concat _, nonzero⟩
  | unwritten preparing notActive notRecovering _ _ =>
    exact .ofFree (recorded.coherent.release notActive notRecovering)
      (recorded.heldBehind (preparing.quiet.held _)) rfl rfl
  | persisted preparing notActive notRecovering _ fresh encoded files =>
    exact
      { coherent := recorded.coherent.prepare notActive notRecovering _
        held := recorded.heldBehind (preparing.quiet.held _)
        record := by
          intro plan planned _
          cases planned
          refine ⟨encoded, ?_⟩
          rw [files]
          exact Function.update_self _ _ _
        action := by
          intro action plan isHeld planned
          cases isHeld
          cases planned
          rfl
        armed := by
          intro _ armed
          cases armed
        active := by
          intro _ active
          cases active
        fresh := by
          intro _ _
          unfold recordMutated
          rw [historyOf_concat, foldl_append]
          exact fresh _
        leftover := by
          intro _ idle
          cases idle }
  | passed ran busy => exact recorded.passed spells ran busy _
  | cleared ran idle free =>
    obtain ⟨inner, _, performs⟩ := ran.performs
    exact .ofFree (performs.coherent recorded.coherent) (recorded.heldBehind performs.held) idle rfl
  | removed ran idle isHeld removed =>
    obtain ⟨inner, _, performs⟩ := ran.performs
    refine .ofFree (performs.coherent recorded.coherent) (recorded.heldBehind ?_) idle rfl
    rw [foldl_append, performs.held]
    exact removed.quiet.held _
  | @stuck _ calls removal error result final transaction between _ ran idle
      isHeld failed reported =>
    obtain ⟨inner, _, performs⟩ := ran.performs
    refine .ofIdle (performs.coherent recorded.coherent) (recorded.heldBehind ?_) idle ?_
    · rw [foldl_append, performs.held]
      exact failed.quiet.held _
    · intro _ bytes file
      rw [(failed.refused error rfl).1] at file
      rw [historyOf_concat, ← append_assoc]
      exact (recorded.safe spells ran idle isHeld file).append
        failed.quiet failed.silent failed.blind

end Law

/-- Other processes leave the record files alone. -/
def LeavesRecords (before after : World) : Prop := after.files = before.files

section Life

variable {env : Environment sessionInterface World} {platform : Bool} {resourceId : UInt64}
  {actionId activationOrdinal rollbackTimeoutMilliseconds : UInt32}
  {start world last : World} {session after : GuardedHidHideSession}
  {deeds : List GuardedDeed} {operation : GuardedOperation}
  {entries : List SessionEntry} {reply : GuardedReply}

theorem Recorded.undisturbed (recorded : Recorded session world deeds)
    (leaves : LeavesRecords world last) : Recorded session last deeds where
  coherent := recorded.coherent
  held := recorded.held
  record := by
    rw [leaves]
    exact recorded.record
  action := recorded.action
  armed := recorded.armed
  active := recorded.active
  fresh := recorded.fresh
  leftover := by
    rw [leaves]
    exact recorded.leftover

theorem life_recorded (records : KeepsRecords env)
    (life :
      Lived perform env LeavesRecords
        (.create platform resourceId actionId activationOrdinal
          rollbackTimeoutMilliseconds) start session world deeds)
    (spelled : ∀ deed ∈ deeds, SpellsRecord deed.object deed.operation) :
    Recorded session world deeds := by
  refine life.invariant Recorded ?_ ?_ ?_ spelled
  · intro session operation world deeds recorded
    exact meets_mono (perform_guards records recorded.coherent operation world)
      fun entries outcome after guards spells => recorded.after spells guards
  · intro session first last deeds recorded leaves
    exact recorded.undisturbed leaves
  · exact .ofFree ⟨iff_of_true rfl rfl, nofun, nofun⟩ rfl rfl rfl

/-- In a life whose activations all have a record with a checksum, every
change comes behind its record and its armed action. -/
theorem life_writes_ahead (records : KeepsRecords env)
    (life :
      Lived perform env LeavesRecords
        (.create platform resourceId actionId activationOrdinal
          rollbackTimeoutMilliseconds) start session world deeds)
    (spelled : ∀ deed ∈ deeds, SpellsRecord deed.object deed.operation)
    (spells : SpellsRecord session operation)
    (ran : Ran env (session.perform operation) world entries (reply, after) last) :
    WriteAhead session deeds entries :=
  have recorded := life_recorded records life spelled
  recorded.writeAhead spells (perform_guards records recorded.coherent operation world _ _ _ ran)

end Life

def sampleSession (resourceId : UInt64) : GuardedHidHideSession := .create true resourceId 1 1 1000

def samplePreparing (resourceId : UInt64) (request : HidHideSessionRequest) :
    (GuardedReply × GuardedHidHideSession) × World :=
  exec obligingPlatform ((sampleSession resourceId).perform (.prepare request 0)) untouchedWorld

/-- A session that prepared a request and confirmed its action. -/
def sampleArming (resourceId : UInt64) (request : HidHideSessionRequest) :
    (GuardedReply × GuardedHidHideSession) × World :=
  exec obligingPlatform
    ((samplePreparing resourceId request).1.2.perform
      (.confirmRecoveryArmed
        (makeHidHideSessionRollbackAction 1 1 1000 request.generation resourceId)))
    (samplePreparing resourceId request).2

def sampleActivation (resourceId : UInt64) (request : HidHideSessionRequest) : List SessionEntry :=
  entriesOf obligingPlatform ((sampleArming resourceId request).1.2.perform (.activate 1))
    (sampleArming resourceId request).2

theorem sampleArming_life (resourceId : UInt64) (request : HidHideSessionRequest) :
    ∃ deeds : List GuardedDeed,
      Lived perform platformEnvironment LeavesRecords (sampleSession resourceId) untouchedWorld
          (sampleArming resourceId request).1.2
          (sampleArming resourceId request).2 deeds ∧
        ∀ deed ∈ deeds, SpellsRecord deed.object deed.operation := by
  refine ⟨_,
    (Lived.start.exec obligingPlatform_allowed
      (prepare request 0)).exec obligingPlatform_allowed (confirmRecoveryArmed _), ?_⟩
  intro deed member nowMilliseconds plan isActivate
  rcases mem_append.mp member with first | second
  · rw [nil_append, mem_singleton] at first
    rw [first] at isActivate
    cases isActivate
  · rw [mem_singleton] at second
    rw [second] at isActivate
    cases isActivate

theorem sample_activation_writes_ahead :
    ∃ deeds,
      WriteAhead (sampleArming 1 sampleRequest).1.2 deeds (sampleActivation 1 sampleRequest) ∧
        ∃ entry ∈ sampleActivation 1 sampleRequest,
          entry.request = .writeState samplePlan.applied := by
  obtain ⟨deeds, life, spelled⟩ := sampleArming_life 1 sampleRequest
  have planned : (sampleArming 1 sampleRequest).1.2.transaction.plan = some samplePlan := by
    decide
  have nonzero :
      hashBytes (recordPayload ((sampleArming 1 sampleRequest).1.2.recordOf samplePlan)) ≠ 0 := by
    decide +kernel
  have writes :
      ((sampleActivation 1 sampleRequest).any
        fun entry => entry.request == .writeState samplePlan.applied) =
        true := by
    decide
  refine ⟨deeds,
    life_writes_ahead platform_keepsRecords life spelled ?_ (obligingPlatform_ran _ _), ?_⟩
  · intro nowMilliseconds plan _ _ _ _ isPlan _ _ _
    rw [planned] at isPlan
    cases isPlan
    exact nonzero
  · obtain ⟨entry, member, isWrite⟩ := any_eq_true.mp writes
    exact ⟨entry, member, beq_iff_eq.mp isWrite⟩

/-- A request whose record has a zero checksum. -/
def unspelledRequest : HidHideSessionRequest :=
  { sampleRequest with generation := 728459559177945096 }

def unspelledResource : UInt64 := 440517190514245891

/-- An activation changes the platform over a record that nobody can read
back. -/
theorem zero_checksum_activates :
    ¬ ∀ (session after : GuardedHidHideSession) (world last : World)
        (deeds : List GuardedDeed) (operation : GuardedOperation)
        (entries : List SessionEntry) (reply : GuardedReply),
      Lived perform platformEnvironment LeavesRecords
        (sampleSession unspelledResource) untouchedWorld session world
        deeds →
      Ran platformEnvironment (session.perform operation) world entries (reply, after) last →
      WriteAhead session deeds entries := by
  intro claim
  obtain ⟨deeds, life, _⟩ := sampleArming_life unspelledResource unspelledRequest
  have unreadable :
      ((sampleActivation unspelledResource unspelledRequest).any
        fun entry =>
          entry.request == .writeState samplePlan.applied &&
            (entry.before.files unspelledResource).all
              fun bytes => (decodeHidHideSessionRecoveryRecord bytes).toOption == none) =
        true := by
    decide +kernel
  have identity :
      (sampleArming unspelledResource unspelledRequest).1.2.resourceId = unspelledResource := by
    decide
  obtain ⟨entry, member, isWrite⟩ := any_eq_true.mp unreadable
  rw [Bool.and_eq_true, beq_iff_eq] at isWrite
  obtain ⟨plan, bytes, _, file, decoded, _⟩ :=
    (claim _ _ _ _ deeds (.activate 1) _ _ life (obligingPlatform_ran _ _)).ahead entry member
      (.inl ⟨_, isWrite.1⟩)
  rw [identity] at file
  have undecoded := isWrite.2
  rw [file, Option.all_some, decoded] at undecoded
  cases undecoded

end HydraSeat.HidHide
