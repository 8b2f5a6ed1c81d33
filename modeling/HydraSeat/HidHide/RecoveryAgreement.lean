import HydraSeat.HidHide.RecoveryExecutor

/-!
# Recovery in any order

The executor of a restart and the rollback of the session run in any order
and number over one state.  They agree on what is restored and on what is
foreign.
-/

namespace HydraSeat.HidHide

open Foundation
open Foundation.Command
open Watchdog HidHideSessionTransaction List

inductive RecoveryOperation where
  | restoreSnapshotState (executor : HidHideSessionRollbackExecutor)
      (action : RollbackActionDescriptor)
  | rollback

inductive RecoveryReply where
  | executor (outcome : RollbackActionOutcome)
  | session (result : HidHideSessionResult)

def HidHideSessionTransaction.recover (self : HidHideSessionTransaction) :
    RecoveryOperation → SessionProgram (RecoveryReply × HidHideSessionTransaction)
  | .restoreSnapshotState executor action => do
      let outcome ← executor.restoreSnapshotState action
      return (.executor outcome, self)
  | .rollback => do
      let (result, self) ← self.rollback
      return (.session result, self)

abbrev RecoveryDeed :=
  Deed sessionInterface World HidHideSessionTransaction RecoveryOperation RecoveryReply

/-- The captured and the applied state that a run is about. -/
def IsAbout (deed : RecoveryDeed) (before applied : HidHideSessionSnapshot) : Prop :=
  match deed.operation with
  | .restoreSnapshotState _ action =>
    ∃ record, StoredRecord deed.state action.resourceId record ∧
      record.before = before ∧ record.applied = applied
  | .rollback =>
    ∃ plan, deed.object.plan = some plan ∧ plan.before = before ∧ plan.applied = applied

def ReportsRestored (deed : RecoveryDeed) : Prop :=
  match deed.operation, deed.result with
  | .restoreSnapshotState _ _, .executor outcome => satisfied outcome.result = true
  | .rollback, .session result => deed.object.phase = .active ∧ result.phase = .idle
  | _, _ => False

/-- The run is one of a platform's owner: of an executor with the action of
the stored record, or of the active session. -/
def MayRestore (deed : RecoveryDeed) : Prop :=
  match deed.operation with
  | .restoreSnapshotState executor action =>
    executor.platform = true ∧ action.kind = .restoreSnapshotState ∧
      ∃ record, StoredRecord deed.state action.resourceId record ∧
        action.generation = record.generation
  | .rollback =>
    deed.object.plan.isSome = true ∧ deed.object.phase = .active ∧ deed.object.platform = true

structure RecoveryStep (env : Environment sessionInterface World) (deed : RecoveryDeed) : Prop where
  restoring :
    ∀ before applied, IsAbout deed before applied →
      Restoring env (MayRestore deed) before applied deed.state
        deed.entries (ReportsRestored deed) deed.last
  without :
    (∀ before applied, ¬ IsAbout deed before applied) →
      Unwritten deed.entries ∧ deed.last = deed.state
  planned : ∀ plan, deed.after.plan = some plan → deed.object.plan = some plan

section Steps

variable {env : Environment sessionInterface World}
variable {world : World} {resourceId : UInt64}

theorem StoredRecord.unique {left right : HidHideSessionRecoveryRecord}
    (first : StoredRecord world resourceId left)
    (second : StoredRecord world resourceId right) : left = right := by
  obtain ⟨_, bytes, file, decoded⟩ := first
  obtain ⟨_, others, otherFile, otherDecoded⟩ := second
  rw [file] at otherFile
  cases otherFile
  rw [decoded] at otherDecoded
  cases otherDecoded
  rfl

theorem StoredRecord.nonzero {record : HidHideSessionRecoveryRecord}
    (stored : StoredRecord world resourceId record) :
    resourceId ≠ 0 ∧ record.generation ≠ 0 := by
  obtain ⟨same, bytes, _, decoded⟩ := stored
  obtain ⟨notEmpty, encoded, _⟩ := (decode_eq_ok_iff bytes record).mp decoded
  have valid := ((encode_eq_iff record notEmpty).mp encoded).1
  unfold HidHideSessionRecoveryRecord.Valid validateHidHideSessionRecoveryRecord at valid
  rw [except_check_eq_ok_iff, not_or] at valid
  rw [← same]
  exact valid.1

theorem restoreSnapshotState_meets (truthful : Truthful env)
    (executor : HidHideSessionRollbackExecutor)
    (action : RollbackActionDescriptor) (world : World) :
    Meets env (executor.restoreSnapshotState action) world
      fun entries value after =>
        (∀ record, StoredRecord world action.resourceId record →
          Restoring env
            (executor.platform = true ∧ action.kind = .restoreSnapshotState ∧
              action.generation = record.generation)
            record.before record.applied world entries
            (satisfied value.result = true) after) ∧
          ((∀ record, ¬ StoredRecord world action.resourceId record) →
            Unwritten entries ∧ after = world) := by
  unfold HidHideSessionRollbackExecutor.restoreSnapshotState
  split
  next invalid =>
    refine meets_pure ⟨fun record stored => .fail (by nofun) ?_, fun _ => ⟨.nil, rfl⟩⟩
    rintro _ ⟨_, isRestore, sameGeneration⟩
    obtain ⟨nonzero, generation⟩ := stored.nonzero
    rw [← sameGeneration] at generation
    rcases invalid with otherKind | zero | zero
    · exact otherKind isRestore
    · exact nonzero zero
    · exact generation zero
  next valid =>
    rw [not_or, not_or] at valid
    refine meets_bind (load_meets truthful action.resourceId world)
      fun entries value between loaded => ?_
    obtain ⟨rfl, unwritten, sound, complete⟩ := loaded
    split
    next record succeeded found =>
      have stored := sound record succeeded found
      refine meets_mono (restoreRecord_meets truthful executor action record _)
        fun more outcome after restoring => ⟨?_, ?_⟩
      · intro other otherStored
        cases stored.unique otherStored
        exact (restoring.mono (fun able => ⟨able.1, able.2.2⟩) id).append unwritten
      · intro absent
        exact absurd stored (absent record)
    next unloaded =>
      refine meets_pure ⟨fun record stored => ?_, fun _ => ?_⟩
      · refine (Restoring.fail (by nofun) ?_).append unwritten
        intro works
        obtain ⟨succeeded, found⟩ := complete works valid.2.1 record stored
        exact absurd found (unloaded record succeeded)
      · rw [append_nil]
        exact ⟨unwritten, rfl⟩

theorem recover_meets (truthful : Truthful env) (transaction : HidHideSessionTransaction)
    (operation : RecoveryOperation) (world : World) :
    Meets env (transaction.recover operation) world
      fun entries outcome after =>
        RecoveryStep env ⟨transaction, operation, world, entries, outcome.1, outcome.2, after⟩ := by
  cases operation with
  | restoreSnapshotState executor action =>
    refine meets_bind (restoreSnapshotState_meets truthful executor action world)
      fun entries outcome after law => ?_
    obtain ⟨restoring, without⟩ := law
    refine meets_pure ⟨?_, ?_, fun _ => id⟩
    · rintro before applied ⟨record, stored, rfl, rfl⟩
      rw [append_nil]
      refine (restoring record stored).mono ?_ id
      rintro ⟨there, isRestore, other, otherStored, same⟩
      cases stored.unique otherStored
      exact ⟨there, isRestore, same⟩
    · intro nothing
      rw [append_nil]
      exact without fun record stored => nothing _ _ ⟨record, stored, rfl, rfl⟩
  | rollback =>
    cases planned : transaction.plan with
    | none =>
      refine meets_bind (rollback_without_plan planned world) fun entries outcome after law => ?_
      obtain ⟨rfl, rfl, free⟩ := law
      refine meets_pure ⟨?_, fun _ => ⟨.nil, rfl⟩, ?_⟩
      · rintro before applied ⟨plan, isPlan, _⟩
        have isPlan : transaction.plan = some plan := isPlan
        rw [planned] at isPlan
        cases isPlan
      · intro plan isPlan
        have isPlan : outcome.2.plan = some plan := isPlan
        rw [free] at isPlan
        cases isPlan
    | some plan =>
      refine meets_bind (rollback_restores truthful planned world)
        fun entries outcome after law => ?_
      obtain ⟨restoring, kept⟩ := law
      refine meets_pure ⟨?_, ?_, kept⟩
      · rintro before applied ⟨other, isPlan, rfl, rfl⟩
        have isPlan : transaction.plan = some other := isPlan
        rw [planned] at isPlan
        cases isPlan
        rw [append_nil]
        exact restoring.mono And.right id
      · intro nothing
        exact absurd ⟨plan, planned, rfl, rfl⟩ (nothing _ _)

end Steps

/-- What runs of the executor and rollbacks do, in any order and number. -/
structure RecoveryLaw (env : Environment sessionInterface World) (outside : World → World → Prop)
    (transaction : HidHideSessionTransaction) (start last : World)
    (deeds : List RecoveryDeed) : Prop where
  /-- The applied state is what a write replaces, and the captured one is
  what it writes. -/
  owned :
    ∀ deed ∈ deeds, ∀ entry ∈ deed.entries, ∀ snapshot, entry.request = .writeState snapshot →
      ∃ before applied, IsAbout deed before applied ∧ snapshot = before ∧
        sameSnapshot entry.before.persistent applied = true
  foreign :
    ∀ deed ∈ deeds, ∀ before applied, IsAbout deed before applied →
      ¬ Known before applied deed.state → Unwritten deed.entries ∧ ¬ ReportsRestored deed
  /-- Undisturbed on a working platform, one run is enough. -/
  restores :
    Works env → (∀ before after, outside before after → after = before) →
      ∀ record, StoredRecord start record.resourceId record →
        (∀ plan, transaction.plan = some plan →
          plan.before = record.before ∧ plan.applied = record.applied) →
        (∀ deed ∈ deeds, ∀ executor action,
          deed.operation = .restoreSnapshotState executor action →
            action.resourceId = record.resourceId) →
        Known record.before record.applied start →
        (∃ deed ∈ deeds, MayRestore deed) → sameSnapshot last.persistent record.before = true

section Life

variable {env : Environment sessionInterface World} {outside : World → World → Prop}
  {transaction reached : HidHideSessionTransaction} {start last : World}
  {deeds : List RecoveryDeed}
variable {record : HidHideSessionRecoveryRecord}

theorem life_steps (truthful : Truthful env)
    (life : Lived recover env outside transaction start reached last deeds) :
    ∀ deed ∈ deeds, RecoveryStep env deed := by
  refine life.invariant (fun _ _ deeds => ∀ deed ∈ deeds, RecoveryStep env deed)
    ?_ ?_ ?_ (fun _ _ => trivial : ∀ deed ∈ deeds, True)
  · intro transaction operation world deeds steps
    refine meets_mono (recover_meets truthful transaction operation world)
      fun entries outcome after step _ => ?_
    intro deed member
    rcases mem_append.mp member with earlier | isLast
    · exact steps deed earlier
    · rw [mem_singleton.mp isLast]
      exact step
  · intro transaction first last deeds steps _
    exact steps
  · intro deed member
    cases member

/-- What holds between two runs on a working platform. -/
structure Returning (record : HidHideSessionRecoveryRecord)
    (transaction : HidHideSessionTransaction) (world : World)
    (deeds : List RecoveryDeed) : Prop where
  stored : StoredRecord world record.resourceId record
  covered :
    ∀ plan, transaction.plan = some plan →
      plan.before = record.before ∧ plan.applied = record.applied
  known : Known record.before record.applied world
  restored : (∃ deed ∈ deeds, MayRestore deed) → sameSnapshot world.persistent record.before = true

theorem StoredRecord.files {before after : World} {resourceId : UInt64}
    (stored : StoredRecord before resourceId record)
    (files : after.files = before.files) :
    StoredRecord after resourceId record := by
  obtain ⟨same, bytes, file, decoded⟩ := stored
  refine ⟨same, bytes, ?_, decoded⟩
  rw [files]
  exact file

theorem Returning.step {deed : RecoveryDeed} (works : Works env)
    (returning : Returning record deed.object deed.state deeds)
    (targets :
      ∀ executor action,
        deed.operation = .restoreSnapshotState executor action →
          action.resourceId = record.resourceId)
    (step : RecoveryStep env deed) :
    Returning record deed.after deed.last (deeds ++ [deed]) := by
  have covered :
      ∀ plan, deed.after.plan = some plan →
        plan.before = record.before ∧ plan.applied = record.applied :=
    fun plan planned => returning.covered plan (step.planned plan planned)
  have goesBack (about : IsAbout deed record.before record.applied) :
      Returning record deed.after deed.last (deeds ++ [deed]) := by
    have restoring := step.restoring _ _ about
    obtain ⟨known, restores⟩ := restoring.restores works returning.known
    refine ⟨returning.stored.files restoring.files, covered, known, ?_⟩
    rintro ⟨other, member, may⟩
    apply restores
    rcases mem_append.mp member with earlier | isLast
    · exact .inr (returning.restored ⟨other, earlier, may⟩)
    · rw [mem_singleton.mp isLast] at may
      exact .inl may
  by_cases about : IsAbout deed record.before record.applied
  · exact goesBack about
  obtain ⟨object, operation, state, entries, result, after, last⟩ := deed
  cases operation with
  | restoreSnapshotState executor action =>
    refine absurd ⟨record, ?_, rfl, rfl⟩ about
    rw [targets executor action rfl]
    exact returning.stored
  | rollback =>
    have free : object.plan = none := by
      cases planned : object.plan with
      | none => rfl
      | some plan =>
        obtain ⟨sameBefore, sameApplied⟩ := returning.covered plan planned
        exact absurd ⟨plan, planned, sameBefore, sameApplied⟩ about
    have nothing :
        ∀ before applied,
          ¬ IsAbout ⟨object, .rollback, state, entries, result, after, last⟩ before applied := by
      rintro before applied ⟨plan, planned, _⟩
      have planned : object.plan = some plan := planned
      rw [free] at planned
      cases planned
    have kept : last = state := (step.without nothing).2
    subst kept
    refine ⟨returning.stored, covered, returning.known, ?_⟩
    rintro ⟨other, member, may⟩
    rcases mem_append.mp member with earlier | isLast
    · exact returning.restored ⟨other, earlier, may⟩
    · rw [mem_singleton.mp isLast] at may
      have planned : object.plan.isSome = true := may.1
      rw [free] at planned
      cases planned

/-- Recovery and rollback agree, in any order and number. -/
theorem recovery_law (truthful : Truthful env)
    (life : Lived recover env outside transaction start reached last deeds) :
    RecoveryLaw env outside transaction start last deeds := by
  have steps := life_steps truthful life
  constructor
  case owned =>
    intro deed member entry call snapshot isWrite
    have step := steps deed member
    by_cases about : ∃ before applied, IsAbout deed before applied
    · obtain ⟨before, applied, about⟩ := about
      obtain ⟨isBefore, unmoved, owned⟩ :=
        (step.restoring before applied about).owned entry call snapshot isWrite
      rw [← unmoved] at owned
      exact ⟨before, applied, about, isBefore, owned⟩
    · have nothing : ∀ before applied, ¬ IsAbout deed before applied :=
        fun before applied isAbout => about ⟨before, applied, isAbout⟩
      exact absurd isWrite (not_writeState ((step.without nothing).1 entry call) snapshot)
  case foreign =>
    intro deed member before applied about unknown
    have restoring := (steps deed member).restoring before applied about
    exact ⟨restoring.unwritten unknown, restoring.foreign unknown⟩
  case restores =>
    intro works undisturbed record stored covered targets known
    refine Returning.restored (life.invariant (Returning record) ?_ ?_ ?_ targets)
    · intro transaction operation world deeds returning
      exact meets_mono (recover_meets truthful transaction operation world)
        fun entries outcome after step targets => returning.step works targets step
    · intro transaction first last deeds returning changed
      rw [undisturbed first last changed]
      exact returning
    · refine ⟨stored, covered, known, ?_⟩
      rintro ⟨deed, member, _⟩
      cases member

end Life

def sampleRecord : HidHideSessionRecoveryRecord := makeHidHideSessionRecoveryRecord samplePlan 1

def sampleAction : RollbackActionDescriptor := makeHidHideSessionRollbackAction 1 1 1000 1 1

def appliedWorld : World :=
  World.setFile { persistent := samplePlan.applied } 1
    (some (encodeHidHideSessionRecoveryRecord sampleRecord))

def activeTransaction : HidHideSessionTransaction :=
  { preparedTransaction with phase := .active, sessionEntriesActive := true }

theorem sampleRecord_stored : StoredRecord appliedWorld 1 sampleRecord := by
  have decoded :
      (decodeHidHideSessionRecoveryRecord
          (encodeHidHideSessionRecoveryRecord sampleRecord)).toOption =
        some sampleRecord := by
    decide +kernel
  have file : appliedWorld.files 1 = some (encodeHidHideSessionRecoveryRecord sampleRecord) := by
    change
      Function.update (fun _ : UInt64 => none) 1
          (some (encodeHidHideSessionRecoveryRecord sampleRecord)) 1 =
        some _
    exact Function.update_self _ _ _
  refine ⟨rfl, _, file, ?_⟩
  generalize decodeHidHideSessionRecoveryRecord _ = result at decoded ⊢
  cases result with
  | error => cases decoded
  | ok record =>
    cases decoded
    rfl

theorem sampleRecord_covers (plan : HidHideSessionPlan)
    (planned : activeTransaction.plan = some plan) :
    plan.before = sampleRecord.before ∧ plan.applied = sampleRecord.applied := by
  cases Option.some.inj planned
  exact ⟨rfl, rfl⟩

theorem handled_obliging_truthful : Truthful (handled obligingPlatform) := by
  intro before request answer after happened
  have allowed := obligingPlatform_allowed before request
  rw [show obligingPlatform before request = (answer, after) from happened] at allowed
  exact allowed

theorem handled_obliging_works : Works (handled obligingPlatform) := by
  intro before request answer after happened
  have happened : obligingPlatform before request = (answer, after) := happened
  cases request with
  | readState | mutationSupported =>
    cases happened
    rfl
  | writeState snapshot =>
    cases happened
    exact ⟨rfl, sameSnapshot_refl snapshot⟩
  | fileSize resourceId =>
    intro systemError isFailed
    rw [isFailed] at happened
    unfold obligingPlatform at happened
    dsimp only at happened
    cases found : before.files resourceId with
    | none | some content =>
      rw [found] at happened
      cases happened
  | readFile resourceId =>
    intro there
    obtain ⟨content, found⟩ := Option.isSome_iff_exists.mp there
    unfold obligingPlatform at happened
    dsimp only at happened
    rw [found] at happened
    cases happened
    exact ⟨content, rfl⟩
  | _ => trivial

def sampleRecoveries (handler : World → (request : SessionCall) → request.Answer × World)
    (operations : List RecoveryOperation) : List RecoveryDeed :=
  enact handler recover activeTransaction appliedWorld operations

theorem sampleRecoveries_life (handler : World → (request : SessionCall) → request.Answer × World)
    (operations : List RecoveryOperation) :
    Lived recover (handled handler) (fun _ _ => False) activeTransaction appliedWorld
      (objectBehind activeTransaction (sampleRecoveries handler operations))
      (stateBehind appliedWorld (sampleRecoveries handler operations))
      (sampleRecoveries handler operations) :=
  Lived.start.script (fun _ _ => rfl) operations

theorem sampleRecoveries_may (handler : World → (request : SessionCall) → request.Answer × World)
    (operations : List RecoveryOperation) :
    ∃ deed ∈ sampleRecoveries handler (.restoreSnapshotState {} sampleAction :: operations),
      MayRestore deed :=
  ⟨performed handler recover activeTransaction (.restoreSnapshotState {} sampleAction) appliedWorld,
    mem_cons_self, rfl, rfl, sampleRecord, sampleRecord_stored, rfl⟩

theorem sampleRecoveries_target {handler : World → (request : SessionCall) → request.Answer × World}
    {operations : List RecoveryOperation}
    (expected :
      ∀ operation ∈ operations,
        operation = .rollback ∨ operation = .restoreSnapshotState {} sampleAction)
    (deed : RecoveryDeed)
    (member : deed ∈ sampleRecoveries handler operations)
    (executor : HidHideSessionRollbackExecutor)
    (action : RollbackActionDescriptor)
    (restores : deed.operation = .restoreSnapshotState executor action) :
    action.resourceId = sampleRecord.resourceId := by
  rcases expected deed.operation (enact_operation member) with
    isRollback | isRestore
  · rw [isRollback] at restores
    cases restores
  · rw [isRestore] at restores
    cases restores
    rfl

theorem sample_recovery_restores :
    sameSnapshot
      (stateBehind appliedWorld
        (sampleRecoveries obligingPlatform
          [.restoreSnapshotState {} sampleAction, .rollback,
            .restoreSnapshotState {} sampleAction])).persistent
      sampleRecord.before = true := by
  refine (recovery_law handled_obliging_truthful
    (sampleRecoveries_life _ _)).restores
      handled_obliging_works (fun _ _ never => never.elim) sampleRecord
      sampleRecord_stored sampleRecord_covers ?_
      (.inr (sameSnapshot_refl _)) (sampleRecoveries_may _ _)
  apply sampleRecoveries_target
  intro operation member
  simp only [mem_cons, not_mem_nil, or_false] at member
  rcases member with restores | rolls | restores
  · exact .inr restores
  · exact .inl rolls
  · exact .inr restores

def unreadPlatform (world : World) : (request : SessionCall) → request.Answer × World
  | .readState => (⟨false, {}, []⟩, world)
  | request => obligingPlatform world request

def WritesSucceed (env : Environment sessionInterface World) : Prop :=
  ∀ before snapshot answer after,
    env before (.writeState snapshot) answer after →
      (answer : Reply).succeeded = true ∧ sameSnapshot after.persistent snapshot = true

/-- Where reads fail, the applied state stays. -/
theorem unread_state_stays :
    ¬ ∀ (env : Environment sessionInterface World) (transaction reached : HidHideSessionTransaction)
        (start last : World) (deeds : List RecoveryDeed)
        (record : HidHideSessionRecoveryRecord),
      Truthful env → WritesSucceed env →
      Lived recover env (fun _ _ => False) transaction start reached last deeds →
      StoredRecord start record.resourceId record →
      (∀ plan, transaction.plan = some plan →
        plan.before = record.before ∧ plan.applied = record.applied) →
      (∀ deed ∈ deeds, ∀ executor action,
        deed.operation = .restoreSnapshotState executor action →
          action.resourceId = record.resourceId) →
      Known record.before record.applied start →
      (∃ deed ∈ deeds, MayRestore deed) → sameSnapshot last.persistent record.before = true := by
  intro claim
  have truthful : Truthful (handled unreadPlatform) := by
    intro before request answer after happened
    cases request with
    | readState =>
      cases happened
      exact ⟨rfl, nofun⟩
    | _ => exact handled_obliging_truthful before _ answer after happened
  have writes : WritesSucceed (handled unreadPlatform) := by
    intro before snapshot answer after happened
    cases happened
    exact ⟨rfl, sameSnapshot_refl snapshot⟩
  have stays :
      sameSnapshot
          (stateBehind appliedWorld
            (sampleRecoveries unreadPlatform [.restoreSnapshotState {} sampleAction])).persistent
          sampleRecord.before = false := by
    decide +kernel
  have restored := claim (handled unreadPlatform) activeTransaction _ appliedWorld _ _
    sampleRecord truthful writes
    (sampleRecoveries_life _ [.restoreSnapshotState {} sampleAction])
    sampleRecord_stored sampleRecord_covers
    (sampleRecoveries_target fun operation member => .inr (mem_singleton.mp member))
    (.inr (sameSnapshot_refl _)) (sampleRecoveries_may _ _)
  rw [stays] at restored
  cases restored

end HydraSeat.HidHide
