import HydraSeat.HidHide.RecordLifecycle

/-!
# The recovery executor

A restart puts the captured state back from its record, without the session
that wrote it.  `Restoring` is what the executor and the rollback of a
session have in common.
-/

namespace HydraSeat.HidHide

open Foundation
open Foundation.Command
open Watchdog

structure HidHideSessionRollbackExecutor where
  platform : Bool := true

def outcome (action : RollbackActionDescriptor) (result : RollbackActionResult)
    (systemError : UInt32) : RollbackActionOutcome where
  actionId := action.actionId
  kind := action.kind
  result
  systemError

namespace HidHideSessionRollbackExecutor

/-- `restoreSnapshotState` behind its write. -/
def verifyRecord (action : RollbackActionDescriptor) (record : HidHideSessionRecoveryRecord) :
    SessionProgram RollbackActionOutcome := do
  let restored ← callSession .readState
  if !restored.succeeded || !equivalentHidHideSessionSnapshots restored.snapshot record.before then
    return outcome action .failed 0
  else
    return outcome action .success 0

/-- `restoreSnapshotState` behind its load. -/
def restoreRecord (self : HidHideSessionRollbackExecutor) (action : RollbackActionDescriptor)
    (record : HidHideSessionRecoveryRecord) :
    SessionProgram RollbackActionOutcome := do
  if record.generation ≠ action.generation then
    return outcome action .identityMismatch 0
  else if !self.platform then
    return outcome action .unsupported 0
  else
    let current ← callSession .readState
    if !current.succeeded then
      return outcome action .failed 0
    else if
        equivalentHidHideSessionSnapshots current.snapshot record.before then
      return outcome action .alreadySatisfied 0
    else if
        !equivalentHidHideSessionSnapshots current.snapshot record.applied then
      return outcome action .identityMismatch 0
    else if !(← callSession .mutationSupported) then
      return outcome action .unsupported 0
    else
      let written ← callSession (.writeState record.before)
      if !written.succeeded then
        return outcome action .failed 0
      else verifyRecord action record

def restoreSnapshotState (self : HidHideSessionRollbackExecutor)
    (action : RollbackActionDescriptor) :
    SessionProgram RollbackActionOutcome := do
  if action.kind ≠ .restoreSnapshotState ∨ action.resourceId = 0 ∨ action.generation = 0 then
    return outcome action .invalidAction 0
  else
    let loaded ← HidHideSessionSnapshotStore.load action.resourceId
    match loaded.status, loaded.record with
    | .success, some record => self.restoreRecord action record
    | _, _ => return outcome action .failed loaded.systemError

end HidHideSessionRollbackExecutor

/-- A platform and a store on which reads and writes succeed. -/
def workingEnvironment : Environment sessionInterface World :=
  fun before request =>
    match request with
    | .readState => fun answer _ => (answer : ReadReply).succeeded = true
    | .mutationSupported => fun answer _ => (answer : Bool) = true
    | .writeState snapshot => fun answer after =>
      (answer : Reply).succeeded = true ∧ sameSnapshot after.persistent snapshot = true
    | .fileSize _ => fun answer _ => ∀ systemError, (answer : SizeReply) ≠ .failed systemError
    | .readFile resourceId => fun answer _ =>
      (before.files resourceId).isSome = true → ∃ content, (answer : FileReply) = .bytes content
    | _ => fun _ _ => True

def Works (env : Environment sessionInterface World) : Prop :=
  ∀ before request answer after, env before request answer after →
    workingEnvironment before request answer after

def SessionCall.writes : SessionCall → Bool
  | .writeState _ => true
  | _ => false

def Unwritten (entries : List SessionEntry) : Prop :=
  ∀ entry ∈ entries, entry.request.writes = false

theorem Unwritten.nil : Unwritten [] := by
  intro entry member
  cases member

variable {first : SessionEntry}

theorem Unwritten.cons {entries : List SessionEntry}
    (unwritten : Unwritten entries)
    (notWrite : first.request.writes = false) :
    Unwritten (first :: entries) := by
  intro entry member
  rcases List.mem_cons.mp member with rfl | later
  · exact notWrite
  · exact unwritten entry later

theorem not_writeState {request : SessionCall} (notWrite : request.writes = false)
    (snapshot : HidHideSessionSnapshot) :
    request ≠ .writeState snapshot := by
  rintro rfl
  cases notWrite

def Known (before applied : HidHideSessionSnapshot) (world : World) : Prop :=
  sameSnapshot world.persistent before = true ∨ sameSnapshot world.persistent applied = true

/-- A way back from one state to another: it writes over nothing but the
state it undoes, is not satisfied with anything else, and does put the state
back where it is able to. -/
structure Restoring (env : Environment sessionInterface World) (able : Prop)
    (before applied : HidHideSessionSnapshot) (world : World)
    (entries : List SessionEntry) (isSatisfied : Prop) (after : World) :
    Prop where
  files : after.files = world.files
  owned :
    ∀ entry ∈ entries, ∀ snapshot, entry.request = .writeState snapshot →
      snapshot = before ∧ entry.before.persistent = world.persistent ∧
        sameSnapshot world.persistent applied = true
  foreign : ¬ Known before applied world → ¬ isSatisfied
  restores :
    Works env → Known before applied world →
      Known before applied after ∧
        (able ∨ sameSnapshot world.persistent before = true →
          sameSnapshot after.persistent before = true)

section Ways

variable {env : Environment sessionInterface World}
  {able isSatisfied : Prop} {before applied : HidHideSessionSnapshot}
  {world after : World} {entries : List SessionEntry}

theorem Restoring.stop (foreign : ¬ Known before applied world → ¬ isSatisfied)
    (restores :
      Works env → Known before applied world → able → sameSnapshot world.persistent before = true) :
    Restoring env able before applied world [] isSatisfied world where
  files := rfl
  owned entry member := by
    cases member
  foreign := foreign
  restores works known := ⟨known, Or.rec (restores works known) id⟩

theorem Restoring.fail (unsatisfied : ¬ isSatisfied) (broken : Works env → ¬ able) :
    Restoring env able before applied world [] isSatisfied world :=
  .stop (fun _ => unsatisfied) fun works _ isAble => absurd isAble (broken works)

theorem Restoring.cons
    (restoring : Restoring env able before applied world entries isSatisfied after)
    (notWrite : first.request.writes = false) :
    Restoring env able before applied world (first :: entries) isSatisfied after where
  files := restoring.files
  owned := by
    intro entry member snapshot isWrite
    rcases List.mem_cons.mp member with rfl | later
    · exact absurd isWrite (not_writeState notWrite snapshot)
    · exact restoring.owned entry later snapshot isWrite
  foreign := restoring.foreign
  restores := restoring.restores

theorem Restoring.append {more : List SessionEntry}
    (restoring : Restoring env able before applied world more isSatisfied after)
    (unwritten : Unwritten entries) :
    Restoring env able before applied world (entries ++ more) isSatisfied after := by
  induction entries with
  | nil => exact restoring
  | cons first entries ih =>
    rw [List.cons_append]
    refine Restoring.cons ?_ (unwritten first List.mem_cons_self)
    exact ih fun entry member => unwritten entry (List.mem_cons_of_mem first member)

theorem Restoring.write {written : Reply} {rest : List SessionEntry}
    (owned : sameSnapshot world.persistent applied = true)
    (persistent : HidHideSessionSnapshot) (unwritten : Unwritten rest)
    (restores : Works env → sameSnapshot persistent before = true) :
    Restoring env able before applied world
      (⟨world, .writeState before, written⟩ :: rest) isSatisfied
      { world with persistent } where
  files := rfl
  owned := by
    intro entry member snapshot isWrite
    rcases List.mem_cons.mp member with rfl | later
    · cases isWrite
      exact ⟨rfl, rfl, owned⟩
    · exact absurd isWrite (not_writeState (unwritten entry later) snapshot)
  foreign unknown := absurd (.inr owned) unknown
  restores works _ := ⟨.inl (restores works), fun _ => restores works⟩

section

variable (restoring : Restoring env able before applied world entries isSatisfied after)
include restoring

theorem Restoring.mono {ableToo satisfiedToo : Prop}
    (able_of : ableToo → able) (satisfied_of : satisfiedToo → isSatisfied) :
    Restoring env ableToo before applied world entries satisfiedToo after where
  files := restoring.files
  owned := restoring.owned
  foreign unknown reported := restoring.foreign unknown (satisfied_of reported)
  restores works known := (restoring.restores works known).imp_right
    fun restores isAble => restores (isAble.imp_left able_of)

theorem Restoring.unwritten (unknown : ¬ Known before applied world) : Unwritten entries := by
  rintro ⟨at_, request, answer⟩ member
  cases request with
  | writeState snapshot =>
    obtain ⟨_, _, owned⟩ := restoring.owned _ member snapshot rfl
    exact absurd (.inr owned) unknown
  | _ => rfl

end

end Ways

def StoredRecord (world : World) (resourceId : UInt64)
    (record : HidHideSessionRecoveryRecord) : Prop :=
  record.resourceId = resourceId ∧
    ∃ bytes, world.files resourceId = some bytes ∧
      decodeHidHideSessionRecoveryRecord bytes = .ok record

structure Loaded (env : Environment sessionInterface World)
    (resourceId : UInt64) (world : World) (entries : List SessionEntry)
    (value : HidHideSnapshotReadResult) (after : World) : Prop where
  unmoved : after = world
  unwritten : Unwritten entries
  sound :
    ∀ record, value.status = .success → value.record = some record →
      StoredRecord world resourceId record
  complete :
    Works env → resourceId ≠ 0 →
      ∀ record, StoredRecord world resourceId record →
        value.status = .success ∧ value.record = some record

section Loading

variable {env : Environment sessionInterface World} {resourceId : UInt64} {world : World}
variable {value : HidHideSnapshotReadResult}

theorem Loaded.fail (failed : value.status ≠ .success)
    (broken : Works env → resourceId ≠ 0 → ∀ record, ¬ StoredRecord world resourceId record) :
    Loaded env resourceId world [] value world where
  unmoved := rfl
  unwritten := .nil
  sound _ succeeded := absurd succeeded failed
  complete works nonzero record stored := absurd stored (broken works nonzero record)

theorem Loaded.cons
    (loaded : Loaded env resourceId world entries value after)
    (notWrite : first.request.writes = false) :
    Loaded env resourceId world (first :: entries) value after where
  unmoved := loaded.unmoved
  unwritten := loaded.unwritten.cons notWrite
  sound := loaded.sound
  complete := loaded.complete

theorem decoded_size {bytes : List UInt8} {record : HidHideSessionRecoveryRecord}
    (decoded : decodeHidHideSessionRecoveryRecord bytes = .ok record) :
    bytes.length ≤ kHidHideSnapshotMaxFileBytes := by
  unfold decodeHidHideSessionRecoveryRecord at decoded
  rw [except_check_eq_ok_iff, not_or, Nat.not_lt, Nat.not_lt] at decoded
  exact decoded.1.2

theorem loadedBytes_loaded {content : List UInt8} (found : world.files resourceId = some content) :
    Loaded env resourceId world [] (HidHideSessionSnapshotStore.loadedBytes resourceId content)
      world := by
  unfold HidHideSessionSnapshotStore.loadedBytes
  split
  next text undecoded =>
    refine .fail nofun ?_
    rintro _ _ record ⟨_, bytes, file, decoded⟩
    rw [found] at file
    cases file
    rw [undecoded] at decoded
    cases decoded
  next record decoded =>
    split
    next other =>
      refine .fail nofun ?_
      rintro _ _ stored ⟨same, bytes, file, storedDecoded⟩
      rw [found] at file
      cases file
      rw [decoded] at storedDecoded
      cases storedDecoded
      exact other same
    next same =>
      rw [not_not] at same
      refine ⟨rfl, .nil, ?_, ?_⟩
      · intro loaded _ isRecord
        cases isRecord
        exact ⟨same, content, found, decoded⟩
      rintro _ _ stored ⟨_, bytes, file, storedDecoded⟩
      rw [found] at file
      cases file
      rw [decoded] at storedDecoded
      cases storedDecoded
      exact ⟨rfl, rfl⟩

theorem load_meets (truthful : Truthful env) (resourceId : UInt64) (world : World) :
    Meets env (HidHideSessionSnapshotStore.load resourceId) world
      (Loaded env resourceId world) := by
  unfold HidHideSessionSnapshotStore.load
  split
  next zero => exact meets_pure (.fail nofun fun _ nonzero => absurd zero nonzero)
  · refine meets_ask fun size middle happened => ?_
    obtain ⟨rfl, told⟩ := truthful _ _ _ _ happened
    cases size with
    | missing systemError =>
      have absent : middle.files resourceId = none := told
      refine meets_pure ((Loaded.fail (by nofun) ?_).cons rfl)
      rintro _ _ record ⟨_, bytes, file, _⟩
      rw [absent] at file
      cases file
    | failed systemError =>
      refine meets_pure ((Loaded.fail (by nofun) ?_).cons rfl)
      intro works
      exact absurd rfl (works _ _ _ _ happened systemError)
    | size bytes =>
      obtain ⟨content, found, isSize⟩ :
          ∃ content, middle.files resourceId = some content ∧ content.length = bytes := told
      dsimp only
      split
      next long =>
        refine meets_pure ((Loaded.fail (by nofun) ?_).cons rfl)
        rintro _ _ record ⟨_, bytes, file, decoded⟩
        rw [found] at file
        cases file
        have short := decoded_size decoded
        omega
      · refine meets_ask fun read after happened => ?_
        obtain ⟨rfl, told⟩ := truthful _ _ _ _ happened
        have answered : Works env → ∃ content, read = .bytes content := by
          intro works
          refine works _ _ _ _ happened ?_
          rw [found]
          rfl
        cases read with
        | notOpened | incomplete =>
          refine meets_pure (((Loaded.fail (by nofun) ?_).cons rfl).cons rfl)
          intro works
          obtain ⟨_, isBytes⟩ := answered works
          cases isBytes
        | bytes content =>
          exact meets_pure (((loadedBytes_loaded (told content rfl)).cons rfl).cons rfl)

end Loading

section Restorations

variable {env : Environment sessionInterface World}
variable {transaction : HidHideSessionTransaction}

theorem verifyRecord_meets (truthful : Truthful env) (action : RollbackActionDescriptor)
    (record : HidHideSessionRecoveryRecord) (world : World) :
    Meets env (HidHideSessionRollbackExecutor.verifyRecord action record) world
      fun entries _ after => after = world ∧ Unwritten entries := by
  refine meets_ask fun restored middle happened => ?_
  obtain ⟨rfl, _⟩ := truthful _ _ _ _ happened
  split
  · exact meets_pure ⟨rfl, Unwritten.nil.cons rfl⟩
  · exact meets_pure ⟨rfl, Unwritten.nil.cons rfl⟩

theorem restoreRecord_meets (truthful : Truthful env) (executor : HidHideSessionRollbackExecutor)
    (action : RollbackActionDescriptor)
    (record : HidHideSessionRecoveryRecord) (world : World) :
    Meets env (executor.restoreRecord action record) world
      fun entries value after =>
        Restoring env (executor.platform = true ∧ action.generation = record.generation)
          record.before record.applied world entries
          (satisfied value.result = true) after := by
  unfold HidHideSessionRollbackExecutor.restoreRecord equivalentHidHideSessionSnapshots
  split
  next other => exact meets_pure (.fail (by nofun) fun _ able => other able.2.symm)
  split
  next absent =>
    refine meets_pure (.fail (by nofun) fun _ able => ?_)
    rw [able.1] at absent
    cases absent
  refine meets_ask fun current middle happened => ?_
  obtain ⟨rfl, told⟩ := truthful _ _ _ _ happened
  split
  next failed =>
    refine meets_pure ((Restoring.fail (by nofun) fun works => ?_).cons rfl)
    have succeeded : current.succeeded = true := works _ _ _ _ happened
    rw [succeeded] at failed
    cases failed
  next succeeded =>
    rw [Bool.not_eq_true', Bool.not_eq_false] at succeeded
    rw [told succeeded]
    split
    next restored =>
      exact meets_pure
        ((Restoring.stop (fun unknown => absurd (.inl restored) unknown)
          fun _ _ _ => restored).cons rfl)
    next notBefore =>
      split
      next foreign =>
        rw [Bool.not_eq_true'] at foreign
        refine meets_pure ((Restoring.stop (fun _ => by nofun) fun _ known _ => ?_).cons rfl)
        rcases known with isBefore | isApplied
        · exact absurd isBefore notBefore
        · rw [foreign] at isApplied
          cases isApplied
      next owned =>
        rw [Bool.not_eq_true', Bool.not_eq_false] at owned
        refine meets_ask fun supported after happened => ?_
        have kept : after = middle := truthful _ _ _ _ happened
        subst kept
        split
        next unsupported =>
          refine meets_pure (((Restoring.fail (by nofun) fun works => ?_).cons rfl).cons rfl)
          have able : supported = true := works _ _ _ _ happened
          rw [able] at unsupported
          cases unsupported
        · refine meets_ask fun written last happened => ?_
          obtain ⟨persistent, rfl⟩ := truthful _ _ _ _ happened
          have restores (works : Works env) : sameSnapshot persistent record.before = true :=
            (works _ _ _ _ happened).2
          split
          · exact meets_pure (((Restoring.write owned persistent .nil restores).cons rfl).cons rfl)
          · refine meets_mono (verifyRecord_meets truthful action record _)
              fun entries value after verified => ?_
            obtain ⟨rfl, unwritten⟩ := verified
            exact ((Restoring.write owned persistent unwritten restores).cons rfl).cons rfl

theorem becomeIdle_unplanned (transaction : HidHideSessionTransaction) (expired : Bool)
    (code : HidHideSessionResultCode) (expiredText text : String)
    (plan : HidHideSessionPlan) :
    (transaction.becomeIdle expired code expiredText text).2.plan ≠ some plan := by
  have free : (transaction.becomeIdle expired code expiredText text).2.plan = none := rfl
  rw [free]
  nofun

theorem verifyRestored_restores (truthful : Truthful env)
    (transaction : HidHideSessionTransaction) (plan : HidHideSessionPlan)
    (expired sessionCleared : Bool) (sessionClearError : ByteString)
    (world : World) :
    Meets env (transaction.verifyRestored plan expired sessionCleared sessionClearError)
      world fun entries outcome after =>
        (after = world ∧ Unwritten entries) ∧
          ∀ planned, outcome.2.plan = some planned → transaction.plan = some planned := by
  refine meets_ask fun restored middle happened => ?_
  obtain ⟨rfl, _⟩ := truthful _ _ _ _ happened
  split
  · exact meets_pure ⟨⟨rfl, Unwritten.nil.cons rfl⟩, fun _ => id⟩
  split
  · exact meets_pure ⟨⟨rfl, Unwritten.nil.cons rfl⟩, fun _ => id⟩
  · exact meets_pure ⟨⟨rfl, Unwritten.nil.cons rfl⟩, fun other planned =>
      absurd planned (becomeIdle_unplanned _ _ _ _ _ other)⟩

theorem restoreState_restores (truthful : Truthful env)
    (transaction : HidHideSessionTransaction) (plan : HidHideSessionPlan)
    (expired sessionCleared : Bool) (sessionClearError : ByteString)
    (world : World) :
    Meets env (transaction.restoreState plan expired sessionCleared sessionClearError)
      world fun entries outcome after =>
        Restoring env True plan.before plan.applied world entries (outcome.1.phase = .idle) after ∧
          ∀ planned, outcome.2.plan = some planned → transaction.plan = some planned := by
  refine meets_ask fun read middle happened => ?_
  obtain ⟨rfl, told⟩ := truthful _ _ _ _ happened
  split
  next failed =>
    refine meets_pure ⟨(Restoring.fail (by nofun) fun works => ?_).cons rfl, fun _ => id⟩
    have succeeded : read.succeeded = true := works _ _ _ _ happened
    rw [succeeded] at failed
    cases failed
  next succeeded =>
    rw [Bool.not_eq_true', Bool.not_eq_false] at succeeded
    rw [told succeeded]
    have normalized (snapshot : HidHideSessionSnapshot) :
        sameSnapshot (normalizedSnapshot middle.persistent) snapshot =
          sameSnapshot middle.persistent snapshot := by
      have same := sameSnapshot_normalized middle.persistent
      rw [Bool.eq_iff_iff]
      exact ⟨sameSnapshot_trans same, sameSnapshot_trans (sameSnapshot_symm same)⟩
    dsimp only
    rw [normalized, normalized]
    split
    next restored =>
      have stop {isSatisfied : Prop} :
          Restoring env True plan.before plan.applied middle [] isSatisfied middle :=
        .stop (fun unknown => absurd (.inl restored) unknown) fun _ _ _ => restored
      split
      · exact meets_pure ⟨stop.cons rfl, fun _ => id⟩
      · exact meets_pure ⟨stop.cons rfl, fun other planned =>
          absurd planned (becomeIdle_unplanned _ _ _ _ _ other)⟩
    next notBefore =>
      split
      next foreign =>
        rw [Bool.not_eq_true'] at foreign
        refine meets_pure
          ⟨(Restoring.stop (fun _ => by nofun) fun _ known _ => ?_).cons rfl, fun _ => id⟩
        rcases known with isBefore | isApplied
        · exact absurd isBefore notBefore
        · rw [foreign] at isApplied
          cases isApplied
      next owned =>
        rw [Bool.not_eq_true', Bool.not_eq_false] at owned
        refine meets_ask fun written last happened => ?_
        obtain ⟨persistent, rfl⟩ := truthful _ _ _ _ happened
        have restores (works : Works env) : sameSnapshot persistent plan.before = true :=
          (works _ _ _ _ happened).2
        split
        · exact meets_pure ⟨(Restoring.write owned persistent .nil restores).cons rfl, fun _ => id⟩
        refine meets_mono
          (verifyRestored_restores truthful transaction plan expired
            sessionCleared sessionClearError _)
          fun entries outcome after verified => ?_
        obtain ⟨⟨rfl, unwritten⟩, kept⟩ := verified
        exact ⟨(Restoring.write owned persistent unwritten restores).cons rfl, kept⟩

theorem rollback_restores (truthful : Truthful env) {plan : HidHideSessionPlan}
    (planned : transaction.plan = some plan) (world : World) :
    Meets env transaction.rollback world
      fun entries outcome after =>
        Restoring env (transaction.phase = .active ∧ transaction.platform = true)
            plan.before plan.applied world entries
            (transaction.phase = .active ∧ outcome.1.phase = .idle) after ∧
          ∀ other, outcome.2.plan = some other → transaction.plan = some other := by
  unfold HidHideSessionTransaction.rollback HidHideSessionTransaction.rollbackInternal
  rw [planned]
  dsimp only
  have inactive {other : HidHideSessionPhase} {rest : Prop}
      (isOther : transaction.phase = other) (different : other ≠ .active) :
      ¬ (transaction.phase = .active ∧ rest) := by
    rw [isOther]
    exact fun both => different both.1
  split
  next recovering =>
    refine meets_pure ⟨.fail ?_ fun _ => ?_, fun other same => ?_⟩
    · exact inactive recovering nofun
    · exact inactive recovering nofun
    · rw [← planned]
      exact same
  split
  next prepared =>
    refine meets_pure ⟨.fail ?_ fun _ => ?_, fun other planned =>
      absurd planned (becomeIdle_unplanned _ _ _ _ _ other)⟩
    · exact inactive prepared nofun
    · exact inactive prepared nofun
  split
  next absent =>
    refine meets_pure ⟨.fail ?_ fun _ => ?_, fun other same => ?_⟩
    · rintro ⟨_, idle⟩
      cases idle
    · rintro ⟨_, there⟩
      rw [there] at absent
      cases absent
    · rw [← planned]
      exact same
  unfold HidHideSessionTransaction.cleanUp
  dsimp only
  split
  · refine meets_ask fun cleared middle happened => ?_
    have kept : middle = world := truthful _ _ _ _ happened
    subst kept
    refine meets_mono (restoreState_restores truthful _ plan false _ _ _)
      fun entries outcome after law => ?_
    obtain ⟨restoring, kept⟩ := law
    refine ⟨(restoring.mono (fun _ => trivial) And.right).cons rfl, ?_⟩
    rw [← planned]
    exact kept
  · refine meets_mono (restoreState_restores truthful _ plan false _ _ _)
      fun entries outcome after law => ?_
    obtain ⟨restoring, kept⟩ := law
    refine ⟨restoring.mono (fun _ => trivial) And.right, ?_⟩
    rw [← planned]
    exact kept

theorem rollback_without_plan (free : transaction.plan = none) (world : World) :
    Meets env transaction.rollback world
      fun entries outcome after => entries = [] ∧ after = world ∧ outcome.2.plan = none := by
  unfold HidHideSessionTransaction.rollback HidHideSessionTransaction.rollbackInternal
  rw [free]
  exact meets_pure ⟨rfl, rfl, rfl⟩

end Restorations

end HydraSeat.HidHide
