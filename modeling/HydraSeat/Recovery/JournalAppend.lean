import HydraSeat.Recovery.JournalCodec
import HydraSeat.Watchdog.RollbackRegistry

/-!
# Appending to a journal

A draft is a journal with the state its replay has reached.  A record that
the replay and the plan accept can always be appended, and any number of
prepared or rolled-back actions can be appended one after another.
-/

namespace HydraSeat.Recovery

open Foundation
open Watchdog
open RollbackRegistry List Replay

/-- What a journal of a plan needs besides its records. -/
structure PlanFits (manifest : RollbackPlanManifest) (generation : UInt64)
    (snapshots : List SnapshotReference) : Prop where
  valid : validateRollbackPlan manifest = .ok ()
  hash : isZeroHash (hashRollbackPlanManifest manifest) = false
  generation : generation ≠ 0
  snapshotCount : snapshots.length ≤ kCrashJournalMaxSnapshots
  snapshots : validateSnapshots [] snapshots = .ok ()

/-- A journal of the plan whose records replay to `replay`; `ordinal` is
that of the action rolled back last. -/
structure Draft (manifest : RollbackPlanManifest) (generation : UInt64)
    (snapshots : List SnapshotReference) (state : CrashJournalState)
    (replay : Replay) (ordinal : Option UInt32) : Prop where
  sessionId : state.sessionId = manifest.lease.sessionId
  planHash : state.planHash = hashRollbackPlanManifest manifest
  runtimeGeneration : state.runtimeGeneration = generation
  lease : state.lease = manifest.lease
  snapshots : state.snapshots = snapshots
  phase : state.phase = replay.phase
  finalResult : state.finalResult = replay.finalResult
  knownPhase : knownPhase replay.phase = true
  knownResult : knownFinalResult replay.finalResult = true
  nonempty : state.records ≠ []
  replays : ∀ rest, run {} 0 (state.records ++ rest) = replay.run state.records.length rest
  plans :
    ∀ rest,
      validateRecordsAgainstPlan manifest none (state.records ++ rest) =
        validateRecordsAgainstPlan manifest ordinal rest

section Draft

variable {manifest : RollbackPlanManifest} {generation : UInt64}
  {snapshots : List SnapshotReference} {state : CrashJournalState}
  {replay next : Replay} {ordinal nextOrdinal : Option UInt32}
variable {kind : CrashJournalRecordKind} {actionId : UInt32} {action : RollbackActionDescriptor}
  {actionIds done : List UInt32}

section

variable (draft : Draft manifest generation snapshots state replay ordinal)
include draft

theorem Draft.derived (sized : state.records.length ≤ kCrashJournalMaxRecords) :
    deriveStateFromRecords state.records = .ok replay := by
  unfold deriveStateFromRecords
  rw [if_neg (not_or.mpr ⟨draft.nonempty, Nat.not_lt.mpr sized⟩)]
  have run := draft.replays []
  rw [append_nil] at run
  exact run

section

variable (fits : PlanFits manifest generation snapshots)
include fits

theorem Draft.valid (sized : state.records.length ≤ kCrashJournalMaxRecords) :
    validateCrashJournalState state = .ok () := by
  have plan := validPlan fits.valid
  have timeout := plan.timeout
  unfold leaseTimeoutInRange at timeout
  rw [Bool.and_eq_true, decide_eq_true_eq, decide_eq_true_eq] at timeout
  unfold validateCrashJournalState
  rw [draft.sessionId, draft.planHash, draft.runtimeGeneration,
    draft.lease, draft.snapshots, draft.phase, draft.finalResult,
    if_neg (by simp [plan.session, fits.hash, fits.generation]),
    if_neg (by
      simp only [not_or, ne_eq, not_not]
      exact ⟨trivial, plan.generation, UInt32.not_lt.mpr timeout.1, UInt32.not_lt.mpr timeout.2⟩),
    if_neg (by
      simp [draft.knownPhase, draft.knownResult, Nat.not_lt.mpr fits.snapshotCount]),
    fits.snapshots]
  dsimp only
  rw [draft.derived sized]
  dsimp only
  rw [if_neg (by simp)]

theorem Draft.validAgainstPlan (sized : state.records.length ≤ kCrashJournalMaxRecords) :
    validateCrashJournalAgainstPlan state manifest = .ok () := by
  have planned := draft.plans []
  rw [append_nil] at planned
  unfold validateCrashJournalAgainstPlan
  rw [draft.valid fits sized, fits.valid]
  change
    (if isZeroHash (hashRollbackPlanManifest manifest) = true ∨
        state.planHash ≠ hashRollbackPlanManifest manifest then _
      else _) = _
  rw [if_neg (by simp [fits.hash, draft.planHash]),
    if_neg (by simp [draft.sessionId, draft.lease]), planned]
  rfl

theorem Draft.append {recordGeneration : UInt64}
    (room : state.records.length < kCrashJournalMaxRecords)
    (accepted : validateAppend state manifest kind actionId recordGeneration = .ok ())
    (stepped :
      replay.step state.records.length
          ⟨UInt64.ofNat (state.records.length + 1), kind, actionId, recordGeneration⟩ =
        .ok next)
    (phase : Recovery.knownPhase next.phase = true)
    (result : knownFinalResult next.finalResult = true)
    (planned :
      ∀ rest,
        validateRecordsAgainstPlan manifest ordinal
            (⟨UInt64.ofNat (state.records.length + 1), kind, actionId, recordGeneration⟩ :: rest) =
          validateRecordsAgainstPlan manifest nextOrdinal rest) :
    ∃ after,
      appendCrashJournalRecord state manifest kind actionId recordGeneration = .ok after ∧
        Draft manifest generation snapshots after next nextOrdinal ∧
        after.records.length = state.records.length + 1 := by
  let after : CrashJournalState :=
    { state with
      records :=
        state.records ++
          [⟨UInt64.ofNat (state.records.length + 1), kind, actionId, recordGeneration⟩]
      phase := next.phase, finalResult := next.finalResult }
  have length : after.records.length = state.records.length + 1 := by
    simp [after]
  have drafted : Draft manifest generation snapshots after next nextOrdinal := by
    refine ⟨draft.sessionId, draft.planHash, draft.runtimeGeneration,
      draft.lease, draft.snapshots, rfl, rfl, phase, result, ?_, ?_, ?_⟩
    · simp [after]
    · intro rest
      rw [length]
      change run {} 0 ((state.records ++ [_]) ++ rest) = _
      rw [append_assoc, singleton_append, draft.replays, run, stepped]
    · intro rest
      change validateRecordsAgainstPlan manifest none ((state.records ++ [_]) ++ rest) = _
      rw [append_assoc, singleton_append, draft.plans, planned]
  have sized : after.records.length ≤ kCrashJournalMaxRecords := by
    rw [length]
    exact room
  refine ⟨after, ?_, drafted, length⟩
  unfold appendCrashJournalRecord
  rw [accepted]
  change
    (deriveStateFromRecords after.records >>= fun derived =>
      validateCrashJournalAgainstPlan
          { after with phase := derived.phase, finalResult := derived.finalResult } manifest >>=
        fun _ => pure { after with phase := derived.phase, finalResult := derived.finalResult }) = _
  rw [drafted.derived sized]
  change (validateCrashJournalAgainstPlan after manifest >>= fun _ => pure after) = _
  rw [drafted.validAgainstPlan fits sized]
  rfl

end

end

theorem replay_step {index : Nat} {record : CrashJournalRecord}
    (sequence : record.sequence = UInt64.ofNat (index + 1))
    (generation : record.generation ≠ 0)
    (known : knownRecordKind record.kind = true)
    (shape : actionRecord record.kind = (record.actionId != 0))
    (active : replay.terminal = false) :
    replay.step index record = replay.apply index record := by
  unfold step
  rw [if_neg (by simp [sequence, generation, known]), if_neg (not_not.mpr shape), active]
  rfl

theorem Draft.appendSession (draft : Draft manifest generation snapshots state replay ordinal)
    (fits : PlanFits manifest generation snapshots)
    (room : state.records.length < kCrashJournalMaxRecords)
    (known : knownRecordKind kind = true)
    (session : actionRecord kind = false)
    (active : replay.terminal = false)
    (applied :
      replay.apply state.records.length
          ⟨UInt64.ofNat (state.records.length + 1), kind, 0, generation⟩ =
        .ok next)
    (phase : Recovery.knownPhase next.phase = true)
    (result : knownFinalResult next.finalResult = true) :
    ∃ after,
      appendCrashJournalRecord state manifest kind 0 generation = .ok after ∧
        Draft manifest generation snapshots after next ordinal ∧
        after.records.length = state.records.length + 1 := by
  refine draft.append fits room ?_ ?_ phase result ?_
  · unfold validateAppend
    rw [if_neg (by simp [known, fits.generation, room]), session, if_neg Bool.false_ne_true,
      if_neg (by simp [draft.runtimeGeneration])]
  · rw [replay_step rfl fits.generation known session active]
    exact applied
  · intro rest
    rw [validateRecordsAgainstPlan, session]
    rfl

/-- What a journal and the plan it was validated against share. -/
structure SharesPlan (state : CrashJournalState) (manifest : RollbackPlanManifest) : Prop where
  valid : validateRollbackPlan manifest = .ok ()
  hash : isZeroHash (hashRollbackPlanManifest manifest) = false
  planHash : state.planHash = hashRollbackPlanManifest manifest
  sessionId : state.sessionId = manifest.lease.sessionId
  lease : state.lease = manifest.lease

theorem validateCrashJournalAgainstPlan_shares
    (matches_ : validateCrashJournalAgainstPlan state manifest = .ok ()) :
    SharesPlan state manifest := by
  obtain ⟨_, _, planned⟩ := except_bind_eq_ok matches_
  obtain ⟨_, valid, shared⟩ := except_bind_eq_ok planned
  dsimp only at shared
  obtain ⟨hashes, shared⟩ := not_taken shared nofun
  obtain ⟨identities, shared⟩ := not_taken shared nofun
  rw [not_or, Bool.not_eq_true, ne_eq, not_not] at hashes
  rw [not_or, ne_eq, not_not, ne_eq, not_not] at identities
  exact ⟨valid, hashes.1, hashes.2, identities.1, identities.2⟩

theorem makeInitialCrashJournal_draft (fits : PlanFits manifest generation snapshots) :
    ∃ initial,
      makeInitialCrashJournal manifest generation snapshots = .ok initial ∧
        Draft manifest generation snapshots initial {} none ∧
        initial.records.length = 1 := by
  let initial : CrashJournalState :=
    { sessionId := manifest.lease.sessionId, planHash := hashRollbackPlanManifest manifest
      runtimeGeneration := generation, lease := manifest.lease, phase := .preparing
      finalResult := .none, records := [⟨1, .activationStarted, 0, generation⟩]
      snapshots := snapshots }
  have stepped : step {} 0 ⟨1, .activationStarted, 0, generation⟩ = .ok {} := by
    rw [replay_step rfl fits.generation rfl rfl rfl]
    rfl
  have draft : Draft manifest generation snapshots initial {} none := by
    refine ⟨rfl, rfl, rfl, rfl, rfl, rfl, rfl, rfl, rfl, ?_, ?_, ?_⟩
    · exact cons_ne_nil _ _
    · intro rest
      change run {} 0 (⟨1, .activationStarted, 0, generation⟩ :: rest) = _
      rw [run, stepped]
      rfl
    · intro rest
      rfl
  refine ⟨initial, ?_, draft, rfl⟩
  unfold makeInitialCrashJournal
  rw [if_neg (by
    simp [fits.valid, fits.generation, Nat.not_lt.mpr fits.snapshotCount])]
  dsimp only
  rw [if_neg (by simp [fits.hash])]
  have valid := draft.validAgainstPlan fits (show 1 ≤ kCrashJournalMaxRecords by decide)
  split
  next refused => cases valid.symm.trans refused
  · rfl

theorem findAction_self (valid : validateRollbackPlan manifest = .ok ())
    (member : action ∈ manifest.actions) :
    findAction manifest action.actionId = some action := by
  have unique := (validPlan valid).actionIds
  unfold findAction
  generalize manifest.actions = actions at unique member
  induction actions with
  | nil => cases member
  | cons head actions ih =>
    obtain ⟨headFresh, tailUnique⟩ := nodup_cons.mp unique
    rcases mem_cons.mp member with rfl | later
    · rw [find?_cons, beq_self_eq_true]
    have different : (head.actionId == action.actionId) = false := by
      rw [beq_eq_false_iff_ne]
      intro same
      exact headFresh (mem_map.mpr ⟨action, later, same.symm⟩)
    rw [find?_cons, different]
    exact ih tailUnique later

theorem Draft.appendAction (draft : Draft manifest generation snapshots state replay ordinal)
    (fits : PlanFits manifest generation snapshots)
    (room : state.records.length < kCrashJournalMaxRecords)
    (member : action ∈ manifest.actions)
    (known : knownRecordKind kind = true)
    (marked : actionRecord kind = true)
    (active : replay.terminal = false)
    (applied :
      replay.apply state.records.length
          ⟨UInt64.ofNat (state.records.length + 1), kind, action.actionId, action.generation⟩ =
        .ok next)
    (phase : Recovery.knownPhase next.phase = true)
    (result : knownFinalResult next.finalResult = true)
    (ordered : kind = .actionRolledBack → ordinal.any (action.activationOrdinal ≥ ·) = false) :
    ∃ after,
      appendCrashJournalRecord state manifest kind action.actionId action.generation = .ok after ∧
        Draft manifest generation snapshots after next
          (if kind = .actionRolledBack then some action.activationOrdinal
          else ordinal) ∧
        after.records.length = state.records.length + 1 := by
  have sound := (validPlan fits.valid).actions action member
  have found := findAction_self fits.valid member
  refine draft.append fits room ?_ ?_ phase result ?_
  · unfold validateAppend
    rw [if_neg (by simp [known, sound.generation, room]), if_pos marked, found]
    exact if_neg (fun different => different rfl)
  · have shape : actionRecord kind = (action.actionId != 0) := by
      rw [marked]
      exact (bne_iff_ne.mpr sound.actionId).symm
    rw [replay_step rfl sound.generation known shape active]
    exact applied
  · intro rest
    rw [validateRecordsAgainstPlan, marked]
    dsimp only
    rw [Bool.not_true, if_neg Bool.false_ne_true, found]
    dsimp only
    rw [if_neg (fun different => different rfl)]
    split
    next rolledBack =>
      rw [ordered rolledBack]
      rfl
    · rfl

/-- One entry for each identifier: the done ones are rolled back. -/
def progressOf (actionIds done : List UInt32) : List (UInt32 × ActionProgress) :=
  actionIds.map fun actionId => (actionId, if actionId ∈ done then .rolledBack else .prepared)

theorem lookup_progressOf (member : actionId ∈ actionIds) :
    (progressOf actionIds done).lookup actionId =
      some (if actionId ∈ done then .rolledBack else .prepared) := by
  induction actionIds with
  | nil => cases member
  | cons head actionIds ih =>
    unfold progressOf
    rw [map_cons, lookup_cons]
    by_cases same : actionId = head
    · rw [same, beq_self_eq_true]
    · rw [beq_eq_false_iff_ne.mpr same]
      rcases mem_cons.mp member with equal | later
      · exact absurd equal same
      · exact ih later

theorem lookup_progressOf_none (fresh : actionId ∉ actionIds) :
    (progressOf actionIds done).lookup actionId = none := by
  induction actionIds with
  | nil => rfl
  | cons head actionIds ih =>
    rw [List.mem_cons, not_or] at fresh
    unfold progressOf
    rw [map_cons, lookup_cons, beq_eq_false_iff_ne.mpr fresh.1]
    exact ih fresh.2

theorem setProgress_progressOf (replay : Replay) (actionIds done : List UInt32) (actionId : UInt32)
    (progress : replay.actions = progressOf actionIds done) :
    (replay.setProgress actionId .rolledBack).actions =
      progressOf actionIds (actionId :: done) := by
  unfold setProgress progressOf
  rw [progress]
  unfold progressOf
  rw [map_map]
  refine map_congr_left ?_
  intro other _
  rw [Function.comp_apply]
  dsimp only
  by_cases same : other = actionId
  · rw [if_pos same, same, if_pos mem_cons_self]
  rw [if_neg same]
  by_cases old : other ∈ done
  · rw [if_pos old, if_pos (mem_cons_of_mem _ old)]
  · rw [if_neg old, if_neg (by
      rw [List.mem_cons, not_or]
      exact ⟨same, old⟩)]

theorem allActions_progressOf
    (progress : replay.actions = progressOf actionIds done)
    (complete : ∀ actionId ∈ actionIds, actionId ∈ done) :
    replay.allActions .rolledBack = true := by
  unfold allActions
  rw [progress, all_eq_true]
  intro entry member
  obtain ⟨actionId, listed, rfl⟩ := mem_map.mp member
  rw [if_pos (complete actionId listed)]
  rfl

end Draft

end HydraSeat.Recovery
