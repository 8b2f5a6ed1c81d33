import HydraSeat.Reset.Actions
import HydraSeat.Recovery.JournalAppend

/-!
# The clean journal of a verified reset

For a registration that matches its journal, the journal that records the
verified rollback can always be built.
-/

namespace HydraSeat.Reset

open Foundation
open Watchdog
open RollbackRegistry
open Recovery List

section CleanState

variable {manifest : RollbackPlanManifest} {generation : UInt64}
  {snapshots : List SnapshotReference}

def preparing (actionIds : List UInt32) : Replay where
  actions := progressOf actionIds []

def rollingBack (actionIds done : List UInt32) : Replay where
  phase := .rollingBack
  actions := progressOf actionIds done

theorem rollingBack_setProgress (actionIds done : List UInt32) (actionId : UInt32) :
    (rollingBack actionIds done).setProgress actionId .rolledBack =
      rollingBack actionIds (actionId :: done) := by
  have actions := setProgress_progressOf (rollingBack actionIds done) actionIds done actionId rfl
  unfold rollingBack
  rw [← actions]
  rfl

theorem preparing_apply {actionIds : List UInt32} {action : RollbackActionDescriptor}
    (absent : action.actionId ∉ actionIds) (count : Nat) :
    (preparing actionIds).apply count
        ⟨UInt64.ofNat (count + 1), .actionPrepared, action.actionId, action.generation⟩ =
      .ok (preparing (action.actionId :: actionIds)) := by
  have missing : (preparing actionIds).progress? action.actionId = none :=
    lookup_progressOf_none absent
  unfold Replay.apply
  dsimp only
  rw [missing]
  rfl

theorem rollingBack_apply {actionIds done : List UInt32} {action : RollbackActionDescriptor}
    (listed : action.actionId ∈ actionIds) (outstanding : action.actionId ∉ done) (count : Nat) :
    (rollingBack actionIds done).apply count
        ⟨UInt64.ofNat (count + 1), .actionRolledBack, action.actionId, action.generation⟩ =
      .ok (rollingBack actionIds (action.actionId :: done)) := by
  have prepared : (rollingBack actionIds done).progress? action.actionId = some .prepared := by
    have found := @lookup_progressOf _ actionIds done listed
    rw [if_neg outstanding] at found
    exact found
  unfold Replay.apply
  dsimp only
  rw [prepared, rollingBack_setProgress,
    if_neg (not_not.mpr (show (rollingBack actionIds done).phase = .rollingBack from rfl)),
    if_neg (by simp)]

/-- A replay that takes one record about each action takes them in a row. -/
theorem appendRecords (replay : List UInt32 → Replay) (done : List UInt32)
    {kind : CrashJournalRecordKind} {state : CrashJournalState} {ordinal : Option UInt32}
    {pending : List RollbackActionDescriptor}
    (fits : PlanFits manifest generation snapshots)
    (known : knownRecordKind kind = true ∧ actionRecord kind = true)
    (lasting : ∀ done, (replay done).terminal = false ∧
      Recovery.knownPhase (replay done).phase = true ∧
      knownFinalResult (replay done).finalResult = true)
    (applies :
      ∀ action ∈ pending, ∀ done, action.actionId ∉ done → ∀ count,
        (replay done).apply count
            ⟨UInt64.ofNat (count + 1), kind, action.actionId, action.generation⟩ =
          .ok (replay (action.actionId :: done)))
    (draft : Draft manifest generation snapshots state (replay done) ordinal)
    (room : state.records.length + pending.length ≤ kCrashJournalMaxRecords)
    (planned : ∀ action ∈ pending, action ∈ manifest.actions)
    (fresh : ∀ action ∈ pending, action.actionId ∉ done)
    (unique : (pending.map (·.actionId)).Nodup)
    (earlier :
      kind = .actionRolledBack →
        ∀ action ∈ pending, ordinal.any (action.activationOrdinal ≥ ·) = false)
    (descending :
      kind = .actionRolledBack →
        pending.Pairwise fun left right => right.activationOrdinal < left.activationOrdinal) :
    ∃ after last,
      appendActionRecords manifest kind state pending = .ok after ∧
        Draft manifest generation snapshots after
          (replay ((pending.map (·.actionId)).reverse ++ done))
          last ∧
        (kind ≠ .actionRolledBack → last = ordinal) ∧
        after.records.length = state.records.length + pending.length := by
  induction pending generalizing state done ordinal with
  | nil => exact ⟨state, ordinal, rfl, draft, fun _ => rfl, rfl⟩
  | cons action pending ih =>
    obtain ⟨headFresh, tailUnique⟩ := nodup_cons.mp unique
    rw [length_cons] at room
    obtain ⟨middle, appended, drafted, length⟩ := draft.appendAction fits (by omega)
      (planned action mem_cons_self) known.1 known.2 (lasting _).1
      (applies action mem_cons_self done (fresh action mem_cons_self) _)
      (lasting _).2.1 (lasting _).2.2 fun rolledBack => earlier rolledBack action mem_cons_self
    have tailFresh : ∀ other ∈ pending, other.actionId ∉ action.actionId :: done := by
      intro other member
      rw [mem_cons, not_or]
      refine ⟨?_, fresh other (mem_cons_of_mem _ member)⟩
      intro same
      exact headFresh (mem_map.mpr ⟨other, member, same⟩)
    obtain ⟨after, last, rest, final, kept, total⟩ :=
      ih _ (fun other member => applies other (mem_cons_of_mem _ member)) drafted (by omega)
        (fun other member => planned other (mem_cons_of_mem _ member)) tailFresh tailUnique
        (fun rolledBack other member => by
          rw [if_pos rolledBack, Option.any_some, decide_eq_false_iff_not, ge_iff_le,
            UInt32.not_le]
          exact (pairwise_cons.mp (descending rolledBack)).1 other member)
        fun rolledBack => (pairwise_cons.mp (descending rolledBack)).2
    refine ⟨after, last, ?_, ?_, fun other => ?_, ?_⟩
    · rw [appendActionRecords, appended]
      exact rest
    · rw [map_cons, reverse_cons, append_assoc]
      exact final
    · rw [kept other, if_neg other]
    · rw [length_cons, total, length]
      omega

instance : Std.Total laterAction where
  total left right := by
    unfold laterAction
    rcases Nat.lt_trichotomy left.activationOrdinal.toNat
      right.activationOrdinal.toNat with less | same | greater
    · exact Or.inr (Or.inl less)
    · have ordinals := UInt32.toNat_inj.mp same
      rcases UInt32.le_total left.actionId right.actionId with ids | ids
      · exact Or.inr (Or.inr ⟨ordinals.symm, ids⟩)
      · exact Or.inl (Or.inr ⟨ordinals, ids⟩)
    · exact Or.inl (Or.inl greater)

instance : IsTrans RollbackActionDescriptor laterAction where
  trans first second third := by
    rintro (firstLater | ⟨firstSame, firstIds⟩) (secondLater | ⟨secondSame, secondIds⟩)
    · exact Or.inl (UInt32.lt_trans secondLater firstLater)
    · exact Or.inl (secondSame ▸ firstLater)
    · exact Or.inl (firstSame ▸ secondLater)
    · exact Or.inr ⟨firstSame.trans secondSame, UInt32.le_trans secondIds firstIds⟩

theorem laterAction_descending {actions : List RollbackActionDescriptor}
    (unique : (actions.map (·.activationOrdinal)).Nodup) :
    (actions.insertionSort laterAction).Pairwise fun left right =>
      right.activationOrdinal < left.activationOrdinal := by
  have permuted := perm_insertionSort laterAction actions
  have distinct : ((actions.insertionSort laterAction).map (·.activationOrdinal)).Nodup :=
    (permuted.map _).nodup_iff.mpr unique
  have different :
      (actions.insertionSort laterAction).Pairwise fun left right =>
        left.activationOrdinal ≠ right.activationOrdinal :=
    pairwise_map.mp distinct
  refine (pairwise_insertionSort laterAction actions).imp₂ ?_ different
  rintro left right (later | ⟨same, _⟩) differ
  · exact later
  · exact absurd same differ

variable {registration : RuntimeResetRegistration} {prior : CrashJournalState}

theorem planFits
    (valid : ValidJournal prior)
    (shares : SharesPlan prior registration.manifest) :
    PlanFits registration.manifest prior.runtimeGeneration prior.snapshots :=
  ⟨shares.valid, shares.hash, valid.generation, valid.snapshotCount, valid.snapshots⟩

theorem registrationMatchesJournal_shares
    (correlated : registrationMatchesJournal registration prior = .ok ()) :
    SharesPlan prior registration.manifest := by
  unfold registrationMatchesJournal at correlated
  split at correlated
  · cases correlated
  split at correlated
  · cases correlated
  split at correlated
  · cases correlated
  · split at correlated
    · cases correlated
    next planned => exact validateCrashJournalAgainstPlan_shares planned

theorem appendCleanStop {state : CrashJournalState} {actionIds done : List UInt32}
    {ordinal : Option UInt32}
    (fits : PlanFits manifest generation snapshots)
    (draft : Draft manifest generation snapshots state (rollingBack actionIds done) ordinal)
    (room : state.records.length + 2 ≤ kCrashJournalMaxRecords)
    (complete : ∀ actionId ∈ actionIds, actionId ∈ done) :
    ∃ verified cleanState replay,
      appendCrashJournalRecord state manifest .rollbackVerified 0 generation = .ok verified ∧
        appendCrashJournalRecord verified manifest .cleanStop 0 generation = .ok cleanState ∧
        Draft manifest generation snapshots cleanState replay ordinal ∧
        replay.phase = .clean ∧ replay.finalResult = .clean ∧
        cleanState.records.length ≤ kCrashJournalMaxRecords := by
  have verifies :
      (rollingBack actionIds done).apply state.records.length
          ⟨UInt64.ofNat (state.records.length + 1), .rollbackVerified, 0, generation⟩ =
        .ok { rollingBack actionIds done with rollbackVerified := true } := by
    have all : (rollingBack actionIds done).allActions .rolledBack = true :=
      allActions_progressOf rfl complete
    unfold Replay.apply
    dsimp only
    rw [all]
    rfl
  obtain ⟨verified, appended, drafted, length⟩ :=
    draft.appendSession fits (by omega) rfl rfl rfl verifies rfl rfl
  obtain ⟨cleanState, stopped, last, total⟩ := @Draft.appendSession _ _ _ _ _
    { rollingBack actionIds done with
      phase := .clean, finalResult := .clean, rollbackVerified := true }
    _ .cleanStop drafted fits (by omega) rfl rfl rfl rfl rfl rfl
  exact ⟨verified, cleanState, _, appended, stopped, last, rfl, rfl, by omega⟩

theorem makeVerifiedResetCleanState_succeeds
    (valid : ValidJournal prior)
    (correlated : registrationMatchesJournal registration prior = .ok ()) :
    ∃ cleanState,
      makeVerifiedResetCleanState registration prior = .ok cleanState ∧
        ValidJournal cleanState ∧ cleanState.isClean = true ∧
        cleanState.sessionId = prior.sessionId ∧
        cleanState.runtimeGeneration = prior.runtimeGeneration ∧
        cleanState.snapshots = prior.snapshots := by
  have shares := registrationMatchesJournal_shares correlated
  have fits := planFits valid shares
  have plan := validPlan shares.valid
  have count := plan.actionCount
  simp only [kWatchdogMaxRollbackActions] at count
  have permuted := perm_insertionSort laterAction registration.manifest.actions
  have length :
      (registration.manifest.actions.insertionSort laterAction).length =
        registration.manifest.actions.length :=
    permuted.length_eq
  have bound : kCrashJournalMaxRecords = 160 := rfl
  obtain ⟨initial, made, initialDraft, initialLength⟩ := makeInitialCrashJournal_draft fits
  obtain ⟨prepared, ordinal, preparedAppended, preparedDraft, unrolled, preparedLength⟩ :=
    appendRecords preparing [] fits ⟨rfl, rfl⟩ (fun _ => ⟨rfl, rfl, rfl⟩)
      (fun _ _ _ => preparing_apply) initialDraft (by omega) (fun _ member => member)
      (fun _ _ => not_mem_nil) plan.actionIds (by simp) (by simp)
  obtain rfl := unrolled (by decide)
  rw [append_nil] at preparedDraft
  obtain ⟨started, startedAppended, startedDraft, startedLength⟩ := @Draft.appendSession _ _ _ _ _
    (rollingBack (registration.manifest.actions.map (·.actionId)).reverse [])
    _ .rollbackStarted preparedDraft fits (by omega) rfl rfl rfl rfl
    rfl rfl
  obtain ⟨rolledBack, ordinal, rolledBackAppended, rolledBackDraft, _, rolledBackLength⟩ :=
    appendRecords (rollingBack (registration.manifest.actions.map (·.actionId)).reverse) []
      fits ⟨rfl, rfl⟩ (fun _ => ⟨rfl, rfl, rfl⟩)
      (fun action member _ => rollingBack_apply
        (mem_reverse.mpr (mem_map.mpr ⟨action, permuted.mem_iff.mp member, rfl⟩)))
      startedDraft (by omega) (fun action member => permuted.mem_iff.mp member)
      (fun _ _ => not_mem_nil)
      ((permuted.map _).nodup_iff.mpr plan.actionIds)
      (fun _ _ _ => rfl) fun _ => laterAction_descending plan.ordinals
  rw [append_nil] at rolledBackDraft
  obtain ⟨verified, cleanState, replay, verifiedAppended,
      cleanAppended, cleanDraft, phase, result, cleanLength⟩ :=
    appendCleanStop fits rolledBackDraft (by omega) (by
      intro actionId member
      rw [mem_reverse] at member ⊢
      exact (permuted.map _).mem_iff.mpr member)
  refine ⟨cleanState, ?_, validJournal (cleanDraft.valid fits cleanLength),
    ?_, cleanDraft.sessionId.trans shares.sessionId.symm,
    cleanDraft.runtimeGeneration, cleanDraft.snapshots⟩
  · unfold makeVerifiedResetCleanState
    rw [made]
    change (appendActionRecords _ _ initial _ >>= _) = _
    rw [preparedAppended]
    change (appendCrashJournalRecord prepared _ _ _ _ >>= _) = _
    rw [startedAppended]
    change (appendActionRecords _ _ started _ >>= _) = _
    rw [rolledBackAppended]
    change (appendCrashJournalRecord rolledBack _ _ _ _ >>= _) = _
    rw [verifiedAppended]
    exact cleanAppended
  · unfold CrashJournalState.isClean
    rw [cleanDraft.phase, cleanDraft.finalResult, phase, result]
    rfl

end CleanState

end HydraSeat.Reset
