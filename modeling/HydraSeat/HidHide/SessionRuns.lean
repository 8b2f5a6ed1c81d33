import HydraSeat.HidHide.TransactionLaw

/-!
# The life of a session transaction

What holds of every write of a transaction that others may disturb between
its operations, and of the phases that it reports on any platform.
-/

namespace HydraSeat.HidHide

open Foundation
open Foundation.Command Bool HidHideSessionTransaction List

variable {outside : World → World → Prop}
  {condition : HidHideSessionTransaction → SessionOperation → World → Prop} {platform : Bool}
  {start world : World} {transaction : HidHideSessionTransaction} {history : List SessionEntry}
  {entries : List SessionEntry}

/-- No condition on the start of an operation. -/
abbrev Always : HidHideSessionTransaction → SessionOperation → World → Prop := fun _ _ _ => True

theorem reached_coherent {env : Environment sessionInterface World}
    (life : Reached perform env outside condition { platform } start transaction world history) :
    Coherent transaction := by
  refine life.invariant (fun transaction _ _ => Coherent transaction) ?_ ?_ ?_
  · intro transaction operation state history coherent _
    exact meets_mono (perform_meets coherent operation state)
      fun entries outcome after law => law.2.coherent coherent
  · intro transaction first last history coherent _
    exact coherent
  · exact ⟨iff_of_true rfl rfl, nofun, nofun⟩

def obligingPlatform (world : World) : (request : SessionCall) → request.Answer × World
  | .readState => (⟨true, world.persistent, []⟩, world)
  | .writeState snapshot => (⟨true, []⟩, { world with persistent := snapshot })
  | .addSessionBlacklist _ => (⟨true, []⟩, world)
  | .clearSessionBlacklist => (⟨true, []⟩, world)
  | .mutationSupported => (true, world)
  | .sessionBlacklistSupported => (true, world)
  | .currentUnixSeconds => (1000, world)
  | .sha256File _ _ _ => (.hash (List.replicate 64 48), world)
  | .createDirectories => (⟨true, []⟩, world)
  | .writeTemporary resourceId bytes => (.written, world.setTemporary resourceId (some bytes))
  | .flushTemporary _ => (true, world)
  | .replaceFile resourceId => (⟨true, []⟩, world.publish resourceId)
  | .fileSize resourceId =>
    match world.files resourceId with
    | some content => (.size content.length, world)
    | none => (.missing 2, world)
  | .readFile resourceId =>
    match world.files resourceId with
    | some content => (.bytes content, world)
    | none => (.notOpened, world)
  | .removeFile resourceId =>
    (.removed (world.files resourceId).isSome, world.setFile resourceId none)
  | .fileExists resourceId => ((world.files resourceId).isSome, world)
  | .removeTemporary resourceId => ((), world.setTemporary resourceId none)

theorem obligingPlatform_allowed (world : World) (request : SessionCall) :
    platformEnvironment world request (obligingPlatform world request).1
      (obligingPlatform world request).2 := by
  cases request with
  | readState => exact ⟨rfl, fun _ => rfl⟩
  | writeState snapshot => exact ⟨snapshot, rfl⟩
  | writeTemporary resourceId bytes => exact ⟨some bytes, rfl, fun _ => rfl⟩
  | replaceFile resourceId => rfl
  | fileSize resourceId | readFile resourceId =>
    cases found : world.files resourceId with
    | none | some content => simp [obligingPlatform, platformEnvironment, found]
  | removeFile resourceId => exact ⟨rfl, rfl⟩
  | fileExists resourceId => exact ⟨rfl, id⟩
  | removeTemporary resourceId => exact ⟨none, rfl⟩
  | _ => rfl

theorem obligingPlatform_ran {α : Type} (program : SessionProgram α) (world : World) :
    Ran platformEnvironment program world (entriesOf obligingPlatform program world)
      (exec obligingPlatform program world).1
      (exec obligingPlatform program world).2 :=
  ran_exec obligingPlatform_allowed program world

def sampleDigest : ByteString := List.replicate 64 48

/-- Evidence for four devices of two Seats. -/
def sampleEvidence : Phase3HardwareAcceptanceEvidence where
  manifestPath := [77]
  manifestSha256 := sampleDigest
  profilePath := [80]
  profileSha256 := sampleDigest
  artifacts := []
  nativeScope := [⟨[65], 1⟩, ⟨[66], 1⟩, ⟨[67], 2⟩, ⟨[68], 2⟩]
  manualVerdictUnixSeconds := 1
  validUntilUnixSeconds := 86401

def sampleRequest : HidHideSessionRequest where
  deviceInstanceIds := [[65], [66], [67], [68]]
  allowedApplications := [[90]]
  replacementPathVerified := true
  recoveryReady := true
  spareRecoveryInputPresent := true
  physicalAcceptanceEvidence := some sampleEvidence
  nativeMutationApproved := true
  expiryMilliseconds := 1000
  generation := 1

def untouchedWorld : World where
  persistent := {}

/-- The plan of the sample request over the untouched state. -/
def samplePlan : HidHideSessionPlan := makePlan sampleRequest {} 0

def preparedTransaction : HidHideSessionTransaction where
  phase := .prepared
  plan := some samplePlan

def preparation : SessionProgram Outcome :=
  ({} : HidHideSessionTransaction).perform (.prepare sampleRequest 0)

def preparedWorld : World := (exec obligingPlatform preparation untouchedWorld).2

theorem preparation_ran :
    Ran platformEnvironment preparation untouchedWorld
      (entriesOf obligingPlatform preparation untouchedWorld)
      ((exec obligingPlatform preparation untouchedWorld).1.1, preparedTransaction)
      preparedWorld := by
  have prepared :
      ((exec obligingPlatform preparation untouchedWorld).1).2 = preparedTransaction := by
    decide
  rw [← prepared]
  exact obligingPlatform_ran preparation untouchedWorld

theorem prepared_life :
    Reached perform platformEnvironment Meddles
      Always {} untouchedWorld preparedTransaction preparedWorld
      ([] ++ entriesOf obligingPlatform preparation untouchedWorld) :=
  .operation .start trivial preparation_ran

/-- The writes of an operation replace states that the plan expects: the
captured one on the way in, the applied one on the way back. -/
def WritesReplaceExpected (transaction : HidHideSessionTransaction)
    (entries : List SessionEntry) : Prop :=
  ∀ entry ∈ entries, ∀ snapshot, entry.request = .writeState snapshot →
    ∃ plan, transaction.plan = some plan ∧
      (snapshot = plan.applied ∧ sameSnapshot entry.before.persistent plan.before = true ∨
        snapshot = plan.before ∧ sameSnapshot entry.before.persistent plan.applied = true)

/-- An activation that can go through starts from the captured state. -/
def Unmoved (transaction : HidHideSessionTransaction) (operation : SessionOperation)
    (world : World) : Prop :=
  ∀ ⦃nowMilliseconds plan⦄, operation = .activate nowMilliseconds →
    transaction.phase = .prepared → transaction.plan = some plan →
    nowMilliseconds < plan.expiryAtMilliseconds →
    plan.request.nativeMutationApproved = true →
    plan.request.physicalAcceptanceEvidence.isSome = true →
    sameSnapshot world.persistent plan.before = true

theorem truthful_platform : Truthful platformEnvironment := fun _ _ _ _ allowed => allowed

theorem Quiet.writes (quiet : Quiet entries) : WritesReplaceExpected transaction entries := by
  intro entry member snapshot isWrite
  have mutates := quiet entry member
  rw [isWrite] at mutates
  cases mutates

theorem RestoreCall.write {env : Environment sessionInterface World}
    {plan : HidHideSessionPlan} {entry : SessionEntry}
    {snapshot : HidHideSessionSnapshot}
    (call : RestoreCall env plan entry)
    (truthful : Truthful env)
    (isWrite : entry.request = .writeState snapshot) :
    snapshot = plan.before ∧ sameSnapshot entry.before.persistent plan.applied = true := by
  rcases call with reads | clears | ⟨writes, owned⟩
  · rw [reads] at isWrite
    cases isWrite
  · rw [clears] at isWrite
    cases isWrite
  · rw [writes] at isWrite
    cases isWrite
    exact ⟨rfl, owned truthful⟩

theorem Performs.writes {env : Environment sessionInterface World} {world : World}
    {operation : SessionOperation} {outcome : Outcome}
    (performs : Performs env world transaction operation entries outcome)
    (truthful : Truthful env)
    (unmoved : Unmoved transaction operation world) :
    WritesReplaceExpected transaction entries := by
  cases performs with
  | refused quiet _ _ | prepared quiet _ _ _ _ _ _ _ => exact quiet.writes
  | cancelled _ _ _ => exact Quiet.nil.writes
  | activated approval quiet kept applied =>
    intro entry member snapshot isWrite
    refine ⟨_, approval.planned, ?_⟩
    rcases mem_append.mp member with check | call
    · have mutates := quiet entry check
      rw [isWrite] at mutates
      cases mutates
    rcases applied.calls entry call with
      ⟨writes, found⟩ | adds | restores
    · rw [writes] at isWrite
      cases isWrite
      obtain ⟨evidence, _, _, _, evidenced, _⟩ := approval.authorized
      have captured := unmoved rfl approval.phase approval.planned approval.unexpired
        approval.approved (Option.isSome_of_eq_some evidenced)
      rw [found truthful, kept truthful]
      exact .inl ⟨rfl, captured⟩
    · rw [adds] at isWrite
      cases isWrite
    · exact .inr (restores.write truthful isWrite)
  | cleaned _ planned _ cleaned =>
    intro entry member snapshot isWrite
    exact ⟨_, planned, .inr ((cleaned.calls entry member).write truthful isWrite)⟩

/-- In a life whose activations all start from the captured state, no write
replaces a state that somebody else made. -/
theorem writes_replace_expected {platform : Bool} {start world last : World}
    {transaction : HidHideSessionTransaction}
    {history entries : List SessionEntry}
    {operation : SessionOperation} {outcome : Outcome}
    (life :
      Reached perform platformEnvironment Meddles
        Unmoved { platform } start transaction world history)
    (unmoved : Unmoved transaction operation world)
    (ran : Ran platformEnvironment (transaction.perform operation) world entries outcome last) :
    WritesReplaceExpected transaction entries :=
  have law := perform_meets (reached_coherent life) operation world
  (law _ _ _ ran).2.writes truthful_platform unmoved

theorem untouchedWorld_unmoved : Unmoved {} (.prepare sampleRequest 0) untouchedWorld := by
  intro nowMilliseconds plan isActivate
  cases isActivate

theorem preparedWorld_unmoved : Unmoved preparedTransaction (.activate 1) preparedWorld := by
  intro nowMilliseconds plan _ _ planned _ _ _
  cases Option.some.inj planned
  decide

theorem unmoved_activation_writes :
    WritesReplaceExpected preparedTransaction
      (entriesOf obligingPlatform (preparedTransaction.perform (.activate 1)) preparedWorld) :=
  writes_replace_expected (.operation .start untouchedWorld_unmoved preparation_ran)
    preparedWorld_unmoved (obligingPlatform_ran _ _)

/-- Somebody else blocks a device of their own. -/
def movedWorld : World :=
  { preparedWorld with persistent := { blockedDeviceInstanceIds := [[69]] } }

theorem movedWorld_overwritten :
    ¬ WritesReplaceExpected preparedTransaction
      (entriesOf obligingPlatform (preparedTransaction.perform (.activate 1)) movedWorld) := by
  have writes :
      ((entriesOf obligingPlatform (preparedTransaction.perform (.activate 1)) movedWorld).any
        fun entry =>
          entry.request == .writeState samplePlan.applied &&
            (!sameSnapshot entry.before.persistent samplePlan.before &&
              !sameSnapshot entry.before.persistent samplePlan.applied)) =
        true := by
    decide
  intro expected
  obtain ⟨entry, member, written⟩ := any_eq_true.mp writes
  rw [and_eq_true, and_eq_true, beq_iff_eq, not_eq_true', not_eq_true'] at written
  obtain ⟨isWrite, notBefore, notApplied⟩ := written
  obtain ⟨plan, planned, replaced⟩ := expected entry member _ isWrite
  cases Option.some.inj planned
  rcases replaced with ⟨_, before⟩ | ⟨_, applied⟩
  · rw [notBefore] at before
    cases before
  · rw [notApplied] at applied
    cases applied

/-- An activation writes over a state that moved since its preparation. -/
theorem moved_state_overwritten :
    ¬ ∀ (transaction : HidHideSessionTransaction) (world last : World)
        (history entries : List SessionEntry) (operation : SessionOperation)
        (outcome : Outcome),
      Reached perform platformEnvironment Meddles
        Always {} untouchedWorld transaction world history →
      Ran platformEnvironment (transaction.perform operation) world entries outcome last →
      WritesReplaceExpected transaction entries := by
  intro claim
  exact movedWorld_overwritten
    (claim _ _ _ _ _ (.activate 1) _ (.outside prepared_life ⟨_, rfl⟩)
      (obligingPlatform_ran _ movedWorld))

theorem reached_held {env : Environment sessionInterface World}
    (life : Reached perform env outside condition { platform } start transaction world history) :
    blacklistHeld history = transaction.sessionEntriesActive := by
  refine And.right
    (life.invariant
      (fun transaction _ history =>
        Coherent transaction ∧ blacklistHeld history = transaction.sessionEntriesActive)
      ?_ ?_ ?_)
  · intro transaction operation state history ⟨coherent, held⟩ _
    refine meets_mono (perform_meets coherent operation state) fun entries outcome after law => ?_
    refine ⟨law.2.coherent coherent, ?_⟩
    unfold blacklistHeld at held ⊢
    rw [foldl_append, held]
    exact law.2.held
  · intro transaction first last history kept _
    exact kept
  · exact ⟨⟨iff_of_true rfl rfl, nofun, nofun⟩, rfl⟩

/-- What an operation may do to the platform and to the phase, after the
calls of a history. -/
structure PhaseLaw (env : Environment sessionInterface World) (world : World)
    (transaction : HidHideSessionTransaction) (operation : SessionOperation)
    (history entries : List SessionEntry) (outcome : Outcome) : Prop where
  reported : outcome.1.phase = outcome.2.phase
  /-- Mutation starts in an approved activation; what follows an activation
  cleans up behind it. -/
  starts :
    ∀ entry ∈ entries, entry.request.mutates = true →
      (∃ nowMilliseconds plan checks calls,
          operation = .activate nowMilliseconds ∧
            Approval env world transaction plan nowMilliseconds checks ∧
            Quiet checks ∧ entries = checks ++ calls) ∨
        transaction.phase = .active ∧
          ((∃ nowMilliseconds, operation = .expireIfNeeded nowMilliseconds) ∨
            operation = .rollback ∨ operation = .destroy)
  returns :
    outcome.2.phase = .idle →
      (transaction.phase = .active ∨ ∃ entry ∈ entries, entry.request.mutates = true) →
      blacklistHeld (history ++ entries) = false ∧
        ∃ plan read, transaction.plan = some plan ∧ lastRead (history ++ entries) = some read ∧
          sameSnapshot read plan.before = true
  stays : transaction.phase = .recoveryRequired → outcome.2 = transaction ∧ Quiet entries

section Phases

variable {env : Environment sessionInterface World} {world : World}
  {transaction : HidHideSessionTransaction} {operation : SessionOperation}
  {history entries : List SessionEntry} {outcome : Outcome}

theorem Quiet.not_mutates (quiet : Quiet entries) :
    ¬ ∃ entry ∈ entries, entry.request.mutates = true := by
  rintro ⟨entry, member, mutates⟩
  rw [quiet entry member] at mutates
  cases mutates

section

variable (performs : Performs env world transaction operation entries outcome)
include performs

theorem Performs.starts {entry : SessionEntry} (member : entry ∈ entries)
    (mutates : entry.request.mutates = true) :
    (∃ nowMilliseconds plan checks calls,
        operation = .activate nowMilliseconds ∧
          Approval env world transaction plan nowMilliseconds checks ∧
          Quiet checks ∧ entries = checks ++ calls) ∨
      transaction.phase = .active ∧
        ((∃ nowMilliseconds, operation = .expireIfNeeded nowMilliseconds) ∨
          operation = .rollback ∨ operation = .destroy) := by
  cases performs with
  | refused quiet _ _ | prepared quiet _ _ _ _ _ _ _ =>
    exact absurd ⟨entry, member, mutates⟩ quiet.not_mutates
  | cancelled _ _ _ => cases member
  | activated approval quiet _ _ => exact .inl ⟨_, _, _, _, rfl, approval, quiet, rfl⟩
  | cleaned active _ isCleanup _ => exact .inr ⟨active, isCleanup⟩

theorem Performs.returns (coherent : Coherent transaction) (idle : outcome.2.phase = .idle)
    (began : transaction.phase = .active ∨ ∃ entry ∈ entries, entry.request.mutates = true) :
    outcome.2.sessionEntriesActive = false ∧
      ∃ plan read, transaction.plan = some plan ∧ lastRead entries = some read ∧
        sameSnapshot read plan.before = true := by
  have ended {plan : HidHideSessionPlan} {calls : List SessionEntry}
      (planned : transaction.plan = some plan)
      (ends : Ended plan calls outcome.2) (earlier : List SessionEntry) :
      outcome.2.sessionEntriesActive = false ∧
        ∃ plan read, transaction.plan = some plan ∧ lastRead (earlier ++ calls) = some read ∧
          sameSnapshot read plan.before = true := by
    rcases ends.prepend earlier with
      ⟨_, _, empty, read, found, same⟩ | ⟨recovering, _⟩
    · exact ⟨empty, plan, read, planned, found, same⟩
    · rw [recovering] at idle
      cases idle
  cases performs with
  | refused quiet unchanged _ =>
    rcases began with active | mutated
    · rw [unchanged, active] at idle
      cases idle
    · exact absurd mutated quiet.not_mutates
  | prepared _ _ _ _ _ after _ _ =>
    rw [after] at idle
    cases idle
  | cancelled clean _ _ =>
    rcases began with active | mutated
    · rcases clean with prepared | free
      · rw [active] at prepared
        cases prepared
      · rw [coherent.planned.mpr free] at active
        cases active
    · exact absurd mutated Quiet.nil.not_mutates
  | activated approval _ _ applied =>
    rcases applied.ends with ⟨active, _⟩ | ends
    · rw [active] at idle
      cases idle
    · exact ended approval.planned ends _
  | cleaned _ planned _ cleaned => exact ended planned cleaned.ends []

theorem Performs.stays (coherent : Coherent transaction)
    (recovering : transaction.phase = .recoveryRequired) :
    outcome.2 = transaction ∧ Quiet entries := by
  cases performs with
  | refused quiet unchanged _ => exact ⟨unchanged, quiet⟩
  | prepared _ _ notRecovering _ _ _ _ _ => exact absurd recovering notRecovering
  | cancelled clean _ _ =>
    rcases clean with prepared | free
    · rw [recovering] at prepared
      cases prepared
    · rw [coherent.planned.mpr free] at recovering
      cases recovering
  | activated approval _ _ _ =>
    have prepared := approval.phase
    rw [recovering] at prepared
    cases prepared
  | cleaned active _ _ _ =>
    rw [recovering] at active
    cases active

end

/-- The law of the phases, on any platform and between any disturbances. -/
theorem session_phase_law {outside : World → World → Prop} {platform : Bool} {start last : World}
    (life : Reached perform env outside Always { platform } start transaction world history)
    (ran : Ran env (transaction.perform operation) world entries outcome last) :
    PhaseLaw env world transaction operation history entries outcome := by
  have coherent := reached_coherent life
  obtain ⟨reported, performs⟩ := perform_meets coherent operation world _ _ _ ran
  refine ⟨reported, fun entry member => performs.starts member, ?_, performs.stays coherent⟩
  intro idle began
  obtain ⟨empty, plan, read, planned, found, same⟩ := performs.returns coherent idle began
  refine ⟨?_, plan, read, planned, lastRead_append_some found, same⟩
  have held := reached_held life
  unfold blacklistHeld at held ⊢
  rw [foldl_append, held, performs.held, empty]

end Phases

theorem sample_activation_phase_law :
    PhaseLaw platformEnvironment preparedWorld preparedTransaction (.activate 1)
      ([] ++ entriesOf obligingPlatform preparation untouchedWorld)
      (entriesOf obligingPlatform (preparedTransaction.perform (.activate 1)) preparedWorld)
      (exec obligingPlatform (preparedTransaction.perform (.activate 1)) preparedWorld).1 :=
  session_phase_law prepared_life (obligingPlatform_ran _ _)

end HydraSeat.HidHide
