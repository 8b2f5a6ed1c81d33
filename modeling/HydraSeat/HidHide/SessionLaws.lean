import HydraSeat.HidHide.SessionBackend

/-!
# What a session transaction does to the platform

One law for each operation, whatever the platform does: which calls it makes
and where the transaction ends.  Checks come first and mutation only behind
them.  On a truthful platform a cleanup writes only over the state that the
plan applied.
-/

namespace HydraSeat.HidHide

open Foundation
open Foundation.Command HidHideSessionPhase HidHideSessionTransaction List

namespace SessionCall

def checks : SessionCall → Bool
  | .currentUnixSeconds => true
  | .sha256File _ _ _ => true
  | _ => false

/-- The calls that take or change nothing but what a session owns. -/
def mutates : SessionCall → Bool
  | .writeState _ => true
  | .addSessionBlacklist _ => true
  | .clearSessionBlacklist => true
  | _ => false

def ofTransaction : SessionCall → Bool
  | .readState => true
  | .writeState _ => true
  | .addSessionBlacklist _ => true
  | .clearSessionBlacklist => true
  | .mutationSupported => true
  | .sessionBlacklistSupported => true
  | .currentUnixSeconds => true
  | .sha256File _ _ _ => true
  | _ => false

end SessionCall

def readSnapshot? : SessionEntry → Option HidHideSessionSnapshot
  | ⟨_, .readState, answer⟩ =>
    if (answer : ReadReply).succeeded then some answer.snapshot else none
  | _ => none

def lastRead (entries : List SessionEntry) : Option HidHideSessionSnapshot :=
  (entries.filterMap readSnapshot?).getLast?

/-- Whether the session blacklist may hold entries behind a call: an
attempt to add them may, until they are cleared. -/
def holdsAfter (held : Bool) : SessionEntry → Bool
  | ⟨_, .addSessionBlacklist _, _⟩ => true
  | ⟨_, .clearSessionBlacklist, answer⟩ => held && !(answer : Reply).succeeded
  | _ => held

def blacklistHeld (history : List SessionEntry) : Bool := history.foldl holdsAfter false

theorem lastRead_append_some {first second : List SessionEntry} {snapshot : HidHideSessionSnapshot}
    (found : lastRead second = some snapshot) :
    lastRead (first ++ second) = some snapshot := by
  unfold lastRead at found ⊢
  rw [filterMap_append, getLast?_append, found]
  rfl

theorem lastRead_read {world : World} {answer : ReadReply} (succeeded : answer.succeeded = true) :
    lastRead [⟨world, .readState, answer⟩] = some answer.snapshot := by
  have read : readSnapshot? ⟨world, .readState, answer⟩ = some answer.snapshot := if_pos succeeded
  unfold lastRead
  rw [filterMap_cons_some read]
  rfl

section Checks

variable (evidence : Phase3HardwareAcceptanceEvidence)

abbrev ChecksOnly {α : Type} (program : SessionProgram α) : Prop :=
  Only (fun request : SessionCall => request.checks = true) program

theorem checkHash_only {path : WideString} {maximumBytes : Nat}
    {label expected : ByteString} {changed : String} :
    ChecksOnly (checkHash path maximumBytes label expected changed) := by
  refine only_bind (only_ask rfl) fun answer => ?_
  cases (answer : HashReply) with
  | hash digest =>
    dsimp only
    split
    · exact only_pure
    · exact only_pure
  | evidenceError what | otherException what => exact only_pure

theorem checkArtifacts_only (artifacts : List ArtifactBinding) :
    ChecksOnly (checkArtifacts artifacts) := by
  induction artifacts with
  | nil => exact only_pure
  | cons artifact artifacts ih =>
    refine only_bind checkHash_only fun checked => ?_
    cases checked with
    | error text => exact only_pure
    | ok => exact ih

theorem checkHashes_only : ChecksOnly (checkHashes evidence) := by
  refine only_bind checkHash_only fun manifest => ?_
  cases manifest with
  | error text => exact only_pure
  | ok =>
    refine only_bind checkHash_only fun profile => ?_
    cases profile with
    | error text => exact only_pure
    | ok => exact checkArtifacts_only evidence.artifacts

theorem validateForDevices_only (requested : List WideString) :
    ChecksOnly (validatePhase3HardwareAcceptanceEvidenceForDevices evidence requested) := by
  refine only_bind (only_ask rfl) fun resolvedNow => ?_
  cases validateEvidenceWindow evidence resolvedNow with
  | error text => exact only_pure
  | ok =>
    refine only_bind (checkHashes_only evidence) fun hashes => ?_
    cases hashes with
    | error text | ok => exact only_pure

theorem validateForSeatDevices_only (seatId : UInt32) (requested : List WideString) :
    ChecksOnly
      (validatePhase3HardwareAcceptanceEvidenceForSeatDevices evidence seatId requested) := by
  unfold validatePhase3HardwareAcceptanceEvidenceForSeatDevices
  apply only_refused
  refine only_bind (validateForDevices_only evidence _) fun full => ?_
  cases full with
  | error text => exact only_pure
  | ok =>
    dsimp only
    split
    · exact only_pure
    · exact only_pure

theorem authorizeEvidence_only (request : HidHideSessionRequest) :
    ChecksOnly (authorizeEvidence request evidence) := by
  unfold authorizeEvidence
  split
  · exact validateForDevices_only evidence _
  · exact validateForSeatDevices_only evidence _ _

theorem validateRequest_only (request : HidHideSessionRequest) :
    ChecksOnly (validateHidHideSessionRequest request) := by
  unfold validateHidHideSessionRequest
  cases validateRequestFields request with
  | error text => exact only_pure
  | ok =>
    cases request.physicalAcceptanceEvidence with
    | none => exact only_pure
    | some evidence =>
      refine only_bind (authorizeEvidence_only evidence request) fun authorized => ?_
      cases authorized with
      | error text | ok => exact only_pure

end Checks

variable {env : Environment sessionInterface World}

theorem ChecksOnly.meets {α : Type} {program : SessionProgram α} (only : ChecksOnly program)
    (world : World) :
    Meets env program world
      fun entries _ after =>
        (Truthful env → after = world) ∧
          ∀ entry ∈ entries,
            (Truthful env → entry.before = world) ∧ entry.request.checks = true := by
  refine meets_keeps only ?_ fun _ => rfl
  intro before request answer after kept checks happened truthful
  rw [← kept truthful]
  cases request with
  | currentUnixSeconds | sha256File => exact truthful _ _ _ _ happened
  | _ => cases checks

/-- The calls of a cleanup: on a truthful platform the prior state is written
over nothing but the state that the plan applied. -/
def RestoreCall (env : Environment sessionInterface World)
    (plan : HidHideSessionPlan) (entry : SessionEntry) : Prop :=
  entry.request = .readState ∨ entry.request = .clearSessionBlacklist ∨
    entry.request = .writeState plan.before ∧
      (Truthful env → sameSnapshot entry.before.persistent plan.applied = true)

/-- A cleanup ends with nothing left behind, or asks for recovery. -/
def Ended (plan : HidHideSessionPlan) (entries : List SessionEntry)
    (transaction : HidHideSessionTransaction) : Prop :=
  transaction.phase = .idle ∧ transaction.plan = none ∧ transaction.sessionEntriesActive = false ∧
      (∃ read, lastRead entries = some read ∧ sameSnapshot read plan.before = true) ∨
    transaction.phase = .recoveryRequired ∧ transaction.plan = some plan

structure Settled (env : Environment sessionInterface World)
    (transaction : HidHideSessionTransaction) (plan : HidHideSessionPlan)
    (entries : List SessionEntry) (outcome : Outcome) : Prop where
  calls : ∀ entry ∈ entries, RestoreCall env plan entry
  held : entries.foldl holdsAfter transaction.sessionEntriesActive = outcome.2.sessionEntriesActive
  platform : outcome.2.platform = transaction.platform
  phase : outcome.1.phase = outcome.2.phase
  ends : Ended plan entries outcome.2

structure Cleaned (env : Environment sessionInterface World)
    (transaction : HidHideSessionTransaction) (plan : HidHideSessionPlan)
    (entries : List SessionEntry) (outcome : Outcome) : Prop extends
    Settled env transaction plan entries outcome where
  succeeded : outcome.1.succeeded = true ↔ outcome.2.phase = .idle

theorem Ended.prepend {plan : HidHideSessionPlan} {entries : List SessionEntry}
    {transaction : HidHideSessionTransaction}
    (ended : Ended plan entries transaction) (earlier : List SessionEntry) :
    Ended plan (earlier ++ entries) transaction := by
  rcases ended with ⟨idle, free, empty, read, found, same⟩ | other
  · exact .inl ⟨idle, free, empty, read, lastRead_append_some found, same⟩
  · exact .inr other

section Cleanup

variable {transaction : HidHideSessionTransaction}
  {plan : HidHideSessionPlan} {entries : List SessionEntry}

theorem Cleaned.requireRecovery (planned : transaction.plan = some plan)
    (calls : ∀ entry ∈ entries, RestoreCall env plan entry)
    (held :
      entries.foldl holdsAfter transaction.sessionEntriesActive = transaction.sessionEntriesActive)
    (diagnostic : ByteString) :
    Cleaned env transaction plan entries (transaction.requireRecovery diagnostic) where
  calls := calls
  held := held
  platform := rfl
  phase := rfl
  succeeded := iff_of_false nofun nofun
  ends := .inr ⟨rfl, planned⟩

theorem Cleaned.becomeIdle (calls : ∀ entry ∈ entries, RestoreCall env plan entry)
    (held :
      entries.foldl holdsAfter transaction.sessionEntriesActive = transaction.sessionEntriesActive)
    (cleared : transaction.sessionEntriesActive = false)
    {read : HidHideSessionSnapshot} (found : lastRead entries = some read)
    (same : sameSnapshot read plan.before = true) (expired : Bool)
    {code : HidHideSessionResultCode}
    (succeeds : code = .ok ∨ code = .alreadySatisfied)
    (expiredText text : String) :
    Cleaned env transaction plan entries
      (transaction.becomeIdle expired code expiredText text) where
  calls := calls
  held := held
  platform := rfl
  phase := rfl
  succeeded := by
    refine iff_of_true ?_ rfl
    cases expired with
    | true => rfl
    | false =>
      rcases succeeds with rfl | rfl
      · rfl
      · rfl
  ends := .inl ⟨rfl, rfl, cleared, read, found, same⟩

theorem verifyRestored_meets (planned : transaction.plan = some plan) (expired : Bool)
    (sessionClearError : ByteString) (world : World) :
    Meets env
      (transaction.verifyRestored plan expired
        (!transaction.sessionEntriesActive) sessionClearError)
      world fun entries outcome _ => Cleaned env transaction plan entries outcome := by
  refine meets_ask fun answer after happened => ?_
  have calls :
      ∀ entry ∈ [(⟨world, .readState, answer⟩ : SessionEntry)], RestoreCall env plan entry := by
    intro entry member
    rw [List.mem_singleton.mp member]
    exact .inl rfl
  split
  · exact meets_pure (.requireRecovery planned calls rfl _)
  next found =>
    rw [Bool.or_eq_true, not_or, Bool.not_eq_true', Bool.not_eq_true',
      Bool.not_eq_false, Bool.not_eq_false] at found
    split
    · exact meets_pure (.requireRecovery planned calls rfl _)
    next cleared =>
      rw [Bool.not_not, Bool.not_eq_true] at cleared
      exact meets_pure (.becomeIdle calls rfl cleared
        (lastRead_read found.1) found.2 expired (.inl rfl) _ _)

theorem Cleaned.cons {first : SessionEntry} {outcome : Outcome}
    (cleaned : Cleaned env transaction plan entries outcome)
    (call : RestoreCall env plan first)
    (kept : holdsAfter transaction.sessionEntriesActive first = transaction.sessionEntriesActive) :
    Cleaned env transaction plan (first :: entries) outcome where
  calls := by
    intro entry member
    rcases mem_cons.mp member with rfl | later
    · exact call
    · exact cleaned.calls entry later
  held := by
    rw [foldl_cons, kept]
    exact cleaned.held
  platform := cleaned.platform
  phase := cleaned.phase
  succeeded := cleaned.succeeded
  ends := cleaned.ends.prepend [first]

section

variable (planned : transaction.plan = some plan)
include planned

theorem restoreState_meets (expired : Bool) {sessionCleared : Bool}
    (clears : sessionCleared = !transaction.sessionEntriesActive)
    (sessionClearError : ByteString) (world : World) :
    Meets env (transaction.restoreState plan expired sessionCleared sessionClearError)
      world fun entries outcome _ => Cleaned env transaction plan entries outcome := by
  subst clears
  refine meets_ask fun answer after happened => ?_
  have calls :
      ∀ entry ∈ [(⟨world, .readState, answer⟩ : SessionEntry)], RestoreCall env plan entry := by
    intro entry member
    rw [mem_singleton.mp member]
    exact .inl rfl
  split
  · exact meets_pure (.requireRecovery planned calls rfl _)
  next read =>
    rw [Bool.not_eq_true', Bool.not_eq_false] at read
    have current : sameSnapshot (normalizedSnapshot answer.snapshot) answer.snapshot = true :=
      sameSnapshot_symm (sameSnapshot_normalized _)
    dsimp only
    split
    next restored =>
      split
      · exact meets_pure (.requireRecovery planned calls rfl _)
      next cleared =>
        rw [Bool.not_not, Bool.not_eq_true] at cleared
        exact meets_pure (.becomeIdle calls rfl cleared (lastRead_read read)
          (sameSnapshot_trans (sameSnapshot_symm current) restored)
          expired (.inr rfl) _ _)
    · split
      · exact meets_pure (.requireRecovery planned calls rfl _)
      next owned =>
        rw [Bool.not_eq_true', Bool.not_eq_false] at owned
        have replaced (truthful : Truthful env) :
            sameSnapshot after.persistent plan.applied = true := by
          obtain ⟨same, told⟩ := truthful _ _ _ _ happened
          rw [same, ← told read]
          exact sameSnapshot_trans (sameSnapshot_symm current) owned
        refine meets_ask fun written behind changed => ?_
        have wrote : RestoreCall env plan ⟨after, .writeState plan.before, written⟩ :=
          .inr (.inr ⟨rfl, replaced⟩)
        split
        · refine meets_pure ?_
          refine (Cleaned.requireRecovery planned ?_ rfl _).cons (.inl rfl) rfl
          intro entry member
          rw [mem_singleton.mp member]
          exact wrote
        · refine meets_mono (verifyRestored_meets planned expired sessionClearError behind)
            fun entries outcome final cleaned => ?_
          exact (cleaned.cons wrote rfl).cons (.inl rfl) rfl

theorem cleanUp_meets (expired : Bool) (world : World) :
    Meets env (transaction.cleanUp plan expired) world
      fun entries outcome _ => Cleaned env transaction plan entries outcome := by
  unfold cleanUp
  dsimp only
  split
  next active =>
    refine meets_ask fun cleared after happened => ?_
    have clears : cleared.succeeded = !!cleared.succeeded := (Bool.not_not _).symm
    have stillPlanned :
        { transaction with
            phase := .rollingBack, sessionEntriesActive := !cleared.succeeded }.plan =
          some plan :=
      planned
    refine meets_mono (restoreState_meets stillPlanned expired clears _ after)
      fun entries outcome final cleaned => ?_
    refine
      { calls := ?_, held := ?_, platform := cleaned.platform, phase := cleaned.phase
        succeeded := cleaned.succeeded, ends := cleaned.ends.prepend [_] }
    · intro entry member
      rcases mem_cons.mp member with rfl | later
      · exact .inr (.inl rfl)
      · exact cleaned.calls entry later
    · rw [foldl_cons, active, ← cleaned.held]
      rfl
  next inactive =>
    rw [Bool.not_eq_true] at inactive
    have clears : true = !transaction.sessionEntriesActive := by
      rw [inactive]
      rfl
    have stillPlanned : { transaction with phase := rollingBack }.plan = some plan := planned
    refine meets_mono (restoreState_meets stillPlanned expired clears [] world)
      fun entries outcome final cleaned => ?_
    exact
      ⟨⟨cleaned.calls, cleaned.held, cleaned.platform, cleaned.phase,
        cleaned.ends⟩, cleaned.succeeded⟩

theorem rollbackInternal_meets (notRecovering : transaction.phase ≠ .recoveryRequired)
    (notPrepared : transaction.phase ≠ .prepared) (expired : Bool)
    (world : World) :
    Meets env (transaction.rollbackInternal expired) world
      fun entries outcome _ => Cleaned env transaction plan entries outcome := by
  unfold rollbackInternal
  rw [planned]
  dsimp only
  rw [if_neg notRecovering, if_neg notPrepared]
  split
  · have calls : ∀ entry ∈ ([] : List SessionEntry), RestoreCall env plan entry :=
      fun entry member => nomatch member
    exact meets_pure (.requireRecovery planned calls rfl _)
  · exact cleanUp_meets planned expired world

theorem abandon_meets (code : HidHideSessionResultCode) (diagnostic : ByteString) (world : World) :
    Meets env (transaction.abandon code diagnostic) world
      fun entries outcome _ => Settled env transaction plan entries outcome := by
  have stillPlanned : { transaction with phase := rollingBack }.plan = some plan := planned
  refine meets_bind (rollbackInternal_meets stillPlanned nofun nofun false world) ?_
  rintro entries ⟨cleanup, after⟩ between cleaned
  dsimp only
  split
  · refine meets_pure ?_
    rw [append_nil]
    exact ⟨cleaned.calls, cleaned.held, cleaned.platform, cleaned.phase, cleaned.ends⟩
  · refine meets_pure ?_
    rw [append_nil]
    exact ⟨cleaned.calls, cleaned.held, cleaned.platform, rfl, cleaned.ends⟩

end

/-- The calls of an activation behind its checks: the applied state is
written first, and over the state that the activation finds. -/
def ApplyCall (env : Environment sessionInterface World) (world : World)
    (plan : HidHideSessionPlan) (entry : SessionEntry) : Prop :=
  (entry.request = .writeState plan.applied ∧ (Truthful env → entry.before = world)) ∨
    entry.request = .addSessionBlacklist plan.request.deviceInstanceIds ∨
    RestoreCall env plan entry

structure Applied (env : Environment sessionInterface World) (world : World)
    (transaction : HidHideSessionTransaction)
    (plan : HidHideSessionPlan) (entries : List SessionEntry)
    (outcome : Outcome) : Prop where
  calls : ∀ entry ∈ entries, ApplyCall env world plan entry
  held : entries.foldl holdsAfter transaction.sessionEntriesActive = outcome.2.sessionEntriesActive
  platform : outcome.2.platform = transaction.platform
  phase : outcome.1.phase = outcome.2.phase
  ends : outcome.2.phase = .active ∧ outcome.2.plan = some plan ∨ Ended plan entries outcome.2

theorem Settled.applied {world : World} {after : HidHideSessionTransaction}
    {more : List SessionEntry} {outcome : Outcome}
    (settled : Settled env after plan more outcome)
    (calls : ∀ entry ∈ entries, ApplyCall env world plan entry)
    (held : entries.foldl holdsAfter transaction.sessionEntriesActive = after.sessionEntriesActive)
    (platform : after.platform = transaction.platform) :
    Applied env world transaction plan (entries ++ more) outcome where
  calls := by
    intro entry member
    rcases mem_append.mp member with first | later
    · exact calls entry first
    · exact .inr (.inr (settled.calls entry later))
  held := by
    rw [foldl_append, held]
    exact settled.held
  platform := settled.platform.trans platform
  phase := settled.phase
  ends := .inr (settled.ends.prepend entries)

theorem apply_meets (planned : transaction.plan = some plan) (world : World) :
    Meets env (transaction.apply plan) world
      fun entries outcome _ => Applied env world transaction plan entries outcome := by
  refine meets_ask fun written after changed => ?_
  have wrote :
      ∀ entry ∈ [(⟨world, .writeState plan.applied, written⟩ : SessionEntry)],
        ApplyCall env world plan entry := by
    intro entry member
    rw [mem_singleton.mp member]
    exact .inl ⟨rfl, fun _ => rfl⟩
  split
  · exact meets_mono (abandon_meets planned _ _ after)
      fun more outcome final settled => settled.applied wrote rfl rfl
  refine meets_ask fun observed behind happened => ?_
  have looked :
      ∀ entry ∈
          [(⟨world, .writeState plan.applied, written⟩ : SessionEntry),
            ⟨after, .readState, observed⟩],
        ApplyCall env world plan entry := by
    intro entry member
    rcases mem_cons.mp member with rfl | later
    · exact .inl ⟨rfl, fun _ => rfl⟩
    · rw [mem_singleton.mp later]
      exact .inr (.inr (.inl rfl))
  split
  · exact meets_mono (abandon_meets planned _ _ behind)
      fun more outcome final settled => settled.applied looked rfl rfl
  split
  · exact meets_mono (abandon_meets planned _ _ behind)
      fun more outcome final settled => settled.applied looked rfl rfl
  refine meets_ask fun added last happened => ?_
  have called :
      ∀ entry ∈
          [(⟨world, .writeState plan.applied, written⟩ : SessionEntry),
            ⟨after, .readState, observed⟩,
            ⟨behind, .addSessionBlacklist plan.request.deviceInstanceIds, added⟩],
        ApplyCall env world plan entry := by
    intro entry member
    rcases mem_cons.mp member with rfl | later
    · exact .inl ⟨rfl, fun _ => rfl⟩
    · rcases mem_cons.mp later with rfl | last
      · exact .inr (.inr (.inl rfl))
      · rw [mem_singleton.mp last]
        exact .inr (.inl rfl)
  have stillPlanned :
      { transaction with sessionEntriesActive := true }.plan =
        some plan :=
    planned
  split
  · exact meets_mono (abandon_meets stillPlanned _ _ last)
      fun more outcome final settled => settled.applied called rfl rfl
  · exact meets_pure ⟨called, rfl, rfl, rfl, .inl ⟨rfl, planned⟩⟩

end Cleanup

end HydraSeat.HidHide
