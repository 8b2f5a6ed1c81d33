import HydraSeat.Recovery.JournalCodec

/-!
# The grammar of an accepted journal

The replay keeps one progress value for each action and a phase.  Both say
something about the records replayed so far: the records of one action are
a path through the life of an action, and the phase tells in which part of
the journal the replay is.
-/

namespace HydraSeat.Recovery

open Foundation Replay List

/-! ## The records of one action -/

def CrashJournalRecord.concerns (record : CrashJournalRecord) (actionId : UInt32) : Bool :=
  actionRecord record.kind && record.actionId == actionId

/-- The kinds of the records about one action, in their order. -/
def actionTrace (actionId : UInt32) (history : List CrashJournalRecord) :
    List CrashJournalRecordKind :=
  (history.filter (·.concerns actionId)).map (·.kind)

/-- How often a kind is recorded for an action. -/
def recordings (kind : CrashJournalRecordKind) (actionId : UInt32)
    (records : List CrashJournalRecord) : Nat :=
  records.countP fun record => record.kind == kind && record.actionId == actionId

/-- The life of an action: the records that lead to its progress. -/
inductive ActionPath : Option ActionProgress → List CrashJournalRecordKind → Prop
  | absent : ActionPath none []
  | prepared : ActionPath (some .prepared) [.actionPrepared]
  | applied : ActionPath (some .applied) [.actionPrepared, .actionApplied]
  | verified : ActionPath (some .verified) [.actionPrepared, .actionApplied, .actionVerified]
  | rolledBack {progress : ActionProgress} {trace : List CrashJournalRecordKind}
      (outstanding : progress ≠ .rolledBack)
      (path : ActionPath (some progress) trace) :
      ActionPath (some .rolledBack) (trace ++ [.actionRolledBack])

theorem actionTrace_append (actionId : UInt32) (history : List CrashJournalRecord)
    (record : CrashJournalRecord) :
    actionTrace actionId (history ++ [record]) =
      if record.concerns actionId = true then actionTrace actionId history ++ [record.kind]
      else actionTrace actionId history := by
  unfold actionTrace
  rw [filter_append]
  by_cases concerned : record.concerns actionId = true
  · simp [concerned]
  · simp [concerned]

variable {kind : CrashJournalRecordKind}

theorem count_actionTrace (action : actionRecord kind = true)
    (actionId : UInt32) (records : List CrashJournalRecord) :
    (actionTrace actionId records).count kind = recordings kind actionId records := by
  unfold actionTrace recordings count
  rw [countP_map, countP_filter]
  apply countP_congr
  intro record _
  by_cases same : record.kind = kind
  · simp [same, CrashJournalRecord.concerns, action]
  · simp [same]

namespace ActionPath

variable {progress : Option ActionProgress} {trace : List CrashJournalRecordKind}

theorem prepared_count (path : ActionPath progress trace) :
    trace.count .actionPrepared = if progress = none then 0 else 1 := by
  induction path with
  | absent | prepared | applied | verified => rfl
  | rolledBack outstanding path ih =>
    rw [count_append, ih]
    simp

theorem rolledBack_count (path : ActionPath progress trace) :
    trace.count .actionRolledBack = if progress = some .rolledBack then 1 else 0 := by
  induction path with
  | absent | prepared | applied | verified => rfl
  | rolledBack outstanding path ih =>
    rw [count_append, ih]
    simp [outstanding]

theorem trace_of_verified (path : ActionPath (some .verified) trace) :
    trace = [.actionPrepared, .actionApplied, .actionVerified] := by
  cases path with
  | verified => rfl

end ActionPath

/-! ## One step of the replay -/

namespace Replay

variable {self next : Replay} {record : CrashJournalRecord}

theorem lookup_cons_ite {Value : Type} (entry : UInt32 × Value) (entries : List (UInt32 × Value))
    (tested : UInt32) :
    (entry :: entries).lookup tested = if tested = entry.1 then some entry.2
      else entries.lookup tested := by
  rw [lookup_cons]
  by_cases same : tested = entry.1
  · simp [same]
  · have different : (tested == entry.1) = false := beq_false_of_ne same
    rw [different, if_neg same]

theorem progress?_setProgress (self : Replay) (actionId tested : UInt32)
    (progress : ActionProgress) :
    (self.setProgress actionId progress).progress? tested =
      if tested = actionId then (self.progress? tested).map fun _ => progress
      else self.progress? tested := by
  unfold setProgress progress?
  dsimp only
  induction self.actions with
  | nil => simp
  | cons entry entries ih =>
    rw [map_cons, lookup_cons_ite, lookup_cons_ite, ih]
    by_cases changed : entry.1 = actionId
    · rw [if_pos changed, changed]
      by_cases same : tested = actionId
      · simp [same]
      · simp [same]
    · rw [if_neg changed]
      by_cases same : tested = entry.1
      · simp [same, changed]
      · simp [same]

theorem progress?_prepare (self : Replay) (actionId tested : UInt32) :
    ({ self with
      actions := (actionId, ActionProgress.prepared) :: self.actions }).progress? tested =
      if tested = actionId then some .prepared
      else self.progress? tested :=
  lookup_cons_ite (actionId, ActionProgress.prepared) self.actions tested

theorem progress?_of_allActions {self : Replay} {progress found : ActionProgress}
    {actionId : UInt32}
    (all : self.allActions progress = true)
    (stored : self.progress? actionId = some found) :
    found = progress := by
  unfold progress? at stored
  unfold allActions at all
  generalize self.actions = actions at stored all
  induction actions with
  | nil => cases stored
  | cons entry entries ih =>
    rw [all_cons, Bool.and_eq_true, beq_iff_eq] at all
    rw [lookup_cons_ite] at stored
    by_cases same : actionId = entry.1
    · rw [if_pos same] at stored
      rw [← Option.some.inj stored]
      exact all.1
    · rw [if_neg same] at stored
      exact ih stored all.2

/-- What an accepted record does to the replay. -/
inductive Applied (self : Replay) (index : Nat) (record : CrashJournalRecord) : Replay → Prop
  | started (kind : record.kind = .activationStarted) (first : index = 0) :
      Applied self index record { self with phase := .preparing }
  | prepared (kind : record.kind = .actionPrepared) (activating : self.activating = true)
      (fresh : self.progress? record.actionId = none) :
      Applied self index record
        { self with actions := (record.actionId, .prepared) :: self.actions }
  | applied (kind : record.kind = .actionApplied) (activating : self.activating = true)
      (waiting : self.progress? record.actionId = some .prepared) :
      Applied self index record
        { self.setProgress record.actionId .applied with phase := .applying }
  | verified (kind : record.kind = .actionVerified) (applying : self.phase = .applying)
      (waiting : self.progress? record.actionId = some .applied) :
      Applied self index record (self.setProgress record.actionId .verified)
  | committed (kind : record.kind = .activationCommitted) (activating : self.activating = true)
      (all : self.allActions .verified = true) :
      Applied self index record { self with phase := .active }
  | rollingBack (kind : record.kind = .rollbackStarted)
      (recoverable : self.activating = true ∨ self.phase = .active) :
      Applied self index record { self with phase := .rollingBack, rollbackVerified := false }
  | rolledBack {progress : ActionProgress} (kind : record.kind = .actionRolledBack)
      (rolling : self.phase = .rollingBack)
      (stored : self.progress? record.actionId = some progress)
      (outstanding : progress ≠ .rolledBack) :
      Applied self index record (self.setProgress record.actionId .rolledBack)
  | confirmed (kind : record.kind = .rollbackVerified) (rolling : self.phase = .rollingBack)
      (all : self.allActions .rolledBack = true) :
      Applied self index record { self with rollbackVerified := true }
  | stopped (kind : record.kind = .cleanStop) (rolling : self.phase = .rollingBack)
      (verified : self.rollbackVerified = true) :
      Applied self index record { self with phase := .clean, finalResult := .clean }
  | failed {result : CrashJournalFinalResult}
      (kind : record.kind = .failureRecorded ∨ record.kind = .recoveryRequired) :
      Applied self index record { self with phase := .recoveryRequired, finalResult := result }

theorem apply_cases {index : Nat} (known : knownRecordKind record.kind = true)
    (accepted : self.apply index record = .ok next) :
    Applied self index record next := by
  unfold apply at accepted
  cases kind : record.kind with
  | activationStarted =>
    simp only [kind] at accepted
    obtain ⟨first, accepted⟩ := not_taken accepted nofun
    cases accepted
    exact .started kind (not_not.mp (not_or.mp first).1)
  | actionPrepared =>
    simp only [kind] at accepted
    obtain ⟨activating, accepted⟩ := not_taken accepted nofun
    obtain ⟨fresh, accepted⟩ := not_taken accepted nofun
    cases accepted
    apply Applied.prepared kind
    · simpa using activating
    · simpa using fresh
  | actionApplied =>
    simp only [kind] at accepted
    obtain ⟨activating, accepted⟩ := not_taken accepted nofun
    obtain ⟨waiting, accepted⟩ := not_taken accepted nofun
    cases accepted
    apply Applied.applied kind
    · simpa using activating
    · exact not_not.mp waiting
  | actionVerified =>
    simp only [kind] at accepted
    obtain ⟨applying, accepted⟩ := not_taken accepted nofun
    obtain ⟨waiting, accepted⟩ := not_taken accepted nofun
    cases accepted
    exact .verified kind (not_not.mp applying) (not_not.mp waiting)
  | activationCommitted =>
    simp only [kind] at accepted
    obtain ⟨activating, accepted⟩ := not_taken accepted nofun
    obtain ⟨all, accepted⟩ := not_taken accepted nofun
    cases accepted
    apply Applied.committed kind
    · simpa using activating
    · simpa using all
  | rollbackStarted =>
    simp only [kind] at accepted
    obtain ⟨recoverable, accepted⟩ := not_taken accepted nofun
    cases accepted
    apply Applied.rollingBack kind
    by_cases activating : self.activating = true
    · exact Or.inl activating
    · apply Or.inr
      simpa [activating] using recoverable
  | actionRolledBack =>
    simp only [kind] at accepted
    obtain ⟨rolling, accepted⟩ := not_taken accepted nofun
    obtain ⟨outstanding, accepted⟩ := not_taken accepted nofun
    cases accepted
    rw [not_or] at outstanding
    obtain ⟨progress, stored⟩ := Option.ne_none_iff_exists'.mp outstanding.1
    apply Applied.rolledBack kind (not_not.mp rolling) stored
    intro done
    rw [done] at stored
    exact outstanding.2 stored
  | rollbackVerified =>
    simp only [kind] at accepted
    obtain ⟨rolling, accepted⟩ := not_taken accepted nofun
    obtain ⟨all, accepted⟩ := not_taken accepted nofun
    cases accepted
    apply Applied.confirmed kind (not_not.mp rolling)
    simpa using all
  | cleanStop =>
    simp only [kind] at accepted
    obtain ⟨guarded, accepted⟩ := not_taken accepted nofun
    cases accepted
    rw [not_or, Bool.not_eq_false] at guarded
    exact .stopped kind (not_not.mp guarded.1) guarded.2
  | failureRecorded =>
    simp only [kind] at accepted
    cases accepted
    exact .failed (Or.inl kind)
  | recoveryRequired =>
    simp only [kind] at accepted
    cases accepted
    exact .failed (Or.inr kind)
  | unknown value =>
    rw [kind] at known
    cases known

/-- What the checks before the `switch` say. -/
structure Stepped (before : Replay) (index : Nat)
    (record : CrashJournalRecord) (after : Replay) : Prop where
  sequence : record.sequence = UInt64.ofNat (index + 1)
  shape : actionRecord record.kind = (record.actionId != 0)
  notTerminal : before.terminal = false
  applied : Applied before index record after

theorem step_cases {index : Nat} (accepted : self.step index record = .ok next) :
    Stepped self index record next := by
  unfold step at accepted
  obtain ⟨identified, accepted⟩ := not_taken accepted nofun
  rw [not_or, not_or, Bool.not_eq_false] at identified
  obtain ⟨shape, accepted⟩ := not_taken accepted nofun
  obtain ⟨terminal, accepted⟩ := not_taken accepted nofun
  exact ⟨not_not.mp identified.1, not_not.mp shape, Bool.not_eq_true _ ▸ terminal,
    apply_cases identified.2.2 accepted⟩

end Replay

/-! ## What the replay knows about the records -/

/-- The kinds that only occur once the rollback has started. -/
def rollbackRecord : CrashJournalRecordKind → Bool
  | .rollbackStarted => true
  | .actionRolledBack => true
  | .rollbackVerified => true
  | .cleanStop => true
  | _ => false

/-- A journal in which every prepared action has been restored and the
rollback was verified. -/
structure Restoration where
  activation : List CrashJournalRecord
  started : CrashJournalRecord
  restored : List CrashJournalRecord
  verified : CrashJournalRecord
  repeated : List CrashJournalRecord

namespace Restoration

def records (parts : Restoration) : List CrashJournalRecord :=
  parts.activation ++ [parts.started] ++ parts.restored ++ [parts.verified] ++ parts.repeated

structure WellFormed (parts : Restoration) : Prop where
  activation : ∀ record ∈ parts.activation, rollbackRecord record.kind = false
  started : parts.started.kind = .rollbackStarted
  restored : ∀ record ∈ parts.restored, record.kind = .actionRolledBack
  verified : parts.verified.kind = .rollbackVerified
  repeated : ∀ record ∈ parts.repeated, record.kind = .rollbackVerified

end Restoration

/-- The part of the journal in which the replay is. -/
inductive Stage (history : List CrashJournalRecord) (replay : Replay) : Prop
  | activation (phase : replay.activating = true ∨ replay.phase = .active)
      (committed : replay.phase = .active → replay.allActions .verified = true)
      (forward : ∀ record ∈ history, rollbackRecord record.kind = false)
  | restoring (activation : List CrashJournalRecord) (started : CrashJournalRecord)
      (restored : List CrashJournalRecord)
      (phase : replay.phase = .rollingBack)
      (unverified : replay.rollbackVerified = false)
      (split : history = activation ++ started :: restored)
      (forward : ∀ record ∈ activation, rollbackRecord record.kind = false)
      (isStart : started.kind = .rollbackStarted)
      (isRestored : ∀ record ∈ restored, record.kind = .actionRolledBack)
  | verified (parts : Restoration) (phase : replay.phase = .rollingBack)
      (confirmed : replay.rollbackVerified = true)
      (all : replay.allActions .rolledBack = true)
      (split : history = parts.records)
      (wellFormed : parts.WellFormed)
  | stopped (parts : Restoration) (stop : CrashJournalRecord) (phase : replay.phase = .clean)
      (all : replay.allActions .rolledBack = true)
      (split : history = parts.records ++ [stop])
      (wellFormed : parts.WellFormed)
      (isStop : stop.kind = .cleanStop)
  | abandoned (phase : replay.phase = .recoveryRequired)

structure Explains (history : List CrashJournalRecord) (replay : Replay) : Prop where
  sequences :
    ∀ index (inside : index < history.length), history[index].sequence = UInt64.ofNat (index + 1)
  paths : ∀ actionId, ActionPath (replay.progress? actionId) (actionTrace actionId history)
  stage : Stage history replay

theorem explains_start : Explains [] {} where
  sequences := by
    intro index inside
    cases inside
  paths := by
    intro actionId
    exact .absent
  stage := by
    refine .activation (Or.inl rfl) ?_ ?_
    · intro active
      cases active
    · intro record member
      cases member

section Step

variable {history : List CrashJournalRecord} {self next : Replay} {record : CrashJournalRecord}

theorem sequences_step
    (sequences :
      ∀ index (inside : index < history.length), history[index].sequence = UInt64.ofNat (index + 1))
    (sequence : record.sequence = UInt64.ofNat (history.length + 1)) :
    ∀ index (inside : index < (history ++ [record]).length),
      (history ++ [record])[index].sequence = UInt64.ofNat (index + 1) := by
  intro index inside
  rw [length_append, length_singleton] at inside
  by_cases earlier : index < history.length
  · rw [getElem_append_left earlier]
    exact sequences index earlier
  · have last : index = history.length := by omega
    simp only [last, getElem_concat_length]
    exact sequence

section

variable (paths : ∀ actionId, ActionPath (self.progress? actionId) (actionTrace actionId history))
include paths

theorem paths_session (session : actionRecord record.kind = false)
    (same : next.actions = self.actions) :
    ∀ actionId,
      ActionPath (next.progress? actionId) (actionTrace actionId (history ++ [record])) := by
  intro actionId
  have unconcerned : record.concerns actionId = false := by
    simp [CrashJournalRecord.concerns, session]
  have progress :
      next.progress? actionId = self.progress? actionId := by
    unfold Replay.progress?
    rw [same]
  rw [actionTrace_append, unconcerned, progress]
  exact paths actionId

theorem paths_action (action : actionRecord record.kind = true)
    (others :
      ∀ tested, tested ≠ record.actionId →
        next.progress? tested = self.progress? tested)
    (extended :
      ActionPath (self.progress? record.actionId) (actionTrace record.actionId history) →
        ActionPath (next.progress? record.actionId)
          (actionTrace record.actionId history ++ [record.kind])) :
    ∀ actionId,
      ActionPath (next.progress? actionId) (actionTrace actionId (history ++ [record])) := by
  intro actionId
  rw [actionTrace_append]
  by_cases same : actionId = record.actionId
  · have concerned : record.concerns actionId = true := by
      simp [CrashJournalRecord.concerns, action, same]
    rw [if_pos concerned, same]
    exact extended (paths record.actionId)
  · have unconcerned : record.concerns actionId = false := by
      simp [CrashJournalRecord.concerns, Ne.symm same]
    rw [unconcerned, if_neg Bool.false_ne_true, others actionId same]
    exact paths actionId

theorem paths_progress {before after : ActionProgress} (action : actionRecord record.kind = true)
    (stored : self.progress? record.actionId = some before)
    (actions :
      next.actions = (self.setProgress record.actionId after).actions)
    (extends_ :
      ∀ {trace}, ActionPath (some before) trace →
        ActionPath (some after) (trace ++ [record.kind])) :
    ∀ actionId,
      ActionPath (next.progress? actionId) (actionTrace actionId (history ++ [record])) := by
  have progress (tested : UInt32) :
      next.progress? tested =
        if tested = record.actionId then (self.progress? tested).map fun _ => after
        else self.progress? tested := by
    rw [← Replay.progress?_setProgress]
    unfold Replay.progress?
    rw [actions]
  apply paths_action paths action
  · intro tested different
    rw [progress, if_neg different]
  · intro path
    rw [stored] at path
    rw [progress, if_pos rfl, stored]
    exact extends_ path

theorem paths_step (applied : Replay.Applied self history.length record next) :
    ∀ actionId,
      ActionPath (next.progress? actionId) (actionTrace actionId (history ++ [record])) := by
  cases applied with
  | started kind first => exact paths_session paths (by rw [kind]; rfl) rfl
  | prepared kind activating fresh =>
    apply paths_action paths (by rw [kind]; rfl)
    · intro tested different
      rw [Replay.progress?_prepare, if_neg different]
    intro path
    rw [fresh] at path
    rw [Replay.progress?_prepare, if_pos rfl, kind]
    generalize actionTrace record.actionId history = trace at path ⊢
    cases path with
    | absent => exact .prepared
  | applied kind activating waiting =>
    apply paths_progress paths (by rw [kind]; rfl) waiting rfl
    intro trace path
    rw [kind]
    cases path with
    | prepared => exact .applied
  | verified kind applying waiting =>
    apply paths_progress paths (by rw [kind]; rfl) waiting rfl
    intro trace path
    rw [kind]
    cases path with
    | applied => exact .verified
  | committed kind activating all | rollingBack kind recoverable =>
    exact paths_session paths (by rw [kind]; rfl) rfl
  | rolledBack kind rolling stored outstanding =>
    apply paths_progress paths (by rw [kind]; rfl) stored rfl
    intro trace path
    rw [kind]
    exact .rolledBack outstanding path
  | confirmed kind rolling all | stopped kind rolling verified =>
    exact paths_session paths (by rw [kind]; rfl) rfl
  | failed kind =>
    refine paths_session paths ?_ rfl
    cases kind with
    | inl kind | inr kind =>
      rw [kind]
      rfl

end

theorem phase_of_activating (activating : self.activating = true) :
    self.phase = .preparing ∨ self.phase = .applying := by
  simpa [Replay.activating] using activating

theorem forward_of_recoverable (stage : Stage history self)
    (recoverable : self.activating = true ∨ self.phase = .active) :
    ∀ record ∈ history, rollbackRecord record.kind = false := by
  have notRolling {phase : CrashJournalPhase} (isPhase : self.phase = phase)
      (other : phase ≠ .preparing ∧ phase ≠ .applying ∧ phase ≠ .active) :
      False := by
    cases recoverable with
    | inl activating =>
      cases phase_of_activating activating with
      | inl preparing => exact other.1 (isPhase.symm.trans preparing)
      | inr applying => exact other.2.1 (isPhase.symm.trans applying)
    | inr active => exact other.2.2 (isPhase.symm.trans active)
  cases stage with
  | activation phase committed forward => exact forward
  | restoring activation started restored phase | verified parts phase | stopped parts stop phase
  | abandoned phase => exact (notRolling phase (by decide)).elim

theorem forward_append (forward : ∀ record ∈ history, rollbackRecord record.kind = false)
    (kind : rollbackRecord record.kind = false) :
    ∀ recorded ∈ history ++ [record], rollbackRecord recorded.kind = false := by
  intro recorded member
  cases mem_append.mp member with
  | inl earlier => exact forward recorded earlier
  | inr last =>
    rw [mem_singleton.mp last]
    exact kind

theorem restored_append {restored : List CrashJournalRecord}
    (all : ∀ recorded ∈ restored, recorded.kind = kind)
    (isKind : record.kind = kind) :
    ∀ recorded ∈ restored ++ [record], recorded.kind = kind := by
  intro recorded member
  cases mem_append.mp member with
  | inl earlier => exact all recorded earlier
  | inr last =>
    rw [mem_singleton.mp last]
    exact isKind

section

variable (stage : Stage history self)
include stage

theorem stage_activating (activating : self.activating = true) (phase : next.activating = true)
    (kind : rollbackRecord record.kind = false) :
    Stage (history ++ [record]) next := by
  have forward := forward_of_recoverable stage (Or.inl activating)
  apply Stage.activation (Or.inl phase)
  · intro active
    cases phase_of_activating phase with
    | inl preparing =>
      rw [preparing] at active
      cases active
    | inr applying =>
      rw [applying] at active
      cases active
  · exact forward_append forward kind

/-- While rolling back, actions are still being restored, or all of them
have been and that was verified. -/
theorem stage_rolling_cases (rolling : self.phase = .rollingBack) :
    (∃ activation started restored,
        self.rollbackVerified = false ∧ history = activation ++ started :: restored ∧
          (∀ recorded ∈ activation, rollbackRecord recorded.kind = false) ∧
          started.kind = .rollbackStarted ∧
          ∀ recorded ∈ restored, recorded.kind = .actionRolledBack) ∨
      ∃ parts : Restoration,
        self.rollbackVerified = true ∧ self.allActions .rolledBack = true ∧
          history = parts.records ∧ parts.WellFormed := by
  cases stage with
  | activation phase committed forward =>
    cases phase with
    | inl activating =>
      cases phase_of_activating activating with
      | inl preparing =>
        rw [rolling] at preparing
        cases preparing
      | inr applying =>
        rw [rolling] at applying
        cases applying
    | inr active =>
      rw [rolling] at active
      cases active
  | restoring activation started restored phase unverified split forward isStart isRestored =>
    exact Or.inl ⟨activation, started, restored, unverified, split, forward, isStart, isRestored⟩
  | verified parts phase confirmed all split wellFormed =>
    exact Or.inr ⟨parts, confirmed, all, split, wellFormed⟩
  | stopped parts stop phase | abandoned phase =>
    rw [rolling] at phase
    cases phase

theorem stage_rolledBack {progress : ActionProgress} (kind : record.kind = .actionRolledBack)
    (rolling : self.phase = .rollingBack)
    (stored : self.progress? record.actionId = some progress)
    (outstanding : progress ≠ .rolledBack) :
    Stage (history ++ [record]) (self.setProgress record.actionId .rolledBack) := by
  obtain ⟨activation, started, restored, unverified, split, forward,
      isStart, isRestored⟩ | ⟨parts, _, all, _, _⟩ :=
    stage_rolling_cases stage rolling
  · refine .restoring activation started (restored ++ [record]) rolling
      unverified ?_ forward isStart ?_
    · rw [split, append_assoc, cons_append]
    · exact restored_append isRestored kind
  · exact absurd (Replay.progress?_of_allActions all stored) outstanding

theorem stage_confirmed (kind : record.kind = .rollbackVerified)
    (rolling : self.phase = .rollingBack)
    (all : self.allActions .rolledBack = true) :
    Stage (history ++ [record]) { self with rollbackVerified := true } := by
  obtain ⟨activation, started, restored, _, split, forward, isStart,
      isRestored⟩ | ⟨parts, _, _, split, wellFormed⟩ :=
    stage_rolling_cases stage rolling
  · let parts : Restoration :=
      { activation := activation, started := started, restored := restored, verified := record
        repeated := [] }
    refine .verified parts rolling rfl all ?_ ?_
    · rw [split]
      simp [parts, Restoration.records]
    · refine ⟨forward, isStart, isRestored, kind, ?_⟩
      intro recorded member
      cases member
  · let longer : Restoration :=
      { parts with repeated := parts.repeated ++ [record] }
    refine .verified longer rolling rfl all ?_ ?_
    · rw [split]
      simp [longer, Restoration.records]
    · exact { wellFormed with repeated := restored_append wellFormed.repeated kind }

theorem stage_stopped (kind : record.kind = .cleanStop) (rolling : self.phase = .rollingBack)
    (confirmed : self.rollbackVerified = true) :
    Stage (history ++ [record]) { self with phase := .clean, finalResult := .clean } := by
  obtain ⟨_, _, _, unverified, _⟩ | ⟨parts, _, all, split, wellFormed⟩ :=
    stage_rolling_cases stage rolling
  · rw [confirmed] at unverified
    cases unverified
  · exact .stopped parts record rfl all (by rw [split]) wellFormed kind

theorem stage_step (applied : Replay.Applied self history.length record next) :
    Stage (history ++ [record]) next := by
  cases applied with
  | started kind first =>
    have empty := eq_nil_of_length_eq_zero first
    refine .activation (Or.inl rfl) ?_ ?_
    · intro active
      cases active
    · intro recorded member
      rw [empty] at member
      rw [mem_singleton.mp member, kind]
      rfl
  | prepared kind activating fresh =>
    exact stage_activating stage activating activating (by rw [kind]; rfl)
  | applied kind activating waiting =>
    exact stage_activating stage activating rfl (by rw [kind]; rfl)
  | verified kind applying waiting =>
    have activating : self.activating = true := by
      simp [Replay.activating, applying]
    exact stage_activating stage activating activating (by rw [kind]; rfl)
  | committed kind activating all =>
    have forward := forward_of_recoverable stage (Or.inl activating)
    exact .activation (Or.inr rfl) (fun _ => all) (forward_append forward (by rw [kind]; rfl))
  | rollingBack kind recoverable =>
    have forward := forward_of_recoverable stage recoverable
    refine .restoring history record [] rfl rfl rfl forward kind ?_
    intro recorded member
    cases member
  | rolledBack kind rolling stored outstanding =>
    exact stage_rolledBack stage kind rolling stored outstanding
  | confirmed kind rolling all => exact stage_confirmed stage kind rolling all
  | stopped kind rolling verified => exact stage_stopped stage kind rolling verified
  | failed kind => exact .abandoned rfl

end

theorem explains_step (explains : Explains history self)
    (stepped : Replay.Stepped self history.length record next) :
    Explains (history ++ [record]) next where
  sequences := sequences_step explains.sequences stepped.sequence
  paths := paths_step explains.paths stepped.applied
  stage := stage_step explains.stage stepped.applied

end Step

variable {self final : Replay} {record : CrashJournalRecord}

theorem explains_run {history records : List CrashJournalRecord} (explains : Explains history self)
    (replayed : self.run history.length records = .ok final) :
    Explains (history ++ records) final := by
  induction records generalizing history self with
  | nil =>
    rw [Replay.run] at replayed
    rw [append_nil, ← Except.ok.inj replayed]
    exact explains
  | cons record records ih =>
    rw [Replay.run] at replayed
    cases accepted : self.step history.length record with
    | error text =>
      rw [accepted] at replayed
      cases replayed
    | ok next =>
      rw [accepted] at replayed
      have stepped := Replay.step_cases accepted
      have longer := explains_step explains stepped
      have length : (history ++ [record]).length = history.length + 1 := length_append
      rw [append_cons]
      apply ih longer
      rw [length]
      exact replayed

/-! ## Accepted journals -/

/-- The kinds after which a journal ends. -/
def terminalRecord : CrashJournalRecordKind → Bool
  | .cleanStop => true
  | .failureRecorded => true
  | .recoveryRequired => true
  | _ => false

theorem Replay.Applied.terminal {next : Replay} {index : Nat}
    (applied : Applied self index record next)
    (last : terminalRecord record.kind = true) :
    next.terminal = true := by
  cases applied with
  | stopped kind rolling verified | failed kind => rfl
  | started kind | prepared kind | applied kind | verified kind | committed kind
  | rollingBack kind | rolledBack kind | confirmed kind =>
    rw [kind] at last
    cases last

theorem Replay.run_terminal_last {index : Nat} {before after : List CrashJournalRecord}
    (replayed : self.run index (before ++ record :: after) = .ok final)
    (last : terminalRecord record.kind = true) :
    after = [] := by
  induction before generalizing self index with
  | nil =>
    rw [nil_append, Replay.run] at replayed
    cases accepted : self.step index record with
    | error text =>
      rw [accepted] at replayed
      cases replayed
    | ok next =>
      rw [accepted] at replayed
      have terminal := (step_cases accepted).applied.terminal last
      cases after with
      | nil => rfl
      | cons follower after =>
        dsimp only at replayed
        rw [run] at replayed
        cases followed : next.step (index + 1) follower with
        | error text =>
          rw [followed] at replayed
          cases replayed
        | ok _ =>
          have running := (step_cases followed).notTerminal
          rw [terminal] at running
          cases running
  | cons head before ih =>
    rw [cons_append, Replay.run] at replayed
    cases accepted : self.step index head with
    | error text =>
      rw [accepted] at replayed
      cases replayed
    | ok next =>
      rw [accepted] at replayed
      exact ih replayed

/-- A journal that ended clean: an activation, one `ActionRolledBack` for
each action it prepared, the verification, and the stop. -/
structure CleanJournal (records : List CrashJournalRecord)
    (parts : Restoration) (stop : CrashJournalRecord) : Prop where
  split : records = parts.records ++ [stop]
  wellFormed : parts.WellFormed
  stop : stop.kind = .cleanStop
  restoredOnce :
    ∀ actionId, recordings .actionPrepared actionId records ≠ 0 →
      recordings .actionPrepared actionId parts.activation = 1 ∧
        recordings .actionRolledBack actionId parts.restored = 1

structure JournalGrammar (state : CrashJournalState) : Prop where
  sequences :
    ∀ index (inside : index < state.records.length), state.records[index].sequence.toNat = index + 1
  preparedOnce : ∀ actionId, recordings .actionPrepared actionId state.records ≤ 1
  rolledBackOnce : ∀ actionId, recordings .actionRolledBack actionId state.records ≤ 1
  terminalLast :
    ∀ before record after, state.records = before ++ record :: after →
      terminalRecord record.kind = true → after = []
  active :
    state.phase = .active →
      ∀ actionId,
        recordings .actionPrepared actionId state.records ≠ 0 →
          actionTrace actionId state.records = [.actionPrepared, .actionApplied, .actionVerified]
  clean : state.phase = .clean → ∃ parts stop, CleanJournal state.records parts stop

section Accepted

variable {records : List CrashJournalRecord} {final : Replay}
variable {actionId : UInt32}

theorem recordings_append (kind : CrashJournalRecordKind) (actionId : UInt32)
    (first second : List CrashJournalRecord) :
    recordings kind actionId (first ++ second) =
      recordings kind actionId first + recordings kind actionId second :=
  countP_append

theorem recordings_eq_zero
    (others : ∀ record ∈ records, record.kind ≠ kind) :
    recordings kind actionId records = 0 := by
  apply countP_eq_zero.mpr
  intro record member
  simp [others record member]

section

variable (explains : Explains records final)
include explains

theorem Explains.prepared_recordings (actionId : UInt32) :
    recordings .actionPrepared actionId records =
      if final.progress? actionId = none then 0 else 1 := by
  rw [← count_actionTrace rfl]
  exact (explains.paths actionId).prepared_count

theorem Explains.rolledBack_recordings (actionId : UInt32) :
    recordings .actionRolledBack actionId records =
      if final.progress? actionId = some .rolledBack then 1 else 0 := by
  rw [← count_actionTrace rfl]
  exact (explains.paths actionId).rolledBack_count

theorem Explains.progress_of_prepared {progress : ActionProgress}
    (all : final.allActions progress = true)
    (prepared : recordings .actionPrepared actionId records ≠ 0) :
    final.progress? actionId = some progress := by
  rw [explains.prepared_recordings] at prepared
  cases stored : final.progress? actionId with
  | none =>
    rw [stored, if_pos rfl] at prepared
    exact absurd rfl prepared
  | some found => rw [Replay.progress?_of_allActions all stored]

theorem Explains.active (active : final.phase = .active) :
    ∀ actionId,
      recordings .actionPrepared actionId records ≠ 0 →
        actionTrace actionId records = [.actionPrepared, .actionApplied, .actionVerified] := by
  have committed : final.allActions .verified = true := by
    cases explains.stage with
    | activation phase committed forward => exact committed active
    | restoring activation started restored phase | verified parts phase
    | stopped parts stop phase | abandoned phase =>
      rw [active] at phase
      cases phase
  intro actionId prepared
  have path := explains.paths actionId
  rw [explains.progress_of_prepared committed prepared] at path
  exact path.trace_of_verified

theorem Explains.clean (clean : final.phase = .clean) :
    ∃ parts stop, CleanJournal records parts stop := by
  cases explains.stage with
  | activation phase committed forward =>
    cases phase with
    | inl activating =>
      cases phase_of_activating activating with
      | inl preparing =>
        rw [clean] at preparing
        cases preparing
      | inr applying =>
        rw [clean] at applying
        cases applying
    | inr active =>
      rw [clean] at active
      cases active
  | restoring activation started restored phase | verified parts phase | abandoned phase =>
    rw [clean] at phase
    cases phase
  | stopped parts stop phase all split wellFormed isStop =>
    refine ⟨parts, stop, split, wellFormed, isStop, ?_⟩
    intro actionId prepared
    have stored := explains.progress_of_prepared all prepared
    have preparedOnce := explains.prepared_recordings actionId
    have rolledBackOnce := explains.rolledBack_recordings actionId
    rw [stored, if_neg (Option.some_ne_none _)] at preparedOnce
    rw [stored, if_pos rfl] at rolledBackOnce
    have alone (record : CrashJournalRecord) (kind tested : CrashJournalRecordKind)
        (isKind : record.kind = kind) (other : kind ≠ tested) :
        recordings tested actionId [record] = 0 := by
      apply recordings_eq_zero
      intro recorded member
      rw [mem_singleton.mp member, isKind]
      exact other
    have partition (tested : CrashJournalRecordKind) (notStart : .rollbackStarted ≠ tested)
        (notVerified : .rollbackVerified ≠ tested)
        (notStop : .cleanStop ≠ tested) :
        recordings tested actionId records =
          recordings tested actionId parts.activation +
            recordings tested actionId parts.restored := by
      have started := alone parts.started _ tested wellFormed.started notStart
      have verified := alone parts.verified _ tested wellFormed.verified notVerified
      have stopped := alone stop _ tested isStop notStop
      have repeated : recordings tested actionId parts.repeated = 0 := by
        apply recordings_eq_zero
        intro recorded member
        rw [wellFormed.repeated recorded member]
        exact notVerified
      rw [split, Restoration.records]
      simp only [recordings_append, started, verified, stopped, repeated]
      omega
    have preparedParts := partition .actionPrepared (by decide) (by decide) (by decide)
    have rolledBackParts := partition .actionRolledBack (by decide) (by decide) (by decide)
    have noneRestored : recordings .actionPrepared actionId parts.restored = 0 := by
      apply recordings_eq_zero
      intro recorded member
      rw [wellFormed.restored recorded member]
      decide
    have noneRolledBack : recordings .actionRolledBack actionId parts.activation = 0 := by
      apply recordings_eq_zero
      intro recorded member isRollback
      have forward := wellFormed.activation recorded member
      rw [isRollback] at forward
      cases forward
    omega

end

end Accepted

variable {state : CrashJournalState}

theorem derived_of_valid (valid : validateCrashJournalState state = .ok ()) :
    ∃ derived : Replay,
      Replay.run {} 0 state.records = .ok derived ∧ derived.phase = state.phase := by
  unfold validateCrashJournalState at valid
  obtain ⟨_, valid⟩ := not_taken valid nofun
  split at valid
  · cases valid
  split at valid
  · cases valid
  split at valid
  · cases valid
  split at valid
  · cases valid
  next derived replayed =>
    unfold deriveStateFromRecords at replayed
    obtain ⟨_, replayed⟩ := not_taken replayed nofun
    split at valid
    · cases valid
    next matched =>
      rw [not_or] at matched
      exact ⟨derived, replayed, not_not.mp matched.1⟩

theorem journalGrammar_of_valid (valid : validateCrashJournalState state = .ok ()) :
    JournalGrammar state := by
  have fields := validJournal valid
  obtain ⟨derived, replayed, phase⟩ := derived_of_valid valid
  have explains : Explains state.records derived := explains_run explains_start replayed
  exact
    { sequences := by
        intro index inside
        rw [explains.sequences index inside]
        have sized := fields.recordCount
        unfold kCrashJournalMaxRecords at sized
        apply UInt64.toNat_ofNat_of_lt'
        change index + 1 < 2 ^ 64
        omega
      preparedOnce := by
        intro actionId
        rw [explains.prepared_recordings]
        split <;> omega
      rolledBackOnce := by
        intro actionId
        rw [explains.rolledBack_recordings]
        split <;> omega
      terminalLast := by
        intro before record after split last
        rw [split] at replayed
        exact Replay.run_terminal_last replayed last
      active := by
        intro active
        exact explains.active (phase.trans active)
      clean := by
        intro clean
        exact explains.clean (phase.trans clean) }

/-- The journals that the validator accepts, the decoded ones among them,
follow the grammar. -/
theorem crashJournal_grammar {state : CrashJournalState}
    (accepted :
      validateCrashJournalState state = .ok () ∨ ∃ bytes, decodeCrashJournal bytes = .ok state) :
    JournalGrammar state := by
  cases accepted with
  | inl valid => exact journalGrammar_of_valid valid
  | inr decoded =>
    obtain ⟨bytes, decoded⟩ := decoded
    exact journalGrammar_of_valid (decodeCrashJournal_valid decoded).valid

/-- An action that was prepared, never verified, and restored; the rollback
was verified twice. -/
def reverifiedJournal : CrashJournalState where
  sessionId := Vector.replicate 16 7
  planHash := Vector.replicate 32 1
  runtimeGeneration := 1
  lease :=
    { sessionId := Vector.replicate 16 7, generation := 1, timeoutMilliseconds := 5000 }
  phase := .clean
  finalResult := .clean
  records :=
    [⟨1, .activationStarted, 0, 1⟩, ⟨2, .actionPrepared, 10, 1⟩, ⟨3, .rollbackStarted, 0, 1⟩,
      ⟨4, .actionRolledBack, 10, 1⟩,
      ⟨5, .rollbackVerified, 0, 1⟩,
      ⟨6, .rollbackVerified, 0, 1⟩,
      ⟨7, .cleanStop, 0, 1⟩]

theorem reverifiedJournal_valid : validateCrashJournalState reverifiedJournal = .ok () := by
  decide

theorem reverifiedJournal_grammar : JournalGrammar reverifiedJournal :=
  crashJournal_grammar (Or.inl reverifiedJournal_valid)

/-- Neither the verification of the action nor the one of the rollback is
recorded exactly once. -/
theorem clean_without_single_verification :
    ¬ ∀ state : CrashJournalState, validateCrashJournalState state = .ok () → state.phase = .clean →
      ∀ actionId,
        recordings .actionPrepared actionId state.records ≠ 0 →
          recordings .actionRolledBack actionId state.records = 1 ∧
            (recordings .actionVerified actionId state.records = 1 ∨
              recordings .rollbackVerified 0 state.records = 1) := by
  intro once
  have verified := (once reverifiedJournal reverifiedJournal_valid rfl 10 (by decide)).2
  revert verified
  decide

end HydraSeat.Recovery
