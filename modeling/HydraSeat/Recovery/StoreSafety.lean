import HydraSeat.Recovery.JournalStore

/-!
# What the store does to its two files

Only the journal and the safe-mode marker decide what the store does; the
other slots are scratch.  Every operation is described by the changes it may
make to these two files, one storage call at a time, and by what its result
says about them.
-/

namespace HydraSeat.Recovery

open Foundation
open Foundation.Command
open Watchdog CrashJournalStore Function JournalStorageSlot Storage

structure Files where
  (current safeMode : Option (List UInt8) := none)

def Disk.files (disk : Disk) : Files where
  current := disk .current
  safeMode := disk .safeMode

def JournalStorageSlot.scratch : JournalStorageSlot → Bool
  | .current => false
  | .safeMode => false
  | _ => true

variable {slot : JournalStorageSlot}

theorem files_put_scratch (scratch : slot.scratch = true)
    (disk : Disk) (content : Option (List UInt8)) :
    (disk.put slot content).files = disk.files := by
  have notCurrent : current ≠ slot := by
    rintro rfl
    cases scratch
  have notSafeMode : safeMode ≠ slot := by
    rintro rfl
    cases scratch
  unfold Disk.files Disk.put
  rw [update_of_ne notCurrent, update_of_ne notSafeMode]

theorem files_move_current (disk : Disk) :
    (disk.move .currentTemp .current).files = { disk.files with current := disk .currentTemp } :=
  rfl

theorem files_move_safeMode (disk : Disk) :
    (disk.move .safeModeTemp .safeMode).files =
      { disk.files with safeMode := disk .safeModeTemp } :=
  rfl

section FilesSafe

variable {α β : Type}

/-- From any disk with these files every storage call meets `guarantee` and
the result meets `post`. -/
def FilesSafeIn (env : Environment storageInterface Disk)
    (guarantee : Files → Files → Prop) (post : α → Files → Prop)
    (program : StorageProgram α) (files : Files) : Prop :=
  ∀ disk : Disk, disk.files = files →
    Safe env (fun before after => guarantee before.files after.files)
      (fun value after => post value after.files) program disk

abbrev FilesSafe : (Files → Files → Prop) → (α → Files → Prop) → StorageProgram α → Files → Prop :=
  FilesSafeIn diskStorage

variable {env : Environment storageInterface Disk}
  {guarantee : Files → Files → Prop} {files : Files}

theorem filesSafe_pure {post : α → Files → Prop} {value : α} (holds : post value files) :
    FilesSafeIn env guarantee post (pure value) files := by
  rintro disk rfl
  exact safe_pure holds

variable {program : StorageProgram α}

theorem filesSafe_bind {middle : α → Files → Prop} {post : β → Files → Prop}
    {next : α → StorageProgram β}
    (first : FilesSafeIn env guarantee middle program files)
    (second :
      ∀ value after, middle value after → FilesSafeIn env guarantee post (next value) after) :
    FilesSafeIn env guarantee post (program >>= next) files := by
  intro disk same
  exact safe_bind (first disk same)
    fun value after holds => second value after.files holds after rfl

theorem filesSafe_mono {stronger : Files → Files → Prop}
    {specific post : α → Files → Prop}
    (guaranteed : ∀ before after, stronger before after → guarantee before after)
    (returned : ∀ value after, specific value after → post value after)
    (safe : FilesSafeIn env stronger specific program files) :
    FilesSafeIn env guarantee post program files := by
  intro disk same
  exact safe_mono (fun before after => guaranteed before.files after.files)
    (fun value after => returned value after.files) (safe disk same)

theorem filesSafe_post {specific post : α → Files → Prop}
    (safe : FilesSafeIn env guarantee specific program files)
    (returned : ∀ value after, specific value after → post value after) :
    FilesSafeIn env guarantee post program files :=
  filesSafe_mono (fun _ _ => id) returned safe

def ReadsAs (content : Option (List UInt8)) (maxBytes : Nat) (result : JournalReadResult) : Prop :=
  result = readContent content maxBytes ∨ ∃ systemError, result = .failed systemError

theorem filesSafe_read (reflexive : guarantee files files) (slot : JournalStorageSlot)
    (maxBytes : Nat) :
    FilesSafe guarantee (fun _ after => after = files) (read slot maxBytes) files := by
  rintro disk rfl
  rintro result after ⟨rfl, _⟩
  exact ⟨reflexive, rfl⟩

theorem filesSafe_readCurrent (reflexive : guarantee files files) (maxBytes : Nat) :
    FilesSafe guarantee (fun result after => after = files ∧ ReadsAs files.current maxBytes result)
      (read .current maxBytes) files := by
  rintro disk rfl
  rintro result after ⟨rfl, answered⟩
  exact ⟨reflexive, rfl, answered⟩

theorem filesSafe_readSafeMode (reflexive : guarantee files files) (maxBytes : Nat) :
    FilesSafe guarantee (fun result after => after = files ∧ ReadsAs files.safeMode maxBytes result)
      (read .safeMode maxBytes) files := by
  rintro disk rfl
  rintro result after ⟨rfl, answered⟩
  exact ⟨reflexive, rfl, answered⟩

theorem filesSafe_writeScratch (scratch : slot.scratch = true)
    (reflexive : guarantee files files) (bytes : List UInt8) :
    FilesSafe guarantee (fun _ after => after = files) (durableWrite slot bytes) files := by
  rintro disk rfl
  intro answer after written
  have same : after.files = disk.files := by
    cases answer with
    | ok _ =>
      rw [show after = _ from written]
      exact files_put_scratch scratch disk _
    | error _ =>
      obtain ⟨left, rfl⟩ := written
      exact files_put_scratch scratch disk left
  exact ⟨(congrArg (guarantee disk.files) same).mpr reflexive, same⟩

theorem filesSafe_removeScratch (scratch : slot.scratch = true)
    (reflexive : guarantee files files) :
    FilesSafe guarantee (fun _ after => after = files) (remove slot) files := by
  rintro disk rfl
  intro answer after removed
  have same : after.files = disk.files := by
    cases answer with
    | ok _ =>
      rw [show after = _ from removed]
      exact files_put_scratch scratch disk none
    | error _ =>
      rcases removed with rfl | rfl
      · rfl
      · exact files_put_scratch scratch disk none
  exact ⟨(congrArg (guarantee disk.files) same).mpr reflexive, same⟩

theorem filesSafe_removeSafeMode (reflexive : guarantee files files)
    (removes : guarantee files { files with safeMode := none }) :
    FilesSafe guarantee (fun _ after => after = files ∨ after = { files with safeMode := none })
      (remove .safeMode) files := by
  rintro disk rfl
  intro answer after removed
  cases answer with
  | ok _ =>
    rw [show after = _ from removed]
    exact ⟨removes, Or.inr rfl⟩
  | error _ =>
    rcases removed with rfl | rfl
    · exact ⟨reflexive, Or.inl rfl⟩
    · exact ⟨removes, Or.inr rfl⟩

/-- A write beside a slot followed by a replacement puts the bytes in the
slot or leaves it alone, and puts them there when it succeeds. -/
theorem filesSafe_writeThenReplace {temporary : JournalStorageSlot} {bytes : List UInt8}
    (put : Option (List UInt8) → Files → Files)
    (scratch : temporary.scratch = true)
    (moves : ∀ disk : Disk, (disk.move temporary slot).files = put (disk temporary) disk.files)
    (reflexive : ∀ after, guarantee after after)
    (puts : guarantee files (put (some bytes) files)) :
    FilesSafe guarantee
      (fun answer after =>
        after = put (some bytes) files ∨ after = files ∧ Except.isOk answer = false)
      (writeThenReplace temporary slot bytes)
      files := by
  rintro disk rfl
  have cleanUp :
      ∀ (systemError : UInt32) (left : Disk) (after : Files), left.files = after →
        (after = put (some bytes) disk.files ∨ after = disk.files) →
        Safe diskStorage (fun before after => guarantee before.files after.files)
          (fun answer after =>
            after.files = put (some bytes) disk.files ∨
              after.files = disk.files ∧ Except.isOk answer = false)
          (remove temporary >>= fun _ =>
            (pure (.error systemError) : StorageProgram (Except UInt32 Unit)))
          left := by
    intro systemError left after same kept
    refine safe_bind (filesSafe_removeScratch scratch (reflexive after) left same) ?_
    intro _ last unchanged
    refine safe_pure ?_
    rcases kept with put | kept
    · exact Or.inl (unchanged.trans put)
    · exact Or.inr ⟨unchanged.trans kept, rfl⟩
  intro written afterWrite write
  cases written with
  | error systemError =>
    obtain ⟨left, rfl⟩ := write
    have same := files_put_scratch scratch disk left
    exact ⟨(congrArg (guarantee disk.files) same).mpr (reflexive _),
      cleanUp systemError _ _ same (Or.inr rfl)⟩
  | ok _ =>
    have placed : afterWrite = disk.put temporary (some bytes) := write
    subst placed
    have same := files_put_scratch scratch disk (some bytes)
    have content : (disk.put temporary (some bytes)) temporary = some bytes := update_self ..
    have moved :
        ((disk.put temporary (some bytes)).move temporary slot).files =
          put (some bytes) disk.files := by
      rw [moves, content, same]
    have step :
        guarantee (disk.put temporary (some bytes)).files
          ((disk.put temporary (some bytes)).move temporary slot).files := by
      rw [same, moved]
      exact puts
    refine ⟨(congrArg (guarantee disk.files) same).mpr (reflexive _), ?_⟩
    intro replaced afterReplace replace
    cases replaced with
    | ok _ =>
      obtain ⟨_, rfl⟩ := replace
      exact ⟨step, Or.inl moved⟩
    | error systemError =>
      rcases replace with rfl | ⟨_, rfl⟩
      · exact ⟨reflexive _, cleanUp systemError _ _ same (Or.inr rfl)⟩
      · exact ⟨step, cleanUp systemError _ _ moved (Or.inl rfl)⟩

end FilesSafe

inductive StoreOperation where
  | beginActivation (initial : CrashJournalState)
  | persistTransition (state : CrashJournalState)
  | assessStartupAndEnterSafeMode
  | writeSafeMode (marker : SafeModeMarker)
  | replaceWithVerifiedCleanState (cleanState : CrashJournalState) (resetVerified : Bool)
  | clearSafeModeAfterVerifiedReset
      (expectedSession : SessionId) (expectedRuntimeGeneration : UInt64)
      (resetVerified : Bool)

inductive StoreResult where
  | outcome (result : Except String Unit)
  | assessment (result : StartupAssessment)
  deriving DecidableEq

def storeProgram : StoreOperation → StorageProgram StoreResult
  | .beginActivation initial => do
      let result ← beginActivation initial
      return .outcome result
  | .persistTransition state => do
      let result ← persistTransition state
      return .outcome result
  | .assessStartupAndEnterSafeMode => do
      let result ← assessStartupAndEnterSafeMode
      return .assessment result
  | .writeSafeMode marker => do
      let result ← writeSafeMode marker
      return .outcome result
  | .replaceWithVerifiedCleanState cleanState resetVerified => do
      let result ← replaceWithVerifiedCleanState cleanState resetVerified
      return .outcome result
  | .clearSafeModeAfterVerifiedReset session generation resetVerified => do
      let result ← clearSafeModeAfterVerifiedReset session generation resetVerified
      return .outcome result

/-- The file holds an encoded valid journal. -/
def Holds (content : Option (List UInt8)) (state : CrashJournalState) : Prop :=
  ∃ bytes, content = some bytes ∧ decodeCrashJournal bytes = .ok state

/-- The marker file holds an encoded marker. -/
def HoldsMarker (content : Option (List UInt8)) (marker : SafeModeMarker) : Prop :=
  ∃ bytes, content = some bytes ∧ decodeSafeModeMarker bytes = .ok marker

/-- No safe-mode marker exists, and the journal is missing or clean. -/
def Ready (files : Files) : Prop :=
  files.safeMode = none ∧
    (files.current = none ∨ ∃ prior, Holds files.current prior ∧ prior.isClean = true)

/-- One record more and the same session. -/
structure AppendsOne (current next : CrashJournalState) : Prop where
  sessionId : next.sessionId = current.sessionId
  planHash : next.planHash = current.planHash
  runtimeGeneration : next.runtimeGeneration = current.runtimeGeneration
  lease : next.lease = current.lease
  snapshots : next.snapshots = current.snapshots
  records : ∃ record, next.records = current.records ++ [record]

/-- The journals an operation may put into the current slot. -/
inductive JournalWrite : StoreOperation → Files → CrashJournalState → Prop
  | activation (initial : CrashJournalState) (files : Files)
      (canonical : canonicalInitial initial = true)
      (ready : Ready files) :
      JournalWrite (.beginActivation initial) files initial
  | transition (current next : CrashJournalState) (files : Files)
      (held : Holds files.current current)
      (appends : AppendsOne current next) :
      JournalWrite (.persistTransition next) files next
  | reset (cleanState : CrashJournalState) (files : Files) (clean : cleanState.isClean = true) :
      JournalWrite (.replaceWithVerifiedCleanState cleanState true) files cleanState

/-- What one storage call of an operation may do to the two files. -/
inductive StoreStep (operation : StoreOperation) : Files → Files → Prop
  | same (files : Files) : StoreStep operation files files
  | write (files : Files) (state : CrashJournalState) (valid : ValidJournal state)
      (allowed : JournalWrite operation files state) :
      StoreStep operation files { files with current := some (encodeCrashJournal state) }
  | mark (files : Files) (marker : SafeModeMarker) (accepted : encodeSafeModeMarker marker ≠ []) :
      StoreStep operation files { files with safeMode := some (encodeSafeModeMarker marker) }
  | unmark (files : Files) (session : SessionId) (generation : UInt64) (journal : CrashJournalState)
      (clears : operation = .clearSafeModeAfterVerifiedReset session generation true)
      (held : Holds files.current journal)
      (clean : journal.isClean = true)
      (sameSession : journal.sessionId = session)
      (sameGeneration : journal.runtimeGeneration = generation) :
      StoreStep operation files { files with safeMode := none }

namespace CrashJournalStore

section Parts

variable {guarantee : Files → Files → Prop} {files : Files}

theorem shiftHistory_safe (reflexive : guarantee files files) (count : Nat) :
    FilesSafe guarantee (fun _ after => after = files) (shiftHistory count) files := by
  induction count with
  | zero => exact filesSafe_pure rfl
  | succ index ih =>
    refine filesSafe_bind (filesSafe_read reflexive _ _) ?_
    rintro previous _ rfl
    split
    · have scratch : (historySlot (index + 1)).scratch = true := by
        match index with
        | 0 => rfl
        | 1 => rfl
        | _ + 2 => rfl
      refine filesSafe_bind (filesSafe_writeScratch scratch reflexive _) ?_
      rintro _ _ rfl
      exact ih
    · exact ih

theorem archiveCurrentBestEffort_safe
    (reflexive : guarantee files files) (currentBytes : List UInt8) :
    FilesSafe guarantee (fun _ after => after = files)
      (archiveCurrentBestEffort currentBytes) files := by
  refine filesSafe_bind (shiftHistory_safe reflexive _) ?_
  rintro _ _ rfl
  refine filesSafe_bind (filesSafe_writeScratch rfl reflexive _) ?_
  rintro _ _ rfl
  exact filesSafe_pure rfl

theorem readForArchive_safe (reflexive : guarantee files files) (archiveCurrent : Bool) :
    FilesSafe guarantee (fun _ after => after = files) (readForArchive archiveCurrent) files := by
  unfold readForArchive
  split
  · refine filesSafe_bind (filesSafe_read reflexive _ _) ?_
    rintro current _ rfl
    split
    · exact filesSafe_pure rfl
    · exact filesSafe_pure rfl
  · exact filesSafe_pure rfl

/-- What persisting a state leaves behind. -/
def Persisted (files : Files) (bytes : List UInt8) (result : Except String Unit)
    (after : Files) : Prop :=
  after = { files with current := some bytes } ∨ after = files ∧ Except.isOk result = false

theorem persistStateInternal_safe {state : CrashJournalState}
    (reflexive : ∀ after, guarantee after after)
    (writes :
      encodeCrashJournal state ≠ [] →
        guarantee files { files with current := some (encodeCrashJournal state) })
    (archiveCurrent : Bool) :
    FilesSafe guarantee (Persisted files (encodeCrashJournal state))
      (persistStateInternal state archiveCurrent) files := by
  unfold persistStateInternal
  dsimp only
  split
  · exact filesSafe_pure (Or.inr ⟨rfl, rfl⟩)
  next encoded =>
    refine filesSafe_bind (readForArchive_safe (reflexive files) archiveCurrent) ?_
    rintro currentBytes _ rfl
    refine filesSafe_bind
      (filesSafe_writeThenReplace (fun content before => { before with current := content }) rfl
        files_move_current reflexive (writes encoded)) ?_
    rintro replaced after kept
    split
    · refine filesSafe_pure ?_
      rcases kept with put | ⟨same, _⟩
      · exact Or.inl put
      · exact Or.inr ⟨same, rfl⟩
    rcases kept with rfl | ⟨_, failed⟩
    · split
      · exact filesSafe_pure (Or.inl rfl)
      · refine filesSafe_bind (archiveCurrentBestEffort_safe (reflexive _) _) ?_
        rintro _ _ rfl
        exact filesSafe_pure (Or.inl rfl)
    · cases failed

/-- What writing a marker leaves behind. -/
def Marked (files : Files) (bytes : List UInt8) (succeeded : Bool) (after : Files) : Prop :=
  after = { files with safeMode := some bytes } ∨ after = files ∧ succeeded = false

theorem writeSafeMode_safe {marker : SafeModeMarker} (reflexive : ∀ after, guarantee after after)
    (marks :
      encodeSafeModeMarker marker ≠ [] →
        guarantee files { files with safeMode := some (encodeSafeModeMarker marker) }) :
    FilesSafe guarantee
      (fun result => Marked files (encodeSafeModeMarker marker) (Except.isOk result))
      (writeSafeMode marker) files := by
  unfold writeSafeMode
  dsimp only
  split
  · exact filesSafe_pure (Or.inr ⟨rfl, rfl⟩)
  next encoded =>
    refine filesSafe_bind
      (filesSafe_writeThenReplace (fun content before => { before with safeMode := content }) rfl
        files_move_safeMode reflexive (marks encoded)) ?_
    rintro replaced after kept
    split
    · refine filesSafe_pure ?_
      rcases kept with put | ⟨same, _⟩
      · exact Or.inl put
      · exact Or.inr ⟨same, rfl⟩
    · rcases kept with put | ⟨_, failed⟩
      · exact filesSafe_pure (Or.inl put)
      · cases failed

end Parts

variable {content : Option (List UInt8)} {maxBytes : Nat}

theorem readsAs_missing
    (answered : ReadsAs content maxBytes .missing) : content = none := by
  rcases answered with exact | ⟨_, impossible⟩
  · cases content with
    | none => rfl
    | some bytes =>
      unfold readContent at exact
      dsimp only at exact
      split at exact
      · cases exact
      · cases exact
  · cases impossible

variable {bytes : List UInt8}

theorem readsAs_success
    (answered : ReadsAs content maxBytes (.success bytes)) :
    content = some bytes := by
  rcases answered with exact | ⟨_, impossible⟩
  · cases content with
    | none => cases exact
    | some stored =>
      unfold readContent at exact
      dsimp only at exact
      split at exact
      · cases exact
      · rw [JournalReadResult.success.inj exact]
  · cases impossible

section Operations

variable {operation : StoreOperation} {files : Files}

theorem refuse_safe {α β : Type} {post : α → Files → Prop} {refusal : α}
    {marking : StorageProgram β}
    (marked : FilesSafe (StoreStep operation) (fun _ _ => True) marking files)
    (holds : ∀ after, post refusal after) :
    FilesSafe (StoreStep operation) post (marking >>= fun _ => pure refusal) files :=
  filesSafe_bind marked fun _ after _ => filesSafe_pure (holds after)

theorem writeSafeMode_step (marker : SafeModeMarker) :
    FilesSafe (StoreStep operation)
      (fun result => Marked files (encodeSafeModeMarker marker) (Except.isOk result))
      (writeSafeMode marker) files :=
  writeSafeMode_safe .same (.mark files marker)

theorem writeSafeModeForFailure_step {reason : SafeModeReason} {state : Option CrashJournalState}
    {diagnosticCode : UInt32} :
    FilesSafe (StoreStep operation) (fun _ _ => True)
      (writeSafeModeForFailure reason state diagnosticCode) files :=
  filesSafe_bind (writeSafeMode_step _) fun _ _ _ => filesSafe_pure trivial

variable {initial : CrashJournalState}

theorem canonicalInitial_valid
    (canonical : canonicalInitial initial = true) :
    ValidJournal initial := by
  unfold canonicalInitial at canonical
  simp only [Bool.and_eq_true, beq_iff_eq] at canonical
  exact validJournal canonical.1.1.1

theorem canonicalInitial_phase
    (canonical : canonicalInitial initial = true) :
    initial.phase = .preparing := by
  unfold canonicalInitial at canonical
  simp only [Bool.and_eq_true, beq_iff_eq] at canonical
  exact canonical.1.1.2

/-- A successful activation found no marker and a missing or clean journal,
and it leaves its own journal in the current slot. -/
def Activated (initial : CrashJournalState) (files : Files)
    (result : Except String Unit) (after : Files) : Prop :=
  Except.isOk result = true →
    Ready files ∧ canonicalInitial initial = true ∧
      after = { files with current := some (encodeCrashJournal initial) }

theorem persistInitial_safe
    (canonical : canonicalInitial initial = true) (ready : Ready files)
    (archiveCurrent : Bool) :
    FilesSafe (StoreStep (.beginActivation initial)) (Activated initial files)
      (persistInitial initial archiveCurrent) files := by
  refine filesSafe_bind
    (persistStateInternal_safe .same (fun _ =>
      .write files initial (canonicalInitial_valid canonical)
        (.activation initial files canonical ready)) archiveCurrent) ?_
  rintro persisted after kept
  split
  · exact refuse_safe writeSafeModeForFailure_step fun _ impossible => nomatch impossible
  · refine filesSafe_pure fun _ => ⟨ready, canonical, ?_⟩
    rcases kept with put | ⟨_, failed⟩
    · exact put
    · cases failed

theorem beginWithoutMarker_safe
    (canonical : canonicalInitial initial = true)
    (unmarked : files.safeMode = none) :
    FilesSafe (StoreStep (.beginActivation initial))
      (Activated initial files) (beginWithoutMarker initial) files := by
  refine filesSafe_bind (filesSafe_readCurrent (.same files) _) ?_
  rintro result _ ⟨rfl, answered⟩
  split
  · exact persistInitial_safe canonical ⟨unmarked, Or.inl (readsAs_missing answered)⟩ false
  next bytes =>
    have content := readsAs_success answered
    split
    · exact refuse_safe writeSafeModeForFailure_step fun _ impossible => nomatch impossible
    next prior decoded =>
      split
      · exact refuse_safe writeSafeModeForFailure_step fun _ impossible => nomatch impossible
      next clean =>
        simp only [not_or, Bool.not_eq_eq_eq_not, Bool.not_true, Bool.not_eq_false] at clean
        exact persistInitial_safe canonical
          ⟨unmarked, Or.inr ⟨prior, ⟨bytes, content, decoded⟩, clean.1⟩⟩ true
  · exact refuse_safe writeSafeModeForFailure_step fun _ impossible => nomatch impossible

theorem beginActivation_safe (initial : CrashJournalState) :
    FilesSafe (StoreStep (.beginActivation initial))
      (Activated initial files) (beginActivation initial) files := by
  unfold beginActivation
  split
  · exact filesSafe_pure fun impossible => nomatch impossible
  next canonical =>
    simp only [Bool.not_eq_eq_eq_not, Bool.not_true, Bool.not_eq_false] at canonical
    refine filesSafe_bind (filesSafe_readSafeMode (.same files) _) ?_
    rintro result _ ⟨rfl, answered⟩
    split
    · exact filesSafe_pure fun impossible => nomatch impossible
    · exact beginWithoutMarker_safe canonical (readsAs_missing answered)
    · exact filesSafe_pure fun impossible => nomatch impossible

theorem stateExtendsCurrent_appendsOne {current next : CrashJournalState}
    (extends_ : stateExtendsCurrent current next = .ok ())
    (changed : next ≠ current) : AppendsOne current next := by
  unfold stateExtendsCurrent at extends_
  obtain ⟨identity, extends_⟩ := not_taken extends_ nofun
  simp only [not_or, ne_eq, not_not] at identity
  obtain ⟨session, plan, generation, lease, snapshots⟩ := identity
  obtain ⟨long, extends_⟩ := not_taken extends_ nofun
  obtain ⟨short, extends_⟩ := not_taken extends_ nofun
  obtain ⟨kept, extends_⟩ := not_taken extends_ nofun
  obtain ⟨grown, extends_⟩ := not_taken extends_ nofun
  rw [not_not] at kept
  refine ⟨session.symm, plan.symm, generation.symm, lease.symm, snapshots.symm, ?_⟩
  have length :
      next.records.length = current.records.length + 1 := by
    have different :
        next.records.length ≠ current.records.length :=
      fun same => grown ⟨same, changed⟩
    omega
  have one : (next.records.drop current.records.length).length = 1 := by
    rw [List.length_drop, length]
    omega
  obtain ⟨record, single⟩ := List.length_eq_one_iff.mp one
  refine ⟨record, ?_⟩
  rw [← single, ← kept, List.length_take]
  have bounded : min current.records.length next.records.length = current.records.length := by
    omega
  rw [bounded, List.take_append_drop]

theorem persistNext_safe {current next : CrashJournalState}
    (valid : ValidJournal next) (held : Holds files.current current)
    (extends_ : stateExtendsCurrent current next = .ok ()) :
    FilesSafe (StoreStep (.persistTransition next)) (fun _ _ => True)
      (persistNext current next) files := by
  unfold persistNext
  split
  · exact filesSafe_pure trivial
  next changed =>
    have appends := stateExtendsCurrent_appendsOne extends_ changed
    refine filesSafe_bind
      (persistStateInternal_safe .same (fun _ =>
        .write files next valid (.transition current next files held appends)) true) ?_
    rintro persisted after _
    split
    · exact refuse_safe writeSafeModeForFailure_step fun _ => trivial
    · exact filesSafe_pure trivial

theorem persistTransition_safe (state : CrashJournalState) :
    FilesSafe (StoreStep (.persistTransition state)) (fun _ _ => True)
      (persistTransition state) files := by
  unfold persistTransition
  split
  · exact filesSafe_pure trivial
  next valid =>
    refine filesSafe_bind (filesSafe_readCurrent (.same files) _) ?_
    rintro result _ ⟨rfl, answered⟩
    split
    next bytes =>
      split
      · exact refuse_safe writeSafeModeForFailure_step fun _ => trivial
      next current decoded =>
        split
        · exact refuse_safe writeSafeModeForFailure_step fun _ => trivial
        next extends_ =>
          exact persistNext_safe (validJournal valid)
            ⟨bytes, readsAs_success answered, decoded⟩ extends_
    · exact refuse_safe writeSafeModeForFailure_step fun _ => trivial

/-- An assessment says clean only if the store is ready for an
activation. -/
def Assessed (files : Files) (assessment : StartupAssessment) (_ : Files) : Prop :=
  assessment.state = .clean → Ready files

theorem assessWithMarker_safe {assessment : StartupAssessment} (marker : SafeModeMarker)
    (unclean : assessment.state ≠ .clean) (assessed : Files) :
    FilesSafe (StoreStep operation) (Assessed assessed)
      (assessWithMarker assessment marker) files := by
  refine filesSafe_bind (writeSafeMode_step marker) ?_
  intro written _ _
  split
  · exact filesSafe_pure fun clean => absurd clean unclean
  · exact filesSafe_pure fun clean => absurd clean unclean

theorem assessJournal_safe (unmarked : files.safeMode = none)
    (content : files.current = some bytes) :
    FilesSafe (StoreStep operation) (Assessed files) (assessJournal bytes) files := by
  unfold assessJournal
  split
  · refine assessWithMarker_safe _ ?_ files
    intro impossible
    cases impossible
  next state decoded =>
    split
    next clean =>
      exact filesSafe_pure fun _ => ⟨unmarked, Or.inr ⟨state, ⟨bytes, content, decoded⟩, clean⟩⟩
    · refine assessWithMarker_safe _ ?_ files
      dsimp only
      split
      · intro impossible
        cases impossible
      · intro impossible
        cases impossible

theorem assessStartupAndEnterSafeMode_safe :
    FilesSafe (StoreStep operation) (Assessed files) assessStartupAndEnterSafeMode files := by
  refine filesSafe_bind (filesSafe_readSafeMode (.same files) _) ?_
  rintro result _ ⟨rfl, answered⟩
  split
  · have unmarked := readsAs_missing answered
    refine filesSafe_bind (filesSafe_readCurrent (.same _) _) ?_
    rintro current _ ⟨rfl, read⟩
    split
    · exact filesSafe_pure fun _ => ⟨unmarked, Or.inl (readsAs_missing read)⟩
    · exact assessJournal_safe unmarked (readsAs_success read)
    · refine filesSafe_bind writeSafeModeForFailure_step ?_
      rintro written _ _
      exact filesSafe_pure fun impossible => nomatch impossible
  · split
    · exact filesSafe_pure fun impossible => nomatch impossible
    · exact filesSafe_pure fun impossible => nomatch impossible
  · exact filesSafe_pure fun impossible => nomatch impossible

theorem replaceWithVerifiedCleanState_safe (cleanState : CrashJournalState) (resetVerified : Bool) :
    FilesSafe (StoreStep (.replaceWithVerifiedCleanState cleanState resetVerified))
      (fun _ _ => True)
      (replaceWithVerifiedCleanState cleanState resetVerified) files := by
  unfold replaceWithVerifiedCleanState
  split
  · exact filesSafe_pure trivial
  next accepted =>
    simp only [not_or, ne_eq, not_not, Bool.not_eq_eq_eq_not,
      Bool.not_true, Bool.not_eq_false] at accepted
    obtain ⟨rfl, valid, clean⟩ := accepted
    exact filesSafe_post
      (persistStateInternal_safe .same (fun _ =>
        .write files cleanState (validJournal valid) (.reset cleanState files clean)) true)
      fun _ _ _ => trivial

variable {subject : String} {result : JournalReadResult}

theorem loadedFile_some {α : Type}
    {decode : List UInt8 → Except String α}
    {value : α}
    (loaded : loadedFile subject decode result = .ok (some value)) :
    ∃ bytes, result = .success bytes ∧ decode bytes = .ok value := by
  cases result with
  | success bytes =>
    refine ⟨bytes, rfl, ?_⟩
    cases decoded : decode bytes with
    | error text =>
      rw [loadedFile, decoded] at loaded
      cases loaded
    | ok read =>
      rw [loadedFile, decoded] at loaded
      rw [Option.some.inj (Except.ok.inj loaded)]
  | missing | tooLarge | failed systemError => cases loaded

theorem loadedFile_none {α : Type}
    {decode : List UInt8 → Except String α}
    (loaded : loadedFile subject decode result = .ok none) :
    result = .missing := by
  cases result with
  | success bytes =>
    cases decoded : decode bytes with
    | error text | ok read =>
      rw [loadedFile, decoded] at loaded
      cases loaded
  | missing => rfl
  | tooLarge | failed systemError => cases loaded

variable {journal : CrashJournalState}

theorem journalOfRead_holds
    (answered : ReadsAs content maxBytes result)
    (loaded : journalOfRead result = .ok (some journal)) :
    Holds content journal := by
  obtain ⟨bytes, rfl, decoded⟩ := loadedFile_some loaded
  exact ⟨bytes, readsAs_success answered, decoded⟩

theorem decodeCrashJournal_fits
    (decoded : decodeCrashJournal bytes = .ok journal) :
    bytes.length ≤ kCrashJournalMaxFileBytes := by
  unfold decodeCrashJournal at decoded
  split at decoded
  · cases decoded
  next fits => exact Nat.not_lt.mp fits

variable {marker : SafeModeMarker}

theorem decodeSafeModeMarker_fits
    (decoded : decodeSafeModeMarker bytes = .ok marker) :
    bytes.length ≤ kSafeModeMarkerFileBytes := by
  unfold decodeSafeModeMarker at decoded
  split at decoded
  · cases decoded
  next exact => exact Nat.le_of_eq (not_not.mp exact)

theorem readContent_success (fits : bytes.length ≤ maxBytes) :
    readContent (some bytes) maxBytes = .success bytes := by
  rw [readContent, if_neg (Nat.not_lt.mpr fits)]

theorem journalOfRead_held
    (held : Holds content journal) :
    journalOfRead (readContent content kCrashJournalMaxFileBytes) = .ok (some journal) := by
  obtain ⟨bytes, rfl, decoded⟩ := held
  rw [readContent_success (decodeCrashJournal_fits decoded), journalOfRead, loadedFile, decoded]
  rfl

theorem markerOfRead_held
    (held : HoldsMarker content marker) :
    markerOfRead (readContent content kSafeModeMarkerFileBytes) = .ok (some marker) := by
  obtain ⟨bytes, rfl, decoded⟩ := held
  rw [readContent_success (decodeSafeModeMarker_fits decoded), markerOfRead, loadedFile, decoded]
  rfl

theorem markerOfRead_holds
    (answered : ReadsAs content maxBytes result)
    (loaded : markerOfRead result = .ok (some marker)) :
    HoldsMarker content marker := by
  obtain ⟨bytes, rfl, decoded⟩ := loadedFile_some loaded
  exact ⟨bytes, readsAs_success answered, decoded⟩

theorem loadedFile_missing {α : Type} {decode : List UInt8 → Except String α}
    (answered : ReadsAs content maxBytes result)
    (loaded : loadedFile subject decode result = .ok none) :
    content = none := by
  rw [loadedFile_none loaded] at answered
  exact readsAs_missing answered

theorem loadCurrent_safe :
    FilesSafe (StoreStep operation)
      (fun loaded after =>
        after = files ∧ ∀ journal, loaded = .ok (some journal) → Holds files.current journal)
      loadCurrent files := by
  refine filesSafe_bind (filesSafe_readCurrent (.same files) _) ?_
  rintro result _ ⟨rfl, answered⟩
  exact filesSafe_pure ⟨rfl, fun journal loaded => journalOfRead_holds answered loaded⟩

theorem clearSafeModeAfterVerifiedReset_safe
    (session : SessionId) (generation : UInt64) (resetVerified : Bool) :
    FilesSafe (StoreStep (.clearSafeModeAfterVerifiedReset session generation resetVerified))
      (fun _ _ => True)
      (clearSafeModeAfterVerifiedReset session generation resetVerified)
      files := by
  unfold clearSafeModeAfterVerifiedReset
  split
  · exact filesSafe_pure trivial
  next verified =>
    simp only [not_or, Bool.not_eq_eq_eq_not, Bool.not_true, Bool.not_eq_false] at verified
    obtain ⟨rfl, _⟩ := verified
    refine filesSafe_bind (filesSafe_read (.same files) _ _) ?_
    rintro result _ rfl
    split
    · split
      · exact filesSafe_pure trivial
      split
      · exact filesSafe_pure trivial
      refine filesSafe_bind loadCurrent_safe ?_
      rintro loaded _ ⟨rfl, holds⟩
      split
      · exact filesSafe_pure trivial
      next matches_ =>
        simp only [Bool.not_eq_eq_eq_not, Bool.not_true, Bool.not_eq_false] at matches_
        unfold journalMatchesReset at matches_
        split at matches_
        next journal =>
          simp only [Bool.and_eq_true, beq_iff_eq] at matches_
          refine filesSafe_bind
            (filesSafe_removeSafeMode (.same _)
              (.unmark _ session generation journal rfl
                (holds journal rfl) matches_.1.1 matches_.1.2
                matches_.2)) ?_
          rintro removed _ _
          split
          · exact filesSafe_pure trivial
          · exact filesSafe_pure trivial
        · cases matches_
    · exact filesSafe_pure trivial

end Operations

end CrashJournalStore

end HydraSeat.Recovery
