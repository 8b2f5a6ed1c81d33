import HydraSeat.HidHide.GuardedSession
import HydraSeat.HidHide.SessionRuns

/-!
# Who touches the record files

A transaction leaves them alone.  Writing a record publishes its file or
changes nothing, and removing it takes the file away or changes nothing.
-/

namespace HydraSeat.HidHide

open Foundation
open Foundation.Command Bool List

/-- The record files are kept as `platformEnvironment` says; whatever else
the platform does, it leaves them alone. -/
def KeepsRecords (env : Environment sessionInterface World) : Prop :=
  ∀ before request answer after, env before request answer after →
    if request.ofTransaction then after.files = before.files
    else platformEnvironment before request answer after

theorem platform_keepsRecords : KeepsRecords platformEnvironment := by
  intro before request answer after happened
  split
  next ofTransaction =>
    cases request with
    | readState => rw [happened.1]
    | writeState snapshot =>
      obtain ⟨persistent, rfl⟩ := happened
      rfl
    | addSessionBlacklist | clearSessionBlacklist | mutationSupported
    | sessionBlacklistSupported | currentUnixSeconds | sha256File => rw [happened]
    | _ => cases ofTransaction
  · exact happened

section Transactions

abbrev TransactionOnly {α : Type} (program : SessionProgram α) : Prop :=
  Only (fun request : SessionCall => request.ofTransaction = true) program

theorem ChecksOnly.transaction {α : Type} {program : SessionProgram α}
    (only : ChecksOnly program) : TransactionOnly program := by
  refine only_mono only fun request checks => ?_
  cases request with
  | currentUnixSeconds | sha256File => rfl
  | _ => cases checks

variable (transaction : HidHideSessionTransaction) (plan : HidHideSessionPlan)

theorem prepare_only (request : HidHideSessionRequest) (nowMilliseconds : UInt64) :
    TransactionOnly (transaction.prepare request nowMilliseconds) := by
  unfold HidHideSessionTransaction.prepare
  apply only_refused
  apply only_refused
  refine only_bind (validateRequest_only request).transaction fun validated => ?_
  cases validated with
  | error text => exact only_pure
  | ok =>
    dsimp only
    apply only_refused
    refine only_bind (only_ask rfl) fun read => ?_
    apply only_refused
    apply only_refused
    split
    · exact only_pure
    · exact only_pure

theorem verifyRestored_only (expired sessionCleared : Bool) (sessionClearError : ByteString) :
    TransactionOnly (transaction.verifyRestored plan expired sessionCleared sessionClearError) := by
  refine only_bind (only_ask rfl) fun restored => ?_
  apply only_refused
  split
  · exact only_pure
  · exact only_pure

theorem restoreState_only (expired sessionCleared : Bool) (sessionClearError : ByteString) :
    TransactionOnly (transaction.restoreState plan expired sessionCleared sessionClearError) := by
  refine only_bind (only_ask rfl) fun read => ?_
  apply only_refused
  dsimp only
  split
  · split
    · exact only_pure
    · exact only_pure
  apply only_refused
  refine only_bind (only_ask rfl) fun written => ?_
  split
  · exact only_pure
  · exact verifyRestored_only _ _ _ _ _

theorem rollbackInternal_only (expired : Bool) :
    TransactionOnly (transaction.rollbackInternal expired) := by
  unfold HidHideSessionTransaction.rollbackInternal
  split
  · exact only_pure
  apply only_refused
  apply only_refused
  apply only_refused
  unfold HidHideSessionTransaction.cleanUp
  dsimp only
  split
  · refine only_bind (only_ask rfl) fun cleared => ?_
    exact restoreState_only _ _ _ _ _
  · exact restoreState_only _ _ _ _ _

theorem abandon_only (code : HidHideSessionResultCode) (diagnostic : ByteString) :
    TransactionOnly (transaction.abandon code diagnostic) := by
  refine only_bind (rollbackInternal_only _ _) fun outcome => ?_
  dsimp only
  split
  · exact only_pure
  · exact only_pure

theorem apply_only : TransactionOnly (transaction.apply plan) := by
  refine only_bind (only_ask rfl) fun written => ?_
  split
  · exact abandon_only _ _ _
  refine only_bind (only_ask rfl) fun observed => ?_
  split
  · exact abandon_only _ _ _
  split
  · exact abandon_only _ _ _
  refine only_bind (only_ask rfl) fun added => ?_
  split
  · exact abandon_only _ _ _
  · exact only_pure

theorem activate_only (nowMilliseconds : UInt64) :
    TransactionOnly (transaction.activate nowMilliseconds) := by
  unfold HidHideSessionTransaction.activate
  apply only_refused
  apply only_refused
  split
  · exact only_pure
  apply only_refused
  apply only_refused
  split
  · exact only_pure
  next evidence _ =>
    refine only_bind (authorizeEvidence_only evidence _).transaction fun authorized => ?_
    cases authorized with
    | error text => exact only_pure
    | ok =>
      dsimp only
      unfold HidHideSessionTransaction.activateApproved
      apply only_refused
      refine only_bind (only_ask rfl) fun mutation => ?_
      apply only_refused
      refine only_bind (only_ask rfl) fun blacklist => ?_
      split
      · exact only_pure
      · exact apply_only _ _

theorem perform_only (operation : SessionOperation) :
    TransactionOnly (transaction.perform operation) := by
  cases operation with
  | prepare request nowMilliseconds => exact prepare_only _ _ _
  | activate nowMilliseconds => exact activate_only _ _
  | expireIfNeeded nowMilliseconds =>
    change TransactionOnly (transaction.expireIfNeeded nowMilliseconds)
    unfold HidHideSessionTransaction.expireIfNeeded
    split
    · exact only_pure
    apply only_refused
    split
    · exact only_pure
    · exact rollbackInternal_only _ _
  | rollback => exact rollbackInternal_only _ _
  | destroy =>
    change TransactionOnly transaction.destroy
    unfold HidHideSessionTransaction.destroy
    split
    · exact rollbackInternal_only _ _
    · exact only_pure

end Transactions

section Records

variable {env : Environment sessionInterface World} (resourceId : UInt64)

theorem TransactionOnly.files
    {α : Type} {program : SessionProgram α} (only : TransactionOnly program)
    (records : KeepsRecords env) (world : World) :
    Meets env program world
      fun entries _ after =>
        after.files = world.files ∧
          ∀ entry ∈ entries,
            entry.before.files = world.files ∧ entry.request.ofTransaction = true := by
  refine meets_keeps only ?_ rfl
  intro before request answer after kept ofTransaction happened
  have law := records _ _ _ _ happened
  rw [if_pos ofTransaction] at law
  exact law.trans kept

def publishes : SessionEntry → Bool
  | ⟨_, .replaceFile replaced, answer⟩ => replaced == resourceId && (answer : Reply).succeeded
  | _ => false

theorem publishes_replaceFile (before : World) (answer : Reply) :
    publishes resourceId ⟨before, .replaceFile resourceId, answer⟩ = answer.succeeded := by
  change (resourceId == resourceId && answer.succeeded) = _
  rw [beq_self_eq_true, Bool.true_and]

def mutatedAfter (mutated : Bool) (entry : SessionEntry) : Bool :=
  !publishes resourceId entry && (mutated || entry.request.mutates)

def recordMutated (history : List SessionEntry) : Bool :=
  history.foldl (mutatedAfter resourceId) false

structure Wrote (record : HidHideSessionRecoveryRecord) (world : World)
    (entries : List SessionEntry) (value : Except ByteString Unit)
    (after : World) : Prop where
  quiet : Quiet entries
  keeps : ∀ entry ∈ entries, ∀ resourceId, entry.request ≠ .removeFile resourceId
  written :
    value = .ok () →
      (∃ entry ∈ entries, publishes record.resourceId entry = true) ∧
        (∀ mutated, entries.foldl (mutatedAfter record.resourceId) mutated = false) ∧
        encodeHidHideSessionRecoveryRecord record ≠ [] ∧
        after.files =
          Function.update world.files record.resourceId
            (some (encodeHidHideSessionRecoveryRecord record))
  refused :
    ∀ error, value = .error error →
      (∀ entry ∈ entries, publishes record.resourceId entry = false) ∧ after.files = world.files

/-- A call that neither mutates nor removes nor publishes, and reads no
state. -/
def harmless (entry : SessionEntry) : Prop :=
  entry.request.mutates = false ∧ (∀ removed, entry.request ≠ .removeFile removed) ∧
    publishes resourceId entry = false ∧ readSnapshot? entry = none

section Writing

variable {record : HidHideSessionRecoveryRecord} {world : World}

theorem Wrote.refuse (error : ByteString) : Wrote record world [] (.error error) world where
  quiet := .nil
  keeps := nofun
  written := nofun
  refused := fun _ _ => ⟨nofun, rfl⟩

theorem Wrote.cons {first : SessionEntry} {middle after : World}
    {entries : List SessionEntry} {value : Except ByteString Unit}
    (wrote : Wrote record middle entries value after)
    (quiet : harmless record.resourceId first)
    (kept : middle.files = world.files) :
    Wrote record world (first :: entries) value after where
  quiet := by
    intro entry member
    rcases mem_cons.mp member with rfl | later
    · exact quiet.1
    · exact wrote.quiet entry later
  keeps := by
    intro entry member
    rcases mem_cons.mp member with rfl | later
    · exact quiet.2.1
    · exact wrote.keeps entry later
  written := by
    intro succeeded
    obtain ⟨⟨entry, member, published⟩, fresh, encoded, files⟩ := wrote.written succeeded
    refine ⟨⟨entry, mem_cons_of_mem first member, published⟩, ?_, encoded, ?_⟩
    · intro mutated
      rw [foldl_cons]
      exact fresh _
    · rw [← kept]
      exact files
  refused := by
    intro error failed
    obtain ⟨silent, files⟩ := wrote.refused error failed
    refine ⟨?_, files.trans kept⟩
    intro entry member
    rcases mem_cons.mp member with rfl | later
    · exact quiet.2.2.1
    · exact silent entry later

theorem publishTemporary_meets (records : KeepsRecords env)
    (encoded : encodeHidHideSessionRecoveryRecord record ≠ [])
    (temporary :
      world.temporaries record.resourceId = some (encodeHidHideSessionRecoveryRecord record)) :
    Meets env (HidHideSessionSnapshotStore.publishTemporary record.resourceId) world
      (Wrote record world) := by
  refine meets_ask fun flushed middle happened => ?_
  have kept : middle = world := records _ _ _ _ happened
  subst kept
  have quiet : harmless record.resourceId ⟨middle, .flushTemporary record.resourceId, flushed⟩ :=
    ⟨rfl, nofun, rfl, rfl⟩
  split
  · exact meets_pure ((Wrote.refuse _).cons quiet rfl)
  refine meets_ask fun replaced after happened => ?_
  have published : after = if replaced.succeeded then _ else _ := records _ _ _ _ happened
  split
  next failed =>
    rw [not_eq_true'] at failed
    rw [failed, if_neg Bool.false_ne_true] at published
    subst published
    have silent : harmless record.resourceId ⟨after, .replaceFile record.resourceId, replaced⟩ :=
      ⟨rfl, nofun, (publishes_replaceFile _ _ _).trans failed, rfl⟩
    exact meets_pure (((Wrote.refuse _).cons silent rfl).cons quiet rfl)
  next succeeded =>
    rw [not_eq_true', not_eq_false] at succeeded
    rw [succeeded, if_pos rfl] at published
    have isPublished :
        publishes record.resourceId ⟨middle, .replaceFile record.resourceId, replaced⟩ = true :=
      (publishes_replaceFile _ _ _).trans succeeded
    have wrote :
        Wrote record middle [⟨middle, .replaceFile record.resourceId, replaced⟩] (.ok ())
          after := by
      refine ⟨?_, ?_, fun _ => ⟨⟨_, mem_singleton_self _, isPublished⟩, ?_, encoded, ?_⟩, nofun⟩
      · intro entry member
        rw [mem_singleton.mp member]
        rfl
      · intro entry member
        rw [mem_singleton.mp member]
        nofun
      · intro mutated
        rw [foldl_cons, foldl_nil, mutatedAfter, isPublished]
        rfl
      · rw [published, ← temporary]
        rfl
    exact meets_pure (wrote.cons quiet rfl)

theorem write_meets (records : KeepsRecords env)
    (record : HidHideSessionRecoveryRecord) (world : World) :
    Meets env (HidHideSessionSnapshotStore.write record) world (Wrote record world) := by
  unfold HidHideSessionSnapshotStore.write
  dsimp only
  split
  · exact meets_pure (.refuse _)
  next encoded =>
    rw [List.isEmpty_iff] at encoded
    refine meets_ask fun created middle happened => ?_
    have kept : middle = world := records _ _ _ _ happened
    subst kept
    have quiet : harmless record.resourceId ⟨middle, .createDirectories, created⟩ :=
      ⟨rfl, nofun, rfl, rfl⟩
    split
    · exact meets_pure ((Wrote.refuse _).cons quiet rfl)
    refine meets_ask fun outcome after happened => ?_
    obtain ⟨content, rfl, same⟩ :
        ∃ content, after = middle.setTemporary record.resourceId content ∧
          (outcome = .written → content = some (encodeHidHideSessionRecoveryRecord record)) :=
      records _ _ _ _ happened
    have silent :
        harmless record.resourceId
          ⟨middle, .writeTemporary record.resourceId
            (encodeHidHideSessionRecoveryRecord record), outcome⟩ :=
      ⟨rfl, nofun, rfl, rfl⟩
    cases outcome with
    | notOpened | failed => exact meets_pure (((Wrote.refuse _).cons silent rfl).cons quiet rfl)
    | written =>
      rw [same rfl]
      refine meets_mono (publishTemporary_meets records encoded ?_)
        fun entries value final wrote => (wrote.cons silent rfl).cons quiet rfl
      exact Function.update_self _ _ _

end Writing

structure Removed (resourceId : UInt64) (world : World) (entries : List SessionEntry)
    (value : Except ByteString Unit) (after : World) : Prop where
  quiet : Quiet entries
  silent : ∀ entry ∈ entries, publishes resourceId entry = false
  blind : ∀ entry ∈ entries, readSnapshot? entry = none
  /-- The file goes at once. -/
  first :
    ∀ earlier entry later, entries = earlier ++ entry :: later →
      ∀ removed, entry.request = .removeFile removed →
        earlier = [] ∧ removed = resourceId ∧ entry.before = world
  removed : value = .ok () → after.files = Function.update world.files resourceId none
  refused :
    ∀ error, value = .error error →
      after.files = world.files ∧
        (resourceId = 0 ∨
          ∃ before text, (⟨before, .removeFile resourceId, .failed text⟩ : SessionEntry) ∈ entries)

section Removing

variable {resourceId : UInt64} {world after : World}
  {rest : List SessionEntry} {value : Except ByteString Unit}

theorem Removed.ofRest (answer : RemoveReply) (quiet : ∀ entry ∈ rest, harmless resourceId entry)
    (removed : value = .ok () → after.files = Function.update world.files resourceId none)
    (refused :
      ∀ error, value = .error error → after.files = world.files ∧ ∃ text, answer = .failed text) :
    Removed resourceId world (⟨world, .removeFile resourceId, answer⟩ :: rest) value after where
  quiet := by
    intro entry member
    rcases mem_cons.mp member with rfl | later
    · rfl
    · exact (quiet entry later).1
  silent := by
    intro entry member
    rcases mem_cons.mp member with rfl | later
    · rfl
    · exact (quiet entry later).2.2.1
  blind := by
    intro entry member
    rcases mem_cons.mp member with rfl | later
    · rfl
    · exact (quiet entry later).2.2.2
  first := by
    intro earlier entry later split removed isRemoval
    cases earlier with
    | nil =>
      cases split
      cases isRemoval
      exact ⟨rfl, rfl, rfl⟩
    | cons head earlier =>
      rw [cons_append] at split
      have member : entry ∈ rest := by
        rw [(cons.inj split).2]
        exact mem_append_right _ mem_cons_self
      exact absurd isRemoval ((quiet entry member).2.1 removed)
  removed := removed
  refused := by
    intro error failed
    obtain ⟨kept, text, rfl⟩ := refused error failed
    exact ⟨kept, .inr ⟨world, text, mem_cons_self⟩⟩

theorem forgetTemporary_meets (records : KeepsRecords env) (world : World) :
    Meets env (HidHideSessionSnapshotStore.forgetTemporary resourceId) world
      fun entries value after =>
        (∀ entry ∈ entries, harmless resourceId entry) ∧
          value = .ok () ∧ after.files = world.files := by
  refine meets_ask fun answer after happened => ?_
  obtain ⟨content, rfl⟩ : ∃ content, after = world.setTemporary resourceId content :=
    records _ _ _ _ happened
  refine meets_pure ⟨?_, rfl, rfl⟩
  intro entry member
  rw [mem_singleton.mp member]
  exact ⟨rfl, nofun, rfl, rfl⟩

theorem remove_meets (records : KeepsRecords env) (resourceId : UInt64) (world : World) :
    Meets env (HidHideSessionSnapshotStore.remove resourceId) world (Removed resourceId world) := by
  have none {property : SessionEntry → Prop} : ∀ entry ∈ ([] : List SessionEntry), property entry :=
    fun entry member => nomatch member
  unfold HidHideSessionSnapshotStore.remove
  split
  next zero =>
    refine meets_pure ⟨.nil, none, none, ?_, nofun, fun _ _ => ⟨rfl, .inl zero⟩⟩
    intro earlier entry later split
    cases earlier with
    | nil | cons head earlier => cases split
  · refine meets_ask fun answer after happened => ?_
    have law := records _ _ _ _ happened
    cases answer with
    | failed error =>
      have kept : after = world := law
      subst kept
      exact meets_pure (.ofRest _ none nofun fun _ _ => ⟨rfl, error, rfl⟩)
    | removed existed =>
      obtain ⟨found, rfl⟩ :
          (world.files resourceId).isSome = existed ∧ after = world.setFile resourceId .none :=
        law
      cases existed with
      | true =>
        refine meets_mono (forgetTemporary_meets records _) fun entries value final forgot => ?_
        obtain ⟨quiet, rfl, kept⟩ := forgot
        exact .ofRest _ quiet (fun _ => kept) nofun
      | false =>
        refine meets_ask fun remains behind happened => ?_
        obtain ⟨rfl, absent⟩ :
            behind = world.setFile resourceId .none ∧
              (remains = true →
                ((world.setFile resourceId .none).files resourceId).isSome = true) :=
          records _ _ _ _ happened
        have gone : remains = false := by
          rw [← not_eq_true]
          intro there
          have found := absent there
          change (Function.update world.files resourceId .none resourceId).isSome = true at found
          rw [Function.update_self] at found
          cases found
        rw [if_neg (by rw [gone]; exact false_ne_true)]
        refine meets_mono (forgetTemporary_meets records _) fun entries value final forgot => ?_
        obtain ⟨quiet, rfl, kept⟩ := forgot
        refine .ofRest _ ?_ (fun _ => kept) nofun
        intro entry member
        rcases mem_cons.mp member with rfl | later
        · exact ⟨rfl, nofun, rfl, rfl⟩
        · exact quiet entry later

end Removing

end Records

end HydraSeat.HidHide
