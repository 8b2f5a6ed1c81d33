import HydraSeat.Recovery.ProcessAttachment

/-!
# The table of active attachments

What each call of the authority can do, and the invariant of the table of
active attachments over every run.
-/

namespace HydraSeat.Recovery

open Foundation
open Watchdog Bool List RecoveryAttachmentResult

theorem compareAgainstCurrent_cases (current : Registration)
    (identity : RecoveryProcessAttachmentIdentity)
    (lease : WatchdogLease) :
    (identity = current.identity ∧ lease = current.manifest.lease) ∨
      (compareAgainstCurrent current identity lease).succeeded = false := by
  by_cases same : identity = current.identity
  · by_cases held : lease = current.manifest.lease
    · exact Or.inl ⟨same, held⟩
    · apply Or.inr
      rw [same]
      simp [compareAgainstCurrent, held, succeeded]
  · apply Or.inr
    unfold compareAgainstCurrent
    rw [if_pos same]
    repeat' split
    all_goals rfl

theorem compareAgainstCurrent_ok_iff (current : Registration)
    (identity : RecoveryProcessAttachmentIdentity)
    (lease : WatchdogLease) :
    (compareAgainstCurrent current identity lease).code = .ok ↔
      identity = current.identity ∧ lease = current.manifest.lease := by
  constructor
  · intro code
    rcases compareAgainstCurrent_cases current identity lease with
      same | refused
    · exact same
    · simp [succeeded, code] at refused
  · rintro ⟨rfl, rfl⟩
    simp [compareAgainstCurrent]

theorem compareAgainstCurrent_succeeded_iff (current : Registration)
    (identity : RecoveryProcessAttachmentIdentity)
    (lease : WatchdogLease) :
    (compareAgainstCurrent current identity lease).succeeded = true ↔
      identity = current.identity ∧ lease = current.manifest.lease := by
  constructor
  · intro succeeded
    rcases compareAgainstCurrent_cases current identity lease with
      same | refused
    · exact same
    · rw [refused] at succeeded
      cases succeeded
  · intro same
    have code := (compareAgainstCurrent_ok_iff current identity lease).mpr same
    simp [succeeded, code]

/-- Two attachments that may be armed side by side on different Seats. -/
structure Apart (left right : Registration) : Prop where
  process : left.identity.process ≠ right.identity.process
  pid : left.identity.process.processId ≠ right.identity.process.processId
  lease : sameWatchdogLeaseIdentity left.manifest.lease right.manifest.lease = false

theorem sameWatchdogLeaseIdentity_comm (left right : WatchdogLease) :
    sameWatchdogLeaseIdentity left right = sameWatchdogLeaseIdentity right left := by
  unfold sameWatchdogLeaseIdentity
  have sessions : (left.sessionId == right.sessionId) = (right.sessionId == left.sessionId) :=
    BEq.comm
  have generations :
      (left.generation == right.generation) = (right.generation == left.generation) :=
    BEq.comm
  rw [sessions, generations]

theorem Apart.symm {left right : Registration} (apart : Apart left right) : Apart right left where
  process := apart.process.symm
  pid := apart.pid.symm
  lease := by
    rw [sameWatchdogLeaseIdentity_comm]
    exact apart.lease

theorem clashWithActive_eq_none_iff (registration : Registration) (active : List Registration) :
    clashWithActive registration active = none ↔
      ∀ current ∈ active, Apart current registration := by
  induction active with
  | nil => simp [clashWithActive]
  | cons current rest ih =>
    rw [forall_mem_cons, ← ih, clashWithActive]
    constructor
    · intro free
      obtain ⟨process, free⟩ := not_taken free nofun
      obtain ⟨pid, free⟩ := not_taken free nofun
      split at free
      · cases free
      next lease => exact ⟨⟨process, pid, eq_false_iff.mpr lease⟩, free⟩
    · rintro ⟨apart, free⟩
      rw [if_neg apart.process, if_neg apart.pid, if_neg (eq_false_iff.mp apart.lease)]
      exact free

theorem clashWithActive_refuses {registration : Registration} {active : List Registration}
    {clash : RecoveryAttachmentResult}
    (found : clashWithActive registration active = some clash) :
    clash.succeeded = false := by
  induction active with
  | nil => cases found
  | cons current rest ih =>
    rw [clashWithActive] at found
    split at found
    · rw [← Option.some.inj found]
      rfl
    split at found
    · rw [← Option.some.inj found]
      rfl
    · split at found
      · rw [← Option.some.inj found]
        rfl
      · exact ih found

/-- The registration is newer than the attachment last disarmed on its Seat,
as far as both belong to one host session. -/
def Advances (prior registration : Registration) : Prop :=
  prior ≠ registration ∧
    (prior.identity.hostSessionId = registration.identity.hostSessionId →
      prior.identity.sessionGeneration ≤ registration.identity.sessionGeneration ∧
        (registration.identity.sessionGeneration = prior.identity.sessionGeneration →
          prior.identity.seatGameGeneration ≤ registration.identity.seatGameGeneration ∧
            prior.identity.recoveryEpoch < registration.identity.recoveryEpoch))

theorem refusedByPrior_eq_none_iff (registration prior : Registration) :
    refusedByPrior registration prior = none ↔ Advances prior registration := by
  unfold refusedByPrior Advances
  by_cases exactReplay : prior = registration
  · rw [if_pos exactReplay]
    apply iff_of_false (Option.some_ne_none _)
    exact fun advances => advances.1 exactReplay
  rw [if_neg exactReplay]
  by_cases session : prior.identity.hostSessionId = registration.identity.hostSessionId
  · rw [if_pos session]
    by_cases stale : registration.identity.sessionGeneration < prior.identity.sessionGeneration
    · rw [if_pos stale]
      apply iff_of_false (Option.some_ne_none _)
      intro advances
      exact UInt64.not_lt.mpr (advances.2 session).1 stale
    rw [if_neg stale]
    have current := UInt64.not_lt.mp stale
    by_cases sameGeneration :
        registration.identity.sessionGeneration = prior.identity.sessionGeneration
    · rw [if_pos sameGeneration]
      by_cases staleGame :
          registration.identity.seatGameGeneration < prior.identity.seatGameGeneration
      · rw [if_pos staleGame]
        apply iff_of_false (Option.some_ne_none _)
        intro advances
        have game := ((advances.2 session).2 sameGeneration).1
        exact UInt64.not_lt.mpr game staleGame
      rw [if_neg staleGame]
      by_cases passed : registration.identity.recoveryEpoch ≤ prior.identity.recoveryEpoch
      · rw [if_pos passed]
        apply iff_of_false (Option.some_ne_none _)
        intro advances
        have epoch := ((advances.2 session).2 sameGeneration).2
        exact UInt64.not_lt.mpr passed epoch
      · rw [if_neg passed]
        apply iff_of_true rfl
        exact ⟨exactReplay, fun _ => ⟨current, fun _ =>
          ⟨UInt64.not_lt.mp staleGame, UInt64.not_le.mp passed⟩⟩⟩
    · rw [if_neg sameGeneration]
      apply iff_of_true rfl
      exact ⟨exactReplay, fun _ => ⟨current, fun same => absurd same sameGeneration⟩⟩
  · rw [if_neg session]
    apply iff_of_true rfl
    exact ⟨exactReplay, fun same => absurd same session⟩

theorem refusedByPrior_refuses {registration prior : Registration}
    {refusal : RecoveryAttachmentResult}
    (found : refusedByPrior registration prior = some refusal) :
    refusal.succeeded = false := by
  unfold refusedByPrior at found
  repeat' split at found
  all_goals cases found
  all_goals rfl

namespace RecoveryProcessAttachmentAuthority

variable {registration : Registration} {self : RecoveryProcessAttachmentAuthority}

/-- The checks of `registerAttachment` on a Seat that has no attachment. -/
structure Admissible (authority : RecoveryProcessAttachmentAuthority)
    (registration : Registration) : Prop where
  valid : validateRecoveryProcessAttachmentRegistration registration = .ok ()
  seatFree : authority.active.find? (onSeat registration.identity.seatId) = none
  apart : ∀ current ∈ authority.active, Apart current registration
  unremembered :
    ∀ completed ∈ authority.lastDisarmed,
      sameWatchdogLeaseIdentity completed.manifest.lease registration.manifest.lease = false
  advances :
    ∀ prior,
      authority.lastDisarmed.find? (onSeat registration.identity.seatId) = some prior →
        Advances prior registration
  room : authority.active.length < kMaximumRecoveryProcessAttachments

theorem identity_valid_of_registration_valid
    (valid : validateRecoveryProcessAttachmentRegistration registration = .ok ()) :
    validateRecoveryProcessAttachmentIdentity registration.identity = .ok () := by
  unfold validateRecoveryProcessAttachmentRegistration at valid
  cases identity : validateRecoveryProcessAttachmentIdentity registration.identity with
  | error text =>
    rw [identity] at valid
    cases valid
  | ok value => rfl

theorem registerAttachment_of_admissible (admissible : Admissible self registration) :
    (self.registerAttachment registration).1.code = .ok ∧
      (self.registerAttachment registration).2 = self.insert registration := by
  have identityValid := identity_valid_of_registration_valid admissible.valid
  have free : clashWithActive registration self.active = none :=
    (clashWithActive_eq_none_iff _ _).mpr admissible.apart
  have unremembered :
      (self.lastDisarmed.find? fun completed =>
        sameWatchdogLeaseIdentity completed.manifest.lease registration.manifest.lease) = none := by
    rw [find?_eq_none]
    intro completed member
    rw [admissible.unremembered completed member]
    exact false_ne_true
  have advances :
      (self.lastDisarmed.find?
        (onSeat registration.identity.seatId)).bind (refusedByPrior registration) = none := by
    cases found : self.lastDisarmed.find? (onSeat registration.identity.seatId) with
    | none => rfl
    | some prior => exact (refusedByPrior_eq_none_iff _ _).mpr (admissible.advances prior found)
  have room : ¬ self.active.length ≥ kMaximumRecoveryProcessAttachments :=
    Nat.not_le.mpr admissible.room
  unfold registerAttachment
  simp only [identityValid, admissible.valid, admissible.seatFree, free,
    unremembered, advances, if_neg room]
  exact ⟨trivial, trivial⟩

/-- A call of `registerAttachment` is refused, finds the same registration
active already, or adds an admissible one. -/
theorem registerAttachment_cases (self : RecoveryProcessAttachmentAuthority)
    (registration : Registration) :
    ((self.registerAttachment registration).1.succeeded = false ∧
        (self.registerAttachment registration).2 = self) ∨
      (registration ∈ self.active ∧
        (self.registerAttachment registration).1.code = .alreadySatisfied ∧
        (self.registerAttachment registration).2 = self) ∨
      Admissible self registration := by
  unfold registerAttachment
  split
  · exact Or.inl ⟨rfl, rfl⟩
  split
  · exact Or.inl ⟨rfl, rfl⟩
  next valid =>
    split
    next activeSeat found =>
      split
      next same =>
        refine Or.inr (Or.inl ⟨?_, rfl, rfl⟩)
        rw [← same]
        exact mem_of_find?_eq_some found
      · dsimp only
        split
        · exact Or.inl ⟨rfl, rfl⟩
        next different =>
          refine Or.inl ⟨?_, rfl⟩
          rw [eq_false_iff]
          intro succeeded
          exact different ((compareAgainstCurrent_ok_iff _ _ _).mpr
            ((compareAgainstCurrent_succeeded_iff _ _ _).mp succeeded))
    next seatFree =>
      split
      next clash found => exact Or.inl ⟨clashWithActive_refuses found, rfl⟩
      next free =>
        split
        · exact Or.inl ⟨rfl, rfl⟩
        next unremembered =>
          split
          next refusal found =>
            obtain ⟨prior, _, refused⟩ := Option.bind_eq_some_iff.mp found
            exact Or.inl ⟨refusedByPrior_refuses refused, rfl⟩
          next advances =>
            split
            · exact Or.inl ⟨rfl, rfl⟩
            next room =>
              refine Or.inr (Or.inr
                ⟨valid, seatFree, (clashWithActive_eq_none_iff _ _).mp free,
                  ?_, ?_, Nat.not_le.mp room⟩)
              · intro completed member
                rw [eq_false_iff]
                exact find?_eq_none.mp unremembered completed member
              · intro prior found
                rw [found] at advances
                exact (refusedByPrior_eq_none_iff _ _).mp advances

/-- A call of `disarm` is refused, finds that the attachment was the last
one disarmed on its Seat, or removes exactly the attachment it names. -/
theorem disarm_cases (self : RecoveryProcessAttachmentAuthority)
    (identity : RecoveryProcessAttachmentIdentity)
    (lease : WatchdogLease) :
    ((self.disarm identity lease).1.succeeded = false ∧ (self.disarm identity lease).2 = self) ∨
      (self.active.find? (onSeat identity.seatId) = none ∧
        (∃ prior ∈ self.lastDisarmed, prior.identity = identity ∧ prior.manifest.lease = lease) ∧
        (self.disarm identity lease).1.code = .alreadySatisfied ∧
        (self.disarm identity lease).2 = self) ∨
      ∃ current,
        self.active.find? (onSeat identity.seatId) = some current ∧ current.identity = identity ∧
          current.manifest.lease = lease ∧
          (self.disarm identity lease).1.code = .ok ∧
          (self.disarm identity lease).2 =
            { active := self.active.eraseP (onSeat identity.seatId)
              lastDisarmed := remember current self.lastDisarmed } := by
  unfold disarm
  cases found : self.active.find? (onSeat identity.seatId) with
  | none =>
    dsimp only
    split
    next prior remembered =>
      have exactPrior := find?_some remembered
      simp only [and_eq_true, beq_iff_eq] at exactPrior
      exact Or.inr (Or.inl ⟨rfl, ⟨prior, mem_of_find?_eq_some remembered, exactPrior⟩, rfl, rfl⟩)
    · left
      refine ⟨?_, rfl⟩
      unfold verifyArmed
      rw [found]
      split
      · rfl
      · dsimp only
        split
        · rfl
        · rfl
  | some current =>
    dsimp only
    split
    next refused => exact Or.inl ⟨by simpa using refused, rfl⟩
    next matched =>
      simp only [not_eq_true', not_eq_false] at matched
      obtain ⟨identitySame, leaseSame⟩ := (compareAgainstCurrent_succeeded_iff _ _ _).mp matched
      exact Or.inr (Or.inr ⟨current, rfl, identitySame.symm, leaseSame.symm, rfl, rfl⟩)

def Distinct (left right : Registration) : Prop :=
  left.identity.seatId ≠ right.identity.seatId ∧ Apart left right

structure TableInvariant (authority : RecoveryProcessAttachmentAuthority) : Prop where
  bounded : authority.active.length ≤ kMaximumRecoveryProcessAttachments
  distinct : authority.active.Pairwise Distinct

theorem insert_active_perm (self : RecoveryProcessAttachmentAuthority)
    (registration : Registration) :
    (self.insert registration).active.Perm (registration :: self.active) :=
  (perm_insertionSort _ _).trans perm_append_comm

theorem mem_insert_active_iff (self : RecoveryProcessAttachmentAuthority)
    (registration tested : Registration) :
    tested ∈ (self.insert registration).active ↔ tested = registration ∨ tested ∈ self.active := by
  rw [(insert_active_perm self registration).mem_iff, mem_cons]

theorem Distinct.symm {left right : Registration} (distinct : Distinct left right) :
    Distinct right left :=
  ⟨distinct.1.symm, distinct.2.symm⟩

theorem insert_tableInvariant (invariant : TableInvariant self)
    (admissible : Admissible self registration) :
    TableInvariant (self.insert registration) where
  bounded := by
    rw [(insert_active_perm self registration).length_eq, length_cons]
    exact admissible.room
  distinct := by
    rw [(insert_active_perm self registration).pairwise_iff
      (fun distinct => distinct.symm), pairwise_cons]
    refine ⟨?_, invariant.distinct⟩
    intro current member
    constructor
    · intro same
      have occupied := find?_eq_none.mp admissible.seatFree current member
      exact occupied (by simp [onSeat, same])
    · exact (admissible.apart current member).symm

theorem disarm_tableInvariant (invariant : TableInvariant self) (seatId : UInt32)
    (lastDisarmed : List Registration) :
    TableInvariant
      { active := self.active.eraseP (onSeat seatId), lastDisarmed := lastDisarmed } where
  bounded := (eraseP_sublist.length_le).trans invariant.bounded
  distinct := invariant.distinct.sublist eraseP_sublist

theorem step_tableInvariant (self : RecoveryProcessAttachmentAuthority) (call : Call)
    (invariant : TableInvariant self) :
    TableInvariant (self.step call) := by
  cases call with
  | registerAttachment registration =>
    change TableInvariant (self.registerAttachment registration).2
    rcases self.registerAttachment_cases registration with
      ⟨_, same⟩ | ⟨_, _, same⟩ | admissible
    · rw [same]
      exact invariant
    · rw [same]
      exact invariant
    · rw [(registerAttachment_of_admissible admissible).2]
      exact insert_tableInvariant invariant admissible
  | disarm identity lease =>
    change TableInvariant (self.disarm identity lease).2
    rcases self.disarm_cases identity lease with
      ⟨_, same⟩ | ⟨_, _, _, same⟩ | ⟨current, _, _, _, _, removed⟩
    · rw [same]
      exact invariant
    · rw [same]
      exact invariant
    · rw [removed]
      exact disarm_tableInvariant invariant identity.seatId _

theorem reachable_tableInvariant (calls : List Call) : TableInvariant (runFrom step {} calls) :=
  runFrom_preserves step_tableInvariant calls ⟨Nat.zero_le _, List.Pairwise.nil⟩

theorem refused_unchanged (self : RecoveryProcessAttachmentAuthority) (call : Call)
    (refused : (self.perform call).1.succeeded = false) :
    self.step call = self := by
  cases call with
  | registerAttachment registration =>
    change (self.registerAttachment registration).2 = self
    rcases self.registerAttachment_cases registration with
      ⟨_, same⟩ | ⟨_, _, same⟩ | admissible
    · exact same
    · exact same
    · have accepted := (registerAttachment_of_admissible admissible).1
      simp [perform, succeeded, accepted] at refused
  | disarm identity lease =>
    change (self.disarm identity lease).2 = self
    rcases self.disarm_cases identity lease with
      ⟨_, same⟩ | ⟨_, _, _, same⟩ | ⟨current, _, _, _, code, _⟩
    · exact same
    · exact same
    · simp [perform, succeeded, code] at refused

/-- What a successful `disarm` did: it removed the active attachment with
this identity and lease, or found it as the last one disarmed on a Seat
without an active attachment and changed nothing. -/
def DisarmsExactly (self : RecoveryProcessAttachmentAuthority)
    (identity : RecoveryProcessAttachmentIdentity)
    (lease : WatchdogLease) : Prop :=
  ((self.disarm identity lease).1.code = .ok ∧
      ∃ current,
        self.active.find? (onSeat identity.seatId) = some current ∧ current.identity = identity ∧
          current.manifest.lease = lease ∧
          (self.disarm identity lease).2.active = self.active.erase current) ∨
    ((self.disarm identity lease).1.code = .alreadySatisfied ∧
      (∀ current ∈ self.active, current.identity.seatId ≠ identity.seatId) ∧
      (∃ prior ∈ self.lastDisarmed, prior.identity = identity ∧ prior.manifest.lease = lease) ∧
      (self.disarm identity lease).2 = self)

theorem eraseP_onSeat_eq_erase {active : List Registration} {seatId : UInt32}
    {current : Registration}
    (found : active.find? (onSeat seatId) = some current) :
    active.eraseP (onSeat seatId) = active.erase current := by
  induction active with
  | nil => cases found
  | cons first rest ih =>
    rw [find?_cons] at found
    cases tested : onSeat seatId first with
    | true =>
      rw [tested] at found
      rw [Option.some.inj found, eraseP_cons_of_pos
        (Option.some.inj found ▸ tested), erase_cons_head]
    | false =>
      rw [tested] at found
      have different : first ≠ current := by
        rintro rfl
        rw [find?_some found] at tested
        cases tested
      rw [eraseP_cons_of_neg (by simp [tested]), erase_cons_tail (by simpa using different),
        ih found]

theorem disarm_succeeded (self : RecoveryProcessAttachmentAuthority)
    (identity : RecoveryProcessAttachmentIdentity)
    (lease : WatchdogLease)
    (succeeded : (self.disarm identity lease).1.succeeded = true) :
    self.DisarmsExactly identity lease := by
  rcases self.disarm_cases identity lease with
    ⟨refused, _⟩ | ⟨free, remembered, code, same⟩ |
      ⟨current, found, identitySame, leaseSame, code, removed⟩
  · rw [refused] at succeeded
    cases succeeded
  · refine Or.inr ⟨code, ?_, remembered, same⟩
    intro current member sameSeat
    exact find?_eq_none.mp free current member (by simp [onSeat, sameSeat])
  · refine Or.inl ⟨code, current, found, identitySame, leaseSame, ?_⟩
    rw [removed]
    exact eraseP_onSeat_eq_erase found

/-- The whole contract of the table, after any sequence of calls. -/
theorem attachment_table_law (calls : List Call) :
    (runFrom step {} calls).TableInvariant ∧
      (∀ call,
        ((runFrom step {} calls).perform call).1.succeeded = false →
          (runFrom step {} calls).step call = runFrom step {} calls) ∧
      ∀ identity lease,
        ((runFrom step {} calls).disarm identity lease).1.succeeded = true →
          (runFrom step {} calls).DisarmsExactly identity lease :=
  ⟨reachable_tableInvariant calls, refused_unchanged _, disarm_succeeded _⟩

section RepeatedDisarm

/-- A registration of Seat one whose manifest terminates one process. -/
def seatOneAttachment (session : UInt8) (epoch : UInt64) (processId : UInt32) : Registration :=
  let process : ProcessIdentity := ⟨processId, 7⟩
  let sessionId : SessionId := Vector.replicate 16 session
  { identity :=
      { seatId := 1, hostSessionId := sessionId, sessionGeneration := 1, seatGameGeneration := 1
        process := process, recoveryEpoch := epoch }
    manifest :=
      { lease := ⟨sessionId, epoch, 1000⟩, rollbackTimeoutMilliseconds := 1000
        actions :=
          [{ actionId := 1
             activationOrdinal := 1
             timeoutMilliseconds := 100
             generation := epoch
             process := process }] } }

def disarmCall (registration : Registration) : Call :=
  .disarm registration.identity registration.manifest.lease

theorem repeated_disarm_succeeds :
    ¬ ∀ (calls : List Call) (identity : RecoveryProcessAttachmentIdentity) (lease : WatchdogLease),
      ((runFrom step {} calls).disarm identity lease).1.succeeded = true →
        ∃ current ∈ (runFrom step {} calls).active,
          current.identity = identity ∧ current.manifest.lease = lease ∧
            ((runFrom step {} calls).disarm identity lease).2.active =
              (runFrom step {} calls).active.erase current := by
  intro always
  obtain ⟨current, member, _⟩ := always
    [.registerAttachment (seatOneAttachment 1 1 10), disarmCall (seatOneAttachment 1 1 10)]
    (seatOneAttachment 1 1 10).identity
    (seatOneAttachment 1 1 10).manifest.lease
    (by decide)
  have empty :
      (runFrom step {}
        [.registerAttachment (seatOneAttachment 1 1 10),
          disarmCall (seatOneAttachment 1 1 10)]).active = [] := by
    decide
  rw [empty] at member
  cases member

end RepeatedDisarm

end RecoveryProcessAttachmentAuthority

end HydraSeat.Recovery
