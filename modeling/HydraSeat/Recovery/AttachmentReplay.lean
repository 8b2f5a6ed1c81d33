import HydraSeat.Recovery.AttachmentTable

/-!
# Replays of completed attachments

The authority remembers one disarmed attachment for each Seat.  A ledger
adds the full history of completed attachments to it.  A completed attachment
cannot come back while it is remembered; once a later disarm on its Seat has
displaced it, nothing but the newer entry stands in its way.
-/

namespace HydraSeat.Recovery

open Foundation
open Watchdog List RecoveryAttachmentResult

/-- `registration` carries the lease identity or the full attachment
identity of `completed`. -/
def Replays (registration completed : Registration) : Prop :=
  sameWatchdogLeaseIdentity completed.manifest.lease registration.manifest.lease = true ∨
    registration.identity = completed.identity

namespace RecoveryProcessAttachmentAuthority

variable {entries : List Registration} {self : RecoveryProcessAttachmentAuthority} {ledger : Ledger}

/-- The authority with every attachment it has ever disarmed. -/
structure Ledger where
  authority : RecoveryProcessAttachmentAuthority := {}
  completed : List Registration := []

/-- The attachment that a call disarms. -/
def disarmed? (self : RecoveryProcessAttachmentAuthority) : Call → Option Registration
  | .registerAttachment _ => none
  | .disarm identity lease =>
    let result := (self.disarm identity lease).1
    if result.code = .ok then result.current else none

def ledgerStep (ledger : Ledger) (call : Call) : Ledger where
  authority := ledger.authority.step call
  completed := (ledger.authority.disarmed? call).toList ++ ledger.completed

/-- A registration that the call gets accepted replays no completed
attachment. -/
def AcceptsNoReplay (ledger : Ledger) (call : Call) : Prop :=
  ∀ registration, call = .registerAttachment registration →
    (ledger.authority.registerAttachment registration).1.succeeded = true →
      ∀ completed ∈ ledger.completed, ¬ Replays registration completed

/-- The call registers a replay of a completed attachment that is no longer
remembered, and the other checks of `registerAttachment` let it pass. -/
def ReplaysForgotten (ledger : Ledger) (call : Call) : Prop :=
  ∃ registration completed,
    call = .registerAttachment registration ∧ completed ∈ ledger.completed ∧
      Replays registration completed ∧
      completed ∉ ledger.authority.lastDisarmed ∧
      Admissible ledger.authority registration

/-- One remembered attachment a Seat, and no active attachment replays a
completed one. -/
structure LedgerInvariant (ledger : Ledger) : Prop where
  table : TableInvariant ledger.authority
  oneEach :
    ledger.authority.lastDisarmed.Pairwise fun left right =>
      left.identity.seatId ≠ right.identity.seatId
  fresh :
    ∀ current ∈ ledger.authority.active, ∀ completed ∈ ledger.completed, ¬ Replays current completed

theorem find?_onSeat_of_mem {entry : Registration}
    (oneEach : entries.Pairwise fun left right => left.identity.seatId ≠ right.identity.seatId)
    (member : entry ∈ entries) :
    entries.find? (onSeat entry.identity.seatId) = some entry := by
  induction entries with
  | nil => cases member
  | cons first rest ih =>
    obtain ⟨apart, restEach⟩ := pairwise_cons.mp oneEach
    rcases mem_cons.mp member with rfl | later
    · exact find?_cons_of_pos (by simp [onSeat])
    · have elsewhere : onSeat entry.identity.seatId first = false := by
        simpa [onSeat] using apart entry later
      rw [find?_cons_of_neg (by simp [elsewhere])]
      exact ih restEach later

/-- While a completed attachment is remembered, no admissible registration
replays it. -/
theorem not_replays_remembered {registration completed : Registration}
    (oneEach :
      self.lastDisarmed.Pairwise fun left right => left.identity.seatId ≠ right.identity.seatId)
    (admissible : Admissible self registration)
    (remembered : completed ∈ self.lastDisarmed) :
    ¬ Replays registration completed := by
  rintro (sameLease | sameIdentity)
  · rw [admissible.unremembered completed remembered] at sameLease
    cases sameLease
  have found := find?_onSeat_of_mem oneEach remembered
  rw [← sameIdentity] at found
  have advances := (admissible.advances completed found).2
  rw [sameIdentity] at advances
  have epochAdvances := ((advances rfl).2 rfl).2
  exact absurd epochAdvances (UInt64.lt_irrefl _)

theorem mem_remember {completed tested : Registration}
    (member : tested ∈ remember completed entries) :
    tested = completed ∨ tested ∈ entries := by
  induction entries with
  | nil =>
    rw [remember, mem_singleton] at member
    exact Or.inl member
  | cons first rest ih =>
    rw [remember] at member
    split at member
    · rcases mem_cons.mp member with same | later
      · exact Or.inl same
      · exact Or.inr (mem_cons_of_mem first later)
    rcases mem_cons.mp member with same | later
    · exact Or.inr (same ▸ mem_cons_self)
    · rcases ih later with same | earlier
      · exact Or.inl same
      · exact Or.inr (mem_cons_of_mem first earlier)

theorem remember_oneEach (completed : Registration)
    (oneEach : entries.Pairwise fun left right => left.identity.seatId ≠ right.identity.seatId) :
    (remember completed entries).Pairwise fun left right =>
      left.identity.seatId ≠ right.identity.seatId := by
  induction entries with
  | nil => exact pairwise_singleton _ _
  | cons first rest ih =>
    obtain ⟨apart, restEach⟩ := pairwise_cons.mp oneEach
    rw [remember]
    split
    next same =>
      rw [pairwise_cons]
      exact ⟨fun other member => same ▸ apart other member, restEach⟩
    next different =>
      rw [pairwise_cons]
      refine ⟨?_, ih restEach⟩
      intro other member
      rcases mem_remember member with rfl | earlier
      · exact different
      · exact apart other earlier

theorem not_replays_removed {seatId : UInt32} {removed current : Registration}
    (table : TableInvariant self)
    (found : self.active.find? (onSeat seatId) = some removed)
    (member : current ∈ self.active.eraseP (onSeat seatId)) :
    ¬ Replays current removed := by
  have shape : self.active.Perm (removed :: self.active.eraseP (onSeat seatId)) := by
    rw [eraseP_onSeat_eq_erase found]
    exact perm_cons_erase (mem_of_find?_eq_some found)
  have distinct := (shape.pairwise_iff (fun distinct => distinct.symm)).mp table.distinct
  have different := (pairwise_cons.mp distinct).1 current member
  rintro (sameLease | sameIdentity)
  · rw [different.2.lease] at sameLease
    cases sameLease
  · exact different.1 (congrArg (·.seatId) sameIdentity).symm

theorem acceptsNoReplay_iff (ledger : Ledger) (call : Call) (invariant : LedgerInvariant ledger) :
    AcceptsNoReplay ledger call ↔ ¬ ReplaysForgotten ledger call := by
  constructor
  · rintro accepts ⟨registration, completed, rfl, past, replays, _, admissible⟩
    have accepted := (registerAttachment_of_admissible admissible).1
    exact accepts registration rfl (by simp [succeeded, accepted]) completed past replays
  rintro safe registration rfl succeeded completed past replays
  rcases ledger.authority.registerAttachment_cases registration with
    ⟨refused, _⟩ | ⟨active, _, _⟩ | admissible
  · rw [refused] at succeeded
    cases succeeded
  · exact invariant.fresh registration active completed past replays
  · by_cases remembered : completed ∈ ledger.authority.lastDisarmed
    · exact not_replays_remembered invariant.oneEach admissible remembered replays
    · exact safe ⟨registration, completed, rfl, past, replays, remembered, admissible⟩

theorem ledgerStep_unchanged (ledger : Ledger) (call : Call)
    (same : ledger.authority.step call = ledger.authority)
    (nothing : ledger.authority.disarmed? call = none) :
    ledgerStep ledger call = ledger := by
  simp [ledgerStep, same, nothing]

theorem registered_invariant (registration : Registration) (invariant : LedgerInvariant ledger)
    (accepts : AcceptsNoReplay ledger (.registerAttachment registration))
    (admissible : Admissible ledger.authority registration) :
    LedgerInvariant (ledgerStep ledger (.registerAttachment registration)) := by
  obtain ⟨accepted, inserted⟩ := registerAttachment_of_admissible admissible
  have table := step_tableInvariant ledger.authority
    (.registerAttachment registration) invariant.table
  refine ⟨table, ?_, ?_⟩
  · change (registerAttachment _ _).2.lastDisarmed.Pairwise _
    rw [inserted]
    exact invariant.oneEach
  change ∀ current ∈ (registerAttachment _ _).2.active, _
  rw [inserted]
  intro current member
  rcases (mem_insert_active_iff _ _ _).mp member with rfl | earlier
  · exact accepts current rfl (by simp [succeeded, accepted])
  · exact invariant.fresh current earlier

theorem disarmed_invariant {identity : RecoveryProcessAttachmentIdentity}
    {lease : WatchdogLease} {removed : Registration}
    (invariant : LedgerInvariant ledger)
    (found : ledger.authority.active.find? (onSeat identity.seatId) = some removed)
    (recorded : ledger.authority.disarmed? (.disarm identity lease) = some removed)
    (removal :
      (ledger.authority.disarm identity lease).2 =
        { active := ledger.authority.active.eraseP (onSeat identity.seatId)
          lastDisarmed := remember removed ledger.authority.lastDisarmed }) :
    LedgerInvariant (ledgerStep ledger (.disarm identity lease)) := by
  have table := step_tableInvariant ledger.authority (.disarm identity lease) invariant.table
  refine ⟨table, ?_, ?_⟩
  · change (disarm _ _ _).2.lastDisarmed.Pairwise _
    rw [removal]
    exact remember_oneEach removed invariant.oneEach
  change ∀ current ∈ (disarm _ _ _).2.active,
    ∀ completed ∈ (disarmed? ledger.authority _).toList ++ ledger.completed, _
  rw [removal, recorded]
  intro current member completed past
  rcases mem_cons.mp past with rfl | earlier
  · exact not_replays_removed invariant.table found member
  · exact invariant.fresh current (mem_of_mem_eraseP member) completed earlier

theorem ledgerStep_invariant (ledger : Ledger) (call : Call) (invariant : LedgerInvariant ledger)
    (accepts : AcceptsNoReplay ledger call) :
    LedgerInvariant (ledgerStep ledger call) := by
  cases call with
  | registerAttachment registration =>
    rcases ledger.authority.registerAttachment_cases registration with
      ⟨_, same⟩ | ⟨_, _, same⟩ | admissible
    · rw [ledgerStep_unchanged ledger (.registerAttachment registration) same rfl]
      exact invariant
    · rw [ledgerStep_unchanged ledger (.registerAttachment registration) same rfl]
      exact invariant
    · exact registered_invariant registration invariant accepts admissible
  | disarm identity lease =>
    rcases ledger.authority.disarm_cases identity lease with
      ⟨refused, same⟩ | ⟨_, _, code, same⟩ |
        ⟨removed, found, identitySame, leaseSame, code, removal⟩
    · have different : (ledger.authority.disarm identity lease).1.code ≠ .ok := by
        intro accepted
        simp [succeeded, accepted] at refused
      rw [ledgerStep_unchanged ledger (.disarm identity lease) same
        (by simp [disarmed?, different])]
      exact invariant
    · rw [ledgerStep_unchanged ledger (.disarm identity lease) same (by simp [disarmed?, code])]
      exact invariant
    · have current : (ledger.authority.disarm identity lease).1.current = some removed := by
        simp [disarm, found, compareAgainstCurrent, identitySame, leaseSame, succeeded]
      apply disarmed_invariant invariant found _ removal
      simp [disarmed?, code, current]

theorem initial_ledgerInvariant : LedgerInvariant {} where
  table := ⟨Nat.zero_le _, List.Pairwise.nil⟩
  oneEach := List.Pairwise.nil
  fresh := by
    intro current member
    cases member

/-- A run accepts no replay exactly when none of its calls registers a
forgotten attachment again. -/
theorem no_replay_iff (calls : List Call) :
    Along ledgerStep AcceptsNoReplay {} calls ↔
      Along ledgerStep (fun ledger call => ¬ ReplaysForgotten ledger call) {} calls :=
  along_iff_along acceptsNoReplay_iff ledgerStep_invariant calls initial_ledgerInvariant

section Displacement

/-- The attachment of a second host session displaces the first one, which
is then registered again. -/
def displacedThenReplayed : List Call :=
  let first := seatOneAttachment 1 1 10
  let second := seatOneAttachment 2 1 20
  [.registerAttachment first, disarmCall first, .registerAttachment second, disarmCall second,
    .registerAttachment first]

theorem displaced_attachment_replayed :
    ¬ ∀ calls : List Call, Along ledgerStep AcceptsNoReplay {} calls := by
  intro always
  obtain ⟨_, _, _, _, last, _⟩ := always displacedThenReplayed
  have accepted := last (seatOneAttachment 1 1 10) rfl
    (by decide) (seatOneAttachment 1 1 10) (by decide)
  exact accepted (Or.inr rfl)

end Displacement

end RecoveryProcessAttachmentAuthority

end HydraSeat.Recovery
