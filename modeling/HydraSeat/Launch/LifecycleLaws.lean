import HydraSeat.Launch.SeatGameLifecycle

/-!
# Who holds an instance

A Seat holds an instance while it plays or waits for recovery, and lets go of
it behind a verified stop only.  A whole-machine return is asked for when no
Seat is busy.
-/

namespace HydraSeat.Launch

open Foundation
open Foundation.Command List SeatGameLifecycle

variable {State : Type}

abbrev LifecycleEntry (State : Type) := Entry lifecycleInterface State

def CleanedUp (game : SeatGameInstance) (calls : List (LifecycleEntry State)) : Prop :=
  ∃ earlier first second before middle error stopError verifyError later,
    calls = earlier ++ first :: second :: later ∧
      first = ⟨before, .stop game error, (true, stopError)⟩ ∧
      second = ⟨middle, .verifyStopped game stopError, (true, verifyError)⟩

def Made (game : SeatGameInstance) (calls : List (LifecycleEntry State)) : Prop :=
  ∃ before seatId binding generation error,
    (⟨before, .createForBinding seatId binding generation,
        .returned (some game) error⟩ : LifecycleEntry State) ∈ calls

/-- A Seat between two operations: it holds an instance exactly while it
plays or waits for recovery. -/
structure Resting (entry : SeatGameLifecycle.Entry) : Prop where
  held :
    entry.game.isSome = true ↔ entry.state.phase = .playing ∨ entry.state.phase = .recoveryRequired
  settled : entry.state.phase ≠ .starting ∧ entry.state.phase ≠ .stopping

/-- What holds between two operations. -/
structure Sound (lifecycle : SeatGameLifecycle) : Prop where
  resting : ∀ entry ∈ lifecycle.entries, Resting entry
  returned :
    lifecycle.wholeMachineReturnRequested = true →
      ∀ entry ∈ lifecycle.entries, entry.state.phase = .idle

def LifecycleOperation.seat? : LifecycleOperation → Option UInt32
  | .assign seatId _ _ => some seatId
  | .start seatId _ => some seatId
  | .stop seatId _ => some seatId
  | .observeTargetExit seatId _ _ _ _ => some seatId
  | .reconcile _ | .emergencyStopAll _ | .shutdown => none

def LifecycleCall.makes : LifecycleCall → Bool
  | .createForBinding _ _ _ => true
  | _ => false

def Unmade (calls : List (LifecycleEntry State)) : Prop :=
  ∀ call ∈ calls, call.request.makes = false

/-- What the calls of an operation do to the entry of one Seat. -/
structure EntryStep (calls : List (LifecycleEntry State))
    (was now : SeatGameLifecycle.Entry) : Prop where
  dropped : ∀ game, was.game = some game → now.game = some game ∨ CleanedUp game calls
  left :
    was.state.phase = .recoveryRequired →
      now.state.phase = .recoveryRequired ∨ ∃ game, was.game = some game ∧ CleanedUp game calls
  generation : Unmade calls → now.state.generation = was.state.generation

structure LifecycleLaw (before : SeatGameLifecycle) (operation : LifecycleOperation)
    (calls : List (LifecycleEntry State)) (after : SeatGameLifecycle) :
    Prop where
  sound : Sound after
  others :
    ∀ seatId, operation.seat? = some seatId →
      ∀ other, other ≠ seatId → after.find other = before.find other
  seats :
    ∀ seatId was, before.find seatId = some was →
      ∃ now, after.find seatId = some now ∧ EntryStep calls was now
  absent : ∀ seatId, before.find seatId = none → after.find seatId = none
  made :
    ∀ game, Made game calls → (∃ now ∈ after.entries, now.game = some game) ∨ CleanedUp game calls

/-! ## Calls -/

section Calls

variable {env : Environment lifecycleInterface State}
  {calls more : List (LifecycleEntry State)} {game : SeatGameInstance}

theorem CleanedUp.prepend (cleaned : CleanedUp game calls) (earlier : List (LifecycleEntry State)) :
    CleanedUp game (earlier ++ calls) := by
  obtain ⟨first, stopping, verifying, before, middle, error, stopError,
    verifyError, later, rfl, stops, verifies⟩ := cleaned
  exact ⟨earlier ++ first, stopping, verifying, before, middle, error,
    stopError, verifyError, later, (append_assoc _ _ _).symm, stops,
    verifies⟩

theorem CleanedUp.append (cleaned : CleanedUp game calls) (later : List (LifecycleEntry State)) :
    CleanedUp game (calls ++ later) := by
  obtain ⟨earlier, stopping, verifying, before, middle, error, stopError,
    verifyError, rest, rfl, stops, verifies⟩ := cleaned
  refine ⟨earlier, stopping, verifying, before, middle, error, stopError,
    verifyError, rest ++ later, ?_, stops, verifies⟩
  rw [append_assoc, cons_append, cons_append]

theorem Unmade.nil : Unmade ([] : List (LifecycleEntry State)) := by
  intro call member
  cases member

theorem Unmade.cons {first : LifecycleEntry State} (unmade : Unmade calls)
    (makesNot : first.request.makes = false) : Unmade (first :: calls) := by
  intro call member
  rcases mem_cons.mp member with rfl | later
  · exact makesNot
  · exact unmade call later

theorem Unmade.append (left : Unmade calls) (right : Unmade more) : Unmade (calls ++ more) := by
  intro call member
  rcases mem_append.mp member with first | second
  · exact left call first
  · exact right call second

theorem Unmade.not_made (unmade : Unmade calls) : ¬ Made game calls := by
  rintro ⟨before, seatId, binding, generation, error, member⟩
  cases unmade _ member

theorem Made.of_append (made : Made game (calls ++ more)) (unmade : Unmade calls) :
    Made game more := by
  obtain ⟨before, seatId, binding, generation, error, member⟩ := made
  rcases mem_append.mp member with first | second
  · cases unmade _ first
  · exact ⟨before, seatId, binding, generation, error, second⟩

theorem stopVerified_meets (game : SeatGameInstance) (error : ByteString) (state : State) :
    Meets env (stopVerified game error) state
      fun calls outcome _ => Unmade calls ∧ (outcome.1 = true → CleanedUp game calls) := by
  refine meets_ask fun stopped middle _ => ?_
  obtain ⟨stopped, stopError⟩ := (stopped : Bool × ByteString)
  cases stopped with
  | false => exact meets_pure ⟨Unmade.nil.cons rfl, nofun⟩
  | true =>
    refine meets_ask fun verified after _ => ?_
    obtain ⟨verified, verifyError⟩ := (verified : Bool × ByteString)
    refine meets_pure ⟨(Unmade.nil.cons rfl).cons rfl, ?_⟩
    rintro rfl
    exact ⟨[], _, _, state, middle, error, stopError, verifyError, [], rfl, rfl, rfl⟩

end Calls

/-! ## Entries -/

section Entries

variable {self : SeatGameLifecycle} {entry now : SeatGameLifecycle.Entry}
variable {seatId : UInt32} {other : SeatGameLifecycle.Entry}

theorem find_seatId (found : self.find seatId = some entry) : entry.state.seatId = seatId := by
  have same := find?_some found
  exact beq_iff_eq.mp same

theorem find_mem (found : self.find seatId = some entry) : entry ∈ self.entries :=
  mem_of_find?_eq_some found

theorem replace_find (self : SeatGameLifecycle) (now : SeatGameLifecycle.Entry) (seatId : UInt32) :
    (self.replace now).find seatId =
      (self.find seatId).map fun other =>
        if other.state.seatId = now.state.seatId then now else other := by
  unfold SeatGameLifecycle.find SeatGameLifecycle.replace
  rw [find?_map]
  congr 2
  funext other
  rw [Function.comp_apply]
  split
  next same => rw [same]
  · rfl

theorem mem_replace (member : other ∈ (self.replace now).entries) :
    other = now ∨ other ∈ self.entries := by
  obtain ⟨before, isMember, rfl⟩ := mem_map.mp member
  split
  · exact .inl rfl
  · exact .inr isMember

theorem now_mem_replace (member : entry ∈ self.entries)
    (same : now.state.seatId = entry.state.seatId) :
    now ∈ (self.replace now).entries := by
  refine mem_map.mpr ⟨entry, member, ?_⟩
  rw [if_pos same.symm]

theorem EntryStep.refl (calls : List (LifecycleEntry State))
    (entry : SeatGameLifecycle.Entry) : EntryStep calls entry entry where
  dropped _ holds := .inl holds
  left recovering := .inl recovering
  generation _ := rfl

theorem updateReturnPolicy_returned
    (returned : self.updateReturnPolicy.wholeMachineReturnRequested = true)
    (member : other ∈ self.entries) : other.state.phase = .idle :=
  beq_iff_eq.mp (all_eq_true.mp returned other member)

end Entries

/-! ## One Seat -/

/-- What the body of an operation on one Seat does. -/
inductive SeatOutcome (self : SeatGameLifecycle) (entry : SeatGameLifecycle.Entry)
    (calls : List (LifecycleEntry State)) (after : SeatGameLifecycle) : Prop
  | kept (entries : after.entries = self.entries)
      (returned :
        after.wholeMachineReturnRequested = true →
          ∀ other ∈ self.entries, other.state.phase = .idle)
      (unmade : Unmade calls) : SeatOutcome self entry calls after
  | reseated (now : SeatGameLifecycle.Entry) (entries : after.entries = (self.replace now).entries)
      (seatId : now.state.seatId = entry.state.seatId)
      (resting : Resting now)
      (returned :
        after.wholeMachineReturnRequested = true →
          ∀ other ∈ (self.replace now).entries, other.state.phase = .idle)
      (step : EntryStep calls entry now)
      (made : ∀ game, Made game calls → now.game = some game ∨ CleanedUp game calls) :
      SeatOutcome self entry calls after

section Seats

variable {env : Environment lifecycleInterface State}
  {self after : SeatGameLifecycle} {entry now : SeatGameLifecycle.Entry}
  {calls : List (LifecycleEntry State)} {operation : LifecycleOperation}
  {seatId : UInt32}

theorem LifecycleLaw.keep (sound : Sound self) (entries : after.entries = self.entries)
    (returned :
      after.wholeMachineReturnRequested = true → ∀ other ∈ self.entries, other.state.phase = .idle)
    (unmade : Unmade calls) :
    LifecycleLaw self operation calls after := by
  have sameFind (seatId : UInt32) : after.find seatId = self.find seatId := by
    unfold SeatGameLifecycle.find
    rw [entries]
  refine ⟨⟨?_, ?_⟩, fun _ _ other _ => sameFind other, ?_, fun seatId => (sameFind seatId).trans,
    fun game made => absurd made unmade.not_made⟩
  · rw [entries]
    exact sound.resting
  · rw [entries]
    exact returned
  · intro seatId was found
    refine ⟨was, ?_, .refl calls was⟩
    rw [sameFind]
    exact found

theorem SeatOutcome.law (outcome : SeatOutcome self entry calls after) (sound : Sound self)
    (found : self.find seatId = some entry)
    (addressed : operation.seat? = some seatId) :
    LifecycleLaw self operation calls after := by
  cases outcome with
  | kept entries returned unmade => exact .keep sound entries returned unmade
  | reseated now entries sameSeat resting returned step made =>
    have isSeat := find_seatId found
    have findAfter (other : UInt32) : after.find other = (self.replace now).find other := by
      unfold SeatGameLifecycle.find
      rw [entries]
    have others (other : UInt32) (different : other ≠ seatId) :
        after.find other = self.find other := by
      rw [findAfter, replace_find]
      cases search : self.find other with
      | none => rfl
      | some found => rw [Option.map_some, find_seatId search, sameSeat, isSeat, if_neg different]
    constructor
    case sound =>
      refine ⟨?_, ?_⟩
      · rw [entries]
        intro other member
        rcases mem_replace member with rfl | before
        · exact resting
        · exact sound.resting other before
      · rw [entries]
        exact returned
    case others =>
      intro addressee isAddressee other different
      rw [addressed] at isAddressee
      cases isAddressee
      exact others other different
    case seats =>
      intro other was foundWas
      by_cases same : other = seatId
      · subst same
        rw [found] at foundWas
        cases foundWas
        refine ⟨now, ?_, step⟩
        rw [findAfter, replace_find, found, Option.map_some, if_pos sameSeat.symm]
      · refine ⟨was, ?_, .refl calls was⟩
        rw [others other same]
        exact foundWas
    case absent =>
      intro other nothing
      by_cases same : other = seatId
      · subst same
        rw [found] at nothing
        cases nothing
      · rw [others other same]
        exact nothing
    case made =>
      intro game isMade
      refine (made game isMade).imp_left fun holds => ⟨now, ?_, holds⟩
      rw [entries]
      exact now_mem_replace (find_mem found) sameSeat

/-! ### Where a Seat may go -/

theorem SeatOutcome.settle (seatId : now.state.seatId = entry.state.seatId) (resting : Resting now)
    (step : EntryStep calls entry now)
    (made : ∀ game, Made game calls → now.game = some game ∨ CleanedUp game calls)
    (code : SeatGameResultCode) :
    SeatOutcome self entry calls (self.settle now code).2 :=
  .reseated now rfl seatId resting
    (fun returned _ member => updateReturnPolicy_returned returned member)
    step made

/-- A Seat without an instance goes from one phase to another. -/
theorem EntryStep.moved (free : now.game = entry.game)
    (notRecovering : entry.state.phase ≠ .recoveryRequired)
    (sameGeneration : now.state.generation = entry.state.generation) :
    EntryStep calls entry now where
  dropped _ holds := .inl (free.trans holds)
  left recovering := absurd recovering notRecovering
  generation _ := sameGeneration

theorem Resting.free (resting : Resting entry)
    (calm : entry.state.phase ≠ .playing ∧ entry.state.phase ≠ .recoveryRequired) :
    entry.game = none := by
  rw [← Option.not_isSome_iff_eq_none, resting.held, not_or]
  exact calm

theorem Resting.ofFree (free : entry.game = none)
    (calm :
      entry.state.phase = .idle ∨ entry.state.phase = .planning ∨
        entry.state.phase = .degraded) : Resting entry := by
  refine ⟨iff_of_false ?_ ?_, ?_⟩
  · rw [free]
    exact Bool.false_ne_true
  · rcases calm with phase | phase | phase
    · rw [phase]
      nofun
    · rw [phase]
      nofun
    · rw [phase]
      nofun
  · rcases calm with phase | phase | phase
    · rw [phase]
      exact ⟨nofun, nofun⟩
    · rw [phase]
      exact ⟨nofun, nofun⟩
    · rw [phase]
      exact ⟨nofun, nofun⟩

theorem Resting.ofHeld (holds : entry.game.isSome = true)
    (busy :
      entry.state.phase = .playing ∨ entry.state.phase = .recoveryRequired) : Resting entry := by
  refine ⟨iff_of_true holds busy, ?_⟩
  rcases busy with phase | phase
  · rw [phase]
    exact ⟨nofun, nofun⟩
  · rw [phase]
    exact ⟨nofun, nofun⟩

theorem released_outcome (resting : Resting entry) {phase : SeatGamePhase}
    (calm : phase = .idle ∨ phase = .degraded)
    (cleaned : ∀ game, entry.game = some game → CleanedUp game calls)
    (unmade : Unmade calls) (diagnostic : ByteString)
    (code : SeatGameResultCode) :
    SeatOutcome self entry calls
      (self.settle (SeatGameLifecycle.released entry phase diagnostic) code).2 := by
  refine .settle (by rfl) ?_ ⟨?_, ?_, ?_⟩ (fun game made => absurd made unmade.not_made) code
  · exact .ofFree rfl (calm.imp_right .inr)
  · intro game holds
    exact .inr (cleaned game holds)
  · intro recovering
    obtain ⟨game, holds⟩ := Option.isSome_iff_exists.mp (resting.held.mpr (.inr recovering))
    exact .inr ⟨game, holds, cleaned game holds⟩
  · intro _
    rfl

theorem stranded_outcome (sound : Sound self) (found : self.find seatId = some entry)
    {game : SeatGameInstance} (holds : entry.game = some game)
    (unmade : Unmade calls) (diagnostic : ByteString)
    (code : SeatGameResultCode) (text : ByteString) :
    SeatOutcome self entry calls
      ((self.replace (SeatGameLifecycle.stranded entry diagnostic)).finish code text).2 := by
  have resting := sound.resting entry (find_mem found)
  refine .reseated _ rfl rfl ?_ ?_
    ⟨fun _ => .inl, fun _ => .inl rfl, fun _ => rfl⟩ fun game made => absurd made unmade.not_made
  · exact .ofHeld (Option.isSome_of_eq_some holds) (.inr rfl)
  intro returned
  have idle := sound.returned returned entry (find_mem found)
  have free : entry.game = none := by
    refine resting.free ?_
    rw [idle]
    exact ⟨nofun, nofun⟩
  rw [free] at holds
  cases holds

theorem reject_outcome (sound : Sound self) (unmade : Unmade calls)
    (code : SeatGameResultCode) (diagnostic : ByteString) :
    SeatOutcome self entry calls (self.finish code diagnostic).2 :=
  .kept rfl sound.returned unmade

end Seats

/-! ## The operations on one Seat -/

section Operations

variable {env : Environment lifecycleInterface State}
  {self : SeatGameLifecycle} {entry : SeatGameLifecycle.Entry}
  {seatId : UInt32}
variable {game : SeatGameInstance} {calls earlier : List (LifecycleEntry State)}
  {after : SeatGameLifecycle}

/-- The law of a body. -/
abbrev BodyMeets (env : Environment lifecycleInterface State)
    (self : SeatGameLifecycle) (entry : SeatGameLifecycle.Entry)
    (program : LifecycleProgram LifecycleOutcome) (state : State) : Prop :=
  Meets env program state fun calls outcome _ => SeatOutcome self entry calls outcome.2

theorem cleanUp_outcome (sound : Sound self) (found : self.find seatId = some entry)
    (holds : entry.game = some game)
    {phase : SeatGamePhase} (calm : phase = .idle ∨ phase = .degraded)
    (strandedText : String) (releasedText : ByteString)
    (releasedCode : SeatGameResultCode) (state : State) :
    BodyMeets env self entry (self.cleanUp entry game strandedText phase releasedText releasedCode)
      state := by
  refine meets_bind (stopVerified_meets game [] state) ?_
  rintro calls ⟨stopped, error⟩ between ⟨unmade, cleaned⟩
  cases stopped with
  | false =>
    refine meets_pure ?_
    rw [append_nil]
    exact stranded_outcome sound found holds unmade _ _ _
  | true =>
    refine meets_pure ?_
    rw [append_nil]
    refine released_outcome (sound.resting entry (find_mem found)) calm ?_ unmade _ _
    intro other otherHolds
    rw [holds] at otherHolds
    cases otherHolds
    exact cleaned rfl

theorem assign_outcome (sound : Sound self) (found : self.find seatId = some entry)
    (binding : SeatGameBinding) (state : State) :
    BodyMeets env self entry (self.assignBody entry binding) state := by
  unfold SeatGameLifecycle.assignBody
  split
  · exact meets_pure (reject_outcome sound .nil _ _)
  next idle =>
    rw [not_not] at idle
    split
    · exact meets_pure (reject_outcome sound .nil _ _)
    refine meets_pure (.reseated _ rfl rfl ?_ nofun (.moved rfl ?_ rfl)
      fun game made => absurd made Unmade.nil.not_made)
    · refine .ofFree ?_ (.inr (.inl rfl))
      refine (sound.resting entry (find_mem found)).free ?_
      rw [idle]
      exact ⟨nofun, nofun⟩
    · rw [idle]
      nofun

theorem Made.answered {before : State} {binding : SeatGameBinding} {generation : UInt64}
    {answer : Attempt (Option SeatGameInstance)}
    (made :
      Made game
        ((⟨before, .createForBinding seatId binding generation, answer⟩ :
          LifecycleEntry State) :: calls))
    (unmade : Unmade calls) :
    ∃ error, answer = .returned (some game) error := by
  obtain ⟨earlier, seat, given, expected, error, member⟩ := made
  rcases mem_cons.mp member with same | later
  · cases same
    exact ⟨error, rfl⟩
  · cases unmade _ later

/-- A start behind the creation of its instance. -/
structure Created (lifecycle : SeatGameLifecycle) (entry : SeatGameLifecycle.Entry)
    (game : SeatGameInstance) (calls : List (LifecycleEntry State))
    (after : SeatGameLifecycle) (now : SeatGameLifecycle.Entry) : Prop where
  entries : after.entries = (lifecycle.replace now).entries
  seatId : now.state.seatId = entry.state.seatId
  resting : Resting now
  returned :
    after.wholeMachineReturnRequested = true →
      ∀ other ∈ (lifecycle.replace now).entries, other.state.phase = .idle
  unmade : Unmade calls
  kept : now.game = some game ∨ CleanedUp game calls

theorem Created.prepend {now : SeatGameLifecycle.Entry}
    (created : Created self entry game calls after now)
    (unmade : Unmade earlier) :
    Created self entry game (earlier ++ calls) after now where
  entries := created.entries
  seatId := created.seatId
  resting := created.resting
  returned := created.returned
  unmade := unmade.append created.unmade
  kept := created.kept.imp_right fun cleaned => cleaned.prepend earlier

theorem abandon_meets (game : SeatGameInstance) (error : ByteString) (state : State) :
    Meets env (self.abandon entry game error) state
      fun calls outcome _ => ∃ now, Created self entry game calls outcome.2 now := by
  refine meets_bind (stopVerified_meets game [] state) ?_
  rintro calls ⟨cleaned, cleanupError⟩ between ⟨unmade, cleansUp⟩
  refine meets_pure ⟨_, rfl, rfl, ?_,
    fun returned _ member => updateReturnPolicy_returned returned member,
    ?_, ?_⟩
  · cases cleaned with
    | true => exact .ofFree rfl (.inl rfl)
    | false => exact .ofHeld rfl (.inr rfl)
  · rw [append_nil]
    exact unmade
  · rw [append_nil]
    cases cleaned with
    | true => exact .inr (cleansUp rfl)
    | false => exact .inl rfl

theorem startCreated_meets (binding : SeatGameBinding) (game : SeatGameInstance)
    (error : ByteString) (state : State) :
    Meets env (self.startCreated entry binding game error) state
      fun calls outcome _ => ∃ now, Created self entry game calls outcome.2 now := by
  have abandoned (first : LifecycleEntry State)
      (makesNot : first.request.makes = false) (error : ByteString)
      (middle : State) :
      Meets env (self.abandon entry game error) middle
        fun calls outcome _ => ∃ now, Created self entry game (first :: calls) outcome.2 now :=
    meets_mono (abandon_meets game error middle)
      fun calls outcome after created =>
        created.imp fun now created => created.prepend (Unmade.nil.cons makesNot)
  refine meets_ask fun attempt middle _ => ?_
  cases attempt with
  | threw what | threwUnknown => exact abandoned _ rfl _ middle
  | returned started error =>
    cases started with
    | false => exact abandoned _ rfl _ middle
    | true =>
      refine meets_ask fun running between _ => ?_
      split
      · refine meets_pure ⟨_, rfl, rfl, ?_, nofun, ?_, .inl rfl⟩
        · exact .ofHeld rfl (.inl rfl)
        · exact (Unmade.nil.cons rfl).cons rfl
      · refine meets_mono (abandon_meets game error between) fun calls outcome after created => ?_
        exact created.imp fun now created => created.prepend ((Unmade.nil.cons rfl).cons rfl)

theorem startPlanned_outcome (sound : Sound self) (found : self.find seatId = some entry)
    (planning : entry.state.phase = .planning) (binding : SeatGameBinding)
    (state : State) :
    BodyMeets env self entry (self.startPlanned entry binding) state := by
  have free : entry.game = none := by
    refine (sound.resting entry (find_mem found)).free ?_
    rw [planning]
    exact ⟨nofun, nofun⟩
  have stepOf {calls : List (LifecycleEntry State)} (now : SeatGameLifecycle.Entry)
      (makes : ¬ Unmade calls) : EntryStep calls entry now := by
    refine ⟨?_, ?_, fun unmade => absurd unmade makes⟩
    · intro game holds
      rw [free] at holds
      cases holds
    · intro recovering
      rw [planning] at recovering
      cases recovering
  have makes {answer : Attempt (Option SeatGameInstance)} {rest : List (LifecycleEntry State)} :
      ¬ Unmade
        ((⟨state, .createForBinding entry.state.seatId binding
          (entry.state.generation + 1), answer⟩ : LifecycleEntry State) :: rest) := by
    intro unmade
    cases unmade _ mem_cons_self
  have failed {answer : Attempt (Option SeatGameInstance)}
      (nothing : ∀ game error, answer ≠ .returned (some game) error)
      (error : ByteString) :
      SeatOutcome self entry
        [(⟨state, .createForBinding entry.state.seatId binding
          (entry.state.generation + 1), answer⟩ : LifecycleEntry State)]
        (self.creationFailed entry error).2 := by
    refine .settle (by rfl) ?_ (stepOf _ makes) ?_ _
    · exact .ofFree free (.inl rfl)
    · intro game made
      obtain ⟨text, isMade⟩ := made.answered .nil
      exact absurd isMade (nothing game text)
  refine meets_ask fun answer middle _ => ?_
  cases answer with
  | threw what | threwUnknown => exact meets_pure (failed (by nofun) _)
  | returned value error =>
    cases value with
    | none => exact meets_pure (failed (by nofun) _)
    | some game =>
      refine meets_mono (startCreated_meets binding game error middle)
        fun calls outcome after created => ?_
      obtain ⟨now, created⟩ := created
      refine .reseated now created.entries created.seatId created.resting
        created.returned (stepOf now makes) ?_
      intro other made
      obtain ⟨text, isMade⟩ := made.answered created.unmade
      cases isMade
      exact created.kept.imp_right fun cleaned => cleaned.prepend [_]

theorem SeatOutcome.prepend (outcome : SeatOutcome self entry calls after)
    (unmade : Unmade earlier) :
    SeatOutcome self entry (earlier ++ calls) after := by
  cases outcome with
  | kept entries returned rest => exact .kept entries returned (unmade.append rest)
  | reseated now entries seatId resting returned step made =>
    refine .reseated now entries seatId resting returned ⟨?_, ?_, ?_⟩ ?_
    · intro game holds
      exact (step.dropped game holds).imp_right fun cleaned => cleaned.prepend earlier
    · intro recovering
      refine (step.left recovering).imp_right ?_
      rintro ⟨game, holds, cleaned⟩
      exact ⟨game, holds, cleaned.prepend earlier⟩
    · intro rest
      exact step.generation fun call member => rest call (mem_append_right _ member)
    · intro game isMade
      exact (made game (isMade.of_append unmade)).imp_right fun cleaned => cleaned.prepend earlier

theorem playingRuns_meets (entry : SeatGameLifecycle.Entry) (state : State) :
    Meets env (SeatGameLifecycle.playingRuns entry) state fun calls _ _ => Unmade calls := by
  unfold SeatGameLifecycle.playingRuns
  split
  · exact meets_ask fun _ _ _ => meets_pure (Unmade.nil.cons rfl)
  · exact meets_pure .nil

theorem start_outcome (sound : Sound self) (found : self.find seatId = some entry) (state : State) :
    BodyMeets env self entry (self.startBody entry) state := by
  refine meets_bind (playingRuns_meets entry state) fun calls playing between unmade => ?_
  split
  · exact meets_pure ((reject_outcome sound .nil _ _).prepend unmade)
  split
  next binding planning _ =>
    exact meets_mono (startPlanned_outcome sound found planning binding between)
      fun more outcome after law => law.prepend unmade
  · exact meets_pure ((reject_outcome sound .nil _ _).prepend unmade)

theorem stop_outcome (sound : Sound self) (found : self.find seatId = some entry) (state : State) :
    BodyMeets env self entry (self.stopBody entry) state := by
  have resting := sound.resting entry (find_mem found)
  unfold SeatGameLifecycle.stopBody
  split
  · exact meets_pure
      (.kept rfl (fun returned _ member => updateReturnPolicy_returned returned member) .nil)
  split
  next planning =>
    have free : entry.game = none := by
      refine resting.free ?_
      rw [planning]
      exact ⟨nofun, nofun⟩
    refine meets_pure (.settle (by rfl) ?_ ?_ (fun game made => absurd made Unmade.nil.not_made) _)
    · exact .ofFree free (.inl rfl)
    · refine .moved rfl ?_ rfl
      rw [planning]
      nofun
  split
  next free =>
    split
    · refine meets_pure (released_outcome resting (.inl rfl) ?_ .nil _ _)
      intro game holds
      rw [free] at holds
      cases holds
    next notDegraded =>
      -- No other phase is left for a resting Seat without an instance.
      exfalso
      have notBusy : ¬ (entry.state.phase = .playing ∨ entry.state.phase = .recoveryRequired) := by
        rw [← resting.held, free]
        exact Bool.false_ne_true
      obtain ⟨notStarting, notStopping⟩ := resting.settled
      cases phase : entry.state.phase with
      | idle | planning | degraded => contradiction
      | starting => exact notStarting phase
      | stopping => exact notStopping phase
      | playing => exact notBusy (.inl phase)
      | recoveryRequired => exact notBusy (.inr phase)
  next game holds => exact cleanUp_outcome sound found holds (.inl rfl) _ _ _ state

theorem observe_outcome (sound : Sound self) (found : self.find seatId = some entry)
    (expectedGeneration : UInt64) (cleanExit : Bool)
    (diagnostic : ByteString) (state : State) :
    BodyMeets env self entry (self.observeBody entry expectedGeneration cleanExit diagnostic)
      state := by
  unfold SeatGameLifecycle.observeBody
  split
  · exact meets_pure (reject_outcome sound .nil _ _)
  split
  next game _ holds =>
    refine meets_ask fun running middle _ => ?_
    split
    · exact meets_pure (reject_outcome sound (Unmade.nil.cons rfl) _ _)
    have calm :
        (if cleanExit then SeatGamePhase.idle else .degraded) = .idle ∨
          (if cleanExit then SeatGamePhase.idle else .degraded) = .degraded := by
      cases cleanExit with
      | true => exact .inl rfl
      | false => exact .inr rfl
    exact meets_mono (cleanUp_outcome sound found holds calm _ _ _ middle)
      fun calls outcome after law => law.prepend (Unmade.nil.cons rfl)
  · exact meets_pure (reject_outcome sound .nil _ _)

end Operations

/-! ## The operations on all Seats -/

section Loops

variable {env : Environment lifecycleInterface State}
  {self after : SeatGameLifecycle} {calls : List (LifecycleEntry State)}
  {operation : LifecycleOperation}
variable {was now : SeatGameLifecycle.Entry}
  {related : SeatGameLifecycle.Entry → SeatGameLifecycle.Entry → Prop}
  {entries others : List SeatGameLifecycle.Entry} {seatId : UInt32}
  {entry : SeatGameLifecycle.Entry}

/-- What the body of a loop does to an entry. -/
structure Stepped (calls : List (LifecycleEntry State))
    (was now : SeatGameLifecycle.Entry) : Prop where
  seatId : now.state.seatId = was.state.seatId
  resting : Resting was → Resting now
  step : Resting was → EntryStep calls was now

theorem EntryStep.within (step : EntryStep calls was now)
    (earlier later : List (LifecycleEntry State)) :
    EntryStep (earlier ++ calls ++ later) was now where
  dropped game holds :=
    (step.dropped game holds).imp_right fun cleaned => (cleaned.prepend earlier).append later
  left recovering := by
    refine (step.left recovering).imp_right ?_
    rintro ⟨game, holds, cleaned⟩
    exact ⟨game, holds, (cleaned.prepend earlier).append later⟩
  generation unmade :=
    step.generation fun call member =>
      unmade call (mem_append_left _ (mem_append_right _ member))

theorem Stepped.within (stepped : Stepped calls was now)
    (earlier later : List (LifecycleEntry State)) :
    Stepped (earlier ++ calls ++ later) was now where
  seatId := stepped.seatId
  resting := stepped.resting
  step resting := (stepped.step resting).within earlier later

/-- The rule for a loop: what its body does to an entry, it does to all, and
a state that is good at the end was good all the way. -/
theorem forEntries_meets {σ : Type} (good : σ → Prop) (fine : SeatGameLifecycle.Entry → Prop)
    {body : σ → SeatGameLifecycle.Entry → LifecycleProgram (σ × SeatGameLifecycle.Entry)}
    (bodyMeets :
      ∀ progress entry state,
        Meets env (body progress entry) state
          fun calls outcome _ =>
            Unmade calls ∧ Stepped calls entry outcome.2 ∧
              (good outcome.1 → good progress ∧ fine outcome.2))
    (progress : σ) (entries : List SeatGameLifecycle.Entry)
    (state : State) :
    Meets env (SeatGameLifecycle.forEntries body progress entries)
      state fun calls outcome _ =>
        Unmade calls ∧ List.Forall₂ (Stepped calls) entries outcome.2 ∧
          (good outcome.1 → good progress ∧ ∀ entry ∈ outcome.2, fine entry) := by
  induction entries generalizing progress state with
  | nil => exact meets_pure ⟨.nil, .nil, fun isGood => ⟨isGood, nofun⟩⟩
  | cons entry entries ih =>
    refine meets_bind (bodyMeets progress entry state) ?_
    rintro first ⟨between, now⟩ middle ⟨unmade, stepped, isFine⟩
    refine meets_bind (ih between middle) ?_
    rintro second ⟨final, rest⟩ last ⟨restUnmade, restStepped, restFine⟩
    refine meets_pure ⟨?_, .cons ?_ ?_, ?_⟩
    · rw [append_nil]
      exact unmade.append restUnmade
    · rw [append_nil]
      exact stepped.within [] second
    · refine restStepped.imp fun was now stepped => ?_
      rw [← append_assoc]
      exact stepped.within first []
    · intro isGood
      obtain ⟨betweenGood, allFine⟩ := restFine isGood
      obtain ⟨wasGood, nowFine⟩ := isFine betweenGood
      refine ⟨wasGood, ?_⟩
      intro other member
      rcases mem_cons.mp member with rfl | later
      · exact nowFine
      · exact allFine other later

theorem find_forall₂ (all : List.Forall₂ related entries others)
    (sameSeat : ∀ was now, related was now → now.state.seatId = was.state.seatId)
    (found : entries.find? (fun entry => entry.state.seatId == seatId) = some was) :
    ∃ now,
      others.find? (fun entry => entry.state.seatId == seatId) = some now ∧ related was now := by
  induction all with
  | nil => cases found
  | @cons head other entries others isRelated _ ih =>
    rw [find?_cons] at found ⊢
    rw [sameSeat head other isRelated]
    split at found
    · cases found
      exact ⟨other, rfl, isRelated⟩
    · exact ih found

theorem forall₂_origin (all : List.Forall₂ related entries others) (member : now ∈ others) :
    ∃ was ∈ entries, related was now := by
  induction all with
  | nil => cases member
  | @cons head other entries others isRelated _ ih =>
    rcases mem_cons.mp member with rfl | later
    · exact ⟨head, mem_cons_self, isRelated⟩
    · obtain ⟨was, wasMember, isRelated⟩ := ih later
      exact ⟨was, mem_cons_of_mem _ wasMember, isRelated⟩

theorem LifecycleLaw.ofLoop (sound : Sound self) (unmade : Unmade calls)
    (all : List.Forall₂ (Stepped calls) self.entries after.entries)
    (returned :
      after.wholeMachineReturnRequested = true → ∀ entry ∈ after.entries, entry.state.phase = .idle)
    (unaddressed : operation.seat? = none) :
    LifecycleLaw self operation calls after where
  sound := by
    refine ⟨?_, returned⟩
    intro now member
    obtain ⟨was, wasMember, stepped⟩ := forall₂_origin all member
    exact stepped.resting (sound.resting was wasMember)
  others seatId addressed := by
    rw [unaddressed] at addressed
    cases addressed
  seats seatId was found := by
    obtain ⟨now, nowFound, stepped⟩ :=
      find_forall₂ all (fun was now stepped => stepped.seatId) found
    exact ⟨now, nowFound, stepped.step (sound.resting was (find_mem found))⟩
  absent seatId nothing := by
    cases found : after.find seatId with
    | none => rfl
    | some now =>
      obtain ⟨was, wasFound, _⟩ := find_forall₂ all.flip
        (fun now was stepped => stepped.seatId.symm) found
      rw [show self.find seatId = some was from wasFound] at nothing
      cases nothing
  made game isMade := absurd isMade unmade.not_made

theorem Stepped.refl (calls : List (LifecycleEntry State))
    (entry : SeatGameLifecycle.Entry) : Stepped calls entry entry :=
  ⟨rfl, id, fun _ => .refl calls entry⟩

/-- A Seat is released behind the cleanup of its instance, or keeps it. -/
theorem Stepped.released (cleaned : ∀ game, entry.game = some game → CleanedUp game calls)
    (diagnostic : ByteString) :
    Stepped calls entry (SeatGameLifecycle.released entry .idle diagnostic) := by
  refine ⟨rfl, fun _ => .ofFree rfl (.inl rfl), fun resting => ⟨?_, ?_, fun _ => rfl⟩⟩
  · intro game holds
    exact .inr (cleaned game holds)
  · intro recovering
    obtain ⟨game, holds⟩ := Option.isSome_iff_exists.mp (resting.held.mpr (.inr recovering))
    exact .inr ⟨game, holds, cleaned game holds⟩

theorem Stepped.stranded {game : SeatGameInstance}
    (holds : entry.game = some game) (diagnostic : ByteString) :
    Stepped calls entry (SeatGameLifecycle.stranded entry diagnostic) :=
  ⟨rfl, fun _ => .ofHeld (Option.isSome_of_eq_some holds) (.inr rfl),
    fun _ => ⟨fun _ => .inl, fun _ => .inl rfl, fun _ => rfl⟩⟩

theorem reconcileEntry_meets (changed : Bool) (entry : SeatGameLifecycle.Entry) (state : State) :
    Meets env (SeatGameLifecycle.reconcileEntry changed entry) state
      fun calls outcome _ => Unmade calls ∧ Stepped calls entry outcome.2 := by
  unfold SeatGameLifecycle.reconcileEntry
  split
  next game _ holds =>
    refine meets_ask fun running middle _ => ?_
    split
    · exact meets_pure ⟨Unmade.nil.cons rfl, .refl _ entry⟩
    refine meets_bind (stopVerified_meets game [] middle) ?_
    rintro calls ⟨stopped, error⟩ between ⟨unmade, cleaned⟩
    cases stopped with
    | false =>
      refine meets_pure ⟨?_, .stranded holds _⟩
      rw [append_nil]
      exact unmade.cons rfl
    | true =>
      refine meets_pure ⟨?_, .released ?_ _⟩
      · rw [append_nil]
        exact unmade.cons rfl
      intro other otherHolds
      rw [holds] at otherHolds
      cases otherHolds
      rw [append_nil]
      exact (cleaned rfl).prepend [_]
  · exact meets_pure ⟨.nil, .refl _ entry⟩

theorem emergencyEntry_meets (progress : EmergencyProgress)
    (entry : SeatGameLifecycle.Entry) (state : State) :
    Meets env (SeatGameLifecycle.emergencyEntry progress entry) state
      fun calls outcome _ =>
        Unmade calls ∧ Stepped calls entry outcome.2 ∧
          (outcome.1.safe = true → progress.safe = true ∧ outcome.2.state.phase = .idle) := by
  unfold SeatGameLifecycle.emergencyEntry
  split
  next free =>
    refine meets_pure ⟨.nil, .released ?_ _, fun safe => ⟨safe, rfl⟩⟩
    intro game holds
    rw [free] at holds
    cases holds
  next game holds =>
    refine meets_bind (stopVerified_meets game [] state) ?_
    rintro calls ⟨stopped, error⟩ between ⟨unmade, cleaned⟩
    cases stopped with
    | false =>
      refine meets_pure ⟨?_, .stranded holds _, nofun⟩
      rw [append_nil]
      exact unmade
    | true =>
      refine meets_pure ⟨?_, .released ?_ _, fun safe => ⟨safe, rfl⟩⟩
      · rw [append_nil]
        exact unmade
      intro other otherHolds
      rw [holds] at otherHolds
      cases otherHolds
      rw [append_nil]
      exact cleaned rfl

abbrev LawMeets (env : Environment lifecycleInterface State)
    (self : SeatGameLifecycle) (operation : LifecycleOperation)
    (program : LifecycleProgram LifecycleOutcome) (state : State) : Prop :=
  Meets env program state fun calls outcome _ => LifecycleLaw self operation calls outcome.2

theorem emergencyStopAllLocked_law (sound : Sound self) (unaddressed : operation.seat? = none)
    (state : State) :
    LawMeets env self operation self.emergencyStopAllLocked state := by
  refine meets_bind
    (forEntries_meets (fun progress => progress.safe = true)
      (fun entry => entry.state.phase = .idle) emergencyEntry_meets _
      self.entries state) ?_
  rintro calls ⟨progress, entries⟩ between ⟨unmade, all, allIdle⟩
  refine meets_pure ?_
  rw [append_nil]
  exact .ofLoop sound unmade all (fun safe => (allIdle safe).2) unaddressed

/-! ## What comes before the bodies -/

theorem LifecycleLaw.cons {first : LifecycleEntry State}
    (law : LifecycleLaw self operation calls after)
    (makesNot : first.request.makes = false) :
    LifecycleLaw self operation (first :: calls) after where
  sound := law.sound
  others := law.others
  seats seatId was found := by
    obtain ⟨now, nowFound, step⟩ := law.seats seatId was found
    have within := step.within [first] []
    rw [append_nil] at within
    exact ⟨now, nowFound, within⟩
  absent := law.absent
  made game isMade := by
    have unmade : Unmade [first] := Unmade.nil.cons makesNot
    refine (law.made game (Made.of_append isMade unmade)).imp_right ?_
    exact fun cleaned => cleaned.prepend [first]

theorem LifecycleLaw.remembered {correlations : List UInt64}
    (law : LifecycleLaw { self with correlations } operation calls after) :
    LifecycleLaw self operation calls after :=
  ⟨law.sound, law.others, law.seats, law.absent, law.made⟩

theorem rememberCorrelation_eq {correlationId : UInt64} {remembered : SeatGameLifecycle}
    (remembers : self.rememberCorrelation correlationId = some remembered) :
    ∃ correlations, remembered = { self with correlations } := by
  unfold SeatGameLifecycle.rememberCorrelation at remembers
  split at remembers
  · cases remembers
  · cases remembers
    exact ⟨_, rfl⟩

theorem command_law (sound : Sound self) (correlationId : UInt64)
    {body : SeatGameLifecycle → LifecycleProgram LifecycleOutcome}
    (bodyLaw :
      ∀ remembered state, Sound remembered →
        LawMeets env remembered operation (body remembered) state)
    (state : State) :
    LawMeets env self operation (self.command correlationId body) state := by
  refine meets_ask fun locked middle _ => ?_
  have kept :
      LifecycleLaw self operation [(⟨state, .tryLock, locked⟩ : LifecycleEntry State)] self :=
    .keep sound rfl sound.returned (Unmade.nil.cons rfl)
  split
  · exact meets_pure kept
  split
  · exact meets_pure kept
  split
  · exact meets_pure kept
  next remembered remembers =>
    obtain ⟨correlations, rfl⟩ := rememberCorrelation_eq remembers
    refine meets_mono (bodyLaw _ middle ⟨sound.resting, sound.returned⟩)
      fun calls outcome last law => ?_
    exact law.remembered.cons rfl

theorem seatCommand_law (sound : Sound self) (correlationId : UInt64)
    (addressed : operation.seat? = some seatId)
    {body : SeatGameLifecycle → SeatGameLifecycle.Entry → LifecycleProgram LifecycleOutcome}
    (bodyOutcome :
      ∀ remembered entry state, Sound remembered → remembered.find seatId = some entry →
        BodyMeets env remembered entry (body remembered entry) state)
    (state : State) :
    LawMeets env self operation (self.seatCommand seatId correlationId body) state := by
  refine command_law sound correlationId ?_ state
  intro remembered middle sound
  split
  · exact meets_pure (.keep sound rfl sound.returned .nil)
  next entry found =>
    exact meets_mono (bodyOutcome remembered entry middle sound found)
      fun calls outcome last law => law.law sound found addressed

theorem perform_law (sound : Sound self) (operation : LifecycleOperation) (state : State) :
    LawMeets env self operation (self.perform operation) state := by
  cases operation with
  | assign seatId binding correlationId =>
    exact seatCommand_law sound correlationId rfl
      (fun _ _ state sound found => assign_outcome sound found binding state)
      state
  | start seatId correlationId =>
    exact seatCommand_law sound correlationId rfl
      (fun _ _ state sound found => start_outcome sound found state) state
  | stop seatId correlationId =>
    exact seatCommand_law sound correlationId rfl
      (fun _ _ state sound found => stop_outcome sound found state) state
  | observeTargetExit seatId expectedGeneration cleanExit diagnostic correlationId =>
    exact seatCommand_law sound correlationId rfl
      (fun _ _ state sound found =>
        observe_outcome sound found expectedGeneration cleanExit diagnostic state)
      state
  | reconcile correlationId =>
    refine command_law sound correlationId ?_ state
    intro remembered middle sound
    refine meets_bind
      (forEntries_meets (fun _ => True) (fun _ => True)
        (fun changed entry state =>
          meets_mono (reconcileEntry_meets changed entry state)
            fun calls outcome last law => ⟨law.1, law.2, fun _ => ⟨trivial, trivial⟩⟩)
        false remembered.entries middle) ?_
    rintro calls ⟨changed, entries⟩ between ⟨unmade, all, _⟩
    refine meets_pure ?_
    rw [append_nil]
    exact .ofLoop sound unmade all
      (fun returned _ member => updateReturnPolicy_returned returned member) rfl
  | emergencyStopAll correlationId =>
    exact command_law sound correlationId
      (fun _ state sound => emergencyStopAllLocked_law sound rfl state)
      state
  | shutdown => exact emergencyStopAllLocked_law sound rfl state

end Loops

/-! ## Every life -/

section Life

variable {env : Environment lifecycleInterface State}
  {outside : State → State → Prop} {start world last : State}
  {lifecycle after : SeatGameLifecycle}
variable {activeSeats : List UInt32}

theorem addSeats_idle {entries all : List SeatGameLifecycle.Entry}
    (added : addSeats activeSeats entries = some all)
    (idle : ∀ entry ∈ entries, entry.game = none ∧ entry.state.phase = .idle) :
    ∀ entry ∈ all, entry.game = none ∧ entry.state.phase = .idle := by
  induction activeSeats generalizing entries with
  | nil =>
    cases added
    exact idle
  | cons seatId activeSeats ih =>
    rw [addSeats] at added
    split at added
    · cases added
    refine ih added ?_
    intro entry member
    rcases mem_orderedInsert _ |>.mp member with rfl | before
    · exact ⟨rfl, rfl⟩
    · exact idle entry before

theorem create_sound (activeSeats : List UInt32) (factory : Bool) :
    Sound (.create activeSeats factory) := by
  have invalid (code : SeatGameResultCode) (text : String) : Sound (.invalid factory code text) :=
    ⟨fun entry member => (nomatch member), nofun⟩
  have idle {entries : List SeatGameLifecycle.Entry}
      (added : addSeats activeSeats [] = some entries) :
      ∀ entry ∈ entries, Resting entry := by
    intro entry member
    obtain ⟨free, idle⟩ := addSeats_idle added (fun other none => (nomatch none)) entry member
    exact .ofFree free (.inl idle)
  unfold SeatGameLifecycle.create
  split
  · exact invalid _ _
  split
  · exact invalid _ _
  split
  · exact invalid _ _
  next entries added =>
    split
    · exact ⟨idle added, nofun⟩
    · exact ⟨idle added, nofun⟩

theorem life_sound {factory : Bool}
    {deeds :
      List (Deed lifecycleInterface State SeatGameLifecycle
        LifecycleOperation SeatGameCommandResult)}
    (life : Lived perform env outside (.create activeSeats factory) start lifecycle world deeds) :
    Sound lifecycle := by
  refine life.invariant (fun lifecycle _ _ => Sound lifecycle) ?_ ?_
    (create_sound activeSeats factory)
    (fun _ _ => trivial : ∀ deed ∈ deeds, True)
  · intro lifecycle operation state deeds sound
    exact meets_mono (perform_law sound operation state) fun calls outcome last law _ => law.sound
  · intro lifecycle first last deeds sound _
    exact sound

/-- The law of the lifecycle, for any factory and any instances. -/
theorem lifecycle_law {activeSeats : List UInt32} {factory : Bool}
    {deeds :
      List (Deed lifecycleInterface State SeatGameLifecycle
        LifecycleOperation SeatGameCommandResult)}
    {operation : LifecycleOperation} {calls : List (LifecycleEntry State)}
    {result : SeatGameCommandResult}
    (life : Lived perform env outside (.create activeSeats factory) start lifecycle world deeds)
    (ran : Ran env (lifecycle.perform operation) world calls (result, after) last) :
    Sound lifecycle ∧ LifecycleLaw lifecycle operation calls after :=
  have sound := life_sound life
  ⟨sound, perform_law sound operation world _ _ _ ran⟩

end Life

/-! ### A Seat that plays -/

/-- Instances that do what they are asked, numbered as they are made. -/
def obligingGames (made : Nat) : (request : LifecycleCall) → request.Answer × Nat
  | .tryLock => (true, made)
  | .createForBinding _ _ _ => (.returned (some made) [], made + 1)
  | .start _ _ _ => (.returned true [], made)
  | .stop _ _ => ((true, []), made)
  | .verifyStopped _ _ => ((true, []), made)
  | .running _ => (true, made)

def sampleBinding : SeatGameBinding where
  playerId := [65]
  gameId := [90]

abbrev GameDeed (State : Type) :=
  Deed lifecycleInterface State SeatGameLifecycle LifecycleOperation SeatGameCommandResult

def sampleGameDeeds (operations : List LifecycleOperation) : List (GameDeed Nat) :=
  enact obligingGames SeatGameLifecycle.perform (.create [1, 2] true) 0 operations

/-- The lifecycle of two Seats behind some operations. -/
def sampleLifecycle (operations : List LifecycleOperation) : SeatGameLifecycle :=
  objectBehind (.create [1, 2] true) (sampleGameDeeds operations)

def sampleGamesMade (operations : List LifecycleOperation) : Nat :=
  stateBehind 0 (sampleGameDeeds operations)

theorem sampleGameDeeds_life (operations : List LifecycleOperation) :
    Lived perform (handled obligingGames) Eq (.create [1, 2] true) 0 (sampleLifecycle operations)
      (sampleGamesMade operations) (sampleGameDeeds operations) :=
  Lived.start.script (fun _ _ => rfl) operations

theorem sample_stop_law :
    ((sampleLifecycle [.assign 1 sampleBinding 1, .start 1 2]).find 1).map
        (·.state.phase) = some .playing ∧
      LifecycleLaw (sampleLifecycle [.assign 1 sampleBinding 1, .start 1 2]) (.stop 1 3)
        (entriesOf obligingGames
          ((sampleLifecycle [.assign 1 sampleBinding 1, .start 1 2]).perform (.stop 1 3))
          (sampleGamesMade [.assign 1 sampleBinding 1, .start 1 2]))
        (exec obligingGames
          ((sampleLifecycle [.assign 1 sampleBinding 1, .start 1 2]).perform (.stop 1 3))
          (sampleGamesMade [.assign 1 sampleBinding 1, .start 1 2])).1.2 :=
  ⟨by decide, (lifecycle_law (sampleGameDeeds_life _) (ran_exec (fun _ _ => rfl) _ _)).2⟩

end HydraSeat.Launch
