import HydraSeat.Watchdog.Main

/-!
# What an armed watchdog guarantees

The events of an armed run are rounds in which nothing happened but exact
renewals, one last round, an execution of the registered plan and a report.
A report of a clean disarm needs an exact and fresh `Disarm` frame in the
last round and an execution that satisfied every action.
-/

namespace HydraSeat.Watchdog

open Foundation
open Foundation.Command List RollbackRegistry

variable {lease : WatchdogLease} {lastSequence : UInt64} {lastRenewal : Int}
  {frame : DecodedWatchdogFrame} {decision : Decision} {events : List WatchdogEvent}
  {sequence : UInt64} {status : WatchdogStatus} {code : ExitCode} {manifest : RollbackPlanManifest}
  {statusSequence : UInt64} {registered : Registered} {run : ArmedRun} {fuel : Nat}
  {options : Options}

/-! ## Rounds -/

/-- The host runs and the lease has not expired. -/
inductive Alive (lease : WatchdogLease) (lastRenewal : Int) : List WatchdogEvent → Prop
  | intro (hostState : UInt32) (now : Int) (running : hostState ≠ waitObject0)
      (readable : hostState ≠ waitFailed)
      (unexpired : now - lastRenewal < lease.timeoutMilliseconds.toNat * 1000000) :
      Alive lease lastRenewal [⟨.waitForHost, hostState⟩, ⟨.steadyClockNow, now⟩]

/-- The pipe delivered a well-formed frame with a fresh sequence number. -/
def Received (lastSequence : UInt64) (frame : DecodedWatchdogFrame)
    (pipe : List WatchdogEvent) : Prop :=
  ∃ bytes,
    Trace tryReadFrame pipe (.frame bytes) ∧ decodeWatchdogFrame bytes = .ok frame ∧
      lastSequence < frame.sequence

/-- Rounds after which the watchdog keeps watching: nothing arrived, or an
exact renewal did.  `accepted` lists the sequence numbers of the renewals. -/
inductive Undisturbed (lease : WatchdogLease) :
    UInt64 → Int → List WatchdogEvent → List UInt64 → UInt64 → Int → Prop
  | start (lastSequence : UInt64) (lastRenewal : Int) :
      Undisturbed lease lastSequence lastRenewal [] [] lastSequence lastRenewal
  | idle (lastSequence finalSequence : UInt64) (lastRenewal finalRenewal : Int)
      (host pipe events : List WatchdogEvent) (accepted : List UInt64)
      (alive : Alive lease lastRenewal host)
      (silent : Trace tryReadFrame pipe .noFrame)
      (rest :
        Undisturbed lease lastSequence lastRenewal events accepted finalSequence finalRenewal) :
      Undisturbed lease lastSequence lastRenewal
        (host ++ pipe ++ ⟨.sleepFor kPollMilliseconds, ()⟩ :: events)
        accepted finalSequence finalRenewal
  | renewed (lastSequence finalSequence : UInt64) (lastRenewal renewal finalRenewal : Int)
      (host pipe events : List WatchdogEvent) (accepted : List UInt64)
      (frame : DecodedWatchdogFrame)
      (alive : Alive lease lastRenewal host)
      (received : Received lastSequence frame pipe)
      (exact : decodeLeaseRenewal frame = .ok lease)
      (rest : Undisturbed lease frame.sequence renewal events accepted finalSequence finalRenewal) :
      Undisturbed lease lastSequence lastRenewal
        (host ++ pipe ++ ⟨.steadyClockNow, renewal⟩ :: events)
        (frame.sequence :: accepted) finalSequence finalRenewal

/-- A live round with an exact and fresh `Disarm` frame. -/
def DisarmRequested (lease : WatchdogLease) (lastSequence : UInt64) (lastRenewal : Int)
    (frame : DecodedWatchdogFrame) (round : List WatchdogEvent) : Prop :=
  ∃ host pipe,
    round = host ++ pipe ∧ Alive lease lastRenewal host ∧ Received lastSequence frame pipe ∧
      decodeDisarm frame = .ok lease

/-- A decision is the rollback of the registered plan in one of its two
forms unless the round was undisturbed. -/
inductive Decided (lease : WatchdogLease) (lastSequence : UInt64) (lastRenewal : Int) :
    Decision → List WatchdogEvent → Prop
  | poll (host pipe : List WatchdogEvent) (alive : Alive lease lastRenewal host)
      (silent : Trace tryReadFrame pipe .noFrame) :
      Decided lease lastSequence lastRenewal .poll (host ++ pipe)
  | renewed (host pipe : List WatchdogEvent) (frame : DecodedWatchdogFrame) (renewal : Int)
      (alive : Alive lease lastRenewal host)
      (received : Received lastSequence frame pipe)
      (exact : decodeLeaseRenewal frame = .ok lease) :
      Decided lease lastSequence lastRenewal (.renewed frame.sequence renewal)
        (host ++ pipe ++ [⟨.steadyClockNow, renewal⟩])
  | disarm (frame : DecodedWatchdogFrame) (round : List WatchdogEvent)
      (requested : DisarmRequested lease lastSequence lastRenewal frame round) :
      Decided lease lastSequence lastRenewal (.disarm frame.sequence) round
  | rollback (statusSequence : UInt64) (reason : WatchdogTriggerReason)
      (round : List WatchdogEvent) :
      Decided lease lastSequence lastRenewal (.rollback statusSequence reason) round

variable {call : WatchdogCall}

theorem trace_request_iff
    {answer : watchdogInterface.Answer call} :
    Trace (request call) events answer ↔ events = [⟨call, answer⟩] := by
  constructor
  · intro trace
    obtain ⟨given, rest, rfl, returned⟩ := trace_call_iff.mp trace
    cases returned
    rfl
  · rintro rfl
    exact .call _ _ _ _ _ (.done _)

variable {host pipe : List WatchdogEvent}

theorem decideFrame_decided
    (alive : Alive lease lastRenewal host)
    (received : Received lastSequence frame pipe)
    (trace : Trace (decideFrame lease frame) events decision) :
    Decided lease lastSequence lastRenewal decision (host ++ pipe ++ events) := by
  unfold decideFrame at trace
  split at trace
  · split at trace
    next renewed decoded =>
      split at trace
      · cases trace
        exact .rollback _ _ _
      next same =>
        obtain ⟨clock, rest, renewal, rfl, read, returned⟩ := trace_bind_iff.mp trace
        cases returned
        rw [trace_request_iff.mp read, append_nil]
        rw [ne_eq, not_not] at same
        exact .renewed host pipe frame renewal alive received (same ▸ decoded)
    · cases trace
      exact .rollback _ _ _
  · split at trace
    next disarmed decoded =>
      split at trace
      · cases trace
        exact .rollback _ _ _
      next same =>
        cases trace
        rw [ne_eq, not_not] at same
        rw [append_nil]
        exact .disarm frame _ ⟨host, pipe, rfl, alive, received, same ▸ decoded⟩
    · cases trace
      exact .rollback _ _ _
  · cases trace
    exact .rollback _ _ _
  · cases trace
    exact .rollback _ _ _

theorem decideRead_decided {read : PipeRead}
    (alive : Alive lease lastRenewal host)
    (piped : Trace tryReadFrame pipe read)
    (trace : Trace (decideRead lease lastSequence read) events decision) :
    Decided lease lastSequence lastRenewal decision (host ++ pipe ++ events) := by
  cases read with
  | noFrame =>
    cases trace
    rw [append_nil]
    exact .poll host pipe alive piped
  | closed | error | protocolError =>
    cases trace
    exact .rollback _ _ _
  | frame bytes =>
    rw [decideRead] at trace
    split at trace
    · cases trace
      exact .rollback _ _ _
    next frame decoded =>
      split at trace
      · cases trace
        exact .rollback _ _ _
      next fresh =>
        exact decideFrame_decided alive ⟨bytes, piped, decoded, UInt64.not_le.mp fresh⟩ trace

theorem watchRound_decided
    (trace : Trace (watchRound lease lastSequence lastRenewal) events decision) :
    Decided lease lastSequence lastRenewal decision events := by
  obtain ⟨waited, afterWait, hostState, rfl, wait, checked⟩ := trace_bind_iff.mp trace
  split at checked
  · cases checked
    exact .rollback _ _ _
  next running =>
    split at checked
    · cases checked
      exact .rollback _ _ _
    next readable =>
      obtain ⟨clock, afterClock, now, rfl, read, timed⟩ := trace_bind_iff.mp checked
      split at timed
      · cases timed
        exact .rollback _ _ _
      next unexpired =>
        obtain ⟨pipe, events, frame, rfl, piped, decided⟩ := trace_bind_iff.mp timed
        rw [trace_request_iff.mp wait, trace_request_iff.mp read]
        have alive :
            Alive lease lastRenewal [⟨.waitForHost, hostState⟩, ⟨.steadyClockNow, now⟩] := by
          refine .intro hostState now running readable ?_
          unfold leaseExpired at unexpired
          simp only [decide_eq_true_eq] at unexpired
          omega
        have round := decideRead_decided alive piped decided
        exact round

/-! ## Reports -/

def SaysDisarmed : WatchdogCall → Prop
  | .printStatus status => status.state = .disarmed
  | .writeAll bytes =>
    ∃ sequence status,
      bytes = encodeWatchdogStatus sequence status ∧ bytes ≠ [] ∧ status.state = .disarmed
  | _ => False

def ReportsDisarmed (code : ExitCode) (events : List WatchdogEvent) : Prop :=
  code = .cleanDisarm ∨ ∃ event ∈ events, SaysDisarmed event.request

def Reporting : WatchdogCall → Prop
  | .writeAll _ => True
  | .printStatus _ => True
  | _ => False

abbrev Quiet {α : Type} (program : Program α) : Prop :=
  Only (fun call => ¬ SaysDisarmed call) program

theorem request_quiet (silent : ¬ SaysDisarmed call) : Quiet (request call) :=
  only_ask silent

abbrev Silent {α : Type} (program : Program α) : Prop := Only (fun call => ¬ Reporting call) program

theorem Silent.quiet {α : Type} {program : Program α} (silent : Silent program) :
    Quiet program := by
  apply only_mono silent
  intro call unreported disarmed
  apply unreported
  cases call <;> trivial

theorem request_silent (silent : ¬ Reporting call) : Silent (request call) :=
  only_ask silent

theorem tryReadFrame_silent : Silent tryReadFrame := by
  refine only_bind (request_silent id) ?_
  intro answer
  split
  · split
    · exact only_pure
    · exact only_pure
  apply only_refused
  apply only_refused
  dsimp only
  apply only_refused
  apply only_refused
  refine only_bind (request_silent id) ?_
  intro read
  split
  · exact only_pure
  · split
    · exact only_pure
    · exact only_pure

theorem decideFrame_silent (lease : WatchdogLease) (frame : DecodedWatchdogFrame) :
    Silent (decideFrame lease frame) := by
  unfold decideFrame
  split
  · split
    · split
      · exact only_pure
      · exact only_bind (request_silent id) fun _ => only_pure
    · exact only_pure
  · split
    · split
      · exact only_pure
      · exact only_pure
    · exact only_pure
  · exact only_pure
  · exact only_pure

theorem watchRound_silent (lease : WatchdogLease) (lastSequence : UInt64) (lastRenewal : Int) :
    Silent (watchRound lease lastSequence lastRenewal) := by
  refine only_bind (request_silent id) ?_
  intro hostState
  apply only_refused
  apply only_refused
  refine only_bind (request_silent id) ?_
  intro now
  apply only_refused
  refine only_bind tryReadFrame_silent ?_
  intro read
  unfold decideRead
  split
  · exact only_pure
  · exact only_pure
  · exact only_pure
  · exact only_pure
  split
  · exact only_pure
  · split
    · exact only_pure
    · exact decideFrame_silent lease _

theorem executeRegisteredRollback_silent (registry : RollbackRegistry) :
    Silent (executeRegisteredRollback registry) :=
  execute_only (request_silent id) (fun _ _ => request_silent id) registry

theorem encodeWatchdogStatus_length (accepted : encodeWatchdogStatus sequence status ≠ []) :
    (encodeWatchdogStatus sequence status).length = 64 := by
  unfold encodeWatchdogStatus encodeWatchdogFrame at accepted ⊢
  split
  next refused =>
    rw [if_pos refused] at accepted
    exact absurd rfl accepted
  next fields =>
    rw [if_neg fields] at accepted
    split
    next refused =>
      rw [if_pos refused] at accepted
      exact absurd rfl accepted
    · rw [length_append, writeFrameHeader_length]
      simp [kWatchdogFrameHeaderBytes, writeWireStatus]

theorem writeStatusFrame_quiet (armed : status.state ≠ .disarmed) (sequence : UInt64) :
    Quiet (writeStatusFrame sequence status) := by
  unfold writeStatusFrame
  dsimp only
  split
  · exact only_pure
  next accepted =>
    refine only_bind (request_quiet ?_) ?_
    · rintro ⟨other, reported, same, nonempty, _⟩
      have long := encodeWatchdogStatus_length (same ▸ nonempty)
      rw [← same, writeU32_length] at long
      cases long
    intro written
    split
    · refine request_quiet ?_
      rintro ⟨other, reported, same, _, disarmed⟩
      exact armed ((encodeWatchdogStatus_state same accepted).trans disarmed)
    · exact only_pure

theorem report_quiet (armed : status.state ≠ .disarmed) (sequence : UInt64) (code : ExitCode) :
    Quiet (report sequence status code) := by
  refine only_bind (writeStatusFrame_quiet armed sequence) ?_
  intro written
  exact only_bind (request_quiet armed) fun _ => only_pure

theorem startUp_silent (fuel : Nat) (options : Options) : Silent (startUp fuel options) := by
  have accepting : ∀ bytes, Silent (acceptPlan options bytes) := by
    intro bytes
    unfold acceptPlan
    split
    · exact only_pure
    apply only_refused
    split
    · exact only_pure
    apply only_refused
    refine only_bind (request_silent id) ?_
    intro processId
    split
    · exact only_pure
    · split
      · exact only_pure
      · exact only_bind (request_silent id) fun _ => only_pure
  have awaiting : ∀ deadline fuel, Silent (awaitPlan options deadline fuel) := by
    intro deadline fuel
    induction fuel with
    | zero => exact only_pure
    | succ fuel ih =>
      refine only_bind (request_silent id) ?_
      intro hostState
      apply only_refused
      refine only_bind (request_silent id) ?_
      intro now
      apply only_refused
      refine only_bind tryReadFrame_silent ?_
      intro read
      split
      · exact only_bind (request_silent id) fun _ => ih
      · exact only_bind (accepting _) fun _ => only_pure
      · exact only_pure
  refine only_bind (request_silent id) ?_
  intro pipes
  apply only_refused
  refine only_bind (request_silent id) ?_
  intro observedHost
  apply only_refused
  refine only_bind (request_silent id) ?_
  intro opened
  apply only_refused
  refine only_bind (request_silent id) ?_
  intro started
  refine only_bind (awaiting _ fuel) ?_
  intro startup
  split
  · exact only_pure
  · exact only_pure
  · exact only_pure

/-! ## Runs -/

/-- An armed run that returned, in four parts. -/
structure ArmedRun where
  rounds : List WatchdogEvent
  accepted : List UInt64
  lastSequence : UInt64
  lastRenewal : Int
  (final rollback : List WatchdogEvent)
  summary : RollbackExecutionSummary
  after : RollbackRegistry
  report : List WatchdogEvent

/-- The last round carries an exact `Disarm` frame, fresher than any frame
accepted before it, and the rollback satisfied every action. -/
def ProperlyDisarmed (registered : Registered) (run : ArmedRun) : Prop :=
  ∃ frame,
    DisarmRequested registered.manifest.lease run.lastSequence run.lastRenewal frame run.final ∧
      (∀ sequence ∈ registered.lastSequence :: run.accepted, sequence < frame.sequence) ∧
      ∀ action ∈ registered.manifest.actions, Performed performAction action run.rollback

structure ArmedRun.Describes (run : ArmedRun) (registered : Registered)
    (events : List WatchdogEvent) (code : ExitCode) : Prop where
  parts : events = run.rounds ++ run.final ++ run.rollback ++ run.report
  undisturbed :
    Undisturbed registered.manifest.lease registered.lastSequence
      registered.lastRenewal run.rounds run.accepted run.lastSequence
      run.lastRenewal
  executed :
    Trace (executeRegisteredRollback { manifest := some registered.manifest })
      run.rollback (run.summary, run.after)
  reported : ∀ event ∈ run.report, Reporting event.request
  required : code = .recoveryRequired ↔ run.summary.recoveryRequired = true
  disarmed : ReportsDisarmed code events → ProperlyDisarmed registered run

theorem writeStatusFrame_reporting (sequence : UInt64) (status : WatchdogStatus) :
    Only Reporting (writeStatusFrame sequence status) := by
  unfold writeStatusFrame
  dsimp only
  apply only_refused
  refine only_bind (only_ask trivial) ?_
  intro prefixWritten
  split
  · exact only_ask trivial
  · exact only_pure

theorem report_reporting :
    Only Reporting (report sequence status code) := by
  refine only_bind (writeStatusFrame_reporting sequence status) ?_
  intro _
  exact only_bind (only_ask trivial) fun _ => only_pure

theorem report_returns {returned : ExitCode}
    (trace : Trace (report sequence status code) events returned) :
    returned = code := by
  obtain ⟨_, _, _, _, _, printed⟩ := trace_bind_iff.mp trace
  obtain ⟨_, _, _, _, _, last⟩ := trace_bind_iff.mp printed
  exact (trace_pure_iff.mp last).2.symm

/-- Both ends of the loop execute the plan and then report. -/
structure RolledBack (manifest : RollbackPlanManifest) (events : List WatchdogEvent)
    (code : ExitCode) (rollback report : List WatchdogEvent)
    (summary : RollbackExecutionSummary) (after : RollbackRegistry) :
    Prop where
  parts : events = rollback ++ report
  executed :
    Trace (executeRegisteredRollback { manifest := some manifest }) rollback (summary, after)
  reported : ∀ event ∈ report, Reporting event.request
  required : code = .recoveryRequired ↔ summary.recoveryRequired = true

theorem not_reportsDisarmed_report {returned : ExitCode}
    (armed : status.state ≠ .disarmed) (other : code ≠ .cleanDisarm)
    (trace : Trace (report sequence status code) events returned) :
    ¬ ReportsDisarmed returned events := by
  rintro (clean | ⟨event, member, announced⟩)
  · exact other ((report_returns trace).symm.trans clean)
  · exact only_trace (report_quiet armed sequence code) trace event member announced

theorem executeRollback_trace {reason : WatchdogTriggerReason}
    (trace :
      Trace (executeRollback { manifest := some manifest } statusSequence reason) events code) :
    ∃ rollback report summary after,
      RolledBack manifest events code rollback report summary after ∧
        ¬ ReportsDisarmed code report := by
  obtain ⟨rollback, reported, ⟨summary, after⟩, rfl, executed, continued⟩ := trace_bind_iff.mp trace
  dsimp only at continued
  rw [execute_manifest executed] at continued
  dsimp only at continued
  refine ⟨rollback, reported, summary, after, ?_⟩
  split at continued
  next required =>
    refine ⟨⟨rfl, executed, ?_, ?_⟩, ?_⟩
    · exact only_trace report_reporting continued
    · exact iff_of_true (report_returns continued) required
    refine not_reportsDisarmed_report ?_ ?_ continued
    · intro impossible
      cases impossible
    · intro impossible
      cases impossible
  next satisfied =>
    refine ⟨⟨rfl, executed, ?_, ?_⟩, ?_⟩
    · exact only_trace report_reporting continued
    · rw [report_returns continued]
      exact iff_of_false nofun satisfied
    refine not_reportsDisarmed_report ?_ ?_ continued
    · intro impossible
      cases impossible
    · intro impossible
      cases impossible

theorem disarmAfterRollback_trace
    (trace :
      Trace (disarmAfterRollback { manifest := some manifest } manifest statusSequence)
        events code) :
    ∃ rollback report summary after,
      RolledBack manifest events code rollback report summary after ∧
        (ReportsDisarmed code report → summary.recoveryRequired = false) := by
  obtain ⟨rollback, reported, ⟨summary, after⟩, rfl, executed, continued⟩ := trace_bind_iff.mp trace
  refine ⟨rollback, reported, summary, after, ?_⟩
  dsimp only at continued
  split at continued
  next required =>
    refine ⟨⟨rfl, executed, ?_, ?_⟩, ?_⟩
    · exact only_trace report_reporting continued
    · exact iff_of_true (report_returns continued) required
    intro announced
    refine absurd announced (not_reportsDisarmed_report ?_ ?_ continued)
    · intro impossible
      cases impossible
    · intro impossible
      cases impossible
  next satisfied =>
    refine ⟨⟨rfl, executed, ?_, ?_⟩, ?_⟩
    · exact only_trace report_reporting continued
    · rw [report_returns continued]
      exact iff_of_false nofun satisfied
    · intro _
      exact Bool.eq_false_iff.mpr satisfied

theorem reportsDisarmed_append {quiet report : List WatchdogEvent}
    (silent : ∀ event ∈ quiet, ¬ SaysDisarmed event.request)
    (reports : ReportsDisarmed code (quiet ++ report)) :
    ReportsDisarmed code report := by
  rcases reports with clean | ⟨event, member, announced⟩
  · exact Or.inl clean
  · rcases mem_append.mp member with earlier | later
    · exact absurd announced (silent event earlier)
    · exact Or.inr ⟨event, later, announced⟩

/-- A plan that was registered after validation. -/
structure Registered.Valid (registered : Registered) : Prop where
  plan : validateRollbackPlan registered.manifest = .ok ()
  registry : registered.registry = { manifest := some registered.manifest }

theorem returned_describes {final : List WatchdogEvent} (valid : registered.Valid)
    (round :
      Trace (watchRound registered.manifest.lease registered.lastSequence registered.lastRenewal)
        final decision)
    (rolled :
      (∃ statusSequence reason,
          decision = .rollback statusSequence reason ∧
            Trace (executeRollback registered.registry statusSequence reason) events code) ∨
        ∃ sequence,
          decision = .disarm sequence ∧
            Trace (disarmAfterRollback registered.registry registered.manifest (sequence + 1))
              events code) :
    ∃ run : ArmedRun, run.Describes registered (final ++ events) code := by
  have finalQuiet := only_trace (watchRound_silent _ _ _).quiet round
  rw [valid.registry] at rolled
  rcases rolled with
    ⟨statusSequence, reason, rfl, trace⟩ | ⟨sequence, rfl, trace⟩
  · obtain ⟨rollback, report, summary, after, rolledBack, silent⟩ := executeRollback_trace trace
    refine ⟨⟨[], [], registered.lastSequence, registered.lastRenewal,
      final, rollback, summary, after, report⟩, ?_⟩
    have rollbackQuiet := only_trace (executeRegisteredRollback_silent _).quiet rolledBack.executed
    constructor
    · rw [rolledBack.parts, nil_append, append_assoc]
    · exact .start _ _
    · exact rolledBack.executed
    · exact rolledBack.reported
    · exact rolledBack.required
    · rw [rolledBack.parts]
      intro reports
      exact absurd
        (reportsDisarmed_append rollbackQuiet (reportsDisarmed_append finalQuiet reports))
        silent
  · obtain ⟨rollback, report, summary, after, rolledBack, succeeded⟩ :=
      disarmAfterRollback_trace trace
    refine ⟨⟨[], [], registered.lastSequence, registered.lastRenewal,
      final, rollback, summary, after, report⟩, ?_⟩
    have rollbackQuiet := only_trace (executeRegisteredRollback_silent _).quiet rolledBack.executed
    constructor
    · rw [rolledBack.parts, nil_append, append_assoc]
    · exact .start _ _
    · exact rolledBack.executed
    · exact rolledBack.reported
    · exact rolledBack.required
    · rw [rolledBack.parts]
      intro reports
      have satisfied := succeeded
        (reportsDisarmed_append rollbackQuiet (reportsDisarmed_append finalQuiet reports))
      cases watchRound_decided round with
      | disarm frame _ requested =>
        refine ⟨frame, requested, ?_, ?_⟩
        · obtain ⟨_, _, _, _, ⟨_, _, _, fresh⟩, _⟩ := requested
          intro earlier member
          rw [mem_singleton.mp member]
          exact fresh
        · exact execute_performed valid.plan rolledBack.executed satisfied

theorem ArmedRun.Describes.idle
    (describes : run.Describes registered events code)
    (alive : Alive registered.manifest.lease registered.lastRenewal host)
    (silent : Trace tryReadFrame pipe .noFrame)
    (quiet : ∀ event ∈ host ++ pipe, ¬ SaysDisarmed event.request) :
    ArmedRun.Describes
      { run with rounds := host ++ pipe ++ ⟨.sleepFor kPollMilliseconds, ()⟩ :: run.rounds }
      registered
      (host ++ pipe ++ ⟨.sleepFor kPollMilliseconds, ()⟩ :: events)
      code where
  parts := by
    rw [describes.parts]
    simp
  undisturbed := .idle _ _ _ _ host pipe run.rounds run.accepted alive silent describes.undisturbed
  executed := describes.executed
  reported := describes.reported
  required := describes.required
  disarmed := by
    intro reports
    apply describes.disarmed
    have afterSleep := reportsDisarmed_append quiet reports
    refine reportsDisarmed_append ?_
      (show ReportsDisarmed code ([⟨.sleepFor kPollMilliseconds, ()⟩] ++ events) from afterSleep)
    intro event member
    rw [mem_singleton.mp member]
    exact id

def Registered.renew (registered : Registered) (sequence : UInt64) (renewal : Int) : Registered :=
  { registered with lastSequence := sequence, lastRenewal := renewal }

theorem ArmedRun.Describes.renewed {renewal : Int}
    (describes : run.Describes (registered.renew frame.sequence renewal) events code)
    (alive : Alive registered.manifest.lease registered.lastRenewal host)
    (received : Received registered.lastSequence frame pipe)
    (exact : decodeLeaseRenewal frame = .ok registered.manifest.lease)
    (quiet : ∀ event ∈ host ++ pipe ++ [⟨.steadyClockNow, renewal⟩], ¬ SaysDisarmed event.request) :
    ArmedRun.Describes
      { run with
        rounds := host ++ pipe ++ ⟨.steadyClockNow, renewal⟩ :: run.rounds
        accepted := frame.sequence :: run.accepted }
      registered
      (host ++ pipe ++ ⟨.steadyClockNow, renewal⟩ :: events) code where
  parts := by
    rw [describes.parts]
    simp
  undisturbed := .renewed _ _ _ _ _ host pipe run.rounds run.accepted frame alive
    received exact describes.undisturbed
  executed := describes.executed
  reported := describes.reported
  required := describes.required
  disarmed := by
    intro reports
    rw [append_cons] at reports
    obtain ⟨disarm, requested, fresh, performed⟩ :=
      describes.disarmed (reportsDisarmed_append quiet reports)
    refine ⟨disarm, requested, ?_, performed⟩
    obtain ⟨_, _, _, later⟩ := received
    intro sequence member
    rcases mem_cons.mp member with rfl | accepted
    · exact UInt64.lt_trans later (fresh _ mem_cons_self)
    · exact fresh sequence accepted

/-- What the events of the armed loop show, whether it has returned or is
still watching. -/
def WatchOutcome (registered : Registered) (events : List WatchdogEvent) : Option ExitCode → Prop
  | none =>
    ∃ accepted lastSequence lastRenewal,
      Undisturbed registered.manifest.lease registered.lastSequence
        registered.lastRenewal events accepted lastSequence lastRenewal
  | some code => ∃ run : ArmedRun, run.Describes registered events code

theorem watchLoop_outcome {result : Option ExitCode} (valid : registered.Valid)
    (trace :
      Trace
        (watchLoop registered.registry registered.manifest fuel
          registered.lastSequence registered.lastRenewal)
        events result) :
    WatchOutcome registered events result := by
  induction fuel generalizing registered events with
  | zero =>
    cases trace
    exact ⟨[], _, _, .start _ _⟩
  | succ fuel ih =>
    obtain ⟨round, rest, decision, rfl, watched, continued⟩ := trace_bind_iff.mp trace
    have quiet := only_trace (watchRound_silent _ _ _).quiet watched
    cases decision with
    | poll =>
      obtain ⟨slept, events, _, rfl, sleeping, looped⟩ := trace_bind_iff.mp continued
      rw [trace_request_iff.mp sleeping]
      have outcome := ih valid looped
      cases watchRound_decided watched with
      | poll host pipe alive silent =>
        cases result with
        | none =>
          obtain ⟨accepted, _, _, undisturbed⟩ := outcome
          exact ⟨accepted, _, _, .idle _ _ _ _ host pipe events accepted alive silent undisturbed⟩
        | some code =>
          obtain ⟨run, describes⟩ := outcome
          exact ⟨_, describes.idle alive silent quiet⟩
    | renewed sequence renewal =>
      have outcome : WatchOutcome (registered.renew sequence renewal) rest result :=
        ih ⟨valid.plan, valid.registry⟩ continued
      cases watchRound_decided watched with
      | renewed host pipe frame renewal alive received exact =>
        rw [append_assoc]
        cases result with
        | none =>
          obtain ⟨accepted, _, _, undisturbed⟩ := outcome
          exact ⟨frame.sequence :: accepted, _, _,
            .renewed _ _ _ _ _ host pipe rest accepted frame alive received exact undisturbed⟩
        | some code =>
          obtain ⟨run, describes⟩ := outcome
          exact ⟨_, describes.renewed alive received exact quiet⟩
    | rollback statusSequence reason =>
      obtain ⟨events, last, code, rfl, executed, returned⟩ := trace_bind_iff.mp continued
      cases returned
      rw [append_nil]
      exact returned_describes valid watched (Or.inl ⟨statusSequence, reason, rfl, executed⟩)
    | disarm sequence =>
      obtain ⟨events, last, code, rfl, executed, returned⟩ := trace_bind_iff.mp continued
      cases returned
      rw [append_nil]
      exact returned_describes valid watched (Or.inr ⟨sequence, rfl, executed⟩)

/-! ## The startup -/

theorem decodeRegisterPlan_valid (decoded : decodeRegisterPlan frame = .ok manifest) :
    validateRollbackPlan manifest = .ok () := by
  unfold decodeRegisterPlan at decoded
  obtain ⟨_, decoded⟩ := not_taken decoded nofun
  split at decoded
  · cases decoded
  split at decoded
  · cases decoded
  split at decoded
  · cases decoded
  split at decoded
  · cases decoded
  split at decoded
  · cases decoded
  split at decoded
  · cases decoded
  dsimp only at decoded
  split at decoded
  · cases decoded
  next valid =>
    rw [← Except.ok.inj decoded]
    exact valid

theorem acceptPlan_valid {bytes : List UInt8}
    (trace : Trace (acceptPlan options bytes) events (some registered)) :
    registered.Valid := by
  unfold acceptPlan at trace
  split at trace
  · cases trace
  split at trace
  · cases trace
  split at trace
  · cases trace
  next manifest decoded =>
    have plan := decodeRegisterPlan_valid decoded
    split at trace
    · cases trace
    obtain ⟨_, _, _, _, _, continued⟩ := trace_bind_iff.mp trace
    split at continued
    · cases continued
    have registers : registerPlan {} manifest = .ok { manifest := some manifest } := by
      unfold registerPlan
      rw [plan]
    rw [registers] at continued
    obtain ⟨_, _, _, _, _, returned⟩ := trace_bind_iff.mp continued
    cases returned
    exact ⟨plan, rfl⟩

theorem awaitPlan_valid {deadline : Int}
    (trace : Trace (awaitPlan options deadline fuel) events (some (some registered))) :
    registered.Valid := by
  induction fuel generalizing events with
  | zero => cases trace
  | succ fuel ih =>
    obtain ⟨_, _, _, _, _, waited⟩ := trace_bind_iff.mp trace
    split at waited
    · cases waited
    obtain ⟨_, _, _, _, _, timed⟩ := trace_bind_iff.mp waited
    split at timed
    · cases timed
    obtain ⟨_, _, _, _, _, read⟩ := trace_bind_iff.mp timed
    split at read
    · obtain ⟨_, _, _, _, _, again⟩ := trace_bind_iff.mp read
      exact ih again
    · obtain ⟨_, _, _, _, accepted, returned⟩ := trace_bind_iff.mp read
      cases returned
      exact acceptPlan_valid accepted
    · cases read

theorem startUp_valid (trace : Trace (startUp fuel options) events (some (.ok registered))) :
    registered.Valid := by
  obtain ⟨_, _, _, _, _, piped⟩ := trace_bind_iff.mp trace
  split at piped
  · cases piped
  obtain ⟨_, _, _, _, _, observed⟩ := trace_bind_iff.mp piped
  split at observed
  · cases observed
  obtain ⟨_, _, _, _, _, opened⟩ := trace_bind_iff.mp observed
  split at opened
  · cases opened
  obtain ⟨_, _, _, _, _, started⟩ := trace_bind_iff.mp opened
  obtain ⟨_, _, _, _, awaited, returned⟩ := trace_bind_iff.mp started
  split at returned
  · cases returned
  · cases returned
  · cases returned
    exact awaitPlan_valid awaited

/-- The run ended, or ran out of fuel, before a plan was registered. -/
def NeverArmed (fuel : Nat) (options : Options) (events : List WatchdogEvent)
    (result : Option ExitCode) : Prop :=
  (result = none ∧ Trace (startUp fuel options) events none) ∨
    ∃ code, result = some code ∧ Trace (startUp fuel options) events (some (.error code))

/-- The run registered a valid plan, and what it then watched is described
by `WatchOutcome`.  Nothing before that reports a clean disarm. -/
structure ArmedWith (fuel : Nat) (options : Options) (registered : Registered)
    (startup greeting watched : List WatchdogEvent)
    (result : Option ExitCode) : Prop where
  started : Trace (startUp fuel options) startup (some (.ok registered))
  valid : registered.Valid
  greeted :
    ∃ written,
      Trace (writeStatusFrame (registered.lastSequence + 1) (armedStatus registered.manifest))
        greeting written
  silent : ∀ event ∈ startup ++ greeting, ¬ SaysDisarmed event.request
  outcome : WatchOutcome registered watched result

/-- Every run of the watchdog, for any frames, pipe errors, host states and
clock readings. -/
theorem runWatchdog_guarantee {fuel : Nat} {options : Options} {events : List WatchdogEvent}
    {result : Option ExitCode}
    (trace : Trace (runWatchdog fuel options) events result) :
    NeverArmed fuel options events result ∨
      ∃ registered startup greeting watched,
        events = startup ++ (greeting ++ watched) ∧
          ArmedWith fuel options registered startup greeting watched result := by
  obtain ⟨startup, armed, started, rfl, begun, continued⟩ := trace_bind_iff.mp trace
  cases started with
  | none =>
    cases continued
    rw [append_nil]
    exact Or.inl (Or.inl ⟨rfl, begun⟩)
  | some outcome =>
    cases outcome with
    | error code =>
      cases continued
      rw [append_nil]
      exact Or.inl (Or.inr ⟨code, rfl, begun⟩)
    | ok registered =>
      obtain ⟨greeting, watched, written, rfl, greeted, looped⟩ := trace_bind_iff.mp continued
      have valid := startUp_valid begun
      refine Or.inr ⟨registered, startup, greeting, watched, rfl,
        begun, valid, ⟨written, greeted⟩, ?_,
        watchLoop_outcome valid looped⟩
      have greetingQuiet :
          Quiet
            (writeStatusFrame (registered.lastSequence + 1) (armedStatus registered.manifest)) := by
        apply writeStatusFrame_quiet
        intro impossible
        cases impossible
      intro event member
      rcases mem_append.mp member with early | late
      · exact only_trace (startUp_silent fuel options).quiet begun event early
      · exact only_trace greetingQuiet greeted event late

section CleanDisarm

def watchedHost : Options where
  host := ⟨31, 1000⟩
  sessionId := Vector.replicate 16 7

def oneProcessPlan : RollbackPlanManifest where
  lease :=
    { sessionId := Vector.replicate 16 7, generation := 1, timeoutMilliseconds := 1000 }
  rollbackTimeoutMilliseconds := 500
  actions :=
    [{ actionId := 1, activationOrdinal := 1, timeoutMilliseconds := 100, generation := 1
       process := ⟨42, 2000⟩ }]

/-- The plan, then one renewal, then the disarm. -/
def sentFrame : Nat → List UInt8
  | 0 => encodeRegisterPlan 1 oneProcessPlan
  | 1 => encodeLeaseRenewal 2 oneProcessPlan.lease
  | _ => encodeDisarm 3 oneProcessPlan.lease

def sentBytes (index : Nat) : List UInt8 :=
  writeU32 (UInt32.ofNat (sentFrame index).length) ++ sentFrame index

/-- The state counts the frames that were read. -/
def disarmingHost (frames : Nat) (call : WatchdogCall) : watchdogInterface.Answer call × Nat :=
  match call with
  | .handlesArePipes => (true, frames)
  | .queryProcessIdentity _ => (some watchedHost.host, frames)
  | .openProcess _ => (true, frames)
  | .getCurrentProcessId => ((77 : UInt32), frames)
  | .waitForHost => ((258 : UInt32), frames)
  | .steadyClockNow => ((0 : Int), frames)
  | .peekNamedPipe =>
    (.ok ((sentBytes frames).take 4, UInt32.ofNat (sentBytes frames).length), frames)
  | .readFile _ => (.ok (sentBytes frames), frames + 1)
  | .sleepFor _ => ((), frames)
  | .executeAction action _ => (makeOutcome action .success, frames)
  | .writeAll _ => (true, frames)
  | .printStatus _ => ((), frames)

def disarmedRun : Option ExitCode × List WatchdogEvent :=
  record disarmingHost (runWatchdog 3 watchedHost) 0

theorem disarmedRun_code : disarmedRun.1 = some .cleanDisarm := by
  decide

theorem disarmedRun_trace : Trace (runWatchdog 3 watchedHost) disarmedRun.2 disarmedRun.1 := by
  unfold disarmedRun
  exact record_trace _ _ _

theorem disarmed_run_guarantee :
    disarmedRun.1 = some .cleanDisarm ∧
      (NeverArmed 3 watchedHost disarmedRun.2 disarmedRun.1 ∨
        ∃ registered startup greeting watched,
          disarmedRun.2 = startup ++ (greeting ++ watched) ∧
            ArmedWith 3 watchedHost registered startup greeting watched disarmedRun.1) :=
  ⟨disarmedRun_code, runWatchdog_guarantee disarmedRun_trace⟩

end CleanDisarm

end HydraSeat.Watchdog
