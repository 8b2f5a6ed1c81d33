import HydraSeat.Watchdog.Guarantee
import HydraSeat.Watchdog.PlanCodec

/-!
# The status stream of the watchdog

A status takes the number after the newest frame that was read.  The `Armed`
status and the status at the end of a run are the only ones, so their numbers
differ only when a newer frame came between them, and a number past the limit
wraps to zero, which no frame may carry.
-/

namespace HydraSeat.Watchdog

open Foundation
open Foundation.Command List RollbackRegistry WatchdogStatus

variable {lease : WatchdogLease} {frame : DecodedWatchdogFrame} {decision : Decision}
  {events : List WatchdogEvent} {manifest : RollbackPlanManifest} {registered : Registered}
  {fuel : Nat} {options : Options} {status : WatchdogStatus} {sequence last : UInt64}

def Reads : WatchdogCall → Prop
  | .readFile _ => True
  | _ => False

def Writes : WatchdogCall → Prop
  | .writeAll _ => True
  | _ => False

/-- The newest sequence number after an answer of the control pipe. -/
def readSequence (last : UInt64) : WatchdogEvent → UInt64
  | ⟨.readFile count, .ok combined⟩ =>
    if combined.length = count then
      match decodeWatchdogFrame (combined.drop 4) with
      | .ok frame => if frame.sequence ≤ last then last else frame.sequence
      | .error _ => last
    else last
  | _ => last

def newestSequence (last : UInt64) (events : List WatchdogEvent) : UInt64 :=
  events.foldl readSequence last

/-- The statuses that were sent, with their numbers. -/
inductive StatusStream : List WatchdogEvent → List (UInt64 × WatchdogStatus) → Prop
  | done : StatusStream [] []
  | silent {event : WatchdogEvent} {later : List WatchdogEvent}
      {statuses : List (UInt64 × WatchdogStatus)}
      (quiet : ¬ Writes event.request) (rest : StatusStream later statuses) :
      StatusStream (event :: later) statuses
  | sent {written later : List WatchdogEvent} {sequence : UInt64} {status : WatchdogStatus}
      {complete : Bool} {statuses : List (UInt64 × WatchdogStatus)}
      (trace : Trace (writeStatusFrame sequence status) written complete)
      (rest : StatusStream later statuses) :
      StatusStream (written ++ later) ((sequence, status) :: statuses)

/-- The status is sent as a frame that the decoders accept. -/
def Accepted (sent : UInt64 × WatchdogStatus) : Prop :=
  ∃ frame,
    decodeWatchdogFrame (encodeWatchdogStatus sent.1 sent.2) = .ok frame ∧
      frame.sequence = sent.1 ∧ decodeWatchdogStatus frame = .ok sent.2

structure SoundStream (statuses : List (UInt64 × WatchdogStatus)) : Prop where
  accepted : ∀ sent ∈ statuses, Accepted sent
  increasing : statuses.Pairwise fun earlier later => earlier.1 < later.1

structure LawfulStatus (status : WatchdogStatus) : Prop where
  session : isZeroSessionId status.sessionId = false
  generation : status.generation ≠ 0
  completed : status.completedActions ≤ status.totalActions

theorem decodeWatchdogStatus_wire (lawful : LawfulStatus status) (sequence : UInt64) :
    decodeWatchdogStatus ⟨.status, sequence, writeWireStatus status.wire⟩ = .ok status := by
  have length : (writeWireStatus status.wire).length = kStatusPayloadBytes := by
    simp [writeWireStatus, kStatusPayloadBytes]
  have read := readWireStatus_reads.read_write_nil status.wire
  have state : WatchdogRunState.ofValue? status.wire.stateValue = some status.state := by
    cases h : status.state <;> simp [wire, h] <;> rfl
  have reason : WatchdogTriggerReason.ofValue? status.wire.reasonValue = some status.reason := by
    cases h : status.reason <;> simp [wire, h] <;> rfl
  simp [decodeWatchdogStatus, length, read, state, reason]
  simp [wire, lawful.session, lawful.generation, lawful.completed]

/-- A lawful status is lost exactly when its number is zero. -/
theorem accepted_iff (lawful : LawfulStatus status) :
    Accepted (sequence, status) ↔ sequence ≠ 0 := by
  constructor
  · rintro ⟨frame, decoded, same, _⟩ rfl
    exact ((decodeWatchdogFrame_spells _ _).mp decoded).1.1 same
  intro numbered
  have fits : FrameFits ⟨.status, sequence, writeWireStatus status.wire⟩ :=
    ⟨numbered, by simp [writeWireStatus, kWatchdogMaxPayloadBytes]⟩
  have encoded :
      encodeWatchdogStatus sequence status =
        writeFrame ⟨.status, sequence, writeWireStatus status.wire⟩ := by
    rw [← encodeWatchdogFrame_eq fits, encodeWatchdogStatus, if_neg]
    simp [lawful.session, lawful.generation, lawful.completed]
  exact ⟨_, (decodeWatchdogFrame_spells _ _).mpr ⟨fits, encoded⟩, rfl,
    decodeWatchdogStatus_wire lawful sequence⟩

section Outcomes

open RollbackRegistry

variable {interface : Interface} {now : Command interface Int}
  {perform : RollbackActionDescriptor → UInt32 → Command interface RollbackActionOutcome}

theorem executeActions_outcomes {totalBudget started : Int} {progress final : Progress}
    {actions : List RollbackActionDescriptor} {calls : List (Event interface)}
    (trace : Trace (executeActions now perform totalBudget started progress actions) calls final) :
    final.summary.outcomes.length = progress.summary.outcomes.length + actions.length := by
  induction actions generalizing progress calls with
  | nil =>
    rw [(trace_pure_iff.mp trace).2]
    rfl
  | cons action actions ih =>
    obtain ⟨_, _, next, _, executed, rest⟩ := trace_bind_iff.mp trace
    have one : next.summary.outcomes.length = progress.summary.outcomes.length + 1 := by
      unfold executeAction at executed
      split at executed
      · cases executed
        exact length_append
      obtain ⟨_, _, _, _, _, timed⟩ := trace_bind_iff.mp executed
      dsimp only at timed
      split_ifs at timed
      · cases timed
        exact length_append
      · cases timed
        exact length_append
      obtain ⟨_, _, _, _, _, performed⟩ := trace_bind_iff.mp timed
      split at performed
      · cases performed
        exact length_append
      · cases performed
        exact length_append
    rw [ih rest, one, length_cons]
    omega

end Outcomes

theorem summaryStatus_lawful {summary : RollbackExecutionSummary} {after : RollbackRegistry}
    (valid : ValidPlan manifest)
    (trace :
      Trace (executeRegisteredRollback { manifest := some manifest }) events (summary, after))
    (state : WatchdogRunState) (reason : WatchdogTriggerReason) :
    LawfulStatus (summaryStatus manifest summary state reason) where
  session := valid.session
  generation := valid.generation
  completed := by
    obtain ⟨_, _, started, _, _, continued⟩ := trace_bind_iff.mp trace
    obtain ⟨_, _, progress, _, executed, returned⟩ := trace_bind_iff.mp continued
    have outcomes : summary.outcomes.length = manifest.actions.length := by
      rw [← congrArg (·.1.outcomes.length) (trace_pure_iff.mp returned).2]
      dsimp only
      rw [executeActions_outcomes executed, ordered, length_insertionSort]
      exact Nat.zero_add _
    have completed := countP_le_length (p := fun outcome => satisfied outcome.result)
      (l := summary.outcomes)
    have few : manifest.actions.length ≤ 32 := valid.actionCount
    have fits : manifest.actions.length < UInt16.size := lt_of_le_of_lt few (by decide)
    rw [outcomes] at completed
    rw [UInt16.le_iff_toNat_le, summaryStatus, UInt16.toNat_ofNat_of_lt' fits,
      UInt16.toNat_ofNat_of_lt' (lt_of_le_of_lt completed fits)]
    exact completed

theorem armedStatus_lawful (valid : ValidPlan manifest) : LawfulStatus (armedStatus manifest) :=
  ⟨valid.session, valid.generation, UInt16.zero_le⟩

theorem newestSequence_of_unread (unread : ∀ event ∈ events, ¬ Reads event.request) :
    newestSequence last events = last := by
  induction events with
  | nil => rfl
  | cons event events ih =>
    have same : readSequence last event = last := by
      unfold readSequence
      split
      · exact absurd trivial (unread _ mem_cons_self)
      · rfl
    rw [newestSequence, foldl_cons, same]
    exact ih fun other member => unread other (mem_cons_of_mem _ member)

def PipeRead.newest (last : UInt64) : PipeRead → UInt64
  | .frame bytes =>
    match decodeWatchdogFrame bytes with
    | .ok frame => if frame.sequence ≤ last then last else frame.sequence
    | .error _ => last
  | _ => last

theorem tryReadFrame_newest {read : PipeRead} (trace : Trace tryReadFrame events read) :
    newestSequence last events = read.newest last := by
  obtain ⟨peeked, _, answer, rfl, peek, continued⟩ := trace_bind_iff.mp trace
  rw [trace_request_iff.mp peek]
  split at continued
  · split at continued
    · cases continued
      rfl
    · cases continued
      rfl
  · dsimp only at continued
    split_ifs at continued
    · cases continued
      rfl
    · cases continued
      rfl
    · cases continued
      rfl
    · cases continued
      rfl
    · obtain ⟨_, _, combined, rfl, whole, returned⟩ := trace_bind_iff.mp continued
      rw [trace_request_iff.mp whole]
      split at returned
      · cases returned
        rfl
      split at returned
      next wrong =>
        cases returned
        exact if_neg wrong
      next right =>
        cases returned
        exact if_pos (not_not.mp right)

/-- The number that a round passes on. -/
def Decision.Follows (last newest : UInt64) : Decision → Prop
  | .poll => newest = last
  | .renewed sequence _ => sequence = newest
  | .rollback statusSequence _ => statusSequence = newest + 1
  | .disarm sequence => sequence = newest

theorem decideFrame_follows (trace : Trace (decideFrame lease frame) events decision) :
    decision.Follows last (newestSequence frame.sequence events) := by
  have concluded {concluded : Decision} (trace : Trace (pure concluded) events decision)
      (follows : concluded.Follows last frame.sequence) :
      decision.Follows last (newestSequence frame.sequence events) := by
    cases trace
    exact follows
  unfold decideFrame at trace
  split at trace
  · split at trace
    · split at trace
      · exact concluded trace rfl
      · obtain ⟨_, _, renewal, rfl, clock, returned⟩ := trace_bind_iff.mp trace
        cases returned
        rw [trace_request_iff.mp clock]
        rfl
    · exact concluded trace rfl
  · split at trace
    · split at trace
      · exact concluded trace rfl
      · exact concluded trace rfl
    · exact concluded trace rfl
  · exact concluded trace rfl
  · exact concluded trace rfl

theorem newestSequence_append (last : UInt64) (first second : List WatchdogEvent) :
    newestSequence last (first ++ second) = newestSequence (newestSequence last first) second :=
  foldl_append

theorem watchRound_follows {lastRenewal : Int}
    (trace : Trace (watchRound lease last lastRenewal) events decision) :
    decision.Follows last (newestSequence last events) := by
  have concluded {concluded : Decision} {waited decided : List WatchdogEvent}
      (unread : newestSequence last waited = last)
      (trace : Trace (pure concluded) decided decision) (follows : concluded.Follows last last) :
      decision.Follows last (newestSequence last (waited ++ decided)) := by
    cases trace
    rwa [append_nil, unread]
  obtain ⟨waited, _, hostState, rfl, wait, checked⟩ := trace_bind_iff.mp trace
  obtain rfl := trace_request_iff.mp wait
  split at checked
  · exact concluded rfl checked rfl
  split at checked
  · exact concluded rfl checked rfl
  obtain ⟨clock, _, now, rfl, reading, timed⟩ := trace_bind_iff.mp checked
  obtain rfl := trace_request_iff.mp reading
  rw [← append_assoc]
  split at timed
  · exact concluded rfl timed rfl
  obtain ⟨piped, decided, read, rfl, piping, deciding⟩ := trace_bind_iff.mp timed
  have newest : newestSequence last piped = read.newest last := tryReadFrame_newest piping
  rw [← append_assoc]
  cases read with
  | noFrame | closed | error | protocolError => exact concluded newest deciding rfl
  | frame bytes =>
    rw [decideRead] at deciding
    cases decoded : decodeWatchdogFrame bytes with
    | error reason =>
      simp only [PipeRead.newest, decoded] at newest deciding
      exact concluded newest deciding rfl
    | ok frame =>
      simp only [PipeRead.newest, decoded] at newest deciding
      split at deciding
      next stale =>
        rw [if_pos stale] at newest
        exact concluded newest deciding rfl
      next fresh =>
        rw [if_neg fresh] at newest
        rw [newestSequence_append]
        exact newest ▸ decideFrame_follows deciding

theorem StatusStream.later {quiet later : List WatchdogEvent}
    {statuses : List (UInt64 × WatchdogStatus)}
    (silent : ∀ event ∈ quiet, ¬ Writes event.request)
    (stream : StatusStream later statuses) :
    StatusStream (quiet ++ later) statuses := by
  induction quiet with
  | nil => exact stream
  | cons event quiet ih =>
    apply StatusStream.silent (silent event mem_cons_self)
    exact ih fun other member => silent other (mem_cons_of_mem _ member)

theorem Silent.unwritten {α : Type} {program : Program α} {value : α} (silent : Silent program)
    (trace : Trace program events value) : ∀ event ∈ events, ¬ Writes event.request := by
  intro event member writes
  apply only_trace silent trace event member
  cases h : event.request <;> rw [h] at writes <;> trivial

theorem unread_of_reporting {α : Type} {program : Program α} {value : α}
    (reporting : Only Reporting program) (trace : Trace program events value) :
    ∀ event ∈ events, ¬ Reads event.request := by
  intro event member reads
  have reported := only_trace reporting trace event member
  cases h : event.request <;> rw [h] at reads reported <;> trivial

variable {result : RollbackExecutionSummary × RollbackRegistry}

theorem executeRegisteredRollback_unread {registry : RollbackRegistry}
    (trace : Trace (executeRegisteredRollback registry) events result) :
    ∀ event ∈ events, ¬ Reads event.request := by
  have only : Only (fun call => ¬ Reads call) (executeRegisteredRollback registry) :=
    execute_only (only_ask id) (fun _ _ => only_ask id) registry
  exact only_trace only trace

variable {code : ExitCode}

theorem report_stream {returned : ExitCode}
    (trace : Trace (report sequence status code) events returned) :
    StatusStream events [(sequence, status)] := by
  obtain ⟨written, _, complete, rfl, sending, printed⟩ := trace_bind_iff.mp trace
  obtain ⟨_, _, _, rfl, printing, returned⟩ := trace_bind_iff.mp printed
  cases returned
  rw [trace_request_iff.mp printing]
  exact .sent sending (.silent id .done)

/-- What the end of a run sends. -/
def Concludes (number : UInt64) (events : List WatchdogEvent) : Prop :=
  ∃ status,
    LawfulStatus status ∧ StatusStream events [(number, status)] ∧
      ∀ event ∈ events, ¬ Reads event.request

theorem Concludes.report {executed reported : List WatchdogEvent} {returned : ExitCode}
    {registry : RollbackRegistry}
    (execution : Trace (executeRegisteredRollback registry) executed result)
    (lawful : LawfulStatus status)
    (trace : Trace (report sequence status code) reported returned) :
    Concludes sequence (executed ++ reported) := by
  have unwritten := (executeRegisteredRollback_silent _).unwritten execution
  refine ⟨status, lawful, (report_stream trace).later unwritten, fun event member => ?_⟩
  rcases mem_append.mp member with early | late
  · exact executeRegisteredRollback_unread execution event early
  · exact unread_of_reporting report_reporting trace event late

theorem executeRollback_concludes {reason : WatchdogTriggerReason}
    (valid : ValidPlan manifest)
    (trace : Trace (executeRollback { manifest := some manifest } sequence reason) events code) :
    Concludes sequence events := by
  obtain ⟨executed, reported, ⟨summary, after⟩, rfl, execution, continued⟩ :=
    trace_bind_iff.mp trace
  dsimp only at continued
  rw [execute_manifest execution] at continued
  dsimp only at continued
  split at continued
  · exact .report execution (summaryStatus_lawful valid execution _ _) continued
  · exact .report execution (summaryStatus_lawful valid execution _ _) continued

theorem disarmAfterRollback_concludes (valid : ValidPlan manifest)
    (trace :
      Trace (disarmAfterRollback { manifest := some manifest } manifest sequence) events code) :
    Concludes sequence events := by
  obtain ⟨executed, reported, ⟨summary, after⟩, rfl, execution, continued⟩ :=
    trace_bind_iff.mp trace
  dsimp only at continued
  split at continued
  · exact .report execution (summaryStatus_lawful valid execution _ _) continued
  · exact .report execution (summaryStatus_lawful valid execution _ _) continued

/-- The statuses after the greeting: none while the run goes on, and one with
the number after the newest frame when it has returned. -/
def Continues (last : UInt64) (events : List WatchdogEvent) (result : Option ExitCode)
    (statuses : List (UInt64 × WatchdogStatus)) : Prop :=
  (∀ sent ∈ statuses, LawfulStatus sent.2) ∧
    statuses.map Prod.fst = if result = none then [] else [newestSequence last events + 1]

theorem Concludes.continues {quiet later : List WatchdogEvent}
    (concludes : Concludes sequence later)
    (silent : ∀ event ∈ quiet, ¬ Writes event.request)
    (follows : sequence = newestSequence last quiet + 1) :
    ∃ statuses,
      StatusStream (quiet ++ later) statuses ∧
        Continues last (quiet ++ later) (some code) statuses := by
  obtain ⟨status, lawful, stream, unread⟩ := concludes
  refine ⟨_, stream.later silent, ?_, ?_⟩
  · intro sent member
    rw [mem_singleton.mp member]
    exact lawful
  · rw [newestSequence_append, newestSequence_of_unread unread, follows]
    rfl

variable {result : Option ExitCode}

theorem watchLoop_statuses {lastRenewal : Int}
    (valid : ValidPlan manifest)
    (trace :
      Trace (watchLoop { manifest := some manifest } manifest fuel last lastRenewal)
        events result) :
    ∃ statuses, StatusStream events statuses ∧ Continues last events result statuses := by
  induction fuel generalizing last lastRenewal events with
  | zero =>
    cases trace
    exact ⟨[], .done, nofun, rfl⟩
  | succ fuel ih =>
    obtain ⟨round, rest, decision, rfl, watched, continued⟩ := trace_bind_iff.mp trace
    have quiet := (watchRound_silent _ _ _).unwritten watched
    have follows := watchRound_follows watched
    cases decision with
    | poll =>
      obtain ⟨slept, _, _, rfl, sleeping, looped⟩ := trace_bind_iff.mp continued
      obtain ⟨statuses, stream, lawful, numbers⟩ := ih looped
      obtain rfl := trace_request_iff.mp sleeping
      refine ⟨statuses, StatusStream.later quiet (.silent id stream), lawful, ?_⟩
      rw [numbers, newestSequence_append, follows]
      rfl
    | renewed sequence renewal =>
      obtain ⟨statuses, stream, lawful, numbers⟩ := ih continued
      refine ⟨statuses, stream.later quiet, lawful, ?_⟩
      rw [numbers, newestSequence_append, ← follows]
    | rollback statusSequence reason =>
      obtain ⟨_, _, code, rfl, executed, returned⟩ := trace_bind_iff.mp continued
      cases returned
      rw [append_nil]
      exact (executeRollback_concludes valid executed).continues quiet follows
    | disarm sequence =>
      obtain ⟨_, _, code, rfl, executed, returned⟩ := trace_bind_iff.mp continued
      cases returned
      rw [append_nil]
      exact (disarmAfterRollback_concludes valid executed).continues quiet
        (congrArg (· + 1) follows)

def Registered.greeting (registered : Registered) : UInt64 × WatchdogStatus :=
  (registered.lastSequence + 1, armedStatus registered.manifest)

theorem runArmed_statuses (valid : registered.Valid)
    (trace : Trace (runArmed fuel registered) events result) :
    ∃ final,
      StatusStream events (registered.greeting :: final) ∧
        Continues registered.lastSequence events result final := by
  obtain ⟨greeting, watched, complete, rfl, greeted, looped⟩ := trace_bind_iff.mp trace
  rw [valid.registry] at looped
  obtain ⟨final, stream, lawful, numbers⟩ := watchLoop_statuses (validPlan valid.plan) looped
  have unread := unread_of_reporting (writeStatusFrame_reporting _ _) greeted
  refine ⟨final, .sent greeted stream, lawful, ?_⟩
  rw [numbers, newestSequence_append, newestSequence_of_unread unread]

def maximumSequence : UInt64 := 0xFFFFFFFFFFFFFFFF

theorem toNat_add_one_of_ne_maximum (room : sequence ≠ maximumSequence) :
    (sequence + 1).toNat = sequence.toNat + 1 := by
  rw [ne_eq, ← UInt64.toNat_inj] at room
  have below : sequence.toNat ≠ 18446744073709551615 := room
  have small := sequence.toNat_lt
  rw [UInt64.toNat_add, UInt64.toNat_one]
  omega

theorem add_one_ne_zero_iff : sequence + 1 ≠ 0 ↔ sequence ≠ maximumSequence := by
  constructor
  · rintro numbered rfl
    exact numbered rfl
  · intro room wrapped
    have next := toNat_add_one_of_ne_maximum room
    rw [wrapped] at next
    cases next

/-- No number wraps and, once the run has returned, a frame newer than the
plan was read. -/
def NewlyNumbered (first : UInt64) (events : List WatchdogEvent) (result : Option ExitCode) :
    Prop :=
  first ≠ maximumSequence ∧
    (result ≠ none →
      first < newestSequence first events ∧ newestSequence first events ≠ maximumSequence)

theorem soundStream_iff {final : List (UInt64 × WatchdogStatus)}
    (valid : registered.Valid)
    (continues : Continues registered.lastSequence events result final) :
    SoundStream (registered.greeting :: final) ↔
      NewlyNumbered registered.lastSequence events result := by
  obtain ⟨lawful, numbers⟩ := continues
  have greeted : Accepted registered.greeting ↔ registered.lastSequence ≠ maximumSequence :=
    (accepted_iff (armedStatus_lawful (validPlan valid.plan))).trans add_one_ne_zero_iff
  by_cases running : result = none
  · rw [if_pos running, map_eq_nil_iff] at numbers
    rw [numbers, NewlyNumbered, ← greeted]
    constructor
    · intro sound
      exact ⟨sound.accepted _ mem_cons_self, fun returned => absurd running returned⟩
    · intro sound
      refine ⟨fun sent member => ?_, pairwise_singleton _ _⟩
      rw [mem_singleton.mp member]
      exact sound.1
  · rw [if_neg running] at numbers
    obtain ⟨sent, rfl, number⟩ := map_eq_singleton_iff.mp numbers
    have ended :
        Accepted sent ↔ newestSequence registered.lastSequence events ≠ maximumSequence := by
      rw [← add_one_ne_zero_iff, ← number]
      exact accepted_iff (lawful sent mem_cons_self)
    constructor
    · intro sound
      have room := greeted.mp (sound.accepted _ mem_cons_self)
      have last := ended.mp (sound.accepted _ (mem_cons_of_mem _ mem_cons_self))
      have increasing := rel_of_pairwise_cons sound.increasing mem_cons_self
      refine ⟨room, fun _ => ⟨?_, last⟩⟩
      rw [number, UInt64.lt_iff_toNat_lt, toNat_add_one_of_ne_maximum last] at increasing
      have next : registered.greeting.1.toNat = _ := toNat_add_one_of_ne_maximum room
      rw [UInt64.lt_iff_toNat_lt]
      omega
    · intro ⟨room, fresh⟩
      obtain ⟨newer, last⟩ := fresh running
      constructor
      · intro other member
        rcases mem_cons.mp member with rfl | rest
        · exact greeted.mpr room
        · rw [mem_singleton.mp rest]
          exact ended.mpr last
      · rw [List.pairwise_pair, number, UInt64.lt_iff_toNat_lt, toNat_add_one_of_ne_maximum last]
        have next : registered.greeting.1.toNat = _ := toNat_add_one_of_ne_maximum room
        rw [UInt64.lt_iff_toNat_lt] at newer
        omega

/-- A run that was armed sends the greeting and, when it returns, one final
status.  They are accepted under rising numbers exactly when no number wraps
and a frame newer than the plan came before the end. -/
theorem runWatchdog_statuses {result : Option ExitCode}
    (trace : Trace (runWatchdog fuel options) events result) :
    (NeverArmed fuel options events result ∧ StatusStream events []) ∨
      ∃ registered startup watched final,
        events = startup ++ watched ∧ Trace (startUp fuel options) startup (some (.ok registered)) ∧
          StatusStream events (registered.greeting :: final) ∧
          Continues registered.lastSequence watched result final ∧
          (SoundStream (registered.greeting :: final) ↔
            NewlyNumbered registered.lastSequence watched result) := by
  obtain ⟨startup, armed, started, rfl, begun, continued⟩ := trace_bind_iff.mp trace
  have silent := (startUp_silent fuel options).unwritten begun
  cases started with
  | none =>
    cases continued
    refine Or.inl ⟨Or.inl ⟨rfl, ?_⟩, .later silent .done⟩
    rwa [append_nil]
  | some outcome =>
    cases outcome with
    | error code =>
      cases continued
      refine Or.inl ⟨Or.inr ⟨code, rfl, ?_⟩, .later silent .done⟩
      rwa [append_nil]
    | ok registered =>
      have valid := startUp_valid begun
      obtain ⟨final, stream, continues⟩ := runArmed_statuses valid continued
      exact Or.inr ⟨registered, startup, armed, final, rfl, begun, .later silent stream,
        continues, soundStream_iff valid continues⟩

theorem disarmed_run_statuses :
    (NeverArmed 3 watchedHost disarmedRun.2 disarmedRun.1 ∧ StatusStream disarmedRun.2 []) ∨
      ∃ registered startup watched final,
        disarmedRun.2 = startup ++ watched ∧
          Trace (startUp 3 watchedHost) startup (some (.ok registered)) ∧
          StatusStream disarmedRun.2 (registered.greeting :: final) ∧
          Continues registered.lastSequence watched disarmedRun.1 final ∧
          (SoundStream (registered.greeting :: final) ↔
            NewlyNumbered registered.lastSequence watched disarmedRun.1) :=
  runWatchdog_statuses disarmedRun_trace

section HostExit

/-- The host sends the plan and exits. -/
def exitedHost (frames : Nat) : (call : WatchdogCall) → watchdogInterface.Answer call × Nat
  | .waitForHost => (if frames = 0 then (258 : UInt32) else waitObject0, frames)
  | other => disarmingHost frames other

def registeredPlan : Registered where
  registry := { manifest := some oneProcessPlan }
  manifest := oneProcessPlan
  lastSequence := 1
  lastRenewal := 0

deriving instance DecidableEq for Registered

theorem exitedHost_registers :
    Trace (startUp 1 watchedHost) (record exitedHost (startUp 1 watchedHost) 0).2
      (some (.ok registeredPlan)) := by
  have registers : (record exitedHost (startUp 1 watchedHost) 0).1 = some (.ok registeredPlan) := by
    decide
  have trace := record_trace exitedHost (startUp 1 watchedHost) 0
  rwa [registers] at trace

/-- Without a newer frame both statuses carry the number after the plan's. -/
theorem exitedHost_repeats_number :
    ∃ events result statuses,
      Trace (runWatchdog 1 watchedHost) events result ∧ StatusStream events statuses ∧
        ¬ SoundStream statuses := by
  have armed := record_trace exitedHost (runArmed 1 registeredPlan) 1
  have valid := startUp_valid exitedHost_registers
  have silent := (startUp_silent 1 watchedHost).unwritten exitedHost_registers
  obtain ⟨final, stream, continues⟩ := runArmed_statuses valid armed
  refine ⟨_, _, _, trace_bind_iff.mpr ⟨_, _, _, rfl, exitedHost_registers, armed⟩,
    stream.later silent, ?_⟩
  rw [soundStream_iff valid continues]
  intro ⟨_, fresh⟩
  have returned : (record exitedHost (runArmed 1 registeredPlan) 1).1 ≠ none := by
    decide
  have stale :
      ¬ (1 : UInt64) < newestSequence 1 (record exitedHost (runArmed 1 registeredPlan) 1).2 := by
    decide
  exact stale (fresh returned).1

end HostExit

end HydraSeat.Watchdog
