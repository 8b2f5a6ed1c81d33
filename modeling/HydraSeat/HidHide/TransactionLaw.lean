import HydraSeat.HidHide.SessionLaws

/-!
# Runs of session transactions

Every operation does one of five things.  From that follow the laws over all
runs: mutation starts only from a prepared plan whose checks passed, an idle
transaction has left nothing behind, and a transaction that requires
recovery stays as it is.
-/

namespace HydraSeat.HidHide

open Foundation
open Foundation.Command HidHideSessionTransaction List

variable {entries : List SessionEntry}

def Quiet (entries : List SessionEntry) : Prop := ∀ entry ∈ entries, entry.request.mutates = false

theorem Quiet.nil : Quiet [] := fun _ member => nomatch member

theorem quiet_of_checks {told : SessionEntry → Prop}
    (checks : ∀ entry ∈ entries, told entry ∧ entry.request.checks = true) :
    Quiet entries := by
  rintro ⟨before, request, answer⟩ member
  have check := (checks _ member).2
  dsimp only at check ⊢
  cases request with
  | currentUnixSeconds | sha256File => rfl
  | _ => cases check

theorem Quiet.append {first second : List SessionEntry} (left : Quiet first)
    (right : Quiet second) : Quiet (first ++ second) := by
  intro entry member
  rcases mem_append.mp member with earlier | later
  · exact left entry earlier
  · exact right entry later

theorem Quiet.held (quiet : Quiet entries) (held : Bool) :
    entries.foldl holdsAfter held = held := by
  induction entries with
  | nil => rfl
  | cons first entries ih =>
    have kept : holdsAfter held first = held := by
      obtain ⟨before, request, answer⟩ := first
      have quietFirst := quiet _ mem_cons_self
      dsimp only at quietFirst
      cases request with
      | addSessionBlacklist | clearSessionBlacklist => cases quietFirst
      | _ => rfl
    rw [foldl_cons, kept]
    exact ih fun entry member => quiet entry (mem_cons_of_mem first member)

/-- The checks of an activation all passed. -/
structure Approval (env : Environment sessionInterface World) (world : World)
    (transaction : HidHideSessionTransaction)
    (plan : HidHideSessionPlan) (nowMilliseconds : UInt64)
    (checks : List SessionEntry) : Prop where
  phase : transaction.phase = .prepared
  planned : transaction.plan = some plan
  unexpired : nowMilliseconds < plan.expiryAtMilliseconds
  approved : plan.request.nativeMutationApproved = true
  authorized :
    ∃ evidence validation between later,
      plan.request.physicalAcceptanceEvidence = some evidence ∧
        Ran env (authorizeEvidence plan.request evidence) world validation (.ok ()) between ∧
        checks =
          validation ++
            [⟨between, .mutationSupported, true⟩, ⟨later, .sessionBlacklistSupported, true⟩]

inductive Performs (env : Environment sessionInterface World) (world : World)
    (transaction : HidHideSessionTransaction) :
    SessionOperation → List SessionEntry → Outcome → Prop
  | refused {operation : SessionOperation} {entries : List SessionEntry}
      {outcome : Outcome} (quiet : Quiet entries)
      (unchanged : outcome.2 = transaction)
      (fails :
        ∀ request nowMilliseconds,
          operation = .prepare request nowMilliseconds → outcome.1.succeeded = false) :
      Performs env world transaction operation entries outcome
  | prepared {request : HidHideSessionRequest} {nowMilliseconds : UInt64}
      {plan : HidHideSessionPlan} {entries : List SessionEntry}
      {read : HidHideSessionSnapshot} {outcome : Outcome}
      (quiet : Quiet entries) (notActive : transaction.phase ≠ .active)
      (notRecovering : transaction.phase ≠ .recoveryRequired)
      (told : Truthful env → read = world.persistent)
      (captured : plan = makePlan request (normalizedSnapshot read) nowMilliseconds)
      (after : outcome.2 = { transaction with plan := some plan, phase := .prepared })
      (succeeded : outcome.1.succeeded = true)
      (returned : outcome.1.plan = some plan) :
      Performs env world transaction (.prepare request nowMilliseconds) entries outcome
  | cancelled {operation : SessionOperation} {outcome : Outcome}
      (clean : transaction.phase = .prepared ∨ transaction.plan = none)
      (isPrepare : ∀ request nowMilliseconds, operation ≠ .prepare request nowMilliseconds)
      (after : outcome.2 = { transaction with plan := none, phase := .idle }) :
      Performs env world transaction operation [] outcome
  | activated {nowMilliseconds : UInt64} {plan : HidHideSessionPlan}
      {checks entries : List SessionEntry} {found : World}
      {outcome : Outcome}
      (approval : Approval env world transaction plan nowMilliseconds checks)
      (quiet : Quiet checks)
      (kept : Truthful env → found = world)
      (applied : Applied env found transaction plan entries outcome) :
      Performs env world transaction (.activate nowMilliseconds) (checks ++ entries) outcome
  | cleaned {operation : SessionOperation} {plan : HidHideSessionPlan}
      {entries : List SessionEntry} {outcome : Outcome}
      (active : transaction.phase = .active)
      (planned : transaction.plan = some plan)
      (isCleanup :
        (∃ nowMilliseconds, operation = .expireIfNeeded nowMilliseconds) ∨
          operation = .rollback ∨ operation = .destroy)
      (cleaned : Cleaned env transaction plan entries outcome) :
      Performs env world transaction operation entries outcome

/-- What holds of a transaction between two operations. -/
structure Coherent (transaction : HidHideSessionTransaction) : Prop where
  planned : transaction.phase = .idle ↔ transaction.plan = none
  settled : transaction.phase ≠ .rollingBack
  held :
    transaction.sessionEntriesActive = true →
      transaction.phase = .active ∨ transaction.phase = .recoveryRequired

section Operations

variable {env : Environment sessionInterface World}
  {transaction : HidHideSessionTransaction} {world : World}
variable {operation : SessionOperation} {entries : List SessionEntry} {outcome : Outcome}
  {plan : HidHideSessionPlan}

/-- The law of an operation. -/
abbrev PerformsMeets (env : Environment sessionInterface World)
    (transaction : HidHideSessionTransaction)
    (operation : SessionOperation) (program : SessionProgram Outcome)
    (world : World) : Prop :=
  Meets env program world fun entries outcome _ =>
    outcome.1.phase = outcome.2.phase ∧ Performs env world transaction operation entries outcome

theorem performs_report (quiet : Quiet entries) (code : HidHideSessionResultCode)
    (diagnostic : ByteString)
    (fails :
      ∀ request nowMilliseconds,
        operation = .prepare request nowMilliseconds →
          (transaction.report code diagnostic).1.succeeded = false) :
    (transaction.report code diagnostic).1.phase = (transaction.report code diagnostic).2.phase ∧
      Performs env world transaction operation entries (transaction.report code diagnostic) :=
  ⟨rfl, .refused quiet rfl fails⟩

theorem prepare_meets (request : HidHideSessionRequest) (nowMilliseconds : UInt64) (world : World) :
    PerformsMeets env transaction (.prepare request nowMilliseconds)
      (transaction.prepare request nowMilliseconds) world := by
  unfold prepare
  split
  · exact meets_pure (performs_report .nil _ _ fun _ _ _ => rfl)
  next notRecovering =>
    split
    · exact meets_pure (performs_report .nil _ _ fun _ _ _ => rfl)
    next notActive =>
      refine meets_bind ((validateRequest_only request).meets world) ?_
      rintro checks validated between ⟨kept, areChecks⟩
      have quietChecks := quiet_of_checks areChecks
      cases validated with
      | error text =>
        refine meets_pure ?_
        rw [append_nil]
        exact performs_report quietChecks _ _ fun _ _ _ => rfl
      | ok =>
        dsimp only
        split
        · refine meets_pure ?_
          rw [append_nil]
          exact performs_report quietChecks _ _ fun _ _ _ => rfl
        refine meets_ask fun read after happened => ?_
        have quiet : Quiet (checks ++ [⟨between, .readState, read⟩]) := by
          apply quietChecks.append
          intro entry member
          rw [mem_singleton.mp member]
          rfl
        split
        · exact meets_pure (performs_report quiet _ _ fun _ _ _ => rfl)
        next succeeded =>
          rw [Bool.not_eq_true', Bool.not_eq_false] at succeeded
          split
          · exact meets_pure (performs_report quiet _ _ fun _ _ _ => rfl)
          split
          · exact meets_pure (performs_report quiet _ _ fun _ _ _ => rfl)
          refine meets_pure ⟨rfl, ?_⟩
          refine .prepared quiet notActive notRecovering ?_ rfl rfl rfl rfl
          intro truthful
          rw [← kept truthful]
          exact (truthful _ _ _ _ happened).2 succeeded

/-- What `activateApproved` does: refuse, or apply the plan behind the two
questions to the platform. -/
inductive Proceeds (env : Environment sessionInterface World) (world : World)
    (transaction : HidHideSessionTransaction)
    (plan : HidHideSessionPlan) : List SessionEntry → Outcome → Prop
  | refused {entries : List SessionEntry}
      {code : HidHideSessionResultCode} {diagnostic : ByteString}
      (quiet : Quiet entries) :
      Proceeds env world transaction plan entries (transaction.report code diagnostic)
  | applied {entries : List SessionEntry} {later found : World} {outcome : Outcome}
      (approved : plan.request.nativeMutationApproved = true)
      (kept : Truthful env → found = world)
      (applied : Applied env found transaction plan entries outcome) :
      Proceeds env world transaction plan
        (⟨world, .mutationSupported, true⟩ :: ⟨later, .sessionBlacklistSupported, true⟩ :: entries)
        outcome

theorem activateApproved_meets (planned : transaction.plan = some plan) (world : World) :
    Meets env (transaction.activateApproved plan) world
      fun entries outcome _ => Proceeds env world transaction plan entries outcome := by
  unfold activateApproved
  split
  · exact meets_pure (.refused .nil)
  next approved =>
    rw [Bool.not_eq_true', Bool.not_eq_false] at approved
    refine meets_ask fun mutation later happened => ?_
    have quiet : Quiet [(⟨world, .mutationSupported, mutation⟩ : SessionEntry)] := by
      intro entry member
      rw [mem_singleton.mp member]
      rfl
    split
    · exact meets_pure (.refused quiet)
    next supported =>
      rw [Bool.not_eq_true', Bool.not_eq_false] at supported
      subst supported
      refine meets_ask fun blacklist found answered => ?_
      split
      · refine meets_pure (.refused ?_)
        intro entry member
        rcases mem_cons.mp member with rfl | later
        · rfl
        · rw [mem_singleton.mp later]
          rfl
      next listed =>
        rw [Bool.not_eq_true', Bool.not_eq_false] at listed
        subst listed
        have kept (truthful : Truthful env) : found = world := by
          have first := truthful _ _ _ _ happened
          have second := truthful _ _ _ _ answered
          exact Eq.trans second first
        exact meets_mono (apply_meets planned found)
          fun entries outcome final applied => .applied approved kept applied

theorem Proceeds.performs {nowMilliseconds : UInt64} {evidence : Phase3HardwareAcceptanceEvidence}
    {validation : List SessionEntry} {between : World}
    (proceeds : Proceeds env between transaction plan entries outcome)
    (prepared : transaction.phase = .prepared)
    (planned : transaction.plan = some plan)
    (unexpired : nowMilliseconds < plan.expiryAtMilliseconds)
    (evidenced : plan.request.physicalAcceptanceEvidence = some evidence)
    (ran : Ran env (authorizeEvidence plan.request evidence) world validation (.ok ()) between)
    (kept : Truthful env → between = world)
    (quiet : Quiet validation) :
    outcome.1.phase = outcome.2.phase ∧
      Performs env world transaction (.activate nowMilliseconds)
        (validation ++ entries) outcome := by
  cases proceeds with
  | refused more => exact performs_report (quiet.append more) _ _ nofun
  | @applied entries later found _ approved same applied =>
    have gates :
        Quiet
          [(⟨between, .mutationSupported, true⟩ : SessionEntry),
            ⟨later, .sessionBlacklistSupported, true⟩] := by
      intro entry member
      rcases mem_cons.mp member with rfl | later
      · rfl
      · rw [mem_singleton.mp later]
        rfl
    refine ⟨applied.phase, ?_⟩
    have performs := Performs.activated
      ⟨prepared, planned, unexpired, approved, evidence, validation,
        between, later, evidenced, ran, rfl⟩
      (quiet.append gates)
      (fun truthful => (same truthful).trans (kept truthful)) applied
    rw [append_assoc] at performs
    exact performs

theorem activate_meets (nowMilliseconds : UInt64) (world : World) :
    PerformsMeets env transaction (.activate nowMilliseconds)
      (transaction.activate nowMilliseconds) world := by
  have notPrepare :
      ∀ request (now : UInt64),
        SessionOperation.activate nowMilliseconds ≠ .prepare request now := by
    nofun
  unfold HidHideSessionTransaction.activate
  split
  · exact meets_pure (performs_report .nil _ _ nofun)
  split
  · exact meets_pure (performs_report .nil _ _ nofun)
  cases planned : transaction.plan with
  | none => exact meets_pure (performs_report .nil _ _ nofun)
  | some plan =>
    dsimp only
    split
    · exact meets_pure (performs_report .nil _ _ nofun)
    next prepared =>
      rw [not_not] at prepared
      split
      · exact meets_pure ⟨rfl, .cancelled (.inl prepared) notPrepare rfl⟩
      next unexpired =>
        cases evidenced : plan.request.physicalAcceptanceEvidence with
        | none => exact meets_pure (performs_report .nil _ _ nofun)
        | some evidence =>
          refine meets_bind
            (meets_and (meets_ran _)
              ((authorizeEvidence_only evidence plan.request).meets world)) ?_
          rintro validation authorized between ⟨ran, kept, areChecks⟩
          have quietChecks := quiet_of_checks areChecks
          cases authorized with
          | error text =>
            refine meets_pure ?_
            rw [List.append_nil]
            exact performs_report quietChecks _ _ nofun
          | ok =>
            refine meets_mono (activateApproved_meets planned _)
              fun entries outcome final approved => ?_
            exact approved.performs prepared planned (UInt64.not_le.mp unexpired) evidenced ran kept
              quietChecks

theorem rollbackInternal_performs (coherent : Coherent transaction)
    (isCleanup :
      (∃ nowMilliseconds, operation = .expireIfNeeded nowMilliseconds) ∨
        operation = .rollback ∨ operation = .destroy)
    (expired : Bool) (world : World) :
    PerformsMeets env transaction operation (transaction.rollbackInternal expired) world := by
  have notPrepare : ∀ request nowMilliseconds, operation ≠ .prepare request nowMilliseconds := by
    rcases isCleanup with ⟨_, rfl⟩ | rfl | rfl
    · nofun
    · nofun
    · nofun
  cases planned : transaction.plan with
  | none =>
    unfold rollbackInternal
    rw [planned]
    exact meets_pure ⟨rfl, .cancelled (.inr planned) notPrepare rfl⟩
  | some plan =>
    by_cases recovering : transaction.phase = .recoveryRequired
    · unfold rollbackInternal
      rw [planned]
      dsimp only
      rw [if_pos recovering]
      refine meets_pure (performs_report .nil _ _ ?_)
      intro request nowMilliseconds impossible
      exact absurd impossible (notPrepare _ _)
    by_cases prepared : transaction.phase = .prepared
    · unfold rollbackInternal
      rw [planned]
      dsimp only
      rw [if_neg recovering, if_pos prepared]
      exact meets_pure ⟨rfl, .cancelled (.inl prepared) notPrepare rfl⟩
    have active : transaction.phase = .active := by
      cases phase : transaction.phase with
      | idle =>
        rw [coherent.planned.mp phase] at planned
        cases planned
      | active => rfl
      | rollingBack => exact absurd phase coherent.settled
      | prepared => exact absurd phase prepared
      | recoveryRequired => exact absurd phase recovering
    refine meets_mono (rollbackInternal_meets planned recovering prepared expired world)
      fun entries outcome final cleaned => ?_
    exact ⟨cleaned.phase, .cleaned active planned isCleanup cleaned⟩

theorem perform_meets (coherent : Coherent transaction) (operation : SessionOperation)
    (world : World) :
    PerformsMeets env transaction operation (transaction.perform operation) world := by
  cases operation with
  | prepare request nowMilliseconds => exact prepare_meets request nowMilliseconds world
  | activate nowMilliseconds => exact activate_meets nowMilliseconds world
  | expireIfNeeded nowMilliseconds =>
    change PerformsMeets env transaction _ (transaction.expireIfNeeded nowMilliseconds) world
    unfold expireIfNeeded
    cases planned : transaction.plan with
    | none => exact meets_pure (performs_report .nil _ _ nofun)
    | some plan =>
      dsimp only
      split
      · exact meets_pure (performs_report .nil _ _ nofun)
      split
      · exact meets_pure (performs_report .nil _ _ nofun)
      · exact rollbackInternal_performs coherent (.inl ⟨_, rfl⟩) true world
  | rollback => exact rollbackInternal_performs coherent (.inr (.inl rfl)) false world
  | destroy =>
    change PerformsMeets env transaction _ transaction.destroy world
    unfold destroy
    split
    · exact rollbackInternal_performs coherent (.inr (.inr rfl)) false world
    · exact meets_pure (performs_report .nil _ _ nofun)

theorem Performs.coherent (performs : Performs env world transaction operation entries outcome)
    (coherent : Coherent transaction) : Coherent outcome.2 := by
  have ended {plan : HidHideSessionPlan} {more : List SessionEntry}
      (ends : Ended plan more outcome.2) : Coherent outcome.2 := by
    rcases ends with ⟨idle, free, empty, _⟩ | ⟨recovering, kept⟩
    · refine ⟨iff_of_true idle free, ?_, ?_⟩
      · rw [idle]
        nofun
      · rw [empty]
        nofun
    · refine ⟨iff_of_false ?_ ?_, ?_, fun _ => .inr recovering⟩
      · rw [recovering]
        nofun
      · rw [kept]
        nofun
      · rw [recovering]
        nofun
  cases performs with
  | refused _ unchanged _ =>
    rw [unchanged]
    exact coherent
  | prepared _ notActive notRecovering _ _ after _ _ =>
    rw [after]
    refine ⟨iff_of_false nofun nofun, nofun, ?_⟩
    intro held
    rcases coherent.held held with active | recovering
    · exact absurd active notActive
    · exact absurd recovering notRecovering
  | cancelled clean _ after =>
    rw [after]
    refine ⟨iff_of_true rfl rfl, nofun, ?_⟩
    intro held
    rcases coherent.held held with active | recovering
    · rcases clean with prepared | free
      · rw [active] at prepared
        cases prepared
      · rw [coherent.planned.mpr free] at active
        cases active
    · rcases clean with prepared | free
      · rw [recovering] at prepared
        cases prepared
      · rw [coherent.planned.mpr free] at recovering
        cases recovering
  | activated _ _ _ applied =>
    rcases applied.ends with ⟨active, planned⟩ | ends
    · refine ⟨iff_of_false ?_ ?_, ?_, fun _ => .inl active⟩
      · rw [active]
        nofun
      · rw [planned]
        nofun
      · rw [active]
        nofun
    · exact ended ends
  | cleaned _ _ _ cleaned => exact ended cleaned.ends

/-- The flag of a transaction says whether it may have left entries in the
session blacklist. -/
theorem Performs.held (performs : Performs env world transaction operation entries outcome) :
    entries.foldl holdsAfter transaction.sessionEntriesActive = outcome.2.sessionEntriesActive := by
  cases performs with
  | refused quiet unchanged _ => rw [quiet.held, unchanged]
  | prepared quiet _ _ _ _ after _ _ => rw [quiet.held, after]
  | cancelled _ _ after =>
    rw [after]
    rfl
  | activated _ quiet _ applied =>
    rw [foldl_append, quiet.held]
    exact applied.held
  | cleaned _ _ _ cleaned => exact cleaned.held

end Operations

end HydraSeat.HidHide
