import HydraSeat.Requirement.EvidenceLaw
import HydraSeat.Requirement.RuntimeAuthority

/-!
# What passes the gate was resolved

The resolver gives a game an authority only for a record, a provider and
evidence that agree.  Its snapshots pass the gate, and a plan that the gate
accepts launches what these authorities allow.
-/

namespace HydraSeat.Requirement

open Foundation List
open Catalog Compat Plan Profile Provider

section Games

variable (stored : RequirementEvidenceDocument) (input : RequirementResolveInputs)
  (referenceMonth : Nat)

/-- The game has an available provider at the revision of the record. -/
def Provided (game : GameRecord) (record : LocalRequirementEvidenceRecord) : Prop :=
  ∃ adapter,
    findProvider input.providers game.providerId game.providerAppId = some (some adapter) ∧
      adapter.descriptor.availability = .available ∧
      adapter.descriptor.metadataRevision = record.providerMetadataRevision

def Fresh (evidence : CompatibilityResult) : Prop :=
  ∃ observed,
    resultMonth evidence = some observed ∧ observed ≤ referenceMonth ∧
      referenceMonth - observed ≤ input.context.staleAfterMonths.toNat

/-- A high risk has exactly one approval. -/
def Permitted (record : LocalRequirementEvidenceRecord) (approved : Bool) : Prop :=
  record.requirements.highRisk = true →
    approved = true ∧ input.protectedApprovals.countP (approvalMatches · record) = 1

/-- All that the resolver asks for before a game has an authority. -/
structure Authorizes (entry : LocalGameCatalogEntry) (record : LocalRequirementEvidenceRecord)
    (evidence : CompatibilityResult) (approved : Bool) : Prop where
  recorded : record ∈ stored.records
  current : entry.staleness = .current ∧ entry.mergedCandidateCount ≠ 0
  identity : gameIdentityMatches record entry.game = true
  provided : Provided input entry.game record
  measured : ∃ result ∈ input.localEvidence, canonicalizeCompatibilityResult result = .ok evidence
  origin : originAllowed input.context.trust evidence.origin = true
  environment : resultIdentityMatches record input.context evidence = true
  fresh : Fresh input referenceMonth evidence
  covered : capabilitiesCover record = true ∧ resultCoversRequirements record evidence = true
  permitted : Permitted input record approved

variable {stored input referenceMonth} {entry : LocalGameCatalogEntry}
  {record : LocalRequirementEvidenceRecord} {evidence : CompatibilityResult} {approved : Bool}

theorem resolveRecord_eq_ok (resolved : resolveRecord stored entry = .ok record) :
    record ∈ stored.records ∧ (entry.staleness = .current ∧ entry.mergedCandidateCount ≠ 0) ∧
      gameIdentityMatches record entry.game = true := by
  unfold resolveRecord blocked at resolved
  split at resolved
  · cases resolved
  next found isFound =>
    obtain ⟨current, resolved⟩ := not_taken resolved nofun
    obtain ⟨same, resolved⟩ := not_taken resolved nofun
    cases resolved
    rw [not_or, not_not] at current
    exact ⟨mem_of_find?_eq_some isFound, current, by simpa using same⟩

theorem checkProvider_eq_ok (checked : checkProvider input entry.game record = .ok ()) :
    Provided input entry.game record := by
  unfold checkProvider blocked at checked
  split at checked
  · cases checked
  · cases checked
  next adapter found =>
    obtain ⟨available, checked⟩ := not_taken checked nofun
    obtain ⟨same, _⟩ := not_taken checked nofun
    simp only [not_or, not_not] at available same
    exact ⟨adapter, found, available.2.1, same⟩

theorem resolveEvidence_eq_ok (resolved : resolveEvidence input record = .ok evidence) :
    (∃ result ∈ input.localEvidence, canonicalizeCompatibilityResult result = .ok evidence) ∧
      originAllowed input.context.trust evidence.origin = true ∧
      resultIdentityMatches record input.context evidence = true := by
  unfold resolveEvidence blocked at resolved
  split at resolved
  · cases resolved
  next result found =>
    split at resolved
    · cases resolved
    next canonical isCanonical =>
      obtain ⟨_, resolved⟩ := not_taken resolved nofun
      obtain ⟨origin, resolved⟩ := not_taken resolved nofun
      obtain ⟨environment, resolved⟩ := not_taken resolved nofun
      obtain ⟨_, resolved⟩ := not_taken resolved nofun
      cases resolved
      exact ⟨⟨result, mem_of_find?_eq_some found, isCanonical⟩, by simpa using origin,
        by simpa using environment⟩

theorem checkMonth_eq_ok (checked : checkMonth input referenceMonth evidence = .ok ()) :
    Fresh input referenceMonth evidence := by
  unfold checkMonth blocked at checked
  split at checked
  · cases checked
  next observed isMonth =>
    obtain ⟨past, checked⟩ := not_taken checked nofun
    obtain ⟨recent, _⟩ := not_taken checked nofun
    exact ⟨observed, isMonth, Nat.not_lt.mp past, Nat.not_lt.mp recent⟩

theorem resolveApproval_eq_ok (resolved : resolveApproval input record = .ok approved) :
    Permitted input record approved := by
  intro risky
  unfold resolveApproval blocked at resolved
  rw [if_pos risky] at resolved
  obtain ⟨single, resolved⟩ := not_taken resolved nofun
  obtain ⟨found, resolved⟩ := not_taken resolved nofun
  cases resolved
  exact ⟨rfl, by omega⟩

theorem resolveGame_eq_ok {authority : TrustedGameRuntimeAuthority}
    (resolved : resolveGame stored input referenceMonth entry = .ok authority) :
    ∃ record evidence approved,
      Authorizes stored input referenceMonth entry record evidence approved ∧
        authority = authorityOf entry.game record evidence approved := by
  obtain ⟨record, isRecord, resolved⟩ := bind_eq_ok.mp resolved
  obtain ⟨_, provided, resolved⟩ := bind_eq_ok.mp resolved
  obtain ⟨evidence, isEvidence, resolved⟩ := bind_eq_ok.mp resolved
  obtain ⟨_, fresh, resolved⟩ := bind_eq_ok.mp resolved
  obtain ⟨covered, resolved⟩ := not_taken resolved nofun
  obtain ⟨approved, permitted, resolved⟩ := bind_eq_ok.mp resolved
  cases resolved
  obtain ⟨recorded, current, identity⟩ := resolveRecord_eq_ok isRecord
  obtain ⟨measured, origin, environment⟩ := resolveEvidence_eq_ok isEvidence
  exact ⟨record, evidence, approved,
    { recorded, current, identity, measured, origin, environment
      provided := checkProvider_eq_ok provided
      fresh := checkMonth_eq_ok fresh
      covered := by simpa using covered
      permitted := resolveApproval_eq_ok permitted }, rfl⟩

end Games

section Snapshots

variable (stored : RequirementEvidenceDocument) (input : RequirementResolveInputs)
  (referenceMonth : Nat) (snapshot : TrustedRequirementSnapshot)

/-- The authorities of the games in a catalog, in their order. -/
def authoritiesOf (entries : List LocalGameCatalogEntry) : List TrustedGameRuntimeAuthority :=
  entries.filterMap fun entry => (resolveGame stored input referenceMonth entry).toOption

/-- What the resolver returns for inputs that it accepts. -/
structure Resolution : Prop where
  month : parseMonth snapshot.referenceMonth = some referenceMonth
  schema : snapshot.schemaVersion = kTrustedRequirementSnapshotSchemaVersion
  horizon : snapshot.staleAfterMonths = input.context.staleAfterMonths
  bounded : ¬snapshot.staleAfterMonths > 120
  trust : snapshot.trust = input.context.trust
  few : input.catalog.entries.length ≤ kMaximumGames
  records : ∀ record ∈ stored.records, validRecord record = true
  games : ∀ entry ∈ input.catalog.entries, validateGame entry.game = .ok ()
  distinct : (input.catalog.entries.map (·.game.gameId)).Nodup
  authorities :
    snapshot.authorities.Perm (authoritiesOf stored input referenceMonth input.catalog.entries)
  requirements : snapshot.requirements.Perm (snapshot.authorities.map (·.requirement))

variable (plan : ProviderAwareLaunchPlan)

/-- What a Seat launches is what the record of its game allows. -/
structure Allowed (seat : SeatProviderLaunchPlan) (entry : LocalGameCatalogEntry)
    (record : LocalRequirementEvidenceRecord) : Prop where
  game : seat.gameId = entry.game.gameId ∧ seat.launchRequest.gameId = seat.gameId
  provider :
    seat.launchRequest.providerId = record.providerId ∧
      seat.launchRequest.providerAppId = record.providerAppId ∧
      seat.launchRequest.metadataRevision = record.providerMetadataRevision
  target :
    seat.launchRequest.targetKind = .executable →
      seat.launchRequest.target ∈ entry.game.executableCandidates
  scope : plan.seats.countP (·.gameId == seat.gameId) % 256 ≤ record.validatedSeatCount.toNat
  requirement :
    seat.requirementRevision = record.revision ∧ seat.requirements = record.requirements ∧
      seat.capabilities = record.capabilities ∧ seat.compatibility = entry.game.compatibility

/-- Every Seat launches a game that was authorized, as it was authorized. -/
def Sanctioned : Prop :=
  ∃ referenceMonth,
    parseMonth snapshot.referenceMonth = some referenceMonth ∧
      ∀ seat ∈ plan.seats,
        ∃ entry ∈ input.catalog.entries, ∃ record evidence approved,
          Authorizes stored input referenceMonth entry record evidence approved ∧
            Allowed plan seat entry record

variable {stored input referenceMonth snapshot plan} {authority : TrustedGameRuntimeAuthority}
  {requirePhysicalEvidence : Bool}

theorem foldl_resolveEntry (entries : List LocalGameCatalogEntry)
    (snapshot : TrustedRequirementSnapshot) :
    ∃ blockedGames,
      entries.foldl (resolveEntry stored input referenceMonth) snapshot =
        { snapshot with
          authorities := snapshot.authorities ++ authoritiesOf stored input referenceMonth entries
          requirements :=
            snapshot.requirements ++
              (authoritiesOf stored input referenceMonth entries).map (·.requirement)
          blockedGames } := by
  induction entries generalizing snapshot with
  | nil => exact ⟨snapshot.blockedGames, by simp [authoritiesOf]⟩
  | cons entry entries ih =>
    rw [foldl_cons]
    obtain ⟨blockedGames, later⟩ := ih (resolveEntry stored input referenceMonth snapshot entry)
    refine ⟨blockedGames, later.trans ?_⟩
    unfold resolveEntry authoritiesOf
    cases resolved : resolveGame stored input referenceMonth entry with
    | error issue =>
      dsimp only [addIssue]
      rw [filterMap_cons, resolved]
      split <;> rfl
    | ok authority => simp [resolved, Except.toOption, addAuthority]

theorem resolve_eq_ok
    (resolved : resolveTrustedGameRuntimeRequirements stored input = .ok snapshot) :
    ∃ referenceMonth, Resolution stored input referenceMonth snapshot := by
  obtain ⟨referenceMonth, checked, resolved⟩ := bind_eq_ok.mp resolved
  obtain ⟨_, store, checked⟩ := bind_eq_ok.mp checked
  obtain ⟨month, context, checked⟩ := bind_eq_ok.mp checked
  obtain ⟨_, bounds, checked⟩ := bind_eq_ok.mp checked
  obtain ⟨_, catalog, checked⟩ := bind_eq_ok.mp checked
  obtain ⟨_, _, checked⟩ := bind_eq_ok.mp checked
  obtain ⟨_, _, checked⟩ := bind_eq_ok.mp checked
  cases checked
  cases resolved
  unfold checkStore at store
  split at store
  next valid =>
    unfold checkCatalog at catalog
    split at catalog
    next games =>
      unfold validateGameRecordDocument at games
      obtain ⟨_, games⟩ := check_eq_ok games
      obtain ⟨_, games⟩ := check_eq_ok games
      obtain ⟨_, each, unique⟩ := bind_eq_ok.mp games
      have distinct := uniqueIds_eq_ok_iff.mp unique
      rw [map_map] at distinct
      unfold checkContext snapshotFailure at context
      split at context
      · cases context
      next isMonth =>
        obtain ⟨setting, context⟩ := not_taken context nofun
        cases context
        obtain ⟨few, _⟩ := not_taken bounds nofun
        obtain ⟨blockedGames, folded⟩ := foldl_resolveEntry input.catalog.entries
          { referenceMonth := input.context.referenceMonth
            staleAfterMonths := input.context.staleAfterMonths, trust := input.context.trust }
        rw [folded]
        have sorted := perm_insertionSort
          (fun left right : TrustedGameRuntimeAuthority =>
            textBefore right.requirement.gameId left.requirement.gameId = false)
          (authoritiesOf stored input referenceMonth input.catalog.entries)
        refine ⟨_, isMonth, rfl, rfl, fun long => setting (.inl long), rfl,
          Nat.not_lt.mp fun many => few (.inl many), (valid_document valid).2.2, ?_, distinct,
          sorted, (perm_insertionSort _ _).trans (sorted.map _).symm⟩
        intro entry member
        exact forM_eq_ok_iff.mp each _ (mem_map_of_mem member)
    · cases catalog
  · cases store

theorem identifier_filled {value : ByteString} (valid : validProfileIdentifier value = true) :
    value.isEmpty = false := by
  unfold validProfileIdentifier Profile.validIdentifier at valid
  simp_all

theorem evidence_filled {value : ByteString} (valid : validEvidenceIdentifier value = true) :
    value.isEmpty = false := by
  unfold validEvidenceIdentifier validEvidenceText at valid
  simp_all

theorem executables_filled {game : GameRecord} (valid : validateGame game = .ok ()) :
    ¬(game.executableCandidates.isEmpty ||
      game.executableCandidates.length > kMaximumExecutableCandidates) = true := by
  unfold validateGame at valid
  obtain ⟨_, valid⟩ := check_eq_ok valid
  obtain ⟨_, valid⟩ := check_eq_ok valid
  obtain ⟨_, _, valid⟩ := bind_eq_ok.mp valid
  obtain ⟨_, _, valid⟩ := bind_eq_ok.mp valid
  exact (check_eq_ok valid).1

theorem checkAuthorities_ok {authorities : List TrustedGameRuntimeAuthority}
    (each :
      ∀ authority ∈ authorities,
        checkAuthority snapshot requirePhysicalEvidence referenceMonth authority [] = .ok ())
    (distinct : (authorities.map (·.requirement.gameId)).Nodup) :
    checkAuthorities snapshot requirePhysicalEvidence referenceMonth authorities = .ok () := by
  induction authorities with
  | nil => rfl
  | cons first rest ih =>
    obtain ⟨isFirst, later⟩ := forall_mem_cons.mp each
    obtain ⟨fresh, distinct⟩ := nodup_cons.mp distinct
    have unlisted : rest.any (·.requirement.gameId == first.requirement.gameId) = false := by
      simpa using fresh
    have alone :
        checkAuthority snapshot requirePhysicalEvidence referenceMonth first rest =
          checkAuthority snapshot requirePhysicalEvidence referenceMonth first [] := by
      unfold checkAuthority
      rw [unlisted, any_nil]
    rw [checkAuthorities, alone, isFirst, ok_bind, ih later distinct]

theorem findAuthority_eq_ok_iff {gameId : ByteString} :
    findAuthority snapshot gameId = .ok authority ↔
      snapshot.authorities.filter (·.requirement.gameId == gameId) = [authority] := by
  unfold findAuthority trustedPlanFailure
  split
  next none => simp [none]
  next single => simp [single]
  next several => simp [several]

section Resolved

variable (resolution : Resolution stored input referenceMonth snapshot)
include resolution

theorem Resolution.authorized (member : authority ∈ snapshot.authorities) :
    ∃ entry ∈ input.catalog.entries, ∃ record evidence approved,
      Authorizes stored input referenceMonth entry record evidence approved ∧
        authority = authorityOf entry.game record evidence approved := by
  obtain ⟨entry, listed, found⟩ := mem_filterMap.mp (resolution.authorities.mem_iff.mp member)
  exact ⟨entry, listed, resolveGame_eq_ok (toOption_eq_some.mp found)⟩

theorem Resolution.distinct_authorities :
    (snapshot.authorities.map (·.requirement.gameId)).Nodup := by
  have named {entry : LocalGameCatalogEntry} {authority : TrustedGameRuntimeAuthority}
      (found : (resolveGame stored input referenceMonth entry).toOption = some authority) :
      authority.requirement.gameId = entry.game.gameId := by
    obtain ⟨record, evidence, approved, _, same⟩ := resolveGame_eq_ok (toOption_eq_some.mp found)
    rw [same]
    rfl
  refine (resolution.authorities.map _).nodup_iff.mpr ?_
  unfold authoritiesOf
  rw [Nodup, pairwise_map, pairwise_filterMap]
  refine (pairwise_map.mp resolution.distinct).imp ?_
  intro left right different first isLeft second isRight same
  rw [named isLeft, named isRight] at same
  exact different same

theorem Resolution.counted (member : authority ∈ snapshot.authorities) :
    snapshot.requirements.count authority.requirement = 1 := by
  rw [resolution.requirements.count_eq]
  refine count_eq_one_of_mem (Nodup.of_map (·.gameId) ?_) (mem_map_of_mem member)
  rw [map_map]
  exact resolution.distinct_authorities

/-- Every authority of a resolved snapshot passes the checks of the gate. -/
theorem Resolution.checked
    (physical : requirePhysicalEvidence = true → snapshot.trust = .physicalOnly)
    (member : authority ∈ snapshot.authorities) :
    checkAuthority snapshot requirePhysicalEvidence referenceMonth authority [] = .ok () := by
  have counted := resolution.counted member
  obtain ⟨entry, listed, record, evidence, approved, authorizes, rfl⟩ := resolution.authorized member
  have sameGame : record.gameId = entry.game.gameId := by
    have identity := authorizes.identity
    unfold gameIdentityMatches at identity
    by_contra different
    simp [different] at identity
  have executables := executables_filled (resolution.games entry listed)
  have environment := authorizes.environment
  simp only [resultIdentityMatches, Bool.and_eq_true, beq_iff_eq, and_assoc] at environment
  obtain ⟨resultId, provenanceId, revision, _⟩ := environment
  have valid := resolution.records record authorizes.recorded
  simp only [validRecord, Bool.and_eq_true, bne_iff_ne, decide_eq_true_eq, and_assoc, sameGame,
    ← resultId, ← provenanceId, ← revision] at valid
  obtain ⟨_, positive, game, provider, _, _, _, _, metadata, result, provenance, proven, least,
    most⟩ := valid
  obtain ⟨observed, isMonth, past, recent⟩ := authorizes.fresh
  obtain ⟨long, isMonth⟩ := not_taken isMonth nofun
  have counts : record.validatedSeatCount ≠ 0 := by
    intro none
    rw [none] at least
    exact absurd least (by decide)
  have fields : checkAuthorityFields (authorityOf entry.game record evidence approved) = .ok () :=
    if_neg (by
      simp only [Bool.or_eq_true, not_or] at executables
      simp [authorityOf, identifier_filled game, identifier_filled provider, positive, metadata,
        evidence_filled result, evidence_filled provenance, proven, counts, most, executables]
      exact decide_eq_false long)
  have month :
      checkAuthorityMonth snapshot referenceMonth (authorityOf entry.game record evidence approved) =
        .ok () := by
    unfold checkAuthorityMonth parseTrustedMonth authorityOf
    dsimp only
    rw [isMonth]
    refine if_neg ?_
    rw [resolution.horizon]
    omega
  have origin := authorizes.origin
  unfold checkAuthority
  rw [fields, ok_bind]
  dsimp only
  rw [any_nil, if_neg Bool.false_ne_true, if_neg (not_not.mpr counted), if_neg ?_, month,
    ok_bind, if_neg ?_]
  · intro risky
    simp only [authorityOf, Bool.and_eq_true, Bool.not_eq_true'] at risky
    rw [(authorizes.permitted risky.1).1] at risky
    exact absurd risky.2 (by decide)
  · rw [← resolution.trust] at origin
    unfold originAllowed at origin
    change ¬(evidence.origin = .importedCommunity ∨ evidence.origin = .synthetic ∨
      (requirePhysicalEvidence = true ∧ evidence.origin ≠ .physical) ∨
      (snapshot.trust = .physicalOnly ∧ evidence.origin ≠ .physical))
    cases isTrust : snapshot.trust with
    | physicalOnly => simp_all
    | controlledOrPhysical => simp_all

end Resolved

/-- The gate refuses no snapshot that the resolver returns. -/
theorem resolved_snapshot_passes
    (resolved : resolveTrustedGameRuntimeRequirements stored input = .ok snapshot)
    (physical : requirePhysicalEvidence = true → input.context.trust = .physicalOnly) :
    checkSnapshot snapshot requirePhysicalEvidence = .ok () := by
  obtain ⟨referenceMonth, resolution⟩ := resolve_eq_ok resolved
  have few : snapshot.authorities.length ≤ kMaximumGames :=
    (resolution.authorities.length_eq.trans_le (length_filterMap_le _ _)).trans resolution.few
  have same : snapshot.requirements.length = snapshot.authorities.length :=
    resolution.requirements.length_eq.trans (length_map _)
  rw [← resolution.trust] at physical
  unfold checkSnapshot parseTrustedMonth
  rw [if_neg (by simp [resolution.schema, few, same, resolution.bounded]), resolution.month]
  exact checkAuthorities_ok (fun _ => resolution.checked physical) resolution.distinct_authorities

/-- What the gate accepts against such a snapshot is sanctioned. -/
theorem accepted_plan_sanctioned
    (resolved : resolveTrustedGameRuntimeRequirements stored input = .ok snapshot)
    (accepted :
      validateProviderAwareLaunchPlanAgainstTrustedRequirements snapshot requirePhysicalEvidence
        plan = .ok ()) :
    Sanctioned stored input snapshot plan := by
  obtain ⟨referenceMonth, resolution⟩ := resolve_eq_ok resolved
  obtain ⟨_, _, accepted⟩ := bind_eq_ok.mp accepted
  refine ⟨referenceMonth, resolution.month, fun seat member => ?_⟩
  obtain ⟨authority, found, checked⟩ := bind_eq_ok.mp (forM_eq_ok_iff.mp accepted seat member)
  have single := mem_singleton_self authority
  rw [← findAuthority_eq_ok_iff.mp found, mem_filter, beq_iff_eq] at single
  obtain ⟨entry, listed, record, evidence, approved, authorizes, rfl⟩ :=
    resolution.authorized single.1
  obtain ⟨identity, checked⟩ := check_eq_ok checked
  obtain ⟨target, checked⟩ := check_eq_ok checked
  obtain ⟨metadata, checked⟩ := check_eq_ok checked
  obtain ⟨scope, checked⟩ := check_eq_ok checked
  obtain ⟨requirement, _⟩ := check_eq_ok checked
  simp only [not_or, not_not, not_and] at identity target metadata requirement
  exact ⟨entry, listed, record, evidence, approved, authorizes,
    { game := ⟨single.2.symm, identity.2.2⟩
      provider := ⟨identity.1, identity.2.1, metadata⟩
      target
      scope := by simpa [UInt8.not_lt, UInt8.le_iff_toNat_le, authorityOf] using scope
      requirement }⟩

def sampleReview : RuntimeRequirementAuthorityReview where
  evidence := {
    resultId := "r", timestampBucket := "2026-01-01", gameId := "g", providerId := "p"
    hydraSeatVersion := "1", hydraSeatBuild := "1", windowsBuildClass := "w"
    architecture := "x64", launch := .pass, cleanExit := .pass, rollback := .pass
    origin := .physical, provenanceId := "p", provenanceRevision := 1 }
  game := {
    game := {
      gameId := "g", providerId := "p", title := [65], installRoot := [65]
      executableCandidates := [[65]] }
    staleness := .current
    mergedCandidateCount := 1 }
  provider := { providerId := "p", availability := .available, metadataRevision := 1 }

def sampleInputs : RequirementResolveInputs := candidateInputs sampleReview sampleReview.evidence

def sampleStore : RequirementEvidenceDocument where
  records := [{ catalogRecord "g" with catalogCompatibility := none }]

theorem sampleSnapshot_passes :
    ∃ snapshot,
      resolveTrustedGameRuntimeRequirements sampleStore sampleInputs = .ok snapshot ∧
        checkSnapshot snapshot true = .ok () :=
  ⟨_, rfl, @resolved_snapshot_passes sampleStore sampleInputs _ true rfl fun _ => rfl⟩

def samplePlan : ProviderAwareLaunchPlan where
  seats :=
    [{  gameId := "g", requirementRevision := 1
        launchRequest :=
          { providerId := "p", gameId := "g", metadataRevision := 1, target := [65] } }]

theorem samplePlan_sanctioned :
    ∃ snapshot,
      resolveTrustedGameRuntimeRequirements sampleStore sampleInputs = .ok snapshot ∧
        Sanctioned sampleStore sampleInputs snapshot samplePlan :=
  ⟨_, rfl, @accepted_plan_sanctioned sampleStore sampleInputs _ samplePlan true rfl rfl⟩

end Snapshots

end HydraSeat.Requirement
