import HydraSeat.Foundation.Transition
import HydraSeat.Installer.ArtifactTrust
import HydraSeat.Profile.ProfileSchema

/-!
# The catalog cache keeps one lineage

A catalog is applied when it is newer than the current one, of the same
lineage, and trusted.  The catalogs before it are kept for a rollback, the
newest last.
-/

namespace HydraSeat.Catalog

section

open Profile (GameRecord)

inductive ExecutableArchitecture where
  | unknown | x86 | x64 | arm64

inductive CatalogStaleness where
  | unknown | current | stale
  deriving DecidableEq

structure LocalGameCatalogEntry where
  game : GameRecord := {}
  localIconSource : Option WideString := none
  architecture : ExecutableArchitecture := .unknown
  staleness : CatalogStaleness := .unknown
  mergedCandidateCount : UInt32 := 0

structure LocalGameCatalog where
  entries : List LocalGameCatalogEntry := []

end

open Foundation List Trust

def kMaximumCatalogCacheHistory : Nat := 8

structure CatalogArtifact where
  catalogId : ByteString := []
  revision : UInt64 := 0
  (version expectedSha256 observedSha256 sourceId licenseId : ByteString := [])
  redistributionAllowed : Bool := false
  deriving DecidableEq

structure CatalogRefreshPolicy where
  (refreshChecksEnabled downloadsEnabled sourceConfigured : Bool := true)
  requireRedistributionPermission : Bool := false

inductive CatalogRefreshState where
  | applied | upToDate | disabled | offlineUsingCache | offlineNoCache | noSourceConfigured
  | downloadDisabled | rejected | rolledBack
  deriving DecidableEq

inductive CatalogRefreshCode where
  | success | invalidArtifact | staleRevision | trustRejected | noCurrentCache | noRollbackVersion

structure CatalogRefreshResult where
  state : CatalogRefreshState
  code : CatalogRefreshCode
  message : String

structure CatalogRefreshInput where
  networkAvailable : Bool := false
  downloaded : Option CatalogArtifact := none

/-- The ids and the hashes are checked as in the trust layer. -/
def validArtifact (artifact : CatalogArtifact) : Bool :=
  validId artifact.catalogId && artifact.revision != 0 && validId artifact.version &&
    validSha256 artifact.expectedSha256 && validSha256 artifact.observedSha256 &&
    validId artifact.sourceId && validId artifact.licenseId

def trustManifest (artifact : CatalogArtifact) : ArtifactManifest where
  artifactId := artifact.catalogId
  artifactClass := .dataCatalog
  artifactVersion := artifact.version
  architecture := .any
  expectedSha256 := artifact.expectedSha256
  sourceId := artifact.sourceId
  licenseId := artifact.licenseId
  redistributionAllowed := artifact.redistributionAllowed
  optional := true
  capabilityScope := ["compatibility-data", "two-player-setup"]

def trustObservation (artifact : CatalogArtifact) : ArtifactObservation where
  present := true
  artifactVersion := artifact.version
  architecture := .any
  observedSha256 := artifact.observedSha256
  signature := .notApplicable

variable (input : CatalogRefreshInput) (policy : CatalogRefreshPolicy) (trustPolicy : TrustPolicy)

def trustEvaluation (artifact : CatalogArtifact) : TrustEvaluation :=
  evaluateArtifact (trustManifest artifact) (trustObservation artifact)
    { trustPolicy with requireRedistributionPermission := policy.requireRedistributionPermission }

structure CatalogCacheModel where
  current : Option CatalogArtifact := none
  history : List CatalogArtifact := []

namespace CatalogCacheModel

variable (cache : CatalogCacheModel)

/-- The commit of a refresh: the oldest catalogs leave a history that is too long. -/
def apply (artifact : CatalogArtifact) : CatalogCacheModel where
  current := some artifact
  history :=
    match cache.current with
    | none => cache.history
    | some current =>
      let nextHistory := cache.history ++ [current]
      nextHistory.drop (nextHistory.length - kMaximumCatalogCacheHistory)

def refresh : CatalogRefreshResult × CatalogCacheModel :=
  if !policy.refreshChecksEnabled then
    (⟨.disabled, .success,
      "catalog refresh checks are disabled; current cache remains authoritative"⟩, cache)
  else if !policy.sourceConfigured then
    (⟨.noSourceConfigured, .success, "no optional catalog source is configured"⟩, cache)
  else if !input.networkAvailable then
    if cache.current.isSome then
      (⟨.offlineUsingCache, .success,
        "network unavailable; using last valid local catalog cache"⟩, cache)
    else
      (⟨.offlineNoCache, .success,
        "network unavailable; no optional catalog cache is installed"⟩, cache)
  else if !policy.downloadsEnabled then
    (⟨.downloadDisabled, .success,
      "catalog download is disabled; current cache remains unchanged"⟩, cache)
  else
    match input.downloaded with
    | none =>
      if cache.current.isSome then
        (⟨.upToDate, .success, "no newer catalog artifact was supplied"⟩, cache)
      else
        (⟨.offlineNoCache, .success, "no catalog artifact was supplied for first install"⟩, cache)
    | some artifact =>
      if !validArtifact artifact then
        (⟨.rejected, .invalidArtifact, "downloaded catalog artifact metadata is invalid"⟩, cache)
      else if cache.current.any fun current =>
          artifact.revision ≤ current.revision && current.catalogId == artifact.catalogId then
        if cache.current = some artifact then
          (⟨.upToDate, .success,
            "catalog cache already contains this exact trusted revision"⟩, cache)
        else
          (⟨.rejected, .staleRevision,
            "downloaded catalog revision is stale or conflicts with the installed " ++
              "revision metadata"⟩, cache)
      else
        let evaluation := trustEvaluation policy trustPolicy artifact
        if evaluation.decision ≠ .accept then
          (⟨.rejected, .trustRejected,
            "downloaded catalog failed trust validation: " ++ evaluation.message⟩, cache)
        else if cache.current.any fun current =>
            current.catalogId != artifact.catalogId || current.sourceId != artifact.sourceId then
          (⟨.rejected, .invalidArtifact,
            "downloaded catalog identity/provenance does not match the installed cache " ++
              "lineage"⟩, cache)
        else
          (⟨.applied, .success, "trusted data-only catalog revision applied to the local cache"⟩,
            cache.apply artifact)

def rollback : CatalogRefreshResult × CatalogCacheModel :=
  if cache.current.isNone then
    (⟨.rejected, .noCurrentCache, "no current catalog cache exists"⟩, cache)
  else
    match cache.history.getLast? with
    | none =>
      (⟨.rejected, .noRollbackVersion, "no previous valid catalog cache revision exists"⟩, cache)
    | some previous =>
      (⟨.rolledBack, .success, "previous valid catalog cache revision restored"⟩,
        { current := some previous, history := cache.history.dropLast })

inductive Operation where
  | refresh (input : CatalogRefreshInput) (policy : CatalogRefreshPolicy)
    (trustPolicy : TrustPolicy)
  | rollback
  | clear

def step : Operation → CatalogCacheModel
  | .refresh input policy trustPolicy => (cache.refresh input policy trustPolicy).2
  | .rollback => cache.rollback.2
  | .clear => {}

/-- The newer catalog continues the lineage of the other. -/
structure Continues (older newer : CatalogArtifact) : Prop where
  catalogId : newer.catalogId = older.catalogId
  sourceId : newer.sourceId = older.sourceId
  revision : older.revision < newer.revision

/-- What a refresh does, with the checks that it passed. -/
inductive Refreshed : CatalogRefreshResult × CatalogCacheModel → Prop
  | kept {result : CatalogRefreshResult} (unapplied : result.state ≠ .applied) :
      Refreshed (result, cache)
  | applied {result : CatalogRefreshResult} {artifact : CatalogArtifact}
      (isApplied : result.state = .applied) (downloaded : input.downloaded = some artifact)
      (trusted : (trustEvaluation policy trustPolicy artifact).decision = .accept)
      (newer : ∀ current, cache.current = some current → Continues current artifact) :
      Refreshed (result, cache.apply artifact)

theorem refresh_refreshed :
    cache.Refreshed input policy trustPolicy (cache.refresh input policy trustPolicy) := by
  unfold refresh
  split
  · exact .kept nofun
  split
  · exact .kept nofun
  split
  · split <;> exact .kept nofun
  split
  · exact .kept nofun
  split
  · split <;> exact .kept nofun
  next artifact downloaded =>
    split
    · exact .kept nofun
    split
    · split <;> exact .kept nofun
    next fresh =>
      dsimp only
      split
      · exact .kept nofun
      next trusted =>
        split
        · exact .kept nofun
        next same =>
          refine .applied rfl downloaded (not_not.mp trusted) fun current isCurrent => ?_
          simp only [isCurrent, Option.any_some, Bool.and_eq_true, decide_eq_true_eq,
            beq_iff_eq, not_and] at fresh
          simp only [isCurrent, Option.any_some, Bool.or_eq_true, bne_iff_ne, ne_eq, not_or,
            not_not] at same
          refine ⟨same.1.symm, same.2.symm, ?_⟩
          by_contra stale
          exact fresh (UInt64.not_lt.mp stale) same.1

/-- The catalogs that are kept, the current one last. -/
def retained : List CatalogArtifact := cache.history ++ cache.current.toList

/-- A refresh of the run applied the catalog, and its trust evaluation accepted it. -/
def AppliedIn (operations : List Operation) (artifact : CatalogArtifact) : Prop :=
  ∃ earlier input policy trustPolicy,
    earlier ++ [.refresh input policy trustPolicy] <+: operations ∧
      input.downloaded = some artifact ∧
      ((runFrom step {} earlier).refresh input policy trustPolicy).1.state = .applied ∧
      (trustEvaluation policy trustPolicy artifact).decision = .accept

structure Lineage (operations : List Operation) : Prop where
  anchored : cache.current = none → cache.history = []
  continued : cache.retained.Pairwise Continues
  trusted : ∀ artifact ∈ cache.retained, AppliedIn operations artifact

variable {input policy trustPolicy cache} {operations : List Operation} {operation : Operation}

theorem AppliedIn.later {artifact : CatalogArtifact} (applied : AppliedIn operations artifact) :
    AppliedIn (operations ++ [operation]) artifact := by
  obtain ⟨earlier, input, policy, trustPolicy, ran, applied⟩ := applied
  exact ⟨earlier, input, policy, trustPolicy, ran.trans (prefix_append _ _), applied⟩

theorem Lineage.of_sublist {next : CatalogCacheModel} (lineage : cache.Lineage operations)
    (anchored : next.current = none → next.history = [])
    (fewer : next.retained <+ cache.retained) :
    next.Lineage (operations ++ [operation]) where
  anchored := anchored
  continued := lineage.continued.sublist fewer
  trusted artifact member := (lineage.trusted artifact (fewer.subset member)).later

/-- The kept catalogs continue to the one that continues the current one. -/
theorem Lineage.continues (lineage : cache.Lineage operations) {artifact : CatalogArtifact}
    (newer : ∀ current, cache.current = some current → Continues current artifact) :
    ∀ kept ∈ cache.retained, Continues kept artifact := by
  intro kept member
  have continued := lineage.continued
  unfold retained at member continued
  cases isCurrent : cache.current with
  | none =>
    rw [isCurrent, lineage.anchored isCurrent] at member
    cases member
  | some current =>
    rw [isCurrent] at member continued
    have last := newer current isCurrent
    rcases mem_append.mp member with old | now
    · have before := (pairwise_append.mp continued).2.2 kept old current (mem_singleton.mpr rfl)
      exact ⟨last.catalogId.trans before.catalogId, last.sourceId.trans before.sourceId,
        UInt64.lt_trans before.revision last.revision⟩
    · rw [mem_singleton.mp now]
      exact last

theorem apply_retained (anchored : cache.current = none → cache.history = [])
    (artifact : CatalogArtifact) :
    ∃ kept, kept <+ cache.retained ∧ (cache.apply artifact).retained = kept ++ [artifact] := by
  unfold apply retained
  cases isCurrent : cache.current with
  | none => exact ⟨[], nil_sublist _, by rw [anchored isCurrent]; rfl⟩
  | some current => exact ⟨_, drop_sublist _ _, rfl⟩

theorem Lineage.refreshed (lineage : (runFrom step {} operations).Lineage operations)
    (input : CatalogRefreshInput) (policy : CatalogRefreshPolicy) (trustPolicy : TrustPolicy) :
    ((runFrom step {} operations).refresh input policy trustPolicy).2.Lineage
      (operations ++ [.refresh input policy trustPolicy]) := by
  have refreshed := (runFrom step {} operations).refresh_refreshed input policy trustPolicy
  generalize answered :
    (runFrom step {} operations).refresh input policy trustPolicy = answer at refreshed
  cases refreshed with
  | kept unapplied => exact lineage.of_sublist lineage.anchored (Sublist.refl _)
  | @applied _ artifact isApplied downloaded trusted newer =>
    obtain ⟨kept, fewer, isRetained⟩ := apply_retained lineage.anchored artifact
    refine ⟨nofun, ?_, ?_⟩
    · rw [isRetained]
      refine pairwise_append.mpr
        ⟨lineage.continued.sublist fewer, pairwise_singleton _ _, fun older member last now => ?_⟩
      rw [mem_singleton.mp now]
      exact lineage.continues newer older (fewer.subset member)
    intro other member
    rw [isRetained] at member
    rcases mem_append.mp member with old | now
    · exact (lineage.trusted other (fewer.subset old)).later
    · rw [mem_singleton.mp now]
      exact ⟨operations, input, policy, trustPolicy, prefix_refl _, downloaded,
        by rw [answered]; exact isApplied, trusted⟩

theorem Lineage.rolledBack (lineage : cache.Lineage operations) :
    cache.rollback.2.Lineage (operations ++ [operation]) := by
  unfold rollback
  split
  · exact lineage.of_sublist lineage.anchored (Sublist.refl _)
  split
  · exact lineage.of_sublist lineage.anchored (Sublist.refl _)
  next previous isLast =>
    refine lineage.of_sublist nofun ?_
    change cache.history.dropLast ++ [previous] <+ _
    rw [dropLast_append_getLast? previous isLast]
    exact sublist_append_left _ _

theorem run_lineage (operations : List Operation) :
    (runFrom step {} operations).Lineage operations := by
  induction operations using List.reverseRecOn with
  | nil => exact ⟨fun _ => rfl, Pairwise.nil, nofun⟩
  | append_singleton operations operation ih =>
    rw [runFrom_append]
    cases operation with
    | refresh input policy trustPolicy => exact ih.refreshed input policy trustPolicy
    | rollback => exact ih.rolledBack
    | clear => exact ih.of_sublist (fun _ => rfl) (nil_sublist _)

/-- A rollback restores what an applied refresh replaced. -/
theorem rollback_apply {previous : CatalogArtifact} (isPrevious : cache.current = some previous)
    (artifact : CatalogArtifact) :
    (cache.apply artifact).rollback.2.current = some previous ∧
      (cache.history.length < kMaximumCatalogCacheHistory →
        (cache.apply artifact).rollback.2.history = cache.history) := by
  have kept :
      (cache.apply artifact).history =
        cache.history.drop (cache.history.length + 1 - kMaximumCatalogCacheHistory) ++
          [previous] := by
    unfold apply
    rw [isPrevious, ← drop_append_of_le_length]
    · simp
    · unfold kMaximumCatalogCacheHistory
      omega
  unfold rollback
  rw [if_neg (by simp [apply]), kept, getLast?_concat]
  refine ⟨rfl, fun room => ?_⟩
  rw [dropLast_concat, Nat.sub_eq_zero_of_le room, drop_zero]

/-- In every run the kept catalogs are one lineage that was trusted, a refresh
that is not applied changes nothing, and a rollback behind one that is applied
restores the catalog and, unless it was full, the history before it. -/
theorem cache_lineage (operations : List Operation) : let cache := runFrom step {} operations
    cache.Lineage operations ∧
      ∀ input policy trustPolicy, let refreshed := cache.refresh input policy trustPolicy
        (refreshed.1.state ≠ .applied → refreshed.2 = cache) ∧
          (refreshed.1.state = .applied →
            ∀ previous, cache.current = some previous →
              refreshed.2.rollback.2.current = some previous ∧
                (cache.history.length < kMaximumCatalogCacheHistory →
                  refreshed.2.rollback.2.history = cache.history)) := by
  refine ⟨run_lineage operations, fun input policy trustPolicy => ?_⟩
  have refreshed := (runFrom step {} operations).refresh_refreshed input policy trustPolicy
  generalize (runFrom step {} operations).refresh input policy trustPolicy = answer at refreshed ⊢
  cases refreshed with
  | kept unapplied => exact ⟨fun _ => rfl, fun applied => absurd applied unapplied⟩
  | applied isApplied _ _ _ =>
    exact ⟨fun unapplied => absurd isApplied unapplied,
      fun _ _ isPrevious => rollback_apply isPrevious _⟩

end CatalogCacheModel

end HydraSeat.Catalog
