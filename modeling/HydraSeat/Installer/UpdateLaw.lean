import HydraSeat.Foundation.SelfDelimiting
import HydraSeat.Installer.TransactionOutcome
import HydraSeat.Installer.UpdateTransaction

/-!
# An approval names what is installed

Every field of the identity ends itself, so accepted offers with one identity
are one offer, up to the order of the components.  An update that succeeds has
installed that offer over the state that was previewed.
-/

namespace HydraSeat.Update

open Foundation
open Foundation.Command
open Installer List Trust

def spellNumber (value : Nat) : ByteString := decimal value ++ [124]

def spellField (value : ByteString) : ByteString :=
  (decimal value.length ++ [58]) ++ (value ++ [124])

def spellFlag (value : Bool) : ByteString := spellNumber (if value then 1 else 0)

theorem spellNumber_delimiting : SelfDelimiting spellNumber := by
  refine selfDelimiting_stop decimal_injective fun value member => ?_
  have bounds := decimal_digit member
  exact absurd bounds.2 (by decide)

theorem spellField_delimiting : SelfDelimiting spellField := by
  have counts : SelfDelimiting fun length => decimal length ++ [58] := by
    refine selfDelimiting_stop decimal_injective fun value member => ?_
    have bounds := decimal_digit member
    exact absurd bounds.2 (by decide)
  exact selfDelimiting_counted counts

theorem spellFlag_delimiting : SelfDelimiting spellFlag := by
  intro first second before after same
  obtain ⟨numbers, rest⟩ := spellNumber_delimiting _ _ _ _ same
  refine ⟨?_, rest⟩
  cases first <;> cases second <;> first | rfl | cases numbers

def canonicalManifest (manifest : ArtifactManifest) : ArtifactManifest :=
  { manifest with capabilityScope := sortCapabilities manifest.capabilityScope }

def canonical (component : PackageComponent) : PackageComponent :=
  { component with manifest := canonicalManifest component.manifest }

def spellManifest (manifest : ArtifactManifest) : ByteString :=
  spellNumber manifest.schemaVersion.toNat ++ spellField manifest.artifactId ++
    spellNumber manifest.artifactClass.code.toNat ++
    spellField manifest.artifactVersion ++
    spellNumber manifest.architecture.code.toNat ++
    spellField manifest.expectedSha256 ++ spellField manifest.sourceId ++
    spellField manifest.licenseId ++
    spellFlag manifest.redistributionAllowed ++ spellFlag manifest.optional ++
    spellFlag manifest.developmentBuild ++
    spellFlag manifest.requiresInstall ++
    spellFlag manifest.requiresRestart ++
    spellFlag manifest.requiresRecoveryPlan ++
    spellNumber manifest.capabilityScope.length ++
    manifest.capabilityScope.flatMap spellField

def spellObservation (observation : ArtifactObservation) : ByteString :=
  spellFlag observation.present ++ spellField observation.artifactVersion ++
    spellNumber observation.architecture.code.toNat ++
    spellField observation.observedSha256 ++
    spellNumber observation.signature.code.toNat ++
    spellField observation.publisherIdentity

def spellComponent (component : PackageComponent) : ByteString :=
  spellNumber component.component.code.toNat ++ spellManifest component.manifest ++
    spellObservation component.observation

theorem appendIdentityField_eq (identity value : ByteString) :
    appendIdentityField identity value = identity ++ spellField value := by
  simp only [appendIdentityField, spellField, append_assoc]

theorem appendIdentityNumber_eq (identity : ByteString) (value : Nat) :
    appendIdentityNumber identity value = identity ++ spellNumber value := by
  simp only [appendIdentityNumber, spellNumber, append_assoc]

theorem appendIdentityFlag_eq (identity : ByteString) (value : Bool) :
    appendIdentityFlag identity value = identity ++ spellFlag value :=
  appendIdentityNumber_eq identity _

theorem foldl_appendIdentityField (identity : ByteString) (values : List ByteString) :
    values.foldl appendIdentityField identity = identity ++ values.flatMap spellField := by
  induction values generalizing identity with
  | nil => exact (append_nil identity).symm
  | cons value rest ih => rw [foldl_cons, ih, appendIdentityField_eq, flatMap_cons, append_assoc]

theorem appendComponent_eq (identity : ByteString) (component : PackageComponent) :
    appendComponent identity component = identity ++ spellComponent (canonical component) := by
  simp only [appendComponent, appendManifest, appendObservation,
    spellComponent, spellManifest, spellObservation, canonical,
    canonicalManifest, appendIdentityNumber_eq, appendIdentityField_eq,
    appendIdentityFlag_eq, foldl_appendIdentityField, append_assoc]

theorem code_toNat_injective {Value : Type} {code : Value → UInt8}
    (injective : Function.Injective code) :
    Function.Injective fun value => (code value).toNat :=
  fun _ _ same => injective (UInt8.toNat_inj.mp same)

theorem component_code_injective : Function.Injective OwnedComponent.code := by
  intro first second same
  cases first <;> cases second <;> first | rfl | cases same

theorem class_code_injective : Function.Injective ArtifactClass.code := by
  intro first second same
  cases first <;> cases second <;> first | rfl | cases same

theorem architecture_code_injective : Function.Injective ArtifactArchitecture.code := by
  intro first second same
  cases first <;> cases second <;> first | rfl | cases same

theorem signature_code_injective : Function.Injective SignatureState.code := by
  intro first second same
  cases first <;> cases second <;> first | rfl | cases same

theorem spellManifest_delimiting : SelfDelimiting spellManifest := by
  intro first second before after same
  simp only [spellManifest, append_assoc] at same
  obtain ⟨schemaVersion, same⟩ := spellNumber_delimiting _ _ _ _ same
  obtain ⟨artifactId, same⟩ := spellField_delimiting _ _ _ _ same
  obtain ⟨artifactClass, same⟩ := spellNumber_delimiting _ _ _ _ same
  obtain ⟨artifactVersion, same⟩ := spellField_delimiting _ _ _ _ same
  obtain ⟨architecture, same⟩ := spellNumber_delimiting _ _ _ _ same
  obtain ⟨expectedSha256, same⟩ := spellField_delimiting _ _ _ _ same
  obtain ⟨sourceId, same⟩ := spellField_delimiting _ _ _ _ same
  obtain ⟨licenseId, same⟩ := spellField_delimiting _ _ _ _ same
  obtain ⟨redistribution, same⟩ := spellFlag_delimiting _ _ _ _ same
  obtain ⟨isOptional, same⟩ := spellFlag_delimiting _ _ _ _ same
  obtain ⟨development, same⟩ := spellFlag_delimiting _ _ _ _ same
  obtain ⟨installs, same⟩ := spellFlag_delimiting _ _ _ _ same
  obtain ⟨restarts, same⟩ := spellFlag_delimiting _ _ _ _ same
  obtain ⟨recovery, same⟩ := spellFlag_delimiting _ _ _ _ same
  obtain ⟨length, same⟩ := spellNumber_delimiting _ _ _ _ same
  obtain ⟨capabilities, rest⟩ := spellField_delimiting.flatMap length same
  refine ⟨?_, rest⟩
  cases first
  cases second
  rw [ArtifactManifest.mk.injEq]
  exact ⟨UInt32.toNat_inj.mp schemaVersion, artifactId,
    code_toNat_injective class_code_injective artifactClass, artifactVersion,
    code_toNat_injective architecture_code_injective architecture,
    expectedSha256, sourceId, licenseId, redistribution, isOptional,
    development, installs, restarts, recovery, capabilities⟩

theorem spellObservation_delimiting : SelfDelimiting spellObservation := by
  intro first second before after same
  simp only [spellObservation, append_assoc] at same
  obtain ⟨present, same⟩ := spellFlag_delimiting _ _ _ _ same
  obtain ⟨artifactVersion, same⟩ := spellField_delimiting _ _ _ _ same
  obtain ⟨architecture, same⟩ := spellNumber_delimiting _ _ _ _ same
  obtain ⟨observedSha256, same⟩ := spellField_delimiting _ _ _ _ same
  obtain ⟨signature, same⟩ := spellNumber_delimiting _ _ _ _ same
  obtain ⟨publisher, rest⟩ := spellField_delimiting _ _ _ _ same
  refine ⟨?_, rest⟩
  cases first
  cases second
  rw [ArtifactObservation.mk.injEq]
  exact ⟨present, artifactVersion, code_toNat_injective architecture_code_injective architecture,
    observedSha256, code_toNat_injective signature_code_injective signature,
    publisher⟩

theorem spellComponent_delimiting : SelfDelimiting spellComponent := by
  intro first second before after same
  simp only [spellComponent, append_assoc] at same
  obtain ⟨component, same⟩ := spellNumber_delimiting _ _ _ _ same
  obtain ⟨manifest, same⟩ := spellManifest_delimiting _ _ _ _ same
  obtain ⟨observation, rest⟩ := spellObservation_delimiting _ _ _ _ same
  refine ⟨?_, rest⟩
  cases first
  cases second
  rw [PackageComponent.mk.injEq]
  exact ⟨code_toNat_injective component_code_injective component, manifest, observation⟩

section Accepted

variable {package : InstallerPackage} {policy : TrustPolicy} {environment : InstallerEnvironment}
variable {components : List PackageComponent}

theorem checkComponents_ok {seen found : List OwnedComponent}
    (checked : checkComponents package policy seen components = .ok found) :
    ∀ component ∈ components,
      ∃ contract, meetsContract package contract component.manifest = true := by
  induction components generalizing seen with
  | nil =>
    intro component member
    cases member
  | cons head rest ih =>
    unfold checkComponents at checked
    split at checked
    · cases checked
    next contract _ =>
      obtain ⟨_, checked⟩ := not_taken checked nofun
      split at checked
      · cases checked
      next meets =>
        dsimp only at checked
        obtain ⟨_, checked⟩ := not_taken checked nofun
        intro component member
        rcases mem_cons.mp member with rfl | later
        · rw [Bool.not_eq_true', Bool.not_eq_false] at meets
          exact ⟨contract, meets⟩
        · exact ih checked component later

theorem checkComponents_error {seen : List OwnedComponent} {diagnostic : InstallerDiagnostic}
    (failed : checkComponents package policy seen components = .error diagnostic) :
    diagnostic.succeeded = false := by
  induction components generalizing seen with
  | nil => cases failed
  | cons head rest ih =>
    unfold checkComponents at failed
    split at failed
    · cases failed
      rfl
    split at failed
    · cases failed
      rfl
    split at failed
    · cases failed
      rfl
    dsimp only at failed
    split at failed
    · cases failed
      rfl
    · exact ih failed

/-- What the installer accepts has one capability in each component. -/
structure AcceptedPackage (package : InstallerPackage) : Prop where
  schemaVersion : package.schemaVersion = kInstallerContractVersion
  count : package.components.length = kContracts.length
  capability :
    ∀ component ∈ package.components,
      ∃ capability, component.manifest.capabilityScope = [capability]

theorem validatePackage_accepted
    (valid : (validatePackageInternal package environment policy).succeeded = true) :
    AcceptedPackage package := by
  unfold validatePackageInternal at valid
  split at valid
  · cases valid
  next fields =>
    simp only [not_or, not_not] at fields
    split at valid
    · cases valid
    split at valid
    next diagnostic failed =>
      rw [checkComponents_error failed] at valid
      cases valid
    next seen checked =>
      refine ⟨fields.1, fields.2.2.2.1, fun component member => ?_⟩
      obtain ⟨contract, meets⟩ := checkComponents_ok checked component member
      unfold meetsContract at meets
      rw [Bool.and_eq_true, beq_iff_eq] at meets
      exact ⟨_, meets.2⟩

end Accepted

section Offers

variable {current : InstalledState} {offer : ApplicationUpdateOffer}
  {direction : UpdateDirection} {environment : InstallerEnvironment}
  {policy : TrustPolicy} {preview : UpdatePreview}
variable {revision target : UInt64} {installed : InstallerDiagnostic}

/-- The revision moves as the direction says. -/
def Moves (direction : UpdateDirection) (current target : UInt64) : Prop :=
  match direction with
  | .upgrade => current < target
  | .rollback => target < current

theorem checkRevision_none (passed : checkRevision direction revision target = none) :
    Moves direction revision target := by
  unfold checkRevision at passed
  unfold Moves
  cases direction with
  | upgrade =>
    dsimp only at passed
    split at passed
    · cases passed
    next later => exact UInt64.not_le.mp later
  | rollback =>
    dsimp only at passed
    split at passed
    · cases passed
    next earlier => exact UInt64.not_le.mp earlier

/-- What an accepted offer has passed. -/
structure AcceptedOffer (current : InstalledState) (offer : ApplicationUpdateOffer)
    (direction : UpdateDirection) (preview : UpdatePreview) : Prop where
  schemaVersion : offer.schemaVersion = kUpdateContractVersion
  package : AcceptedPackage offer.package
  moves : Moves direction current.installedRevision offer.package.releaseRevision
  identity : preview.approvalIdentity = makeApprovalIdentity offer
  valid : makeApprovalIdentity offer ≠ invalidIdentity

theorem preview_accepted
    (accepted : previewApplicationUpdate current offer direction environment policy = .ok preview) :
    AcceptedOffer current offer direction preview := by
  unfold previewApplicationUpdate at accepted
  obtain ⟨metadata, accepted⟩ := not_taken accepted nofun
  simp only [not_or, not_not] at metadata
  obtain ⟨_, accepted⟩ := not_taken accepted nofun
  dsimp only at accepted
  obtain ⟨validated, accepted⟩ := not_taken accepted nofun
  rw [Bool.not_eq_true', Bool.not_eq_false] at validated
  split at accepted
  · cases accepted
  next moved =>
    obtain ⟨identity, accepted⟩ := not_taken accepted nofun
    cases accepted
    rw [not_or] at identity
    have valid : (validatePackageInternal offer.package environment policy).succeeded = true := by
      unfold validateInstallerPackage at validated
      split at validated
      · cases validated
      · exact validated
    exact ⟨metadata.1, validatePackage_accepted valid, checkRevision_none moved, rfl, identity.1⟩

theorem appendComponents_eq (identity : ByteString) (components : List PackageComponent) :
    appendComponents identity components = invalidIdentity ∨
      appendComponents identity components =
        identity ++ (components.map canonical).flatMap spellComponent := by
  induction components generalizing identity with
  | nil => exact .inr (append_nil identity).symm
  | cons component rest ih =>
    unfold appendComponents
    split
    · exact .inl rfl
    dsimp only
    split
    · exact .inl rfl
    rcases ih (appendComponent identity component) with
      invalid | spelled
    · exact .inl invalid
    · rw [spelled, appendComponent_eq, map_cons, flatMap_cons, append_assoc]
      exact .inr rfl

theorem appendComponents_spelled (identity : ByteString) (components : List PackageComponent)
    (fit : components.all (!componentExceeds ·) = true)
    (bound :
      (identity ++ (components.map canonical).flatMap spellComponent).length ≤
        kMaximumApprovalIdentityBytes) :
    appendComponents identity components =
      identity ++ (components.map canonical).flatMap spellComponent := by
  induction components generalizing identity with
  | nil => exact (append_nil identity).symm
  | cons component rest ih =>
    simp only [all_cons, Bool.and_eq_true, Bool.not_eq_true'] at fit
    rw [map_cons, flatMap_cons, ← append_assoc, ← appendComponent_eq] at bound ⊢
    rw [length_append] at bound
    unfold appendComponents
    rw [if_neg (Bool.eq_false_iff.mp fit.1)]
    dsimp only
    rw [if_neg (by omega)]
    exact ih _ fit.2 (by rw [length_append]; exact bound)

def spellHeader (offer : ApplicationUpdateOffer) : ByteString :=
  spellNumber offer.schemaVersion.toNat ++ spellField offer.package.releaseVersion ++
    spellNumber offer.package.releaseRevision.toNat ++
    spellNumber offer.package.architecture.code.toNat ++
    spellField offer.releaseNotesId ++ spellFlag offer.restartRecommended

def spellIdentity (offer : ApplicationUpdateOffer) : ByteString :=
  "app-update-v3|" ++
    (spellHeader offer ++
      ((canonicalComponents offer.package).map canonical).flatMap spellComponent)

theorem identityHeader_eq : identityHeader offer = "app-update-v3|" ++ spellHeader offer := by
  simp only [identityHeader, spellHeader, appendIdentityNumber_eq,
    appendIdentityField_eq, appendIdentityFlag_eq, append_assoc]

theorem makeApprovalIdentity_eq (valid : makeApprovalIdentity offer ≠ invalidIdentity) :
    makeApprovalIdentity offer = spellIdentity offer := by
  unfold makeApprovalIdentity at valid ⊢
  split at valid
  next invalid => exact absurd rfl valid
  next usable =>
    rw [if_neg usable]
    rcases appendComponents_eq (identityHeader offer)
      (canonicalComponents offer.package) with invalid | spelled
    · exact absurd invalid valid
    · rw [spelled, identityHeader_eq, append_assoc]
      rfl

structure Identifiable (offer : ApplicationUpdateOffer) : Prop where
  named :
    (offer.package.components.isEmpty ||
      offer.package.components.length > kMaximumInstallerComponents ||
      offer.package.releaseVersion.isEmpty ||
      offer.package.releaseVersion.length > 64 ||
      offer.releaseNotesId.isEmpty || offer.releaseNotesId.length > 128) =
      false
  fit : (canonicalComponents offer.package).all (!componentExceeds ·) = true
  bound : (spellIdentity offer).length ≤ kMaximumApprovalIdentityBytes

theorem Identifiable.identity (identifiable : Identifiable offer) :
    makeApprovalIdentity offer = spellIdentity offer := by
  have bound := identifiable.bound
  unfold spellIdentity at bound ⊢
  unfold makeApprovalIdentity
  rw [← append_assoc, ← identityHeader_eq] at bound ⊢
  rw [if_neg (Bool.eq_false_iff.mp identifiable.named)]
  exact appendComponents_spelled _ _ identifiable.fit bound

theorem spellIdentity_valid : spellIdentity offer ≠ invalidIdentity := by
  intro same
  have heads := congrArg (List.take 14) same
  unfold spellIdentity at heads
  rw [take_append_of_le_length (by decide)] at heads
  exact absurd heads (by decide)

theorem preview_identifiable
    (metadata :
      ¬(offer.schemaVersion ≠ kUpdateContractVersion ∨ !validId offer.releaseNotesId ∨
        !validInstalledStateForPreview current))
    (architecture :
      ¬(current.architecture ≠ environment.architecture ∨
        offer.package.architecture ≠ current.architecture))
    (validated : (validateInstallerPackage offer.package environment policy).succeeded = true)
    (moves : checkRevision direction current.installedRevision offer.package.releaseRevision = none)
    (identifiable : Identifiable offer) :
    previewApplicationUpdate current offer direction environment policy =
      .ok
        { direction
          currentVersion := current.installedVersion
          currentRevision := current.installedRevision
          targetVersion := offer.package.releaseVersion
          targetRevision := offer.package.releaseRevision
          releaseNotesId := offer.releaseNotesId
          restartRecommended := offer.restartRecommended
          approvalIdentity := spellIdentity offer } := by
  unfold previewApplicationUpdate
  rw [if_neg metadata, if_neg architecture]
  dsimp only
  rw [if_neg (by rw [validated]; exact nofun), moves, identifiable.identity]
  exact if_neg (not_or.mpr ⟨spellIdentity_valid, Nat.not_lt.mpr identifiable.bound⟩)

theorem AcceptedPackage.canonical
    {package : InstallerPackage} (accepted : AcceptedPackage package) :
    (canonicalComponents package).map canonical = canonicalComponents package := by
  have all (component : PackageComponent) (member : component ∈ canonicalComponents package) :
      Update.canonical component = component := by
    have inPackage : component ∈ package.components := (perm_insertionSort _ _).subset member
    obtain ⟨capability, scope⟩ := accepted.capability component inPackage
    unfold Update.canonical canonicalManifest
    rw [scope]
    change
      { component with
          manifest :=
            { component.manifest with capabilityScope := [capability] } } =
        component
    rw [← scope]
  exact (map_congr_left all).trans (map_id _)

structure SameOffer (left right : ApplicationUpdateOffer) : Prop where
  schemaVersion : left.schemaVersion = right.schemaVersion
  releaseNotesId : left.releaseNotesId = right.releaseNotesId
  restartRecommended : left.restartRecommended = right.restartRecommended
  packageSchema : left.package.schemaVersion = right.package.schemaVersion
  releaseVersion : left.package.releaseVersion = right.package.releaseVersion
  releaseRevision : left.package.releaseRevision = right.package.releaseRevision
  architecture : left.package.architecture = right.package.architecture
  components : left.package.components.Perm right.package.components

theorem installer_architecture_code_injective : Function.Injective InstallerArchitecture.code := by
  intro first second same
  cases first <;> cases second <;> first | rfl | cases same

theorem sameOffer_of_identity {otherCurrent : InstalledState} {other : ApplicationUpdateOffer}
    {otherDirection : UpdateDirection} {otherPreview : UpdatePreview}
    (accepted : AcceptedOffer current offer direction preview)
    (otherAccepted : AcceptedOffer otherCurrent other otherDirection otherPreview)
    (same : preview.approvalIdentity = otherPreview.approvalIdentity) :
    SameOffer offer other := by
  rw [accepted.identity, otherAccepted.identity, makeApprovalIdentity_eq accepted.valid,
    makeApprovalIdentity_eq otherAccepted.valid, spellIdentity, spellIdentity,
    append_cancel_left_eq] at same
  simp only [spellHeader, append_assoc] at same
  obtain ⟨schemaVersion, same⟩ := spellNumber_delimiting _ _ _ _ same
  obtain ⟨releaseVersion, same⟩ := spellField_delimiting _ _ _ _ same
  obtain ⟨releaseRevision, same⟩ := spellNumber_delimiting _ _ _ _ same
  obtain ⟨architecture, same⟩ := spellNumber_delimiting _ _ _ _ same
  obtain ⟨releaseNotesId, same⟩ := spellField_delimiting _ _ _ _ same
  obtain ⟨restartRecommended, same⟩ := spellFlag_delimiting _ _ _ _ same
  rw [accepted.package.canonical, otherAccepted.package.canonical] at same
  have length :
      (canonicalComponents offer.package).length = (canonicalComponents other.package).length := by
    unfold canonicalComponents sortByComponent
    rw [length_insertionSort, length_insertionSort,
      accepted.package.count, otherAccepted.package.count]
  have texts :
      (canonicalComponents offer.package).flatMap spellComponent ++ [] =
        (canonicalComponents other.package).flatMap spellComponent ++ [] := by
    rw [same]
  obtain ⟨components, _⟩ := spellComponent_delimiting.flatMap length texts
  have sorted := perm_insertionSort
    (fun left right : PackageComponent =>
      left.component.code ≤ right.component.code) offer.package.components
  have otherSorted := perm_insertionSort
    (fun left right : PackageComponent =>
      left.component.code ≤ right.component.code) other.package.components
  unfold canonicalComponents sortByComponent at components
  rw [components] at sorted
  exact ⟨UInt32.toNat_inj.mp schemaVersion, releaseNotesId, restartRecommended,
    accepted.package.schemaVersion.trans otherAccepted.package.schemaVersion.symm,
    releaseVersion, UInt64.toNat_inj.mp releaseRevision,
    code_toNat_injective installer_architecture_code_injective architecture,
    sorted.symm.trans otherSorted⟩

/-- What an update has done when it succeeds. -/
structure Applied (current : InstalledState) (offer : ApplicationUpdateOffer)
    (direction : UpdateDirection) (approval : UpdateApproval)
    (options : InstallerOptions) (events : List InstallerEvent)
    (receipt : InstallerReceipt) : Prop where
  userApproved : approval.userApproved = true
  /-- Whatever accepted offer has the approved identity is installed. -/
  approved :
    ∀ otherCurrent other otherDirection environment policy preview,
      previewApplicationUpdate otherCurrent other otherDirection environment policy = .ok preview →
      preview.approvalIdentity = approval.approvalIdentity → SameOffer other offer
  staged : ⟨.stageInstallOrRepair .repair offer.package options, true⟩ ∈ events
  installed :
    ∃ previous installed,
      ⟨.previousState, some previous⟩ ∈ events ∧ SameState current previous ∧
        ⟨.verify (some installed), true⟩ ∈ events ∧
        receipt.resultingState = some installed ∧
        installed = stateFromPackage offer.package options previous.userProfilesPresent ∧
        Moves direction previous.installedRevision installed.installedRevision ∧
        installed.startupMode = previous.startupMode

variable {approval : UpdateApproval} {options : InstallerOptions}
  {events : List InstallerEvent} {receipt : InstallerReceipt}
  {diagnostic : UpdateDiagnostic} {result : InstallerReceipt}

theorem checkApproval_none (passed : checkApproval current preview approval options = none) :
    approval.userApproved = true ∧ approval.approvalIdentity = preview.approvalIdentity ∧
      options.startupMode = current.startupMode := by
  unfold checkApproval at passed
  obtain ⟨approved, passed⟩ := not_taken passed nofun
  obtain ⟨identity, passed⟩ := not_taken passed nofun
  obtain ⟨mode, passed⟩ := not_taken passed nofun
  rw [Bool.not_eq_true', Bool.not_eq_false] at approved
  exact ⟨approved, not_not.mp identity, not_not.mp mode⟩

theorem checkApproval_some
    (refused : checkApproval current preview approval options = some diagnostic) :
    diagnostic.code ≠ .success := by
  unfold checkApproval at refused
  split at refused
  · cases refused
    exact nofun
  split at refused
  · cases refused
    exact nofun
  · split at refused
    · cases refused
      exact nofun
    · cases refused

theorem checkRevision_some (refused : checkRevision direction revision target = some diagnostic) :
    diagnostic.code ≠ .success := by
  unfold checkRevision at refused
  split at refused
  · split at refused
    · cases refused
      exact nofun
    · cases refused
  · split at refused
    · cases refused
      exact nofun
    · cases refused

theorem preview_error
    (refused :
      previewApplicationUpdate current offer direction environment policy = .error diagnostic) :
    diagnostic.code ≠ .success := by
  unfold previewApplicationUpdate at refused
  split at refused
  · cases refused
    exact nofun
  split at refused
  · cases refused
    exact nofun
  dsimp only at refused
  split at refused
  · cases refused
    change (if _ then UpdateCode.architectureMismatch else _) ≠ _
    split
    · exact nofun
    · exact nofun
  · split at refused
    next moved =>
      cases refused
      exact checkRevision_some moved
    next =>
      split at refused
      · cases refused
        exact nofun
      · cases refused

theorem updateOutcome_success (success : (updateOutcome installed).code = .success) :
    installed.code = .success := by
  unfold updateOutcome at success
  split at success
  · cases success
  split at success
  · cases success
  next succeeded =>
    rw [Bool.not_eq_true', Bool.not_eq_false] at succeeded
    exact beq_iff_eq.mp succeeded

theorem apply_trace (receipt : InstallerReceipt)
    (previewed : previewApplicationUpdate current offer direction environment policy = .ok preview)
    (approved : checkApproval current preview approval options = none)
    (ran :
      Trace
        (executeInstallerTransactionCompareAndSwap .repair
          (some offer.package) current environment options policy)
        events (installed, result)) :
    Trace
      (applyApplicationUpdate current offer direction approval environment options policy receipt)
      events (updateOutcome installed, result) := by
  unfold applyApplicationUpdate
  rw [previewed]
  dsimp only
  rw [approved]
  exact trace_bind_iff.mpr
    ⟨events, [], (installed, result), (append_nil events).symm, ran, trace_pure_iff.mpr ⟨rfl, rfl⟩⟩

theorem apply_applied
    (trace :
      Trace
        (applyApplicationUpdate current offer direction approval environment options policy receipt)
        events (diagnostic, result))
    (success : diagnostic.code = .success) :
    Applied current offer direction approval options events result := by
  unfold applyApplicationUpdate at trace
  split at trace
  next failed refused =>
    obtain ⟨rfl, same⟩ := trace_pure_iff.mp trace
    obtain ⟨rfl, rfl⟩ := Prod.mk.inj same
    exact absurd success (preview_error refused)
  next preview previewed =>
    split at trace
    next failed refused =>
      obtain ⟨rfl, same⟩ := trace_pure_iff.mp trace
      obtain ⟨rfl, rfl⟩ := Prod.mk.inj same
      exact absurd success (checkApproval_some refused)
    next passed =>
      obtain ⟨calls, none, ⟨installed, outcome⟩, rfl, ran, returned⟩ := trace_bind_iff.mp trace
      obtain ⟨rfl, same⟩ := trace_pure_iff.mp returned
      obtain ⟨rfl, rfl⟩ := Prod.mk.inj same
      rw [append_nil]
      have accepted := preview_accepted previewed
      obtain ⟨userApproved, identity, mode⟩ := checkApproval_none passed
      have law := installer_outcome ran
      have installedOk := updateOutcome_success success
      obtain ⟨transactionId, previous, staged, stages, isEvents⟩ := law.succeeded.mp installedOk
      obtain ⟨captured, isCaptured, verified, resulting, _⟩ := law.applied installedOk
      cases stages with
      | uninstall _ action => cases action
      | installOrRepair package _ _ isPackage =>
        obtain rfl := Option.some.inj isPackage
        have unique (other : Option InstalledState) (member : ⟨.previousState, other⟩ ∈ calls) :
            other = previous := by
          rw [isEvents] at member
          simpa [captureEvents, committedEvents] using member
        have isStaged :
            (⟨.stageInstallOrRepair .repair offer.package options, true⟩ :
              InstallerEvent) ∈ calls := by
          rw [isEvents]
          exact mem_append_right _ mem_cons_self
        obtain ⟨seen, isSeen, allowed⟩ := law.unchanged _ isStaged (.inr (.inr ⟨_, _, _, rfl⟩))
        obtain ⟨state, rfl, same⟩ := allowed current rfl
        obtain rfl := (unique _ isSeen).symm
        obtain rfl := unique _ isCaptured
        refine ⟨userApproved, ?_, isStaged, state, _, isSeen, same, verified,
          resulting, rfl, ?_, ?_⟩
        · intro otherCurrent other otherDirection otherEnvironment
            otherPolicy otherPreview otherPreviewed approved
          exact sameOffer_of_identity (preview_accepted otherPreviewed)
            accepted (approved.trans identity)
        · rw [← same.installedRevision]
          exact accepted.moves
        · rw [← same.startupMode]
          exact mode

end Offers

/-- Accepted offers with one approval identity agree but for the order of
their components, and an update that succeeds has installed the approved offer
over the previewed state. -/
theorem update_approval :
    (∀ current offer direction environment policy preview,
      previewApplicationUpdate current offer direction environment policy = .ok preview →
        ∀ otherCurrent other otherDirection otherEnvironment otherPolicy otherPreview,
        previewApplicationUpdate otherCurrent other otherDirection otherEnvironment otherPolicy =
          .ok otherPreview →
        preview.approvalIdentity = otherPreview.approvalIdentity → SameOffer offer other) ∧
      ∀ current offer direction approval environment options policy receipt events outcome,
      Trace
          (applyApplicationUpdate current offer direction approval environment
            options policy receipt)
          events outcome →
        outcome.1.code = .success →
          Applied current offer direction approval options events outcome.2 := by
  constructor
  · intro current offer direction environment policy preview accepted
      otherCurrent other otherDirection otherEnvironment otherPolicy
      otherPreview otherAccepted same
    exact sameOffer_of_identity (preview_accepted accepted) (preview_accepted otherAccepted) same
  · intro current offer direction approval environment options policy receipt
      events outcome trace success
    exact apply_applied trace success

section Example

def sampleDigest : ByteString := List.replicate 64 48

def sampleComponent (contract : ComponentContract) : PackageComponent where
  component := contract.component
  manifest :=
    { artifactId := contract.artifactId, artifactClass := .executable
      artifactVersion := "2.0", architecture := .x64, expectedSha256 := sampleDigest
      sourceId := "source", licenseId := "license", developmentBuild := true
      requiresInstall := true, requiresRecoveryPlan := true
      capabilityScope := [contract.capability] }
  observation :=
    { present := true, artifactVersion := "2.0", architecture := .x64
      observedSha256 := sampleDigest, signature := .missing }

def samplePolicy : TrustPolicy where
  allowUnsignedDevelopmentExecutables := true
  allowedSourceIds := ["source"]
  allowedCapabilities := kContracts.map (·.capability)

def sampleOffer (contracts : List ComponentContract) : ApplicationUpdateOffer where
  releaseNotesId := "notes"
  package :=
    { releaseVersion := "2.0", releaseRevision := 2
      components := contracts.map sampleComponent }

def samplePreview : UpdatePreview where
  currentVersion := "1.0"
  currentRevision := 1
  targetVersion := "2.0"
  targetRevision := 2
  releaseNotesId := "notes"
  approvalIdentity := spellIdentity (sampleOffer kContracts)

def sampleInstall : InstallerOutcome × List InstallerEvent :=
  @record installerCalls _ _ willingExecutor
    (executeInstallerTransactionCompareAndSwap .repair
      (some (sampleOffer kContracts).package) sampleInstalled {} {}
      samplePolicy)
    ()

theorem sample_identifiable : Identifiable (sampleOffer kContracts) where
  named := by decide
  fit := by decide
  bound := by decide +kernel

theorem sample_canonical :
    canonicalComponents (sampleOffer kContracts.reverse).package =
      canonicalComponents (sampleOffer kContracts).package := by
  decide

theorem sample_spelled :
    spellIdentity (sampleOffer kContracts.reverse) = spellIdentity (sampleOffer kContracts) := by
  unfold spellIdentity
  rw [sample_canonical]
  rfl

theorem sample_previewed :
    previewApplicationUpdate sampleInstalled (sampleOffer kContracts) .upgrade {} samplePolicy =
      .ok samplePreview :=
  preview_identifiable (by decide) (by decide) (by decide) (by decide) sample_identifiable

theorem sample_reversed :
    previewApplicationUpdate sampleInstalled (sampleOffer kContracts.reverse)
        .upgrade {} samplePolicy =
      .ok samplePreview := by
  have identifiable : Identifiable (sampleOffer kContracts.reverse) :=
    { named := by decide, fit := by rw [sample_canonical]; exact sample_identifiable.fit
      bound := by rw [sample_spelled]; exact sample_identifiable.bound }
  rw [preview_identifiable (by decide) (by decide)
    (by decide) (by decide) identifiable, sample_spelled]
  rfl

theorem sample_approved :
    checkApproval sampleInstalled samplePreview ⟨true, samplePreview.approvalIdentity⟩ {} =
      none := by
  unfold checkApproval
  rw [if_neg (by decide), if_neg (not_not.mpr rfl), if_neg (by decide)]

theorem sample_ran :
    Trace
      (executeInstallerTransactionCompareAndSwap .repair
        (some (sampleOffer kContracts).package) sampleInstalled {} {}
        samplePolicy)
      sampleInstall.2 (sampleInstall.1.1, sampleInstall.1.2) :=
  @record_trace installerCalls _ _ willingExecutor _ ()

/-- The same update, offered in two orders and applied in one. -/
theorem sample_update_approval :
    SameOffer (sampleOffer kContracts) (sampleOffer kContracts.reverse) ∧
      Applied sampleInstalled (sampleOffer kContracts) .upgrade
        ⟨true, samplePreview.approvalIdentity⟩ {} sampleInstall.2
        sampleInstall.1.2 :=
  ⟨update_approval.1 _ _ _ _ _ _ sample_previewed _ _ _ _ _ _ sample_reversed rfl,
    update_approval.2 _ _ _ _ _ _ _ _ _ _
      (apply_trace {} sample_previewed sample_approved sample_ran)
      (by decide)⟩

end Example

end HydraSeat.Update
