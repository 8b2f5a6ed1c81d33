import HydraSeat.Recovery.JournalExact
import HydraSeat.Reset.Registration
import HydraSeat.Watchdog.PlanCodec

/-!
# The spellings of a reset registration

Version 2 is written and read.  Version 1 has no recovery attachment and is
read only: what is read from it has no encoding.
-/

namespace HydraSeat.Reset

open Foundation
open Watchdog
open Recovery List

variable {registration : RuntimeResetRegistration} {exact_ : Bool}
  {attachment : RecoveryProcessAttachmentIdentity} {version : UInt16}

theorem shape_plan (shaped : validateRuntimeResetRegistrationShape registration exact_ = .ok ()) :
    validateRollbackPlan registration.manifest = .ok () := by
  unfold validateRuntimeResetRegistrationShape at shaped
  rw [except_check_eq_ok_iff] at shaped
  cases valid : validateRollbackPlan registration.manifest with
  | error text =>
    rw [valid] at shaped
    cases shaped.2
  | ok done => rfl

theorem shape_attachment
    (shaped : validateRuntimeResetRegistrationShape registration exact_ = .ok ())
    (attached : registration.attachment = some attachment) :
    validateRecoveryProcessAttachmentIdentity attachment = .ok () := by
  unfold validateRuntimeResetRegistrationShape at shaped
  rw [except_check_eq_ok_iff, attached] at shaped
  obtain ⟨_, shaped⟩ := shaped
  split at shaped
  · cases shaped
  · split at shaped
    · cases shaped
    · obtain ⟨_, valid, _⟩ := except_bind_eq_ok shaped
      exact valid

theorem shape_attached (shaped : validateRuntimeResetRegistrationShape registration true = .ok ()) :
    ∃ attachment, registration.attachment = some attachment := by
  cases attached : registration.attachment with
  | some attachment => exact ⟨attachment, rfl⟩
  | none =>
    unfold validateRuntimeResetRegistrationShape at shaped
    rw [except_check_eq_ok_iff, attached] at shaped
    obtain ⟨_, shaped⟩ := shaped
    split at shaped
    · cases shaped
    · split at shaped <;> cases shaped

def attachmentBytes : Option RecoveryProcessAttachmentIdentity → List UInt8
  | none => []
  | some attachment => encodeRecoveryProcessAttachmentIdentity attachment

def ValidAttachment : Option RecoveryProcessAttachmentIdentity → Prop
  | none => True
  | some attachment => validateRecoveryProcessAttachmentIdentity attachment = .ok ()

theorem shape_validAttachment
    (shaped : validateRuntimeResetRegistrationShape registration exact_ = .ok ()) :
    ValidAttachment registration.attachment := by
  cases attached : registration.attachment with
  | none => exact trivial
  | some attachment => exact shape_attachment shaped attached

theorem attachmentBytes_length
    (valid : validateRecoveryProcessAttachmentIdentity attachment = .ok ()) :
    (attachmentBytes (some attachment)).length = kRecoveryProcessAttachmentIdentityBytes := by
  rw [attachmentBytes, encodeRecoveryProcessAttachmentIdentity_eq valid, writeWireIdentity_length]

theorem decodeAttachmentBytes_spells :
    Spells decodeAttachmentBytes ValidAttachment attachmentBytes := by
  intro bytes attachment
  unfold decodeAttachmentBytes
  by_cases empty : bytes = []
  · rw [if_pos empty, empty]
    cases attachment with
    | none => simp [ValidAttachment, attachmentBytes]
    | some attachment =>
      constructor
      · intro decoded
        cases decoded
      · intro ⟨valid, same⟩
        have length := attachmentBytes_length valid
        rw [← same] at length
        cases length
  · rw [if_neg empty]
    cases decoded : decodeRecoveryProcessAttachmentIdentity bytes with
    | error text =>
      constructor
      · intro mapped
        cases mapped
      intro ⟨valid, same⟩
      cases attachment with
      | none => exact absurd same empty
      | some attachment =>
        have spelled :=
          (decodeRecoveryProcessAttachmentIdentity_spells bytes attachment).mpr ⟨valid, same⟩
        rw [decoded] at spelled
        cases spelled
    | ok found =>
      cases attachment with
      | none =>
        constructor
        · intro mapped
          cases mapped
        · intro ⟨_, same⟩
          exact absurd same empty
      | some attachment =>
        have spelled := decodeRecoveryProcessAttachmentIdentity_spells bytes attachment
        rw [decoded] at spelled
        rw [Except.map]
        simpa [ValidAttachment, attachmentBytes] using spelled

theorem decodeManifestFrame_eq_ok_iff (bytes : List UInt8) (manifest : RollbackPlanManifest) :
    decodeManifestFrame bytes = .ok manifest ↔
      validateRollbackPlan manifest = .ok () ∧ bytes = encodeRegisterPlan 1 manifest := by
  have planned := decodePlanFrame_spells bytes (1, manifest)
  have valid : ValidPlanFrame (1, manifest) ↔ validateRollbackPlan manifest = .ok () := by
    simp [ValidPlanFrame]
  rw [valid] at planned
  refine Iff.trans ?_ planned
  unfold decodeManifestFrame decodePlanFrame
  cases framed : decodeWatchdogFrame bytes with
  | error text =>
    constructor
    · intro decoded
      cases decoded
    · intro decoded
      cases decoded
  | ok frame =>
    change _ ↔ (decodeRegisterPlan frame >>= _) = _
    dsimp only
    rw [except_check_eq_ok_iff]
    constructor
    · intro ⟨checked, listed⟩
      rw [not_or, not_not, not_not] at checked
      rw [listed, checked.2]
      rfl
    intro decoded
    obtain ⟨found, listed, returned⟩ := except_bind_eq_ok decoded
    obtain ⟨first, same⟩ := Prod.mk.inj (Except.ok.inj returned)
    have typed := ((decodeRegisterPlan_eq_ok_iff _ _).mp listed).2.1
    rw [← same]
    exact ⟨by simp [typed, first], listed⟩

theorem decodeRegistrationPayload_eq_ok_iff (version : UInt16) (owner : RegistrationOwner)
    (attachment frame : List UInt8)
    (registration : RuntimeResetRegistration) :
    decodeRegistrationPayload version owner attachment frame = .ok registration ↔
      validateRuntimeResetRegistrationShape registration
          (version == kRuntimeResetRegistrationVersion) = .ok () ∧
        registration.ownerProcess = owner.ownerProcess ∧
        attachment = attachmentBytes registration.attachment ∧
        frame = encodeRegisterPlan 1 registration.manifest ∧
        owner.storedHash = registrationHash version owner.ownerProcess attachment frame := by
  constructor
  · intro decoded
    have shaped := decodeRegistrationPayload_shape decoded
    obtain ⟨identity, attached, rest⟩ := except_bind_eq_ok decoded
    obtain ⟨manifest, planned, hashed⟩ := except_bind_eq_ok rest
    rw [except_check_eq_ok_iff, not_not] at hashed
    obtain ⟨sameHash, returned⟩ := hashed
    obtain ⟨_, _, returned⟩ := except_bind_eq_ok returned
    cases returned
    exact ⟨shaped, rfl, ((decodeAttachmentBytes_spells _ _).mp attached).2,
      ((decodeManifestFrame_eq_ok_iff _ _).mp planned).2, sameHash.symm⟩
  · intro ⟨shaped, sameOwner, sameAttachment, sameFrame, sameHash⟩
    have attached := (decodeAttachmentBytes_spells attachment _).mpr
      ⟨shape_validAttachment shaped, sameAttachment⟩
    have planned := (decodeManifestFrame_eq_ok_iff frame _).mpr ⟨shape_plan shaped, sameFrame⟩
    have rebuilt :
        ({ ownerProcess := owner.ownerProcess, manifest := registration.manifest
           attachment := registration.attachment } :
          RuntimeResetRegistration) = registration := by
      rw [← sameOwner]
    unfold decodeRegistrationPayload
    rw [attached]
    change (decodeManifestFrame frame >>= _) = _
    rw [planned]
    change (if _ then _ else _) = _
    rw [if_neg (not_not.mpr sameHash.symm), rebuilt, shaped]
    rfl

/-- Only version 2 has the field. -/
def attachmentLengthField (version : UInt16) (length : UInt32) : List UInt8 :=
  if version = kRuntimeResetRegistrationVersion then writeU32 length
  else []

/-- What follows the version, in a file of `totalLength` bytes. -/
def registrationFields (totalLength : Nat) (version : UInt16)
    (registration : RuntimeResetRegistration) : List UInt8 :=
  let attachment := attachmentBytes registration.attachment
  let frame := encodeRegisterPlan 1 registration.manifest
  writeRegistrationOwner
      { totalBytes := UInt32.ofNat totalLength, ownerProcess := registration.ownerProcess
        storedHash := registrationHash version registration.ownerProcess attachment frame } ++
    (attachmentLengthField version (UInt32.ofNat attachment.length) ++
      ((writeU32 (UInt32.ofNat frame.length) ++ writeU32 0) ++ (attachment ++ frame)))

def registrationBytes (version : UInt16) (registration : RuntimeResetRegistration) : Nat :=
  registrationHeaderBytes version + (attachmentBytes registration.attachment).length +
    (encodeRegisterPlan 1 registration.manifest).length

/-- The file of a registration in one of the two versions. -/
def registrationFile (version : UInt16) (registration : RuntimeResetRegistration) : List UInt8 :=
  writeRegistrationStart
      { magic := kRuntimeResetRegistrationMagic, version := version
        headerBytes := UInt16.ofNat (registrationHeaderBytes version) } ++
    registrationFields (registrationBytes version registration) version registration

/-- The registrations that a version can hold. -/
structure Registered (version : UInt16) (registration : RuntimeResetRegistration) : Prop where
  shape :
    validateRuntimeResetRegistrationShape registration
        (version == kRuntimeResetRegistrationVersion) =
      .ok ()
  versioned :
    version = kRuntimeResetRegistrationVersion ∨
      version = kRuntimeResetRegistrationLegacyVersion ∧ registration.attachment = none

theorem readRegistrationStart_reads : Reads readRegistrationStart writeRegistrationStart := by
  unfold writeRegistrationStart
  simp only [append_assoc]
  apply ReadsOnly.reads
  refine .any readU32_reads fun magic => ?_
  refine .any readU16_reads fun version => ?_
  refine .last readU16_reads fun headerBytes => ?_
  exact .built fun value => by cases value; grind

theorem readRegistrationOwner_reads : Reads readRegistrationOwner writeRegistrationOwner := by
  unfold writeRegistrationOwner
  simp only [append_assoc]
  apply ReadsOnly.reads
  refine .any readU32_reads fun totalBytes => ?_
  refine .any readU32_reads fun processId => ?_
  refine .any readU64_reads fun creationTime100ns => ?_
  refine .last (readArray_reads 32) fun storedHash => ?_
  exact .built fun value => by
    obtain ⟨_, ⟨_, _⟩, _⟩ := value
    grind

theorem readFrameLength_reads :
    Reads readFrameLength fun lengths => writeU32 lengths.1 ++ writeU32 lengths.2 := by
  apply ReadsOnly.reads
  refine .any readU32_reads fun frameBytes => ?_
  refine .last readU32_reads fun reserved => ?_
  exact .built fun value => by cases value; grind

theorem readAttachmentLength_eq_ok_iff
    (version : UInt16) (bytes rest : List UInt8) (length : UInt32) :
    readAttachmentLength version bytes = .ok (length, rest) ↔
      (version = kRuntimeResetRegistrationVersion ↔ length ≠ 0) ∧
        bytes = attachmentLengthField version length ++ rest := by
  unfold readAttachmentLength attachmentLengthField
  by_cases current : version = kRuntimeResetRegistrationVersion
  · rw [if_pos current, if_pos current]
    simp only [current, true_iff]
    cases read : readU32 bytes with
    | none =>
      constructor
      · intro decoded
        cases decoded
      · intro ⟨_, split⟩
        rw [split, readU32_reads.read_write] at read
        cases read
    | some found =>
      obtain ⟨value, after⟩ := found
      have law := readU32_reads bytes length rest
      rw [read, Option.some.injEq, Prod.mk.injEq] at law
      dsimp only
      rw [except_check_eq_ok_iff, Except.ok.injEq, Prod.mk.injEq, law]
      constructor
      · intro ⟨nonzero, split⟩
        have same := (law.mpr split).1
        rw [← same]
        exact ⟨nonzero, by rw [same]; exact split⟩
      · intro ⟨nonzero, split⟩
        have same := (law.mpr split).1
        rw [same]
        exact ⟨nonzero, split⟩
  · rw [if_neg current, if_neg current, Except.ok.injEq, Prod.mk.injEq, nil_append]
    simp only [current, false_iff, not_not]
    constructor
    · intro ⟨zero, same⟩
      exact ⟨zero.symm, same⟩
    · intro ⟨zero, same⟩
      exact ⟨zero.symm, same⟩

theorem attachmentBytes_eq_nil_iff {attachment : Option RecoveryProcessAttachmentIdentity}
    (valid : ValidAttachment attachment) :
    attachmentBytes attachment = [] ↔ attachment = none := by
  cases attachment with
  | none => simp [attachmentBytes]
  | some identity =>
    constructor
    · intro empty
      have length := attachmentBytes_length valid
      rw [empty] at length
      cases length
    · intro missing
      cases missing

theorem decodeRegistrationFields_eq_ok {totalLength : Nat} {bytes : List UInt8}
    (known :
      version = kRuntimeResetRegistrationLegacyVersion ∨ version = kRuntimeResetRegistrationVersion)
    (decoded : decodeRegistrationFields totalLength version bytes = .ok registration) :
    Registered version registration ∧
      bytes = registrationFields totalLength version registration := by
  unfold decodeRegistrationFields at decoded
  cases owned : readRegistrationOwner bytes with
  | none =>
    rw [owned] at decoded
    cases decoded
  | some found =>
    obtain ⟨owner, afterOwner⟩ := found
    have splitOwner := (readRegistrationOwner_reads _ _ _).mp owned
    rw [owned] at decoded
    dsimp only at decoded
    cases measured : readAttachmentLength version afterOwner with
    | error text =>
      rw [measured] at decoded
      cases decoded
    | ok found =>
      obtain ⟨length, afterLength⟩ := found
      obtain ⟨versioned, splitLength⟩ := (readAttachmentLength_eq_ok_iff _ _ _ _).mp measured
      rw [measured] at decoded
      dsimp only at decoded
      cases framed : readFrameLength afterLength with
      | none =>
        rw [framed] at decoded
        cases decoded
      | some found =>
        obtain ⟨⟨frameBytes, reserved⟩, payload⟩ := found
        have splitFrame := (readFrameLength_reads _ _ _).mp framed
        rw [framed] at decoded
        simp only [except_check_eq_ok_iff, not_or, not_not] at decoded
        obtain ⟨⟨unreserved, total, _, _, lengths⟩, decoded⟩ := decoded
        obtain ⟨shaped, sameOwner, sameAttachment, sameFrame, sameHash⟩ :=
          (decodeRegistrationPayload_eq_ok_iff _ _ _ _ _).mp decoded
        have attachmentLength :
            (attachmentBytes registration.attachment).length = length.toNat := by
          rw [← sameAttachment, length_take]
          omega
        have frameLength :
            (encodeRegisterPlan 1 registration.manifest).length = frameBytes.toNat := by
          rw [← sameFrame, length_drop]
          omega
        have joined :
            payload =
              attachmentBytes registration.attachment ++
                encodeRegisterPlan 1 registration.manifest := by
          rw [← sameAttachment, ← sameFrame, take_append_drop]
        have header :
            owner =
              { totalBytes := UInt32.ofNat totalLength
                ownerProcess := registration.ownerProcess
                storedHash := registrationHash version registration.ownerProcess
                  (attachmentBytes registration.attachment)
                  (encodeRegisterPlan 1 registration.manifest) } := by
          rw [← total, UInt32.ofNat_toNat, sameOwner, ← sameAttachment, ← sameFrame, ← sameHash]
        constructor
        · refine ⟨shaped, ?_⟩
          cases known with
          | inr current => exact Or.inl current
          | inl legacy =>
            have zero : length = 0 := by
              by_contra nonzero
              have current := versioned.mpr nonzero
              rw [legacy] at current
              cases current
            rw [zero] at attachmentLength
            have empty := eq_nil_of_length_eq_zero attachmentLength
            exact Or.inr ⟨legacy, (attachmentBytes_eq_nil_iff
              (shape_validAttachment shaped)).mp empty⟩
        · rw [splitOwner, splitLength, splitFrame, joined, header,
            registrationFields, attachmentLength, frameLength,
            UInt32.ofNat_toNat, UInt32.ofNat_toNat, unreserved]

theorem writeRegistrationStart_length (start : RegistrationStart) :
    (writeRegistrationStart start).length = 8 := by
  simp [writeRegistrationStart]

theorem registrationFields_length
    (known :
      version = kRuntimeResetRegistrationLegacyVersion ∨ version = kRuntimeResetRegistrationVersion)
    (totalLength : Nat) (registration : RuntimeResetRegistration) :
    8 + (registrationFields totalLength version registration).length =
      registrationBytes version registration := by
  have owner (owner : RegistrationOwner) : (writeRegistrationOwner owner).length = 48 := by
    simp [writeRegistrationOwner]
  have lengthField (length : UInt32) :
      8 + 48 + (attachmentLengthField version length).length + 8 =
        registrationHeaderBytes version := by
    cases known with
    | inl legacy =>
      rw [legacy]
      rfl
    | inr current =>
      rw [current]
      rfl
  unfold registrationFields registrationBytes
  rw [← lengthField (UInt32.ofNat (attachmentBytes registration.attachment).length)]
  simp only [length_append, owner, writeU32_length]
  omega

namespace Registered

variable {version : UInt16} {registration : RuntimeResetRegistration}

section

variable (registered : Registered version registration)
include registered

theorem frameLength :
    (encodeRegisterPlan 1 registration.manifest).length ≤ kWatchdogMaxFrameBytes := by
  have valid : ValidPlanFrame (1, registration.manifest) := ⟨by simp, shape_plan registered.shape⟩
  exact encodePlanFrame_length valid

theorem known :
    version = kRuntimeResetRegistrationLegacyVersion ∨
      version = kRuntimeResetRegistrationVersion := by
  cases registered.versioned with
  | inl current => exact Or.inr current
  | inr legacy => exact Or.inl legacy.1

theorem attachmentLength :
    (attachmentBytes registration.attachment).length =
      if version = kRuntimeResetRegistrationVersion then kRecoveryProcessAttachmentIdentityBytes
      else 0 := by
  cases registered.versioned with
  | inl current =>
    have shaped := registered.shape
    rw [current, beq_self_eq_true] at shaped
    obtain ⟨attachment, attached⟩ := shape_attached shaped
    rw [if_pos current, attached]
    exact attachmentBytes_length (shape_attachment registered.shape attached)
  | inr legacy =>
    rw [if_neg (by rw [legacy.1]; decide), legacy.2]
    rfl

theorem bytes_le :
    kRuntimeResetRegistrationLegacyHeaderBytes ≤ registrationBytes version registration ∧
      registrationBytes version registration ≤ kRuntimeResetRegistrationMaxBytes := by
  have frame := registered.frameLength
  have attachment := registered.attachmentLength
  unfold registrationBytes registrationHeaderBytes
  simp only [kRuntimeResetRegistrationLegacyHeaderBytes, kRuntimeResetRegistrationHeaderBytes,
    kRuntimeResetRegistrationMaxBytes] at *
  split at attachment <;> split <;> omega

theorem file_length :
    (registrationFile version registration).length = registrationBytes version registration := by
  rw [registrationFile, length_append, writeRegistrationStart_length]
  exact registrationFields_length registered.known
    (registrationBytes version registration) registration

theorem decode_fields :
    decodeRegistrationFields (registrationBytes version registration) version
        (registrationFields (registrationBytes version registration) version registration) =
      .ok registration := by
  have attachment := registered.attachmentLength
  have frame := registered.frameLength
  have bounded := registered.bytes_le.2
  have attachmentFits :
      (UInt32.ofNat (attachmentBytes registration.attachment).length).toNat =
        (attachmentBytes registration.attachment).length := by
    apply UInt32.toNat_ofNat_of_lt'
    rw [attachment]
    split <;> decide
  have frameFits :
      (UInt32.ofNat (encodeRegisterPlan 1 registration.manifest).length).toNat =
        (encodeRegisterPlan 1 registration.manifest).length :=
    UInt32.toNat_ofNat_of_lt' (Nat.lt_of_le_of_lt frame (by decide))
  have totalFits :
      (UInt32.ofNat (registrationBytes version registration)).toNat =
        registrationBytes version registration :=
    UInt32.toNat_ofNat_of_lt' (Nat.lt_of_le_of_lt bounded (by decide))
  have versioned :
      version = kRuntimeResetRegistrationVersion ↔
        UInt32.ofNat (attachmentBytes registration.attachment).length ≠ 0 := by
    rw [attachment]
    by_cases current : version = kRuntimeResetRegistrationVersion
    · rw [if_pos current]
      simp only [current, true_iff]
      decide
    · rw [if_neg current]
      simp [current]
  have measured (rest : List UInt8) := (readAttachmentLength_eq_ok_iff version _ rest _).mpr
    ⟨versioned, rfl⟩
  have decoded := (decodeRegistrationPayload_eq_ok_iff version
    { totalBytes :=
        UInt32.ofNat (registrationBytes version registration)
      ownerProcess := registration.ownerProcess
      storedHash := registrationHash version registration.ownerProcess
        (attachmentBytes registration.attachment)
        (encodeRegisterPlan 1 registration.manifest) } _ _
    registration).mpr ⟨registered.shape, rfl, rfl, rfl, rfl⟩
  unfold decodeRegistrationFields registrationFields
  rw [readRegistrationOwner_reads.read_write]
  dsimp only
  rw [measured]
  dsimp only
  rw [readFrameLength_reads.read_write
    (UInt32.ofNat (encodeRegisterPlan 1 registration.manifest).length, 0)]
  dsimp only
  rw [if_neg, attachmentFits, take_left, drop_left]
  · exact decoded
  rw [attachmentFits, frameFits, totalFits, List.length_append]
  simp only [not_or, not_not, not_and]
  refine ⟨trivial, trivial, Nat.not_lt.mpr frame, ?_, trivial⟩
  intro nonzero
  rw [attachment, if_pos (versioned.mpr nonzero)]

theorem decode_file :
    decodeRuntimeResetRegistration (registrationFile version registration) = .ok registration := by
  have bounds := registered.bytes_le
  have header :
      (UInt16.ofNat (registrationHeaderBytes version)).toNat = registrationHeaderBytes version := by
    unfold registrationHeaderBytes
    split <;> rfl
  unfold decodeRuntimeResetRegistration
  rw [registered.file_length, if_neg (by omega), registrationFile,
    readRegistrationStart_reads.read_write]
  dsimp only
  rw [if_neg, if_neg (not_not.mpr header)]
  · exact registered.decode_fields
  · simp only [not_or, not_not, not_and, true_and]
    intro other
    exact registered.known.resolve_left other

end

end Registered

variable {registration : RuntimeResetRegistration}

theorem decodeRuntimeResetRegistration_eq_ok_iff
    (bytes : List UInt8) (registration : RuntimeResetRegistration) :
    decodeRuntimeResetRegistration bytes = .ok registration ↔
      ∃ version, Registered version registration ∧
        bytes = registrationFile version registration := by
  constructor
  · intro decoded
    unfold decodeRuntimeResetRegistration at decoded
    rw [except_check_eq_ok_iff] at decoded
    obtain ⟨_, decoded⟩ := decoded
    cases started : readRegistrationStart bytes with
    | none =>
      rw [started] at decoded
      cases decoded
    | some found =>
      obtain ⟨start, rest⟩ := found
      have split := (readRegistrationStart_reads _ _ _).mp started
      rw [started] at decoded
      simp only [except_check_eq_ok_iff, not_or, not_not, not_and] at decoded
      obtain ⟨⟨magic, versions⟩, header, decoded⟩ := decoded
      have known :
          start.version = kRuntimeResetRegistrationLegacyVersion ∨
            start.version = kRuntimeResetRegistrationVersion :=
        or_iff_not_imp_left.mpr versions
      obtain ⟨registered, splitFields⟩ := decodeRegistrationFields_eq_ok known decoded
      have length : bytes.length = registrationBytes start.version registration := by
        rw [← registrationFields_length known bytes.length, ← splitFields, split, length_append,
          writeRegistrationStart_length]
      have front :
          start =
            { magic := kRuntimeResetRegistrationMagic, version := start.version
              headerBytes := UInt16.ofNat (registrationHeaderBytes start.version) } := by
        rw [← header, UInt16.ofNat_toNat, ← magic]
      refine ⟨start.version, registered, ?_⟩
      rw [registrationFile, ← front, ← length, ← splitFields]
      exact split
  · intro ⟨version, registered, split⟩
    rw [split]
    exact registered.decode_file

theorem encodeRuntimeResetRegistration_eq
    (valid : validateRuntimeResetRegistration registration = .ok ()) :
    encodeRuntimeResetRegistration registration =
      registrationFile kRuntimeResetRegistrationVersion registration := by
  have registered : Registered kRuntimeResetRegistrationVersion registration := ⟨valid, Or.inl rfl⟩
  have attachmentLength := registered.attachmentLength
  have frame := registered.frameLength
  have bounded := registered.bytes_le.2
  have planned : ValidPlanFrame (1, registration.manifest) := ⟨by simp, shape_plan valid⟩
  have nonempty : encodeRegisterPlan 1 registration.manifest ≠ [] := by
    change encodePlanFrame (1, registration.manifest) ≠ []
    intro empty
    have length := congrArg List.length empty
    rw [encodePlanFrame_eq planned, writeFrame_length] at length
    simp [kWatchdogFrameHeaderBytes] at length
  obtain ⟨attachment, attached⟩ := shape_attached valid
  have header :
      registrationHeaderBytes kRuntimeResetRegistrationVersion =
        kRuntimeResetRegistrationHeaderBytes :=
    rfl
  rw [if_pos rfl, attached, attachmentBytes] at attachmentLength
  rw [registrationBytes, attached, attachmentBytes, header] at bounded
  unfold encodeRuntimeResetRegistration registrationFile registrationFields registrationBytes
  rw [if_neg (not_not.mpr valid), attached]
  dsimp only
  rw [if_neg (not_or.mpr ⟨nonempty, Nat.not_lt.mpr frame⟩), if_neg (not_not.mpr attachmentLength),
    if_neg (Nat.not_lt.mpr bounded)]
  simp only [append_assoc]
  rfl

theorem encodeRuntimeResetRegistration_unattached (missing : registration.attachment = none) :
    encodeRuntimeResetRegistration registration = [] := by
  unfold encodeRuntimeResetRegistration
  apply if_pos
  intro valid
  obtain ⟨attachment, attached⟩ := shape_attached valid
  rw [missing] at attached
  cases attached

/-- The five formats of the recovery files. -/
structure RecoveryCodecsExact : Prop where
  journal :
    RoundTrip (fun state => validateCrashJournalState state = .ok ())
      encodeCrashJournal decodeCrashJournal
  journalFits :
    ∀ state, validateCrashJournalState state = .ok () →
      encodeCrashJournal state ≠ [] ∧ (encodeCrashJournal state).length ≤ kCrashJournalMaxFileBytes
  marker : RoundTrip ValidMarker encodeSafeModeMarker decodeSafeModeMarker
  plan : RoundTrip ValidPlanFrame encodePlanFrame decodePlanFrame
  attachment :
    RoundTrip (fun identity => validateRecoveryProcessAttachmentIdentity identity = .ok ())
      encodeRecoveryProcessAttachmentIdentity
      decodeRecoveryProcessAttachmentIdentity
  registration_decode_encode :
    ∀ registration,
      validateRuntimeResetRegistration registration = .ok () →
        decodeRuntimeResetRegistration (encodeRuntimeResetRegistration registration) =
          .ok registration
  registration_encode_decode :
    ∀ bytes registration,
      decodeRuntimeResetRegistration bytes = .ok registration →
        registration.attachment ≠ none → encodeRuntimeResetRegistration registration = bytes
  legacy_encode_decode :
    ∀ bytes registration,
      decodeRuntimeResetRegistration bytes = .ok registration →
        registration.attachment = none →
          bytes = registrationFile kRuntimeResetRegistrationLegacyVersion registration ∧
            encodeRuntimeResetRegistration registration = []

theorem recoveryCodecs_exact : RecoveryCodecsExact where
  journal := decodeCrashJournal_spells.roundTrip
  journalFits := by
    intro state accepted
    have valid := validJournal accepted
    refine ⟨encodeCrashJournal_ne_nil valid, ?_⟩
    rw [encodeCrashJournal_length valid]
    exact journalFile_fits valid
  marker := decodeSafeModeMarker_spells.roundTrip
  plan := decodePlanFrame_spells.roundTrip
  attachment := decodeRecoveryProcessAttachmentIdentity_spells.roundTrip
  registration_decode_encode := by
    intro registration valid
    have registered : Registered kRuntimeResetRegistrationVersion registration :=
      ⟨valid, Or.inl rfl⟩
    rw [encodeRuntimeResetRegistration_eq valid]
    exact registered.decode_file
  registration_encode_decode := by
    intro bytes registration decoded attached
    obtain ⟨version, registered, split⟩ := (decodeRuntimeResetRegistration_eq_ok_iff _ _).mp decoded
    cases registered.versioned with
    | inl current =>
      have valid := registered.shape
      rw [current] at valid split
      rw [split]
      exact encodeRuntimeResetRegistration_eq valid
    | inr legacy => exact absurd legacy.2 attached
  legacy_encode_decode := by
    intro bytes registration decoded missing
    obtain ⟨version, registered, split⟩ := (decodeRuntimeResetRegistration_eq_ok_iff _ _).mp decoded
    refine ⟨?_, encodeRuntimeResetRegistration_unattached missing⟩
    cases registered.versioned with
    | inl current =>
      have valid := registered.shape
      rw [current] at valid
      obtain ⟨attachment, attached⟩ := shape_attached valid
      rw [missing] at attached
      cases attached
    | inr legacy => rw [split, legacy.1]

/-- What a version 1 file holds. -/
def legacyRegistration : RuntimeResetRegistration where
  ownerProcess := ⟨400, 9000⟩
  manifest :=
    { lease :=
        { sessionId := Vector.replicate 16 1, generation := 1, timeoutMilliseconds := 1000 }
      rollbackTimeoutMilliseconds := 1000
      actions :=
        [{ actionId := 1, kind := .terminateOwnedProcess, activationOrdinal := 1
           timeoutMilliseconds := 500, generation := 1, process := ⟨500, 9100⟩ }] }

theorem legacyRegistration_registered :
    Registered kRuntimeResetRegistrationLegacyVersion legacyRegistration :=
  ⟨rfl, Or.inr ⟨rfl, rfl⟩⟩

/-- A version 1 file is accepted and not written again. -/
theorem legacyRegistration_unspelled :
    decodeRuntimeResetRegistration
          (registrationFile kRuntimeResetRegistrationLegacyVersion legacyRegistration) =
        .ok legacyRegistration ∧
      encodeRuntimeResetRegistration legacyRegistration ≠
        registrationFile kRuntimeResetRegistrationLegacyVersion legacyRegistration := by
  refine ⟨legacyRegistration_registered.decode_file, ?_⟩
  rw [encodeRuntimeResetRegistration_unattached rfl]
  intro empty
  have length := congrArg List.length empty
  rw [legacyRegistration_registered.file_length] at length
  have bounds := legacyRegistration_registered.bytes_le
  rw [← length] at bounds
  exact absurd bounds.1 (by decide)

end HydraSeat.Reset
