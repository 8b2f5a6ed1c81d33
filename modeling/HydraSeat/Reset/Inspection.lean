import HydraSeat.Reset.World

/-!
# What an inspection says

A failed read makes an inspection say that recovery is required.  Any other
inspection has read all three files as they are, and it says clean only if
neither a marker nor a registration exists and the journal is missing or
clean.
-/

namespace HydraSeat.Reset

open Foundation
open Foundation.Command
open Watchdog
open Recovery CrashJournalStore

variable {content : Option (List UInt8)} {registration : Option RuntimeResetRegistration}
  {file : RegistrationFile} {maxBytes : Nat} {evidence : Evidence}
  {journal : Option CrashJournalState} {safeMode : Option SafeModeMarker} {result : ResetInspection}

theorem registrationContent_held {registration : RuntimeResetRegistration}
    (held : HoldsRegistration content registration) :
    ∃ diagnostic,
      registrationOfFile (registrationContent content kRuntimeResetRegistrationMaxBytes) =
        { status := .success, registration := some registration, diagnostic := diagnostic } := by
  obtain ⟨bytes, rfl, decoded⟩ := held
  have fits : bytes.length ≤ kRuntimeResetRegistrationMaxBytes := by
    have bounded := decoded
    unfold decodeRuntimeResetRegistration at bounded
    obtain ⟨bounds, bounded⟩ := not_taken bounded nofun
    rw [not_or] at bounds
    exact Nat.not_lt.mp bounds.2
  rw [registrationContent, if_neg (Nat.not_lt.mpr fits), registrationOfFile, decoded]
  exact ⟨_, rfl⟩

theorem registrationOfFile_success (success : (registrationOfFile file).status = .success) :
    ∃ bytes registration, file = .success bytes ∧
      decodeRuntimeResetRegistration bytes = .ok registration ∧
      (registrationOfFile file).registration = some registration := by
  cases file with
  | success bytes =>
    cases decoded : decodeRuntimeResetRegistration bytes with
    | error text =>
      rw [registrationOfFile, decoded] at success
      cases success
    | ok registration =>
      refine ⟨bytes, registration, rfl, decoded, ?_⟩
      rw [registrationOfFile, decoded]
  | missing | tooLarge | failed step systemError => cases success

theorem registrationOfFile_missing (missing : (registrationOfFile file).status = .missing) :
    file = .missing := by
  cases file with
  | success bytes =>
    cases decoded : decodeRuntimeResetRegistration bytes with
    | error text | ok registration =>
      rw [registrationOfFile, decoded] at missing
      cases missing
  | missing => rfl
  | tooLarge | failed step systemError => cases missing

theorem registrationReads_success {bytes : List UInt8}
    (answered : RegistrationReads content maxBytes (.success bytes)) :
    content = some bytes := by
  rcases answered with exact | ⟨_, _, impossible⟩
  · cases content with
    | none => cases exact
    | some stored =>
      unfold registrationContent at exact
      dsimp only at exact
      split at exact
      · cases exact
      · rw [RegistrationFile.success.inj exact]
  · cases impossible

theorem registrationReads_missing (answered : RegistrationReads content maxBytes .missing) :
    content = none := by
  rcases answered with exact | ⟨_, _, impossible⟩
  · cases content with
    | none => rfl
    | some stored =>
      unfold registrationContent at exact
      dsimp only at exact
      split at exact
      · cases exact
      · cases exact
  · cases impossible

def Recorded {α : Type} (holds : Option (List UInt8) → α → Prop)
    (content : Option (List UInt8)) : Option α → Prop
  | none => content = none
  | some value => holds content value

/-- The three files as an inspection has read them. -/
structure Readable (evidence : Evidence) (journal : Option CrashJournalState)
    (safeMode : Option SafeModeMarker)
    (registration : Option RuntimeResetRegistration) : Prop where
  journal : Recorded Holds evidence.files.current journal
  safeMode : Recorded HoldsMarker evidence.files.safeMode safeMode
  registration : Recorded HoldsRegistration evidence.registration registration

section

variable (readable : Readable evidence journal safeMode registration)
include readable

theorem Readable.journalRead :
    journalOfRead (readContent evidence.files.current kCrashJournalMaxFileBytes) = .ok journal := by
  cases journal with
  | none =>
    have missing : evidence.files.current = none := readable.journal
    rw [missing]
    rfl
  | some journal => exact journalOfRead_held readable.journal

theorem Readable.markerRead :
    markerOfRead (readContent evidence.files.safeMode kSafeModeMarkerFileBytes) = .ok safeMode := by
  cases safeMode with
  | none =>
    have missing : evidence.files.safeMode = none := readable.safeMode
    rw [missing]
    rfl
  | some marker => exact markerOfRead_held readable.safeMode

theorem Readable.inspection : inspection evidence = classified journal safeMode registration := by
  unfold Reset.inspection inspectRead
  rw [readable.journalRead]
  dsimp only
  rw [readable.markerRead]
  dsimp only
  cases registration with
  | none =>
    have missing : evidence.registration = none := readable.registration
    rw [missing]
    rfl
  | some registration =>
    obtain ⟨diagnostic, read⟩ := registrationContent_held readable.registration
    rw [read]
    rfl

end

/-- An inspection that could not read every file, or that did. -/
inductive Inspected (evidence : Evidence) : ResetInspection → Prop where
  | unread (result : ResetInspection) (required : result.state = .recoveryRequired)
      (unregistered : result.registration = none)
      (held : ∀ journal, result.journal = some journal → Holds evidence.files.current journal) :
      Inspected evidence result
  | read (journal : Option CrashJournalState) (safeMode : Option SafeModeMarker)
      (registration : Option RuntimeResetRegistration)
      (readable : Readable evidence journal safeMode registration) :
      Inspected evidence (classified journal safeMode registration)

theorem recorded_some (recorded : Recorded Holds evidence.files.current journal) :
    ∀ state, journal = some state → Holds evidence.files.current state := by
  rintro state rfl
  exact recorded

theorem inspectLoaded_inspected (journalRecorded : Recorded Holds evidence.files.current journal)
    (markerRecorded : Recorded HoldsMarker evidence.files.safeMode safeMode)
    (answered : RegistrationReads evidence.registration kRuntimeResetRegistrationMaxBytes file) :
    Inspected evidence (inspectLoaded journal safeMode (registrationOfFile file)) := by
  unfold inspectLoaded
  split
  next success =>
    obtain ⟨bytes, registration, rfl, decoded, same⟩ := registrationOfFile_success success
    rw [same]
    exact .read journal safeMode (some registration)
      ⟨journalRecorded, markerRecorded, bytes, registrationReads_success answered, decoded⟩
  next missing =>
    rw [registrationOfFile_missing missing] at answered
    exact .read journal safeMode none
      ⟨journalRecorded, markerRecorded, registrationReads_missing answered⟩
  · exact .unread _ rfl rfl (recorded_some journalRecorded)

theorem inspectRead_inspected {journal marker : JournalReadResult} {registration : RegistrationFile}
    (journalAnswered : ReadsAs evidence.files.current kCrashJournalMaxFileBytes journal)
    (markerAnswered : ReadsAs evidence.files.safeMode kSafeModeMarkerFileBytes marker)
    (registrationAnswered :
      RegistrationReads evidence.registration kRuntimeResetRegistrationMaxBytes registration) :
    Inspected evidence (inspectRead journal marker registration) := by
  unfold inspectRead
  split
  · exact .unread _ rfl rfl fun _ impossible => nomatch impossible
  next loaded journalRead =>
    have journalRecorded : Recorded Holds evidence.files.current loaded := by
      cases loaded with
      | none => exact loadedFile_missing journalAnswered journalRead
      | some state => exact journalOfRead_holds journalAnswered journalRead
    split
    · exact .unread _ rfl rfl (recorded_some journalRecorded)
    next safeMode markerRead =>
      have markerRecorded : Recorded HoldsMarker evidence.files.safeMode safeMode := by
        cases safeMode with
        | none => exact loadedFile_missing markerAnswered markerRead
        | some state => exact markerOfRead_holds markerAnswered markerRead
      exact inspectLoaded_inspected journalRecorded markerRecorded registrationAnswered

theorem inspection_inspected (evidence : Evidence) : Inspected evidence (inspection evidence) :=
  inspectRead_inspected (Or.inl rfl) (Or.inl rfl) (Or.inl rfl)

theorem inspection_journal
    (loaded :
      journalOfRead (readContent evidence.files.current kCrashJournalMaxFileBytes) = .ok journal) :
    (inspection evidence).journal = journal := by
  unfold inspection inspectRead
  rw [loaded]
  dsimp only
  split
  · rfl
  unfold inspectLoaded
  split
  · rfl
  · rfl
  · rfl

theorem Inspected.exact (inspected : Inspected evidence result)
    (settled : result.state ≠ .recoveryRequired) :
    result = inspection evidence := by
  cases inspected with
  | unread _ required _ _ => exact absurd required settled
  | read journal safeMode registration readable => exact readable.inspection.symm

theorem Inspected.holds (inspected : Inspected evidence result) :
    ∀ journal, result.journal = some journal → Holds evidence.files.current journal := by
  cases inspected with
  | unread _ _ _ held => exact held
  | read journal safeMode registration readable => exact recorded_some readable.journal

theorem Inspected.required (inspected : Inspected evidence result)
    (required : (inspection evidence).state = .recoveryRequired) :
    result.state = .recoveryRequired := by
  by_contra settled
  rw [inspected.exact settled] at settled
  exact settled required

/-- Neither a marker nor a registration, and no unclean journal. -/
def Spotless (evidence : Evidence) : Prop := Ready evidence.files ∧ evidence.registration = none

theorem classify_clean (clean : (classify journal safeMode registration).1 = .clean) :
    safeMode = none ∧ registration = none ∧
      ∀ state, journal = some state → state.isClean = true := by
  unfold classify at clean
  split at clean
  · unfold classifyWithoutJournal at clean
    split at clean
    · cases clean
    next unmarked =>
      rw [Bool.not_eq_true, Option.isSome_eq_false_iff, Option.isNone_iff_eq_none] at unmarked
      split at clean
      · exact ⟨unmarked, rfl, fun _ impossible => nomatch impossible⟩
      · split at clean
        · cases clean
        · cases clean
  next state =>
    unfold classifyWithJournal at clean
    split at clean
    · cases clean
    split at clean
    · cases clean
    unfold classifyMatching at clean
    split at clean
    next isClean =>
      split at clean
      next bare =>
        rw [Bool.and_eq_true, Option.isNone_iff_eq_none, Option.isNone_iff_eq_none] at bare
        refine ⟨bare.2, bare.1, ?_⟩
        intro same equality
        rw [← Option.some.inj equality]
        exact isClean
      · cases clean
    · split at clean
      · cases clean
      · cases clean

theorem inspection_clean_iff (evidence : Evidence) :
    (inspection evidence).state = .clean ↔ Spotless evidence := by
  constructor
  · intro clean
    have inspected := inspection_inspected evidence
    generalize inspection evidence = result at clean inspected
    cases inspected with
    | unread _ required _ _ =>
      rw [required] at clean
      cases clean
    | read journal safeMode registration readable =>
      obtain ⟨rfl, rfl, journalClean⟩ := classify_clean clean
      refine ⟨⟨readable.safeMode, ?_⟩, readable.registration⟩
      cases journal with
      | none => exact Or.inl readable.journal
      | some state => exact Or.inr ⟨state, readable.journal, journalClean state rfl⟩
  · rintro ⟨⟨unmarked, current⟩, unregistered⟩
    rcases current with missing | ⟨journal, held, clean⟩
    · have readable : Readable evidence none none none := ⟨missing, unmarked, unregistered⟩
      rw [readable.inspection]
      rfl
    have readable : Readable evidence (some journal) none none := ⟨held, unmarked, unregistered⟩
    rw [readable.inspection]
    change (classifyMatching journal none none).1 = .clean
    unfold classifyMatching
    rw [if_pos clean]
    rfl

end HydraSeat.Reset
