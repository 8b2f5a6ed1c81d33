import HydraSeat.GateC.ProbeSnapshot

/-!
# Probe snapshots have one spelling
-/

namespace HydraSeat.GateC

open Foundation
open ProbeReader List

theorem readProbeHeader_scans : Scans readProbeHeader (fun _ => True) writeProbeHeader := by
  unfold writeProbeHeader
  simp only [append_assoc]
  refine .any scanU32_scans fun magic => ?_
  refine .any scanU16_scans fun version => ?_
  refine .any scanU16_scans fun headerBytes => ?_
  refine .any scanU32_scans fun encodedBytes => ?_
  refine .padded (scanPadding_scans 4) ?_
  exact .built fun value => by cases value; grind

theorem readRect_scans : Scans readRect (fun _ => True) writeRect := by
  unfold writeRect
  simp only [append_assoc]
  refine .any scanI32_scans fun left => ?_
  refine .any scanI32_scans fun top => ?_
  refine .any scanI32_scans fun right => ?_
  refine .last scanI32_scans fun bottom => ?_
  exact .built fun value => by cases value; grind

theorem readOsInput_scans : Scans readOsInput (fun _ => True) writeOsInput := by
  unfold writeOsInput
  simp only [append_assoc]
  refine .any scanI16_scans fun asyncKeyState => ?_
  refine .any scanI16_scans fun keyState => ?_
  refine .any scanBool_scans fun keyboardStateSucceeded => ?_
  refine .skip (scanPadding_scans 3) ?_
  refine .any scanU32_scans fun keyboardStateError => ?_
  refine .any (scanArray_scans 256) fun keyboardState => ?_
  refine .any scanBool_scans fun cursorPositionSucceeded => ?_
  refine .skip (scanPadding_scans 3) ?_
  refine .any scanU32_scans fun cursorPositionError => ?_
  refine .any scanI32_scans fun cursorX => ?_
  refine .any scanI32_scans fun cursorY => ?_
  refine .any scanBool_scans fun clipRectangleSucceeded => ?_
  refine .skip (scanPadding_scans 3) ?_
  refine .any scanU32_scans fun clipRectangleError => ?_
  refine .any readRect_scans fun clipRectangle => ?_
  refine .any scanU64_scans fun foreground => ?_
  refine .any scanU64_scans fun active => ?_
  refine .any scanU64_scans fun focus => ?_
  refine .last scanU64_scans fun capture => ?_
  exact .built fun value => by cases value; grind

theorem readAdapterInput_scans : Scans readAdapterInput (fun _ => True) writeAdapterInput := by
  unfold writeAdapterInput
  simp only [append_assoc]
  refine .any scanU32_scans fun snapshotResult => ?_
  refine .any scanU32_scans fun keyStateResult => ?_
  refine .any scanU32_scans fun keyboardStateResult => ?_
  refine .any scanU32_scans fun controlStateResult => ?_
  refine .any scanU32_scans fun mouseStateResult => ?_
  refine .any scanU32_scans fun windowStateResult => ?_
  refine .any scanU64_scans fun lastAppliedSequence => ?_
  refine .any scanU16_scans fun asyncKeyState => ?_
  refine .any scanU16_scans fun keyState => ?_
  refine .any (scanArray_scans 256) fun keyboardState => ?_
  refine .any (scanArray_scans 32) fun keyDownBits => ?_
  refine .any (scanArray_scans 32) fun keyPressedEdgeBits => ?_
  refine .any scanU32_scans fun mouseButtonsDown => ?_
  refine .any scanI64_scans fun wheelAccumulator => ?_
  refine .any scanI32_scans fun cursorX => ?_
  refine .any scanI32_scans fun cursorY => ?_
  refine .any scanBool_scans fun clipEnabled => ?_
  refine .any scanBool_scans fun virtualForeground => ?_
  refine .any scanBool_scans fun virtualCapture => ?_
  refine .skip (scanPadding_scans 1) ?_
  refine .any readRect_scans fun clipRectangle => ?_
  refine .any scanU64_scans fun target => ?_
  refine .any scanU64_scans fun foreground => ?_
  refine .any scanU64_scans fun active => ?_
  refine .any scanU64_scans fun focus => ?_
  refine .last scanU64_scans fun capture => ?_
  exact .built fun value => by cases value; grind

theorem readRawInput_scans : Scans readRawInput (fun _ => True) writeRawInput := by
  unfold writeRawInput
  simp only [append_assoc]
  refine .any scanBool_scans fun enabled => ?_
  refine .any scanBool_scans fun registrationLifecycle => ?_
  refine .any scanBool_scans fun registrationQuery => ?_
  refine .any scanBool_scans fun dataQuery => ?_
  refine .any scanBool_scans fun bufferRead => ?_
  refine .skip (scanPadding_scans 3) ?_
  refine .any scanU32_scans fun registeredCount => ?_
  refine .any scanU32_scans fun keyboardExpected => ?_
  refine .any scanU32_scans fun keyboardCross => ?_
  refine .any scanU32_scans fun mouseExpected => ?_
  refine .any scanU32_scans fun mouseCross => ?_
  refine .any scanU32_scans fun dataReads => ?_
  refine .any scanU32_scans fun bufferPackets => ?_
  refine .any scanU32_scans fun apiFailures => ?_
  refine .any scanU32_scans fun destroyedTargetFailures => ?_
  refine .any scanU32_scans fun staleTokenFailures => ?_
  refine .any scanU32_scans fun queueOverflowFailures => ?_
  refine .last scanU32_scans fun lastSystemError => ?_
  exact .built fun value => by cases value; grind

theorem readProbeMatches_scans : Scans readProbeMatches (fun _ => True) writeProbeMatches := by
  unfold writeProbeMatches
  simp only [append_assoc]
  refine .any scanBool_scans fun asyncDown => ?_
  refine .any scanBool_scans fun keyStateDown => ?_
  refine .any scanBool_scans fun keyboardStateDown => ?_
  refine .any scanBool_scans fun cursor => ?_
  refine .any scanBool_scans fun clipRectangle => ?_
  refine .any scanBool_scans fun foreground => ?_
  refine .any scanBool_scans fun active => ?_
  refine .any scanBool_scans fun focus => ?_
  refine .any scanBool_scans fun capture => ?_
  refine .any scanBool_scans fun osForeground => ?_
  refine .any scanBool_scans fun osActive => ?_
  refine .any scanBool_scans fun osFocus => ?_
  refine .any scanBool_scans fun osCapture => ?_
  refine .padded (scanPadding_scans 3) ?_
  exact .built fun value => by cases value; grind

theorem readProbeFields_scans (schemaVersion : UInt16) :
    Scans (readProbeFields schemaVersion)
      (fun comparison => comparison.schemaVersion = schemaVersion)
      writeProbeFields := by
  unfold writeProbeFields
  simp only [append_assoc]
  refine .any scanU64_scans fun sequence => ?_
  refine .any scanU64_scans fun timestamp => ?_
  refine .any scanU32_scans fun processId => ?_
  refine .any scanU32_scans fun threadId => ?_
  refine .any scanU32_scans fun seatId => ?_
  refine .any scanU16_scans fun probeVkey => ?_
  refine .skip (scanPadding_scans 2) ?_
  refine .any scanU64_scans fun target => ?_
  refine .any readOsInput_scans fun os => ?_
  refine .any readAdapterInput_scans fun adapter => ?_
  refine .any readRawInput_scans fun rawInput => ?_
  refine .last readProbeMatches_scans fun compared => ?_
  exact .built fun value => by cases value; grind

theorem writeRect_length (rect : ProbeRect) : (writeRect rect).length = 16 := by
  simp [writeRect]

theorem writeOsInput_length (os : OsInputSnapshot) : (writeOsInput os).length = 340 := by
  unfold writeOsInput
  simp only [length_append, writeBool_length, writeI16_length,
    writeI32_length, writeU32_length, writeU64_length, writeArray_length,
    writePadding_length, writeRect_length]

theorem writeAdapterInput_length (adapter : AdapterInputSnapshot) :
    (writeAdapterInput adapter).length = 436 := by
  unfold writeAdapterInput
  simp only [length_append, writeBool_length, writeU16_length,
    writeI32_length, writeU32_length, writeI64_length, writeU64_length,
    writeArray_length, writePadding_length, writeRect_length]

theorem writeRawInput_length (rawInput : RawInputApiSnapshot) :
    (writeRawInput rawInput).length = 56 := by
  unfold writeRawInput
  simp only [length_append, writeBool_length, writeU32_length, writePadding_length]

theorem writeProbeMatches_length (compared : ProbeMatches) :
    (writeProbeMatches compared).length = 16 := by
  unfold writeProbeMatches
  simp only [length_append, writeBool_length, writePadding_length]

theorem probe_length (comparison : ProbeComparison) :
    (writeProbeHeader (probeHeader comparison.schemaVersion) ++
        writeProbeFields comparison).length =
      kProbeSnapshotWireBytes := by
  unfold writeProbeHeader writeProbeFields
  simp only [length_append, writeU16_length, writeU32_length,
    writeU64_length, writePadding_length, writeOsInput_length,
    writeAdapterInput_length, writeRawInput_length,
    writeProbeMatches_length]
  rfl

theorem encodeProbeComparison_eq {comparison : ProbeComparison}
    (valid : validateProbeComparison comparison = .ok ()) :
    encodeProbeComparison comparison =
      writeProbeHeader (probeHeader comparison.schemaVersion) ++ writeProbeFields comparison := by
  have length := probe_length comparison
  unfold encodeProbeComparison
  rw [if_neg (not_not.mpr valid)]
  apply if_neg
  rw [length]
  simp [kProbeSnapshotWireBytes, kMaximumProbeSnapshotBytes]

theorem validProbe_version {comparison : ProbeComparison}
    (valid : validateProbeComparison comparison = .ok ()) :
    comparison.schemaVersion = kProbeSnapshotSchemaVersion := by
  unfold validateProbeComparison at valid
  rw [except_check_eq_ok_iff] at valid
  exact not_not.mp valid.1

theorem decodeProbeComparison_spells :
    Spells decodeProbeComparison (fun comparison => validateProbeComparison comparison = .ok ())
      encodeProbeComparison := by
  intro bytes comparison
  unfold decodeProbeComparison
  simp only [except_check_eq_ok_iff, not_lt, not_not]
  constructor
  · intro ⟨_, _, wireBytes, decoded⟩
    cases scanned : readProbeHeader bytes with
    | error text =>
      rw [scanned] at decoded
      cases decoded
    | ok found =>
      obtain ⟨header, body⟩ := found
      obtain ⟨_, split⟩ := (readProbeHeader_scans _ _ _).mp scanned
      rw [scanned] at decoded
      simp only [except_check_eq_ok_iff, not_not, not_or] at decoded
      obtain ⟨magic, version, ⟨headerBytes, encodedBytes⟩, decoded⟩ := decoded
      cases listed : readProbeFields header.version body with
      | error text =>
        rw [listed] at decoded
        cases decoded
      | ok found =>
        obtain ⟨compared, unread⟩ := found
        obtain ⟨sameVersion, splitBody⟩ := (readProbeFields_scans _ _ _ _).mp listed
        rw [listed] at decoded
        simp only [except_check_eq_ok_iff, not_not] at decoded
        obtain ⟨empty, validated⟩ := decoded
        split at validated
        · cases validated
        next valid =>
          cases validated
          have same : header = probeHeader comparison.schemaVersion := by
            unfold probeHeader
            rw [sameVersion, ← magic, ← headerBytes, ← wireBytes,
              ← encodedBytes, UInt32.ofNat_toNat]
          refine ⟨valid, ?_⟩
          rw [encodeProbeComparison_eq valid, ← same, split, splitBody, empty, append_nil]
  · intro ⟨valid, split⟩
    have length : bytes.length = kProbeSnapshotWireBytes := by
      rw [split, encodeProbeComparison_eq valid, probe_length]
    have version := validProbe_version valid
    have scanned :
        readProbeHeader bytes =
          .ok (probeHeader comparison.schemaVersion, writeProbeFields comparison) := by
      apply (readProbeHeader_scans _ _ _).mpr
      rw [split, encodeProbeComparison_eq valid]
      exact ⟨trivial, rfl⟩
    have listed :
        readProbeFields comparison.schemaVersion (writeProbeFields comparison) =
          .ok (comparison, []) := by
      apply (readProbeFields_scans _ _ _ _).mpr
      rw [append_nil]
      exact ⟨rfl, rfl⟩
    rw [length]
    refine ⟨by decide, Nat.le_refl _, rfl, ?_⟩
    rw [scanned]
    dsimp only
    rw [if_neg (by simp [probeHeader]), if_neg (by simp [probeHeader, version]),
      if_neg (by simp [probeHeader, kProbeSnapshotWireBytes])]
    simp only [probeHeader, listed]
    rw [if_neg (not_not.mpr rfl), valid]

end HydraSeat.GateC
