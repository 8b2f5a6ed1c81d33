import HydraSeat.GateC.Wire

/-!
# The probe snapshot of Gate C

A probe compares what the operating system reports with what the adapter
reports.  The comparison travels with both observations, and both sides of
the codec compute it again.
-/

namespace HydraSeat.GateC

open Foundation

variable (comparison : ProbeComparison)

def kProbeSnapshotMagic : UInt32 := 0x31535048

def kProbeSnapshotSchemaVersion : UInt16 := 3

def kProbeSnapshotHeaderBytes : UInt16 := 16

def kProbeSnapshotWireBytes : Nat := 904

def kMaximumProbeSnapshotBytes : Nat := 1024

structure ProbeRect where
  (left top right bottom : Int32 := 0)
  deriving DecidableEq

structure OsInputSnapshot where
  (asyncKeyState keyState : Int16 := 0)
  keyboardStateSucceeded : Bool := false
  keyboardStateError : UInt32 := 0
  keyboardState : Vector UInt8 256 := Vector.replicate 256 0
  cursorPositionSucceeded : Bool := false
  cursorPositionError : UInt32 := 0
  (cursorX cursorY : Int32 := 0)
  clipRectangleSucceeded : Bool := false
  clipRectangleError : UInt32 := 0
  clipRectangle : ProbeRect := {}
  (foregroundWindowRuntimeValue activeWindowRuntimeValue focusWindowRuntimeValue : UInt64 := 0)
  captureWindowRuntimeValue : UInt64 := 0

structure AdapterInputSnapshot where
  (snapshotResult keyStateResult keyboardStateResult controlStateResult : UInt32 := 0)
  (mouseStateResult windowStateResult : UInt32 := 0)
  lastAppliedSequence : UInt64 := 0
  (asyncKeyState keyState : UInt16 := 0)
  keyboardState : Vector UInt8 256 := Vector.replicate 256 0
  (keyDownBits keyPressedEdgeBits : Vector UInt8 32 := Vector.replicate 32 0)
  mouseButtonsDown : UInt32 := 0
  wheelAccumulator : Int64 := 0
  (cursorX cursorY : Int32 := 0)
  (clipEnabled virtualForeground virtualCapture : Bool := false)
  clipRectangle : ProbeRect := {}
  (targetWindowRuntimeValue logicalForegroundWindowRuntimeValue : UInt64 := 0)
  (logicalActiveWindowRuntimeValue logicalFocusWindowRuntimeValue : UInt64 := 0)
  virtualCaptureWindowRuntimeValue : UInt64 := 0

structure RawInputApiSnapshot where
  (enabled registrationLifecyclePassed registrationQueryPassed dataQueryPassed : Bool := false)
  bufferReadPassed : Bool := false
  (registeredCount keyboardExpected keyboardCross mouseExpected mouseCross dataReads : UInt32 := 0)
  (bufferPackets apiFailures destroyedTargetFailures staleTokenFailures : UInt32 := 0)
  (queueOverflowFailures lastSystemError : UInt32 := 0)

/-- The fields that `updateProbeComparison` computes. -/
structure ProbeMatches where
  (asyncDownMatches keyStateDownMatches keyboardStateDownMatches cursorMatches : Bool := false)
  (clipRectangleMatches foregroundMatches activeMatches focusMatches captureMatches : Bool := false)
  (osForegroundIsTarget osActiveIsTarget osFocusIsTarget osCaptureIsTarget : Bool := false)
  deriving DecidableEq

structure ProbeComparison where
  schemaVersion : UInt16 := kProbeSnapshotSchemaVersion
  (sequence monotonicTimestampMicros : UInt64 := 0)
  (processId threadId seatId : UInt32 := 0)
  probeVkey : UInt16 := 0xffff
  targetWindowRuntimeValue : UInt64 := 0
  os : OsInputSnapshot := {}
  adapter : AdapterInputSnapshot := {}
  rawInput : RawInputApiSnapshot := {}
  compared : ProbeMatches := {}

def keyDown (value : Int16) : Bool := value.toUInt16 &&& 0x8000 != 0

def adapterKeyDown (value : UInt16) : Bool := value &&& 0x8000 != 0

def validVkey (vkey : UInt16) : Bool := vkey < 256

def validRect (rect : ProbeRect) : Bool := rect.right > rect.left && rect.bottom > rect.top

def sameKeyDown (vkey : UInt16) (left right : Vector UInt8 256) : Bool :=
  if inRange : vkey.toNat < 256 then
    (left[vkey.toNat] &&& 0x80 != 0) == (right[vkey.toNat] &&& 0x80 != 0)
  else false

def probeMatches : ProbeMatches :=
  let os := comparison.os
  let adapter := comparison.adapter
  let target := comparison.targetWindowRuntimeValue
  let adapterSnapshotValid := adapter.snapshotResult == 0
  let adapterKeyStateValid := adapter.keyStateResult == 0
  let adapterKeyboardStateValid := adapter.keyboardStateResult == 0
  let adapterControlStateValid := adapter.controlStateResult == 0
  let adapterWindowStateValid := adapter.windowStateResult == 0
  { asyncDownMatches :=
      adapterSnapshotValid && keyDown os.asyncKeyState == adapterKeyDown adapter.asyncKeyState
    keyStateDownMatches := adapterKeyStateValid &&
      keyDown os.keyState == adapterKeyDown adapter.keyState
    keyboardStateDownMatches := os.keyboardStateSucceeded && adapterKeyboardStateValid &&
      sameKeyDown comparison.probeVkey os.keyboardState adapter.keyboardState
    cursorMatches := os.cursorPositionSucceeded && adapterControlStateValid &&
      os.cursorX == adapter.cursorX && os.cursorY == adapter.cursorY
    clipRectangleMatches := os.clipRectangleSucceeded && adapterControlStateValid &&
      adapter.clipEnabled && os.clipRectangle == adapter.clipRectangle
    foregroundMatches := adapterWindowStateValid &&
      os.foregroundWindowRuntimeValue == adapter.logicalForegroundWindowRuntimeValue
    activeMatches := adapterWindowStateValid &&
      os.activeWindowRuntimeValue == adapter.logicalActiveWindowRuntimeValue
    focusMatches := adapterWindowStateValid &&
      os.focusWindowRuntimeValue == adapter.logicalFocusWindowRuntimeValue
    captureMatches := adapterWindowStateValid &&
      os.captureWindowRuntimeValue == adapter.virtualCaptureWindowRuntimeValue
    osForegroundIsTarget := os.foregroundWindowRuntimeValue == target
    osActiveIsTarget := os.activeWindowRuntimeValue == target
    osFocusIsTarget := os.focusWindowRuntimeValue == target
    osCaptureIsTarget := os.captureWindowRuntimeValue == target }

def updateProbeComparison : ProbeComparison :=
  { comparison with compared := probeMatches comparison }

def rawInputObserved (rawInput : RawInputApiSnapshot) : Bool :=
  rawInput.registrationLifecyclePassed ||
    rawInput.registrationQueryPassed || rawInput.dataQueryPassed ||
    rawInput.bufferReadPassed || rawInput.registeredCount != 0 ||
    rawInput.keyboardExpected != 0 || rawInput.keyboardCross != 0 ||
    rawInput.mouseExpected != 0 || rawInput.mouseCross != 0 ||
    rawInput.dataReads != 0 || rawInput.bufferPackets != 0 ||
    rawInput.apiFailures != 0 ||
    rawInput.destroyedTargetFailures != 0 ||
    rawInput.staleTokenFailures != 0 ||
    rawInput.queueOverflowFailures != 0 || rawInput.lastSystemError != 0

def kMaximumAdapterResult : UInt32 := 7

def validateProbeComparison : Except String Unit :=
  if comparison.schemaVersion ≠ kProbeSnapshotSchemaVersion then
    .error "unsupported probe snapshot schema version"
  else if comparison.sequence = 0 ∨ comparison.monotonicTimestampMicros = 0 ∨
      comparison.processId = 0 ∨ comparison.threadId = 0 ∨
      comparison.seatId = 0 ∨ !validVkey comparison.probeVkey ∨
      comparison.targetWindowRuntimeValue = 0 then
    .error "probe snapshot identity fields are invalid"
  else if comparison.adapter.clipEnabled ∧ !validRect comparison.adapter.clipRectangle then
    .error "adapter clip rectangle is invalid"
  else if comparison.os.clipRectangleSucceeded ∧ !validRect comparison.os.clipRectangle then
    .error "OS clip rectangle is invalid"
  else if comparison.adapter.snapshotResult > kMaximumAdapterResult ∨
      comparison.adapter.keyStateResult > kMaximumAdapterResult ∨
      comparison.adapter.keyboardStateResult > kMaximumAdapterResult ∨
      comparison.adapter.controlStateResult > kMaximumAdapterResult ∨
      comparison.adapter.mouseStateResult > kMaximumAdapterResult ∨
      comparison.adapter.windowStateResult > kMaximumAdapterResult then
    .error "adapter result code is invalid"
  else if !comparison.rawInput.enabled ∧ rawInputObserved comparison.rawInput then
    .error "disabled Raw Input snapshot contains observations"
  else if (updateProbeComparison comparison).compared ≠ comparison.compared then
    .error "probe comparison fields are inconsistent"
  else .ok ()

namespace ProbeReader

def truncated : String := "probe snapshot is truncated"

def boolean : Scanner Bool := scanBool truncated

def u16 : Scanner UInt16 := scanU16 truncated

def i16 : Scanner Int16 := scanI16 truncated

def u32 : Scanner UInt32 := scanU32 truncated

def i32 : Scanner Int32 := scanI32 truncated

def u64 : Scanner UInt64 := scanU64 truncated

def i64 : Scanner Int64 := scanI64 truncated

def array (size : Nat) : Scanner (Vector UInt8 size) := scanArray truncated size

def padding (count : Nat) : Scanner Unit := scanPadding truncated count

end ProbeReader

open ProbeReader

structure ProbeHeader where
  magic : UInt32
  (version headerBytes : UInt16)
  encodedBytes : UInt32

def writeProbeHeader (header : ProbeHeader) : List UInt8 :=
  writeU32 header.magic ++ writeU16 header.version ++
    writeU16 header.headerBytes ++ writeU32 header.encodedBytes ++
    writePadding 4

def readProbeHeader : Scanner ProbeHeader := do
  let magic ← u32
  let version ← u16
  let headerBytes ← u16
  let encodedBytes ← u32
  padding 4
  return { magic, version, headerBytes, encodedBytes }

def writeRect (rect : ProbeRect) : List UInt8 :=
  writeI32 rect.left ++ writeI32 rect.top ++ writeI32 rect.right ++ writeI32 rect.bottom

def readRect : Scanner ProbeRect := do
  let left ← i32
  let top ← i32
  let right ← i32
  let bottom ← i32
  return { left, top, right, bottom }

def writeOsInput (os : OsInputSnapshot) : List UInt8 :=
  writeI16 os.asyncKeyState ++ writeI16 os.keyState ++
    writeBool os.keyboardStateSucceeded ++ writePadding 3 ++
    writeU32 os.keyboardStateError ++ writeArray os.keyboardState ++
    writeBool os.cursorPositionSucceeded ++ writePadding 3 ++
    writeU32 os.cursorPositionError ++ writeI32 os.cursorX ++
    writeI32 os.cursorY ++ writeBool os.clipRectangleSucceeded ++
    writePadding 3 ++ writeU32 os.clipRectangleError ++
    writeRect os.clipRectangle ++
    writeU64 os.foregroundWindowRuntimeValue ++
    writeU64 os.activeWindowRuntimeValue ++
    writeU64 os.focusWindowRuntimeValue ++
    writeU64 os.captureWindowRuntimeValue

def readOsInput : Scanner OsInputSnapshot := do
  let asyncKeyState ← i16
  let keyState ← i16
  let keyboardStateSucceeded ← boolean
  padding 3
  let keyboardStateError ← u32
  let keyboardState ← array 256
  let cursorPositionSucceeded ← boolean
  padding 3
  let cursorPositionError ← u32
  let cursorX ← i32
  let cursorY ← i32
  let clipRectangleSucceeded ← boolean
  padding 3
  let clipRectangleError ← u32
  let clipRectangle ← readRect
  let foregroundWindowRuntimeValue ← u64
  let activeWindowRuntimeValue ← u64
  let focusWindowRuntimeValue ← u64
  let captureWindowRuntimeValue ← u64
  return { asyncKeyState, keyState, keyboardStateSucceeded,
           keyboardStateError, keyboardState, cursorPositionSucceeded,
           cursorPositionError, cursorX, cursorY, clipRectangleSucceeded,
           clipRectangleError, clipRectangle,
           foregroundWindowRuntimeValue, activeWindowRuntimeValue,
           focusWindowRuntimeValue, captureWindowRuntimeValue }

def writeAdapterInput (adapter : AdapterInputSnapshot) : List UInt8 :=
  writeU32 adapter.snapshotResult ++ writeU32 adapter.keyStateResult ++
    writeU32 adapter.keyboardStateResult ++
    writeU32 adapter.controlStateResult ++
    writeU32 adapter.mouseStateResult ++
    writeU32 adapter.windowStateResult ++
    writeU64 adapter.lastAppliedSequence ++
    writeU16 adapter.asyncKeyState ++ writeU16 adapter.keyState ++
    writeArray adapter.keyboardState ++ writeArray adapter.keyDownBits ++
    writeArray adapter.keyPressedEdgeBits ++
    writeU32 adapter.mouseButtonsDown ++
    writeI64 adapter.wheelAccumulator ++ writeI32 adapter.cursorX ++
    writeI32 adapter.cursorY ++ writeBool adapter.clipEnabled ++
    writeBool adapter.virtualForeground ++
    writeBool adapter.virtualCapture ++ writePadding 1 ++
    writeRect adapter.clipRectangle ++
    writeU64 adapter.targetWindowRuntimeValue ++
    writeU64 adapter.logicalForegroundWindowRuntimeValue ++
    writeU64 adapter.logicalActiveWindowRuntimeValue ++
    writeU64 adapter.logicalFocusWindowRuntimeValue ++
    writeU64 adapter.virtualCaptureWindowRuntimeValue

def readAdapterInput : Scanner AdapterInputSnapshot := do
  let snapshotResult ← u32
  let keyStateResult ← u32
  let keyboardStateResult ← u32
  let controlStateResult ← u32
  let mouseStateResult ← u32
  let windowStateResult ← u32
  let lastAppliedSequence ← u64
  let asyncKeyState ← u16
  let keyState ← u16
  let keyboardState ← array 256
  let keyDownBits ← array 32
  let keyPressedEdgeBits ← array 32
  let mouseButtonsDown ← u32
  let wheelAccumulator ← i64
  let cursorX ← i32
  let cursorY ← i32
  let clipEnabled ← boolean
  let virtualForeground ← boolean
  let virtualCapture ← boolean
  padding 1
  let clipRectangle ← readRect
  let targetWindowRuntimeValue ← u64
  let logicalForegroundWindowRuntimeValue ← u64
  let logicalActiveWindowRuntimeValue ← u64
  let logicalFocusWindowRuntimeValue ← u64
  let virtualCaptureWindowRuntimeValue ← u64
  return { snapshotResult, keyStateResult, keyboardStateResult,
           controlStateResult, mouseStateResult, windowStateResult,
           lastAppliedSequence, asyncKeyState, keyState, keyboardState,
           keyDownBits, keyPressedEdgeBits, mouseButtonsDown,
           wheelAccumulator, cursorX, cursorY, clipEnabled,
           virtualForeground, virtualCapture, clipRectangle,
           targetWindowRuntimeValue, logicalForegroundWindowRuntimeValue,
           logicalActiveWindowRuntimeValue,
           logicalFocusWindowRuntimeValue,
           virtualCaptureWindowRuntimeValue }

def writeRawInput (rawInput : RawInputApiSnapshot) : List UInt8 :=
  writeBool rawInput.enabled ++ writeBool rawInput.registrationLifecyclePassed ++
    writeBool rawInput.registrationQueryPassed ++
    writeBool rawInput.dataQueryPassed ++
    writeBool rawInput.bufferReadPassed ++ writePadding 3 ++
    writeU32 rawInput.registeredCount ++
    writeU32 rawInput.keyboardExpected ++
    writeU32 rawInput.keyboardCross ++
    writeU32 rawInput.mouseExpected ++ writeU32 rawInput.mouseCross ++
    writeU32 rawInput.dataReads ++ writeU32 rawInput.bufferPackets ++
    writeU32 rawInput.apiFailures ++
    writeU32 rawInput.destroyedTargetFailures ++
    writeU32 rawInput.staleTokenFailures ++
    writeU32 rawInput.queueOverflowFailures ++
    writeU32 rawInput.lastSystemError

def readRawInput : Scanner RawInputApiSnapshot := do
  let enabled ← boolean
  let registrationLifecyclePassed ← boolean
  let registrationQueryPassed ← boolean
  let dataQueryPassed ← boolean
  let bufferReadPassed ← boolean
  padding 3
  let registeredCount ← u32
  let keyboardExpected ← u32
  let keyboardCross ← u32
  let mouseExpected ← u32
  let mouseCross ← u32
  let dataReads ← u32
  let bufferPackets ← u32
  let apiFailures ← u32
  let destroyedTargetFailures ← u32
  let staleTokenFailures ← u32
  let queueOverflowFailures ← u32
  let lastSystemError ← u32
  return { enabled, registrationLifecyclePassed, registrationQueryPassed,
           dataQueryPassed, bufferReadPassed, registeredCount,
           keyboardExpected, keyboardCross, mouseExpected, mouseCross,
           dataReads, bufferPackets, apiFailures,
           destroyedTargetFailures, staleTokenFailures,
           queueOverflowFailures, lastSystemError }

def writeProbeMatches (compared : ProbeMatches) : List UInt8 :=
  writeBool compared.asyncDownMatches ++ writeBool compared.keyStateDownMatches ++
    writeBool compared.keyboardStateDownMatches ++
    writeBool compared.cursorMatches ++
    writeBool compared.clipRectangleMatches ++
    writeBool compared.foregroundMatches ++
    writeBool compared.activeMatches ++ writeBool compared.focusMatches ++
    writeBool compared.captureMatches ++
    writeBool compared.osForegroundIsTarget ++
    writeBool compared.osActiveIsTarget ++
    writeBool compared.osFocusIsTarget ++
    writeBool compared.osCaptureIsTarget ++ writePadding 3

def readProbeMatches : Scanner ProbeMatches := do
  let asyncDownMatches ← boolean
  let keyStateDownMatches ← boolean
  let keyboardStateDownMatches ← boolean
  let cursorMatches ← boolean
  let clipRectangleMatches ← boolean
  let foregroundMatches ← boolean
  let activeMatches ← boolean
  let focusMatches ← boolean
  let captureMatches ← boolean
  let osForegroundIsTarget ← boolean
  let osActiveIsTarget ← boolean
  let osFocusIsTarget ← boolean
  let osCaptureIsTarget ← boolean
  padding 3
  return { asyncDownMatches, keyStateDownMatches,
           keyboardStateDownMatches, cursorMatches, clipRectangleMatches,
           foregroundMatches, activeMatches, focusMatches, captureMatches,
           osForegroundIsTarget, osActiveIsTarget, osFocusIsTarget,
           osCaptureIsTarget }

def writeProbeFields (comparison : ProbeComparison) : List UInt8 :=
  writeU64 comparison.sequence ++ writeU64 comparison.monotonicTimestampMicros ++
    writeU32 comparison.processId ++ writeU32 comparison.threadId ++
    writeU32 comparison.seatId ++ writeU16 comparison.probeVkey ++
    writePadding 2 ++ writeU64 comparison.targetWindowRuntimeValue ++
    writeOsInput comparison.os ++ writeAdapterInput comparison.adapter ++
    writeRawInput comparison.rawInput ++
    writeProbeMatches comparison.compared

def readProbeFields (schemaVersion : UInt16) : Scanner ProbeComparison := do
  let sequence ← u64
  let monotonicTimestampMicros ← u64
  let processId ← u32
  let threadId ← u32
  let seatId ← u32
  let probeVkey ← u16
  padding 2
  let targetWindowRuntimeValue ← u64
  let os ← readOsInput
  let adapter ← readAdapterInput
  let rawInput ← readRawInput
  let compared ← readProbeMatches
  return { schemaVersion, sequence, monotonicTimestampMicros, processId,
           threadId, seatId, probeVkey, targetWindowRuntimeValue, os,
           adapter, rawInput, compared }

def probeHeader (schemaVersion : UInt16) : ProbeHeader where
  magic := kProbeSnapshotMagic
  version := schemaVersion
  headerBytes := kProbeSnapshotHeaderBytes
  encodedBytes := UInt32.ofNat kProbeSnapshotWireBytes

/-- An empty result is the encoder's refusal. -/
def encodeProbeComparison (comparison : ProbeComparison) : List UInt8 :=
  if validateProbeComparison comparison ≠ .ok () then []
  else
    let bytes :=
      writeProbeHeader (probeHeader comparison.schemaVersion) ++ writeProbeFields comparison
    if bytes.length ≠ kProbeSnapshotWireBytes ∨ bytes.length > kMaximumProbeSnapshotBytes then []
    else bytes

def decodeProbeComparison (bytes : List UInt8) : Except String ProbeComparison :=
  if bytes.length > kMaximumProbeSnapshotBytes then .error "probe snapshot exceeds maximum size"
  else if bytes.length < kProbeSnapshotWireBytes then .error "probe snapshot is truncated"
  else if bytes.length ≠ kProbeSnapshotWireBytes then .error "probe snapshot size is invalid"
  else
    match readProbeHeader bytes with
    | .error text => .error text
    | .ok (header, body) =>
      if header.magic ≠ kProbeSnapshotMagic then .error "probe snapshot magic mismatch"
      else if header.version ≠ kProbeSnapshotSchemaVersion then
        .error "unsupported probe snapshot schema version"
      else if header.headerBytes ≠ kProbeSnapshotHeaderBytes ∨
          header.encodedBytes.toNat ≠ bytes.length then
        .error "probe snapshot header size is invalid"
      else
        match readProbeFields header.version body with
        | .error text => .error text
        | .ok (comparison, unread) =>
          if unread ≠ [] then .error "probe snapshot contains trailing bytes"
          else
            match validateProbeComparison comparison with
            | .error text => .error text
            | .ok () => .ok comparison

end HydraSeat.GateC
