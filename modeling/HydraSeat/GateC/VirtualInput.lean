import HydraSeat.Foundation.Bits
import HydraSeat.GateC.Protocol

/-!
# The virtual input state of one game

`VirtualInputState` is what a game sees of keyboard, mouse, cursor and clip
rectangle.  Signed overflow and a `std::clamp` whose bounds are the wrong way
round have no result, so an operation that reaches one answers nothing.
-/

namespace HydraSeat.GateC

open Foundation

def kMouseLeftDown : UInt16 := 0x0001

def kMouseLeftUp : UInt16 := 0x0002

def kMouseRightDown : UInt16 := 0x0004

def kMouseRightUp : UInt16 := 0x0008

def kMouseMiddleDown : UInt16 := 0x0010

def kMouseMiddleUp : UInt16 := 0x0020

def kMouseButton4Down : UInt16 := 0x0040

def kMouseButton4Up : UInt16 := 0x0080

def kMouseButton5Down : UInt16 := 0x0100

def kMouseButton5Up : UInt16 := 0x0200

structure VirtualInputState where
  (keyDownBits keyPressedEdgeBits : Vector UInt8 32 := Vector.replicate 32 0)
  mouseButtonsDown : UInt32 := 0
  wheelAccumulator : Int64 := 0
  (cursorX cursorY : Int32 := 0)
  (clipEnabled virtualForeground virtualCapture : Bool := false)
  (clipLeft clipTop clipRight clipBottom : Int32 := 0)
  lastAppliedSequence : UInt64 := 0

namespace VirtualInputState

variable (self : VirtualInputState)

def saturatingAdd32 (left right : Int32) : Option Int32 := do
  let sum ← int64? (left.toInt64.toInt + right.toInt64.toInt)
  if Int32.maxValue.toInt64 < sum then
    return Int32.maxValue
  else if sum < Int32.minValue.toInt64 then
    return Int32.minValue
  else
    return sum.toInt32

/-- The first check of the 64-bit sum. -/
def addsPastMaximum (left right : Int64) : Option Bool :=
  if 0 < right then (int64? (Int64.maxValue.toInt - right.toInt)).map (· < left)
  else some false

/-- The second check of the 64-bit sum. -/
def addsPastMinimum (left right : Int64) : Option Bool :=
  if right < 0 then (int64? (Int64.minValue.toInt - right.toInt)).map (left < ·)
  else some false

def saturatingAdd64 (left right : Int64) : Option Int64 := do
  let tooHigh ← addsPastMaximum left right
  if tooHigh then
    return Int64.maxValue
  else
    let tooLow ← addsPastMinimum left right
    if tooLow then
      return Int64.minValue
    else int64? (left.toInt + right.toInt)

/-- `std::clamp`, which needs its bounds in order. -/
def clamp (value low high : Int32) : Option Int32 :=
  if high < low then none
  else if value < low then some low
  else if high < value then some high
  else some value

def bitMask (index : UInt32) : UInt8 := ((1 : UInt32) <<< (index % 8)).toUInt8

def bit (bits : Vector UInt8 32) (index : UInt32) : Bool :=
  if outside : 256 ≤ index.toNat then false
  else
    have byteIndex : index.toNat / 8 < 32 := by omega
    bits[index.toNat / 8] &&& bitMask index != 0

def setBit (bits : Vector UInt8 32) (index : UInt32) (value : Bool) : Vector UInt8 32 :=
  if outside : 256 ≤ index.toNat then bits
  else
    have byteIndex : index.toNat / 8 < 32 := by omega
    let byte := bits[index.toNat / 8]
    bits.set (index.toNat / 8)
      (if value then byte ||| bitMask index
      else byte &&& ~~~bitMask index)

def setButton (flags downFlag upFlag : UInt16) (buttonMask buttons : UInt32) : UInt32 :=
  let pressed :=
    if flags &&& downFlag ≠ 0 then buttons ||| buttonMask else buttons
  if flags &&& upFlag ≠ 0 then pressed &&& ~~~buttonMask else pressed

def applyMouseButtons (flags : UInt16) (buttons : UInt32) : UInt32 :=
  let buttons := setButton flags kMouseLeftDown kMouseLeftUp 0x01 buttons
  let buttons := setButton flags kMouseRightDown kMouseRightUp 0x02 buttons
  let buttons := setButton flags kMouseMiddleDown kMouseMiddleUp 0x04 buttons
  let buttons := setButton flags kMouseButton4Down kMouseButton4Up 0x08 buttons
  setButton flags kMouseButton5Down kMouseButton5Up 0x10 buttons

def clampCursor : Option VirtualInputState :=
  if !self.clipEnabled ∨ self.clipRight ≤ self.clipLeft ∨ self.clipBottom ≤ self.clipTop then
    some self
  else do
    let lastX ← int32? (self.clipRight.toInt - 1)
    let cursorX ← clamp self.cursorX self.clipLeft lastX
    let lastY ← int32? (self.clipBottom.toInt - 1)
    let cursorY ← clamp self.cursorY self.clipTop lastY
    return { self with cursorX, cursorY }

def applyInput (sequence : UInt64)
    (message : InputEventMessage) : Option (Bool × VirtualInputState) :=
  if sequence = 0 ∨ sequence ≤ self.lastAppliedSequence then some (false, self)
  else
    match message.kind with
    | .keyboard =>
      if 256 ≤ message.vkey.toNat then some (false, self)
      else
        let wasDown := bit self.keyDownBits message.vkey
        match message.keyTransition with
        | .down =>
          some (true,
            { self with
              keyDownBits := setBit self.keyDownBits message.vkey true
              keyPressedEdgeBits :=
                if !wasDown then setBit self.keyPressedEdgeBits message.vkey true
                else self.keyPressedEdgeBits
              lastAppliedSequence := sequence })
        | .up =>
          some (true,
            { self with
              keyDownBits := setBit self.keyDownBits message.vkey false
              lastAppliedSequence := sequence })
        | .none => some (false, self)
    | .mouse => do
        let cursorX ← saturatingAdd32 self.cursorX message.deltaX
        let cursorY ← saturatingAdd32 self.cursorY message.deltaY
        let wheelAccumulator ← saturatingAdd64 self.wheelAccumulator message.wheelDelta.toInt64
        let clamped ←
          { self with
            cursorX, cursorY, wheelAccumulator
            mouseButtonsDown := applyMouseButtons message.mouseButtonFlags
              self.mouseButtonsDown }.clampCursor
        return (true, { clamped with lastAppliedSequence := sequence })

def applyControl (sequence : UInt64)
    (message : ControlStateMessage) : Option (Bool × VirtualInputState) :=
  if sequence = 0 ∨ sequence ≤ self.lastAppliedSequence then some (false, self)
  else if message.clipEnabled ∧
      (message.clipRight ≤ message.clipLeft ∨ message.clipBottom ≤ message.clipTop) then
    some (false, self)
  else do
    let clamped ←
      { self with
        cursorX := message.cursorX, cursorY := message.cursorY, clipEnabled := message.clipEnabled
        virtualForeground := message.virtualForeground, virtualCapture := message.virtualCapture
        clipLeft := message.clipLeft, clipTop := message.clipTop, clipRight := message.clipRight
        clipBottom := message.clipBottom }.clampCursor
    return (true, { clamped with lastAppliedSequence := sequence })

def setVirtualCursor (x y : Int32) : Option VirtualInputState :=
  { self with cursorX := x, cursorY := y }.clampCursor

def setVirtualClip (enabled : Bool)
    (left top right bottom : Int32) : Option (Bool × VirtualInputState) :=
  if enabled ∧ (right ≤ left ∨ bottom ≤ top) then some (false, self)
  else do
    let clamped ←
      { self with
        clipEnabled := enabled, clipLeft := if enabled then left else 0
        clipTop := if enabled then top else 0, clipRight := if enabled then right else 0
        clipBottom := if enabled then bottom else 0 }.clampCursor
    return (true, clamped)

def keyDown (vkey : UInt32) : Bool := bit self.keyDownBits vkey

/-- The key state with the edge in its lowest bit, and the state after the
edge was given out. -/
def consumeAsyncKeyState (vkey : UInt32) : UInt16 × VirtualInputState :=
  if 256 ≤ vkey.toNat then (0, self)
  else
    let result : UInt16 :=
      if bit self.keyDownBits vkey then 0x8000 else 0
    if bit self.keyPressedEdgeBits vkey then
      (result ||| 0x0001,
        { self with keyPressedEdgeBits := setBit self.keyPressedEdgeBits vkey false })
    else (result, self)

def keyboardState : Vector UInt8 256 :=
  Vector.ofFn fun vkey =>
    if bit self.keyDownBits (UInt32.ofNat vkey.val) then 0x80 else 0

def snapshot : StateSnapshotMessage where
  lastAppliedSequence := self.lastAppliedSequence
  keyDownBits := self.keyDownBits
  keyPressedEdgeBits := self.keyPressedEdgeBits
  mouseButtonsDown := self.mouseButtonsDown
  wheelAccumulator := self.wheelAccumulator
  cursorX := self.cursorX
  cursorY := self.cursorY
  clipEnabled := self.clipEnabled
  virtualForeground := self.virtualForeground
  virtualCapture := self.virtualCapture
  clipLeft := self.clipLeft
  clipTop := self.clipTop
  clipRight := self.clipRight
  clipBottom := self.clipBottom

/-- The snapshot that the adapter exports, with the state of one key.  A key
out of range is refused. -/
def getSnapshot (probeVkey : UInt16) : Option StateSnapshotMessage × VirtualInputState :=
  if probeVkeyOutOfRange probeVkey then (none, self)
  else if inRange : probeVkey.toNat < 256 then
    let (asyncKeyStateValue, next) := self.consumeAsyncKeyState probeVkey.toUInt32
    (some
      { self.snapshot with
        probeVkey, keyboardStateByte := self.keyboardState[probeVkey.toNat], asyncKeyStateValue },
      next)
  else (some { self.snapshot with probeVkey }, self)

inductive Operation where
  | applyInput (sequence : UInt64) (message : InputEventMessage)
  | applyControl (sequence : UInt64) (message : ControlStateMessage)
  | setVirtualCursor (x y : Int32)
  | setVirtualClip (enabled : Bool) (left top right bottom : Int32)
  | consumeAsyncKeyState (vkey : UInt32)
  | getSnapshot (probeVkey : UInt16)
  | reset
  deriving DecidableEq

inductive Answer where
  | done
  | accepted (applied : Bool)
  | keyState (value : UInt16)
  | exported (snapshot : Option StateSnapshotMessage)

def step : Operation → Option (Answer × VirtualInputState)
  | .applyInput sequence message => (self.applyInput sequence message).map (Prod.map .accepted id)
  | .applyControl sequence message =>
    (self.applyControl sequence message).map (Prod.map .accepted id)
  | .setVirtualCursor x y => (self.setVirtualCursor x y).map fun next => (.done, next)
  | .setVirtualClip enabled left top right bottom =>
    (self.setVirtualClip enabled left top right bottom).map (Prod.map .accepted id)
  | .consumeAsyncKeyState vkey => some (Prod.map .keyState id (self.consumeAsyncKeyState vkey))
  | .getSnapshot probeVkey => some (Prod.map .exported id (self.getSnapshot probeVkey))
  | .reset => some (.done, {})

end VirtualInputState

end HydraSeat.GateC
