import HydraSeat.Process.ProcessGroup

/-!
# Where a window of a Seat belongs

A placement plan is computed from the tracked window, the display group of
its Seat and the policy.  Of a window and of an output, the fields that no
plan reads are left out.
-/

namespace HydraSeat.Windowing

inductive WindowRole where
  | primaryGame | launcher | dialog | overlay | childOwnedPopup | inputTarget | ignored
  deriving DecidableEq

structure WindowIdentity where
  nativeHandle : UInt64 := 0
  process : Process.ProcessIdentity := {}
  threadId : UInt32 := 0
  trackerGeneration : UInt64 := 0

namespace WindowIdentity

def valid (identity : WindowIdentity) : Bool :=
  identity.nativeHandle != 0 && identity.threadId != 0 &&
    identity.trackerGeneration != 0 && identity.process.valid

def sameInstance (identity other : WindowIdentity) : Bool :=
  identity.nativeHandle == other.nativeHandle && identity.threadId == other.threadId &&
    identity.trackerGeneration == other.trackerGeneration &&
    identity.process.sameInstance other.process

end WindowIdentity

structure DisplayRect where
  (left top right bottom : Int32 := 0)
  deriving DecidableEq

namespace DisplayRect

def width (rect : DisplayRect) : Int32 := rect.right - rect.left

def height (rect : DisplayRect) : Int32 := rect.bottom - rect.top

end DisplayRect

structure TrackedWindow where
  identity : WindowIdentity := {}
  seatId : UInt32 := 0
  role : WindowRole := .primaryGame
  bounds : DisplayRect := {}

structure SeatDisplayOutput where
  outputId : String := ""
  globalBounds : DisplayRect := {}

structure SeatDisplayGroup where
  seatId : UInt32 := 0
  outputs : List SeatDisplayOutput := []
  primaryOutputId : String := ""
  globalBounds : DisplayRect := {}
  (primaryOriginX primaryOriginY : Int32 := 0)
  degraded : Bool := false

structure CoordinateRect where
  (left top right bottom : Float := 0)

inductive WindowPlacementMode where
  | leaveNative | placeOnPrimaryOutput | spanSeatGroup | borderlessOnSelectedOutput
  | restoreLastSeatLocalRect | exclusiveFullscreen
  deriving DecidableEq

inductive ExclusiveFullscreenPolicy where
  | allowNative | block | unsupported

structure WindowPlacementPolicy where
  mode : WindowPlacementMode := .leaveNative
  selectedOutputId : String := ""
  lastSeatLocalRect : Option CoordinateRect := none
  stableWindowRole : Option WindowRole := none
  exclusiveFullscreen : ExclusiveFullscreenPolicy := .unsupported
  initialDelayMs : UInt32 := 0
  retryCount : UInt32 := 2
  retryDelayMs : UInt32 := 50
  placementTolerancePixels : UInt32 := 2

/-- Its coordinate space has a single value. -/
structure WindowPlacementPlan where
  (valid actionable borderless leaveNative degraded : Bool := false)
  desiredRect : DisplayRect := {}
  targetOutputId : String := ""
  diagnostics : List String := []

def kMaxInitialDelayMs : UInt32 := 10000

def kMaxRetryCount : UInt32 := 8

def kMaxRetryDelayMs : UInt32 := 2000

def kMaxTolerancePixels : UInt32 := 64

def hasNoArea (rect : CoordinateRect) : Bool :=
  decide (rect.right ≤ rect.left) || decide (rect.bottom ≤ rect.top)

def validateWindowPlacementPolicy (policy : WindowPlacementPolicy) : Except String Unit :=
  if policy.initialDelayMs > kMaxInitialDelayMs then
    .error "window placement initial delay exceeds 10 seconds"
  else if policy.retryCount > kMaxRetryCount then
    .error "window placement retry count exceeds bounded limit of 8"
  else if policy.retryDelayMs > kMaxRetryDelayMs then
    .error "window placement retry delay exceeds 2 seconds"
  else if policy.placementTolerancePixels > kMaxTolerancePixels then
    .error "window placement tolerance exceeds 64 pixels"
  else if policy.mode = .borderlessOnSelectedOutput ∧ policy.selectedOutputId = "" then
    .error "borderless placement requires a selected stable output ID"
  else if policy.mode = .restoreLastSeatLocalRect ∧ policy.lastSeatLocalRect.isNone then
    .error "restore-last placement requires a Seat-local rectangle"
  else if policy.lastSeatLocalRect.any hasNoArea then
    .error "restore-last Seat-local rectangle has no area"
  else .ok ()

def findOutput (group : SeatDisplayGroup) (outputId : String) : Option SeatDisplayOutput :=
  group.outputs.find? (·.outputId == outputId)

def roundedCoordinate (value : Float) : Int32 :=
  let lower := Int32.minValue.toFloat
  let upper := Int32.maxValue.toFloat
  let clamped :=
    if value < lower then lower else if upper < value then upper else value
  clamped.round.toInt32

def fitWindowAtOutputOrigin (window : TrackedWindow) (output : SeatDisplayOutput) : DisplayRect :=
  let currentWidth := max 1 window.bounds.width
  let currentHeight := max 1 window.bounds.height
  let width := min currentWidth output.globalBounds.width
  let height := min currentHeight output.globalBounds.height
  { left := output.globalBounds.left, top := output.globalBounds.top
    right := output.globalBounds.left + width, bottom := output.globalBounds.top + height }

/-- `CoordinateTransform::seatToGlobal` of both corners. -/
def restoredRect (group : SeatDisplayGroup) (rect : CoordinateRect) : DisplayRect where
  left := roundedCoordinate (rect.left + group.primaryOriginX.toFloat)
  top := roundedCoordinate (rect.top + group.primaryOriginY.toFloat)
  right := roundedCoordinate (rect.right + group.primaryOriginX.toFloat)
  bottom := roundedCoordinate (rect.bottom + group.primaryOriginY.toFloat)

def rejectedPlan (diagnostic : String) : WindowPlacementPlan where
  diagnostics := [diagnostic]

/-- The `switch` over the mode of the policy. -/
def placeWindow (window : TrackedWindow) (displayGroup : SeatDisplayGroup)
    (policy : WindowPlacementPolicy) : WindowPlacementPlan :=
  match policy.mode with
  | .leaveNative => { valid := true, leaveNative := true }
  | .placeOnPrimaryOutput =>
    match findOutput displayGroup displayGroup.primaryOutputId with
    | none => rejectedPlan "Seat primary output is unresolved"
    | some output =>
      { valid := true, actionable := true, targetOutputId := output.outputId
        desiredRect := fitWindowAtOutputOrigin window output }
  | .spanSeatGroup =>
    { valid := true, actionable := true, desiredRect := displayGroup.globalBounds }
  | .borderlessOnSelectedOutput =>
    match findOutput displayGroup policy.selectedOutputId with
    | none => rejectedPlan "selected borderless output is not part of Seat display group"
    | some output =>
      { valid := true, actionable := true, borderless := true, targetOutputId := output.outputId
        desiredRect := output.globalBounds }
  | .restoreLastSeatLocalRect =>
    let rect := restoredRect displayGroup (policy.lastSeatLocalRect.getD {})
    if rect.width ≤ 0 ∨ rect.height ≤ 0 then
      { desiredRect := rect
        diagnostics :=
          ["restored Seat-local rectangle overflows physical " ++ "desktop coordinates"] }
    else
      { valid := true, actionable := true, desiredRect := rect }
  | .exclusiveFullscreen =>
    match policy.exclusiveFullscreen with
    | .allowNative =>
      { valid := true, leaveNative := true, degraded := true
        diagnostics :=
          ["exclusive fullscreen is left native; HydraSeat does not " ++
            "claim deterministic control"] }
    | .block => rejectedPlan "exclusive fullscreen is blocked by profile policy"
    | .unsupported =>
      { degraded := true
        diagnostics := ["exclusive fullscreen control is unsupported for this " ++ "profile"] }

def computeWindowPlacementPlan (window : TrackedWindow) (displayGroup : SeatDisplayGroup)
    (policy : WindowPlacementPolicy) : WindowPlacementPlan :=
  match validateWindowPlacementPolicy policy with
  | .error text => rejectedPlan text
  | .ok () =>
    if window.identity.valid = false then rejectedPlan "window identity is invalid or incomplete"
    else if displayGroup.seatId = 0 ∨ window.seatId ≠ displayGroup.seatId then
      rejectedPlan "window Seat does not match target display group"
    else if displayGroup.outputs = [] then rejectedPlan "Seat display group has no resolved outputs"
    else if policy.stableWindowRole.any (· != window.role) then
      { valid := true, leaveNative := true
        diagnostics := ["window does not match stable-window role selector"] }
    else placeWindow window displayGroup policy

end HydraSeat.Windowing
