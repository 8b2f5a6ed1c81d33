import HydraSeat.Foundation.Latch
import HydraSeat.Foundation.Transition
import HydraSeat.GateC.Exactness
import HydraSeat.GateC.VirtualInput

/-!
# The law of the virtual input state

Every operation has a result, keeps the cursor inside an enabled clip
rectangle and changes nothing when it fails.  The edge bit of a key is a
latch: pressing the key sets it and asking for the key reads it.
-/

namespace HydraSeat.GateC

open Foundation LatchEvent

namespace VirtualInputState

theorem saturatingAdd32_eq (left right : Int32) :
    ∃ sum, saturatingAdd32 left right = some sum ∧
      sum.toInt = saturate (-2147483648) 2147483647 (left.toInt + right.toInt) := by
  have leftBounds := int32_bounds left
  have rightBounds := int32_bounds right
  obtain ⟨sum, computed, spelled⟩ := int64?_of_le (left.toInt + right.toInt) (by omega) (by omega)
  unfold saturatingAdd32 saturate
  rw [Int32.toInt_toInt64, Int32.toInt_toInt64, computed, Option.bind_eq_bind, Option.bind_some]
  have high : Int32.maxValue.toInt64.toInt = 2147483647 := rfl
  have low : Int32.minValue.toInt64.toInt = -2147483648 := rfl
  split
  next above =>
    rw [Int64.lt_iff_toInt_lt, high, spelled] at above
    refine ⟨_, rfl, ?_⟩
    rw [Int32.toInt_maxValue]
    omega
  next notAbove =>
    rw [Int64.lt_iff_toInt_lt, high, spelled] at notAbove
    split
    next below =>
      rw [Int64.lt_iff_toInt_lt, low, spelled] at below
      refine ⟨_, rfl, ?_⟩
      rw [Int32.toInt_minValue]
      omega
    next notBelow =>
      rw [Int64.lt_iff_toInt_lt, low, spelled] at notBelow
      refine ⟨_, rfl, ?_⟩
      rw [Int64.toInt_toInt32, spelled, Int.bmod_eq_of_le (by omega) (by omega)]
      omega

theorem addsPastMaximum_eq (left right : Int64) :
    addsPastMaximum left right =
      some (decide (9223372036854775807 < left.toInt + right.toInt)) := by
  have leftBounds := int64_bounds left
  have rightBounds := int64_bounds right
  have high : Int64.maxValue.toInt = 9223372036854775807 := rfl
  unfold addsPastMaximum
  rw [high]
  split
  next positive =>
    rw [Int64.lt_iff_toInt_lt, Int64.toInt_zero] at positive
    obtain ⟨margin, computed, spelled⟩ := int64?_of_le (9223372036854775807 - right.toInt)
      (by omega) (by omega)
    rw [computed, Option.map_some, Option.some_inj, decide_eq_decide,
      Int64.lt_iff_toInt_lt, spelled]
    omega
  next notPositive =>
    rw [Int64.lt_iff_toInt_lt, Int64.toInt_zero] at notPositive
    rw [Option.some_inj, eq_comm, decide_eq_false_iff_not]
    omega

theorem addsPastMinimum_eq (left right : Int64) :
    addsPastMinimum left right =
      some (decide (left.toInt + right.toInt < -9223372036854775808)) := by
  have leftBounds := int64_bounds left
  have rightBounds := int64_bounds right
  have low : Int64.minValue.toInt = -9223372036854775808 := rfl
  unfold addsPastMinimum
  rw [low]
  split
  next negative =>
    rw [Int64.lt_iff_toInt_lt, Int64.toInt_zero] at negative
    obtain ⟨margin, computed, spelled⟩ := int64?_of_le (-9223372036854775808 - right.toInt)
      (by omega) (by omega)
    rw [computed, Option.map_some, Option.some_inj, decide_eq_decide,
      Int64.lt_iff_toInt_lt, spelled]
    omega
  next notNegative =>
    rw [Int64.lt_iff_toInt_lt, Int64.toInt_zero] at notNegative
    rw [Option.some_inj, eq_comm, decide_eq_false_iff_not]
    omega

theorem saturatingAdd64_eq (left right : Int64) :
    ∃ sum, saturatingAdd64 left right = some sum ∧
      sum.toInt =
        saturate (-9223372036854775808) 9223372036854775807 (left.toInt + right.toInt) := by
  have leftBounds := int64_bounds left
  have rightBounds := int64_bounds right
  unfold saturatingAdd64 saturate
  rw [addsPastMaximum_eq, addsPastMinimum_eq]
  simp only [Option.bind_eq_bind, Option.bind_some, decide_eq_true_iff]
  split
  next above =>
    refine ⟨_, rfl, ?_⟩
    rw [Int64.toInt_maxValue]
    omega
  next notAbove =>
    split
    next below =>
      refine ⟨_, rfl, ?_⟩
      rw [Int64.toInt_minValue]
      omega
    next notBelow =>
      obtain ⟨sum, computed, spelled⟩ := int64?_of_le (left.toInt + right.toInt)
        (by omega) (by omega)
      refine ⟨sum, computed, ?_⟩
      rw [spelled]
      omega

theorem clamp_eq (value low high : Int32) (ordered : low.toInt ≤ high.toInt) :
    ∃ clamped, clamp value low high = some clamped ∧
      low.toInt ≤ clamped.toInt ∧ clamped.toInt ≤ high.toInt := by
  unfold clamp
  rw [if_neg (by rw [Int32.lt_iff_toInt_lt]; omega)]
  split
  · exact ⟨_, rfl, Int.le_refl _, ordered⟩
  next notBelow =>
    rw [Int32.lt_iff_toInt_lt] at notBelow
    split
    · exact ⟨_, rfl, ordered, Int.le_refl _⟩
    next notAbove =>
      rw [Int32.lt_iff_toInt_lt] at notAbove
      exact ⟨_, rfl, by omega, by omega⟩

theorem bitMask_toNat (index : UInt32) : (bitMask index).toNat = 2 ^ (index.toNat % 8) := by
  have small : index.toNat % 8 < 8 := Nat.mod_lt _ (by decide)
  have amount : (index % 8).toNat = index.toNat % 8 := UInt32.toNat_mod index 8
  have power : 2 ^ (index.toNat % 8) < 2 ^ 8 := Nat.pow_lt_pow_right (by decide) small
  unfold bitMask
  rw [UInt32.toNat_toUInt8, UInt32.toNat_shiftLeft, amount]
  change (1 <<< (index.toNat % 8 % 32)) % 2 ^ 32 % 2 ^ 8 = _
  rw [Nat.mod_eq_of_lt (by omega : index.toNat % 8 < 32),
    Nat.one_shiftLeft, Nat.mod_eq_of_lt (power.trans (by decide)),
    Nat.mod_eq_of_lt power]

theorem bit_eq_testBit (bits : Vector UInt8 32) (index : UInt32) (inside : index.toNat < 256) :
    bit bits index = (bits[index.toNat / 8]).toNat.testBit (index.toNat % 8) := by
  unfold bit
  rw [dif_neg (by omega), Bool.eq_iff_iff, bne_iff_ne, ne_eq,
    ← UInt8.toNat_inj, UInt8.toNat_and, bitMask_toNat,
    Nat.and_two_pow]
  cases (bits[index.toNat / 8]).toNat.testBit (index.toNat % 8) with
  | false | true => simp

theorem writtenByte_testBit (byte : UInt8) (index : UInt32) (value : Bool) (digit : Nat)
    (small : digit < 8) :
    (if value then byte ||| bitMask index
      else byte &&& ~~~bitMask index).toNat.testBit digit =
      if digit = index.toNat % 8 then value
      else byte.toNat.testBit digit := by
  have mask : (bitMask index).toNat.testBit digit = decide (digit = index.toNat % 8) := by
    rw [bitMask_toNat, Nat.testBit_two_pow]
    exact decide_eq_decide.mpr eq_comm
  cases value with
  | true =>
    rw [if_pos rfl, UInt8.toNat_or, Nat.testBit_or, mask]
    split
    next same => rw [decide_eq_true same, Bool.or_true]
    next different => rw [decide_eq_false different, Bool.or_false]
  | false =>
    have bounded := (bitMask index).toNat_lt
    have flipped : (~~~bitMask index).toNat = 2 ^ 8 - ((bitMask index).toNat + 1) := by
      rw [UInt8.toNat_not]
      change 256 - 1 - _ = 256 - _
      omega
    rw [if_neg (by decide), UInt8.toNat_and, Nat.testBit_and, flipped,
      Nat.testBit_two_pow_sub_succ bounded, mask,
      decide_eq_true small, Bool.true_and]
    split
    next same => rw [decide_eq_true same, Bool.not_true, Bool.and_false]
    next different => rw [decide_eq_false different, Bool.not_false, Bool.and_true]

theorem bit_setBit (bits : Vector UInt8 32) (index other : UInt32) (value : Bool)
    (inside : index.toNat < 256) :
    bit (setBit bits index value) other = if other = index then value else bit bits other := by
  by_cases known : other.toNat < 256
  · have small : other.toNat % 8 < 8 := Nat.mod_lt _ (by decide)
    rw [bit_eq_testBit _ other known, bit_eq_testBit _ other known]
    unfold setBit
    rw [dif_neg (by omega)]
    dsimp only
    rw [Vector.getElem_set]
    by_cases sameByte : index.toNat / 8 = other.toNat / 8
    · rw [if_pos sameByte, writtenByte_testBit _ _ _ _ small]
      have sameIndex : other.toNat % 8 = index.toNat % 8 ↔ other = index := by
        rw [← UInt32.toNat_inj]
        omega
      simp only [sameIndex, sameByte]
    · rw [if_neg sameByte, if_neg]
      rintro rfl
      exact sameByte rfl
  · have different : other ≠ index := by
      rintro rfl
      exact known inside
    rw [if_neg different]
    unfold bit
    rw [dif_pos (by omega), dif_pos (by omega)]

theorem bit_zero (index : UInt32) : bit (Vector.replicate 32 0) index = false := by
  by_cases inside : index.toNat < 256
  · rw [bit_eq_testBit _ index inside, Vector.getElem_replicate]
    exact Nat.zero_testBit _
  · unfold bit
    rw [dif_pos (by omega)]

theorem bit_outside (bits : Vector UInt8 32) {index : UInt32}
    (outside : 256 ≤ index.toNat) : bit bits index = false := by
  unfold bit
  rw [dif_pos outside]

structure Clipped (state : VirtualInputState) : Prop where
  cursorX :
    state.clipEnabled = true →
      state.clipLeft.toInt ≤ state.cursorX.toInt ∧ state.cursorX.toInt < state.clipRight.toInt
  cursorY :
    state.clipEnabled = true →
      state.clipTop.toInt ≤ state.cursorY.toInt ∧ state.cursorY.toInt < state.clipBottom.toInt

def RoundTrips (snapshot : StateSnapshotMessage) : Prop :=
  ∀ sequence,
    decodeFramed decodeStateSnapshot (encodeStateSnapshot sequence snapshot) =
      .ok (sequence, snapshot)

def Answer.failed : Answer → Bool
  | .accepted applied => !applied
  | .exported none => true
  | _ => false

def edgeBit (value : UInt16) : Bool := value &&& 1 != 0

def Answer.edge : Answer → Bool
  | .keyState value => edgeBit value
  | .exported (some snapshot) => edgeBit snapshot.asyncKeyStateValue
  | _ => false

def queriedKey : Operation → Option UInt32
  | .consumeAsyncKeyState vkey => some vkey
  | .getSnapshot probeVkey =>
    if probeVkey.toNat < 256 then some probeVkey.toUInt32 else none
  | _ => none

/-- What a step does to the edge of a key. -/
def keyEvent (before : VirtualInputState) (operation : Operation) (answer : Answer)
    (after : VirtualInputState) (key : UInt32) : Option LatchEvent :=
  if operation = .reset then some .clear
  else if queriedKey operation = some key then some (.read answer.edge)
  else if !before.keyDown key && after.keyDown key then some .set
  else none

/-- The state, unless an operation had no result, and what happened to each
key. -/
structure InputLedger where
  state : Option VirtualInputState := some {}
  events : UInt32 → List LatchEvent := fun _ => []

def ledgerStep (ledger : InputLedger) (operation : Operation) : InputLedger :=
  match ledger.state with
  | none => ledger
  | some before =>
    match before.step operation with
    | none => { ledger with state := none }
    | some (answer, after) =>
      { state := some after
        events := fun key =>
          record (keyEvent before operation answer after key) (ledger.events key) }

/-- What holds between two operations. -/
structure Sound (ledger : InputLedger) (state : VirtualInputState) : Prop where
  defined : ledger.state = some state
  clipped : state.Clipped
  exported : RoundTrips state.snapshot
  edge : ∀ key, bit state.keyPressedEdgeBits key = latched (ledger.events key)
  answered : ∀ key, Faithful (ledger.events key)
  once : ∀ key, (ledger.events key).count (.read true) ≤ (ledger.events key).count .set

/-- A failed operation changes nothing, and what is exported decodes. -/
def Obedient (ledger : InputLedger) (operation : Operation) : Prop :=
  ∀ before answer after,
    ledger.state = some before →
      before.step operation = some (answer, after) →
        (answer.failed = true → after = before) ∧
          ∀ snapshot, answer = .exported (some snapshot) → RoundTrips snapshot

section Steps

variable {self : VirtualInputState}
variable {operation : Operation} {after : VirtualInputState} {answer : Answer} {vkey : UInt32}

theorem clampCursor_eq (self : VirtualInputState)
    (ordered :
      self.clipEnabled = true →
        self.clipLeft.toInt < self.clipRight.toInt ∧ self.clipTop.toInt < self.clipBottom.toInt) :
    ∃ cursorX cursorY,
      self.clampCursor = some { self with cursorX, cursorY } ∧
        { self with cursorX, cursorY }.Clipped := by
  unfold clampCursor
  split
  next unclipped =>
    refine ⟨self.cursorX, self.cursorY, rfl, ?_⟩
    have disabled : self.clipEnabled ≠ true := by
      intro enabled
      obtain ⟨wide, high⟩ := ordered enabled
      rw [enabled, Int32.le_iff_toInt_le, Int32.le_iff_toInt_le] at unclipped
      rcases unclipped with impossible | narrow | low
      · cases impossible
      · omega
      · omega
    exact ⟨fun enabled => absurd enabled disabled, fun enabled => absurd enabled disabled⟩
  next clipped =>
    rw [not_or, not_or, Int32.le_iff_toInt_le, Int32.le_iff_toInt_le] at clipped
    obtain ⟨_, wide, high⟩ := clipped
    have leftBounds := int32_bounds self.clipLeft
    have rightBounds := int32_bounds self.clipRight
    have topBounds := int32_bounds self.clipTop
    have bottomBounds := int32_bounds self.clipBottom
    obtain ⟨lastX, computedX, spelledX⟩ :=
      int32?_of_le (self.clipRight.toInt - 1) (by omega) (by omega)
    obtain ⟨lastY, computedY, spelledY⟩ :=
      int32?_of_le (self.clipBottom.toInt - 1) (by omega) (by omega)
    obtain ⟨cursorX, clampedX, lowX, highX⟩ := clamp_eq self.cursorX self.clipLeft lastX (by omega)
    obtain ⟨cursorY, clampedY, lowY, highY⟩ := clamp_eq self.cursorY self.clipTop lastY (by omega)
    refine ⟨cursorX, cursorY, ?_, ?_⟩
    · rw [computedX, computedY]
      simp only [Option.bind_eq_bind, Option.bind_some, clampedX, clampedY]
      rfl
    · exact ⟨fun _ => ⟨lowX, by dsimp only; omega⟩, fun _ => ⟨lowY, by dsimp only; omega⟩⟩

theorem Clipped.ordered (clipped : self.Clipped) (enabled : self.clipEnabled = true) :
    self.clipLeft.toInt < self.clipRight.toInt ∧ self.clipTop.toInt < self.clipBottom.toInt := by
  have insideX := clipped.cursorX enabled
  have insideY := clipped.cursorY enabled
  omega

/-- A clipped state exports snapshots that decode, whichever key they
probe. -/
theorem Clipped.roundTrips (clipped : self.Clipped) {probeVkey asyncKeyStateValue : UInt16}
    {keyboardStateByte : UInt8}
    (inRange : probeVkeyOutOfRange probeVkey = false) :
    RoundTrips { self.snapshot with probeVkey, asyncKeyStateValue, keyboardStateByte } := by
  have roundTrip :
      RoundTrip (fun sent => validateStateSnapshot sent.2 = .ok ())
        (fun sent => encodeStateSnapshot sent.1 sent.2)
        (decodeFramed decodeStateSnapshot) :=
    message_roundTrip readStateSnapshot_scans writeStateSnapshot_length (by decide)
  intro sequence
  apply roundTrip.decode_encode (sequence, _)
  unfold validateStateSnapshot
  rw [if_neg (by rw [inRange]; decide), if_neg]
  rintro ⟨enabled, disordered⟩
  obtain ⟨wide, high⟩ := clipped.ordered enabled
  rw [Int32.le_iff_toInt_le, Int32.le_iff_toInt_le] at disordered
  rcases disordered with narrow | low
  · exact absurd wide (Int.not_lt.mpr narrow)
  · exact absurd high (Int.not_lt.mpr low)

structure StepLaw (before : VirtualInputState) (operation : Operation) (answer : Answer)
    (after : VirtualInputState) : Prop where
  clipped : after.Clipped
  failed : answer.failed = true → after = before
  exported : ∀ snapshot, answer = .exported (some snapshot) → RoundTrips snapshot
  edge :
    ∀ key,
      bit after.keyPressedEdgeBits key =
        LatchEvent.after (keyEvent before operation answer after key)
          (bit before.keyPressedEdgeBits key)
  found :
    ∀ key found,
      keyEvent before operation answer after key = some (.read found) →
        found = bit before.keyPressedEdgeBits key

/-- An operation that asks for no key and touches no key bits has no event
for any key. -/
theorem keyEvent_eq_none (kept : operation ≠ .reset)
    (unasked : queriedKey operation = none) (answer : Answer) {key : UInt32}
    (unpressed : after.keyDown key = true → self.keyDown key = true) :
    keyEvent self operation answer after key = none := by
  unfold keyEvent
  rw [if_neg kept, unasked, if_neg (by nofun), if_neg]
  rw [Bool.and_eq_true, Bool.not_eq_true']
  rintro ⟨up, down⟩
  exact absurd (up.symm.trans (unpressed down)) nofun

theorem StepLaw.of_same (kept : operation ≠ .reset)
    (unasked : queriedKey operation = none) (clipped : after.Clipped)
    (failed : answer.failed = true → after = self)
    (exported : ∀ snapshot, answer = .exported (some snapshot) → RoundTrips snapshot)
    (sameDown : after.keyDownBits = self.keyDownBits)
    (sameEdges : after.keyPressedEdgeBits = self.keyPressedEdgeBits) :
    StepLaw self operation answer after := by
  have unpressed : ∀ key, keyEvent self operation answer after key = none := by
    intro key
    apply keyEvent_eq_none kept unasked
    unfold keyDown
    rw [sameDown]
    exact id
  constructor
  · exact clipped
  · exact failed
  · exact exported
  · intro key
    rw [unpressed, sameEdges]
    rfl
  · intro key found event
    rw [unpressed] at event
    cases event

theorem StepLaw.refused (kept : operation ≠ .reset)
    (unasked : queriedKey operation = none) (clipped : self.Clipped) :
    StepLaw self operation (.accepted false) self :=
  .of_same kept unasked clipped (fun _ => rfl) (by nofun) rfl rfl

theorem applyControl_law (clipped : self.Clipped) (sequence : UInt64)
    (message : ControlStateMessage) :
    ∃ applied after,
      self.applyControl sequence message = some (applied, after) ∧
        StepLaw self (.applyControl sequence message) (.accepted applied) after := by
  unfold applyControl
  split
  · exact ⟨_, _, rfl, .refused (by nofun) rfl clipped⟩
  split
  · exact ⟨_, _, rfl, .refused (by nofun) rfl clipped⟩
  next ordered =>
    rw [not_and, not_or, Int32.le_iff_toInt_le, Int32.le_iff_toInt_le,
      Int.not_le, Int.not_le] at ordered
    obtain ⟨cursorX, cursorY, clamped, inside⟩ := clampCursor_eq
      { self with
        cursorX := message.cursorX, cursorY := message.cursorY, clipEnabled := message.clipEnabled
        virtualForeground := message.virtualForeground, virtualCapture := message.virtualCapture
        clipLeft := message.clipLeft, clipTop := message.clipTop, clipRight := message.clipRight
        clipBottom := message.clipBottom }
      ordered
    rw [clamped]
    refine ⟨_, _, rfl, ?_⟩
    exact .of_same (by nofun) rfl ⟨inside.cursorX, inside.cursorY⟩ (by nofun) (by nofun) rfl rfl

theorem setVirtualCursor_law (clipped : self.Clipped) (x y : Int32) :
    ∃ after,
      self.setVirtualCursor x y = some after ∧
        StepLaw self (.setVirtualCursor x y) .done after := by
  obtain ⟨cursorX, cursorY, clamped, inside⟩ :=
    clampCursor_eq { self with cursorX := x, cursorY := y } clipped.ordered
  refine ⟨_, clamped, ?_⟩
  exact .of_same (by nofun) rfl inside (by nofun) (by nofun) rfl rfl

theorem setVirtualClip_law (clipped : self.Clipped) (enabled : Bool)
    (left top right bottom : Int32) :
    ∃ applied after,
      self.setVirtualClip enabled left top right bottom = some (applied, after) ∧
        StepLaw self (.setVirtualClip enabled left top right bottom) (.accepted applied) after := by
  unfold setVirtualClip
  split
  · exact ⟨_, _, rfl, .refused (by nofun) rfl clipped⟩
  next ordered =>
    rw [not_and, not_or, Int32.le_iff_toInt_le, Int32.le_iff_toInt_le,
      Int.not_le, Int.not_le] at ordered
    obtain ⟨cursorX, cursorY, clamped, inside⟩ := clampCursor_eq
      { self with
        clipEnabled := enabled, clipLeft := if enabled then left else 0
        clipTop := if enabled then top else 0, clipRight := if enabled then right else 0
        clipBottom := if enabled then bottom else 0 }
      (by
        rintro rfl
        exact ordered rfl)
    rw [clamped]
    refine ⟨_, _, rfl, ?_⟩
    exact .of_same (by nofun) rfl inside (by nofun) (by nofun) rfl rfl

theorem keyEvent_pressed (kept : operation ≠ .reset)
    (unasked : queriedKey operation = none) (answer : Answer) {down : Bool}
    (inside : vkey.toNat < 256)
    (pressed : after.keyDownBits = setBit self.keyDownBits vkey down)
    (key : UInt32) :
    keyEvent self operation answer after key =
      if key = vkey ∧ down = true ∧ self.keyDown vkey = false then some .set
      else none := by
  have downAfter : after.keyDown key = if key = vkey then down else self.keyDown key := by
    unfold keyDown
    rw [pressed, bit_setBit _ _ _ _ inside]
  unfold keyEvent
  rw [if_neg kept, unasked, if_neg (by nofun), downAfter]
  by_cases same : key = vkey
  · rw [if_pos same, same]
    cases down <;> cases self.keyDown vkey <;> simp
  · rw [if_neg same]
    cases self.keyDown key <;> simp [same]

/-- An accepted key event sets the edge exactly when the key was up and
goes down. -/
theorem StepLaw.of_key {sequence : UInt64} {message : InputEventMessage} {down : Bool}
    (inside : message.vkey.toNat < 256)
    (clipped : after.Clipped)
    (pressed : after.keyDownBits = setBit self.keyDownBits message.vkey down)
    (edges :
      after.keyPressedEdgeBits =
        if down = true ∧ self.keyDown message.vkey = false then
          setBit self.keyPressedEdgeBits message.vkey true
        else self.keyPressedEdgeBits) :
    StepLaw self (.applyInput sequence message) (.accepted true) after := by
  have kept : Operation.applyInput sequence message ≠ .reset := by
    nofun
  have event := keyEvent_pressed kept rfl (.accepted true) inside pressed
  constructor
  · exact clipped
  · nofun
  · nofun
  · intro key
    rw [event, edges]
    by_cases wentDown : down = true ∧ self.keyDown message.vkey = false
    · rw [if_pos wentDown, bit_setBit _ _ _ _ inside]
      by_cases same : key = message.vkey
      · rw [if_pos same, if_pos ⟨same, wentDown⟩]
        rfl
      · rw [if_neg same, if_neg fun met => same met.1]
        rfl
    · rw [if_neg wentDown, if_neg fun met => wentDown met.2]
      rfl
  · intro key found read
    rw [event] at read
    split at read
    · cases read
    · cases read

theorem applyInput_law (clipped : self.Clipped) (sequence : UInt64) (message : InputEventMessage) :
    ∃ applied after,
      self.applyInput sequence message = some (applied, after) ∧
        StepLaw self (.applyInput sequence message) (.accepted applied) after := by
  unfold applyInput
  split
  · exact ⟨_, _, rfl, .refused (by nofun) rfl clipped⟩
  cases message.kind with
  | keyboard =>
    dsimp only
    split
    · exact ⟨_, _, rfl, .refused (by nofun) rfl clipped⟩
    next inside =>
      rw [Nat.not_le] at inside
      cases message.keyTransition with
      | none => exact ⟨_, _, rfl, .refused (by nofun) rfl clipped⟩
      | down =>
        refine ⟨_, _, rfl, .of_key inside ⟨clipped.cursorX, clipped.cursorY⟩ rfl ?_⟩
        unfold keyDown
        simp only [true_and, Bool.not_eq_true']
      | up =>
        exact ⟨_, _, rfl, .of_key inside ⟨clipped.cursorX, clipped.cursorY⟩ rfl
          (if_neg (by nofun)).symm⟩
  | mouse =>
    obtain ⟨cursorX, movedX, _⟩ := saturatingAdd32_eq self.cursorX message.deltaX
    obtain ⟨cursorY, movedY, _⟩ := saturatingAdd32_eq self.cursorY message.deltaY
    obtain ⟨wheelAccumulator, turned, _⟩ := saturatingAdd64_eq self.wheelAccumulator
      message.wheelDelta.toInt64
    obtain ⟨clampedX, clampedY, clamped, inside⟩ := clampCursor_eq
      { self with
        cursorX, cursorY, wheelAccumulator
        mouseButtonsDown := applyMouseButtons message.mouseButtonFlags self.mouseButtonsDown }
      clipped.ordered
    simp only [movedX, movedY, turned, Option.bind_eq_bind, Option.bind_some, clamped]
    refine ⟨_, _, rfl, ?_⟩
    exact .of_same (by nofun) rfl ⟨inside.cursorX, inside.cursorY⟩ (by nofun) (by nofun) rfl rfl

/-- The answer gives the edge out, and only the edge of the key is
cleared. -/
theorem consumeAsyncKeyState_eq (self : VirtualInputState) (vkey : UInt32) :
    edgeBit (self.consumeAsyncKeyState vkey).1 = bit self.keyPressedEdgeBits vkey ∧
      ∃ edges,
        (self.consumeAsyncKeyState vkey).2 = { self with keyPressedEdgeBits := edges } ∧
          ∀ key,
            bit edges key = if key = vkey then false
              else bit self.keyPressedEdgeBits key := by
  unfold consumeAsyncKeyState
  split
  next outside =>
    rw [bit_outside _ outside]
    refine ⟨?_, self.keyPressedEdgeBits, rfl, fun key => ?_⟩
    · dsimp only
      decide
    split
    next same => rw [same, bit_outside _ outside]
    next => rfl
  next inside =>
    rw [Nat.not_le] at inside
    dsimp only
    split
    next edge =>
      refine ⟨?_, _, rfl, fun key => bit_setBit _ _ key false inside⟩
      rw [edge]
      dsimp only
      cases bit self.keyDownBits vkey <;> decide
    next noEdge =>
      rw [Bool.not_eq_true] at noEdge
      refine ⟨?_, self.keyPressedEdgeBits, rfl, ?_⟩
      · rw [noEdge]
        dsimp only
        cases bit self.keyDownBits vkey <;> decide
      · intro key
        split
        next same => rw [same, noEdge]
        next => rfl

theorem StepLaw.of_query (kept : operation ≠ .reset) (asked : queriedKey operation = some vkey)
    (clipped : self.Clipped) (succeeded : answer.failed = false)
    (exported : ∀ snapshot, answer = .exported (some snapshot) → RoundTrips snapshot)
    (edge : answer.edge = edgeBit (self.consumeAsyncKeyState vkey).1) :
    StepLaw self operation answer (self.consumeAsyncKeyState vkey).2 := by
  obtain ⟨given, edges, after, cleared⟩ := consumeAsyncKeyState_eq self vkey
  rw [given] at edge
  rw [after]
  have event :
      ∀ key,
        keyEvent self operation answer { self with keyPressedEdgeBits := edges } key =
          if key = vkey then some (.read answer.edge) else none := by
    intro key
    unfold keyEvent
    rw [if_neg kept, asked]
    by_cases same : key = vkey
    · rw [if_pos (congrArg some same.symm), if_pos same]
    have unasked : some vkey ≠ some key := by
      rintro ⟨⟩
      exact same rfl
    rw [if_neg unasked, if_neg same, if_neg]
    unfold keyDown
    rw [Bool.and_eq_true, Bool.not_eq_true']
    rintro ⟨up, down⟩
    exact absurd (up.symm.trans down) nofun
  constructor
  · exact ⟨clipped.cursorX, clipped.cursorY⟩
  · intro failed
    exact absurd (succeeded.symm.trans failed) nofun
  · exact exported
  · intro key
    rw [event, cleared]
    split
    · rfl
    · rfl
  · intro key found read
    rw [event] at read
    split at read
    next same =>
      cases read
      rw [edge, same]
    next => cases read

theorem getSnapshot_law (clipped : self.Clipped) (probeVkey : UInt16) :
    StepLaw self (.getSnapshot probeVkey) (.exported (self.getSnapshot probeVkey).1)
      (self.getSnapshot probeVkey).2 := by
  unfold getSnapshot
  split
  next outOfRange =>
    have unasked : queriedKey (.getSnapshot probeVkey) = none := by
      unfold probeVkeyOutOfRange at outOfRange
      rw [Bool.and_eq_true, decide_eq_true_iff, ge_iff_le, UInt16.le_iff_toNat_le] at outOfRange
      exact if_neg (Nat.not_lt.mpr outOfRange.2)
    exact .of_same (by nofun) unasked clipped (fun _ => rfl) (by nofun) rfl rfl
  next notOutOfRange =>
    rw [Bool.not_eq_true] at notOutOfRange
    split
    next inRange =>
      have asked : queriedKey (.getSnapshot probeVkey) = some probeVkey.toUInt32 := if_pos inRange
      refine .of_query (by nofun) asked clipped rfl ?_ rfl
      rintro _ ⟨⟩
      exact clipped.roundTrips notOutOfRange
    next unprobed =>
      have unasked : queriedKey (.getSnapshot probeVkey) = none := if_neg unprobed
      refine .of_same (by nofun) unasked clipped (fun _ => rfl) ?_ rfl rfl
      rintro _ ⟨⟩
      exact clipped.roundTrips notOutOfRange

theorem initial_clipped : ({} : VirtualInputState).Clipped := ⟨nofun, nofun⟩

theorem reset_law (self : VirtualInputState) : StepLaw self .reset .done {} := by
  constructor
  · exact initial_clipped
  · nofun
  · nofun
  · intro key
    exact bit_zero key
  · nofun

theorem step_law (clipped : self.Clipped) (operation : Operation) :
    ∃ answer after, self.step operation = some (answer, after) ∧
      StepLaw self operation answer after := by
  cases operation with
  | applyInput sequence message =>
    obtain ⟨applied, after, answered, law⟩ := applyInput_law clipped sequence message
    refine ⟨_, _, ?_, law⟩
    rw [step, answered]
    rfl
  | applyControl sequence message =>
    obtain ⟨applied, after, answered, law⟩ := applyControl_law clipped sequence message
    refine ⟨_, _, ?_, law⟩
    rw [step, answered]
    rfl
  | setVirtualCursor x y =>
    obtain ⟨after, answered, law⟩ := setVirtualCursor_law clipped x y
    refine ⟨_, _, ?_, law⟩
    rw [step, answered]
    rfl
  | setVirtualClip enabled left top right bottom =>
    obtain ⟨applied, after, answered, law⟩ :=
      setVirtualClip_law clipped enabled left top right bottom
    refine ⟨_, _, ?_, law⟩
    rw [step, answered]
    rfl
  | consumeAsyncKeyState vkey =>
    refine ⟨_, _, rfl, ?_⟩
    exact .of_query (by nofun) rfl clipped rfl (by nofun) rfl
  | getSnapshot probeVkey => exact ⟨_, _, rfl, getSnapshot_law clipped probeVkey⟩
  | reset => exact ⟨_, _, rfl, self.reset_law⟩

end Steps

variable {ledger : InputLedger} {state : VirtualInputState}

theorem Sound.step (sound : Sound ledger state) (operation : Operation) :
    ∃ after, Sound (ledgerStep ledger operation) after := by
  obtain ⟨answer, after, answered, law⟩ := step_law sound.clipped operation
  refine ⟨after, ?_⟩
  unfold ledgerStep
  rw [sound.defined]
  dsimp only
  rw [answered]
  have faithful :
      ∀ key, Faithful (record (keyEvent state operation answer after key) (ledger.events key)) := by
    intro key
    apply (sound.answered key).record
    intro found read
    rw [law.found key found read, sound.edge]
  constructor
  · rfl
  · exact law.clipped
  · exact law.clipped.roundTrips rfl
  · intro key
    rw [law.edge, sound.edge, latched_record]
  · exact faithful
  · intro key
    have counted := (faithful key).count_le
    dsimp only
    omega

theorem initial_sound : Sound {} {} where
  defined := rfl
  clipped := initial_clipped
  exported := initial_clipped.roundTrips rfl
  edge := bit_zero
  answered := fun _ => trivial
  once := fun _ => Nat.le_refl 0

theorem Sound.obedient (sound : Sound ledger state) (operation : Operation) :
    Obedient ledger operation := by
  intro before answer after defined answered
  rw [sound.defined, Option.some_inj] at defined
  subst defined
  obtain ⟨_, _, given, law⟩ := step_law sound.clipped operation
  rw [answered, Option.some_inj, Prod.mk.injEq] at given
  obtain ⟨rfl, rfl⟩ := given
  exact ⟨law.failed, law.exported⟩

/-- Whatever the operations, each has a result, and between any two of them
the state is sound. -/
theorem every_run_sound (operations : List Operation) :
    Throughout ledgerStep (fun ledger => ∃ state, Sound ledger state) {} operations ∧
      Along ledgerStep Obedient {} operations := by
  have start : ∃ state, Sound {} state := ⟨{}, initial_sound⟩
  have preserved :
      ∀ ledger operation, (∃ state, Sound ledger state) →
        ∃ state, Sound (ledgerStep ledger operation) state := by
    rintro ledger operation ⟨state, sound⟩
    exact sound.step operation
  refine ⟨throughout_of_preserved preserved operations start, ?_⟩
  refine along_of_preserved ?_ preserved operations start
  rintro ledger operation ⟨state, sound⟩
  exact sound.obedient operation

end VirtualInputState

end HydraSeat.GateC
