import HydraSeat.Foundation.Transition
import HydraSeat.GateC.RawTokens

/-!
# Handles are never given out twice

A token stands for a slot at one generation of it.  Every operation either
keeps a slot's generation and moves its state forward, or takes the next
generation, so what has been given out stays behind.
-/

namespace HydraSeat.GateC

open Foundation

namespace SyntheticRawHandleTable

open SyntheticRawHandleSlot Function

variable {generation : UInt32} {self : SyntheticRawHandleTable} {slot : SyntheticRawHandleSlot}
  {before after : SyntheticRawHandleSlot} {index : RawHandleIndex} {token : UInt64}

/-- Every slot is at a generation that a token can carry. -/
def Bounded (self : SyntheticRawHandleTable) : Prop :=
  ∀ index, self.InRange (self.slots index).generation

/-- The generation at which `allocate` gives a slot out. -/
inductive Takes (self : SyntheticRawHandleTable) (slot : SyntheticRawHandleSlot) : UInt32 → Prop
  | free (state : slot.state = .free) : Takes self slot slot.generation
  | ended (state : slot.state = .consumed ∨ slot.state = .expired)
      (room : slot.generation.toNat < self.maximumGeneration.toNat) :
      Takes self slot (slot.generation + 1)

inductive SlotStep (self : SyntheticRawHandleTable)
    (before : SyntheticRawHandleSlot) : SyntheticRawHandleSlot → Prop
  | kept : SlotStep self before before
  | retired (full : self.maximumGeneration.toNat ≤ before.generation.toNat) :
      SlotStep self before (before.releaseSlot .retired)
  | taken {generation : UInt32} (packet : VirtualRawPacket) (takes : Takes self before generation) :
      SlotStep self before { state := .allocated, generation, packet := some packet }
  | delivered (state : before.state = .allocated) :
      SlotStep self before { before with state := .delivered }
  | consumed (active : before.active = true) : SlotStep self before (before.releaseSlot .consumed)
  | expired (active : before.active = true) : SlotStep self before (before.releaseSlot .expired)
  | renewed (room : before.generation.toNat < self.maximumGeneration.toNat) :
      SlotStep self before { state := .free, generation := before.generation + 1 }

theorem maximumGeneration_le (self : SyntheticRawHandleTable) :
    self.maximumGeneration.toNat ≤ 65535 := by
  unfold maximumGeneration
  cases self.architecture with
  | x86 | x64 => decide

theorem next_generation (room : generation.toNat < self.maximumGeneration.toNat) :
    (generation + 1).toNat = generation.toNat + 1 := by
  have bounded := self.maximumGeneration_le
  rw [UInt32.toNat_add, UInt32.toNat_one]
  omega

theorem Takes.inRange (takes : Takes self slot generation)
    (bounded : self.InRange slot.generation) :
    self.InRange generation := by
  cases takes with
  | free => exact bounded
  | ended _ room =>
    unfold InRange
    rw [next_generation room]
    omega

theorem SlotStep.inRange (step : SlotStep self before after)
    (bounded : self.InRange before.generation) :
    self.InRange after.generation := by
  cases step with
  | taken _ takes => exact takes.inRange bounded
  | renewed room =>
    unfold InRange
    rw [next_generation room]
    omega
  | kept | retired | delivered | consumed | expired => exact bounded

/-- A generation of the slot that is given out or skipped for good. -/
def Spent (slot : SyntheticRawHandleSlot) (generation : UInt32) : Prop :=
  generation.toNat < slot.generation.toNat ∨ (generation = slot.generation ∧ slot.state ≠ .free)

/-- A generation of the slot whose handle has ended. -/
def Ended (slot : SyntheticRawHandleSlot) (generation : UInt32) : Prop :=
  generation.toNat < slot.generation.toNat ∨
    (generation = slot.generation ∧
      (slot.state = .consumed ∨ slot.state = .expired ∨ slot.state = .retired))

theorem SlotStep.spent (step : SlotStep self before after)
    (spent : Spent before generation) : Spent after generation := by
  cases step with
  | kept => exact spent
  | taken _ takes =>
    cases takes with
    | free state => exact Or.inl (spent.resolve_right fun same => same.2 state)
    | ended _ room =>
      apply Or.inl
      rw [next_generation room]
      rcases spent with behind | ⟨rfl, _⟩
      · omega
      · omega
  | renewed room =>
    apply Or.inl
    rw [next_generation room]
    rcases spent with behind | ⟨rfl, _⟩
    · omega
    · omega
  | retired | delivered | consumed | expired =>
    rcases spent with behind | ⟨same, _⟩
    · exact Or.inl behind
    · exact Or.inr ⟨same, nofun⟩

theorem SlotStep.ended (step : SlotStep self before after)
    (ended : Ended before generation) : Ended after generation := by
  cases step with
  | kept => exact ended
  | retired =>
    rcases ended with behind | ⟨same, _⟩
    · exact Or.inl behind
    · exact Or.inr ⟨same, Or.inr (Or.inr rfl)⟩
  | taken _ takes =>
    cases takes with
    | free state =>
      apply Or.inl
      apply ended.resolve_right
      rintro ⟨_, finished⟩
      simp [state] at finished
    | ended _ room =>
      apply Or.inl
      rw [next_generation room]
      rcases ended with behind | ⟨rfl, _⟩
      · omega
      · omega
  | delivered state =>
    apply Or.inl
    apply ended.resolve_right
    rintro ⟨_, finished⟩
    simp [state] at finished
  | consumed =>
    rcases ended with behind | ⟨same, _⟩
    · exact Or.inl behind
    · exact Or.inr ⟨same, Or.inl rfl⟩
  | expired =>
    rcases ended with behind | ⟨same, _⟩
    · exact Or.inl behind
    · exact Or.inr ⟨same, Or.inr (Or.inl rfl)⟩
  | renewed room =>
    apply Or.inl
    rw [next_generation room]
    rcases ended with behind | ⟨rfl, _⟩
    · omega
    · omega

def withSlots (self : SyntheticRawHandleTable) (slots : RawHandleIndex → SyntheticRawHandleSlot) :
    SyntheticRawHandleTable :=
  { self with slots }

/-- `allocate` passes by a slot, or retires it at its last generation. -/
def Retiring (self : SyntheticRawHandleTable) (before after : SyntheticRawHandleSlot) : Prop :=
  after = before ∨
    ((before.state = .consumed ∨ before.state = .expired) ∧
      self.maximumGeneration.toNat ≤ before.generation.toNat ∧
      after = before.releaseSlot .retired)

inductive AllocateOutcome (self : SyntheticRawHandleTable) (packet : VirtualRawPacket) :
    SyntheticRawHandleAllocation × SyntheticRawHandleTable → Prop
  | full (slots : RawHandleIndex → SyntheticRawHandleSlot)
      (retiring : ∀ other, Retiring self (self.slots other) (slots other)) :
      AllocateOutcome self packet ({ result := .handleTableFull, token := 0 }, self.withSlots slots)
  | issued (slots : RawHandleIndex → SyntheticRawHandleSlot)
      (index : RawHandleIndex) (generation : UInt32)
      (takes : Takes self (self.slots index) generation)
      (stored :
        slots index =
          { state := .allocated, generation
            packet := some
              { packet with
                syntheticToken := self.encode index generation } })
      (retiring : ∀ other, other ≠ index → Retiring self (self.slots other) (slots other)) :
      AllocateOutcome self packet
        ({ result := .success, token := self.encode index generation }, self.withSlots slots)

theorem Retiring.trans {between : SyntheticRawHandleSlot}
    (first : Retiring self before between)
    (second : Retiring self between after) :
    Retiring self before after := by
  rcases first with rfl | ⟨ended, full, rfl⟩
  · exact second
  rcases second with rfl | ⟨impossible, _⟩
  · exact Or.inr ⟨ended, full, rfl⟩
  · rcases impossible with impossible | impossible
    · cases impossible
    · cases impossible

theorem AllocateOutcome.of_retired {packet : VirtualRawPacket}
    {answered : SyntheticRawHandleAllocation × SyntheticRawHandleTable}
    (ended : (self.slots index).state = .consumed ∨ (self.slots index).state = .expired)
    (full : self.maximumGeneration.toNat ≤ (self.slots index).generation.toNat)
    (outcome :
      AllocateOutcome (self.setSlot index ((self.slots index).releaseSlot .retired))
        packet answered) :
    AllocateOutcome self packet answered := by
  have retired :
      ∀ other, Retiring self (self.slots other)
        ((self.setSlot index ((self.slots index).releaseSlot .retired)).slots other) := by
    intro other
    by_cases same : other = index
    · rw [same]
      simp only [setSlot, update_self]
      exact Or.inr ⟨ended, full, rfl⟩
    · simp only [setSlot, update_of_ne same]
      exact Or.inl rfl
  cases outcome with
  | full slots retiring => exact .full slots fun other => (retired other).trans (retiring other)
  | issued slots taken generation takes stored retiring =>
    have different : taken ≠ index := by
      rintro rfl
      simp only [setSlot, update_self] at takes
      generalize releasedIs : (self.slots taken).releaseSlot .retired = released at takes
      have state : released.state = .retired := by
        rw [← releasedIs]
        rfl
      cases takes with
      | free impossible =>
        rw [state] at impossible
        cases impossible
      | ended impossible =>
        rw [state] at impossible
        rcases impossible with impossible | impossible
        · cases impossible
        · cases impossible
    have kept :
        (self.setSlot index ((self.slots index).releaseSlot .retired)).slots taken =
          self.slots taken := by
      simp only [setSlot, update_of_ne different]
    rw [kept] at takes
    have takesSelf : Takes self (self.slots taken) generation := by
      cases takes with
      | free state => exact .free state
      | ended state room => exact .ended state room
    exact .issued slots taken generation takesSelf stored
      fun other elsewhere => (retired other).trans (retiring other elsewhere)

theorem Bounded.setSlot (bounded : self.Bounded) (inRange : self.InRange slot.generation) :
    (self.setSlot index slot).Bounded := by
  intro other
  by_cases same : other = index
  · rw [same]
    simp only [SyntheticRawHandleTable.setSlot, Function.update_self]
    exact inRange
  · simp only [SyntheticRawHandleTable.setSlot, Function.update_of_ne same]
    exact bounded other

theorem encode_ne_zero (inRange : self.InRange generation) : self.encode index generation ≠ 0 := by
  intro zero
  have decoded := decode_encode index inRange
  rw [zero] at decoded
  cases decoded

theorem le_toUInt64_iff (self : SyntheticRawHandleTable) (generation : UInt32) :
    self.maximumGeneration ≤ generation.toUInt64 ↔
      self.maximumGeneration.toNat ≤ generation.toNat := by
  rw [UInt64.le_iff_toNat_le, UInt32.toNat_toUInt64]

theorem inRange_checks (inRange : self.InRange generation) :
    ¬ (generation = 0 ∨ self.maximumGeneration < generation.toUInt64) := by
  rintro (zero | above)
  · rw [zero] at inRange
    exact absurd inRange.1 (by decide)
  · rw [UInt64.lt_iff_toNat_lt, UInt32.toNat_toUInt64] at above
    exact Nat.not_le_of_lt above inRange.2

theorem takes_renewed (notRetired : slot.state ≠ .retired) (idle : ¬ slot.active = true)
    (room :
      ¬ ((slot.state = .consumed ∨ slot.state = .expired) ∧
        self.maximumGeneration ≤ slot.generation.toUInt64)) :
    Takes self slot
      (if slot.state = .consumed ∨ slot.state = .expired then
        { slot with generation := slot.generation + 1, state := .free }
      else slot).generation := by
  split
  next ended =>
    apply Takes.ended ended
    have notFull : ¬ self.maximumGeneration ≤ slot.generation.toUInt64 :=
      fun full => room ⟨ended, full⟩
    rw [le_toUInt64_iff] at notFull
    exact Nat.lt_of_not_le notFull
  next notEnded =>
    apply Takes.free
    cases state : slot.state with
    | free => rfl
    | allocated | delivered => simp [active, state] at idle
    | consumed | expired => simp [state] at notEnded
    | retired => exact absurd state notRetired

theorem allocateFrom_outcome (packet : VirtualRawPacket) (indices : List RawHandleIndex)
    (self : SyntheticRawHandleTable) (bounded : self.Bounded) :
    AllocateOutcome self packet (self.allocateFrom packet indices) := by
  induction indices generalizing self with
  | nil => exact .full self.slots fun _ => Or.inl rfl
  | cons index indices ih =>
    unfold allocateFrom
    dsimp only
    split
    · exact ih self bounded
    next usable =>
      have idle := not_or.mp usable
      split
      next exhausted =>
        have full := (self.le_toUInt64_iff _).mp exhausted.2
        exact .of_retired exhausted.1 full (ih _ (bounded.setSlot (bounded index)))
      next room =>
        generalize renewedIs :
          (if (self.slots index).state = .consumed ∨ (self.slots index).state = .expired then
              { self.slots index with
                generation := (self.slots index).generation + 1, state := .free }
            else self.slots index) = renewed
        have takes := takes_renewed idle.1 idle.2 room
        rw [renewedIs] at takes
        have inRange := takes.inRange (bounded index)
        rw [if_neg (inRange_checks inRange), if_neg (encode_ne_zero inRange)]
        refine .issued _ index renewed.generation takes ?_ ?_
        · simp only [update_self]
        · intro other different
          simp only [update_of_ne different]
          exact Or.inl rfl

theorem allocate_outcome (bounded : self.Bounded) (packet : VirtualRawPacket) :
    AllocateOutcome self packet (self.allocate packet) :=
  allocateFrom_outcome packet _ self bounded

def Names (self : SyntheticRawHandleTable) (token : UInt64) (index : RawHandleIndex) : Prop :=
  self.decode token = .ok (index, (self.slots index).generation)

theorem resolve_eq_ok_iff (self : SyntheticRawHandleTable) (token : UInt64)
    (packet : VirtualRawPacket) :
    self.resolve token = .ok packet ↔
      ∃ index, self.Names token index ∧ (self.slots index).active = true ∧
        (self.slots index).packet = some packet := by
  unfold resolve Names
  cases decoded : self.decode token with
  | error reason => simp
  | ok named =>
    obtain ⟨index, generation⟩ := named
    simp only [Except.ok.injEq, Prod.mk.injEq]
    constructor
    · intro resolved
      obtain ⟨current, resolved⟩ := not_taken resolved nofun
      refine ⟨index, ⟨rfl, not_not.mp current⟩, ?_⟩
      cases state : (self.slots index).state with
      | allocated | delivered =>
        cases held : (self.slots index).packet with
        | none => simp [state, held] at resolved
        | some stored =>
          simp only [state, held, reduceCtorEq, or_self, if_false, Except.ok.injEq] at resolved
          simp [active, state, resolved]
      | free | consumed | expired | retired => simp [state] at resolved
    · rintro ⟨_, ⟨rfl, rfl⟩, isActive, held⟩
      rw [if_neg (not_not.mpr rfl)]
      cases state : (self.slots index).state with
      | allocated | delivered => simp [held]
      | free | consumed | expired | retired => simp [active, state] at isActive

/-- The operation on a token is refused, or it stores `stored` in the slot
that the token names. -/
inductive TokenOutcome (self : SyntheticRawHandleTable) (token : UInt64)
    (stored : SyntheticRawHandleSlot → SyntheticRawHandleSlot)
    (accepts : SyntheticRawHandleSlot → Prop) :
    VirtualRawResult × SyntheticRawHandleTable → Prop
  | refused {result : VirtualRawResult} (reason : result ≠ .success)
      (unmet : ∀ index, self.Names token index → ¬ accepts (self.slots index)) :
      TokenOutcome self token stored accepts (result, self)
  | accepted (index : RawHandleIndex) (names : self.Names token index)
      (met : accepts (self.slots index)) :
      TokenOutcome self token stored accepts
        (.success, self.setSlot index (stored (self.slots index)))

theorem Names.unique {left right : RawHandleIndex} (first : self.Names token left)
    (second : self.Names token right) : left = right := by
  have same := first.symm.trans second
  cases same
  rfl

theorem active_iff (slot : SyntheticRawHandleSlot) :
    slot.active = true ↔ slot.state = .allocated ∨ slot.state = .delivered := by
  unfold active
  rw [Bool.or_eq_true, decide_eq_true_eq, decide_eq_true_eq]

theorem decode_error_ne {reason : VirtualRawResult} (decoded : self.decode token = .error reason) :
    reason ≠ .success := by
  have unknown : reason = .unknownToken := by
    unfold decode decodeFields at decoded
    grind
  rw [unknown]
  nofun

section TokenOperations

variable (self : SyntheticRawHandleTable) (token : UInt64)
variable {stored : SyntheticRawHandleSlot → SyntheticRawHandleSlot}
  {accepts : SyntheticRawHandleSlot → Prop}

theorem tokenOutcome_of_named {body : RawHandleIndex → VirtualRawResult × SyntheticRawHandleTable}
    (named :
      ∀ index, self.Names token index → TokenOutcome self token stored accepts (body index)) :
    TokenOutcome self token stored accepts
      (match self.decode token with
      | .error decoded => (decoded, self)
      | .ok (index, generation) =>
        if generation ≠ (self.slots index).generation then (.staleToken, self)
        else body index) := by
  cases decoded : self.decode token with
  | error reason =>
    exact .refused (decode_error_ne decoded) fun index names => by simp [Names, decoded] at names
  | ok found =>
    obtain ⟨index, generation⟩ := found
    dsimp only
    split
    next stale =>
      refine .refused nofun fun other names => ?_
      unfold Names at names
      rw [decoded] at names
      cases names
      exact absurd rfl stale
    next current =>
      apply named
      unfold Names
      rw [decoded, not_not.mp current]

theorem refused_of_named {index : RawHandleIndex}
    (names : self.Names token index) {result : VirtualRawResult}
    (reason : result ≠ .success)
    (unmet : ¬ accepts (self.slots index)) :
    TokenOutcome self token stored accepts (result, self) :=
  .refused reason fun other otherNames => by
    rw [otherNames.unique names]
    exact unmet

theorem markDelivered_outcome :
    TokenOutcome self token (fun slot => { slot with state := .delivered })
      (fun slot => slot.state = .allocated ∧ slot.packet ≠ none)
      (self.markDelivered token) := by
  apply tokenOutcome_of_named self token
  intro index names
  split
  next refused =>
    refine refused_of_named self token names (by decide) ?_
    rintro ⟨state, held⟩
    exact refused.elim (absurd state) held
  next met =>
    rw [not_or, not_not] at met
    exact .accepted index names met

theorem consume_outcome :
    TokenOutcome self token (·.releaseSlot .consumed)
      (fun slot => slot.active = true ∧ slot.packet ≠ none)
      (self.consume token) := by
  apply tokenOutcome_of_named self token
  intro index names
  split
  next finished =>
    refine refused_of_named self token names (by decide) ?_
    rintro ⟨isActive, _⟩
    simp [active, finished] at isActive
  next notConsumed =>
    split
    next refused =>
      refine refused_of_named self token names (by decide) ?_
      rintro ⟨isActive, held⟩
      rcases refused with ⟨notAllocated, notDelivered⟩ | empty
      · exact ((active_iff _).mp isActive).elim notAllocated notDelivered
      · exact held empty
    next met =>
      rw [not_or, not_and_or, not_not, not_not] at met
      exact .accepted index names ⟨(active_iff _).mpr met.1, met.2⟩

theorem expire_outcome :
    TokenOutcome self token (·.releaseSlot .expired)
      (fun slot => slot.active = true) (self.expire token) := by
  apply tokenOutcome_of_named self token
  intro index names
  split
  next refused =>
    refine refused_of_named self token names (by decide) ?_
    intro isActive
    exact ((active_iff _).mp isActive).elim refused.1 refused.2
  next met =>
    rw [not_and_or, not_not, not_not] at met
    exact .accepted index names ((active_iff _).mpr met)

end TokenOperations

variable {self : SyntheticRawHandleTable} {index : RawHandleIndex} {slot : SyntheticRawHandleSlot}
  {token : UInt64} {stored : SyntheticRawHandleSlot → SyntheticRawHandleSlot}
  {accepts : SyntheticRawHandleSlot → Prop} {answered : VirtualRawResult × SyntheticRawHandleTable}
  {generation : UInt32}

/-- The table has new slots, and every slot came there by a step. -/
def Stepped (self next : SyntheticRawHandleTable) : Prop :=
  ∃ slots, next = self.withSlots slots ∧ ∀ index, SlotStep self (self.slots index) (slots index)

theorem Stepped.refl (self : SyntheticRawHandleTable) : Stepped self self :=
  ⟨self.slots, rfl, fun _ => .kept⟩

theorem stepped_setSlot (step : SlotStep self (self.slots index) slot) :
    Stepped self (self.setSlot index slot) := by
  refine ⟨Function.update self.slots index slot, rfl, fun other => ?_⟩
  by_cases same : other = index
  · rw [same, update_self]
    exact step
  · rw [update_of_ne same]
    exact .kept

theorem TokenOutcome.stepped (outcome : TokenOutcome self token stored accepts answered)
    (steps : ∀ slot, accepts slot → SlotStep self slot (stored slot)) :
    Stepped self answered.2 := by
  cases outcome with
  | refused => exact .refl self
  | accepted index _ met => exact stepped_setSlot (steps _ met)

theorem Retiring.slotStep
    (retiring : Retiring self before after) :
    SlotStep self before after := by
  rcases retiring with rfl | ⟨_, full, rfl⟩
  · exact .kept
  · exact .retired full

theorem AllocateOutcome.stepped {packet : VirtualRawPacket}
    {answered : SyntheticRawHandleAllocation × SyntheticRawHandleTable}
    (outcome : AllocateOutcome self packet answered) :
    Stepped self answered.2 := by
  cases outcome with
  | full slots retiring => exact ⟨slots, rfl, fun other => (retiring other).slotStep⟩
  | issued slots index generation takes stored retiring =>
    refine ⟨slots, rfl, fun other => ?_⟩
    by_cases same : other = index
    · rw [same, stored]
      exact .taken _ takes
    · exact (retiring other same).slotStep

theorem expireUsage_stepped (self : SyntheticRawHandleTable) (key : RawUsageKey) :
    Stepped self (self.expireUsage key) := by
  refine ⟨_, rfl, fun index => ?_⟩
  dsimp only
  split
  next expired =>
    rw [Bool.and_eq_true] at expired
    exact .expired expired.1
  next => exact .kept

theorem reset_stepped (self : SyntheticRawHandleTable) : Stepped self self.reset := by
  refine ⟨_, rfl, fun index => ?_⟩
  dsimp only
  split
  · exact .kept
  next =>
    split
    next full => exact .retired ((self.le_toUInt64_iff _).mp full)
    next room =>
      rw [le_toUInt64_iff, Nat.not_le] at room
      exact .renewed room

/-- An operation changes nothing but the slots, and each of them by a
step. -/
theorem step_stepped (bounded : self.Bounded)
    (operation : Operation) : Stepped self (self.step operation) := by
  cases operation with
  | allocate packet => exact (allocate_outcome bounded packet).stepped
  | markDelivered token =>
    exact (self.markDelivered_outcome token).stepped fun _ met => .delivered met.1
  | consume token => exact (self.consume_outcome token).stepped fun _ met => .consumed met.1
  | expire token => exact (self.expire_outcome token).stepped fun _ isActive => .expired isActive
  | expireUsage key => exact self.expireUsage_stepped key
  | reset => exact self.reset_stepped

theorem Stepped.bounded {next : SyntheticRawHandleTable} (stepped : Stepped self next)
    (bounded : self.Bounded) : next.Bounded := by
  obtain ⟨slots, rfl, steps⟩ := stepped
  intro index
  exact (steps index).inRange (bounded index)

theorem step_bounded (self : SyntheticRawHandleTable) (operation : Operation)
    (bounded : self.Bounded) : (self.step operation).Bounded :=
  (step_stepped bounded operation).bounded bounded

theorem create_bounded (architecture : RawArchitecture) (contextDiscriminator : UInt16) :
    (create architecture contextDiscriminator).Bounded := by
  intro index
  cases architecture with
  | x86 =>
    change 0 < (1 : UInt32).toNat ∧ (1 : UInt32).toNat ≤ (0x7ff : UInt64).toNat
    decide
  | x64 =>
    change 0 < (1 : UInt32).toNat ∧ (1 : UInt32).toNat ≤ (0xffff : UInt64).toNat
    decide

/-- The tokens that the successful allocations of a run return, in order. -/
def issuedTokens (self : SyntheticRawHandleTable) : List Operation → List UInt64
  | [] => []
  | operation :: operations =>
    let later := issuedTokens (self.step operation) operations
    match operation with
    | .allocate packet =>
      let allocation := (self.allocate packet).1
      if allocation.result = .success then allocation.token :: later
      else later
    | _ => later

/-- A successful allocation puts the packet into a slot and returns a token
of the architecture's width that decodes to the slot and its generation. -/
def IssuesToken (self : SyntheticRawHandleTable) (operation : Operation) : Prop :=
  ∀ packet, operation = .allocate packet →
    (self.allocate packet).1.result = .success →
      (self.allocate packet).1.token.toNat < 2 ^ self.architecture.handleBits ∧
        ∃ index,
          (self.allocate packet).2.decode (self.allocate packet).1.token =
              .ok (index, ((self.allocate packet).2.slots index).generation) ∧
            ((self.allocate packet).2.slots index).state = .allocated ∧
            ((self.allocate packet).2.slots index).packet =
              some { packet with syntheticToken := (self.allocate packet).1.token }

inductive Ends (self : SyntheticRawHandleTable) (token : UInt64) : Operation → Prop
  | consumed (succeeded : (self.consume token).1 = .success) : Ends self token (.consume token)
  | expired (succeeded : (self.expire token).1 = .success) : Ends self token (.expire token)
  | usageExpired {packet : VirtualRawPacket} (resolved : self.resolve token = .ok packet) :
      Ends self token (.expireUsage packet.usage)
  | reset {packet : VirtualRawPacket} (resolved : self.resolve token = .ok packet) :
      Ends self token .reset

/-- The token neither resolves nor is delivered or consumed. -/
structure Unusable (table : SyntheticRawHandleTable) (token : UInt64) : Prop where
  resolve : ∀ packet, table.resolve token ≠ .ok packet
  markDelivered : (table.markDelivered token).1 ≠ .success
  consume : (table.consume token).1 ≠ .success

structure HandleLaw (architecture : RawArchitecture) (contextDiscriminator : UInt16)
    (operations : List Operation) : Prop where
  unique : ((create architecture contextDiscriminator).issuedTokens operations).Nodup
  issued : Along step IssuesToken (create architecture contextDiscriminator) operations
  ended :
    ∀ initial operation later token,
      operations = initial ++ operation :: later →
        Ends (runFrom step (create architecture contextDiscriminator) initial) token operation →
          Unusable (runFrom step (create architecture contextDiscriminator) operations) token

theorem Takes.not_spent (takes : Takes self slot generation) : ¬ Spent slot generation := by
  cases takes with
  | free state =>
    rintro (behind | ⟨_, used⟩)
    · omega
    · exact used state
  | ended _ room =>
    have next := next_generation room
    rintro (behind | ⟨same, _⟩)
    · omega
    · rw [same] at next
      omega

/-- What an allocation returns: a token that was not spent before and is
spent from then on. -/
theorem allocate_issues (bounded : self.Bounded) (packet : VirtualRawPacket)
    (succeeded : (self.allocate packet).1.result = .success) :
    ∃ index generation,
      self.InRange generation ∧ (self.allocate packet).1.token = self.encode index generation ∧
        ¬ Spent (self.slots index) generation ∧
        (self.allocate packet).2.slots index =
          { state := .allocated, generation
            packet := some
              { packet with
                syntheticToken := self.encode index generation } } := by
  have outcome := allocate_outcome bounded packet
  generalize self.allocate packet = answered at outcome succeeded ⊢
  cases outcome with
  | full => cases succeeded
  | issued slots index generation takes stored =>
    exact ⟨index, generation, takes.inRange (bounded index), rfl, takes.not_spent, stored⟩

theorem not_spent_of_issued (operations : List Operation) (self : SyntheticRawHandleTable)
    (bounded : self.Bounded)
    (issued : token ∈ self.issuedTokens operations) :
    ∃ index generation,
      self.InRange generation ∧ token = self.encode index generation ∧
        ¬ Spent (self.slots index) generation := by
  induction operations generalizing self with
  | nil => cases issued
  | cons operation operations ih =>
    have later :
        token ∈ (self.step operation).issuedTokens operations →
          ∃ index generation,
            self.InRange generation ∧ token = self.encode index generation ∧
              ¬ Spent (self.slots index) generation := by
      intro member
      obtain ⟨index, generation, inRange, spelled, fresh⟩ :=
        ih _ (step_bounded self operation bounded) member
      obtain ⟨slots, stepped, steps⟩ := step_stepped bounded operation
      rw [stepped] at inRange spelled fresh
      exact ⟨index, generation, inRange, spelled, fun spent => fresh ((steps index).spent spent)⟩
    cases operation with
    | allocate packet =>
      unfold issuedTokens at issued
      dsimp only at issued
      split at issued
      next succeeded =>
        rcases List.mem_cons.mp issued with head | member
        · obtain ⟨index, generation, inRange, spelled, fresh, _⟩ :=
            allocate_issues bounded packet succeeded
          exact ⟨index, generation, inRange, head.trans spelled, fresh⟩
        · exact later member
      next => exact later issued
    | markDelivered | consume | expire | expireUsage | reset => exact later issued

theorem issuedTokens_nodup (operations : List Operation) (self : SyntheticRawHandleTable)
    (bounded : self.Bounded) : (self.issuedTokens operations).Nodup := by
  induction operations generalizing self with
  | nil => exact List.nodup_nil
  | cons operation operations ih =>
    have rest := ih _ (step_bounded self operation bounded)
    cases operation with
    | allocate packet =>
      unfold issuedTokens
      dsimp only
      split
      next succeeded =>
        refine List.nodup_cons.mpr ⟨?_, rest⟩
        intro again
        obtain ⟨index, generation, inRange, spelled, _, stored⟩ :=
          allocate_issues bounded packet succeeded
        obtain ⟨other, later, otherInRange, otherSpelled, fresh⟩ :=
          not_spent_of_issued operations _ (step_bounded self (.allocate packet) bounded) again
        obtain ⟨slots, stepped, _⟩ := step_stepped bounded (.allocate packet)
        rw [stepped] at otherInRange otherSpelled
        have same : self.encode index generation = self.encode other later :=
          spelled.symm.trans otherSpelled
        obtain ⟨rfl, rfl⟩ := encode_injective inRange otherInRange same
        apply fresh
        apply Or.inr
        change generation = ((self.allocate packet).2.slots index).generation ∧
          ((self.allocate packet).2.slots index).state ≠ .free
        rw [stored]
        exact ⟨rfl, nofun⟩
      next => exact rest
    | markDelivered | consume | expire | expireUsage | reset => exact rest

theorem allocate_issuesToken (bounded : self.Bounded)
    (operation : Operation) : IssuesToken self operation := by
  intro packet same succeeded
  obtain ⟨index, generation, inRange, spelled, _, stored⟩ :=
    allocate_issues bounded packet succeeded
  obtain ⟨slots, stepped, _⟩ := step_stepped bounded (.allocate packet)
  change (self.allocate packet).2 = self.withSlots slots at stepped
  rw [stepped] at stored ⊢
  rw [spelled]
  refine ⟨?_, index, ?_, ?_, ?_⟩
  · cases architecture : self.architecture with
    | x86 => exact (encode_lt index inRange).2 architecture
    | x64 => exact (self.encode index generation).toNat_lt
  · rw [stored]
    exact decode_encode index inRange
  · rw [stored]
  · rw [stored]

theorem unusable_of_ended (decoded : self.decode token = .ok (index, generation))
    (ended : Ended (self.slots index) generation) :
    Unusable self token := by
  have idle : ∀ named, self.Names token named → (self.slots named).active = false := by
    intro named names
    have same := decoded.symm.trans names
    cases same
    rcases ended with behind | ⟨_, state⟩
    · omega
    · rcases state with state | state | state
      · simp [active, state]
      · simp [active, state]
      · simp [active, state]
  constructor
  · intro packet resolved
    obtain ⟨named, names, isActive, _⟩ := (resolve_eq_ok_iff self token packet).mp resolved
    rw [idle named names] at isActive
    cases isActive
  · have outcome := self.markDelivered_outcome token
    generalize self.markDelivered token = answered at outcome ⊢
    cases outcome with
    | refused reason => exact reason
    | accepted named names met =>
      have notActive := idle named names
      simp [active, met.1] at notActive
  · have outcome := self.consume_outcome token
    generalize self.consume token = answered at outcome ⊢
    cases outcome with
    | refused reason => exact reason
    | accepted named names met =>
      rw [idle named names] at met
      cases met.1

theorem ended_of_release (outcome : TokenOutcome self token stored accepts answered)
    (succeeded : answered.1 = .success)
    (ends : ∀ slot : SyntheticRawHandleSlot, Ended (stored slot) slot.generation) :
    ∃ index generation,
      self.decode token = .ok (index, generation) ∧ Ended (answered.2.slots index) generation := by
  cases outcome with
  | refused reason => exact absurd succeeded reason
  | accepted index names =>
    refine ⟨index, _, names, ?_⟩
    simp only [setSlot, update_self]
    exact ends _

theorem Ends.ended {operation : Operation} (ends : Ends self token operation) :
    ∃ index generation,
      self.decode token = .ok (index, generation) ∧
        Ended ((self.step operation).slots index) generation := by
  cases ends with
  | consumed succeeded =>
    exact ended_of_release (self.consume_outcome token) succeeded fun _ => Or.inr ⟨rfl, Or.inl rfl⟩
  | expired succeeded =>
    exact ended_of_release (self.expire_outcome token) succeeded
      fun _ => Or.inr ⟨rfl, Or.inr (Or.inl rfl)⟩
  | @usageExpired packet resolved =>
    obtain ⟨index, names, isActive, held⟩ := (resolve_eq_ok_iff self token packet).mp resolved
    refine ⟨index, _, names, ?_⟩
    simp only [step, expireUsage, isActive, held, Option.any_some,
      beq_self_eq_true, Bool.and_true, if_true]
    exact Or.inr ⟨rfl, Or.inr (Or.inl rfl)⟩
  | @reset packet resolved =>
    obtain ⟨index, names, isActive, held⟩ := (resolve_eq_ok_iff self token packet).mp resolved
    refine ⟨index, _, names, ?_⟩
    have notRetired : (self.slots index).state ≠ .retired := by
      intro state
      simp [active, state] at isActive
    simp only [step, SyntheticRawHandleTable.reset, if_neg notRetired]
    split
    · exact Or.inr ⟨rfl, Or.inr (Or.inr rfl)⟩
    next room =>
      rw [le_toUInt64_iff, Nat.not_le] at room
      have next := next_generation room
      apply Or.inl
      dsimp only
      omega

theorem ended_run (operations : List Operation) (self : SyntheticRawHandleTable)
    (bounded : self.Bounded)
    (decoded : self.decode token = .ok (index, generation))
    (ended : Ended (self.slots index) generation) :
    Unusable (runFrom step self operations) token := by
  induction operations generalizing self with
  | nil => exact unusable_of_ended decoded ended
  | cons operation operations ih =>
    have next := step_bounded self operation bounded
    obtain ⟨slots, stepped, steps⟩ := step_stepped bounded operation
    apply ih _ next
    · rw [stepped]
      exact decoded
    · rw [stepped]
      exact (steps index).ended ended

/-- No handle is given out twice, and no handle is used after its end. -/
theorem handleLaw (architecture : RawArchitecture) (contextDiscriminator : UInt16)
    (operations : List Operation) :
    HandleLaw architecture contextDiscriminator operations where
  unique := issuedTokens_nodup operations _ (create_bounded architecture contextDiscriminator)
  issued := by
    refine along_of_preserved ?_ step_bounded operations
      (create_bounded architecture contextDiscriminator)
    intro table operation bounded
    exact allocate_issuesToken bounded operation
  ended := by
    rintro initial operation later token rfl ends
    have bounded := runFrom_preserves step_bounded initial
      (create_bounded architecture contextDiscriminator)
    obtain ⟨index, generation, decoded, ended⟩ := ends.ended
    obtain ⟨slots, stepped, _⟩ := step_stepped bounded operation
    rw [runFrom_append, runFrom_cons]
    apply ended_run later _ (step_bounded _ operation bounded) _ ended
    rw [stepped]
    exact decoded

end SyntheticRawHandleTable

end HydraSeat.GateC
