import HydraSeat.GateC.RawHandleLaw

/-!
# The live packets of a handle table

Seen from outside, a handle table is a finite map from tokens to packets.
Each operation on the table has one law about that map.
-/

namespace HydraSeat.GateC

open Foundation

namespace SyntheticRawHandleTable

open SyntheticRawHandleSlot Function

/-- The slot holds the packet under the token of its generation. -/
structure LiveAt (table : SyntheticRawHandleTable) (index : RawHandleIndex)
    (token : UInt64) (packet : VirtualRawPacket) : Prop where
  isActive : (table.slots index).active = true
  held : (table.slots index).packet = some packet
  spelled : token = table.encode index (table.slots index).generation

def Live (self : SyntheticRawHandleTable) (token : UInt64) (packet : VirtualRawPacket) : Prop :=
  ∃ index, self.LiveAt index token packet

/-- The token without the bits that `decode` drops. -/
def canonical (self : SyntheticRawHandleTable) (token : UInt64) : UInt64 :=
  UInt64.ofNat (token.toNat % self.tokenModulus)

section Tokens

variable {self : SyntheticRawHandleTable}
variable {token : UInt64} {packet : VirtualRawPacket}

theorem canonical_toNat (token : UInt64) :
    (self.canonical token).toNat = token.toNat % self.tokenModulus := by
  have bounded : token.toNat < 18446744073709551616 := token.toNat_lt
  have smaller := Nat.mod_le token.toNat self.tokenModulus
  unfold canonical
  rw [UInt64.toNat_ofNat']
  omega

section

variable (bounded : self.Bounded)
include bounded

/-- A token names a slot exactly when its canonical form is the slot's
current token. -/
theorem names_iff (token : UInt64) (index : RawHandleIndex) :
    self.Names token index ↔
      self.canonical token = self.encode index (self.slots index).generation := by
  unfold Names
  rw [decode_eq_ok_iff, ← UInt64.toNat_inj, canonical_toNat]
  exact and_iff_right (bounded index)

theorem names_encode (index : RawHandleIndex) :
    self.Names (self.encode index (self.slots index).generation) index :=
  decode_encode index (bounded index)

theorem current_unique {left right : RawHandleIndex}
    (same :
      self.encode left (self.slots left).generation =
        self.encode right (self.slots right).generation) :
    left = right :=
  (encode_injective (bounded left) (bounded right) same).1

theorem resolve_eq_ok_iff_live (token : UInt64) (packet : VirtualRawPacket) :
    self.resolve token = .ok packet ↔ self.Live (self.canonical token) packet := by
  rw [resolve_eq_ok_iff]
  constructor
  · rintro ⟨index, names, isActive, held⟩
    exact ⟨index, isActive, held, (names_iff bounded token index).mp names⟩
  · rintro ⟨index, isActive, held, spelled⟩
    exact ⟨index, (names_iff bounded token index).mpr spelled, isActive, held⟩

theorem canonical_encode (index : RawHandleIndex) :
    self.canonical (self.encode index (self.slots index).generation) =
      self.encode index (self.slots index).generation :=
  (names_iff bounded _ index).mp (names_encode bounded index)

theorem Live.canonical (live : self.Live token packet) : self.canonical token = token := by
  obtain ⟨index, atIndex⟩ := live
  rw [atIndex.spelled]
  exact canonical_encode bounded index

theorem Live.resolve (live : self.Live token packet) : self.resolve token = .ok packet := by
  rw [resolve_eq_ok_iff_live bounded, live.canonical bounded]
  exact live

end

end Tokens

theorem resolve_error_ne {self : SyntheticRawHandleTable} {token : UInt64}
    {reason : VirtualRawResult}
    (resolved : self.resolve token = .error reason) :
    reason ≠ .success := by
  unfold resolve at resolved
  cases decoded : self.decode token with
  | error undecoded =>
    rw [decoded] at resolved
    cases resolved
    exact decode_error_ne decoded
  | ok named =>
    rw [decoded] at resolved
    grind

section Slots

variable {self : SyntheticRawHandleTable}
variable {index : RawHandleIndex} {next : SyntheticRawHandleTable}

theorem live_release (bounded : self.Bounded) {terminal : SyntheticRawHandleState}
    (finished : terminal ≠ .allocated ∧ terminal ≠ .delivered)
    (token : UInt64) (packet : VirtualRawPacket) :
    (self.setSlot index ((self.slots index).releaseSlot terminal)).Live token packet ↔
      self.Live token packet ∧ token ≠ self.encode index (self.slots index).generation := by
  constructor
  · rintro ⟨other, isActive, held, spelled⟩
    have different : other ≠ index := by
      rintro rfl
      simp only [setSlot, update_self] at isActive
      exact ((active_iff _).mp isActive).elim finished.1 finished.2
    simp only [setSlot, update_of_ne different] at isActive held
    have spelledBefore : token = self.encode other (self.slots other).generation := by
      simp only [setSlot, update_of_ne different] at spelled
      exact spelled
    refine ⟨⟨other, isActive, held, spelledBefore⟩, ?_⟩
    intro same
    exact different (current_unique bounded (spelledBefore.symm.trans same))
  · rintro ⟨⟨other, isActive, held, spelled⟩, elsewhere⟩
    have different : other ≠ index := by
      rintro rfl
      exact elsewhere spelled
    refine ⟨other, ?_, ?_, ?_⟩
    · simp only [setSlot, update_of_ne different]
      exact isActive
    · simp only [setSlot, update_of_ne different]
      exact held
    · simp only [setSlot, update_of_ne different]
      exact spelled

/-- What is live stays so where a slot keeps its generation and packet and
is as active as before. -/
theorem liveAt_congr (activity : (next.slots index).active = (self.slots index).active)
    (packets : (next.slots index).packet = (self.slots index).packet)
    (generations :
      next.encode index (next.slots index).generation =
        self.encode index (self.slots index).generation)
    (token : UInt64) (packet : VirtualRawPacket) :
    next.LiveAt index token packet ↔ self.LiveAt index token packet := by
  constructor
  · rintro ⟨isActive, held, spelled⟩
    exact ⟨activity ▸ isActive, packets ▸ held, generations ▸ spelled⟩
  · rintro ⟨isActive, held, spelled⟩
    exact ⟨activity.trans isActive, packets.trans held, spelled.trans generations.symm⟩

theorem not_liveAt (idle : (next.slots index).active = false) (token : UInt64)
    (packet : VirtualRawPacket) : ¬ next.LiveAt index token packet := by
  rintro ⟨isActive, _, _⟩
  rw [idle] at isActive
  cases isActive

theorem Retiring.liveAt {slots : RawHandleIndex → SyntheticRawHandleSlot}
    (retiring : Retiring self (self.slots index) (slots index))
    (token : UInt64) (packet : VirtualRawPacket) :
    (self.withSlots slots).LiveAt index token packet ↔ self.LiveAt index token packet := by
  rcases retiring with same | ⟨ended, _, retired⟩
  · apply liveAt_congr
    · exact congrArg active same
    · exact congrArg (·.packet) same
    · exact congrArg (fun slot : SyntheticRawHandleSlot => self.encode index slot.generation) same
  have idleBefore : (self.slots index).active = false := by
    rcases ended with state | state
    · simp [active, state]
    · simp [active, state]
  have idleAfter : ((self.withSlots slots).slots index).active = false := by
    change (slots index).active = false
    rw [retired]
    rfl
  exact iff_of_false (not_liveAt idleAfter token packet) (not_liveAt idleBefore token packet)

end Slots

variable {table next : SyntheticRawHandleTable}

/-- Every active slot holds a packet. -/
def Stocked (self : SyntheticRawHandleTable) : Prop :=
  ∀ index, (self.slots index).active = true → ∃ packet, (self.slots index).packet = some packet

theorem Stepped.stocked {self : SyntheticRawHandleTable} (stepped : Stepped self next)
    (stocked : self.Stocked) : next.Stocked := by
  obtain ⟨slots, rfl, steps⟩ := stepped
  intro index isActive
  change (slots index).active = true at isActive
  change ∃ packet, (slots index).packet = some packet
  generalize slotIs : slots index = slot at isActive
  have step := steps index
  rw [slotIs] at step
  cases step with
  | kept => exact stocked index isActive
  | taken packet => exact ⟨packet, rfl⟩
  | delivered state => exact stocked index ((active_iff _).mpr (Or.inl state))
  | retired | consumed | expired | renewed => cases isActive

/-- The token has been given out, or never will be. -/
def SpentToken (self : SyntheticRawHandleTable) (token : UInt64) : Prop :=
  ∃ index generation,
    self.InRange generation ∧ token = self.encode index generation ∧
      Spent (self.slots index) generation

theorem Stepped.spentToken (stepped : Stepped table next)
    {token : UInt64} (spent : table.SpentToken token) :
    next.SpentToken token := by
  obtain ⟨slots, rfl, steps⟩ := stepped
  obtain ⟨index, generation, inRange, spelled, spentAt⟩ := spent
  exact ⟨index, generation, inRange, spelled, (steps index).spent spentAt⟩

/-- The live packets that are gone, and nothing else, are missing from the
next table. -/
structure Removes (table next : SyntheticRawHandleTable)
    (gone : UInt64 → VirtualRawPacket → Prop) : Prop where
  context : ∃ slots, next = table.withSlots slots
  bounded : next.Bounded
  stocked : table.Stocked → next.Stocked
  spent : ∀ token, table.SpentToken token → next.SpentToken token
  live :
    ∀ token packet,
      next.Live token packet ↔ table.Live token packet ∧ ¬ gone token packet

theorem Stepped.removes (stepped : Stepped table next) (bounded : table.Bounded)
    {gone : UInt64 → VirtualRawPacket → Prop}
    (live :
      ∀ token packet,
        next.Live token packet ↔ table.Live token packet ∧ ¬ gone token packet) :
    Removes table next gone where
  context := by
    obtain ⟨slots, same, _⟩ := stepped
    exact ⟨slots, same⟩
  bounded := stepped.bounded bounded
  stocked := stepped.stocked
  spent := fun _ spent => stepped.spentToken spent
  live := live

theorem Removes.refl (bounded : table.Bounded) :
    Removes table table fun _ _ => False :=
  (Stepped.refl table).removes bounded fun _ _ => (and_iff_left not_false).symm

theorem Removes.congr {gone others : UInt64 → VirtualRawPacket → Prop}
    (removes : Removes table next gone)
    (same : ∀ token packet, gone token packet ↔ others token packet) :
    Removes table next others where
  context := removes.context
  bounded := removes.bounded
  stocked := removes.stocked
  spent := removes.spent
  live := by
    intro token packet
    rw [removes.live, same]

theorem Removes.trans {between : SyntheticRawHandleTable}
    {first second : UInt64 → VirtualRawPacket → Prop}
    (earlier : Removes table between first)
    (later : Removes between next second) :
    Removes table next fun token packet => first token packet ∨ second token packet where
  context := by
    obtain ⟨slots, rfl⟩ := later.context
    obtain ⟨_, rfl⟩ := earlier.context
    exact ⟨slots, rfl⟩
  bounded := later.bounded
  stocked := fun stocked => later.stocked (earlier.stocked stocked)
  spent := fun token spent => later.spent token (earlier.spent token spent)
  live := by
    intro token packet
    rw [later.live, earlier.live, and_assoc, not_or]

section Operations

variable {self : SyntheticRawHandleTable}
variable {token : UInt64}

/-- A successful allocation adds its packet under a token that was free. -/
theorem allocate_live (bounded : self.Bounded) (packet : VirtualRawPacket)
    (succeeded : (self.allocate packet).1.result = .success) :
    (∀ stored, ¬ self.Live (self.allocate packet).1.token stored) ∧
      ∀ token stored,
        (self.allocate packet).2.Live token stored ↔
          self.Live token stored ∨
            (token = (self.allocate packet).1.token ∧
              stored = { packet with syntheticToken := (self.allocate packet).1.token }) := by
  have outcome := allocate_outcome bounded packet
  generalize self.allocate packet = answered at outcome succeeded ⊢
  cases outcome with
  | full => cases succeeded
  | issued slots index generation takes stored retiring =>
    have inRange := takes.inRange (bounded index)
    have idle : (self.slots index).active = false := by
      cases takes with
      | free state => simp [active, state]
      | ended state =>
        rcases state with state | state
        · simp [active, state]
        · simp [active, state]
    dsimp only
    constructor
    · rintro stored ⟨other, atOther⟩
      have same := (encode_injective inRange (bounded other) atOther.spelled).1
      rw [← same] at atOther
      exact not_liveAt idle _ _ atOther
    intro token found
    constructor
    · rintro ⟨other, atOther⟩
      by_cases same : other = index
      · subst same
        obtain ⟨_, held, spelled⟩ := atOther
        change (slots other).packet = some found at held
        change token = self.encode other (slots other).generation at spelled
        rw [stored] at held spelled
        exact Or.inr ⟨spelled, (Option.some.inj held).symm⟩
      · exact Or.inl ⟨other, ((retiring other same).liveAt _ _).mp atOther⟩
    · rintro (⟨other, atOther⟩ | ⟨rfl, rfl⟩)
      · have same : other ≠ index := by
          rintro rfl
          exact not_liveAt idle _ _ atOther
        exact ⟨other, ((retiring other same).liveAt _ _).mpr atOther⟩
      refine ⟨index, ?_, ?_, ?_⟩
      · change (slots index).active = true
        rw [stored]
        rfl
      · change (slots index).packet = some _
        rw [stored]
      · change _ = self.encode index (slots index).generation
        rw [stored]

theorem allocate_spends (bounded : self.Bounded) (packet : VirtualRawPacket)
    (succeeded : (self.allocate packet).1.result = .success) :
    ¬ self.SpentToken (self.allocate packet).1.token ∧
      (self.allocate packet).2.SpentToken (self.allocate packet).1.token := by
  obtain ⟨index, generation, inRange, spelled, fresh, stored⟩ :=
    allocate_issues bounded packet succeeded
  obtain ⟨slots, stepped, _⟩ := step_stepped bounded (.allocate packet)
  change (self.allocate packet).2 = self.withSlots slots at stepped
  constructor
  · rintro ⟨other, otherGeneration, otherInRange, otherSpelled, spent⟩
    obtain ⟨rfl, rfl⟩ := encode_injective inRange otherInRange (spelled.symm.trans otherSpelled)
    exact fresh spent
  · rw [stepped] at stored ⊢
    refine ⟨index, generation, inRange, spelled, Or.inr ?_⟩
    rw [stored]
    exact ⟨rfl, nofun⟩

theorem allocate_full (bounded : self.Bounded) (packet : VirtualRawPacket)
    (refused : (self.allocate packet).1.result ≠ .success) :
    (self.allocate packet).1.result = .handleTableFull ∧
      ∀ index, Retiring self (self.slots index) ((self.allocate packet).2.slots index) := by
  have outcome := allocate_outcome bounded packet
  generalize self.allocate packet = answered at outcome refused ⊢
  cases outcome with
  | full slots retiring => exact ⟨rfl, retiring⟩
  | issued => exact absurd rfl refused

theorem allocate_live_of_refused (bounded : self.Bounded) (packet : VirtualRawPacket)
    (refused : (self.allocate packet).1.result ≠ .success)
    (token : UInt64) (stored : VirtualRawPacket) :
    (self.allocate packet).2.Live token stored ↔ self.Live token stored := by
  have outcome := allocate_outcome bounded packet
  generalize self.allocate packet = answered at outcome refused ⊢
  cases outcome with
  | full slots retiring => exact exists_congr fun other => (retiring other).liveAt _ _
  | issued => exact absurd rfl refused

/-- An operation that releases what it accepts, and accepts whatever is
live, leaves nothing live under its token. -/
theorem TokenOutcome.released_live {terminal : SyntheticRawHandleState}
    {accepts : SyntheticRawHandleSlot → Prop}
    {answered : VirtualRawResult × SyntheticRawHandleTable}
    (outcome : TokenOutcome self token (·.releaseSlot terminal) accepts answered)
    (bounded : self.Bounded)
    (finished : terminal ≠ .allocated ∧ terminal ≠ .delivered)
    (accepted : ∀ slot packet, slot.active = true → slot.packet = some packet → accepts slot)
    (other : UInt64) (packet : VirtualRawPacket) :
    answered.2.Live other packet ↔ self.Live other packet ∧ ¬ other = self.canonical token := by
  cases outcome with
  | refused _ unmet =>
    refine (and_iff_left_of_imp ?_).symm
    rintro live rfl
    obtain ⟨index, names, isActive, held⟩ := (resolve_eq_ok_iff self token packet).mp
      ((resolve_eq_ok_iff_live bounded token packet).mpr live)
    exact unmet index names (accepted _ packet isActive held)
  | accepted index names =>
    rw [(names_iff bounded token index).mp names]
    exact live_release bounded finished other packet

theorem consume_removes (bounded : self.Bounded) (token : UInt64) :
    Removes self (self.consume token).2 fun other _ => other = self.canonical token := by
  refine (step_stepped bounded (.consume token)).removes bounded ?_
  refine (self.consume_outcome token).released_live bounded (by decide) ?_
  intro slot packet isActive held
  refine ⟨isActive, ?_⟩
  rw [held]
  nofun

theorem expire_removes (bounded : self.Bounded) (token : UInt64) :
    Removes self (self.expire token).2 fun other _ => other = self.canonical token :=
  (step_stepped bounded (.expire token)).removes bounded
    ((self.expire_outcome token).released_live bounded (by decide) fun _ _ isActive _ => isActive)

theorem consume_success {packet : VirtualRawPacket} (resolved : self.resolve token = .ok packet) :
    (self.consume token).1 = .success := by
  obtain ⟨index, names, isActive, held⟩ := (resolve_eq_ok_iff self token packet).mp resolved
  have outcome := self.consume_outcome token
  generalize self.consume token = answered at outcome ⊢
  cases outcome with
  | refused _ unmet =>
    apply absurd ⟨isActive, ?_⟩ (unmet index names)
    rw [held]
    nofun
  | accepted => rfl

theorem markDelivered_live (token other : UInt64) (packet : VirtualRawPacket) :
    (self.markDelivered token).2.Live other packet ↔ self.Live other packet := by
  have outcome := self.markDelivered_outcome token
  generalize self.markDelivered token = answered at outcome ⊢
  cases outcome with
  | refused => exact Iff.rfl
  | accepted index _ met =>
    refine exists_congr fun tested => ?_
    by_cases same : tested = index
    · subst same
      apply liveAt_congr
      · simp [setSlot, active, met.1]
      · simp only [setSlot, update_self]
      · simp only [setSlot, update_self]
        rfl
    · apply liveAt_congr
      · simp only [setSlot, update_of_ne same]
      · simp only [setSlot, update_of_ne same]
      · simp only [setSlot, update_of_ne same]
        rfl

theorem markDelivered_removes (bounded : self.Bounded) (token : UInt64) :
    Removes self (self.markDelivered token).2 fun _ _ => False := by
  refine (step_stepped bounded (.markDelivered token)).removes bounded ?_
  intro other packet
  rw [not_false_eq_true, and_true]
  exact markDelivered_live token other packet

theorem allocate_removes_of_refused (bounded : self.Bounded) (packet : VirtualRawPacket)
    (refused : (self.allocate packet).1.result ≠ .success) :
    Removes self (self.allocate packet).2 fun _ _ => False := by
  refine (step_stepped bounded (.allocate packet)).removes bounded ?_
  intro token stored
  rw [not_false_eq_true, and_true]
  exact allocate_live_of_refused bounded packet refused token stored

theorem reset_removes (bounded : self.Bounded) : Removes self self.reset fun _ _ => True := by
  refine self.reset_stepped.removes bounded ?_
  intro token packet
  rw [not_true_eq_false, and_false, iff_false]
  rintro ⟨index, atIndex⟩
  refine not_liveAt ?_ _ _ atIndex
  simp only [reset]
  split
  next retired => simp [active, retired]
  next =>
    split
    · rfl
    · rfl

theorem expireUsage_liveAt (key : RawUsageKey) (index : RawHandleIndex) (token : UInt64)
    (packet : VirtualRawPacket) :
    (self.expireUsage key).LiveAt index token packet ↔
      self.LiveAt index token packet ∧ packet.usage ≠ key := by
  by_cases expired :
      ((self.slots index).active &&
        (self.slots index).packet.any fun stored => stored.usage == key) = true
  · have idle : ((self.expireUsage key).slots index).active = false := by
      simp only [expireUsage, if_pos expired]
      rfl
    refine iff_of_false (not_liveAt idle token packet) ?_
    rintro ⟨⟨_, held, _⟩, usage⟩
    rw [Bool.and_eq_true, held, Option.any_some, beq_iff_eq] at expired
    exact usage expired.2
  · have kept : (self.expireUsage key).slots index = self.slots index := by
      simp only [expireUsage, if_neg expired]
    have same :
        (self.expireUsage key).LiveAt index token packet ↔ self.LiveAt index token packet := by
      apply liveAt_congr
      · rw [kept]
      · rw [kept]
      · rw [kept]
        rfl
    rw [same]
    refine (and_iff_left_of_imp ?_).symm
    rintro ⟨isActive, held, _⟩ usage
    apply expired
    rw [isActive, held, Option.any_some, Bool.true_and, beq_iff_eq]
    exact usage

theorem expireUsage_removes (bounded : self.Bounded) (key : RawUsageKey) :
    Removes self (self.expireUsage key) fun _ packet => packet.usage = key := by
  refine (self.expireUsage_stepped key).removes bounded ?_
  intro token packet
  unfold Live
  simp only [expireUsage_liveAt, exists_and_right, ne_eq]

theorem expireAll_removes (bounded : self.Bounded) (tokens : List UInt64) :
    Removes self (tokens.foldl (fun handles token => (handles.expire token).2) self)
      fun token _ => ∃ expired ∈ tokens, token = self.canonical expired := by
  induction tokens generalizing self with
  | nil =>
    refine (Removes.refl bounded).congr fun token _ => ?_
    simp only [List.not_mem_nil, false_and, exists_false]
  | cons expired tokens ih =>
    have first := expire_removes bounded expired
    refine (first.trans (ih first.bounded)).congr fun token _ => ?_
    obtain ⟨slots, same⟩ := first.context
    rw [same]
    simp only [List.mem_cons, exists_eq_or_imp]
    exact Iff.rfl

end Operations

theorem exists_live_iff {self : SyntheticRawHandleTable} (stocked : self.Stocked) (token : UInt64) :
    (∃ packet, self.Live token packet) ↔
      ∃ index, (self.slots index).active = true ∧
        token = self.encode index (self.slots index).generation := by
  constructor
  · rintro ⟨packet, index, isActive, _, spelled⟩
    exact ⟨index, isActive, spelled⟩
  · rintro ⟨index, isActive, spelled⟩
    obtain ⟨packet, held⟩ := stocked index isActive
    exact ⟨packet, index, isActive, held, spelled⟩

end SyntheticRawHandleTable

end HydraSeat.GateC
