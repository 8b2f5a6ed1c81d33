import HydraSeat.Foundation.Delivery
import HydraSeat.GateC.RawAgreement

/-!
# Raw input is delivered at most once

The ledger follows a run with what was enqueued and what the two reads put
into the caller's output.  The callers here pass only tokens that were
issued to them.
-/

namespace HydraSeat.GateC

open Foundation

namespace VirtualRawInputContext

open SyntheticRawHandleTable Bool Delivery List

/-- The bytes that `enqueueInput` serialises for an event. -/
def serializedBytes (self : VirtualRawInputContext) (sequence : UInt64)
    (input : InputEventMessage) : List UInt8 :=
  match self.registrations (usageIndex (inputUsage input)) with
  | none => []
  | some registration => (self.serializePacket sequence input registration).bytes

def blocks (size : Nat) : Nat → List UInt8 → List (List UInt8)
  | 0, _ => []
  | count + 1, output => output.take size :: blocks size count (output.drop size)

/-- Tokens with the bytes that were enqueued or returned for them. -/
structure RawLedger where
  context : VirtualRawInputContext
  (enqueued returned : List (UInt64 × List UInt8) := [])

/-- What a whole read of the queue put into the output, by token. -/
def returnedBatch (self : VirtualRawInputContext) (cbSizeHeader : UInt32)
    (output : List UInt8) : List (UInt64 × List UInt8) :=
  let (answer, copied, _) := self.readBuffer cbSizeHeader output false
  self.queue.tokens.zip
    (blocks self.architecture.rawInputBytes.toNat answer.packetCount.toNat copied)

def ledgerStep (ledger : RawLedger) (operation : Operation) : RawLedger :=
  let context := ledger.context.step operation
  match operation with
  | .enqueueInput sequence input =>
    let delivery := (ledger.context.enqueueInput sequence input).1
    if delivery.result = .success then
      { ledger with
        context
        enqueued :=
          ledger.enqueued ++ [(delivery.token, ledger.context.serializedBytes sequence input)] }
    else
      { ledger with context }
  | .readData token command cbSizeHeader output sizeQuery =>
    let (answer, copied, _) := ledger.context.readData token command cbSizeHeader output sizeQuery
    if answer.result = .success ∧ command = kRawRidInput ∧ sizeQuery = false then
      { ledger with
        context, returned := ledger.returned ++ [(token, copied.take answer.returnValue.toNat)] }
    else
      { ledger with context }
  | .readBuffer cbSizeHeader output sizeQuery =>
    let answer := (ledger.context.readBuffer cbSizeHeader output sizeQuery).1
    if answer.result = .success ∧ sizeQuery = false then
      { ledger with
        context, returned := ledger.returned ++ ledger.context.returnedBatch cbSizeHeader output }
    else
      { ledger with context }
  | _ => { ledger with context }

def OwnTokens (ledger : RawLedger) : Operation → Prop
  | .readData token _ _ _ _ => token ∈ ledger.enqueued.map Prod.fst
  | .completeDelivery token _ _ => token ∈ ledger.enqueued.map Prod.fst
  | _ => True

theorem overwrite_nil (output : List UInt8) (offset : Nat) :
    overwrite output offset [] = output := by
  unfold overwrite
  simp

section Copied

variable {output written : List UInt8} {offset size : Nat}

section

variable (room : offset + size ≤ output.length)
include room

section

variable (sized : written.length = size)
include sized

theorem overwrite_front : (output.take offset ++ written).length = offset + size := by
  rw [length_append, length_take, sized]
  omega

theorem overwrite_length : (overwrite output offset written).length = output.length := by
  unfold overwrite
  rw [length_append, overwrite_front room sized, length_drop, sized]
  omega

theorem take_overwrite :
    (overwrite output offset written).take (offset + size) = output.take offset ++ written := by
  unfold overwrite
  exact take_left' (overwrite_front room sized)

theorem drop_overwrite (later : Nat) :
    (overwrite output offset written).drop (offset + size + later) =
      output.drop (offset + size + later) := by
  unfold overwrite
  rw [← drop_drop, drop_left' (overwrite_front room sized), drop_drop, sized]

end

end

end Copied

theorem copyPackets_eq {architecture : RawArchitecture}
    (aligned : architecture.alignedSize size = size)
    (packets : List VirtualRawPacket)
    (sized : ∀ packet ∈ packets, packet.bytes.length = size)
    (output : List UInt8) (offset : Nat)
    (room : offset + packets.length * size ≤ output.length) :
    copyPackets architecture output packets offset =
      output.take offset ++
        (packets.flatMap (·.bytes) ++ output.drop (offset + packets.length * size)) := by
  induction packets generalizing output offset with
  | nil => simp [copyPackets]
  | cons packet packets ih =>
    have packetSize := sized packet mem_cons_self
    rw [length_cons, Nat.succ_mul] at room ⊢
    have roomHere : offset + size ≤ output.length := by
      omega
    unfold copyPackets
    dsimp only
    rw [packetSize, aligned, Nat.sub_self, replicate_zero, overwrite_nil,
      ih (fun later member => sized later (mem_cons_of_mem packet member)) _ _
        (by
          rw [overwrite_length roomHere packetSize]
          omega),
      take_overwrite roomHere packetSize,
      drop_overwrite roomHere packetSize, flatMap_cons,
      Nat.add_assoc, Nat.add_comm size]
    simp only [append_assoc]

theorem blocks_flatMap (packets : List VirtualRawPacket)
    (sized : ∀ packet ∈ packets, packet.bytes.length = size)
    (rest : List UInt8) :
    blocks size packets.length (packets.flatMap (·.bytes) ++ rest) = packets.map (·.bytes) := by
  induction packets with
  | nil => rfl
  | cons packet packets ih =>
    have packetSize := sized packet mem_cons_self
    have later := ih fun other member => sized other (mem_cons_of_mem packet member)
    rw [length_cons, flatMap_cons, append_assoc, map_cons, blocks, take_left' packetSize,
      drop_left' packetSize, later]

def wire (entry : UInt64 × VirtualRawPacket) : UInt64 × List UInt8 := (entry.1, entry.2.bytes)

structure LedgerInvariant (ledger : RawLedger) (pending : List (UInt64 × VirtualRawPacket)) :
    Prop where
  wellFormed : ledger.context.WellFormed
  represents : ledger.context.Represents pending
  delivery :
    AtMostOnce { pushed := ledger.enqueued, pending := pending.map wire, taken := ledger.returned }
  spent : ∀ token ∈ ledger.enqueued.map Prod.fst, ledger.context.handles.SpentToken token

theorem canonical_of_spent {table : SyntheticRawHandleTable} {token : UInt64}
    (spent : table.SpentToken token) : table.canonical token = token := by
  obtain ⟨index, generation, inRange, rfl, _⟩ := spent
  rw [← UInt64.toNat_inj, canonical_toNat]
  exact Nat.mod_eq_of_lt (encode_lt index inRange).1

section Steps

variable {ledger : RawLedger} {pending : List (UInt64 × VirtualRawPacket)}
variable {token : UInt64} {packet : VirtualRawPacket} {next : VirtualRawInputContext}

theorem wire_fst (entries : List (UInt64 × VirtualRawPacket)) :
    (entries.map wire).map Prod.fst = entries.map Prod.fst := by
  rw [map_map]
  rfl

section

variable (invariant : LedgerInvariant ledger pending)
include invariant

theorem LedgerInvariant.queued (own : token ∈ ledger.enqueued.map Prod.fst)
    (resolved : ledger.context.handles.resolve token = .ok packet) :
    (token, packet) ∈ pending := by
  have canonical := canonical_of_spent (invariant.spent token own)
  rw [resolve_eq_ok_iff_live invariant.wellFormed.bounded, canonical] at resolved
  exact (invariant.represents.live token packet).mp resolved

theorem LedgerInvariant.thinned (wellFormed : next.WellFormed)
    (keep : UInt64 × VirtualRawPacket → Bool)
    (represents : next.Represents (pending.filter keep))
    (spent :
      ∀ token, ledger.context.handles.SpentToken token →
        next.handles.SpentToken token) :
    LedgerInvariant { ledger with context := next } (pending.filter keep) where
  wellFormed := wellFormed
  represents := represents
  delivery := invariant.delivery.keepOnly (List.Sublist.map wire filter_sublist)
  spent := fun token member => spent token (invariant.spent token member)

theorem LedgerInvariant.of_thins (thins : Thins ledger.context next) :
    ∃ later, LedgerInvariant { ledger with context := next } later := by
  obtain ⟨keep, represents⟩ := thins.represents pending invariant.represents
  exact ⟨_, invariant.thinned thins.wellFormed keep represents thins.spent⟩

/-- A read that takes the packet of a token returns exactly what was
enqueued under it. -/
theorem LedgerInvariant.read (member : (token, packet) ∈ pending)
    (ends : EndsToken ledger.context next token) :
    LedgerInvariant
      { ledger with context := next, returned := ledger.returned ++ [(token, packet.bytes)] }
      (pending.filter fun entry => entry.1 != token) := by
  have queued : token ∈ ledger.context.queue.tokens := by
    rw [invariant.represents.tokens]
    exact mem_map.mpr ⟨_, member, rfl⟩
  have taken := invariant.delivery.take fun entry => entry.1 == token
  have entries :
      (pending.map wire).filter (fun entry => entry.1 == token) = [(token, packet.bytes)] := by
    apply filter_tag_eq
    · exact mem_map.mpr ⟨_, member, rfl⟩
    · rw [wire_fst]
      exact invariant.represents.distinct
  unfold Delivery.take at taken
  rw [entries, filter_map] at taken
  exact {
    wellFormed := ends.wellFormed invariant.wellFormed
    represents := ends.represents invariant.wellFormed invariant.represents queued
    delivery := taken
    spent := fun other own => ends.removes.spent other (invariant.spent other own) }

theorem LedgerInvariant.enqueue (sequence : UInt64) (input : InputEventMessage) :
    ∃ later, LedgerInvariant (ledgerStep ledger (.enqueueInput sequence input)) later := by
  have outcome := enqueueInput_outcome invariant.represents invariant.wellFormed sequence input
  have wellFormed := enqueueInput_wellFormed invariant.wellFormed sequence input
  simp only [ledgerStep, step]
  generalize ledger.context.enqueueInput sequence input = answered at outcome wellFormed ⊢
  cases outcome with
  | kept refused =>
    rw [if_neg refused]
    exact ⟨pending, invariant⟩
  | full unallocated =>
    rw [if_neg (by nofun)]
    have removes := allocate_removes_of_refused invariant.wellFormed.bounded _ unallocated
    refine ⟨_, invariant.thinned wellFormed (fun _ => true) ?_ removes.spent⟩
    apply invariant.represents.filter removes
    · intro _ _ _
      simp
    · rw [filter_true]
      exact invariant.represents.tokens
  | @queued registration delivery next registered succeeded fresh issued spent represents =>
    rw [if_pos succeeded]
    have bytes :
        ledger.context.serializedBytes sequence input =
          (ledger.context.storedPacket sequence input registration delivery.token).bytes := by
      unfold serializedBytes
      rw [registered]
      rfl
    have unissued : delivery.token ∉ ledger.enqueued.map Prod.fst :=
      fun member => fresh (invariant.spent _ member)
    have pushed := invariant.delivery.push (ledger.context.serializedBytes sequence input) unissued
    refine ⟨_, wellFormed, represents, ?_, ?_⟩
    · rw [map_append, map_singleton]
      unfold wire
      rw [← bytes]
      exact pushed
    intro token member
    rw [map_append, map_singleton, mem_append, mem_singleton] at member
    rcases member with before | rfl
    · exact spent token (invariant.spent token before)
    · exact issued

theorem LedgerInvariant.batch {cbSizeHeader : UInt32}
    (succeeded : (ledger.context.readBuffer cbSizeHeader output false).1.result = .success) :
    ledger.context.returnedBatch cbSizeHeader output = pending.map wire := by
  have outcome := readBuffer_outcome invariant.wellFormed invariant.represents
    cbSizeHeader output false
  unfold returnedBatch
  generalize ledger.context.readBuffer cbSizeHeader output false = answered at outcome succeeded ⊢
  cases outcome with
  | kept unread => exact absurd (unread succeeded) nofun
  | drained _ room =>
    have sized :
        ∀ packet ∈ pending.map Prod.snd,
          packet.bytes.length = ledger.context.architecture.rawInputBytes.toNat := by
      intro packet member
      obtain ⟨⟨token, _⟩, found, rfl⟩ := mem_map.mp member
      exact valid_length (invariant.wellFormed.valid token _
        ((invariant.represents.live token _).mpr found))
    have few := invariant.represents.length_le
    simp only [kVirtualRawMaximumHandles] at few
    have count : (UInt32.ofNat pending.length).toNat = pending.length := by
      rw [UInt32.toNat_ofNat']
      omega
    have copied := copyPackets_eq (alignedSize_rawInputBytes _)
      (pending.map Prod.snd) sized output 0
      (by rw [length_map, Nat.zero_add]; exact room)
    rw [take_zero, nil_append] at copied
    have cut := blocks_flatMap (pending.map Prod.snd) sized
      (output.drop
        (0 + (pending.map Prod.snd).length * ledger.context.architecture.rawInputBytes.toNat))
    rw [← copied, length_map, map_map] at cut
    dsimp only
    rw [count, cut, invariant.represents.tokens, zip_map']
    rfl

theorem LedgerInvariant.readBuffer (cbSizeHeader : UInt32)
    (output : List UInt8) (sizeQuery : Bool) :
    ∃ later,
      LedgerInvariant (ledgerStep ledger (.readBuffer cbSizeHeader output sizeQuery)) later := by
  have outcome := readBuffer_outcome invariant.wellFormed invariant.represents
    cbSizeHeader output sizeQuery
  have wellFormed := readBuffer_wellFormed invariant.wellFormed cbSizeHeader output sizeQuery
  have whole :
      sizeQuery = false →
        (ledger.context.readBuffer cbSizeHeader output sizeQuery).1.result = .success →
          ledger.context.returnedBatch cbSizeHeader output = pending.map wire := by
    rintro rfl succeeded
    exact invariant.batch succeeded
  simp only [ledgerStep, step]
  generalize ledger.context.readBuffer cbSizeHeader output sizeQuery =
    answered at outcome wellFormed whole ⊢
  cases outcome with
  | kept unread =>
    rw [if_neg]
    · exact ⟨pending, invariant⟩
    · rintro ⟨succeeded, notQuery⟩
      exact absurd ((unread succeeded).symm.trans notQuery) nofun
  | @drained next _ notQuery room architecture queue removes =>
    rw [if_pos ⟨rfl, notQuery⟩, whole notQuery rfl]
    have taken := invariant.delivery.take fun _ => true
    unfold Delivery.take at taken
    simp only [Bool.not_true, List.filter_false, List.filter_true] at taken
    refine ⟨[], wellFormed, ?_, taken, ?_⟩
    · exact invariant.represents.drained invariant.wellFormed queue removes
    · exact fun token member => removes.spent token (invariant.spent token member)

theorem LedgerInvariant.readData (own : token ∈ ledger.enqueued.map Prod.fst)
    (command cbSizeHeader : UInt32) (output : List UInt8)
    (sizeQuery : Bool) :
    ∃ later,
      LedgerInvariant (ledgerStep ledger (.readData token command cbSizeHeader output sizeQuery))
        later := by
  have outcome := readData_outcome invariant.wellFormed token command cbSizeHeader output sizeQuery
  simp only [ledgerStep, step]
  generalize ledger.context.readData token command cbSizeHeader output
    sizeQuery = answered at outcome ⊢
  cases outcome with
  | kept unread =>
    rw [if_neg]
    · exact ⟨pending, invariant⟩
    · rintro ⟨succeeded, whole⟩
      exact unread succeeded whole
  | @taken packet next reads ends =>
    have member := invariant.queued own reads.resolved
    have live := (invariant.represents.live token packet).mpr member
    have sized := valid_length (invariant.wellFormed.valid token packet live)
    have room : 0 + ledger.context.architecture.rawInputBytes.toNat ≤ output.length := by
      rw [Nat.zero_add]
      exact reads.room
    have copied := take_overwrite room sized
    rw [Nat.zero_add, take_zero, nil_append] at copied
    rw [if_pos ⟨rfl, reads.isInput, reads.whole⟩]
    dsimp only
    rw [copied]
    exact ⟨_, invariant.read member ends⟩

theorem LedgerInvariant.completeDelivery (token : UInt64)
    (targetCurrentlyValid postSucceeded : Bool)
    (own : token ∈ ledger.enqueued.map Prod.fst) :
    ∃ later,
      LedgerInvariant
        { ledger with
          context := (ledger.context.completeDelivery token targetCurrentlyValid postSucceeded).2 }
        later := by
  rcases completeDelivery_cases invariant.wellFormed token targetCurrentlyValid postSucceeded with
    thins | ⟨packet, resolved, _, ends⟩
  · exact invariant.of_thins thins
  have member := invariant.queued own resolved
  have queued : token ∈ ledger.context.queue.tokens := by
    rw [invariant.represents.tokens]
    exact mem_map.mpr ⟨_, member, rfl⟩
  exact ⟨_, invariant.thinned (ends.wellFormed invariant.wellFormed) _
    (ends.represents invariant.wellFormed invariant.represents queued)
    ends.removes.spent⟩

end

theorem ledgerStep_invariant (ledger : RawLedger) (operation : Operation)
    (holds : ∃ pending, LedgerInvariant ledger pending)
    (own : OwnTokens ledger operation) :
    ∃ pending, LedgerInvariant (ledgerStep ledger operation) pending := by
  obtain ⟨pending, invariant⟩ := holds
  cases operation with
  | configure seatId processId =>
    exact invariant.of_thins (.of_same invariant.wellFormed (configure_same seatId processId))
  | registerDevices requests =>
    exact invariant.of_thins (registerDevices_thins invariant.wellFormed requests)
  | enqueueInput sequence input => exact invariant.enqueue sequence input
  | completeDelivery token targetCurrentlyValid postSucceeded =>
    exact invariant.completeDelivery token targetCurrentlyValid postSucceeded own
  | readData token command cbSizeHeader output sizeQuery =>
    exact invariant.readData own command cbSizeHeader output sizeQuery
  | readBuffer cbSizeHeader output sizeQuery =>
    exact invariant.readBuffer cbSizeHeader output sizeQuery
  | beginStopping => exact invariant.of_thins (.of_same invariant.wellFormed ⟨rfl, rfl, rfl⟩)
  | reset => exact invariant.of_thins (reset_thins invariant.wellFormed)

end Steps

/-- Every returned packet was enqueued with the same bytes, and no packet
was returned twice. -/
structure Delivered (ledger : RawLedger) : Prop where
  distinct : (ledger.enqueued.map Prod.fst).Nodup
  exactBytes : ∀ entry ∈ ledger.returned, entry ∈ ledger.enqueued
  once : (ledger.returned.map Prod.fst).Nodup
  gone : ∀ entry ∈ ledger.returned, entry.1 ∉ ledger.context.queue.tokens

/-- A whole read returns the entries that are still queued, in the order in
which they were enqueued. -/
def ReadsInOrder (ledger : RawLedger) (operation : Operation) : Prop :=
  ∀ cbSizeHeader output,
    operation = .readBuffer cbSizeHeader output false →
      (ledger.context.readBuffer cbSizeHeader output false).1.result = .success →
        ledger.context.returnedBatch cbSizeHeader output =
          ledger.enqueued.filter fun entry => entry.1 ∈ ledger.context.queue.tokens

def answer (self : VirtualRawInputContext) : Operation → VirtualRawResult
  | .configure seatId processId => (self.configure seatId processId).1
  | .registerDevices requests => (self.registerDevices requests).1
  | .enqueueInput sequence input => (self.enqueueInput sequence input).1.result
  | .completeDelivery token targetCurrentlyValid postSucceeded =>
    (self.completeDelivery token targetCurrentlyValid postSucceeded).1
  | .readData token command cbSizeHeader output sizeQuery =>
    (self.readData token command cbSizeHeader output sizeQuery).1.result
  | .readBuffer cbSizeHeader output sizeQuery =>
    (self.readBuffer cbSizeHeader output sizeQuery).1.result
  | .beginStopping => .success
  | .reset => .success

def Peeks : Operation → Prop
  | .readData _ command _ _ sizeQuery => sizeQuery = true ∨ command = kRawRidHeader
  | .readBuffer _ _ sizeQuery => sizeQuery = true
  | _ => False

structure Untouched (before after : VirtualRawInputContext) : Prop where
  queue : after.queue = before.queue
  handles : after.handles = before.handles

/-- The delivery of a packet whose registration or target is gone. -/
inductive DropsPacket (self : VirtualRawInputContext) (token : UInt64) : Operation → Prop
  | intro {packet : VirtualRawPacket} {targetCurrentlyValid postSucceeded : Bool}
      (resolved : self.handles.resolve token = .ok packet)
      (failed :
        self.registrationCurrent packet = false ∨
          targetCurrentlyValid = false ∨ postSucceeded = false) :
      DropsPacket self token (.completeDelivery token targetCurrentlyValid postSucceeded)

/-- What refused calls and questions about sizes and headers leave as it
is.  A failed delivery drops its own packet, and a full handle table may
retire slots that have used up their generations. -/
structure KeepsRefused (context : VirtualRawInputContext) (operation : Operation) : Prop where
  peeked : Peeks operation → Untouched context (context.step operation)
  refused :
    context.answer operation ≠ .success →
      (∀ token, ¬ DropsPacket context token operation) →
        (∀ sequence input,
          operation = .enqueueInput sequence input → context.answer operation ≠ .handleTableFull) →
          Untouched context (context.step operation)
  dropped :
    ∀ token, DropsPacket context token operation →
      (context.step operation).queue.tokens = context.queue.tokens.erase token ∧
        ∀ other packet,
          (context.step operation).handles.Live other packet ↔
            context.handles.Live other packet ∧ other ≠ context.handles.canonical token
  full :
    ∀ sequence input,
      operation = .enqueueInput sequence input →
        context.answer operation = .handleTableFull →
          (context.step operation).queue = context.queue ∧
            ∀ index,
              Retiring context.handles (context.handles.slots index)
                ((context.step operation).handles.slots index)

theorem TakesPacket.of_drops {self : VirtualRawInputContext} {token : UInt64}
    {operation : Operation} (drops : DropsPacket self token operation) :
    TakesPacket self token operation ∧ ∃ packet, self.handles.resolve token = .ok packet := by
  cases drops with
  | @intro packet _ _ resolved failed => exact ⟨.completed resolved failed, packet, resolved⟩

section Refusals

variable {self : VirtualRawInputContext}
variable {pending : List (UInt64 × VirtualRawPacket)}

theorem readData_untouched (wellFormed : self.WellFormed) (token : UInt64)
    (command cbSizeHeader : UInt32) (output : List UInt8)
    (sizeQuery : Bool)
    (unread :
      (self.readData token command cbSizeHeader output sizeQuery).1.result ≠ .success ∨
        Peeks (.readData token command cbSizeHeader output sizeQuery)) :
    Untouched self (self.readData token command cbSizeHeader output sizeQuery).2.2 := by
  have outcome := readData_outcome wellFormed token command cbSizeHeader output sizeQuery
  generalize self.readData token command cbSizeHeader output sizeQuery =
    answered at outcome unread ⊢
  cases outcome with
  | kept => exact ⟨rfl, rfl⟩
  | taken reads =>
    rcases unread with failed | query | isHeader
    · exact absurd rfl failed
    · exact absurd (query.symm.trans reads.whole) nofun
    · rw [reads.isInput] at isHeader
      exact absurd isHeader (by decide)

theorem readBuffer_untouched (wellFormed : self.WellFormed)
    (represents : self.Represents pending) (cbSizeHeader : UInt32)
    (output : List UInt8) (sizeQuery : Bool)
    (unread :
      (self.readBuffer cbSizeHeader output sizeQuery).1.result ≠ .success ∨ sizeQuery = true) :
    Untouched self (self.readBuffer cbSizeHeader output sizeQuery).2.2 := by
  have outcome := readBuffer_outcome wellFormed represents cbSizeHeader output sizeQuery
  generalize self.readBuffer cbSizeHeader output sizeQuery = answered at outcome unread ⊢
  cases outcome with
  | kept => exact ⟨rfl, rfl⟩
  | drained whole =>
    rcases unread with failed | query
    · exact absurd rfl failed
    · exact absurd (query.symm.trans whole) nofun

theorem registerDevices_untouched (requests : List VirtualRawRegistrationRequest)
    (refused : (self.registerDevices requests).1 ≠ .success) :
    Untouched self (self.registerDevices requests).2 := by
  unfold registerDevices at refused ⊢
  split
  · exact ⟨rfl, rfl⟩
  next sized =>
    rw [if_neg sized] at refused
    split
    · exact ⟨rfl, rfl⟩
    next checked =>
      rw [checked] at refused
      dsimp only at refused
      split
      · exact ⟨rfl, rfl⟩
      next ready =>
        rw [if_neg ready] at refused
        exact absurd rfl refused

theorem completeDelivery_untouched (token : UInt64) (targetCurrentlyValid postSucceeded : Bool)
    (refused : (self.completeDelivery token targetCurrentlyValid postSucceeded).1 ≠ .success)
    (undropped :
      ¬ DropsPacket self token (.completeDelivery token targetCurrentlyValid postSucceeded)) :
    Untouched self (self.completeDelivery token targetCurrentlyValid postSucceeded).2 := by
  unfold completeDelivery at refused ⊢
  cases resolved : self.handles.resolve token with
  | error reason => exact ⟨rfl, rfl⟩
  | ok packet =>
    rw [resolved] at refused
    dsimp only at refused ⊢
    split
    next changed =>
      rw [not_eq_true'] at changed
      exact absurd (.intro resolved (Or.inl changed)) undropped
    next current =>
      rw [if_neg current] at refused
      split
      next failed =>
        rw [or_eq_true, not_eq_true', not_eq_true'] at failed
        exact absurd (.intro resolved (Or.inr failed)) undropped
      next posted =>
        rw [if_neg posted] at refused
        have outcome := self.handles.markDelivered_outcome token
        dsimp only at refused ⊢
        generalize self.handles.markDelivered token = answered at outcome refused ⊢
        cases outcome with
        | refused => exact ⟨rfl, rfl⟩
        | accepted => exact absurd rfl refused

section

variable (wellFormed : self.WellFormed)
include wellFormed

section

variable (represents : self.Represents pending)
include represents

theorem enqueueInput_refused (sequence : UInt64) (input : InputEventMessage)
    (refused : (self.enqueueInput sequence input).1.result ≠ .success) :
    Untouched self (self.enqueueInput sequence input).2 ∨
      ((self.enqueueInput sequence input).1.result = .handleTableFull ∧
        (self.enqueueInput sequence input).2.queue = self.queue ∧
        ∀ index,
          Retiring self.handles (self.handles.slots index)
            ((self.enqueueInput sequence input).2.handles.slots index)) := by
  have outcome := enqueueInput_outcome represents wellFormed sequence input
  generalize self.enqueueInput sequence input = answered at outcome refused ⊢
  cases outcome with
  | kept => exact Or.inl ⟨rfl, rfl⟩
  | full unallocated =>
    have retiring := (allocate_full wellFormed.bounded _ unallocated).2
    exact Or.inr ⟨rfl, rfl, retiring⟩
  | queued _ succeeded => exact absurd succeeded refused

theorem step_untouched (operation : Operation) (refused : self.answer operation ≠ .success)
    (undropped : ∀ token, ¬ DropsPacket self token operation)
    (allocated :
      ∀ sequence input,
        operation = .enqueueInput sequence input → self.answer operation ≠ .handleTableFull) :
    Untouched self (self.step operation) := by
  cases operation with
  | configure seatId processId =>
    have same := self.configure_same seatId processId
    exact ⟨same.queue, same.handles⟩
  | registerDevices requests => exact registerDevices_untouched requests refused
  | enqueueInput sequence input =>
    rcases enqueueInput_refused wellFormed represents sequence input refused with
      untouched | ⟨full, _⟩
    · exact untouched
    · exact absurd full (allocated sequence input rfl)
  | completeDelivery token targetCurrentlyValid postSucceeded =>
    exact completeDelivery_untouched token targetCurrentlyValid
      postSucceeded refused (undropped token)
  | readData token command cbSizeHeader output sizeQuery =>
    exact readData_untouched wellFormed token command cbSizeHeader output sizeQuery (Or.inl refused)
  | readBuffer cbSizeHeader output sizeQuery =>
    exact readBuffer_untouched wellFormed represents cbSizeHeader output sizeQuery (Or.inl refused)
  | beginStopping | reset => exact absurd rfl refused

theorem step_untouched_of_peeks (operation : Operation) (peeks : Peeks operation) :
    Untouched self (self.step operation) := by
  cases operation with
  | readData token command cbSizeHeader output sizeQuery =>
    exact readData_untouched wellFormed token command cbSizeHeader output sizeQuery (Or.inr peeks)
  | readBuffer cbSizeHeader output sizeQuery =>
    exact readBuffer_untouched wellFormed represents cbSizeHeader output sizeQuery (Or.inr peeks)
  | _ => exact absurd peeks id

theorem keepsRefused (operation : Operation) : KeepsRefused self operation where
  peeked := step_untouched_of_peeks wellFormed represents operation
  refused := step_untouched wellFormed represents operation
  dropped := by
    intro token drops
    obtain ⟨takes, packet, resolved⟩ := TakesPacket.of_drops drops
    have ends := takes.ends wellFormed resolved
    refine ⟨?_, ends.removes.live⟩
    rw [ends.queue]
    exact wellFormed.measured.erase_tokens token
  full := by
    rintro sequence input rfl full
    have refused : (self.enqueueInput sequence input).1.result ≠ .success := by
      intro succeeded
      exact absurd (succeeded.symm.trans full) nofun
    rcases enqueueInput_refused wellFormed represents sequence input refused with
      untouched | ⟨_, sameQueue, retiring⟩
    · refine ⟨untouched.queue, fun index => Or.inl ?_⟩
      exact congrFun (congrArg (·.slots) untouched.handles) index
    · exact ⟨sameQueue, retiring⟩

end

end

end Refusals

section Runs

variable {ledger : RawLedger} {pending : List (UInt64 × VirtualRawPacket)}

theorem LedgerInvariant.delivered
    (invariant : LedgerInvariant ledger pending) : Delivered ledger where
  distinct := invariant.delivery.distinct
  exactBytes := invariant.delivery.fromPushed
  once := invariant.delivery.once
  gone := by
    intro entry member
    rw [invariant.represents.tokens, ← wire_fst]
    exact invariant.delivery.gone entry member

theorem LedgerInvariant.readsInOrder
    (invariant : LedgerInvariant ledger pending) (operation : Operation) :
    ReadsInOrder ledger operation := by
  rintro cbSizeHeader output _ succeeded
  have waiting := filter_mem_of_sublist invariant.delivery.inOrder invariant.delivery.distinct
  dsimp only at waiting
  rw [wire_fst] at waiting
  rw [invariant.batch succeeded, invariant.represents.tokens]
  exact waiting.symm

theorem create_ledgerInvariant (architecture : RawArchitecture) (contextDiscriminator : UInt16) :
    LedgerInvariant { context := create architecture contextDiscriminator } [] where
  wellFormed := create_wellFormed architecture contextDiscriminator
  represents := by
    refine ⟨rfl, nodup_nil, ?_⟩
    intro token packet
    refine iff_of_false ?_ nofun
    rintro ⟨index, isActive, _⟩
    cases isActive
  delivery := atMostOnce_empty
  spent := nofun

/-- What a run delivers, and how each of its calls leaves what it does not
read. -/
theorem delivers_atMostOnce (architecture : RawArchitecture) (contextDiscriminator : UInt16)
    (operations : List Operation)
    (own :
      Along ledgerStep OwnTokens { context := create architecture contextDiscriminator }
        operations) :
    Throughout ledgerStep Delivered { context := create architecture contextDiscriminator }
        operations ∧
      Along ledgerStep
        (fun ledger operation =>
          ReadsInOrder ledger operation ∧ KeepsRefused ledger.context operation)
        { context := create architecture contextDiscriminator }
        operations := by
  have start :
      ∃ pending, LedgerInvariant { context := create architecture contextDiscriminator } pending :=
    ⟨[], create_ledgerInvariant architecture contextDiscriminator⟩
  constructor
  · refine throughout_mono ?_ (throughout_of_along ledgerStep_invariant start own)
    rintro ledger ⟨pending, invariant⟩
    exact invariant.delivered
  · refine along_of_along ?_ ledgerStep_invariant start own
    rintro ledger operation ⟨pending, invariant⟩ _
    exact ⟨invariant.readsInOrder operation,
      keepsRefused invariant.wellFormed invariant.represents operation⟩

/-- One keyboard event is read, and the message of the next one cannot be
posted. -/
def lostMessage : List Operation :=
  [.configure 1 1,
    .registerDevices
      [{ key := ⟨kRawUsagePageGenericDesktop, kRawUsageKeyboard⟩, targetWindowRuntimeValue := 1
         targetWindowCurrentProcess := true }],
    .enqueueInput 1 { keyTransition := .down, vkey := 65 },
    .readData 0x5d0100010001 kRawRidInput 24 (List.replicate 48 0) false,
    .enqueueInput 2 { keyTransition := .up, vkey := 65 },
    .completeDelivery 0x5d0100020001 true false]

theorem lostMessage_own : Along ledgerStep OwnTokens { context := create .x64 1 } lostMessage := by
  refine ⟨trivial, trivial, trivial, ?_, trivial, ?_, trivial⟩
  · unfold OwnTokens
    decide
  · unfold OwnTokens
    decide

theorem lostMessage_delivered :
    let last := runFrom ledgerStep { context := create .x64 1 } lostMessage
    last.returned.length = 1 ∧ Delivered last :=
  ⟨by decide +kernel, throughout_end (delivers_atMostOnce .x64 1 lostMessage lostMessage_own).1⟩

/-- A call that is refused may still drop the packet that it is about. -/
theorem lostMessage_dropped :
    ¬ ∀ (architecture : RawArchitecture) (contextDiscriminator : UInt16)
        (operations : List Operation),
      Along ledgerStep OwnTokens { context := create architecture contextDiscriminator }
          operations →
        Along ledgerStep
          (fun ledger operation =>
            ledger.context.answer operation ≠ .success →
              Untouched ledger.context (ledger.context.step operation))
          { context := create architecture contextDiscriminator }
          operations := by
  intro always
  have kept := (always .x64 1 lostMessage lostMessage_own).2.2.2.2.2.1
  have queue := (kept (by decide +kernel)).queue
  exact absurd queue (by decide +kernel)

end Runs

end VirtualRawInputContext

end HydraSeat.GateC
