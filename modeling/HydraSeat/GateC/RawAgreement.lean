import HydraSeat.GateC.RawInput
import HydraSeat.GateC.RawLive
import Mathlib.Data.List.Perm.Subperm

/-!
# Queue and handle table in agreement

A queued packet is tracked twice: the queue knows its exact token and the
handle table its slot.  The two agree as long as no call ends a handle
through a token that the queue does not know.
-/

namespace HydraSeat.GateC

open Foundation List

/-! ## The queue by itself -/

namespace VirtualRawInputQueue

variable {token : UInt64}

/-- The size records belong to the tokens, and all packets have one size. -/
structure Measured (queue : VirtualRawInputQueue) (size : Nat) : Prop where
  parallel : queue.sizes.map (·.token) = queue.tokens
  sizes : ∀ record ∈ queue.sizes, record.bytes = size
  counted : queue.payloadBytes = queue.tokens.length * size

variable {self : VirtualRawInputQueue} {size : Nat}

theorem enqueue_of_success {payloadBytes : Nat}
    (queued : (self.enqueue token payloadBytes).1 = .success) :
    (self.enqueue token payloadBytes).2 =
      { tokens := self.tokens ++ [token], sizes := self.sizes ++ [{ token, bytes := payloadBytes }]
        payloadBytes := self.payloadBytes + payloadBytes } := by
  unfold enqueue at queued ⊢
  split
  next invalid =>
    rw [if_pos invalid] at queued
    cases queued
  next valid =>
    rw [if_neg valid] at queued
    split
    next full =>
      rw [if_pos full] at queued
      cases queued
    next => rfl

section

variable (measured : self.Measured size)
include measured

theorem Measured.enqueue (queued : (self.enqueue token size).1 = .success) :
    (self.enqueue token size).2.Measured size := by
  rw [enqueue_of_success queued]
  constructor
  · rw [map_append, measured.parallel]
    rfl
  · intro record member
    rcases mem_append.mp member with old | new
    · exact measured.sizes record old
    · rw [mem_singleton.mp new]
  · dsimp only
    rw [length_append, length_singleton, measured.counted, Nat.succ_mul]

theorem Measured.erase_cases (token : UInt64) :
    (token ∉ self.tokens ∧ self.erase token = self) ∨
      (token ∈ self.tokens ∧
        self.erase token =
          { tokens := self.tokens.erase token
            sizes := self.sizes.eraseP fun record => record.token == token
            payloadBytes := self.payloadBytes - size }) := by
  unfold VirtualRawInputQueue.erase
  by_cases queued : token ∈ self.tokens
  · rw [if_pos queued]
    have recorded : token ∈ self.sizes.map (·.token) := by
      rw [measured.parallel]
      exact queued
    obtain ⟨record, member, same⟩ := mem_map.mp recorded
    cases found : self.sizes.find? fun record => record.token == token with
    | none =>
      have missing := find?_eq_none.mp found record member
      rw [same, beq_self_eq_true] at missing
      exact absurd rfl missing
    | some sizeFound =>
      have bytes := measured.sizes sizeFound (mem_of_find?_eq_some found)
      rw [← bytes]
      exact Or.inr ⟨queued, rfl⟩
  · exact Or.inl ⟨queued, if_neg queued⟩

theorem Measured.erase_tokens (token : UInt64) :
    (self.erase token).tokens = self.tokens.erase token := by
  rcases measured.erase_cases token with
    ⟨missing, same⟩ | ⟨_, erased⟩
  · rw [same, erase_of_not_mem missing]
  · rw [erased]

theorem Measured.erase (token : UInt64) : (self.erase token).Measured size := by
  rcases measured.erase_cases token with ⟨_, same⟩ | ⟨queued, erased⟩
  · rw [same]
    exact measured
  rw [erased]
  constructor
  · dsimp only
    rw [← measured.parallel, erase_eq_eraseP, eraseP_map]
    simp only [Function.comp_def, BEq.comm]
  · intro record member
    exact measured.sizes record (mem_of_mem_eraseP member)
  · dsimp only
    rw [length_erase_of_mem queued, measured.counted, Nat.sub_mul, Nat.one_mul]

theorem Measured.eraseTokens (tokens : List UInt64) :
    (self.eraseTokens tokens).Measured size ∧
      (self.eraseTokens tokens).tokens = self.tokens.diff tokens := by
  induction tokens generalizing self with
  | nil => exact ⟨measured, rfl⟩
  | cons token tokens ih =>
    have rest := ih (measured.erase token)
    refine ⟨rest.1, ?_⟩
    rw [diff_cons, ← measured.erase_tokens token]
    exact rest.2

end

end VirtualRawInputQueue

namespace VirtualRawInputContext

open SyntheticRawHandleTable

/-! ## Agreement -/

def packetBytes (self : VirtualRawInputContext) (token : UInt64) : Nat :=
  match self.handles.resolve token with
  | .ok packet => packet.bytes.length
  | .error _ => 0

/-- The queue holds exactly the tokens of the allocated and delivered
handles, and counts the bytes of their packets. -/
structure InAgreement (context : VirtualRawInputContext) : Prop where
  distinct : context.queue.tokens.Nodup
  exactly :
    ∀ token,
      token ∈ context.queue.tokens ↔
        ∃ index,
          ((context.handles.slots index).state = .allocated ∨
              (context.handles.slots index).state = .delivered) ∧
            token = context.handles.encode index (context.handles.slots index).generation
  counted : context.queue.payloadBytes = (context.queue.tokens.map context.packetBytes).sum

/-- What holds in every state, whatever the callers pass. -/
structure WellFormed (context : VirtualRawInputContext) : Prop where
  architecture : context.handles.architecture = context.architecture
  bounded : context.handles.Bounded
  stocked : context.handles.Stocked
  valid :
    ∀ token packet, context.handles.Live token packet →
      validVirtualRawPacket packet context.architecture = true
  measured : context.queue.Measured context.architecture.rawInputBytes.toNat

/-- The queue as a list of tokens with their packets. -/
structure Represents (context : VirtualRawInputContext)
    (pending : List (UInt64 × VirtualRawPacket)) : Prop where
  tokens : context.queue.tokens = pending.map Prod.fst
  distinct : (pending.map Prod.fst).Nodup
  live : ∀ token packet, context.handles.Live token packet ↔ (token, packet) ∈ pending

theorem valid_length {packet : VirtualRawPacket} {architecture : RawArchitecture}
    (valid : validVirtualRawPacket packet architecture = true) :
    packet.bytes.length = architecture.rawInputBytes.toNat := by
  unfold validVirtualRawPacket at valid
  dsimp only at valid
  obtain ⟨sized, valid⟩ := not_taken valid nofun
  rw [not_or, not_not] at sized
  exact sized.1

section Representation

variable {self : VirtualRawInputContext}
variable {token : UInt64} {packet : VirtualRawPacket} {pending : List (UInt64 × VirtualRawPacket)}
  {next : VirtualRawInputContext} {gone : UInt64 → VirtualRawPacket → Prop}

theorem packetBytes_of_live (wellFormed : self.WellFormed) (live : self.handles.Live token packet) :
    self.packetBytes token = self.architecture.rawInputBytes.toNat := by
  unfold packetBytes
  rw [live.resolve wellFormed.bounded]
  exact valid_length (wellFormed.valid token packet live)

theorem Represents.queued_iff (represents : self.Represents pending) (token : UInt64) :
    token ∈ self.queue.tokens ↔ ∃ packet, self.handles.Live token packet := by
  rw [represents.tokens, mem_map]
  constructor
  · rintro ⟨⟨_, packet⟩, member, rfl⟩
    exact ⟨packet, (represents.live _ packet).mpr member⟩
  · rintro ⟨packet, live⟩
    exact ⟨(token, packet), (represents.live token packet).mp live, rfl⟩

theorem Represents.inAgreement (represents : self.Represents pending)
    (wellFormed : self.WellFormed) : self.InAgreement := by
  constructor
  · rw [represents.tokens]
    exact represents.distinct
  · intro token
    rw [represents.queued_iff, exists_live_iff wellFormed.stocked]
    simp only [active_iff]
  · have sizes :
        self.queue.tokens.map self.packetBytes =
          replicate self.queue.tokens.length self.architecture.rawInputBytes.toNat := by
      refine eq_replicate_iff.mpr ⟨length_map _, ?_⟩
      intro size member
      obtain ⟨token, queued, rfl⟩ := mem_map.mp member
      obtain ⟨packet, live⟩ := (represents.queued_iff token).mp queued
      exact packetBytes_of_live wellFormed live
    rw [sizes, sum_replicate_nat, wellFormed.measured.counted]

def packetOf (self : VirtualRawInputContext) (token : UInt64) : VirtualRawPacket :=
  match self.handles.resolve token with
  | .ok packet => packet
  | .error _ => {}

theorem packetOf_of_live (wellFormed : self.WellFormed) (live : self.handles.Live token packet) :
    self.packetOf token = packet := by
  unfold packetOf
  rw [live.resolve wellFormed.bounded]

theorem InAgreement.represents (agreement : self.InAgreement) (wellFormed : self.WellFormed) :
    self.Represents (self.queue.tokens.map fun token => (token, self.packetOf token))
    := by
  have tokenLive :
      ∀ token, token ∈ self.queue.tokens ↔ ∃ packet, self.handles.Live token packet := by
    intro token
    rw [agreement.exactly, exists_live_iff wellFormed.stocked]
    simp only [active_iff]
  have names :
      (self.queue.tokens.map fun token =>
          (token, self.packetOf token)).map Prod.fst =
        self.queue.tokens := by
    rw [map_map]
    exact map_id _
  constructor
  · exact names.symm
  · rw [names]
    exact agreement.distinct
  intro token packet
  rw [mem_map]
  constructor
  · intro live
    refine ⟨token, (tokenLive token).mpr ⟨packet, live⟩, ?_⟩
    rw [packetOf_of_live wellFormed live]
  rintro ⟨queued, member, same⟩
  cases same
  obtain ⟨found, live⟩ := (tokenLive token).mp member
  rw [packetOf_of_live wellFormed live]
  exact live

theorem Represents.canonical (represents : self.Represents pending) (wellFormed : self.WellFormed)
    (queued : token ∈ self.queue.tokens) :
    self.handles.canonical token = token := by
  rw [represents.tokens] at queued
  obtain ⟨⟨_, packet⟩, member, rfl⟩ := mem_map.mp queued
  exact ((represents.live _ packet).mpr member).canonical wellFormed.bounded

/-! ## What the operations do to the queue -/

theorem WellFormed.of_removes (wellFormed : self.WellFormed)
    (removes : Removes self.handles next.handles gone)
    (architecture : next.architecture = self.architecture)
    (measured :
      next.queue.Measured self.architecture.rawInputBytes.toNat) :
    next.WellFormed where
  architecture := by
    obtain ⟨slots, same⟩ := removes.context
    rw [same, architecture]
    exact wellFormed.architecture
  bounded := removes.bounded
  stocked := removes.stocked wellFormed.stocked
  valid := by
    intro token packet live
    rw [architecture]
    exact wellFormed.valid token packet ((removes.live token packet).mp live).1
  measured := by
    rw [architecture]
    exact measured

theorem Represents.filter (represents : self.Represents pending)
    (removes : Removes self.handles next.handles gone)
    {keep : UInt64 × VirtualRawPacket → Bool}
    (kept :
      ∀ token packet, (token, packet) ∈ pending →
        (keep (token, packet) = true ↔ ¬ gone token packet))
    (tokens :
      next.queue.tokens = (pending.filter keep).map Prod.fst) :
    next.Represents (pending.filter keep) where
  tokens := tokens
  distinct := represents.distinct.sublist (List.Sublist.map Prod.fst filter_sublist)
  live := by
    intro token packet
    rw [removes.live, represents.live, mem_filter]
    exact and_congr_right fun member => (kept token packet member).symm

theorem Represents.erased_tokens (represents : self.Represents pending)
    (wellFormed : self.WellFormed) (token : UInt64) :
    (self.queue.erase token).tokens =
      (pending.filter fun entry => entry.1 != token).map Prod.fst := by
  have distinct := represents.distinct
  rw [← represents.tokens] at distinct
  rw [wellFormed.measured.erase_tokens, distinct.erase_eq_filter,
    represents.tokens, filter_map]
  rfl

theorem expireUsageLocked_removes (wellFormed : self.WellFormed) (key : RawUsageKey) :
    Removes self.handles (self.expireUsageLocked key).handles
      fun token packet =>
        (∃ expired ∈ self.queue.tokens.filter (self.resolvesTo key),
          token = self.handles.canonical expired) ∨
        packet.usage = key := by
  have tokens := expireAll_removes wellFormed.bounded
    (self.queue.tokens.filter (self.resolvesTo key))
  exact tokens.trans (expireUsage_removes tokens.bounded key)

theorem expireUsageLocked_wellFormed (wellFormed : self.WellFormed) (key : RawUsageKey) :
    (self.expireUsageLocked key).WellFormed :=
  wellFormed.of_removes (expireUsageLocked_removes wellFormed key) rfl
    (wellFormed.measured.eraseTokens _).1

theorem Represents.resolvesTo_iff (represents : self.Represents pending)
    (wellFormed : self.WellFormed) (member : (token, packet) ∈ pending)
    (key : RawUsageKey) :
    self.resolvesTo key token = true ↔ packet.usage = key := by
  have live := (represents.live token packet).mpr member
  unfold resolvesTo
  rw [live.resolve wellFormed.bounded]
  exact beq_iff_eq

theorem Represents.expireUsageLocked (represents : self.Represents pending)
    (wellFormed : self.WellFormed) (key : RawUsageKey) :
    (self.expireUsageLocked key).Represents (pending.filter fun entry => entry.2.usage != key) := by
  apply represents.filter (expireUsageLocked_removes wellFormed key)
  · intro token packet member
    rw [bne_iff_ne, ne_eq, not_iff_not]
    constructor
    · exact Or.inr
    rintro (⟨expired, isExpired, same⟩ | usage)
    · obtain ⟨queued, resolves⟩ := mem_filter.mp isExpired
      rw [represents.canonical wellFormed queued] at same
      rw [← same] at resolves
      exact (represents.resolvesTo_iff wellFormed member key).mp resolves
    · exact usage
  · have distinct := represents.distinct
    rw [← represents.tokens] at distinct
    change (self.queue.eraseTokens _).tokens = _
    rw [(wellFormed.measured.eraseTokens _).2, distinct.sdiff_eq_filter,
      represents.tokens, filter_map]
    congr 1
    apply filter_congr
    rintro ⟨token, packet⟩ member
    have resolves := represents.resolvesTo_iff wellFormed member key
    have queued : token ∈ pending.map Prod.fst := mem_map.mpr ⟨_, member, rfl⟩
    have isExpired :
        token ∈ (pending.map Prod.fst).filter (self.resolvesTo key) ↔ packet.usage = key := by
      rw [mem_filter]
      exact (and_iff_right queued).trans resolves
    rw [Bool.eq_iff_iff, Function.comp_apply, decide_eq_true_iff, isExpired, bne_iff_ne]

structure SamePackets (before after : VirtualRawInputContext) : Prop where
  architecture : after.architecture = before.architecture
  handles : after.handles = before.handles
  queue : after.queue = before.queue

theorem WellFormed.same (wellFormed : self.WellFormed)
    (same : SamePackets self next) : next.WellFormed := by
  obtain ⟨architecture, handles, queue⟩ := same
  constructor
  · rw [handles, architecture]
    exact wellFormed.architecture
  · rw [handles]
    exact wellFormed.bounded
  · rw [handles]
    exact wellFormed.stocked
  · rw [handles, architecture]
    exact wellFormed.valid
  · rw [queue, architecture]
    exact wellFormed.measured

theorem Represents.same (represents : self.Represents pending) (same : SamePackets self next) :
    next.Represents pending := by
  obtain ⟨_, handles, queue⟩ := same
  constructor
  · rw [queue]
    exact represents.tokens
  · exact represents.distinct
  · rw [handles]
    exact represents.live

/-- A step that drops packets from both sides, or none. -/
structure Thins (before after : VirtualRawInputContext) : Prop where
  wellFormed : after.WellFormed
  spent : ∀ token, before.handles.SpentToken token → after.handles.SpentToken token
  represents :
    ∀ pending, before.Represents pending →
      ∃ keep : UInt64 × VirtualRawPacket → Bool, after.Represents (pending.filter keep)

theorem Thins.of_same (wellFormed : self.WellFormed)
    (same : SamePackets self next) : Thins self next where
  wellFormed := wellFormed.same same
  spent := by
    intro token spent
    rw [same.handles]
    exact spent
  represents := by
    intro pending represents
    refine ⟨fun _ => true, ?_⟩
    rw [filter_true]
    exact represents.same same

theorem Thins.trans {between : VirtualRawInputContext}
    (first : Thins self between) (second : Thins between next) :
    Thins self next where
  wellFormed := second.wellFormed
  spent := fun token spent => second.spent token (first.spent token spent)
  represents := by
    intro pending represents
    obtain ⟨keepFirst, middle⟩ := first.represents pending represents
    obtain ⟨keepSecond, last⟩ := second.represents _ middle
    rw [filter_filter] at last
    exact ⟨_, last⟩

section

variable (wellFormed : self.WellFormed)
include wellFormed

theorem expireUsageLocked_thins (key : RawUsageKey) : Thins self (self.expireUsageLocked key) where
  wellFormed := expireUsageLocked_wellFormed wellFormed key
  spent := (expireUsageLocked_removes wellFormed key).spent
  represents := fun _ represents => ⟨_, represents.expireUsageLocked wellFormed key⟩

theorem applyRequest_thins (request : VirtualRawRegistrationRequest) :
    Thins self (self.applyRequest request) := by
  have expired := expireUsageLocked_thins wellFormed request.key
  unfold applyRequest
  dsimp only
  split
  · split
    · exact expired.trans (.of_same expired.wellFormed ⟨rfl, rfl, rfl⟩)
    · exact .of_same wellFormed ⟨rfl, rfl, rfl⟩
  · exact expired.trans (.of_same expired.wellFormed ⟨rfl, rfl, rfl⟩)

theorem applyRequests_thins (requests : List VirtualRawRegistrationRequest) :
    Thins self (requests.foldl applyRequest self) := by
  induction requests generalizing self with
  | nil => exact .of_same wellFormed ⟨rfl, rfl, rfl⟩
  | cons request requests ih =>
    have first := applyRequest_thins wellFormed request
    exact first.trans (ih first.wellFormed)

theorem registerDevices_thins (requests : List VirtualRawRegistrationRequest) :
    Thins self (self.registerDevices requests).2 := by
  unfold registerDevices
  split
  · exact .of_same wellFormed ⟨rfl, rfl, rfl⟩
  split
  · exact .of_same wellFormed ⟨rfl, rfl, rfl⟩
  · split
    · exact .of_same wellFormed ⟨rfl, rfl, rfl⟩
    · exact applyRequests_thins wellFormed requests

end

theorem configure_same (seatId processId : UInt32) :
    SamePackets self (self.configure seatId processId).2 := by
  unfold configure
  split
  · exact ⟨rfl, rfl, rfl⟩
  · split
    · exact ⟨rfl, rfl, rfl⟩
    · exact ⟨rfl, rfl, rfl⟩

theorem reset_thins (wellFormed : self.WellFormed) : Thins self self.reset := by
  have removes := reset_removes wellFormed.bounded
  constructor
  · refine wellFormed.of_removes removes rfl ?_
    exact ⟨rfl, nofun, (Nat.zero_mul _).symm⟩
  · exact removes.spent
  intro pending represents
  refine ⟨fun _ => false, represents.filter removes ?_ ?_⟩
  · intro token packet _
    simp
  · rw [filter_false]
    rfl

/-! ## Calls that end a handle -/

/-- The handle of the token ends, and the queue erases the exact token. -/
structure EndsToken (before after : VirtualRawInputContext) (token : UInt64) : Prop where
  architecture : after.architecture = before.architecture
  queue : after.queue = before.queue.erase token
  removes :
    Removes before.handles after.handles fun other _ => other = before.handles.canonical token

theorem EndsToken.wellFormed (ends : EndsToken self next token) (wellFormed : self.WellFormed) :
    next.WellFormed := by
  refine wellFormed.of_removes ends.removes ends.architecture ?_
  rw [ends.queue]
  exact wellFormed.measured.erase token

theorem EndsToken.represents (ends : EndsToken self next token) (wellFormed : self.WellFormed)
    (represents : self.Represents pending)
    (queued : token ∈ self.queue.tokens) :
    next.Represents (pending.filter fun entry => entry.1 != token) := by
  apply represents.filter ends.removes
  · intro other packet _
    rw [represents.canonical wellFormed queued, bne_iff_ne]
  · rw [ends.queue]
    exact represents.erased_tokens wellFormed token

/-- A handle that ends through a token which is not queued stays queued
under its own token. -/
theorem EndsToken.disagrees (ends : EndsToken self next token) (wellFormed : self.WellFormed)
    (represents : self.Represents pending)
    (resolved : self.handles.resolve token = .ok packet)
    (unqueued : token ∉ self.queue.tokens) : ¬ next.InAgreement := by
  intro agreement
  have live := (resolve_eq_ok_iff_live wellFormed.bounded token packet).mp resolved
  have queued := (represents.queued_iff _).mpr ⟨packet, live⟩
  have stillQueued : self.handles.canonical token ∈ next.queue.tokens := by
    rw [ends.queue, wellFormed.measured.erase_tokens, erase_of_not_mem unqueued]
    exact queued
  have stocked := (ends.wellFormed wellFormed).stocked
  rw [agreement.exactly] at stillQueued
  simp only [← active_iff] at stillQueued
  rw [← exists_live_iff stocked] at stillQueued
  obtain ⟨later, stillLive⟩ := stillQueued
  exact ((ends.removes.live _ later).mp stillLive).2 rfl

inductive TakesPacket (self : VirtualRawInputContext) (token : UInt64) : Operation → Prop
  | completed {packet : VirtualRawPacket} {targetCurrentlyValid postSucceeded : Bool}
      (resolved : self.handles.resolve token = .ok packet)
      (failed :
        self.registrationCurrent packet = false ∨
          targetCurrentlyValid = false ∨ postSucceeded = false) :
      TakesPacket self token (.completeDelivery token targetCurrentlyValid postSucceeded)
  | read {output : List UInt8} (room : self.architecture.rawInputBytes.toNat ≤ output.length) :
      TakesPacket self token
        (.readData token kRawRidInput self.architecture.rawInputHeaderBytes output false)

theorem dropToken_ends (wellFormed : self.WellFormed) (token : UInt64) :
    EndsToken self (self.dropToken token) token :=
  ⟨rfl, rfl, expire_removes wellFormed.bounded token⟩

theorem completeDelivery_cases (wellFormed : self.WellFormed) (token : UInt64)
    (targetCurrentlyValid postSucceeded : Bool) :
    let next := (self.completeDelivery token targetCurrentlyValid postSucceeded).2
    Thins self next ∨
      (∃ packet, self.handles.resolve token = .ok packet ∧
        TakesPacket self token (.completeDelivery token targetCurrentlyValid postSucceeded) ∧
        EndsToken self next token) := by
  unfold completeDelivery
  cases resolved : self.handles.resolve token with
  | error reason => exact Or.inl (.of_same wellFormed ⟨rfl, rfl, rfl⟩)
  | ok packet =>
    dsimp only
    split
    next changed =>
      rw [Bool.not_eq_true'] at changed
      exact Or.inr ⟨packet, rfl, .completed resolved (Or.inl changed),
        dropToken_ends wellFormed token⟩
    next =>
      split
      next failed =>
        rw [Bool.or_eq_true, Bool.not_eq_true', Bool.not_eq_true'] at failed
        exact Or.inr ⟨packet, rfl, .completed resolved (Or.inr failed),
          dropToken_ends wellFormed token⟩
      next =>
        apply Or.inl
        have removes := markDelivered_removes wellFormed.bounded token
        refine ⟨wellFormed.of_removes removes rfl wellFormed.measured, removes.spent,
          fun pending represents => ⟨fun _ => true, ?_⟩⟩
        apply represents.filter removes
        · intro _ _ _
          simp
        · rw [filter_true]
          exact represents.tokens

/-- The call reads a whole packet, and the output has room for it. -/
structure Reads (context : VirtualRawInputContext) (token : UInt64)
    (command cbSizeHeader : UInt32) (output : List UInt8)
    (sizeQuery : Bool) (packet : VirtualRawPacket) : Prop where
  resolved : context.handles.resolve token = .ok packet
  isInput : command = kRawRidInput
  header : cbSizeHeader = context.architecture.rawInputHeaderBytes
  whole : sizeQuery = false
  room : context.architecture.rawInputBytes.toNat ≤ output.length

/-- What `readData` answers, leaves in the output and does. -/
inductive ReadOutcome (self : VirtualRawInputContext) (token : UInt64)
    (command cbSizeHeader : UInt32) (output : List UInt8)
    (sizeQuery : Bool) :
    VirtualRawDataResult × List UInt8 × VirtualRawInputContext → Prop
  | kept {answer : VirtualRawDataResult} {copied : List UInt8}
      (unread : answer.result = .success → ¬ (command = kRawRidInput ∧ sizeQuery = false))
      (unmet : ∀ packet, ¬ self.Reads token command cbSizeHeader output sizeQuery packet) :
      ReadOutcome self token command cbSizeHeader output sizeQuery (answer, copied, self)
  | taken {packet : VirtualRawPacket} {next : VirtualRawInputContext}
      (reads : self.Reads token command cbSizeHeader output sizeQuery packet)
      (ends : EndsToken self next token) :
      ReadOutcome self token command cbSizeHeader output sizeQuery
        ({ result := .success, returnValue := self.architecture.rawInputBytes
           sizeAfter := self.architecture.rawInputBytes },
          overwrite output 0 packet.bytes, next)

theorem readData_outcome (wellFormed : self.WellFormed) (token : UInt64)
    (command cbSizeHeader : UInt32) (output : List UInt8)
    (sizeQuery : Bool) :
    ReadOutcome self token command cbSizeHeader output sizeQuery
      (self.readData token command cbSizeHeader output sizeQuery) := by
  unfold readData
  dsimp only
  split
  next otherHeader => exact .kept (by nofun) fun _ reads => otherHeader reads.header
  next header =>
    split
    next unknown => exact .kept (by nofun) fun _ reads => unknown.2 reads.isInput
    next known =>
      cases resolved : self.handles.resolve token with
      | error reason =>
        refine .kept ?_ fun _ reads => ?_
        · exact fun succeeded => absurd succeeded (resolve_error_ne resolved)
        · have resolves := reads.resolved
          rw [resolved] at resolves
          cases resolves
      | ok packet =>
        have live := (resolve_eq_ok_iff_live wellFormed.bounded token packet).mp resolved
        have valid := wellFormed.valid _ packet live
        have length := valid_length valid
        dsimp only
        rw [valid]
        simp only [Bool.not_true, Bool.false_eq_true, if_false]
        cases sizeQuery with
        | true =>
          exact .kept (fun _ whole => absurd whole.2 nofun) fun _ reads => absurd reads.whole nofun
        | false =>
          simp only [Bool.false_eq_true, if_false]
          by_cases isInput : command = kRawRidInput
          · have notHeader : command ≠ kRawRidHeader := by
              rw [isInput]
              decide
            simp only [if_neg notHeader, if_pos isInput, length, UInt32.ofNat_toNat]
            split
            next small => exact .kept (by nofun) fun _ reads => Nat.not_le_of_lt small reads.room
            next room =>
              rw [Nat.not_lt] at room
              rw [if_neg (not_not.mpr (consume_success resolved)), ← length, take_length]
              exact .taken ⟨resolved, isInput, not_not.mp header, rfl, room⟩
                ⟨rfl, rfl, consume_removes wellFormed.bounded token⟩
          · simp only [if_neg isInput]
            have unmet : ∀ packet, ¬ self.Reads token command cbSizeHeader output false packet :=
              fun _ reads => isInput reads.isInput
            generalize (if command = kRawRidHeader then self.architecture.rawInputHeaderBytes
            else UInt32.ofNat packet.bytes.length) = required
            split
            · exact .kept (by nofun) unmet
            · exact .kept (fun _ whole => isInput whole.1) unmet

/-! ## Reading the whole queue -/

theorem alignedSize_rawInputBytes (architecture : RawArchitecture) :
    architecture.alignedSize architecture.rawInputBytes.toNat =
      architecture.rawInputBytes.toNat := by
  cases architecture with
  | x86 | x64 => decide

theorem collectPackets_of_live (wellFormed : self.WellFormed)
    (pending : List (UInt64 × VirtualRawPacket)) (required : Nat)
    (live : ∀ entry ∈ pending, self.handles.Live entry.1 entry.2)
    (room :
      required + pending.length * self.architecture.rawInputBytes.toNat ≤
        kVirtualRawMaximumPayloadBytes) :
    self.collectPackets (pending.map Prod.fst) required =
      some
        (pending.map Prod.snd,
          required + pending.length * self.architecture.rawInputBytes.toNat) := by
  induction pending generalizing required with
  | nil => simp [collectPackets]
  | cons entry pending ih =>
    obtain ⟨token, packet⟩ := entry
    have headLive : self.handles.Live token packet := live _ mem_cons_self
    have valid := wellFormed.valid token packet headLive
    have size :
        0 < self.architecture.rawInputBytes.toNat ∧ self.architecture.rawInputBytes.toNat ≤ 48 := by
      cases self.architecture with
      | x86 | x64 => decide
    have large : 4294967295 ≤ self.architecture.maximumSize := by
      cases self.architecture with
      | x86 | x64 => decide
    rw [length_cons, Nat.succ_mul] at room ⊢
    simp only [kVirtualRawMaximumPayloadBytes] at room
    have fits :
        ¬ (self.architecture.rawInputBytes.toNat = 0 ∨
          self.architecture.addWouldOverflow required self.architecture.rawInputBytes.toNat = true ∨
          kVirtualRawMaximumPayloadBytes < required + self.architecture.rawInputBytes.toNat) := by
      unfold RawArchitecture.addWouldOverflow
      simp only [decide_eq_true_eq, kVirtualRawMaximumPayloadBytes]
      omega
    have rest := ih (required + self.architecture.rawInputBytes.toNat)
      (fun later member => live later (mem_cons_of_mem _ member))
      (by
        simp only [kVirtualRawMaximumPayloadBytes]
        omega)
    rw [map_cons, map_cons]
    unfold collectPackets
    dsimp only
    rw [headLive.resolve wellFormed.bounded]
    dsimp only
    rw [valid, valid_length valid, alignedSize_rawInputBytes, if_neg fits, rest]
    simp only [Bool.not_true, Bool.false_eq_true, if_false,
      Option.some.injEq, Prod.mk.injEq, true_and]
    omega

theorem Represents.length_le (represents : self.Represents pending) :
    pending.length ≤ kVirtualRawMaximumHandles := by
  have among :
      pending.map Prod.fst ⊆
        (finRange kVirtualRawMaximumHandles).map fun index =>
          self.handles.encode index (self.handles.slots index).generation
      := by
    intro token member
    obtain ⟨⟨_, packet⟩, found, rfl⟩ := mem_map.mp member
    obtain ⟨index, atIndex⟩ := (represents.live _ packet).mpr found
    exact mem_map.mpr ⟨index, mem_finRange index, atIndex.spelled.symm⟩
  have bounded := (List.Nodup.subperm represents.distinct among).length_le
  rwa [length_map, length_map, length_finRange] at bounded

theorem consumeAll_removes (tokens : List UInt64) (handles : SyntheticRawHandleTable)
    (bounded : handles.Bounded) :
    ∃ gone, Removes handles (consumeAll tokens handles).2 gone := by
  induction tokens generalizing handles with
  | nil => exact ⟨_, .refl bounded⟩
  | cons token tokens ih =>
    have first := consume_removes bounded token
    unfold consumeAll
    dsimp only
    split
    · exact ⟨_, first⟩
    · obtain ⟨gone, rest⟩ := ih _ first.bounded
      exact ⟨_, first.trans rest⟩

theorem consumeAll_of_live (pending : List (UInt64 × VirtualRawPacket))
    (handles : SyntheticRawHandleTable) (bounded : handles.Bounded)
    (distinct : (pending.map Prod.fst).Nodup)
    (live : ∀ entry ∈ pending, handles.Live entry.1 entry.2) :
    (consumeAll (pending.map Prod.fst) handles).1 = true ∧
      Removes handles (consumeAll (pending.map Prod.fst) handles).2
        fun token _ => token ∈ pending.map Prod.fst := by
  induction pending generalizing handles with
  | nil =>
    refine ⟨rfl, (Removes.refl bounded).congr fun token _ => ?_⟩
    simp
  | cons entry pending ih =>
    obtain ⟨token, packet⟩ := entry
    rw [map_cons] at distinct ⊢
    obtain ⟨fresh, distinctRest⟩ := nodup_cons.mp distinct
    have headLive : handles.Live token packet := live _ mem_cons_self
    have first := consume_removes bounded token
    rw [headLive.canonical bounded] at first
    have restLive : ∀ later ∈ pending, (handles.consume token).2.Live later.1 later.2 := by
      intro later member
      rw [first.live]
      refine ⟨live later (mem_cons_of_mem _ member), ?_⟩
      intro same
      apply fresh
      rw [← same]
      exact mem_map.mpr ⟨later, member, rfl⟩
    have rest := ih _ first.bounded distinctRest restLive
    have consumed := consume_success (headLive.resolve bounded)
    unfold consumeAll
    dsimp only
    rw [if_neg (not_not.mpr consumed)]
    refine ⟨rest.1, (first.trans rest.2).congr fun other _ => ?_⟩
    rw [mem_cons]

/-- What `readBuffer` answers, leaves in the output and does, when queue
and handles agree. -/
inductive BufferOutcome (self : VirtualRawInputContext)
    (pending : List (UInt64 × VirtualRawPacket)) (cbSizeHeader : UInt32)
    (output : List UInt8) (sizeQuery : Bool) :
    VirtualRawBufferResult × List UInt8 × VirtualRawInputContext → Prop
  | kept {answer : VirtualRawBufferResult} (unread : answer.result = .success → sizeQuery = true)
      (sound : answer.result ≠ .malformedPacket ∧ answer.result ≠ .internalFailure) :
      BufferOutcome self pending cbSizeHeader output sizeQuery (answer, output, self)
  | drained {next : VirtualRawInputContext} {sizeAfter : UInt32} (whole : sizeQuery = false)
      (room : pending.length * self.architecture.rawInputBytes.toNat ≤ output.length)
      (architecture : next.architecture = self.architecture)
      (queue : next.queue = self.queue.eraseTokens self.queue.tokens)
      (removes : Removes self.handles next.handles fun token _ => token ∈ pending.map Prod.fst) :
      BufferOutcome self pending cbSizeHeader output sizeQuery
        ({ result := .success, packetCount := UInt32.ofNat pending.length, sizeAfter },
          copyPackets self.architecture output (pending.map Prod.snd) 0,
          next)

theorem readBuffer_outcome (wellFormed : self.WellFormed)
    (represents : self.Represents pending) (cbSizeHeader : UInt32)
    (output : List UInt8) (sizeQuery : Bool) :
    BufferOutcome self pending cbSizeHeader output sizeQuery
      (self.readBuffer cbSizeHeader output sizeQuery) := by
  have live : ∀ entry ∈ pending, self.handles.Live entry.1 entry.2 :=
    fun entry member => (represents.live entry.1 entry.2).mpr member
  have few := represents.length_le
  have room :
      0 + pending.length * self.architecture.rawInputBytes.toNat ≤
        kVirtualRawMaximumPayloadBytes := by
    simp only [kVirtualRawMaximumHandles, kVirtualRawMaximumPayloadBytes] at few ⊢
    have small : self.architecture.rawInputBytes.toNat ≤ 48 := by
      cases self.architecture with
      | x86 | x64 => decide
    have bounded := Nat.mul_le_mul few small
    omega
  have collected := collectPackets_of_live wellFormed pending 0 live room
  rw [← represents.tokens, Nat.zero_add] at collected
  have consumed := consumeAll_of_live pending self.handles wellFormed.bounded
    represents.distinct live
  rw [← represents.tokens] at consumed
  unfold readBuffer
  split
  · exact .kept (by simp) (by decide)
  rw [collected]
  dsimp only
  split
  next queried => exact .kept (fun _ => queried) (by simp)
  next notQueried =>
    rw [Bool.not_eq_true] at notQueried
    split
    · exact .kept (by simp) (by simp)
    next enough =>
      rw [Nat.not_lt] at enough
      rw [consumed.1]
      simp only [Bool.not_true, Bool.false_eq_true, if_false, length_map]
      refine .drained notQueried enough rfl rfl ?_
      rw [← represents.tokens]
      exact consumed.2

/-! ## Enqueueing -/

/-- The packet that `enqueueInput` stores, once it has a token. -/
def storedPacket (self : VirtualRawInputContext) (sequence : UInt64)
    (input : InputEventMessage) (registration : VirtualRawRegistration)
    (token : UInt64) : VirtualRawPacket :=
  { self.serializePacket sequence input registration with syntheticToken := token }

theorem WellFormed.allocated (wellFormed : self.WellFormed)
    (valid : validVirtualRawPacket packet self.architecture = true)
    (succeeded : (self.handles.allocate packet).1.result = .success)
    {queue : VirtualRawInputQueue}
    (measured : queue.Measured self.architecture.rawInputBytes.toNat) :
    { self with handles := (self.handles.allocate packet).2, queue }.WellFormed := by
  have stepped := step_stepped wellFormed.bounded (.allocate packet)
  have live := (allocate_live wellFormed.bounded packet succeeded).2
  constructor
  · obtain ⟨slots, same, _⟩ := stepped
    change (self.handles.allocate packet).2 = _ at same
    dsimp only
    rw [same]
    exact wellFormed.architecture
  · exact stepped.bounded wellFormed.bounded
  · exact stepped.stocked wellFormed.stocked
  · intro token stored isLive
    rcases (live token stored).mp isLive with before | ⟨_, rfl⟩
    · exact wellFormed.valid token stored before
    · exact valid
  · exact measured

theorem allocated_resolve (wellFormed : self.WellFormed) (packet : VirtualRawPacket)
    (succeeded : (self.handles.allocate packet).1.result = .success) :
    (self.handles.allocate packet).2.resolve (self.handles.allocate packet).1.token =
      .ok { packet with syntheticToken := (self.handles.allocate packet).1.token } := by
  have live := (allocate_live wellFormed.bounded packet succeeded).2
  have bounded := step_bounded self.handles (.allocate packet) wellFormed.bounded
  exact Live.resolve bounded ((live _ _).mpr (Or.inr ⟨rfl, rfl⟩))

theorem enqueueInput_wellFormed (wellFormed : self.WellFormed) (sequence : UInt64)
    (input : InputEventMessage) :
    (self.enqueueInput sequence input).2.WellFormed := by
  unfold enqueueInput
  split
  · exact wellFormed
  split
  · exact wellFormed
  split
  · exact wellFormed
  next registration _ =>
    dsimp only
    split
    · exact wellFormed
    next invalid =>
      rw [Bool.not_eq_true', Bool.not_eq_false] at invalid
      split
      next refused =>
        exact wellFormed.of_removes (allocate_removes_of_refused wellFormed.bounded _ refused)
          rfl wellFormed.measured
      next succeeded =>
        rw [not_not] at succeeded
        have allocated := wellFormed.allocated invalid succeeded wellFormed.measured
        rw [allocated_resolve wellFormed _ succeeded]
        dsimp only
        split
        · exact allocated.of_removes (expire_removes allocated.bounded _) rfl allocated.measured
        next queued =>
          rw [not_not, valid_length invalid] at queued
          rw [valid_length invalid]
          exact wellFormed.allocated invalid succeeded (wellFormed.measured.enqueue queued)

theorem Represents.push (represents : self.Represents pending)
    (wellFormed : self.WellFormed) (packet : VirtualRawPacket)
    (succeeded : (self.handles.allocate packet).1.result = .success)
    (queue : VirtualRawInputQueue)
    (tokens : queue.tokens = self.queue.tokens ++ [(self.handles.allocate packet).1.token]) :
    { self with handles := (self.handles.allocate packet).2, queue }.Represents
      (pending ++
        [((self.handles.allocate packet).1.token,
          { packet with syntheticToken := (self.handles.allocate packet).1.token })])
    := by
  obtain ⟨fresh, live⟩ := allocate_live wellFormed.bounded packet succeeded
  constructor
  · dsimp only
    rw [tokens, represents.tokens, map_append]
    rfl
  · rw [map_append]
    refine nodup_append.mpr ⟨represents.distinct, nodup_singleton _, ?_⟩
    intro token member new isNew
    rw [map_singleton, mem_singleton] at isNew
    rintro rfl
    obtain ⟨⟨old, stored⟩, found, rfl⟩ := mem_map.mp member
    have isLive := (represents.live old stored).mpr found
    dsimp only at isNew
    rw [isNew] at isLive
    exact fresh stored isLive
  · intro token stored
    rw [mem_append, mem_singleton, Prod.mk.injEq]
    exact (live token stored).trans (or_congr_left (represents.live token stored))

theorem enqueue_success (represents : self.Represents pending)
    (wellFormed : self.WellFormed) (packet : VirtualRawPacket)
    (succeeded : (self.handles.allocate packet).1.result = .success) :
    (self.queue.enqueue (self.handles.allocate packet).1.token
      self.architecture.rawInputBytes.toNat).1 = .success := by
  have pushed := represents.push wellFormed packet succeeded
    { self.queue with tokens := self.queue.tokens ++ [(self.handles.allocate packet).1.token] }
    rfl
  have few := pushed.length_le
  rw [length_append, length_singleton] at few
  have queued : self.queue.tokens.length = pending.length := by
    rw [represents.tokens, length_map]
  have nonzero : (self.handles.allocate packet).1.token ≠ 0 := by
    obtain ⟨index, generation, inRange, spelled, _⟩ :=
      allocate_issues wellFormed.bounded packet succeeded
    rw [spelled]
    exact encode_ne_zero inRange
  have size :
      self.architecture.rawInputBytes.toNat ≠ 0 ∧ self.architecture.rawInputBytes.toNat ≤ 48 := by
    cases self.architecture with
    | x86 | x64 => decide
  have counted := wellFormed.measured.counted
  rw [queued] at counted
  simp only [kVirtualRawMaximumHandles] at few
  have payload : pending.length * self.architecture.rawInputBytes.toNat ≤ 127 * 48 :=
    Nat.mul_le_mul (by omega) size.2
  unfold VirtualRawInputQueue.enqueue
  rw [if_neg, if_neg]
  · rw [queued, counted]
    simp only [kVirtualRawMaximumPackets, kVirtualRawMaximumPayloadBytes]
    omega
  · simp only [nonzero, size.1, kVirtualRawMaximumPayloadBytes, false_or]
    omega

/-- What `enqueueInput` answers and does, when queue and handles agree. -/
inductive EnqueueOutcome (self : VirtualRawInputContext)
    (pending : List (UInt64 × VirtualRawPacket)) (sequence : UInt64)
    (input : InputEventMessage) :
    VirtualRawDelivery × VirtualRawInputContext → Prop
  | kept {delivery : VirtualRawDelivery} (refused : delivery.result ≠ .success) :
      EnqueueOutcome self pending sequence input (delivery, self)
  | full {packet : VirtualRawPacket}
      (unallocated : (self.handles.allocate packet).1.result ≠ .success) :
      EnqueueOutcome self pending sequence input
        ({ result := .handleTableFull }, { self with handles := (self.handles.allocate packet).2 })
  | queued {registration : VirtualRawRegistration}
      {delivery : VirtualRawDelivery} {next : VirtualRawInputContext}
      (registered : self.registrations (usageIndex (inputUsage input)) = some registration)
      (succeeded : delivery.result = .success)
      (fresh : ¬ self.handles.SpentToken delivery.token)
      (issued : next.handles.SpentToken delivery.token)
      (spent :
        ∀ token, self.handles.SpentToken token →
          next.handles.SpentToken token)
      (represents :
        next.Represents
          (pending ++
            [(delivery.token, self.storedPacket sequence input registration delivery.token)])) :
      EnqueueOutcome self pending sequence input (delivery, next)

theorem enqueueInput_outcome (represents : self.Represents pending)
    (wellFormed : self.WellFormed) (sequence : UInt64)
    (input : InputEventMessage) :
    EnqueueOutcome self pending sequence input (self.enqueueInput sequence input) := by
  unfold enqueueInput
  split
  · exact .kept (by nofun)
  split
  · exact .kept (by nofun)
  split
  · exact .kept (by nofun)
  next registration registered =>
    dsimp only
    split
    · exact .kept (by nofun)
    next invalid =>
      rw [Bool.not_eq_true', Bool.not_eq_false] at invalid
      split
      next refused =>
        rw [(allocate_full wellFormed.bounded _ refused).1]
        exact .full refused
      next succeeded =>
        rw [not_not] at succeeded
        have queued := enqueue_success represents wellFormed
          (self.serializePacket sequence input registration)
          succeeded
        rw [allocated_resolve wellFormed _ succeeded]
        dsimp only
        rw [valid_length invalid, if_neg (not_not.mpr queued)]
        have spends := allocate_spends wellFormed.bounded _ succeeded
        have stepped := step_stepped wellFormed.bounded
          (.allocate (self.serializePacket sequence input registration))
        refine .queued registered rfl spends.1 spends.2
          (fun token spent => stepped.spentToken spent) ?_
        exact represents.push wellFormed _ succeeded _
          (congrArg (·.tokens) (VirtualRawInputQueue.enqueue_of_success queued))

theorem readBuffer_wellFormed (wellFormed : self.WellFormed) (cbSizeHeader : UInt32)
    (output : List UInt8) (sizeQuery : Bool) :
    (self.readBuffer cbSizeHeader output sizeQuery).2.2.WellFormed := by
  obtain ⟨gone, removes⟩ := consumeAll_removes self.queue.tokens self.handles wellFormed.bounded
  unfold readBuffer
  split
  · exact wellFormed
  split
  · exact wellFormed
  dsimp only
  split
  · exact wellFormed
  split
  · exact wellFormed
  · split
    · exact wellFormed.of_removes removes rfl wellFormed.measured
    · exact wellFormed.of_removes removes rfl (wellFormed.measured.eraseTokens _).1

theorem Represents.drained (represents : self.Represents pending) (wellFormed : self.WellFormed)
    (queue : next.queue = self.queue.eraseTokens self.queue.tokens)
    (removes : Removes self.handles next.handles fun token _ => token ∈ pending.map Prod.fst) :
    next.Represents [] := by
  have nothing : pending.filter (fun _ => false) = [] := filter_false pending
  rw [← nothing]
  apply represents.filter removes
  · intro token packet member
    have named : token ∈ pending.map Prod.fst := mem_map.mpr ⟨_, member, rfl⟩
    simp [named]
  · have distinct := represents.distinct
    rw [← represents.tokens] at distinct
    rw [nothing, queue, (wellFormed.measured.eraseTokens _).2, distinct.sdiff_eq_filter]
    exact filter_eq_nil_iff.mpr fun token member => by simp [member]

theorem BufferOutcome.represents {cbSizeHeader : UInt32} {output : List UInt8} {sizeQuery : Bool}
    {answered : VirtualRawBufferResult × List UInt8 × VirtualRawInputContext}
    (outcome : BufferOutcome self pending cbSizeHeader output sizeQuery answered)
    (represents : self.Represents pending)
    (wellFormed : self.WellFormed) :
    ∃ keep : UInt64 × VirtualRawPacket → Bool, answered.2.2.Represents (pending.filter keep) := by
  cases outcome with
  | kept =>
    refine ⟨fun _ => true, ?_⟩
    rw [filter_true]
    exact represents
  | drained _ _ _ queue removes =>
    refine ⟨fun _ => false, ?_⟩
    rw [filter_false]
    exact represents.drained wellFormed queue removes

/-! ## Every call -/

/-- A step on which queue and handles agree as before. -/
inductive PacketStep (before : VirtualRawInputContext) (pending : List (UInt64 × VirtualRawPacket))
    (after : VirtualRawInputContext) : Prop
  | thinned (keep : UInt64 × VirtualRawPacket → Bool)
      (represents : after.Represents (pending.filter keep))
  | pushed (token : UInt64) (packet : VirtualRawPacket)
      (represents : after.Represents (pending ++ [(token, packet)]))

theorem PacketStep.inAgreement
    (step : PacketStep self pending next) (wellFormed : next.WellFormed) :
    next.InAgreement := by
  cases step with
  | thinned _ represents | pushed _ _ represents => exact represents.inAgreement wellFormed

theorem Thins.packetStep (thins : Thins self next) (represents : self.Represents pending) :
    PacketStep self pending next := by
  obtain ⟨keep, later⟩ := thins.represents pending represents
  exact .thinned keep later

/-- A call that takes the packet of a token that resolves ends its
handle. -/
theorem TakesPacket.ends {operation : Operation} (takes : TakesPacket self token operation)
    (wellFormed : self.WellFormed)
    (resolved : self.handles.resolve token = .ok packet) :
    EndsToken self (self.step operation) token := by
  cases takes with
  | @completed _ targetCurrentlyValid postSucceeded resolves failed =>
    rw [resolved] at resolves
    cases resolves
    change EndsToken self (self.completeDelivery token targetCurrentlyValid postSucceeded).2 token
    unfold completeDelivery
    rw [resolved]
    dsimp only
    split
    · exact dropToken_ends wellFormed token
    next current =>
      rw [Bool.not_eq_true', Bool.not_eq_false] at current
      have posted : (!targetCurrentlyValid || !postSucceeded) = true := by
        rw [Bool.or_eq_true, Bool.not_eq_true', Bool.not_eq_true']
        exact failed.resolve_left fun changed => absurd (current.symm.trans changed) nofun
      rw [if_pos posted]
      exact dropToken_ends wellFormed token
  | @read output room =>
    have outcome := readData_outcome wellFormed token kRawRidInput
      self.architecture.rawInputHeaderBytes output false
    change EndsToken self
      (self.readData token kRawRidInput
        self.architecture.rawInputHeaderBytes output false).2.2 token
    generalize self.readData token kRawRidInput
      self.architecture.rawInputHeaderBytes output false = answered
      at outcome ⊢
    cases outcome with
    | taken _ ends => exact ends
    | kept _ unmet => exact absurd ⟨resolved, rfl, rfl, rfl, room⟩ (unmet packet)

/-- Every step keeps the agreement, or ends the handle of a token that
resolves. -/
theorem step_cases (wellFormed : self.WellFormed)
    (represents : self.Represents pending) (operation : Operation) :
    PacketStep self pending (self.step operation) ∨
      ∃ token packet, self.handles.resolve token = .ok packet ∧ TakesPacket self token operation ∧
        EndsToken self (self.step operation) token := by
  cases operation with
  | configure seatId processId =>
    exact Or.inl
      ((Thins.of_same wellFormed (configure_same seatId processId)).packetStep represents)
  | registerDevices requests =>
    exact Or.inl ((registerDevices_thins wellFormed requests).packetStep represents)
  | enqueueInput sequence input =>
    apply Or.inl
    have outcome := enqueueInput_outcome represents wellFormed sequence input
    change PacketStep self pending (self.enqueueInput sequence input).2
    generalize self.enqueueInput sequence input = answered at outcome ⊢
    cases outcome with
    | kept => exact (Thins.of_same wellFormed ⟨rfl, rfl, rfl⟩).packetStep represents
    | full unallocated =>
      have removes := allocate_removes_of_refused wellFormed.bounded _ unallocated
      refine .thinned (fun _ => true) (represents.filter removes ?_ ?_)
      · intro _ _ _
        simp
      · rw [filter_true]
        exact represents.tokens
    | queued _ _ _ _ _ later => exact .pushed _ _ later
  | completeDelivery token targetCurrentlyValid postSucceeded =>
    rcases completeDelivery_cases wellFormed token targetCurrentlyValid postSucceeded with
      thins | ⟨packet, resolved, takes, ends⟩
    · exact Or.inl (thins.packetStep represents)
    · exact Or.inr ⟨token, packet, resolved, takes, ends⟩
  | readData token command cbSizeHeader output sizeQuery =>
    have outcome := readData_outcome wellFormed token command cbSizeHeader output sizeQuery
    change PacketStep self pending (self.readData token command cbSizeHeader output sizeQuery).2.2 ∨
        ∃ taken packet, self.handles.resolve taken = .ok packet ∧
          TakesPacket self taken (.readData token command cbSizeHeader output sizeQuery) ∧
          EndsToken self (self.readData token command cbSizeHeader output sizeQuery).2.2 taken
    generalize self.readData token command cbSizeHeader output sizeQuery = answered at outcome ⊢
    cases outcome with
    | kept => exact Or.inl ((Thins.of_same wellFormed ⟨rfl, rfl, rfl⟩).packetStep represents)
    | @taken packet _ reads ends =>
      obtain ⟨resolved, rfl, rfl, rfl, room⟩ := reads
      exact Or.inr ⟨token, packet, resolved, .read room, ends⟩
  | readBuffer cbSizeHeader output sizeQuery =>
    obtain ⟨keep, later⟩ :=
      (readBuffer_outcome wellFormed represents cbSizeHeader output
        sizeQuery).represents represents wellFormed
    exact Or.inl (.thinned keep later)
  | beginStopping =>
    have same : SamePackets self self.beginStopping := ⟨rfl, rfl, rfl⟩
    exact Or.inl ((Thins.of_same wellFormed same).packetStep represents)
  | reset => exact Or.inl ((reset_thins wellFormed).packetStep represents)

theorem step_wellFormed (self : VirtualRawInputContext) (operation : Operation)
    (wellFormed : self.WellFormed) :
    (self.step operation).WellFormed := by
  cases operation with
  | configure seatId processId => exact wellFormed.same (configure_same seatId processId)
  | registerDevices requests => exact (registerDevices_thins wellFormed requests).wellFormed
  | enqueueInput sequence input => exact enqueueInput_wellFormed wellFormed sequence input
  | completeDelivery token targetCurrentlyValid postSucceeded =>
    rcases completeDelivery_cases wellFormed token targetCurrentlyValid postSucceeded with
      thins | ⟨_, _, _, ends⟩
    · exact thins.wellFormed
    · exact ends.wellFormed wellFormed
  | readData token command cbSizeHeader output sizeQuery =>
    have outcome := readData_outcome wellFormed token command cbSizeHeader output sizeQuery
    change (self.readData token command cbSizeHeader output sizeQuery).2.2.WellFormed
    generalize self.readData token command cbSizeHeader output sizeQuery = answered at outcome ⊢
    cases outcome with
    | kept => exact wellFormed
    | taken _ ends => exact ends.wellFormed wellFormed
  | readBuffer cbSizeHeader output sizeQuery =>
    exact readBuffer_wellFormed wellFormed cbSizeHeader output sizeQuery
  | beginStopping => exact wellFormed.same ⟨rfl, rfl, rfl⟩
  | reset => exact (reset_thins wellFormed).wellFormed

/-- Only bits that `decode` drops keep the token from being a queued
one. -/
structure Aliased (context : VirtualRawInputContext) (token : UInt64) : Prop where
  x64 : context.architecture = .x64
  unqueued : token ∉ context.queue.tokens
  queued : token &&& 0x7fffffffffff ∈ context.queue.tokens

def KeepsSpelling (self : VirtualRawInputContext) (operation : Operation) : Prop :=
  ∀ token, TakesPacket self token operation → ¬ self.Aliased token

theorem canonical_x64 (wellFormed : self.WellFormed) (x64 : self.architecture = .x64)
    (token : UInt64) :
    self.handles.canonical token = token &&& 0x7fffffffffff := by
  have low : (token &&& 0x7fffffffffff).toNat = token.toNat % 2 ^ 47 :=
    low_toNat token 47 (by decide)
  rw [← UInt64.toNat_inj, canonical_toNat, low]
  unfold tokenModulus
  rw [wellFormed.architecture, x64]

theorem canonical_x86 (wellFormed : self.WellFormed) (x86 : self.architecture = .x86)
    (token : UInt64) : self.handles.canonical token = token := by
  rw [← UInt64.toNat_inj, canonical_toNat]
  unfold tokenModulus
  rw [wellFormed.architecture, x86]
  exact Nat.mod_eq_of_lt token.toNat_lt

/-- A token that resolves is queued, or another spelling of a queued
one. -/
theorem aliased_of_resolve (wellFormed : self.WellFormed) (represents : self.Represents pending)
    (resolved : self.handles.resolve token = .ok packet)
    (unqueued : token ∉ self.queue.tokens) : self.Aliased token := by
  have live := (resolve_eq_ok_iff_live wellFormed.bounded token packet).mp resolved
  have queued := (represents.queued_iff _).mpr ⟨packet, live⟩
  cases architecture : self.architecture with
  | x86 =>
    rw [canonical_x86 wellFormed architecture] at queued
    exact absurd queued unqueued
  | x64 =>
    rw [canonical_x64 wellFormed architecture] at queued
    exact ⟨architecture, unqueued, queued⟩

theorem Aliased.resolve (aliased : self.Aliased token) (wellFormed : self.WellFormed)
    (represents : self.Represents pending) :
    ∃ packet, self.handles.resolve token = .ok packet := by
  obtain ⟨packet, live⟩ := (represents.queued_iff _).mp aliased.queued
  refine ⟨packet, ?_⟩
  rw [resolve_eq_ok_iff_live wellFormed.bounded, canonical_x64 wellFormed aliased.x64]
  exact live

theorem step_inAgreement_iff (operation : Operation) (wellFormed : self.WellFormed)
    (agreement : self.InAgreement) :
    (self.step operation).InAgreement ↔ self.KeepsSpelling operation := by
  have represents := agreement.represents wellFormed
  constructor
  · intro later token takes aliased
    obtain ⟨packet, resolved⟩ := aliased.resolve wellFormed represents
    exact (takes.ends wellFormed resolved).disagrees wellFormed represents
      resolved aliased.unqueued later
  intro keeps
  have wellFormedNext := step_wellFormed self operation wellFormed
  rcases step_cases wellFormed represents operation with
    step | ⟨token, packet, resolved, takes, ends⟩
  · exact step.inAgreement wellFormedNext
  · have queued : token ∈ self.queue.tokens := by
      by_contra unqueued
      exact keeps token takes (aliased_of_resolve wellFormed represents resolved unqueued)
    exact (ends.represents wellFormed represents queued).inAgreement wellFormedNext

end Representation

/-! ## Every run -/

/-- Queue and handle table agree, and no read of the whole queue fails. -/
structure Consistent (context : VirtualRawInputContext) : Prop where
  agreement : context.InAgreement
  readable :
    ∀ output sizeQuery,
      let answer := (context.readBuffer context.architecture.rawInputHeaderBytes output sizeQuery).1
      answer.result ≠ .malformedPacket ∧ answer.result ≠ .internalFailure

theorem InAgreement.consistent {self : VirtualRawInputContext} (agreement : self.InAgreement)
    (wellFormed : self.WellFormed) : self.Consistent := by
  refine ⟨agreement, fun output sizeQuery => ?_⟩
  have outcome := readBuffer_outcome wellFormed (agreement.represents wellFormed)
    self.architecture.rawInputHeaderBytes output sizeQuery
  generalize self.readBuffer self.architecture.rawInputHeaderBytes output
    sizeQuery = answered at outcome ⊢
  cases outcome with
  | kept _ sound => exact sound
  | drained => exact ⟨by nofun, by nofun⟩

theorem create_wellFormed (architecture : RawArchitecture) (contextDiscriminator : UInt16) :
    (create architecture contextDiscriminator).WellFormed where
  architecture := rfl
  bounded := create_bounded architecture contextDiscriminator
  stocked := nofun
  valid := by
    rintro token packet ⟨index, isActive, _, _⟩
    cases isActive
  measured := ⟨rfl, nofun, (Nat.zero_mul _).symm⟩

theorem create_inAgreement (architecture : RawArchitecture) (contextDiscriminator : UInt16) :
    (create architecture contextDiscriminator).InAgreement where
  distinct := nodup_nil
  exactly := by
    intro token
    refine iff_of_false nofun ?_
    rintro ⟨index, isActive, _⟩
    rcases isActive with isActive | isActive
    · cases isActive
    · cases isActive
  counted := rfl

/-- Queue and handle table agree throughout a run exactly when no call of
the run takes a packet away through another spelling of its token. -/
theorem consistent_iff_keepsSpelling
    (architecture : RawArchitecture) (contextDiscriminator : UInt16)
    (operations : List Operation) :
    Throughout step Consistent (create architecture contextDiscriminator) operations ↔
      Along step KeepsSpelling (create architecture contextDiscriminator) operations := by
  refine throughout_iff_along step_wellFormed ?_ operations
    (create_wellFormed architecture contextDiscriminator)
    ((create_inAgreement architecture contextDiscriminator).consistent
      (create_wellFormed architecture contextDiscriminator))
  intro self operation wellFormed consistent
  rw [← step_inAgreement_iff operation wellFormed consistent.agreement]
  exact ⟨fun later => later.agreement,
    fun agreement => agreement.consistent (step_wellFormed self operation wellFormed)⟩

section Spelling

/-- A keyboard event is queued and read with a bit set that `decode`
drops. -/
def misspelledRead : List Operation :=
  [.configure 1 1,
    .registerDevices
      [{ key := ⟨kRawUsagePageGenericDesktop, kRawUsageKeyboard⟩, targetWindowRuntimeValue := 1
         targetWindowCurrentProcess := true }],
    .enqueueInput 1 { keyTransition := .down, vkey := 65 },
    .readData 0x805d0100010001 kRawRidInput 24 (replicate 48 0) false]

theorem misspelledRead_disagrees :
    ¬ ∀ (architecture : RawArchitecture) (contextDiscriminator : UInt16)
        (operations : List Operation),
      Throughout step Consistent (create architecture contextDiscriminator) operations := by
  intro always
  have last := throughout_end (always .x64 1 misspelledRead)
  have counted := last.agreement.counted
  exact absurd counted (by decide)

end Spelling

end VirtualRawInputContext

end HydraSeat.GateC
