import HydraSeat.Foundation.Bytes

/-!
# Exact codecs

An encoder answers no bytes for a value that it refuses.  A codec is exact
when decoding undoes encoding and every accepted list of bytes is the
encoding of what it decodes to.  Both follow from one law about the reader
of the format: it takes the writings of the accepted values off the front
of a list, and nothing else.
-/

namespace HydraSeat.Foundation

open List

variable {α β : Type}
variable {reader : Reader α} {writes : α → List UInt8} {accepts : α → Prop}

def decodeAll (reader : Reader α) (payload : List UInt8) : Option α :=
  match reader payload with
  | some (value, []) => some value
  | _ => none

/-- A value that may be missing, without a byte read. -/
def fromOption (found : Option α) : Reader α := fun bytes => found.map fun value => (value, bytes)

structure ExactCodec (encode : α → List UInt8) (decode : List UInt8 → Option α) : Prop where
  decode_encode : ∀ value, encode value ≠ [] → decode (encode value) = some value
  encode_decode : ∀ payload value, decode payload = some value → encode value = payload

theorem decodeAll_eq_some_iff (reader : Reader α) (payload : List UInt8) (value : α) :
    decodeAll reader payload = some value ↔ reader payload = some (value, []) := by
  unfold decodeAll
  cases reader payload with
  | none => simp
  | some result =>
    obtain ⟨found, rest⟩ := result
    cases rest with
    | nil | cons byte bytes => simp

/-- A decoder accepts each valid value in one spelling and nothing else. -/
def Spells (decode : List UInt8 → Except String α) (valid : α → Prop)
    (writes : α → List UInt8) : Prop :=
  ∀ bytes value, decode bytes = .ok value ↔ valid value ∧ bytes = writes value

/-- The valid values are those that the decoder gives. -/
structure RoundTrip (valid : α → Prop) (encode : α → List UInt8)
    (decode : List UInt8 → Except String α) : Prop where
  decode_valid : ∀ bytes value, decode bytes = .ok value → valid value
  decode_encode : ∀ value, valid value → decode (encode value) = .ok value
  encode_decode : ∀ bytes value, decode bytes = .ok value → encode value = bytes

theorem Spells.roundTrip {decode : List UInt8 → Except String α} {valid : α → Prop}
    {encode : α → List UInt8} (spells : Spells decode valid encode) :
    RoundTrip valid encode decode where
  decode_valid := by
    intro bytes value decoded
    exact ((spells bytes value).mp decoded).1
  decode_encode := by
    intro value accepted
    exact (spells (encode value) value).mpr ⟨accepted, rfl⟩
  encode_decode := by
    intro bytes value decoded
    exact ((spells bytes value).mp decoded).2.symm

theorem except_check_eq_ok_iff (refused : Prop) [Decidable refused] (text : String)
    (next : Except String α) (value : α) :
    (if refused then .error text else next) = .ok value ↔ ¬ refused ∧ next = .ok value := by
  by_cases bad : refused
  · simp [bad]
  · simp [bad]

def ReadsOnly (reader : Reader α) (accepts : α → Prop) (writes : α → List UInt8) : Prop :=
  ∀ bytes value rest,
    reader bytes = some (value, rest) ↔ accepts value ∧ bytes = writes value ++ rest

theorem Reads.readsOnly (reads : Reads reader writes) :
    ReadsOnly reader (fun _ => True) writes := by
  intro bytes value rest
  rw [reads bytes value rest, true_and]

theorem ReadsOnly.bind_eq_some_iff (reads : ReadsOnly reader accepts writes) (next : α → Reader β)
    (bytes : List UInt8) (value : β) (rest : List UInt8) :
    (reader >>= next) bytes = some (value, rest) ↔
      ∃ found middle, (accepts found ∧ bytes = writes found ++ middle) ∧
        next found middle = some (value, rest) := by
  simp only [reader_bind_eq_some_iff, reads _ _ _]

theorem ReadsOnly.decodeAll_eq_some_iff (reads : ReadsOnly reader accepts writes)
    (payload : List UInt8) (value : α) :
    decodeAll reader payload = some value ↔ accepts value ∧ payload = writes value := by
  rw [Foundation.decodeAll_eq_some_iff, reads, append_nil]

theorem fromOption_eq_some_iff (found : Option α) (bytes : List UInt8) (value : α)
    (rest : List UInt8) :
    fromOption found bytes = some (value, rest) ↔ found = some value ∧ bytes = rest := by
  unfold fromOption
  cases found with
  | none | some stored => simp

theorem reader_check_eq_some_iff {γ : Type}
    (refused : Prop) [Decidable refused] (after : γ → Reader α)
    (next : Reader α) (bytes : List UInt8) (value : α)
    (rest : List UInt8) :
    (if refused then (failure : Reader γ) >>= after else next) bytes = some (value, rest) ↔
      ¬ refused ∧ next bytes = some (value, rest) := by
  by_cases bad : refused
  · rw [if_pos bad]
    constructor
    · intro read
      cases read
    · intro good
      exact absurd bad good.1
  · rw [if_neg bad]
    simp [bad]

/-! A reader takes field after field, and its law is put together in the same
order: a field with a law, in front of a rest with a law. -/

namespace ReadsOnly

variable {takes : β → Prop} {spelling : β → List UInt8} {front : Reader β} {next : β → Reader α}
  {part : α → β}

theorem field (first : ReadsOnly front takes spelling)
    (implied : ∀ value, accepts value → takes (part value))
    (later :
      ∀ found, takes found →
        ReadsOnly (next found) (fun value => part value = found ∧ accepts value) writes) :
    ReadsOnly (front >>= next) accepts (fun value => spelling (part value) ++ writes value) := by
  intro bytes value rest
  rw [first.bind_eq_some_iff]
  constructor
  · rintro ⟨found, middle, ⟨took, rfl⟩, continued⟩
    obtain ⟨⟨rfl, accepted⟩, rfl⟩ := (later found took middle value rest).mp continued
    exact ⟨accepted, (append_assoc _ _ _).symm⟩
  · rintro ⟨accepted, rfl⟩
    have took := implied value accepted
    exact ⟨part value, writes value ++ rest, ⟨took, append_assoc _ _ _⟩,
      (later _ took _ _ _).mpr ⟨⟨rfl, accepted⟩, rfl⟩⟩

theorem any (first : Reads front spelling)
    (later :
      ∀ found, ReadsOnly (next found) (fun value => part value = found ∧ accepts value) writes) :
    ReadsOnly (front >>= next) accepts (fun value => spelling (part value) ++ writes value) :=
  field first.readsOnly (fun _ _ => trivial) fun found _ => later found

theorem checked {γ : Type} {refused : Prop} [Decidable refused] {after : γ → Reader α}
    (kept : ∀ value, accepts value → ¬ refused)
    (later : ¬ refused → ReadsOnly reader accepts writes) :
    ReadsOnly (if refused then (failure : Reader γ) >>= after else reader) accepts writes := by
  intro bytes value rest
  rw [reader_check_eq_some_iff]
  constructor
  · rintro ⟨passed, read⟩
    exact (later passed _ _ _).mp read
  · intro spelled
    have passed := kept value spelled.1
    exact ⟨passed, (later passed _ _ _).mpr spelled⟩

/-- A value that the bytes before it name. -/
theorem named {found : Option β} (part : α → β)
    (names : ∀ value, accepts value → found = some (part value))
    (later :
      ∀ value, found = some value →
        ReadsOnly (next value) (fun whole => part whole = value ∧ accepts whole) writes) :
    ReadsOnly (fromOption found >>= next) accepts writes := by
  intro bytes value rest
  simp only [reader_bind_eq_some_iff, fromOption_eq_some_iff]
  constructor
  · rintro ⟨named, _, ⟨isNamed, rfl⟩, read⟩
    obtain ⟨⟨_, accepted⟩, spelled⟩ := (later named isNamed _ _ _).mp read
    exact ⟨accepted, spelled⟩
  · rintro ⟨accepted, spelled⟩
    have isNamed := names value accepted
    exact ⟨part value, bytes, ⟨isNamed, rfl⟩,
      (later _ isNamed _ _ _).mpr ⟨⟨rfl, accepted⟩, spelled⟩⟩

theorem built {record : α} (made : ∀ value, record = value ↔ accepts value) :
    ReadsOnly (pure record) accepts (fun _ => []) := by
  intro bytes value rest
  rw [reader_pure_eq_some_iff, made value, nil_append]

theorem lastField (first : ReadsOnly front takes spelling)
    (implied : ∀ value, accepts value → takes (part value))
    (ends :
      ∀ found, takes found →
        ReadsOnly (next found) (fun value => part value = found ∧ accepts value) (fun _ => [])) :
    ReadsOnly (front >>= next) accepts (fun value => spelling (part value)) := by
  simpa only [append_nil] using field first implied ends

theorem last (first : Reads front spelling)
    (ends :
      ∀ found,
        ReadsOnly (next found) (fun value => part value = found ∧ accepts value) (fun _ => [])) :
    ReadsOnly (front >>= next) accepts (fun value => spelling (part value)) :=
  lastField first.readsOnly (fun _ _ => trivial) fun found _ => ends found

theorem reads (only : ReadsOnly reader (fun _ => True) writes) : Reads reader writes := by
  intro bytes value rest
  rw [only bytes value rest, true_and]

end ReadsOnly

theorem readBytes_readsOnly (count : Nat) :
    ReadsOnly (readBytes count) (fun value => value.length = count) id :=
  readBytes_eq_some_iff count

theorem readMany_readsOnly (reads : ReadsOnly reader accepts writes) (count : Nat)
    (bytes : List UInt8) (values : List α) (rest : List UInt8) :
    readMany reader count bytes = some (values, rest) ↔
      (values.length = count ∧ ∀ value ∈ values, accepts value) ∧
        bytes = writeMany writes values ++ rest := by
  induction count generalizing bytes values rest with
  | zero =>
    rw [readMany, reader_pure_eq_some_iff, length_eq_zero_iff]
    constructor
    · rintro ⟨empty, same⟩
      refine ⟨⟨empty.symm, ?_⟩, ?_⟩
      · intro value member
        rw [← empty] at member
        cases member
      · rw [← empty, same]
        rfl
    · rintro ⟨⟨empty, _⟩, same⟩
      rw [empty] at same
      exact ⟨empty.symm, same⟩
  | succ count ih =>
    rw [readMany]
    simp only [reads.bind_eq_some_iff, reader_bind_eq_some_iff, ih, reader_pure_eq_some_iff]
    constructor
    · rintro ⟨value, middle, ⟨accepted, split⟩, tail, after,
        ⟨⟨length, acceptedTail⟩, splitTail⟩, joined, same⟩
      rw [← joined, split, splitTail, same, length_cons, length]
      refine ⟨⟨rfl, ?_⟩, ?_⟩
      · intro tested member
        cases mem_cons.mp member with
        | inl head =>
          rw [head]
          exact accepted
        | inr inTail => exact acceptedTail tested inTail
      · simp [writeMany]
    · rintro ⟨⟨length, accepted⟩, split⟩
      cases values with
      | nil => cases length
      | cons value tail =>
        refine ⟨value, writeMany writes tail ++ rest,
          ⟨accepted value mem_cons_self, ?_⟩, tail, rest,
          ⟨⟨Nat.succ.inj length, ?_⟩, rfl⟩, rfl, rfl⟩
        · rw [split]
          simp [writeMany]
        · intro tested member
          exact accepted tested (mem_cons_of_mem value member)

section Exactness

variable {reader : Reader α} {accepts : α → Prop}
  {writes : α → List UInt8} {encode : α → List UInt8}
  {decode : List UInt8 → Option α}

theorem ReadsOnly.exactCodec (reads : ReadsOnly reader accepts writes) (fits : Nat → Prop)
    (written : ∀ value, accepts value → fits (writes value).length → encode value = writes value)
    (refused : ∀ value, ¬ (accepts value ∧ fits (writes value).length) → encode value = [])
    (decodes :
      ∀ payload value,
        decode payload = some value ↔ fits payload.length ∧ decodeAll reader payload = some value) :
    ExactCodec encode decode where
  decode_encode := by
    intro value encoded
    have accepted : accepts value ∧ fits (writes value).length := by
      by_contra bad
      exact encoded (refused value bad)
    rw [decodes, written value accepted.1 accepted.2]
    refine ⟨accepted.2, ?_⟩
    exact (reads.decodeAll_eq_some_iff _ _).mpr ⟨accepted.1, rfl⟩
  encode_decode := by
    intro payload value decoded
    obtain ⟨fitting, read⟩ := (decodes payload value).mp decoded
    obtain ⟨accepted, same⟩ := (reads.decodeAll_eq_some_iff _ _).mp read
    rw [same] at fitting ⊢
    exact written value accepted fitting

theorem decodes_of_if {refuses : Prop} [Decidable refuses] {payload : List UInt8} {value : α}
    (decode_eq : decode payload = if refuses then none else decodeAll reader payload) :
    decode payload = some value ↔ ¬ refuses ∧ decodeAll reader payload = some value := by
  rw [decode_eq]
  by_cases bad : refuses
  · simp [bad]
  · simp [bad]

end Exactness

end HydraSeat.Foundation
