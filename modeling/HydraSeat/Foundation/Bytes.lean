import HydraSeat.Foundation.Fallible
import Mathlib.Data.Nat.Bitwise
import Mathlib.Data.Vector.Basic

/-!
# Fixed-width little-endian fields

A writer appends the bytes of a field to a list and a reader takes them off
its front or fails.  Every reader here comes with one law, `_eq_some_iff`:
it succeeds with a value exactly on the lists that start with the bytes the
writer gives for that value.  Both directions of a round trip through a
record follow from the laws of its fields.
-/

namespace HydraSeat.Foundation

/-- The lowest `width` bytes of a number, least significant first. -/
def littleEndian : Nat → Nat → List UInt8
  | 0, _ => []
  | width + 1, number => UInt8.ofNat number :: littleEndian width (number >>> 8)

def spelled : List UInt8 → Nat
  | [] => 0
  | byte :: bytes => byte.toNat ||| (spelled bytes <<< 8)

@[simp]
theorem littleEndian_length (width number : Nat) : (littleEndian width number).length = width := by
  induction width generalizing number with
  | zero => rfl
  | succ width ih => simp [littleEndian, ih]

theorem spelled_cons (byte : UInt8) (bytes : List UInt8) :
    spelled (byte :: bytes) = byte.toNat + 256 * spelled bytes := by
  have small : byte.toNat < 2 ^ 8 := byte.toNat_lt
  rw [spelled, Nat.or_comm, ← Nat.shiftLeft_add_eq_or_of_lt small, Nat.shiftLeft_eq]
  omega

theorem spelled_lt (bytes : List UInt8) : spelled bytes < 256 ^ bytes.length := by
  induction bytes with
  | nil => exact Nat.one_pos
  | cons byte bytes ih =>
    have small : byte.toNat < 256 := byte.toNat_lt
    rw [spelled_cons, List.length_cons, Nat.pow_succ]
    omega

theorem spelled_littleEndian {width number : Nat} (fits : number < 256 ^ width) :
    spelled (littleEndian width number) = number := by
  induction width generalizing number with
  | zero =>
    simp only [Nat.pow_zero, Nat.lt_one_iff] at fits
    rw [fits]
    rfl
  | succ width ih =>
    have quotient : number >>> 8 = number / 256 := Nat.shiftRight_eq_div_pow number 8
    have tailFits : number >>> 8 < 256 ^ width := by
      rw [Nat.pow_succ] at fits
      rw [quotient]
      exact Nat.div_lt_of_lt_mul (by omega)
    have head : (UInt8.ofNat number).toNat = number % 256 := UInt8.toNat_ofNat'
    rw [littleEndian, spelled_cons, ih tailFits, head, quotient]
    omega

theorem littleEndian_spelled (bytes : List UInt8) :
    littleEndian bytes.length (spelled bytes) = bytes := by
  induction bytes with
  | nil => rfl
  | cons byte bytes ih =>
    have small : byte.toNat < 256 := byte.toNat_lt
    have tail : spelled (byte :: bytes) >>> 8 = spelled bytes := by
      rw [Nat.shiftRight_eq_div_pow, spelled_cons]
      omega
    have head : UInt8.ofNat (spelled (byte :: bytes)) = byte := by
      apply UInt8.toNat_inj.mp
      rw [spelled_cons]
      simp
    rw [List.length_cons, littleEndian, tail, head, ih]

/-- A reader takes a value off the front of a list of bytes. -/
abbrev Reader := StateT (List UInt8) Option

variable {α β : Type}

theorem except_bind_eq_ok {first : Except String α} {next : α → Except String β} {value : β}
    (succeeded : (first >>= next) = .ok value) :
    ∃ middle, first = .ok middle ∧ next middle = .ok value := by
  cases first with
  | error text => cases succeeded
  | ok middle => exact ⟨middle, rfl, succeeded⟩

theorem reader_bind_eq_some_iff (first : Reader α) (next : α → Reader β)
    (bytes : List UInt8) (value : β) (rest : List UInt8) :
    (first >>= next) bytes = some (value, rest) ↔
      ∃ found middle, first bytes = some (found, middle) ∧
        next found middle = some (value, rest) := by
  change (first bytes).bind (fun pair => next pair.1 pair.2) = _ ↔ _
  rw [Option.bind_eq_some_iff]
  constructor
  · rintro ⟨⟨found, middle⟩, read, continued⟩
    exact ⟨found, middle, read, continued⟩
  · rintro ⟨found, middle, read, continued⟩
    exact ⟨(found, middle), read, continued⟩

@[simp]
theorem reader_pure_eq_some_iff (returned : α) (bytes : List UInt8) (value : α)
    (rest : List UInt8) :
    (pure returned : Reader α) bytes = some (value, rest) ↔ returned = value ∧ bytes = rest := by
  change some (returned, bytes) = some (value, rest) ↔ _
  simp

/-- `writes` is the law of a reader. -/
def Reads (reader : Reader α) (writes : α → List UInt8) : Prop :=
  ∀ bytes value rest, reader bytes = some (value, rest) ↔ bytes = writes value ++ rest

variable {reader : Reader α} {writes : α → List UInt8}

theorem Reads.read_write
    (reads : Reads reader writes) (value : α) (rest : List UInt8) :
    reader (writes value ++ rest) = some (value, rest) :=
  (reads _ _ _).mpr rfl

theorem Reads.read_write_nil
    (reads : Reads reader writes) (value : α) :
    reader (writes value) = some (value, []) := by
  simpa using reads.read_write value []

theorem Reads.bind_eq_some_iff
    (reads : Reads reader writes) (next : α → Reader β)
    (bytes : List UInt8) (value : β) (rest : List UInt8) :
    (reader >>= next) bytes = some (value, rest) ↔
      ∃ found middle, bytes = writes found ++ middle ∧
        next found middle = some (value, rest) := by
  simp only [reader_bind_eq_some_iff, reads _ _ _]

def readBytes (count : Nat) : Reader (List UInt8) := fun bytes =>
  if count ≤ bytes.length then some (bytes.take count, bytes.drop count)
  else none

theorem readBytes_eq_some_iff (count : Nat) (bytes value rest : List UInt8) :
    readBytes count bytes = some (value, rest) ↔ value.length = count ∧ bytes = value ++ rest := by
  unfold readBytes
  constructor
  · intro read
    split at read
    next enough =>
      simp only [Option.some.injEq, Prod.mk.injEq] at read
      obtain ⟨rfl, rfl⟩ := read
      exact ⟨List.length_take_of_le enough, (List.take_append_drop count bytes).symm⟩
    · cases read
  · rintro ⟨rfl, rfl⟩
    simp

/-- A number of `width` bytes, converted by `convert`. -/
def readNumber (width : Nat) (convert : Nat → α) : Reader α := do
  let bytes ← readBytes width
  return convert (spelled bytes)

theorem readNumber_reads {width : Nat} {convert : Nat → α} {toNat : α → Nat}
    (bounded : ∀ value, toNat value < 256 ^ width)
    (left : ∀ value, convert (toNat value) = value)
    (right : ∀ number, number < 256 ^ width → toNat (convert number) = number) :
    Reads (readNumber width convert) fun value => littleEndian width (toNat value) := by
  intro bytes value rest
  unfold readNumber
  simp only [reader_bind_eq_some_iff, readBytes_eq_some_iff, reader_pure_eq_some_iff]
  constructor
  · rintro ⟨field, middle, ⟨length, rfl⟩, rfl, rfl⟩
    have fits : spelled field < 256 ^ width := by
      rw [← length]
      exact spelled_lt field
    rw [right _ fits, ← length, littleEndian_spelled]
  · rintro rfl
    refine ⟨littleEndian width (toNat value), rest, ⟨littleEndian_length width _, rfl⟩, ?_, rfl⟩
    rw [spelled_littleEndian (bounded value), left]

def writeU8 (value : UInt8) : List UInt8 := littleEndian 1 value.toNat

def writeU16 (value : UInt16) : List UInt8 := littleEndian 2 value.toNat

def writeU32 (value : UInt32) : List UInt8 := littleEndian 4 value.toNat

def writeU64 (value : UInt64) : List UInt8 := littleEndian 8 value.toNat

def readU8 : Reader UInt8 := readNumber 1 UInt8.ofNat

def readU16 : Reader UInt16 := readNumber 2 UInt16.ofNat

def readU32 : Reader UInt32 := readNumber 4 UInt32.ofNat

def readU64 : Reader UInt64 := readNumber 8 UInt64.ofNat

theorem readU8_reads : Reads readU8 writeU8 :=
  readNumber_reads (fun value => value.toNat_lt) (fun value => by simp)
    (fun _ fits => UInt8.toNat_ofNat_of_lt' fits)

theorem readU16_reads : Reads readU16 writeU16 :=
  readNumber_reads (fun value => value.toNat_lt) (fun value => by simp)
    (fun _ fits => UInt16.toNat_ofNat_of_lt' fits)

theorem readU32_reads : Reads readU32 writeU32 :=
  readNumber_reads (fun value => value.toNat_lt) (fun value => by simp)
    (fun _ fits => UInt32.toNat_ofNat_of_lt' fits)

theorem readU64_reads : Reads readU64 writeU64 :=
  readNumber_reads (fun value => value.toNat_lt) (fun value => by simp)
    (fun _ fits => UInt64.toNat_ofNat_of_lt' fits)

@[simp]
theorem writeU8_length (value : UInt8) : (writeU8 value).length = 1 := littleEndian_length _ _

@[simp]
theorem writeU16_length (value : UInt16) : (writeU16 value).length = 2 := littleEndian_length _ _

@[simp]
theorem writeU32_length (value : UInt32) : (writeU32 value).length = 4 := littleEndian_length _ _

@[simp]
theorem writeU64_length (value : UInt64) : (writeU64 value).length = 8 := littleEndian_length _ _

def writeArray {count : Nat} (value : Vector UInt8 count) : List UInt8 := value.toList

def readArray (count : Nat) : Reader (Vector UInt8 count) := fun bytes =>
  if enough : count ≤ bytes.length then
    some (⟨(bytes.take count).toArray, by simp [enough]⟩, bytes.drop count)
  else none

@[simp]
theorem writeArray_length {count : Nat} (value : Vector UInt8 count) :
    (writeArray value).length = count := by
  simp [writeArray]

theorem readArray_reads (count : Nat) : Reads (readArray count) writeArray := by
  intro bytes value rest
  unfold readArray
  constructor
  · intro read
    split at read
    · simp only [Option.some.injEq, Prod.mk.injEq] at read
      obtain ⟨rfl, rfl⟩ := read
      exact (List.take_append_drop count bytes).symm
    · cases read
  · rintro rfl
    have enough : count ≤ (writeArray value ++ rest).length := by
      simp
    rw [dif_pos enough]
    have front : (writeArray value ++ rest).take count = value.toList := by
      rw [List.take_left' (writeArray_length value)]
      rfl
    have back : (writeArray value ++ rest).drop count = rest :=
      List.drop_left' (writeArray_length value)
    simp only [back, Option.some.injEq, Prod.mk.injEq, and_true]
    apply Vector.toList_inj.mp
    simpa using front

/-- Read `count` values one after the other. -/
def readMany (reader : Reader α) : Nat → Reader (List α)
  | 0 => pure []
  | count + 1 => do
      let value ← reader
      let values ← readMany reader count
      return value :: values

def writeMany (writes : α → List UInt8) (values : List α) : List UInt8 := values.flatMap writes

theorem writeMany_cons (writes : α → List UInt8) (value : α) (values : List α) :
    writeMany writes (value :: values) = writes value ++ writeMany writes values :=
  List.flatMap_cons

theorem writeMany_length {width : Nat}
    (each : ∀ value, (writes value).length = width)
    (values : List α) :
    (writeMany writes values).length = values.length * width := by
  induction values with
  | nil => simp [writeMany]
  | cons value values ih =>
    rw [writeMany_cons, List.length_append, each, ih, List.length_cons, Nat.succ_mul, Nat.add_comm]

theorem readMany_eq_some_iff
    (reads : Reads reader writes) (count : Nat)
    (bytes : List UInt8) (values : List α) (rest : List UInt8) :
    readMany reader count bytes = some (values, rest) ↔
      values.length = count ∧ bytes = writeMany writes values ++ rest := by
  induction count generalizing bytes values rest with
  | zero =>
    rw [readMany, reader_pure_eq_some_iff, List.length_eq_zero_iff]
    constructor
    · rintro ⟨rfl, rfl⟩
      exact ⟨rfl, rfl⟩
    · rintro ⟨rfl, rfl⟩
      exact ⟨rfl, rfl⟩
  | succ count ih =>
    rw [readMany]
    simp only [reads.bind_eq_some_iff, reader_bind_eq_some_iff, ih, reader_pure_eq_some_iff]
    constructor
    · rintro ⟨value, middle, rfl, tail, after, ⟨rfl, rfl⟩, rfl, rfl⟩
      exact ⟨rfl, by simp [writeMany]⟩
    rintro ⟨length, rfl⟩
    cases values with
    | nil => cases length
    | cons value tail =>
      refine ⟨value, writeMany writes tail ++ rest, ?_, tail, rest,
        ⟨Nat.succ.inj length, rfl⟩, rfl, rfl⟩
      simp [writeMany]

end HydraSeat.Foundation
