import HydraSeat.UnicodeLaws

/-!
# Written text is read back

The other direction of the conversions: the bytes of a scalar value are one
sequence with that value, and the units of a well formed wide string are those
of its code points.
-/

namespace HydraSeat

open List

section Sequences

variable {lead : UInt8} {start : UInt32} {continuation : ByteString}

theorem leadByte?_found (usable : lead.toNat < 0x80 ∨ 0xC2 ≤ lead.toNat ∧ lead.toNat ≤ 0xF4) :
    ∃ shape, leadByte? lead = some shape := by
  unfold leadByte?
  simp only [UInt8.le_iff_toNat_le]
  change ∃ shape,
    (if lead.toNat ≤ 127 then _
      else if 194 ≤ lead.toNat ∧ lead.toNat ≤ 223 then _
      else if 224 ≤ lead.toNat ∧ lead.toNat ≤ 239 then _
      else if 240 ≤ lead.toNat ∧ lead.toNat ≤ 244 then _
      else none) = some shape
  split
  · exact ⟨_, rfl⟩
  split
  · exact ⟨_, rfl⟩
  split
  · exact ⟨_, rfl⟩
  · split
    · exact ⟨_, rfl⟩
    · omega

theorem sequence?_pushed (found : leadByte? lead = some (continuation.length, start))
    (follow : ∀ byte ∈ continuation, Continuation byte)
    (good : badCodePoint continuation.length (continuation.foldl pushByte start) = false)
    (rest : ByteString) :
    sequence? lead (continuation ++ rest) = some (continuation.foldl pushByte start, rest) := by
  have unbroken : (continuation.any fun byte => byte &&& 0xC0 != 0x80) = false := by
    rw [any_eq_false]
    intro byte member
    rw [bne_iff_ne, not_not]
    exact (continuationByte_iff byte).mpr (follow byte member)
  unfold sequence?
  rw [found]
  dsimp only
  rw [take_left, drop_left, if_neg (Nat.lt_irrefl _), unbroken, if_neg Bool.false_ne_true]
  change
    (if badCodePoint continuation.length (continuation.foldl pushByte start) = true then none
    else some (continuation.foldl pushByte start, rest)) = _
  rw [good, if_neg Bool.false_ne_true]

theorem sequence?_read {codePoint : UInt32} (scalar : Scalar codePoint)
    (usable : lead.toNat < 0x80 ∨ 0xC2 ≤ lead.toNat ∧ lead.toNat ≤ 0xF4)
    (follow : ∀ byte ∈ continuation, Continuation byte)
    (value :
      ∀ count start, leadByte? lead = some (count, start) →
        count = continuation.length ∧ (continuation.foldl pushByte start).toNat = codePoint.toNat)
    (least :
      (continuation.length = 1 → 0x80 ≤ codePoint.toNat) ∧
        (continuation.length = 2 → 0x800 ≤ codePoint.toNat) ∧
        (continuation.length = 3 → 0x10000 ≤ codePoint.toNat))
    (rest : ByteString) :
    sequence? lead (continuation ++ rest) = some (codePoint, rest) := by
  obtain ⟨⟨count, start⟩, found⟩ := leadByte?_found usable
  obtain ⟨rfl, pushed⟩ := value count start found
  rw [UInt32.toNat_inj] at pushed
  have good : badCodePoint continuation.length (continuation.foldl pushByte start) = false := by
    rw [pushed]
    exact badCodePoint_eq_false_iff.mpr ⟨scalar, least⟩
  rw [sequence?_pushed found follow good rest, pushed]

end Sequences

section Bytes

theorem byte_toNat {value : Nat} (small : value < 256) : (UInt8.ofNat value).toNat = value := by
  rw [UInt8.toNat_ofNat']
  exact Nat.mod_eq_of_lt small

def continuationOf (value : Nat) : UInt8 := UInt8.ofNat (0x80 + value % 64)

theorem continuationOf_toNat (value : Nat) : (continuationOf value).toNat = 0x80 + value % 64 :=
  byte_toNat (by omega)

theorem continuation_continuationOf {value : Nat} : Continuation (continuationOf value) := by
  unfold Continuation
  rw [continuationOf_toNat]
  omega

theorem pushByte_continuationOf {value : Nat} {start : UInt32} (upper : start.toNat = value / 64)
    (small : value < 2 ^ 26) : (pushByte start (continuationOf value)).toNat = value := by
  have fits : start.toNat < 2 ^ 20 := by
    rw [upper]
    omega
  rw [pushByte_toNat _ fits, continuationOf_toNat, upper]
  omega

def ReadsBack (codePoint : UInt32) : Prop :=
  ∃ lead continuation,
    utf8Bytes codePoint = lead :: continuation ∧
      ∀ rest, sequence? lead (continuation ++ rest) = some (codePoint, rest)

variable {codePoint : UInt32}

section

variable (scalar : Scalar codePoint)
include scalar

theorem readsBack_one (high : codePoint.toNat < 0x80) : ReadsBack codePoint := by
  have lead := byte_toNat (show codePoint.toNat < 256 by omega)
  refine ⟨UInt8.ofNat codePoint.toNat, [], ?_, ?_⟩
  · exact utf8Bytes_one (by omega) lead.symm
  refine sequence?_read scalar (by omega) (by simp) ?_ (by simp)
  intro count start found
  have shape := leadByte?_cases found
  refine ⟨?_, ?_⟩
  · rw [length_nil]
    omega
  · rw [foldl_nil]
    omega

theorem readsBack_two (low : 0x80 ≤ codePoint.toNat) (high : codePoint.toNat < 0x800) :
    ReadsBack codePoint := by
  have second := continuationOf_toNat codePoint.toNat
  have lead := byte_toNat (show 0xC0 + codePoint.toNat / 64 < 256 by omega)
  refine ⟨UInt8.ofNat (0xC0 + codePoint.toNat / 64), [continuationOf codePoint.toNat], ?_, ?_⟩
  · exact utf8Bytes_two (by omega) (by omega) continuation_continuationOf (by omega)
  refine sequence?_read scalar (by omega) ?_ ?_ ⟨fun _ => low, by simp, by simp⟩
  · intro byte member
    rw [mem_singleton.mp member]
    exact continuation_continuationOf
  intro count start found
  have shape : count = 1 ∧ start.toNat = codePoint.toNat / 64 := by
    have cases := leadByte?_cases found
    omega
  exact ⟨shape.1, pushByte_continuationOf shape.2 (by omega)⟩

theorem readsBack_three (low : 0x800 ≤ codePoint.toNat) (high : codePoint.toNat < 0x10000) :
    ReadsBack codePoint := by
  have second := continuationOf_toNat (codePoint.toNat / 64)
  have third := continuationOf_toNat codePoint.toNat
  have lead := byte_toNat (show 0xE0 + codePoint.toNat / 4096 < 256 by omega)
  refine ⟨UInt8.ofNat (0xE0 + codePoint.toNat / 4096),
    [continuationOf (codePoint.toNat / 64), continuationOf codePoint.toNat],
    ?_, ?_⟩
  · exact utf8Bytes_three (by omega) (by omega)
      continuation_continuationOf continuation_continuationOf low
      (by omega)
  · refine sequence?_read scalar (by omega) ?_ ?_ ⟨by simp, fun _ => low, by simp⟩
    · simp only [mem_cons, not_mem_nil, or_false]
      rintro byte (rfl | rfl)
      · exact continuation_continuationOf
      · exact continuation_continuationOf
    intro count start found
    have shape : count = 2 ∧ start.toNat = codePoint.toNat / 4096 := by
      have cases := leadByte?_cases found
      omega
    have first :
        (pushByte start (continuationOf (codePoint.toNat / 64))).toNat = codePoint.toNat / 64 :=
      pushByte_continuationOf (by rw [shape.2, Nat.div_div_eq_div_mul]) (by omega)
    exact ⟨shape.1, pushByte_continuationOf first (by omega)⟩

theorem readsBack_four (low : 0x10000 ≤ codePoint.toNat) : ReadsBack codePoint := by
  have high : codePoint.toNat ≤ 0x10FFFF := by
    unfold Scalar at scalar
    omega
  have second := continuationOf_toNat (codePoint.toNat / 4096)
  have third := continuationOf_toNat (codePoint.toNat / 64)
  have fourth := continuationOf_toNat codePoint.toNat
  have lead := byte_toNat (show 0xF0 + codePoint.toNat / 262144 < 256 by omega)
  refine ⟨UInt8.ofNat (0xF0 + codePoint.toNat / 262144),
    [continuationOf (codePoint.toNat / 4096), continuationOf (codePoint.toNat / 64),
      continuationOf codePoint.toNat],
    ?_, ?_⟩
  · exact utf8Bytes_four (by omega) (by omega)
      continuation_continuationOf continuation_continuationOf
      continuation_continuationOf low (by omega)
  · refine sequence?_read scalar (by omega) ?_ ?_ ⟨by simp, by simp, fun _ => low⟩
    · simp only [mem_cons, not_mem_nil, or_false]
      rintro byte (rfl | rfl | rfl)
      · exact continuation_continuationOf
      · exact continuation_continuationOf
      · exact continuation_continuationOf
    · intro count start found
      have shape : count = 3 ∧ start.toNat = codePoint.toNat / 262144 := by
        have cases := leadByte?_cases found
        omega
      have first :
          (pushByte start (continuationOf (codePoint.toNat / 4096))).toNat =
            codePoint.toNat / 4096 :=
        pushByte_continuationOf (by rw [shape.2, Nat.div_div_eq_div_mul]) (by omega)
      have next :
          (pushByte (pushByte start (continuationOf (codePoint.toNat / 4096)))
            (continuationOf (codePoint.toNat / 64))).toNat = codePoint.toNat / 64 :=
        pushByte_continuationOf (by rw [first, Nat.div_div_eq_div_mul]) (by omega)
      exact ⟨shape.1, pushByte_continuationOf next (by omega)⟩

theorem readsBack : ReadsBack codePoint := by
  rcases Nat.lt_or_ge codePoint.toNat 0x80 with one | more
  · exact readsBack_one scalar one
  rcases Nat.lt_or_ge codePoint.toNat 0x800 with two | most
  · exact readsBack_two scalar more two
  · rcases Nat.lt_or_ge codePoint.toNat 0x10000 with three | four
    · exact readsBack_three scalar most three
    · exact readsBack_four scalar four

end

theorem codePoints?_points {points : List UInt32} (scalars : ∀ point ∈ points, Scalar point)
    {fuel : Nat} (enough : (points.flatMap utf8Bytes).length ≤ fuel) :
    codePoints? fuel (points.flatMap utf8Bytes) = some points := by
  induction points generalizing fuel with
  | nil =>
    unfold codePoints?
    rfl
  | cons point points inductionHypothesis =>
    obtain ⟨lead, continuation, written, read⟩ := readsBack (scalars point mem_cons_self)
    rw [flatMap_cons, written, cons_append] at enough ⊢
    rw [length_cons, length_append] at enough
    cases fuel with
    | zero => omega
    | succ fuel =>
      have later := inductionHypothesis
        (fun other member => scalars other (mem_cons_of_mem _ member))
        (show _ ≤ fuel by omega)
      unfold codePoints?
      rw [read]
      dsimp only
      rw [later]
      rfl

end Bytes

theorem utf16Units_basic {unit : UInt16} (basic : ¬(0xD800 ≤ unit ∧ unit ≤ 0xDBFF))
    (notLow : ¬(0xDC00 ≤ unit ∧ unit ≤ 0xDFFF)) :
    Scalar unit.toUInt32 ∧ utf16Units unit.toUInt32 = [unit] := by
  have value : unit.toUInt32.toNat = unit.toNat := UInt16.toNat_toUInt32 unit
  have bounded := unit.toNat_lt
  rw [UInt16.le_iff_toNat_le, UInt16.le_iff_toNat_le] at basic notLow
  change ¬(0xD800 ≤ unit.toNat ∧ unit.toNat ≤ 0xDBFF) at basic
  change ¬(0xDC00 ≤ unit.toNat ∧ unit.toNat ≤ 0xDFFF) at notLow
  constructor
  · unfold Scalar
    omega
  have small : unit.toUInt32 < 0x10000 := by
    rw [UInt32.lt_iff_toNat_lt, value]
    exact bounded
  unfold utf16Units
  rw [if_pos small, UInt16.toUInt16_toUInt32]

/-- The code point of a surrogate pair. -/
def pairCodePoint (high low : UInt16) : UInt32 :=
  (0x10000 : UInt32) + ((high - 0xD800).toUInt32 <<< 10) + (low - 0xDC00).toUInt32

theorem pairCodePoint_toNat {high low : UInt16} (isHigh : 0xD800 ≤ high.toNat ∧ high.toNat ≤ 0xDBFF)
    (isLow : 0xDC00 ≤ low.toNat ∧ low.toNat ≤ 0xDFFF) :
    (pairCodePoint high low).toNat =
      0x10000 + (high.toNat - 0xD800) * 1024 + (low.toNat - 0xDC00) := by
  have upper : (high - 0xD800).toNat = high.toNat - 0xD800 :=
    UInt16.toNat_sub_of_le _ _ (UInt16.le_iff_toNat_le.mpr isHigh.1)
  have lower : (low - 0xDC00).toNat = low.toNat - 0xDC00 :=
    UInt16.toNat_sub_of_le _ _ (UInt16.le_iff_toNat_le.mpr isLow.1)
  unfold pairCodePoint
  simp only [UInt32.toNat_add, UInt32.toNat_shiftLeft,
    UInt16.toNat_toUInt32, Nat.shiftLeft_eq, upper, lower]
  change ((65536 + (high.toNat - 55296) * 2 ^ 10 % 2 ^ 32) % 2 ^ 32 +
    (low.toNat - 56320)) % 2 ^ 32 = _
  omega

theorem utf16Units_pair {high low : UInt16} (isHigh : 0xD800 ≤ high.toNat ∧ high.toNat ≤ 0xDBFF)
    (isLow : 0xDC00 ≤ low.toNat ∧ low.toNat ≤ 0xDFFF) :
    Scalar (pairCodePoint high low) ∧ utf16Units (pairCodePoint high low) = [high, low] := by
  have value := pairCodePoint_toNat isHigh isLow
  constructor
  · unfold Scalar
    omega
  have large : ¬pairCodePoint high low < 0x10000 := by
    rw [UInt32.lt_iff_toNat_lt, value]
    change ¬_ < 65536
    omega
  have offset :
      (pairCodePoint high low - 0x10000).toNat = (pairCodePoint high low).toNat - 0x10000 :=
    UInt32.toNat_sub_of_le _ _ (UInt32.le_iff_toNat_le.mpr (by rw [value]; change 65536 ≤ _; omega))
  unfold utf16Units
  rw [if_neg large]
  generalize pairCodePoint high low - 0x10000 = distance at offset
  have top : (distance >>> 10).toNat = distance.toNat / 1024 :=
    shifted_toNat distance 10 (by decide)
  have bottom : (distance &&& 0x3FF).toNat = distance.toNat % 1024 := by
    rw [UInt32.toNat_and]
    exact Nat.and_two_pow_sub_one_eq_mod distance.toNat 10
  have first : (0xD800 : UInt16) + (distance >>> 10).toUInt16 = high := by
    rw [← UInt16.toNat_inj, UInt16.toNat_add, UInt32.toNat_toUInt16, top]
    change (55296 + distance.toNat / 1024 % 2 ^ 16) % 2 ^ 16 = _
    omega
  have second : (0xDC00 : UInt16) + (distance &&& 0x3FF).toUInt16 = low := by
    rw [← UInt16.toNat_inj, UInt16.toNat_add, UInt32.toNat_toUInt16, bottom]
    change (56320 + distance.toNat % 1024 % 2 ^ 16) % 2 ^ 16 = _
    omega
  rw [first, second]

end HydraSeat
