import HydraSeat.Foundation.Bits
import HydraSeat.Unicode

/-!
# Text keeps through both encodings

A UTF-8 sequence that is read names one scalar value, and that value is
written with the bytes that were read.  UTF-16 writes every scalar value and
reads it back, so converted text converts back to what it was.
-/

namespace HydraSeat

open Foundation List

variable {value : UInt32}

/-- A code point that UTF-16 can write: no surrogate, and not above the last
one. -/
def Scalar (codePoint : UInt32) : Prop :=
  codePoint.toNat < 0xD800 ∨ 0xDFFF < codePoint.toNat ∧ codePoint.toNat ≤ 0x10FFFF

theorem continuationByte_iff (byte : UInt8) :
    byte &&& 0xC0 = 0x80 ↔ 128 ≤ byte.toNat ∧ byte.toNat < 192 := by
  have all : ∀ value < 256, UInt8.ofNat value &&& 0xC0 = 0x80 ↔ 128 ≤ value ∧ value < 192 := by
    decide +kernel
  have found := all byte.toNat byte.toNat_lt
  rwa [UInt8.ofNat_toNat] at found

theorem low_bits (byte : UInt8) : (byte &&& 0x3F).toUInt32.toNat = byte.toNat % 64 := by
  simp [Nat.and_two_pow_sub_one_eq_mod _ 6]

theorem pushed_toNat (point : UInt32) (byte : UInt8) (small : point.toNat < 2 ^ 20) :
    ((point <<< 6) ||| (byte &&& 0x3F).toUInt32).toNat = point.toNat * 64 + byte.toNat % 64 := by
  have bounded : byte.toNat % 64 < 2 ^ 6 := Nat.mod_lt _ (by decide)
  rw [UInt32.toNat_or, low_bits]
  have shifted : (point <<< 6).toNat = point.toNat * 2 ^ 6 := by
    simp [UInt32.toNat_shiftLeft, Nat.shiftLeft_eq]
    omega
  rw [or_eq_add 6 point.toNat shifted bounded]
  omega

theorem tagged_toNat
    {tag : UInt8} (bits high : Nat) (tagged : tag.toNat = high * 2 ^ bits)
    (small : value.toNat < 2 ^ bits)
    (narrow : value.toNat < 256) :
    (tag ||| value.toUInt8).toNat = tag.toNat + value.toNat := by
  have same : value.toUInt8.toNat = value.toNat := by
    rw [UInt32.toNat_toUInt8]
    exact Nat.mod_eq_of_lt narrow
  rw [UInt8.toNat_or, same]
  exact or_eq_add bits high tagged small

theorem shifted_toNat (point : UInt32) (bits : Nat) (narrow : bits < 32) :
    (point >>> UInt32.ofNat bits).toNat = point.toNat / 2 ^ bits := by
  have same : (UInt32.ofNat bits).toNat % 32 = bits := by
    simp
    omega
  rw [UInt32.toNat_shiftRight, same, Nat.shiftRight_eq_div_pow]

theorem continuation_toNat (point : UInt32) :
    ((0x80 : UInt8) ||| (point &&& 0x3F).toUInt8).toNat = 128 + point.toNat % 64 := by
  have low : (point &&& 0x3F).toNat = point.toNat % 64 := by
    simp [Nat.and_two_pow_sub_one_eq_mod _ 6]
  have bounded := Nat.mod_lt point.toNat (show 64 > 0 by decide)
  rw [tagged_toNat 6 2 rfl (by omega) (by omega), low]
  rfl

theorem leadByte?_cases {lead : UInt8} {count : Nat} {start : UInt32}
    (found : leadByte? lead = some (count, start)) :
    (count = 0 ∧ lead.toNat < 0x80 ∧ start.toNat = lead.toNat) ∨
      (count = 1 ∧ 0xC2 ≤ lead.toNat ∧ lead.toNat < 0xE0 ∧ start.toNat = lead.toNat - 0xC0) ∨
      (count = 2 ∧ 0xE0 ≤ lead.toNat ∧ lead.toNat < 0xF0 ∧ start.toNat = lead.toNat - 0xE0) ∨
      (count = 3 ∧ 0xF0 ≤ lead.toNat ∧ lead.toNat ≤ 0xF4 ∧ start.toNat = lead.toNat - 0xF0) := by
  have masked (mask : UInt8) (bits : Nat) (isMask : mask.toNat = 2 ^ bits - 1) :
      (lead &&& mask).toUInt32.toNat = lead.toNat % 2 ^ bits := by
    rw [UInt8.toNat_toUInt32, UInt8.toNat_and, isMask, Nat.and_two_pow_sub_one_eq_mod]
  have bounded := lead.toNat_lt
  unfold leadByte? at found
  by_cases one : lead ≤ 0x7F
  · rw [if_pos one] at found
    cases found
    have low : lead.toNat ≤ 0x7F := one
    exact Or.inl ⟨rfl, by omega, by simp⟩
  rw [if_neg one] at found
  by_cases two : 0xC2 ≤ lead ∧ lead ≤ 0xDF
  · rw [if_pos two] at found
    cases found
    have low : 0xC2 ≤ lead.toNat := two.1
    have high : lead.toNat ≤ 0xDF := two.2
    have value := masked 0x1F 5 rfl
    exact Or.inr (Or.inl ⟨rfl, low, by omega, by omega⟩)
  · rw [if_neg two] at found
    by_cases three : 0xE0 ≤ lead ∧ lead ≤ 0xEF
    · rw [if_pos three] at found
      cases found
      have low : 0xE0 ≤ lead.toNat := three.1
      have high : lead.toNat ≤ 0xEF := three.2
      have value := masked 0x0F 4 rfl
      exact Or.inr (Or.inr (Or.inl ⟨rfl, low, by omega, by omega⟩))
    · rw [if_neg three] at found
      by_cases four : 0xF0 ≤ lead ∧ lead ≤ 0xF4
      · rw [if_pos four] at found
        cases found
        have low : 0xF0 ≤ lead.toNat := four.1
        have high : lead.toNat ≤ 0xF4 := four.2
        have value := masked 0x07 3 rfl
        exact Or.inr (Or.inr (Or.inr ⟨rfl, low, high, by omega⟩))
      · rw [if_neg four] at found
        cases found

/-- The code points that a sequence with `count` continuation bytes is for. -/
theorem badCodePoint_eq_false_iff {count : Nat} {codePoint : UInt32} :
    badCodePoint count codePoint = false ↔
      Scalar codePoint ∧ (count = 1 → 0x80 ≤ codePoint.toNat) ∧
        (count = 2 → 0x800 ≤ codePoint.toNat) ∧
        (count = 3 → 0x10000 ≤ codePoint.toNat) := by
  unfold badCodePoint Scalar
  simp [UInt32.lt_iff_toNat_lt, UInt32.le_iff_toNat_le]
  omega

/-- A byte that follows the first of a sequence. -/
def Continuation (byte : UInt8) : Prop := 128 ≤ byte.toNat ∧ byte.toNat < 192

theorem eq_of_continuation {point : UInt32} {byte : UInt8} (continuation : Continuation byte)
    (value : point.toNat % 64 = byte.toNat % 64) :
    (0x80 : UInt8) ||| (point &&& 0x3F).toUInt8 = byte := by
  obtain ⟨low, high⟩ := continuation
  rw [← UInt8.toNat_inj, continuation_toNat, value]
  omega

theorem eq_of_tagged {tag byte : UInt8} (bits high : Nat) (tagged : tag.toNat = high * 2 ^ bits)
    (small : value.toNat < 2 ^ bits)
    (sum : tag.toNat + value.toNat = byte.toNat) :
    tag ||| value.toUInt8 = byte := by
  have bounded := byte.toNat_lt
  rw [← UInt8.toNat_inj, tagged_toNat bits high tagged small (by omega)]
  exact sum

section Sequences

variable {codePoint : UInt32} {lead second third fourth : UInt8}

theorem utf8Bytes_one (low : lead.toNat < 0x80) (value : codePoint.toNat = lead.toNat) :
    utf8Bytes codePoint = [lead] := by
  have small : codePoint < 0x80 := by
    rw [UInt32.lt_iff_toNat_lt, value]
    exact low
  have same : codePoint.toUInt8 = lead := by
    rw [← UInt8.toNat_inj, UInt32.toNat_toUInt8, value]
    exact Nat.mod_eq_of_lt lead.toNat_lt
  rw [utf8Bytes, if_pos small, same]

theorem utf8Bytes_two (low : 0xC2 ≤ lead.toNat) (high : lead.toNat < 0xE0)
    (continuation : Continuation second)
    (value : codePoint.toNat = (lead.toNat - 0xC0) * 64 + second.toNat % 64) :
    utf8Bytes codePoint = [lead, second] := by
  have large : ¬ codePoint < 0x80 := by
    rw [UInt32.lt_iff_toNat_lt, value]
    simp
    omega
  have small : codePoint < 0x800 := by
    rw [UInt32.lt_iff_toNat_lt, value]
    simp
    omega
  have top : (codePoint >>> 6).toNat = codePoint.toNat / 64 := shifted_toNat codePoint 6 (by decide)
  have first : (0xC0 : UInt8) ||| (codePoint >>> 6).toUInt8 = lead := by
    apply eq_of_tagged 5 6 rfl
    · rw [top]
      omega
    · rw [top]
      simp
      omega
  have last : (0x80 : UInt8) ||| (codePoint &&& 0x3F).toUInt8 = second :=
    eq_of_continuation continuation (by omega)
  rw [utf8Bytes, if_neg large, if_pos small, first, last]

theorem utf8Bytes_three (low : 0xE0 ≤ lead.toNat) (high : lead.toNat < 0xF0)
    (continuation2 : Continuation second)
    (continuation3 : Continuation third)
    (least : 0x800 ≤ codePoint.toNat)
    (value :
      codePoint.toNat = ((lead.toNat - 0xE0) * 64 + second.toNat % 64) * 64 + third.toNat % 64) :
    utf8Bytes codePoint = [lead, second, third] := by
  have large : ¬ codePoint < 0x80 := by
    rw [UInt32.lt_iff_toNat_lt]
    simp
    omega
  have larger : ¬ codePoint < 0x800 := by
    rw [UInt32.lt_iff_toNat_lt]
    simp
    omega
  have small : codePoint < 0x10000 := by
    rw [UInt32.lt_iff_toNat_lt, value]
    simp
    omega
  have top : (codePoint >>> 12).toNat = codePoint.toNat / 4096 :=
    shifted_toNat codePoint 12 (by decide)
  have middle : (codePoint >>> 6).toNat = codePoint.toNat / 64 :=
    shifted_toNat codePoint 6 (by decide)
  have first : (0xE0 : UInt8) ||| (codePoint >>> 12).toUInt8 = lead := by
    apply eq_of_tagged 4 14 rfl
    · rw [top]
      omega
    · rw [top]
      simp
      omega
  have next : (0x80 : UInt8) ||| ((codePoint >>> 6) &&& 0x3F).toUInt8 = second :=
    eq_of_continuation continuation2 (by omega)
  have last : (0x80 : UInt8) ||| (codePoint &&& 0x3F).toUInt8 = third :=
    eq_of_continuation continuation3 (by omega)
  rw [utf8Bytes, if_neg large, if_neg larger, if_pos small, first, next, last]

theorem utf8Bytes_four (low : 0xF0 ≤ lead.toNat) (high : lead.toNat ≤ 0xF4)
    (continuation2 : Continuation second)
    (continuation3 : Continuation third)
    (continuation4 : Continuation fourth)
    (least : 0x10000 ≤ codePoint.toNat)
    (value :
      codePoint.toNat =
        (((lead.toNat - 0xF0) * 64 + second.toNat % 64) * 64 +
          third.toNat % 64) * 64 + fourth.toNat % 64) :
    utf8Bytes codePoint = [lead, second, third, fourth] := by
  have large : ¬ codePoint < 0x80 := by
    rw [UInt32.lt_iff_toNat_lt]
    simp
    omega
  have larger : ¬ codePoint < 0x800 := by
    rw [UInt32.lt_iff_toNat_lt]
    simp
    omega
  have largest : ¬ codePoint < 0x10000 := by
    rw [UInt32.lt_iff_toNat_lt]
    simp
    omega
  have top : (codePoint >>> 18).toNat = codePoint.toNat / 262144 :=
    shifted_toNat codePoint 18 (by decide)
  have upper : (codePoint >>> 12).toNat = codePoint.toNat / 4096 :=
    shifted_toNat codePoint 12 (by decide)
  have middle : (codePoint >>> 6).toNat = codePoint.toNat / 64 :=
    shifted_toNat codePoint 6 (by decide)
  have first : (0xF0 : UInt8) ||| (codePoint >>> 18).toUInt8 = lead := by
    apply eq_of_tagged 4 15 rfl
    · rw [top]
      omega
    · rw [top]
      simp
      omega
  have next : (0x80 : UInt8) ||| ((codePoint >>> 12) &&& 0x3F).toUInt8 = second :=
    eq_of_continuation continuation2 (by omega)
  have later : (0x80 : UInt8) ||| ((codePoint >>> 6) &&& 0x3F).toUInt8 = third :=
    eq_of_continuation continuation3 (by omega)
  have last : (0x80 : UInt8) ||| (codePoint &&& 0x3F).toUInt8 = fourth :=
    eq_of_continuation continuation4 (by omega)
  rw [utf8Bytes, if_neg large, if_neg larger, if_neg largest, first, next, later, last]

end Sequences

variable {lead : UInt8} {codePoint : UInt32} {points : List UInt32}

/-- One more continuation byte of a code point. -/
def pushByte (point : UInt32) (byte : UInt8) : UInt32 := (point <<< 6) ||| (byte &&& 0x3F).toUInt32

theorem pushByte_toNat {point : UInt32} (byte : UInt8) (small : point.toNat < 2 ^ 20) :
    (pushByte point byte).toNat = point.toNat * 64 + byte.toNat % 64 :=
  pushed_toNat point byte small

theorem utf8Bytes_pushed {start : UInt32} {continuation : ByteString}
    (found : leadByte? lead = some (continuation.length, start))
    (follow : ∀ byte ∈ continuation, Continuation byte)
    (good : badCodePoint continuation.length (continuation.foldl pushByte start) = false) :
    utf8Bytes (continuation.foldl pushByte start) = lead :: continuation := by
  obtain ⟨_, _, least2, least3⟩ := badCodePoint_eq_false_iff.mp good
  match continuation with
  | [] =>
    have shape := leadByte?_cases found
    simp at shape
    exact utf8Bytes_one shape.1 shape.2
  | [second] =>
    have shape := leadByte?_cases found
    simp at shape follow
    obtain ⟨low, high, value⟩ := shape
    have pushed := pushByte_toNat second (show start.toNat < _ by omega)
    rw [value] at pushed
    exact utf8Bytes_two low high follow pushed
  | [second, third] =>
    have shape := leadByte?_cases found
    simp at shape follow
    obtain ⟨low, high, value⟩ := shape
    have pushed2 := pushByte_toNat second (show start.toNat < _ by omega)
    have pushed3 := pushByte_toNat third (show (pushByte start second).toNat < _ by omega)
    rw [pushed2, value] at pushed3
    exact utf8Bytes_three low high follow.1 follow.2 (least2 rfl) pushed3
  | [second, third, fourth] =>
    have shape := leadByte?_cases found
    simp at shape follow
    obtain ⟨low, high, value⟩ := shape
    have pushed2 := pushByte_toNat second (show start.toNat < _ by omega)
    have pushed3 := pushByte_toNat third (show (pushByte start second).toNat < _ by omega)
    have pushed4 := pushByte_toNat fourth
      (show (pushByte (pushByte start second) third).toNat < _ by
        omega)
    rw [pushed3, pushed2, value] at pushed4
    exact utf8Bytes_four low high follow.1 follow.2.1 follow.2.2 (least3 rfl) pushed4
  | _ :: _ :: _ :: _ :: _ =>
    have shape := leadByte?_cases found
    simp at shape

theorem sequence?_eq_some {rest tail : ByteString}
    (read : sequence? lead rest = some (codePoint, tail)) :
    Scalar codePoint ∧ utf8Bytes codePoint ++ tail = lead :: rest := by
  unfold sequence? at read
  cases found : leadByte? lead with
  | none => simp [found] at read
  | some shape =>
    obtain ⟨count, start⟩ := shape
    rw [found] at read
    dsimp only at read
    by_cases short : (rest.take count).length < count
    · rw [if_pos short] at read
      cases read
    rw [if_neg short] at read
    by_cases broken : ((rest.take count).any fun byte => byte &&& 0xC0 != 0x80) = true
    · rw [if_pos broken] at read
      cases read
    rw [if_neg broken] at read
    have complete : (rest.take count).length = count := by
      have most := length_take_le count rest
      omega
    have follow (byte : UInt8) (member : byte ∈ rest.take count) : Continuation byte := by
      apply (continuationByte_iff byte).mp
      simp at broken
      exact broken byte member
    have pushed :
        (if badCodePoint count ((rest.take count).foldl pushByte start) = true then none
        else
          some ((rest.take count).foldl pushByte start,
            rest.drop count)) = some (codePoint, tail) :=
      read
    by_cases bad : badCodePoint count ((rest.take count).foldl pushByte start) = true
    · rw [if_pos bad] at pushed
      cases pushed
    rw [if_neg bad] at pushed
    cases pushed
    have good := Bool.not_eq_true _ ▸ bad
    have scalar := (badCodePoint_eq_false_iff.mp good).1
    have written := utf8Bytes_pushed (complete.symm ▸ found) follow (complete.symm ▸ good)
    rw [written, cons_append, take_append_drop]
    exact ⟨scalar, rfl⟩

theorem codePoints?_eq_some {fuel : Nat} {bytes : ByteString}
    (read : codePoints? fuel bytes = some points) :
    (∀ point ∈ points, Scalar point) ∧ points.flatMap utf8Bytes = bytes := by
  induction fuel generalizing bytes points with
  | zero =>
    cases bytes with
    | nil =>
      cases read
      simp
    | cons lead rest => cases read
  | succ fuel inductionHypothesis =>
    cases bytes with
    | nil =>
      cases read
      simp
    | cons lead rest =>
      cases first : sequence? lead rest with
      | none => simp [codePoints?, first] at read
      | some found =>
        obtain ⟨codePoint, tail⟩ := found
        have unfolded : (codePoints? fuel tail).map (codePoint :: ·) = some points := by
          simpa [codePoints?, first] using read
        obtain ⟨later, readLater, same⟩ := Option.map_eq_some_iff.mp unfolded
        obtain ⟨scalars, written⟩ := inductionHypothesis readLater
        obtain ⟨scalar, restored⟩ := sequence?_eq_some first
        rw [← same]
        constructor
        · intro point member
          cases mem_cons.mp member with
          | inl isFirst =>
            rw [isFirst]
            exact scalar
          | inr isLater => exact scalars point isLater
        · rw [flatMap_cons, written]
          exact restored

theorem utf16Units_length_le (codePoint : UInt32) :
    (utf16Units codePoint).length ≤ (utf8Bytes codePoint).length := by
  unfold utf16Units utf8Bytes
  by_cases basic : codePoint < 0x10000
  · rw [if_pos basic]
    split
    · simp
    · split <;> simp
  have large : ¬ codePoint < 0x80 := by
    intro small
    exact basic (UInt32.lt_trans small (by decide))
  have larger : ¬ codePoint < 0x800 := by
    intro small
    exact basic (UInt32.lt_trans small (by decide))
  simp [basic, large, larger]

theorem units_length_le (points : List UInt32) :
    (points.flatMap utf16Units).length ≤ (points.flatMap utf8Bytes).length := by
  induction points with
  | nil => simp
  | cons point points inductionHypothesis =>
    have first := utf16Units_length_le point
    simp only [flatMap_cons, length_append]
    omega

theorem wideCodePoints?_basic (scalar : Scalar codePoint) (basic : codePoint.toNat < 0x10000)
    (rest : WideString) :
    wideCodePoints? (codePoint.toUInt16 :: rest) = (wideCodePoints? rest).map (codePoint :: ·) := by
  have unit : codePoint.toUInt16.toNat = codePoint.toNat := by
    rw [UInt32.toNat_toUInt16]
    exact Nat.mod_eq_of_lt basic
  have noHigh : ¬ (0xD800 ≤ codePoint.toUInt16 ∧ codePoint.toUInt16 ≤ 0xDBFF) := by
    rw [UInt16.le_iff_toNat_le, UInt16.le_iff_toNat_le, unit]
    simp
    rcases scalar with low | high <;> omega
  have noLow : ¬ (0xDC00 ≤ codePoint.toUInt16 ∧ codePoint.toUInt16 ≤ 0xDFFF) := by
    rw [UInt16.le_iff_toNat_le, UInt16.le_iff_toNat_le, unit]
    simp
    rcases scalar with low | high <;> omega
  have restored : codePoint.toUInt16.toUInt32 = codePoint := by
    rw [← UInt32.toNat_inj, UInt16.toNat_toUInt32, unit]
  rw [wideCodePoints?.eq_def]
  simp only [if_neg noHigh, if_neg noLow, restored]

theorem wideCodePoints?_pair (least : 0x10000 ≤ codePoint.toNat)
    (greatest : codePoint.toNat ≤ 0x10FFFF) (rest : WideString) :
    wideCodePoints?
        (((0xD800 : UInt16) + ((codePoint - 0x10000) >>> 10).toUInt16) ::
          ((0xDC00 : UInt16) + ((codePoint - 0x10000) &&& 0x3FF).toUInt16) :: rest) =
      (wideCodePoints? rest).map (codePoint :: ·) := by
  have offset : (codePoint - 0x10000).toNat = codePoint.toNat - 0x10000 := by
    apply UInt32.toNat_sub_of_le
    exact UInt32.le_iff_toNat_le.mpr least
  generalize codePoint - 0x10000 = distance at offset
  have top : (distance >>> 10).toUInt16.toNat = distance.toNat / 1024 := by
    have shifted := shifted_toNat distance 10 (by decide)
    rw [UInt32.toNat_toUInt16]
    change (distance >>> 10).toNat = _ at shifted
    rw [shifted]
    omega
  have bottom : (distance &&& 0x3FF).toUInt16.toNat = distance.toNat % 1024 := by
    rw [UInt32.toNat_toUInt16, UInt32.toNat_and]
    have masked := Nat.and_two_pow_sub_one_eq_mod distance.toNat 10
    change (distance.toNat &&& 1023) % 2 ^ 16 = _
    change distance.toNat &&& 1023 = _ at masked
    rw [masked]
    omega
  generalize (distance >>> 10).toUInt16 = upper at top
  generalize (distance &&& 0x3FF).toUInt16 = lower at bottom
  have high : ((0xD800 : UInt16) + upper).toNat = 0xD800 + upper.toNat := by
    rw [UInt16.toNat_add]
    apply Nat.mod_eq_of_lt
    simp
    omega
  have low : ((0xDC00 : UInt16) + lower).toNat = 0xDC00 + lower.toNat := by
    rw [UInt16.toNat_add]
    apply Nat.mod_eq_of_lt
    simp
    omega
  have isHigh : 0xD800 ≤ (0xD800 : UInt16) + upper ∧ (0xD800 : UInt16) + upper ≤ 0xDBFF := by
    rw [UInt16.le_iff_toNat_le, UInt16.le_iff_toNat_le, high]
    simp
    omega
  have isLow : 0xDC00 ≤ (0xDC00 : UInt16) + lower ∧ (0xDC00 : UInt16) + lower ≤ 0xDFFF := by
    rw [UInt16.le_iff_toNat_le, UInt16.le_iff_toNat_le, low]
    simp
    omega
  have restored :
      (0x10000 : UInt32) + (((0xD800 : UInt16) + upper - 0xD800).toUInt32 <<< 10) +
          ((0xDC00 : UInt16) + lower - 0xDC00).toUInt32 = codePoint := by
    have upperBack : (0xD800 : UInt16) + upper - 0xD800 = upper := by
      rw [UInt16.add_comm, UInt16.add_sub_cancel]
    have lowerBack : (0xDC00 : UInt16) + lower - 0xDC00 = lower := by
      rw [UInt16.add_comm, UInt16.add_sub_cancel]
    rw [upperBack, lowerBack, ← UInt32.toNat_inj]
    simp [Nat.shiftLeft_eq]
    omega
  rw [wideCodePoints?.eq_def]
  simp only [if_pos isHigh, if_pos isLow, restored]

theorem wideCodePoints?_units (scalars : ∀ point ∈ points, Scalar point) :
    wideCodePoints? (points.flatMap utf16Units) = some points := by
  induction points with
  | nil => rfl
  | cons point points inductionHypothesis =>
    have scalar := scalars point mem_cons_self
    have later : wideCodePoints? (points.flatMap utf16Units) = some points := by
      apply inductionHypothesis
      intro other member
      exact scalars other (mem_cons_of_mem point member)
    rw [flatMap_cons, utf16Units]
    by_cases basic : point < 0x10000
    · have small : point.toNat < 0x10000 := basic
      rw [if_pos basic, cons_append, nil_append, wideCodePoints?_basic scalar small, later]
      rfl
    have least : 0x10000 ≤ point.toNat := by
      rw [UInt32.lt_iff_toNat_lt] at basic
      simpa using basic
    have greatest : point.toNat ≤ 0x10FFFF := by
      rcases scalar with low | high <;> omega
    rw [if_neg basic, cons_append, cons_append,
      nil_append, wideCodePoints?_pair least greatest, later]
    rfl

theorem wideToUtf8_of_utf8ToWide {text : ByteString} {wide : WideString}
    (converted : utf8ToWide text = some wide) :
    wideToUtf8 wide = some text := by
  unfold utf8ToWide at converted
  by_cases long : text.length > maximumConversionLength
  · rw [if_pos long] at converted
    cases converted
  rw [if_neg long] at converted
  obtain ⟨points, read, written⟩ := Option.map_eq_some_iff.mp converted
  obtain ⟨scalars, restored⟩ := codePoints?_eq_some read
  have shorter : wide.length ≤ text.length := by
    rw [← written, ← restored]
    exact units_length_le points
  have short : ¬ wide.length > maximumConversionLength := by
    omega
  rw [wideToUtf8, if_neg short, ← written, wideCodePoints?_units scalars, Option.map_some, restored]
end HydraSeat
