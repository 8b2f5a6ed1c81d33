import Mathlib.Data.Nat.Bitwise

/-!
# Packed bit fields

A word of bit fields is written with shifts and disjunctions and read with
shifts and masks.  The laws here say both in terms of sums and quotients,
where linear arithmetic decides the rest.  A signed word has its bounds.
-/

namespace HydraSeat.Foundation

def int32? (value : Int) : Option Int32 :=
  if Int32.minValue.toInt ≤ value ∧ value ≤ Int32.maxValue.toInt then some (Int32.ofInt value)
  else none

def int64? (value : Int) : Option Int64 :=
  if Int64.minValue.toInt ≤ value ∧ value ≤ Int64.maxValue.toInt then some (Int64.ofInt value)
  else none

def saturate (low high value : Int) : Int := max low (min high value)

theorem int32_bounds (word : Int32) : -2147483648 ≤ word.toInt ∧ word.toInt ≤ 2147483647 := by
  have low := word.le_toInt
  have high := word.toInt_lt
  omega

theorem int64_bounds (word : Int64) :
    -9223372036854775808 ≤ word.toInt ∧ word.toInt ≤ 9223372036854775807 := by
  have low := word.le_toInt
  have high := word.toInt_lt
  omega

theorem int32?_of_le (value : Int) (low : -2147483648 ≤ value) (high : value ≤ 2147483647) :
    ∃ word, int32? value = some word ∧ word.toInt = value := by
  refine ⟨Int32.ofInt value, if_pos ⟨low, high⟩, ?_⟩
  exact Int32.toInt_ofInt_of_le low (by omega)

theorem int64?_of_le (value : Int) (low : -9223372036854775808 ≤ value)
    (high : value ≤ 9223372036854775807) :
    ∃ word, int64? value = some word ∧ word.toInt = value := by
  refine ⟨Int64.ofInt value, if_pos ⟨low, high⟩, ?_⟩
  exact Int64.toInt_ofInt_of_le low (by omega)

theorem or_eq_add {tag value : Nat} (bits high : Nat) (tagged : tag = high * 2 ^ bits)
    (small : value < 2 ^ bits) : tag ||| value = tag + value := by
  have shifted := Nat.shiftLeft_add_eq_or_of_lt small high
  rw [Nat.shiftLeft_eq, ← tagged] at shifted
  exact shifted.symm

theorem placed_toNat (value : UInt64) (offset : Nat) (narrow : offset < 64)
    (fits : value.toNat * 2 ^ offset < 18446744073709551616) :
    (value <<< UInt64.ofNat offset).toNat = value.toNat * 2 ^ offset := by
  have amount : (UInt64.ofNat offset).toNat % 64 = offset := by
    rw [UInt64.toNat_ofNat']
    omega
  rw [UInt64.toNat_shiftLeft, amount, Nat.shiftLeft_eq]
  exact Nat.mod_eq_of_lt fits

theorem field_toNat (word : UInt64) (offset width : Nat) (narrow : offset < 64)
    (small : width < 64) :
    ((word >>> UInt64.ofNat offset) &&& UInt64.ofNat (2 ^ width - 1)).toNat =
      word.toNat / 2 ^ offset % 2 ^ width := by
  have amount : (UInt64.ofNat offset).toNat % 64 = offset := by
    rw [UInt64.toNat_ofNat']
    omega
  have bounded : 2 ^ width < 2 ^ 64 := Nat.pow_lt_pow_right (by decide) small
  have mask : (UInt64.ofNat (2 ^ width - 1)).toNat = 2 ^ width - 1 := by
    rw [UInt64.toNat_ofNat']
    exact Nat.mod_eq_of_lt (by omega)
  rw [UInt64.toNat_and, UInt64.toNat_shiftRight, amount, mask,
    Nat.shiftRight_eq_div_pow, Nat.and_two_pow_sub_one_eq_mod]

theorem low_toNat (word : UInt64) (width : Nat) (small : width < 64) :
    (word &&& UInt64.ofNat (2 ^ width - 1)).toNat = word.toNat % 2 ^ width := by
  have unshifted := field_toNat word 0 width (by decide) small
  change ((word >>> 0) &&& _).toNat = _ at unshifted
  rwa [UInt64.shiftRight_zero, Nat.pow_zero, Nat.div_one] at unshifted

theorem placed_lt {value offset next : Nat} (order : offset ≤ next)
    (fits : value < 2 ^ (next - offset)) :
    value * 2 ^ offset < 2 ^ next := by
  have room : 2 ^ (next - offset) * 2 ^ offset = 2 ^ next := by
    rw [← Nat.pow_add, Nat.sub_add_cancel order]
  rw [← room]
  exact Nat.mul_lt_mul_of_pos_right fits (Nat.two_pow_pos offset)

theorem packed_toNat (marker context version low : UInt64) (first second third : Nat)
    (order : third ≤ second ∧ second ≤ first ∧ first < 64)
    (markerFits : marker.toNat < 2 ^ (64 - first))
    (contextFits : context.toNat < 2 ^ (first - second))
    (versionFits : version.toNat < 2 ^ (second - third))
    (lowFits : low.toNat < 2 ^ third) :
    ((marker <<< UInt64.ofNat first) ||| (context <<< UInt64.ofNat second) |||
        (version <<< UInt64.ofNat third) ||| low).toNat =
      marker.toNat * 2 ^ first + context.toNat * 2 ^ second +
        version.toNat * 2 ^ third + low.toNat := by
  obtain ⟨thirdLe, secondLe, firstLt⟩ := order
  have markerRoom := placed_lt (Nat.le_of_lt firstLt) markerFits
  have contextRoom := placed_lt secondLe contextFits
  have versionRoom := placed_lt thirdLe versionFits
  have firstBound : 2 ^ first < 2 ^ 64 := Nat.pow_lt_pow_right (by decide) firstLt
  have secondBound : 2 ^ second ≤ 2 ^ first := Nat.pow_le_pow_right (by decide) secondLe
  have firstSplit : 2 ^ first = 2 ^ (first - second) * 2 ^ second := by
    rw [← Nat.pow_add, Nat.sub_add_cancel secondLe]
  have secondSplit : 2 ^ second = 2 ^ (second - third) * 2 ^ third := by
    rw [← Nat.pow_add, Nat.sub_add_cancel thirdLe]
  have withContext :
      marker.toNat * 2 ^ first ||| context.toNat * 2 ^ second =
        marker.toNat * 2 ^ first + context.toNat * 2 ^ second :=
    or_eq_add first marker.toNat rfl contextRoom
  have withVersion :
      marker.toNat * 2 ^ first + context.toNat * 2 ^ second ||| version.toNat * 2 ^ third =
        marker.toNat * 2 ^ first + context.toNat * 2 ^ second + version.toNat * 2 ^ third := by
    refine or_eq_add second (marker.toNat * 2 ^ (first - second) + context.toNat) ?_ versionRoom
    rw [firstSplit, Nat.add_mul, Nat.mul_assoc]
  have withLow :
      marker.toNat * 2 ^ first + context.toNat * 2 ^ second + version.toNat * 2 ^ third |||
          low.toNat =
        marker.toNat * 2 ^ first + context.toNat * 2 ^ second +
          version.toNat * 2 ^ third + low.toNat := by
    refine or_eq_add third
      ((marker.toNat * 2 ^ (first - second) + context.toNat) *
          2 ^ (second - third) + version.toNat) ?_ lowFits
    rw [Nat.add_mul, Nat.mul_assoc _ (2 ^ (second - third)),
      ← secondSplit, Nat.add_mul, Nat.mul_assoc, ← firstSplit]
  rw [UInt64.toNat_or, UInt64.toNat_or, UInt64.toNat_or,
    placed_toNat marker first firstLt (by omega),
    placed_toNat context second (by omega) (by omega),
    placed_toNat version third (by omega) (by omega), withContext,
    withVersion, withLow]

end HydraSeat.Foundation
