import HydraSeat.Strings

/-!
# Decimal numbers

`std::to_string` and the insertion of an unsigned number write its decimal
digits; `std::from_chars` reads them back into a word of 64 bits.
-/

namespace HydraSeat

open List

variable {value : Nat} {digit : Char}

/-- `std::to_string` of an unsigned number. -/
def decimal (value : Nat) : ByteString :=
  (Nat.toDigits 10 value).map fun digit => UInt8.ofNat digit.toNat

/-- The value of digits behind a value, most significant first. -/
def digitsValue (text : ByteString) (value : Nat) : Nat :=
  text.foldl (fun value byte => 10 * value + (byte.toNat - 48)) value

/-- `std::from_chars` of the whole text into a `std::uint64_t`. -/
def fromChars (text : ByteString) : Option UInt64 :=
  if text.isEmpty || text.any (fun byte => byte < 48 || 57 < byte) ||
      digitsValue text 0 ≥ 2 ^ 64 then
    none
  else some (UInt64.ofNat (digitsValue text 0))

theorem digit_bounds (member : digit ∈ Nat.toDigits 10 value) :
    48 ≤ digit.toNat ∧ digit.toNat ≤ 57 := by
  have isDigit := Nat.isDigit_of_mem_toDigits (by decide) (by decide) member
  unfold Char.isDigit at isDigit
  rw [Bool.and_eq_true, decide_eq_true_eq, decide_eq_true_eq] at isDigit
  exact ⟨UInt32.le_iff_toNat_le.mp isDigit.1, UInt32.le_iff_toNat_le.mp isDigit.2⟩

theorem digit_byte (member : digit ∈ Nat.toDigits 10 value) :
    (UInt8.ofNat digit.toNat).toNat = digit.toNat := by
  have bounds := digit_bounds member
  rw [UInt8.toNat_ofNat']
  exact Nat.mod_eq_of_lt (by omega)

theorem decimal_digit {byte : UInt8} (member : byte ∈ decimal value) :
    48 ≤ byte.toNat ∧ byte.toNat ≤ 57 := by
  obtain ⟨digit, isDigit, rfl⟩ := mem_map.mp member
  rw [digit_byte isDigit]
  exact digit_bounds isDigit

theorem decimal_ne_nil (value : Nat) : decimal value ≠ [] := by
  unfold decimal
  rw [ne_eq, map_eq_nil_iff]
  exact Nat.toDigits_ne_nil

theorem decimal_chars (value : Nat) :
    (decimal value).map (fun byte => Char.ofNat byte.toNat) = Nat.toDigits 10 value := by
  unfold decimal
  rw [map_map]
  refine (map_congr_left fun digit member => ?_).trans (map_id _)
  change Char.ofNat (UInt8.ofNat digit.toNat).toNat = digit
  rw [digit_byte member, Char.ofNat_toNat]

theorem decimal_injective : Function.Injective decimal := by
  intro first second same
  have digits : Nat.toDigits 10 first = Nat.toDigits 10 second := by
    rw [← decimal_chars, ← decimal_chars, same]
  rw [← Nat.ofDigitChars_ten_toDigits (n := first), digits, Nat.ofDigitChars_ten_toDigits]

theorem decimal_head (value : Nat) :
    decimal value = [48] ∨
      ∃ first rest, decimal value = first :: rest ∧ 49 ≤ first.toNat ∧ first.toNat ≤ 57 := by
  induction value using Nat.strongRecOn with
  | ind value inductionHypothesis =>
    unfold decimal
    rcases Nat.lt_or_ge value 10 with small | large
    · rw [Nat.toDigits_of_lt_base small]
      match value, small with
      | 0, _ => exact .inl rfl
      | 1, _ | 2, _ | 3, _ | 4, _ | 5, _ | 6, _ | 7, _ | 8, _ | 9, _ =>
        exact .inr ⟨_, [], rfl, by decide, by decide⟩
    · rw [Nat.toDigits_of_base_le (by decide) large, map_append]
      rcases inductionHypothesis (value / 10) (by omega) with
        zero | ⟨first, rest, digits, bounds⟩
      · have same : value / 10 = 0 := decimal_injective zero
        omega
      · unfold decimal at digits
        rw [digits]
        exact .inr ⟨first, _, rfl, bounds⟩

theorem digitsValue_decimal (value : Nat) : digitsValue (decimal value) 0 = value := by
  have folds (digits : List Char) (start : Nat)
      (bytes : ∀ digit ∈ digits, (UInt8.ofNat digit.toNat).toNat = digit.toNat) :
      digitsValue (digits.map fun digit => UInt8.ofNat digit.toNat) start =
        Nat.ofDigitChars 10 digits start := by
    induction digits generalizing start with
    | nil => exact Nat.ofDigitChars_nil.symm
    | cons digit digits inductionHypothesis =>
      rw [Nat.ofDigitChars_cons, map_cons]
      change digitsValue _ (10 * start + ((UInt8.ofNat digit.toNat).toNat - 48)) = _
      rw [bytes digit mem_cons_self]
      exact inductionHypothesis _ fun later member => bytes later (mem_cons_of_mem _ member)
  unfold decimal
  rw [folds _ 0 fun digit member => digit_byte member, Nat.ofDigitChars_ten_toDigits]

theorem fromChars_decimal (value : UInt64) : fromChars (decimal value.toNat) = some value := by
  have digits : (decimal value.toNat).any (fun byte => byte < 48 || 57 < byte) = false := by
    rw [any_eq_false]
    intro byte member
    have bounds := decimal_digit member
    simp only [Bool.or_eq_true, decide_eq_true_eq, UInt8.lt_iff_toNat_lt, not_or]
    exact ⟨Nat.not_lt.mpr bounds.1, Nat.not_lt.mpr bounds.2⟩
  have nonempty : (decimal value.toNat).isEmpty = false := by
    rw [isEmpty_eq_false_iff]
    exact decimal_ne_nil _
  have small := value.toNat_lt
  unfold fromChars
  rw [digitsValue_decimal, digits, nonempty, if_neg (by simpa using small), UInt64.ofNat_toNat]

end HydraSeat
