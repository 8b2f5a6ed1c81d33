import HydraSeat.Foundation.Bits
import HydraSeat.GateC.RawHandles

/-!
# Tokens as numbers

`encode` and `decode` are inverse between the slots at generations in range
and the low bits of tokens.  On a 64-bit architecture `decode` does not look
at the highest bits.
-/

namespace HydraSeat.GateC

open Foundation

namespace SyntheticRawHandleTable

open SyntheticRawHandleSlot

/-- The bits of a token that `decode` looks at. -/
def tokenModulus (self : SyntheticRawHandleTable) : Nat :=
  match self.architecture with
  | .x86 => 2 ^ 64
  | .x64 => 2 ^ 47

def InRange (self : SyntheticRawHandleTable) (generation : UInt32) : Prop :=
  0 < generation.toNat ∧ generation.toNat ≤ self.maximumGeneration.toNat

section Tokens

variable {self : SyntheticRawHandleTable}
variable {generation : UInt32}

theorem discriminator_le_x86 (x86 : self.architecture = .x86) :
    self.contextDiscriminator.toNat ≤ 63 := by
  have fits := UInt16.le_iff_toNat_le.mp self.discriminatorFits
  rw [x86] at fits
  exact fits

theorem discriminator_le_x64 (x64 : self.architecture = .x64) :
    self.contextDiscriminator.toNat ≤ 255 := by
  have fits := UInt16.le_iff_toNat_le.mp self.discriminatorFits
  rw [x64] at fits
  exact fits

theorem generation_le_x86 (x86 : self.architecture = .x86)
    (inRange : self.InRange generation) : generation.toNat ≤ 2047 := by
  have bounded := inRange.2
  simp only [maximumGeneration, x86] at bounded
  exact bounded

theorem generation_le_x64 (x64 : self.architecture = .x64)
    (inRange : self.InRange generation) : generation.toNat ≤ 65535 := by
  have bounded := inRange.2
  simp only [maximumGeneration, x64] at bounded
  exact bounded

theorem encodedSlot_toNat (slot : RawHandleIndex) :
    (UInt64.ofNat (slot.val + 1)).toNat = slot.val + 1 := by
  have small : slot.val < 128 := slot.isLt
  rw [UInt64.toNat_ofNat']
  omega

theorem encode_toNat_x86 (x86 : self.architecture = .x86) (slot : RawHandleIndex)
    (inRange : self.InRange generation) :
    (self.encode slot generation).toNat =
      93 * 2 ^ 25 + self.contextDiscriminator.toNat * 2 ^ 19 +
        generation.toNat * 2 ^ 8 + (slot.val + 1) := by
  have context := discriminator_le_x86 x86
  have version := generation_le_x86 x86 inRange
  have small : slot.val < 128 := slot.isLt
  have packed := packed_toNat kTokenMarker self.contextDiscriminator.toUInt64
    generation.toUInt64 (UInt64.ofNat (slot.val + 1)) 25 19 8
    (by decide) (by decide)
    (by rw [UInt16.toNat_toUInt64]; omega)
    (by rw [UInt32.toNat_toUInt64]; omega)
    (by rw [encodedSlot_toNat]; omega)
  rw [UInt16.toNat_toUInt64, UInt32.toNat_toUInt64, encodedSlot_toNat] at packed
  unfold encode
  simp only [x86]
  exact packed

theorem encode_toNat_x64 (x64 : self.architecture = .x64) (slot : RawHandleIndex)
    (inRange : self.InRange generation) :
    (self.encode slot generation).toNat =
      93 * 2 ^ 40 + self.contextDiscriminator.toNat * 2 ^ 32 +
        generation.toNat * 2 ^ 16 + (slot.val + 1) := by
  have context := discriminator_le_x64 x64
  have version := generation_le_x64 x64 inRange
  have small : slot.val < 128 := slot.isLt
  have packed := packed_toNat kTokenMarker self.contextDiscriminator.toUInt64
    generation.toUInt64 (UInt64.ofNat (slot.val + 1)) 40 32 16
    (by decide) (by decide)
    (by rw [UInt16.toNat_toUInt64]; omega)
    (by rw [UInt32.toNat_toUInt64]; omega)
    (by rw [encodedSlot_toNat]; omega)
  rw [UInt16.toNat_toUInt64, UInt32.toNat_toUInt64, encodedSlot_toNat] at packed
  unfold encode
  simp only [x64]
  exact packed

theorem decodeFields_eq_ok_iff (marker context encodedSlot : UInt64) (generation version : UInt32)
    (index : RawHandleIndex) :
    self.decodeFields marker context encodedSlot generation = .ok (index, version) ↔
      marker = kTokenMarker ∧ context = self.contextDiscriminator.toUInt64 ∧
        encodedSlot.toNat = index.val + 1 ∧
        generation = version ∧ version ≠ 0 := by
  have small : index.val < 128 := index.isLt
  unfold decodeFields
  split
  next wrong =>
    simp only [reduceCtorEq, false_iff]
    rintro ⟨sameMarker, sameContext, _⟩
    rcases wrong with wrong | wrong
    · exact wrong sameMarker
    · exact wrong sameContext
  next right =>
    simp only [not_or, not_not] at right
    split
    next valid =>
      split
      next zero =>
        simp only [reduceCtorEq, false_iff]
        rintro ⟨_, _, _, same, nonzero⟩
        exact nonzero (same ▸ zero)
      next nonzero =>
        simp only [Except.ok.injEq, Prod.mk.injEq, Fin.ext_iff]
        constructor
        · rintro ⟨same, rfl⟩
          exact ⟨right.1, right.2, by omega, rfl, nonzero⟩
        · rintro ⟨_, _, same, rfl, _⟩
          exact ⟨by omega, rfl⟩
    next invalid =>
      simp only [reduceCtorEq, false_iff]
      rintro ⟨_, _, same, _, _⟩
      simp only [kVirtualRawMaximumHandles] at invalid
      omega

theorem decode_eq_ok_iff_x86 (x86 : self.architecture = .x86) (token : UInt64)
    (index : RawHandleIndex) (generation : UInt32) :
    self.decode token = .ok (index, generation) ↔
      self.InRange generation ∧ token.toNat = (self.encode index generation).toNat := by
  have small : index.val < 128 := index.isLt
  have discriminator := discriminator_le_x86 x86
  have marker : ((token >>> 25) &&& 0x7f).toNat = token.toNat / 2 ^ 25 % 2 ^ 7 :=
    field_toNat token 25 7 (by decide) (by decide)
  have context : ((token >>> 19) &&& 0x3f).toNat = token.toNat / 2 ^ 19 % 2 ^ 6 :=
    field_toNat token 19 6 (by decide) (by decide)
  have version : ((token >>> 8) &&& 0x7ff).toNat = token.toNat / 2 ^ 8 % 2 ^ 11 :=
    field_toNat token 8 11 (by decide) (by decide)
  have slot : (token &&& 0xff).toNat = token.toNat % 2 ^ 8 := low_toNat token 8 (by decide)
  have range : self.InRange generation ↔ 0 < generation.toNat ∧ generation.toNat ≤ 2047 := by
    unfold InRange maximumGeneration
    simp only [x86]
    exact Iff.rfl
  have spelled :
      self.InRange generation →
        (self.encode index generation).toNat =
          93 * 2 ^ 25 + self.contextDiscriminator.toNat * 2 ^ 19 +
            generation.toNat * 2 ^ 8 + (index.val + 1) :=
    encode_toNat_x86 x86 index
  rw [range] at spelled ⊢
  unfold decode
  simp only [x86]
  split
  next zero =>
    rw [zero, UInt64.toNat_zero]
    simp only [reduceCtorEq, false_iff]
    rintro ⟨bounded, same⟩
    rw [spelled bounded] at same
    omega
  next nonzero =>
    split
    next wide =>
      have above : 4294967295 < token.toNat := UInt64.lt_iff_toNat_lt.mp wide
      simp only [reduceCtorEq, false_iff]
      rintro ⟨bounded, same⟩
      rw [spelled bounded] at same
      omega
    next narrow =>
      have below : token.toNat ≤ 4294967295 := by
        rw [gt_iff_lt, UInt64.not_lt, UInt64.le_iff_toNat_le] at narrow
        exact narrow
      rw [decodeFields_eq_ok_iff, ← UInt64.toNat_inj, ← UInt64.toNat_inj, ← UInt32.toNat_inj, ne_eq,
        ← UInt32.toNat_inj, UInt64.toNat_toUInt32,
        UInt16.toNat_toUInt64, marker, context, version, slot]
      change _ = 93 ∧ _ ∧ _ ∧ _ ∧ ¬ _ = 0 ↔ _
      constructor
      · rintro ⟨_, _, _, _, _⟩
        have bounded : 0 < generation.toNat ∧ generation.toNat ≤ 2047 := by
          omega
        refine ⟨bounded, ?_⟩
        rw [spelled bounded]
        omega
      · rintro ⟨bounded, same⟩
        rw [spelled bounded] at same
        refine ⟨?_, ?_, ?_, ?_, ?_⟩ <;> omega

theorem decode_eq_ok_iff_x64 (x64 : self.architecture = .x64) (token : UInt64)
    (index : RawHandleIndex) (generation : UInt32) :
    self.decode token = .ok (index, generation) ↔
      self.InRange generation ∧ token.toNat % 2 ^ 47 = (self.encode index generation).toNat := by
  have small : index.val < 128 := index.isLt
  have discriminator := discriminator_le_x64 x64
  have marker : ((token >>> 40) &&& 0x7f).toNat = token.toNat / 2 ^ 40 % 2 ^ 7 :=
    field_toNat token 40 7 (by decide) (by decide)
  have context : ((token >>> 32) &&& 0xff).toNat = token.toNat / 2 ^ 32 % 2 ^ 8 :=
    field_toNat token 32 8 (by decide) (by decide)
  have version : ((token >>> 16) &&& 0xffff).toNat = token.toNat / 2 ^ 16 % 2 ^ 16 :=
    field_toNat token 16 16 (by decide) (by decide)
  have slot : (token &&& 0xffff).toNat = token.toNat % 2 ^ 16 := low_toNat token 16 (by decide)
  have range : self.InRange generation ↔ 0 < generation.toNat ∧ generation.toNat ≤ 65535 := by
    unfold InRange maximumGeneration
    simp only [x64]
    exact Iff.rfl
  have spelled :
      self.InRange generation →
        (self.encode index generation).toNat =
          93 * 2 ^ 40 + self.contextDiscriminator.toNat * 2 ^ 32 +
            generation.toNat * 2 ^ 16 + (index.val + 1) :=
    encode_toNat_x64 x64 index
  rw [range] at spelled ⊢
  unfold decode
  simp only [x64]
  split
  next zero =>
    rw [zero, UInt64.toNat_zero]
    simp only [reduceCtorEq, false_iff]
    rintro ⟨bounded, same⟩
    rw [spelled bounded] at same
    omega
  next nonzero =>
    rw [decodeFields_eq_ok_iff, ← UInt64.toNat_inj, ← UInt64.toNat_inj, ← UInt32.toNat_inj, ne_eq,
      ← UInt32.toNat_inj, UInt64.toNat_toUInt32,
      UInt16.toNat_toUInt64, marker, context, version, slot]
    change _ = 93 ∧ _ ∧ _ ∧ _ ∧ ¬ _ = 0 ↔ _
    constructor
    · rintro ⟨_, _, _, _, _⟩
      have bounded : 0 < generation.toNat ∧ generation.toNat ≤ 65535 := by
        omega
      refine ⟨bounded, ?_⟩
      rw [spelled bounded]
      omega
    · rintro ⟨bounded, same⟩
      rw [spelled bounded] at same
      refine ⟨?_, ?_, ?_, ?_, ?_⟩ <;> omega

/-- `decode` accepts exactly the tokens whose low bits spell a slot and a
generation in range. -/
theorem decode_eq_ok_iff (token : UInt64) (index : RawHandleIndex) (generation : UInt32) :
    self.decode token = .ok (index, generation) ↔
      self.InRange generation ∧
        token.toNat % self.tokenModulus = (self.encode index generation).toNat := by
  unfold tokenModulus
  cases architecture : self.architecture with
  | x86 =>
    have whole : token.toNat % 2 ^ 64 = token.toNat := Nat.mod_eq_of_lt token.toNat_lt
    dsimp only
    rw [whole]
    exact decode_eq_ok_iff_x86 architecture token index generation
  | x64 => exact decode_eq_ok_iff_x64 architecture token index generation

/-- A token takes no more bits than a handle of the architecture, and none
that `decode` drops. -/
theorem encode_lt (index : RawHandleIndex) (inRange : self.InRange generation) :
    (self.encode index generation).toNat < self.tokenModulus ∧
      (self.architecture = .x86 → (self.encode index generation).toNat < 2 ^ 32) := by
  have small : index.val < 128 := index.isLt
  unfold tokenModulus
  cases architecture : self.architecture with
  | x86 =>
    have discriminator := discriminator_le_x86 architecture
    have bounded := generation_le_x86 architecture inRange
    rw [encode_toNat_x86 architecture index inRange]
    dsimp only
    exact ⟨by omega, fun _ => by omega⟩
  | x64 =>
    have discriminator := discriminator_le_x64 architecture
    have bounded := generation_le_x64 architecture inRange
    rw [encode_toNat_x64 architecture index inRange]
    dsimp only
    exact ⟨by omega, nofun⟩

theorem decode_encode (index : RawHandleIndex) (inRange : self.InRange generation) :
    self.decode (self.encode index generation) = .ok (index, generation) := by
  rw [decode_eq_ok_iff]
  exact ⟨inRange, Nat.mod_eq_of_lt (encode_lt index inRange).1⟩

theorem encode_injective {left right : RawHandleIndex} {leftGeneration rightGeneration : UInt32}
    (leftInRange : self.InRange leftGeneration)
    (rightInRange : self.InRange rightGeneration)
    (same : self.encode left leftGeneration = self.encode right rightGeneration) :
    left = right ∧ leftGeneration = rightGeneration := by
  have decoded := decode_encode left leftInRange
  rw [same, decode_encode right rightInRange] at decoded
  cases decoded
  exact ⟨rfl, rfl⟩

end Tokens

end SyntheticRawHandleTable

end HydraSeat.GateC
