import HydraSeat.Materialization.DecisionText
import HydraSeat.Profile.TextLaws

/-!
# Which paths survive UTF-8

The store writes every well formed path and refuses to read one with a
control character.  A path is read back if and only if it has none.
-/

namespace HydraSeat.Materialization

open List Profile UInt32

open Profile (Converted)

variable {lead : UInt8} {codePoint : UInt32} {bytes : ByteString} {wide : WideString}

def PlainPoint (point : UInt32) : Prop := 32 ≤ point.toNat ∧ point.toNat ≠ 127

/-- No unit of the path is a control character of ASCII. -/
def PlainPath (path : WideString) : Prop := ∀ unit ∈ path, 32 ≤ unit.toNat ∧ unit.toNat ≠ 127

theorem utf16Units_plain_iff {point : UInt32} (scalar : Scalar point) :
    PlainPath (utf16Units point) ↔ PlainPoint point := by
  unfold PlainPath PlainPoint utf16Units
  split
  next small =>
    have bounded : point.toNat < 65536 := lt_iff_toNat_lt.mp small
    have same : point.toUInt16.toNat = point.toNat := by
      rw [UInt32.toNat_toUInt16]
      exact Nat.mod_eq_of_lt bounded
    rw [List.forall_mem_singleton, same]
  next large =>
    rw [UInt32.lt_iff_toNat_lt, Nat.not_lt] at large
    change 65536 ≤ point.toNat at large
    unfold Scalar at scalar
    have offset : (point - 0x10000).toNat = point.toNat - 0x10000 :=
      UInt32.toNat_sub_of_le _ _ (UInt32.le_iff_toNat_le.mpr large)
    generalize point - 0x10000 = distance at offset
    have top : (distance >>> 10).toNat = distance.toNat / 1024 :=
      shifted_toNat distance 10 (by decide)
    have bottom : (distance &&& 0x3FF).toNat = distance.toNat % 1024 := by
      rw [UInt32.toNat_and]
      exact Nat.and_two_pow_sub_one_eq_mod distance.toNat 10
    have high :
        ((0xD800 : UInt16) + (distance >>> 10).toUInt16).toNat =
          0xD800 + distance.toNat / 1024 := by
      rw [UInt16.toNat_add, toNat_toUInt16, top]
      change (55296 + distance.toNat / 1024 % 2 ^ 16) % 2 ^ 16 = _
      omega
    have low :
        ((0xDC00 : UInt16) + (distance &&& 0x3FF).toUInt16).toNat =
          0xDC00 + distance.toNat % 1024 := by
      rw [UInt16.toNat_add, toNat_toUInt16, bottom]
      change (56320 + distance.toNat % 1024 % 2 ^ 16) % 2 ^ 16 = _
      omega
    rw [forall_mem_cons, forall_mem_singleton, high, low]
    omega

theorem units_plain_iff {points : List UInt32} (scalars : ∀ point ∈ points, Scalar point) :
    PlainPath (points.flatMap utf16Units) ↔ ∀ point ∈ points, PlainPoint point := by
  induction points with
  | nil => exact ⟨fun _ => nofun, fun _ => nofun⟩
  | cons point points ih =>
    obtain ⟨scalar, scalars⟩ := forall_mem_cons.mp scalars
    rw [flatMap_cons, forall_mem_cons, ← utf16Units_plain_iff scalar, ← ih scalars]
    exact forall_mem_append

def controlByte (lead : UInt8) : Prop := lead < 0x20 ∨ lead = 0x7F

instance (lead : UInt8) : Decidable (controlByte lead) := inferInstanceAs (Decidable (_ ∨ _))

theorem leadingByte?_eq (lead : UInt8) :
    leadingByte? lead = if controlByte lead then none
      else (leadByte? lead).map Prod.swap := by
  have all : ∀ value < 256,
      leadingByte? (UInt8.ofNat value) = if controlByte (UInt8.ofNat value) then none
        else (leadByte? (UInt8.ofNat value)).map Prod.swap := by
    decide +kernel
  have found := all lead.toNat lead.toNat_lt
  rwa [UInt8.ofNat_toNat] at found

theorem two_bytes_least {start : UInt32} {follow : ByteString}
    (found : leadByte? lead = some (1, start)) (one : follow.length = 1) :
    0x80 ≤ (follow.foldl pushByte start).toNat := by
  obtain ⟨byte, rfl⟩ := length_eq_one_iff.mp one
  have shape := leadByte?_cases found
  have small : start.toNat < 2 ^ 20 := by omega
  change 128 ≤ (pushByte start byte).toNat
  rw [pushByte_toNat byte small]
  omega

theorem badCodePoint_iff {count : Nat} (least : count = 1 → 0x80 ≤ codePoint.toNat) :
    badCodePoint count codePoint = true ↔
      (count = 2 ∧ codePoint < 0x800) ∨ (count = 3 ∧ codePoint < 0x10000) ∨ codePoint > 0x10FFFF ∨
        (0xD800 ≤ codePoint ∧ codePoint ≤ 0xDFFF) := by
  unfold badCodePoint
  simp [UInt32.lt_iff_toNat_lt, UInt32.le_iff_toNat_le]
  omega

/-- The store reads the sequences that the host reads, but for control
characters. -/
theorem readSequence?_eq (lead : UInt8) (rest : ByteString) :
    readSequence? lead rest = if controlByte lead then none else sequence? lead rest := by
  unfold readSequence? sequence?
  rw [leadingByte?_eq]
  by_cases control : controlByte lead
  · rw [if_pos control, if_pos control]
  rw [if_neg control, if_neg control]
  cases found : leadByte? lead with
  | none => rfl
  | some shape =>
    obtain ⟨count, start⟩ := shape
    dsimp only [Option.map_some, Prod.swap]
    by_cases short : (rest.take count).length < count
    · rw [if_pos short, if_pos short]
    rw [if_neg short, if_neg short]
    have most := length_take_le count rest
    have least (one : count = 1) : 0x80 ≤ ((rest.take count).foldl pushByte start).toNat := by
      subst one
      exact two_bytes_least found (by omega)
    congr 1
    exact if_congr (badCodePoint_iff least).symm rfl rfl

theorem controlByte_iff (lead : UInt8) :
    ¬controlByte lead ↔ 32 ≤ lead.toNat ∧ lead.toNat ≠ 127 := by
  unfold controlByte
  rw [not_or, UInt8.not_lt, UInt8.le_iff_toNat_le, ← UInt8.toNat_inj]
  exact Iff.rfl

theorem tagged_le (tag value : UInt8) : tag.toNat ≤ (tag ||| value).toNat := by
  rw [UInt8.toNat_or]
  exact Nat.left_le_or

theorem utf8Bytes_head {rest : ByteString} (written : utf8Bytes codePoint = lead :: rest) :
    codePoint.toNat < 0x80 ∧ lead.toNat = codePoint.toNat ∨
      0x80 ≤ codePoint.toNat ∧ 0xC0 ≤ lead.toNat := by
  unfold utf8Bytes at written
  split at written
  next one =>
    cases written
    have small : codePoint.toNat < 128 := lt_iff_toNat_lt.mp one
    refine .inl ⟨small, ?_⟩
    rw [toNat_toUInt8]
    exact Nat.mod_eq_of_lt (by omega)
  next large =>
    rw [UInt32.lt_iff_toNat_lt, Nat.not_lt] at large
    refine .inr ⟨large, ?_⟩
    split at written
    · cases written
      exact tagged_le 0xC0 _
    split at written
    · cases written
      exact (show 192 ≤ 224 by decide).trans (tagged_le 0xE0 _)
    · cases written
      exact (show 192 ≤ 240 by decide).trans (tagged_le 0xF0 _)

theorem sequence?_plain_iff {rest tail : ByteString}
    (read : sequence? lead rest = some (codePoint, tail)) :
    ¬controlByte lead ↔ PlainPoint codePoint := by
  obtain ⟨scalar, written⟩ := sequence?_eq_some read
  obtain ⟨first, continuation, bytes, _⟩ := readsBack scalar
  rw [bytes, cons_append] at written
  obtain ⟨rfl, _⟩ := List.cons.inj written
  have head := utf8Bytes_head bytes
  rw [controlByte_iff]
  unfold PlainPoint
  omega

theorem utf8ToWideLoop_eq_some_iff {fuel : Nat} :
    utf8ToWideLoop fuel bytes = some wide ↔
      ∃ points, codePoints? fuel bytes = some points ∧ (∀ point ∈ points, PlainPoint point) ∧
        points.flatMap utf16Units = wide := by
  induction fuel generalizing bytes wide with
  | zero =>
    cases bytes with
    | nil =>
      constructor
      · rintro ⟨⟩
        exact ⟨[], rfl, by simp, rfl⟩
      · rintro ⟨_, ⟨⟩, _, rfl⟩
        rfl
    | cons lead rest => exact ⟨nofun, nofun⟩
  | succ fuel ih =>
    cases bytes with
    | nil =>
      constructor
      · rintro ⟨⟩
        exact ⟨[], rfl, by simp, rfl⟩
      · rintro ⟨_, ⟨⟩, _, rfl⟩
        rfl
    | cons lead rest =>
      unfold utf8ToWideLoop codePoints?
      rw [readSequence?_eq]
      cases read : sequence? lead rest with
      | none =>
        rw [ite_self]
        exact ⟨by simp, by simp⟩
      | some found =>
        obtain ⟨codePoint, tail⟩ := found
        have plain := sequence?_plain_iff read
        by_cases control : controlByte lead
        · rw [if_pos control]
          refine ⟨by simp, ?_⟩
          rintro ⟨_, isPoints, points, _⟩
          obtain ⟨_, _, rfl⟩ := Option.map_eq_some_iff.mp isPoints
          exact absurd (points codePoint mem_cons_self) (plain.not.mp (not_not.mpr control))
        · rw [if_neg control]
          dsimp only
          rw [Option.map_eq_some_iff]
          constructor
          · rintro ⟨later, isLater, rfl⟩
            obtain ⟨points, isPoints, each, rfl⟩ := ih.mp isLater
            refine ⟨codePoint :: points, ?_, ?_, rfl⟩
            · rw [isPoints]
              rfl
            · exact forall_mem_cons.mpr ⟨plain.mp control, each⟩
          · rintro ⟨_, isPoints, each, rfl⟩
            obtain ⟨points, later, rfl⟩ := Option.map_eq_some_iff.mp isPoints
            refine ⟨points.flatMap utf16Units, ?_, rfl⟩
            exact ih.mpr ⟨points, later, (forall_mem_cons.mp each).2, rfl⟩

theorem utf8ToWide_plain (read : utf8ToWide bytes = some wide) : PlainPath wide := by
  obtain ⟨points, isPoints, each, rfl⟩ := utf8ToWideLoop_eq_some_iff.mp read
  exact (units_plain_iff (codePoints?_eq_some isPoints).1).mpr each

theorem toUtf8_of_wideToUtf8 (converted : wideToUtf8 wide = some bytes) :
    toUtf8 wide = .ok bytes := by
  fun_induction wideToUtf8 wide generalizing bytes with
  | case1 =>
    cases converted
    rfl
  | case2 | case3 | case5 => cases converted
  | case4 unit isHigh low tail isLow ih =>
    obtain ⟨output, others, rfl⟩ := Option.map_eq_some_iff.mp converted
    unfold toUtf8
    rw [if_pos isHigh]
    dsimp only
    rw [if_neg isLow, ih others]
    change Except.ok (Json.Parser.appendUtf8 [] _ ++ output) = _
    rw [appendUtf8_nil]
  | case6 unit rest basic notLow ih =>
    obtain ⟨output, others, rfl⟩ := Option.map_eq_some_iff.mp converted
    unfold toUtf8
    rw [if_neg basic, if_neg notLow, ih others]
    change Except.ok (Json.Parser.appendUtf8 [] _ ++ output) = _
    rw [appendUtf8_nil]

theorem utf8ToWide_of_plain (converted : wideToUtf8 wide = some bytes) (plain : PlainPath wide) :
    utf8ToWide bytes = some wide := by
  obtain ⟨points, scalars, rfl, rfl⟩ := (toUtf8_converted (toUtf8_of_wideToUtf8 converted)).points
  refine utf8ToWideLoop_eq_some_iff.mpr ⟨points, ?_, ?_, rfl⟩
  · exact codePoints?_points scalars (Nat.le_refl _)
  · exact (units_plain_iff scalars).mp plain

end HydraSeat.Materialization
