import HydraSeat.Profile.LegacyJson
import HydraSeat.Profile.TextLaws

/-!
# Legacy strings are carried over without loss

The conversion of the migration checks nothing.  On the strings that its
parser lets through it has an inverse, the conversion with which the profile
layer writes wide strings.
-/

namespace HydraSeat.Profile.Migration

open Foundation UInt32

variable {lead : UInt8} {start minimum : UInt32} {count : Nat} {text : ByteString}

/-- A lead byte that no code point has. -/
inductive Overlong : UInt32 → Nat → UInt32 → Prop
  | two {start : UInt32} (small : start.toNat < 2) : Overlong start 1 0x80
  | four {start : UInt32} (large : 4 < start.toNat)
      (bounded : start.toNat < 8) : Overlong start 3 0x10000

theorem leading?_cases (found : leading? lead = some (start, count, minimum)) :
    leading lead = (start, count) ∧
      (leadByte? lead = some (count, start) ∧ minimum = minimumOf count ∨
        Overlong start count minimum) := by
  have all : ∀ value < 256,
      ((leading? (UInt8.ofNat value)).all fun shape =>
        leading (UInt8.ofNat value) == (shape.1, shape.2.1) &&
          (leadByte? (UInt8.ofNat value) == some (shape.2.1, shape.1) &&
              shape.2.2 == minimumOf shape.2.1 ||
            shape.2.1 == 1 && decide (shape.1.toNat < 2) && shape.2.2 == 0x80 ||
            shape.2.1 == 3 && decide (4 < shape.1.toNat) &&
              decide (shape.1.toNat < 8) && shape.2.2 == 0x10000)) =
        true := by
    decide +kernel
  have tested := all lead.toNat lead.toNat_lt
  rw [UInt8.ofNat_toNat, found] at tested
  simp only [Option.all_some, Bool.and_eq_true, Bool.or_eq_true, beq_iff_eq,
    decide_eq_true_eq] at tested
  refine ⟨tested.1, ?_⟩
  rcases tested.2 with
    (known | ⟨⟨rfl, small⟩, rfl⟩) | ⟨⟨⟨rfl, large⟩, bounded⟩, rfl⟩
  · exact .inl known
  · exact .inr (.two small)
  · exact .inr (.four large bounded)

theorem pushed_four {first second third : UInt8} (bounded : start.toNat < 8) :
    ([first, second, third].foldl pushBits start).toNat =
      ((start.toNat * 64 + first.toNat % 64) * 64 + second.toNat % 64) * 64 + third.toNat % 64 := by
  have one := pushByte_toNat first (show start.toNat < 2 ^ 20 by omega)
  have two := pushByte_toNat second (show (pushByte start first).toNat < 2 ^ 20 by omega)
  have three := pushByte_toNat third
    (show (pushByte (pushByte start first) second).toNat < 2 ^ 20 by omega)
  change (pushByte (pushByte (pushByte start first) second) third).toNat = _
  rw [three, two, one]

theorem overlong_invalid (overlong : Overlong start count minimum) {follow : ByteString}
    (long : follow.length = count) :
    follow.foldl pushBits start < minimum ∨ follow.foldl pushBits start > 0x10FFFF := by
  cases overlong with
  | two small =>
    obtain ⟨byte, rfl⟩ := List.length_eq_one_iff.mp long
    have value := pushByte_toNat byte (show start.toNat < 2 ^ 20 by omega)
    refine .inl (lt_iff_toNat_lt.mpr ?_)
    change (pushByte start byte).toNat < 128
    omega
  | four large bounded =>
    obtain ⟨first, second, third, rfl⟩ := List.length_eq_three.mp long
    refine .inr (lt_iff_toNat_lt.mpr ?_)
    rw [pushed_four bounded]
    change 1114111 < _
    omega

theorem sequence?_of_valid {rest : ByteString}
    (found : leading? lead = some (start, count, minimum))
    (long : ¬rest.length < count)
    (follow : ¬((rest.take count).any fun current => current &&& 0xC0 != 0x80) = true)
    (valid :
      ¬((rest.take count).foldl pushBits start < minimum ∨
        (rest.take count).foldl pushBits start > 0x10FFFF ∨
        (0xD800 ≤ (rest.take count).foldl pushBits start ∧
          (rest.take count).foldl pushBits start ≤ 0xDFFF))) :
    sequence? lead rest = some ((rest.take count).foldl pushBits start, rest.drop count) := by
  have whole : (rest.take count).length = count := by
    rw [List.length_take]
    omega
  obtain ⟨_, ⟨known, rfl⟩ | overlong⟩ := leading?_cases found
  · have good : badCodePoint count ((rest.take count).foldl pushBits start) = false := by
      generalize (rest.take count).foldl pushBits start = point at valid ⊢
      simp only [not_or, lt_iff_toNat_lt, le_iff_toNat_le, Nat.not_lt, gt_iff_lt, not_and] at valid
      obtain ⟨least, most, apart⟩ := valid
      change point.toNat ≤ 1114111 at most
      change 55296 ≤ point.toNat → ¬point.toNat ≤ 57343 at apart
      refine badCodePoint_eq_false_iff.mpr ⟨?_, ?_, ?_, ?_⟩
      · unfold Scalar
        omega
      · rintro rfl
        exact least
      · rintro rfl
        exact least
      · rintro rfl
        exact least
    unfold sequence?
    rw [known]
    dsimp only
    rw [whole, if_neg (Nat.lt_irrefl _), if_neg follow]
    change (if badCodePoint count ((rest.take count).foldl pushBits start) =
      true then none else _) = _
    rw [good, if_neg Bool.false_ne_true]
    rfl
  · exact absurd ((overlong_invalid overlong whole).imp id .inl) valid

theorem validUtf8Loop_points {fuel : Nat} (valid : validUtf8Loop fuel text = true) :
    ∃ points, codePoints? fuel text = some points ∧
      fromUtf8Loop fuel text = points.flatMap utf16Units := by
  induction fuel generalizing text with
  | zero =>
    cases text with
    | nil => exact ⟨[], rfl, rfl⟩
    | cons lead rest => cases valid
  | succ fuel ih =>
    cases text with
    | nil => exact ⟨[], rfl, rfl⟩
    | cons lead rest =>
      unfold validUtf8Loop at valid
      split at valid
      · cases valid
      next start count minimum found =>
        obtain ⟨long, valid⟩ := not_taken valid (by simp)
        obtain ⟨follow, valid⟩ := not_taken valid (by simp)
        dsimp only at valid
        obtain ⟨good, valid⟩ := not_taken valid (by simp)
        obtain ⟨points, later, units⟩ := ih valid
        have read := sequence?_of_valid found long follow good
        refine ⟨(rest.take count).foldl pushBits start :: points, ?_, ?_⟩
        · unfold codePoints?
          rw [read]
          dsimp only
          rw [later]
          rfl
        · unfold fromUtf8Loop
          rw [(leading?_cases found).1]
          dsimp only
          rw [units]
          rfl

theorem toUtf8_of_wideCodePoints? {wide : WideString}
    {points : List UInt32} (read : wideCodePoints? wide = some points) :
    toUtf8 wide = .ok (points.flatMap utf8Bytes) := by
  fun_induction wideCodePoints? wide generalizing points with
  | case1 =>
    cases read
    rfl
  | case2 | case4 | case5 => cases read
  | case3 unit isHigh low tail isLow ih =>
    obtain ⟨later, others, rfl⟩ := Option.map_eq_some_iff.mp read
    have notOutside : ¬(low < 0xDC00 ∨ low > 0xDFFF) := by
      rw [not_or, UInt16.not_lt, gt_iff_lt, UInt16.not_lt]
      exact isLow
    unfold toUtf8
    rw [if_pos isHigh]
    dsimp only
    rw [if_neg notOutside, ih others]
    change Except.ok (Json.Parser.appendUtf8 [] _ ++ _) = _
    rw [appendUtf8_nil]
    rfl
  | case6 unit rest basic notLow ih =>
    obtain ⟨later, others, rfl⟩ := Option.map_eq_some_iff.mp read
    unfold toUtf8
    rw [if_neg basic, if_neg notLow, ih others]
    change Except.ok (Json.Parser.appendUtf8 [] _ ++ _) = _
    rw [appendUtf8_nil]
    rfl

theorem toUtf8_fromUtf8 (valid : validUtf8 text = true) : toUtf8 (fromUtf8 text) = .ok text := by
  obtain ⟨points, isPoints, units⟩ := validUtf8Loop_points valid
  obtain ⟨scalars, written⟩ := codePoints?_eq_some isPoints
  unfold fromUtf8
  rw [units, toUtf8_of_wideCodePoints? (wideCodePoints?_units scalars), written]

end HydraSeat.Profile.Migration
