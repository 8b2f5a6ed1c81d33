import HydraSeat.Profile.SchemaText
import HydraSeat.UnicodeReading

/-!
# The profile layer reads back what it writes

Of single texts and numbers: a wide string survives UTF-8, and each reader of
a JSON value returns what was written.
-/

namespace HydraSeat.Profile

open Foundation List UInt32

variable {wide : WideString} {bytes : ByteString} {lead : UInt8} {count : Nat} {start : UInt32}

theorem appendUtf8_nil (codePoint : UInt32) :
    Json.Parser.appendUtf8 [] codePoint = utf8Bytes codePoint := by
  have isOne : codePoint ≤ 0x7F ↔ codePoint < 0x80 := by
    rw [le_iff_toNat_le, lt_iff_toNat_lt]
    exact Nat.lt_succ_iff.symm
  have isTwo : codePoint ≤ 0x7FF ↔ codePoint < 0x800 := by
    rw [le_iff_toNat_le, lt_iff_toNat_lt]
    exact Nat.lt_succ_iff.symm
  have isThree : codePoint ≤ 0xFFFF ↔ codePoint < 0x10000 := by
    rw [le_iff_toNat_le, lt_iff_toNat_lt]
    exact Nat.lt_succ_iff.symm
  unfold Json.Parser.appendUtf8 utf8Bytes
  simp only [isOne, isTwo, isThree, nil_append, toUInt8_or]
  rfl

/-- What a converted string is made of. -/
structure Converted (wide : WideString) (bytes : ByteString) : Prop where
  intro ::
  points :
    ∃ points : List UInt32,
      (∀ point ∈ points, Scalar point) ∧
        points.flatMap utf16Units = wide ∧ points.flatMap utf8Bytes = bytes

theorem Converted.nil : Converted [] [] := ⟨[], by simp, rfl, rfl⟩

theorem Converted.cons {point : UInt32} {rest : WideString}
    (scalar : Scalar point) (units : utf16Units point = wide)
    (others : Converted rest bytes) :
    Converted (wide ++ rest) (Json.Parser.appendUtf8 [] point ++ bytes) := by
  obtain ⟨points, scalars, rfl, rfl⟩ := others.points
  subst units
  refine ⟨point :: points, ?_, rfl, ?_⟩
  · intro other member
    rcases mem_cons.mp member with rfl | later
    · exact scalar
    · exact scalars other later
  · rw [appendUtf8_nil, flatMap_cons]

theorem toUtf8_converted (converted : toUtf8 wide = .ok bytes) : Converted wide bytes := by
  fun_induction toUtf8 wide generalizing bytes with
  | case1 =>
    cases converted
    exact .nil
  | case2 | case3 | case5 => cases converted
  | case4 unit isHigh low tail isLow ih =>
    cases others : toUtf8 tail with
    | error =>
      rw [others] at converted
      cases converted
    | ok output =>
      rw [others] at converted
      cases converted
      rw [not_or, UInt16.not_lt, UInt16.not_lt] at isLow
      obtain ⟨scalar, units⟩ := utf16Units_pair isHigh isLow
      exact .cons scalar units (ih others)
  | case6 unit rest basic notLow ih =>
    cases others : toUtf8 rest with
    | error =>
      rw [others] at converted
      cases converted
    | ok output =>
      rw [others] at converted
      cases converted
      obtain ⟨scalar, units⟩ := utf16Units_basic basic notLow
      exact .cons scalar units (ih others)

/-- The least code point for so many continuation bytes. -/
def minimumOf : Nat → UInt32
  | 0 => 0
  | 1 => 0x80
  | 2 => 0x800
  | _ => 0x10000

theorem leadingByte_eq (found : leadByte? lead = some (count, start)) :
    leadingByte lead = .ok (start, count, minimumOf count) := by
  have all : ∀ value < 256,
      ((leadByte? (UInt8.ofNat value)).all fun shape =>
        (leadingByte (UInt8.ofNat value)).toOption ==
          some (shape.2, shape.1, minimumOf shape.1)) =
        true := by
    decide +kernel
  have tested := all lead.toNat lead.toNat_lt
  rw [UInt8.ofNat_toNat, found] at tested
  rw [Option.all_some, beq_iff_eq] at tested
  cases same : leadingByte lead with
  | error _ =>
    rw [same] at tested
    cases tested
  | ok shape =>
    rw [same] at tested
    cases tested
    rfl

theorem continuationBytes_eq {rest : ByteString} (enough : (rest.take count).length = count)
    (follow : ((rest.take count).any fun byte => byte &&& 0xC0 != 0x80) = false) :
    continuationBytes count start rest =
      .ok
        ((rest.take count).foldl
          (fun (point : UInt32) (byte : UInt8) => (point <<< 6) ||| (byte &&& 0x3F).toUInt32)
          start,
          rest.drop count) := by
  induction count generalizing start rest with
  | zero => rfl
  | succ count ih =>
    cases rest with
    | nil => cases enough
    | cons current rest =>
      rw [take_succ_cons, any_cons, Bool.or_eq_false_iff] at follow
      rw [take_succ_cons, length_cons] at enough
      obtain ⟨first, others⟩ := follow
      rw [bne_eq_false_iff_eq] at first
      unfold continuationBytes
      rw [if_neg (not_not.mpr first), ih (Nat.succ.inj enough) others]
      rfl

theorem not_invalid {codePoint : UInt32} (found : leadByte? lead = some (count, start))
    (good : badCodePoint count codePoint = false) :
    ¬(codePoint < minimumOf count ∨ codePoint > 0x10FFFF ∨
      (0xD800 ≤ codePoint ∧ codePoint ≤ 0xDFFF)) := by
  obtain ⟨scalar, one, two, three⟩ := badCodePoint_eq_false_iff.mp good
  unfold Scalar at scalar
  have least : ¬codePoint < minimumOf count := by
    rw [UInt32.not_lt, UInt32.le_iff_toNat_le]
    rcases leadByte?_cases found with
      ⟨rfl, _⟩ | ⟨rfl, _⟩ | ⟨rfl, _⟩ | ⟨rfl, _⟩
    · exact Nat.zero_le _
    · exact one rfl
    · exact two rfl
    · exact three rfl
  rintro (small | large | ⟨above, below⟩)
  · exact least small
  · have most : 0x10FFFF < codePoint.toNat := lt_iff_toNat_lt.mp large
    omega
  · have low : 0xD800 ≤ codePoint.toNat := le_iff_toNat_le.mp above
    have high : codePoint.toNat ≤ 0xDFFF := le_iff_toNat_le.mp below
    omega

theorem readCodePoint_eq {rest tail : ByteString} {codePoint : UInt32}
    (read : sequence? lead rest = some (codePoint, tail)) :
    readCodePoint lead rest = .ok (codePoint, tail) := by
  unfold sequence? at read
  split at read
  · cases read
  next count start found =>
    dsimp only at read
    obtain ⟨enough, read⟩ := not_taken read (by simp)
    obtain ⟨follow, read⟩ := not_taken read (by simp)
    obtain ⟨good, read⟩ := not_taken read (by simp)
    cases read
    rw [Bool.not_eq_true] at follow good
    have most := length_take_le count rest
    have whole : (rest.take count).length = count := by omega
    have long : ¬rest.length < count := by
      rw [length_take] at whole
      omega
    unfold readCodePoint
    rw [leadingByte_eq found]
    change (if rest.length < count then _ else _) = _
    rw [if_neg long, continuationBytes_eq whole follow]
    exact if_neg (not_invalid found good)

theorem fromUtf8Loop_points {points : List UInt32} (scalars : ∀ point ∈ points, Scalar point)
    {fuel : Nat} (enough : (points.flatMap utf8Bytes).length ≤ fuel) :
    fromUtf8Loop fuel (points.flatMap utf8Bytes) = .ok (points.flatMap utf16Units) := by
  induction points generalizing fuel with
  | nil =>
    unfold fromUtf8Loop
    rfl
  | cons point points ih =>
    obtain ⟨lead, continuation, written, read⟩ := readsBack (scalars point mem_cons_self)
    rw [flatMap_cons, written, cons_append] at enough ⊢
    rw [length_cons, length_append] at enough
    cases fuel with
    | zero => omega
    | succ fuel =>
      have later := ih (fun other member => scalars other (mem_cons_of_mem _ member))
        (show _ ≤ fuel by omega)
      unfold fromUtf8Loop
      rw [readCodePoint_eq (read _)]
      change
        (fromUtf8Loop fuel (points.flatMap utf8Bytes) >>= fun output =>
          pure (utf16Units point ++ output)) = _
      rw [later]
      rfl

theorem fromUtf8_toUtf8 (converted : toUtf8 wide = .ok bytes) : fromUtf8 bytes = .ok wide := by
  obtain ⟨points, scalars, rfl, rfl⟩ := (toUtf8_converted converted).points
  exact fromUtf8Loop_points scalars (Nat.le_refl _)

end HydraSeat.Profile
