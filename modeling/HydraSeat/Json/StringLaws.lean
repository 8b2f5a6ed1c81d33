import HydraSeat.Foundation.Bits
import HydraSeat.Json.Grammar
import HydraSeat.Json.StrictJson

/-!
# What `parseString` reads

The parser reads exactly the strings of the grammar in which every escaped
surrogate has its partner, and returns what they stand for.
-/

namespace HydraSeat.Json

open Foundation Foundation.Descent List Parser

variable {missing value final : Nat} {suffix rest : List UInt8} {point : Nat}

theorem digitOf_eq {ch first : UInt8} (base : UInt8) (low : first ≤ ch)
    (small : ch.toNat - first.toNat + base.toNat < 256) :
    (ch - first + base).toUInt32 = UInt32.ofNat (ch.toNat - first.toNat + base.toNat) := by
  rw [← UInt32.toNat_inj, UInt8.toNat_toUInt32, UInt8.toNat_add,
    UInt8.toNat_sub_of_le ch first low, UInt32.toNat_ofNat',
    Nat.mod_eq_of_lt small, Nat.mod_eq_of_lt (by omega)]

theorem hexValue?_eq (ch : UInt8) : hexValue? ch = (hexDigit? ch).map UInt32.ofNat := by
  unfold hexValue? hexDigit?
  split
  next digit =>
    have high := UInt8.le_iff_toNat_le.mp digit.2
    change ch.toNat ≤ 57 at high
    have spelled := digitOf_eq 0 digit.1 (by
      change ch.toNat - 48 + 0 < 256
      omega)
    rw [UInt8.add_zero] at spelled
    rw [spelled]
    rfl
  · split
    next lower =>
      have high := UInt8.le_iff_toNat_le.mp lower.2
      change ch.toNat ≤ 102 at high
      rw [digitOf_eq 10 lower.1 (by
        change ch.toNat - 97 + 10 < 256
        omega)]
      rfl
    · split
      next upper =>
        have high := UInt8.le_iff_toNat_le.mp upper.2
        change ch.toNat ≤ 70 at high
        rw [digitOf_eq 10 upper.1 (by
          change ch.toNat - 65 + 10 < 256
          omega)]
        rfl
      · rfl

theorem hexDigit?_lt {byte : UInt8} {digit : Nat}
    (isDigit : hexDigit? byte = some digit) : digit < 16 := by
  unfold hexDigit? at isDigit
  split at isDigit
  next decimal =>
    have high := UInt8.le_iff_toNat_le.mp decimal.2
    change byte.toNat ≤ 57 at high
    cases isDigit
    omega
  · split at isDigit
    next lower =>
      have high := UInt8.le_iff_toNat_le.mp lower.2
      change byte.toNat ≤ 102 at high
      cases isDigit
      omega
    · split at isDigit
      next upper =>
        have high := UInt8.le_iff_toNat_le.mp upper.2
        change byte.toNat ≤ 70 at high
        cases isDigit
        omega
      · cases isDigit

theorem HexDigits.lt {text : List UInt8} (digits : HexDigits missing value text final rest) :
    final < (value + 1) * 16 ^ missing := by
  induction digits with
  | done => omega
  | @digit missing value digit final byte tail rest isDigit _ ih =>
    have small := hexDigit?_lt isDigit
    calc final < (value * 16 + digit + 1) * 16 ^ missing := ih
      _ ≤ ((value + 1) * 16) * 16 ^ missing := Nat.mul_le_mul_right _ (by omega)
      _ = (value + 1) * 16 ^ (missing + 1) := by
          rw [Nat.mul_assoc, Nat.pow_succ']

theorem HexDigits.isSuffix {text : List UInt8}
    (digits : HexDigits missing value text final rest) :
    rest <:+ text := by
  induction digits with
  | done => exact suffix_refl _
  | digit _ _ ih => exact ih.trans (suffix_cons _ _)

theorem pushDigit_eq (value digit : Nat) :
    (UInt32.ofNat value <<< 4) + UInt32.ofNat digit = UInt32.ofNat (value * 16 + digit) := by
  rw [← UInt32.toNat_inj, UInt32.toNat_add, UInt32.toNat_shiftLeft,
    UInt32.toNat_ofNat', UInt32.toNat_ofNat', UInt32.toNat_ofNat']
  change ((value % 2 ^ 32) <<< 4 % 2 ^ 32 + digit % 2 ^ 32) % 2 ^ 32 = _
  rw [Nat.shiftLeft_eq]
  omega

variable {text : ByteString} {tally : Nat}

theorem hexDigits_complete (digits : HexDigits missing value suffix final rest)
    (isSuffix : suffix <:+ text) :
    hexDigits text missing (UInt32.ofNat value) (cursorAt text suffix tally) =
      .ok (UInt32.ofNat final, cursorAt text rest tally) := by
  induction digits with
  | done => rfl
  | digit isDigit _ ih =>
    unfold hexDigits
    rw [bind_eq (atEnd_eq isSuffix), isEmpty_cons, if_neg nofun,
      bind_eq (nextByte_cons isSuffix), hexValue?_eq, isDigit]
    dsimp only [Option.map_some]
    rw [pushDigit_eq]
    exact ih (tail_isSuffix isSuffix)

theorem hex4_complete {unit : Nat} (digits : Hex4 suffix unit rest) (isSuffix : suffix <:+ text) :
    hex4 text (cursorAt text suffix tally) = .ok (UInt32.ofNat unit, cursorAt text rest tally) :=
  hexDigits_complete digits isSuffix

theorem hexDigits_reads (missing value : Nat) {suffix : List UInt8} (isSuffix : suffix <:+ text) :
    Consumes text (hexDigits text missing (UInt32.ofNat value)) suffix
      tally fun read after rest =>
        after = tally ∧
          ∃ final, read = UInt32.ofNat final ∧ HexDigits missing value suffix final rest := by
  induction missing generalizing value suffix with
  | zero => exact .pure ⟨rfl, value, rfl, .done⟩
  | succ missing ih =>
    unfold hexDigits
    refine .step (atEnd_eq isSuffix) (suffix_refl _) ?_
    cases suffix with
    | nil => exact .refuse _
    | cons byte tail =>
      rw [isEmpty_cons, if_neg nofun]
      refine .step (nextByte_cons isSuffix) (suffix_cons _ _) ?_
      rw [hexValue?_eq]
      cases isDigit : hexDigit? byte with
      | none => exact .refuse _
      | some digit =>
        dsimp only [Option.map_some]
        rw [pushDigit_eq]
        have others := ih (value * 16 + digit) (tail_isSuffix isSuffix)
        refine others.mono ?_
        rintro read after rest _ ⟨kept, final, rfl, digits⟩
        exact ⟨kept, final, rfl, .digit isDigit digits⟩

theorem taggedByte_eq (tag value bits high : Nat) (tagged : tag = high * 2 ^ bits)
    (small : value < 2 ^ bits) (byte : tag + value < 256) :
    (UInt32.ofNat tag ||| UInt32.ofNat value).toUInt8 = UInt8.ofNat (value + tag) := by
  rw [← UInt8.toNat_inj, UInt32.toNat_toUInt8, UInt32.toNat_or,
    UInt32.toNat_ofNat', UInt32.toNat_ofNat',
    Nat.mod_eq_of_lt (by omega : tag < 2 ^ 32),
    Nat.mod_eq_of_lt (by omega : value < 2 ^ 32),
    or_eq_add bits high tagged small, UInt8.toNat_ofNat', Nat.add_comm]

theorem shiftRight_eq (small : point < 2 ^ 32) (bits : UInt32) (narrow : bits.toNat < 32) :
    UInt32.ofNat point >>> bits = UInt32.ofNat (point / 2 ^ bits.toNat) := by
  have quotient : point / 2 ^ bits.toNat < 2 ^ 32 := (Nat.div_le_self _ _).trans_lt small
  rw [← UInt32.toNat_inj, UInt32.toNat_shiftRight, UInt32.toNat_ofNat',
    UInt32.toNat_ofNat', Nat.mod_eq_of_lt small,
    Nat.mod_eq_of_lt quotient, Nat.mod_eq_of_lt narrow,
    Nat.shiftRight_eq_div_pow]

theorem lowSix_eq (small : point < 2 ^ 32) :
    UInt32.ofNat point &&& 0x3F = UInt32.ofNat (point % 64) := by
  rw [← UInt32.toNat_inj, UInt32.toNat_and, UInt32.toNat_ofNat',
    UInt32.toNat_ofNat', Nat.mod_eq_of_lt small]
  change point &&& 2 ^ 6 - 1 = _
  rw [Nat.and_two_pow_sub_one_eq_mod]
  omega

theorem continuationByte_eq (small : point < 2 ^ 32) :
    ((0x80 : UInt32) ||| (UInt32.ofNat point &&& 0x3F)).toUInt8 =
      UInt8.ofNat (point % 64 + 0x80) := by
  rw [lowSix_eq small]
  exact taggedByte_eq 0x80 _ 6 2 rfl (Nat.mod_lt _ (by decide)) (by omega)

theorem appendUtf8_eq (output : ByteString) (valid : point.isValidChar) :
    appendUtf8 output (UInt32.ofNat point) = output ++ utf8 point := by
  have bounded : point < 0x110000 := by
    unfold Nat.isValidChar at valid
    omega
  have small : point < 2 ^ 32 := by omega
  have asChar : (Char.ofNat point).val.toNat = point := by
    unfold Char.ofNat
    rw [dif_pos valid]
    rfl
  have toNat : (UInt32.ofNat point).toNat = point := by
    rw [UInt32.toNat_ofNat']
    exact Nat.mod_eq_of_lt small
  have le_iff (bound : UInt32) : UInt32.ofNat point ≤ bound ↔ point ≤ bound.toNat := by
    rw [UInt32.le_iff_toNat_le, toNat]
  have isOne : UInt32.ofNat point ≤ 0x7F ↔ point ≤ 0x7F := le_iff 0x7F
  have isTwo : UInt32.ofNat point ≤ 0x7FF ↔ point ≤ 0x7FF := le_iff 0x7FF
  have isThree : UInt32.ofNat point ≤ 0xFFFF ↔ point ≤ 0xFFFF := le_iff 0xFFFF
  have six := shiftRight_eq small 6 (by decide)
  have twelve := shiftRight_eq small 12 (by decide)
  have eighteen := shiftRight_eq small 18 (by decide)
  change _ = UInt32.ofNat (point / 64) at six
  change _ = UInt32.ofNat (point / 4096) at twelve
  change _ = UInt32.ofNat (point / 262144) at eighteen
  have last := continuationByte_eq small
  have middle := continuationByte_eq ((Nat.div_le_self point 64).trans_lt small)
  have second := continuationByte_eq ((Nat.div_le_self point 4096).trans_lt small)
  unfold appendUtf8 utf8 String.utf8EncodeChar
  dsimp only
  rw [asChar, six, twelve, eighteen, last, middle, second]
  simp only [isOne, isTwo, isThree]
  by_cases one : point ≤ 0x7F
  · have spelled : (UInt32.ofNat point).toUInt8 = UInt8.ofNat point := by
      rw [← UInt8.toNat_inj, UInt32.toNat_toUInt8, toNat, UInt8.toNat_ofNat']
    rw [if_pos one, if_pos one, spelled]
  rw [if_neg one, if_neg one]
  by_cases two : point ≤ 0x7FF
  · have lead := taggedByte_eq 0xC0 (point / 64) 6 3 rfl (by omega) (by omega)
    rw [if_pos two, if_pos two, Nat.mod_eq_of_lt (by omega : point / 64 < 0x20), ← lead]
    rfl
  rw [if_neg two, if_neg two]
  by_cases three : point ≤ 0xFFFF
  · have lead := taggedByte_eq 0xE0 (point / 4096) 4 14 rfl (by omega) (by omega)
    rw [if_pos three, if_pos three, Nat.mod_eq_of_lt (by omega : point / 4096 < 0x10), ← lead]
    rfl
  · have lead := taggedByte_eq 0xF0 (point / 262144) 3 30 rfl (by omega) (by omega)
    rw [if_neg three, if_neg three, Nat.mod_eq_of_lt (by omega : point / 262144 < 0x08), ← lead]
    rfl

def strict : Dialect where
  space := isspace
  unpaired := none

/-- The bytes of an escape in front of its digits. -/
def startsEscape (suffix : List UInt8) : Bool := suffix.take 2 == [0x5C, 0x75]

theorem advance_escape {middle : List UInt8} (isSuffix : 0x5C :: 0x75 :: middle <:+ text) :
    advance 2 (cursorAt text (0x5C :: 0x75 :: middle) tally) =
      .ok ((), cursorAt text middle tally) :=
  advance_append [0x5C, 0x75] isSuffix

theorem startsEscape_iff (suffix : List UInt8) :
    startsEscape suffix = true ↔ ∃ tail, suffix = 0x5C :: 0x75 :: tail := by
  unfold startsEscape
  rw [beq_iff_eq]
  constructor
  · intro starts
    refine ⟨suffix.drop 2, ?_⟩
    rw [← take_append_drop 2 suffix, starts]
    rfl
  · rintro ⟨tail, rfl⟩
    rfl

theorem missingEscape_eq {suffix : List UInt8} (isSuffix : suffix <:+ text) :
    missingEscape text (cursorAt text suffix tally) =
      .ok (!startsEscape suffix, cursorAt text suffix tally) := by
  have fits := isSuffix.length_le
  unfold missingEscape
  rw [bind_eq here_eq]
  match suffix, isSuffix, fits with
  | [], _, _ =>
    rw [if_pos]
    · rfl
    · unfold cursorAt
      dsimp only [length_nil]
      omega
  | [byte], _, fits =>
    rw [length_singleton] at fits
    have short : startsEscape [byte] = false := by
      simp [startsEscape]
    rw [if_pos, short]
    · rfl
    · unfold cursorAt
      dsimp only [length_singleton]
      omega
  | byte :: letter :: tail, isSuffix, fits =>
    rw [length_cons, length_cons] at fits
    have next :
        (cursorAt text (byte :: letter :: tail) tally).position + 1 =
          (cursorAt text (letter :: tail) tally).position := by
      unfold cursorAt
      rw [length_cons, length_cons]
      dsimp only
      omega
    rw [if_neg, bind_eq (byteAt_cons isSuffix _)]
    · by_cases backslash : byte = 0x5C
      · rw [if_neg (not_not.mpr backslash), next, bind_eq (byteAt_cons (tail_isSuffix isSuffix) _)]
        have found : startsEscape (byte :: letter :: tail) = (letter == 0x75) := by
          simp [startsEscape, backslash]
        rw [found]
        rfl
      · have found : startsEscape (byte :: letter :: tail) = false := by
          simp [startsEscape, backslash]
        rw [if_pos backslash, found]
        rfl
    · unfold cursorAt
      rw [length_cons, length_cons]
      dsimp only
      omega

section Surrogates

variable {unit : Nat}
variable {high low : Nat}

section

variable (small : unit < 65536)
include small

theorem unit_le_iff (bound : UInt32) : UInt32.ofNat unit ≤ bound ↔ unit ≤ bound.toNat := by
  rw [UInt32.le_iff_toNat_le, UInt32.toNat_ofNat', Nat.mod_eq_of_lt (by omega)]

theorem le_unit_iff (bound : UInt32) : bound ≤ UInt32.ofNat unit ↔ bound.toNat ≤ unit := by
  rw [UInt32.le_iff_toNat_le, UInt32.toNat_ofNat', Nat.mod_eq_of_lt (by omega)]

theorem isHigh_iff :
    (0xD800 ≤ UInt32.ofNat unit ∧ UInt32.ofNat unit ≤ 0xDBFF) ↔ isHighSurrogate unit :=
  and_congr (le_unit_iff small 0xD800) (unit_le_iff small 0xDBFF)

theorem isLow_iff :
    (0xDC00 ≤ UInt32.ofNat unit ∧ UInt32.ofNat unit ≤ 0xDFFF) ↔ isLowSurrogate unit :=
  and_congr (le_unit_iff small 0xDC00) (unit_le_iff small 0xDFFF)

theorem notLow_iff :
    (UInt32.ofNat unit < 0xDC00 ∨ 0xDFFF < UInt32.ofNat unit) ↔ ¬ isLowSurrogate unit := by
  rw [← isLow_iff small, not_and_or, UInt32.not_le, UInt32.not_le]

end

theorem pairedCodePoint_eq (isHigh : isHighSurrogate high) (isLow : isLowSurrogate low) :
    (0x10000 : UInt32) + ((UInt32.ofNat high - 0xD800) <<< 10) + (UInt32.ofNat low - 0xDC00) =
      UInt32.ofNat (pairedCodePoint high low) := by
  obtain ⟨highLow, highHigh⟩ := isHigh
  obtain ⟨lowLow, lowHigh⟩ := isLow
  have highBits : (UInt32.ofNat high - 0xD800).toNat = high - 0xD800 := by
    rw [UInt32.toNat_sub_of_le _ _ ((le_unit_iff (by omega) _).mpr highLow), UInt32.toNat_ofNat',
      Nat.mod_eq_of_lt (by omega)]
    rfl
  have lowBits : (UInt32.ofNat low - 0xDC00).toNat = low - 0xDC00 := by
    rw [UInt32.toNat_sub_of_le _ _ ((le_unit_iff (by omega) _).mpr lowLow), UInt32.toNat_ofNat',
      Nat.mod_eq_of_lt (by omega)]
    rfl
  have ten : (10 : UInt32).toNat % 32 = 10 := rfl
  have plane : (0x10000 : UInt32).toNat = 0x10000 := rfl
  unfold pairedCodePoint
  rw [← UInt32.toNat_inj, UInt32.toNat_add, UInt32.toNat_add,
    UInt32.toNat_shiftLeft, highBits, lowBits, UInt32.toNat_ofNat', ten,
    plane, Nat.shiftLeft_eq]
  omega

theorem pairedCodePoint_valid (isHigh : isHighSurrogate high) (isLow : isLowSurrogate low) :
    (pairedCodePoint high low).isValidChar := by
  unfold isHighSurrogate at isHigh
  unfold isLowSurrogate at isLow
  unfold pairedCodePoint Nat.isValidChar
  omega

theorem unit_valid (small : unit < 65536)
    (scalar : ¬ isHighSurrogate unit ∧ ¬ isLowSurrogate unit) :
    unit.isValidChar := by
  unfold isHighSurrogate isLowSurrogate at scalar
  unfold Nat.isValidChar
  omega

end Surrogates

variable {suffix : List UInt8} {dialect : Dialect}

/-- The escape `\u` stands for one code point, of which the piece is the
UTF-8. -/
def Escape (suffix : List UInt8) (point : UInt32) (rest : List UInt8) : Prop :=
  ∃ value : Nat, point = UInt32.ofNat value ∧ value.isValidChar ∧
    Piece strict (0x5C :: 0x75 :: suffix) (utf8 value) rest

theorem unicodeEscape_reads (isSuffix : suffix <:+ text) :
    Consumes text (Parser.unicodeEscape text) suffix tally
      fun point after rest => after = tally ∧ Escape suffix point rest := by
  unfold Parser.unicodeEscape
  refine .bind (hexDigits_reads 4 0 isSuffix) ?_
  rintro _ _ middle shorter ⟨rfl, unit, rfl, digits⟩
  have small : unit < 65536 := digits.lt
  have isMiddle := shorter.trans isSuffix
  split
  next isHigh =>
    rw [isHigh_iff small] at isHigh
    refine .step (missingEscape_eq isMiddle) (suffix_refl _) ?_
    cases found : startsEscape middle with
    | false => exact .refuse _
    | true =>
      obtain ⟨tail, rfl⟩ := (startsEscape_iff middle).mp found
      have isTail := tail_isSuffix (tail_isSuffix isMiddle)
      rw [Bool.not_true, if_neg nofun]
      refine .step (advance_escape isMiddle) (suffix_append [0x5C, 0x75] tail) ?_
      refine .bind (hexDigits_reads 4 0 isTail) ?_
      rintro _ _ rest _ ⟨rfl, low, rfl, lowDigits⟩
      have lowSmall : low < 65536 := lowDigits.lt
      split
      · exact .refuse _
      next isLow =>
        rw [notLow_iff lowSmall, not_not] at isLow
        refine .pure ⟨rfl, _, pairedCodePoint_eq isHigh isLow,
          pairedCodePoint_valid isHigh isLow, ?_⟩
        exact .pair digits isHigh lowDigits isLow
  next notHigh =>
    rw [isHigh_iff small] at notHigh
    split
    · exact .refuse _
    next notLow =>
      rw [isLow_iff small] at notLow
      refine .pure ⟨rfl, unit, rfl, unit_valid small ⟨notHigh, notLow⟩, ?_⟩
      exact .codePoint digits ⟨notHigh, notLow⟩

variable {decoded : List UInt8}

theorem unicodeEscape_complete {suffix : List UInt8}
    (isSuffix : suffix <:+ text)
    (piece : Piece strict (0x5C :: 0x75 :: suffix) decoded rest) :
    ∃ value : Nat, decoded = utf8 value ∧ value.isValidChar ∧
      unicodeEscape text (cursorAt text suffix tally) =
        .ok (UInt32.ofNat value, cursorAt text rest tally) := by
  unfold unicodeEscape
  cases piece with
  | unescaped _ _ notBackslash => exact absurd rfl notBackslash
  | short escaped => cases escaped
  | unpaired _ _ stands => cases stands
  | @codePoint _ _ unit digits scalar =>
    have small : unit < 65536 := digits.lt
    refine ⟨unit, rfl, unit_valid small scalar, ?_⟩
    rw [bind_eq (hex4_complete digits isSuffix),
      if_neg fun isHigh => scalar.1 ((isHigh_iff small).mp isHigh),
      if_neg fun isLow => scalar.2 ((isLow_iff small).mp isLow)]
    rfl
  | @pair _ middle _ high low first isHigh second isLow =>
    have highSmall : high < 65536 := first.lt
    have lowSmall : low < 65536 := second.lt
    have isMiddle := first.isSuffix.trans isSuffix
    have isTail := tail_isSuffix (tail_isSuffix isMiddle)
    have found : startsEscape (0x5C :: 0x75 :: middle) = true :=
      (startsEscape_iff _).mpr ⟨middle, rfl⟩
    refine ⟨_, rfl, pairedCodePoint_valid isHigh isLow, ?_⟩
    rw [bind_eq (hex4_complete first isSuffix), if_pos ((isHigh_iff highSmall).mpr isHigh),
      bind_eq (missingEscape_eq isMiddle), found, Bool.not_true,
      if_neg nofun,
      bind_eq (advance_escape isMiddle),
      bind_eq (hex4_complete second isTail),
      if_neg fun notLow => (notLow_iff lowSmall).mp notLow isLow,
      pairedCodePoint_eq isHigh isLow]
    rfl

theorem escapedByte?_eq (escape : UInt8) : escapedByte? escape = shortEscape? escape := rfl

theorem Piece.length_lt {suffix : List UInt8}
    (piece : Piece dialect suffix decoded rest) :
    rest.length < suffix.length := by
  cases piece with
  | unescaped => exact Nat.lt_succ_self _
  | short =>
    rw [length_cons, length_cons]
    omega
  | codePoint hex | unpaired hex =>
    have shorter := hex.isSuffix.length_le
    rw [length_cons, length_cons]
    omega
  | pair first _ second =>
    have shorter := first.isSuffix.length_le
    have shortest := second.isSuffix.length_le
    rw [length_cons, length_cons] at shorter ⊢
    omega

theorem Piece.isSuffix {suffix : List UInt8}
    (piece : Piece dialect suffix decoded rest) : rest <:+ suffix := by
  cases piece with
  | unescaped => exact suffix_cons _ _
  | short => exact (suffix_cons _ _).trans (suffix_cons _ _)
  | codePoint hex | unpaired hex => exact hex.isSuffix.trans (suffix_append [0x5C, 0x75] _)
  | pair first _ second =>
    exact ((second.isSuffix.trans
      (suffix_append [0x5C, 0x75] _)).trans first.isSuffix).trans (suffix_append [0x5C, 0x75] _)

theorem characters_close (isSuffix : 0x22 :: rest <:+ text)
    (fuel : Nat) (output : ByteString) :
    characters text (fuel + 1) output (cursorAt text (0x22 :: rest) tally) =
      .ok (output, cursorAt text rest tally) := by
  unfold characters
  rw [bind_eq (atEnd_eq isSuffix), isEmpty_cons, if_neg nofun,
    bind_eq (nextByte_cons isSuffix), if_pos rfl]
  rfl

theorem characters_escape {letter : UInt8}
    (isSuffix : 0x5C :: letter :: suffix <:+ text) (fuel : Nat)
    (output : ByteString) :
    characters text (fuel + 1) output (cursorAt text (0x5C :: letter :: suffix) tally) =
      (match escapedByte? letter with
      | some byte => characters text fuel (output ++ [byte])
      | none =>
        if letter = 0x75 then do
          let codePoint ← unicodeEscape text
          characters text fuel (appendUtf8 output codePoint)
        else refuse "invalid escape")
      (cursorAt text suffix tally) := by
  conv_lhs => unfold characters
  rw [bind_eq (atEnd_eq isSuffix), isEmpty_cons, if_neg nofun,
    bind_eq (nextByte_cons isSuffix), if_neg (by decide),
    if_neg (by decide), if_neg (by decide),
    bind_eq (atEnd_eq (tail_isSuffix isSuffix)), isEmpty_cons,
    if_neg nofun]
  exact bind_eq (nextByte_cons (tail_isSuffix isSuffix))

theorem characters_unicode {suffix front middle : List UInt8}
    (piece : Piece strict (0x5C :: 0x75 :: suffix) front middle)
    (isSuffix : 0x5C :: 0x75 :: suffix <:+ text) (fuel : Nat)
    (output : ByteString) :
    characters text (fuel + 1) output (cursorAt text (0x5C :: 0x75 :: suffix) tally) =
      characters text fuel (output ++ front) (cursorAt text middle tally) := by
  have isTail := tail_isSuffix (tail_isSuffix isSuffix)
  obtain ⟨value, rfl, valid, escaped⟩ := unicodeEscape_complete isTail piece
  have notShort : escapedByte? 0x75 = none := rfl
  rw [characters_escape isSuffix, notShort]
  dsimp only
  rw [if_pos rfl, bind_eq escaped, appendUtf8_eq output valid]

theorem characters_piece {suffix front middle : List UInt8}
    (piece : Piece strict suffix front middle)
    (isSuffix : suffix <:+ text) (fuel : Nat) (output : ByteString) :
    characters text (fuel + 1) output (cursorAt text suffix tally) =
      characters text fuel (output ++ front) (cursorAt text middle tally) := by
  cases piece with
  | unescaped printable notQuote notBackslash =>
    conv_lhs => unfold characters
    rw [bind_eq (atEnd_eq isSuffix), isEmpty_cons, if_neg nofun,
      bind_eq (nextByte_cons isSuffix), if_neg notQuote,
      if_neg (UInt8.not_lt.mpr printable), if_pos notBackslash]
  | short escaped => rw [characters_escape isSuffix, escapedByte?_eq, escaped]
  | unpaired _ _ stands => cases stands
  | codePoint hex scalar => exact characters_unicode (.codePoint hex scalar) isSuffix fuel output
  | pair first isHigh second isLow =>
    exact characters_unicode (.pair first isHigh second isLow) isSuffix fuel output

theorem characters_complete {suffix back : List UInt8} (chars : Chars strict suffix back rest)
    (isSuffix : suffix <:+ text) (output : ByteString) {fuel : Nat}
    (enough : suffix.length < fuel) :
    characters text fuel output (cursorAt text suffix tally) =
      .ok (output ++ back, cursorAt text rest tally) := by
  induction chars generalizing output fuel with
  | close =>
    obtain ⟨fuel, rfl⟩ := Nat.exists_eq_add_of_lt enough
    rw [append_nil]
    exact characters_close isSuffix _ output
  | piece first _ ih =>
    have shorter := first.length_lt
    obtain ⟨spare, rfl⟩ := Nat.exists_eq_add_of_lt enough
    rw [characters_piece first isSuffix, ← append_assoc]
    exact ih (first.isSuffix.trans isSuffix) _ (by omega)

/-- What the loop returns behind what it had. -/
def ReadsChars (output suffix : List UInt8) (tally : Nat)
    (read : ByteString) (after : Nat) (rest : List UInt8) : Prop :=
  after = tally ∧ ∃ back, read = output ++ back ∧ Chars strict suffix back rest

theorem ReadsChars.piece {output front suffix middle read : List UInt8} {after : Nat}
    (piece : Piece strict suffix front middle)
    (later : ReadsChars (output ++ front) middle tally read after rest) :
    ReadsChars output suffix tally read after rest := by
  obtain ⟨kept, back, rfl, chars⟩ := later
  exact ⟨kept, front ++ back, append_assoc _ _ _, .piece piece chars⟩

theorem characters_reads (fuel : Nat) (output : ByteString)
    (isSuffix : suffix <:+ text) (enough : suffix.length < fuel) :
    Consumes text (Parser.characters text fuel output) suffix tally
      (ReadsChars output suffix tally) := by
  induction fuel generalizing output suffix with
  | zero => exact absurd enough (Nat.not_lt_zero _)
  | succ fuel ih =>
    have continued {front middle : List UInt8} (piece : Piece strict suffix front middle) :
        Consumes text (Parser.characters text fuel (output ++ front))
          middle tally (ReadsChars output suffix tally) := by
      have shorter := piece.length_lt
      have later := ih (output ++ front) (piece.isSuffix.trans isSuffix) (by omega)
      exact later.mono fun _ _ _ _ read => read.piece piece
    unfold Parser.characters
    refine .step (atEnd_eq isSuffix) (suffix_refl _) ?_
    cases suffix with
    | nil => exact .refuse _
    | cons raw tail =>
      have isTail := tail_isSuffix isSuffix
      rw [isEmpty_cons, if_neg nofun]
      refine .step (nextByte_cons isSuffix) (suffix_cons _ _) ?_
      split
      next isQuote =>
        rw [isQuote]
        exact .pure ⟨rfl, [], (append_nil _).symm, .close⟩
      next notQuote =>
        split
        · exact .refuse _
        next printable =>
          split
          next notBackslash =>
            exact continued (.unescaped (UInt8.not_lt.mp printable) notQuote notBackslash)
          next isBackslash =>
            rw [not_not] at isBackslash
            subst isBackslash
            refine .step (atEnd_eq isTail) (suffix_refl _) ?_
            cases tail with
            | nil => exact .refuse _
            | cons letter tail =>
              rw [isEmpty_cons, if_neg nofun]
              refine .step (nextByte_cons isTail) (suffix_cons _ _) ?_
              rw [escapedByte?_eq]
              cases escaped : shortEscape? letter with
              | some byte => exact continued (.short escaped)
              | none =>
                dsimp only
                split
                next isUnicode =>
                  subst isUnicode
                  refine .bind (unicodeEscape_reads (tail_isSuffix isTail)) ?_
                  rintro _ _ rest _ ⟨rfl, value, rfl, valid, piece⟩
                  rw [appendUtf8_eq output valid]
                  exact continued piece
                next => exact .refuse _

section Tokens

variable {suffix : List UInt8}
variable {expected : UInt8}

theorem skip_eq (isSuffix : suffix <:+ text) :
    skip text (cursorAt text suffix tally) =
      .ok ((), cursorAt text (suffix.dropWhile isspace) tally) := by
  have fits := isSuffix.length_le
  exact advanceWhile_eq isspace isSuffix (by omega)

theorem consume_cons (isSuffix : expected :: suffix <:+ text) :
    consume text expected (cursorAt text (expected :: suffix) tally) =
      .ok (true, cursorAt text suffix tally) := by
  unfold consume
  rw [bind_eq (looksAt_eq _ isSuffix), head?_cons, Option.any_some,
    beq_self_eq_true, if_pos rfl, bind_eq (advance_cons isSuffix)]
  rfl

theorem consume_other (isSuffix : suffix <:+ text) (other : suffix.head? ≠ some expected) :
    consume text expected (cursorAt text suffix tally) =
      .ok (false, cursorAt text suffix tally) := by
  have unmet : suffix.head?.any (· == expected) = false := by
    cases suffix with
    | nil => rfl
    | cons byte tail =>
      rw [head?_cons, Option.any_some, beq_eq_false_iff_ne]
      rintro rfl
      exact other rfl
  unfold consume
  rw [bind_eq (looksAt_eq _ isSuffix), unmet, if_neg nofun]
  rfl

theorem expect_cons (isSuffix : expected :: suffix <:+ text) :
    expect text expected (cursorAt text (expected :: suffix) tally) =
      .ok ((), cursorAt text suffix tally) := by
  unfold expect
  rw [bind_eq (consume_cons isSuffix), if_pos rfl]
  rfl

theorem expect_other (isSuffix : suffix <:+ text) (other : suffix.head? ≠ some expected) :
    expect text expected (cursorAt text suffix tally) =
      refuse "unexpected character" (cursorAt text suffix tally) := by
  unfold expect
  rw [bind_eq (consume_other isSuffix other), if_neg nofun]

theorem expect_reads (expected : UInt8) (isSuffix : suffix <:+ text) :
    Consumes text (expect text expected) suffix tally
      fun _ after rest => after = tally ∧ suffix = expected :: rest := by
  by_cases found : suffix.head? = some expected
  · obtain ⟨rest, rfl⟩ := head?_eq_some_iff.mp found
    unfold Consumes
    rw [expect_cons isSuffix]
    exact .read (suffix_cons _ _) ⟨rfl, rfl⟩
  · unfold Consumes
    rw [expect_other isSuffix found]
    exact .refused _ _

end Tokens

theorem parseString_complete {suffix : List UInt8}
    (chars : Chars strict suffix decoded rest)
    (isSuffix : 0x22 :: suffix <:+ text) :
    parseString text (cursorAt text (0x22 :: suffix) tally) =
      .ok (decoded, cursorAt text rest tally) := by
  have fits := isSuffix.length_le
  rw [length_cons] at fits
  unfold parseString
  rw [bind_eq (expect_cons isSuffix)]
  exact characters_complete chars (tail_isSuffix isSuffix) [] (by omega)

theorem parseString_reads {suffix : List UInt8} (isSuffix : suffix <:+ text) :
    Consumes text (parseString text) suffix tally
      fun decoded after rest =>
        after = tally ∧ ∃ chars, suffix = 0x22 :: chars ∧ Chars strict chars decoded rest := by
  have fits := isSuffix.length_le
  unfold parseString
  refine .bind (expect_reads 0x22 isSuffix) ?_
  rintro _ _ chars _ ⟨rfl, rfl⟩
  rw [length_cons] at fits
  refine (characters_reads (text.length + 1) [] (tail_isSuffix isSuffix) (by omega)).mono ?_
  rintro _ _ rest _ ⟨rfl, back, rfl, spelled⟩
  exact ⟨rfl, chars, rfl, spelled⟩

end HydraSeat.Json
