import HydraSeat.Json.NumberLaws

/-!
# What the grammar spells

A production takes at least one byte, starts with none that is whitespace,
and depends on the whitespace of its dialect only through the bytes of its
text.
-/

namespace HydraSeat.Json

open List

variable {suffix rest : List UInt8}

theorem Chars.isSuffix {dialect : Dialect} {suffix decoded rest : List UInt8}
    (chars : Chars dialect suffix decoded rest) : rest <:+ suffix := by
  induction chars with
  | close => exact suffix_cons _ _
  | piece first _ ih => exact ih.trans first.isSuffix

theorem Natural.length_lt (natural : Natural suffix rest) : rest.length < suffix.length := by
  cases natural with
  | zero => exact Nat.lt_succ_self _
  | positive _ digits => exact Nat.lt_succ_of_le digits.isSuffix.length_le

theorem Integer.length_lt (integer : Integer suffix rest) : rest.length < suffix.length := by
  cases integer with
  | plain natural => exact natural.length_lt
  | negative natural => exact Nat.lt_succ_of_lt natural.length_lt

def startsInteger (byte : UInt8) : Bool := byte == 0x2D || isDigit byte

theorem Integer.starts (integer : Integer suffix rest) :
    ∃ first tail, suffix = first :: tail ∧ startsInteger first = true := by
  cases integer with
  | plain natural =>
    obtain ⟨first, tail, spelled, digit⟩ := natural.digit
    refine ⟨first, tail, spelled, ?_⟩
    unfold startsInteger
    rw [digit, Bool.or_true]
  | negative natural => exact ⟨0x2D, _, rfl, by decide⟩

section Spells

universe u

variable {Meant : Type u} {dialect : Dialect}
  {interpretation : Interpretation Meant} {production : Production}
  {suffix rest : List UInt8} {meaning : production.Meaning Meant}
  {depth nodes : Nat}

theorem Spells.isSuffix
    (spells : Spells dialect interpretation production suffix meaning depth nodes rest) :
    rest <:+ suffix := by
  induction spells with
  | null => exact suffix_append nullLiteral _
  | true_ => exact suffix_append trueLiteral _
  | false_ => exact suffix_append falseLiteral _
  | number integer => exact integer.isSuffix
  | string chars => exact chars.isSuffix.trans (suffix_cons _ _)
  | emptyArray blank => exact ((suffix_cons _ _).trans blank.isSuffix).trans (suffix_cons _ _)
  | array blank _ ih => exact (ih.trans blank.isSuffix).trans (suffix_cons _ _)
  | emptyObject blank => exact ((suffix_cons _ _).trans blank.isSuffix).trans (suffix_cons _ _)
  | object blank _ _ ih => exact (ih.trans blank.isSuffix).trans (suffix_cons _ _)
  | lastElement _ close ih => exact ((suffix_cons _ _).trans close.isSuffix).trans ih
  | element _ comma blank _ first others =>
    have isNext := (suffix_cons _ _).trans comma.isSuffix
    exact ((others.trans blank.isSuffix).trans isNext).trans first
  | lastMember chars colon blank _ close ih =>
    have isAfter := (suffix_cons _ _).trans close.isSuffix
    have isName := (suffix_cons _ _).trans colon.isSuffix
    exact (((isAfter.trans ih).trans
      blank.isSuffix).trans isName).trans (chars.isSuffix.trans (suffix_cons _ _))
  | member chars colon blank _ comma behind _ first others =>
    have isNext := (suffix_cons _ _).trans comma.isSuffix
    have isName := (suffix_cons _ _).trans colon.isSuffix
    exact (((((others.trans behind.isSuffix).trans isNext).trans
      first).trans blank.isSuffix).trans isName).trans (chars.isSuffix.trans (suffix_cons _ _))

def startsSpelling (byte : UInt8) : Bool :=
  byte == 0x6E || byte == 0x74 || byte == 0x66 || byte == 0x22 ||
    byte == 0x5B || byte == 0x7B || startsInteger byte

section

variable (spells : Spells dialect interpretation production suffix meaning depth nodes rest)
include spells

theorem Spells.starts : ∃ first tail, suffix = first :: tail ∧ startsSpelling first = true := by
  induction spells with
  | null => exact ⟨0x6E, _, rfl, by decide⟩
  | true_ => exact ⟨0x74, _, rfl, by decide⟩
  | false_ => exact ⟨0x66, _, rfl, by decide⟩
  | number integer =>
    obtain ⟨first, tail, spelled, starts⟩ := integer.starts
    refine ⟨first, tail, spelled, ?_⟩
    unfold startsSpelling
    rw [starts, Bool.or_true]
  | string | lastMember | member => exact ⟨0x22, _, rfl, by decide⟩
  | emptyArray | array => exact ⟨0x5B, _, rfl, by decide⟩
  | emptyObject | object => exact ⟨0x7B, _, rfl, by decide⟩
  | lastElement _ _ ih => exact ih
  | element _ _ _ _ first _ => exact first

theorem Spells.nodes_le : nodes + rest.length ≤ suffix.length := by
  induction spells with
  | null | true_ | false_ =>
    rw [length_append]
    exact Nat.add_le_add_right (by decide) _
  | number integer =>
    have shorter := integer.length_lt
    omega
  | string chars =>
    have shorter := chars.isSuffix.length_le
    rw [length_cons]
    omega
  | emptyArray blank | emptyObject blank =>
    have shorter := blank.isSuffix.length_le
    rw [length_cons] at shorter ⊢
    omega
  | array blank _ ih
  | object blank _ _ ih =>
    have shorter := blank.isSuffix.length_le
    rw [length_cons]
    omega
  | lastElement _ close ih =>
    have shorter := close.isSuffix.length_le
    rw [length_cons] at shorter
    omega
  | element _ comma blank _ first others =>
    have shorter := comma.isSuffix.length_le
    have shortest := blank.isSuffix.length_le
    rw [length_cons] at shorter
    omega
  | lastMember chars colon blank _ close ih =>
    have behindChars := chars.isSuffix.length_le
    have behindColon := colon.isSuffix.length_le
    have behindBlank := blank.isSuffix.length_le
    have shorter := close.isSuffix.length_le
    rw [length_cons] at *
    omega
  | member chars colon blank _ comma behind _ first others =>
    have behindChars := chars.isSuffix.length_le
    have behindColon := colon.isSuffix.length_le
    have behindBlank := blank.isSuffix.length_le
    have shorter := comma.isSuffix.length_le
    have shortest := behind.isSuffix.length_le
    rw [length_cons] at *
    omega

theorem Spells.nodes_pos : 0 < nodes := by
  induction spells with
  | lastElement _ _ ih | lastMember _ _ _ _ _ ih => exact ih
  | element _ _ _ _ first _ | member _ _ _ _ _ _ _ first _ => exact Nat.add_pos_left first _
  | _ => exact Nat.succ_pos _

theorem Spells.length_lt : rest.length < suffix.length := by
  have counted := spells.nodes_le
  have positive := spells.nodes_pos
  omega

end

end Spells

end HydraSeat.Json
