import Mathlib.Data.List.Basic

/-!
# Checksums that notice a changed byte

A checksum that takes one byte after another, each in a step that is
injective in its state and in its byte, is different as soon as one byte is.
A file whose header is a function of its payload then has no neighbour that is
such a file, too.
-/

namespace HydraSeat.Foundation

open List

variable {α β σ δ : Type}

theorem foldl_injective {step : σ → α → σ}
    (keeps : ∀ item, Function.Injective fun state => step state item) (items : List α) :
    Function.Injective fun state => items.foldl step state := by
  induction items with
  | nil => exact Function.injective_id
  | cons item rest ih => exact ih.comp (keeps item)

theorem foldl_set_ne {step : σ → α → σ}
    (keeps : ∀ item, Function.Injective fun state => step state item)
    (tells : ∀ state, Function.Injective (step state)) (items : List α) (state : σ)
    {index : Nat} {item : α} (inside : index < items.length) (changed : items[index] ≠ item) :
    (items.set index item).foldl step state ≠ items.foldl step state := by
  induction items generalizing state index with
  | nil => cases inside
  | cons first rest ih =>
    cases index with
    | zero =>
      intro same
      exact changed (tells state (foldl_injective keeps rest same)).symm
    | succ before => exact ih (step state first) (Nat.lt_of_succ_lt_succ inside) changed

theorem mul_injective {factor inverse : UInt64} (undone : factor * inverse = 1) :
    Function.Injective fun value : UInt64 => value * factor := by
  intro first second same
  have cancelled := congrArg (· * inverse) same
  simpa only [UInt64.mul_assoc, undone, UInt64.mul_one] using cancelled

theorem xor_right_injective (mask : UInt64) :
    Function.Injective fun value : UInt64 => value ^^^ mask := by
  intro first second same
  simpa only [UInt64.xor_assoc, UInt64.xor_self, UInt64.xor_zero] using congrArg (· ^^^ mask) same

def framed (header : List α → List α) (payload : List α) : List α := header payload ++ payload

section Framed

variable {header : List α → List α} {width : Nat}
  (sized : ∀ payload, (header payload).length = width)
include sized

theorem framed_drop (payload : List α) : (framed header payload).drop width = payload :=
  drop_left' (sized payload)

theorem framed_take (payload : List α) : (framed header payload).take width = header payload :=
  take_left' (sized payload)

theorem framed_eq_of_drop {payload other : List α}
    (same : (framed header payload).drop width = (framed header other).drop width) :
    framed header payload = framed header other := by
  rw [framed_drop sized, framed_drop sized] at same
  rw [same]

theorem framed_header_eq {payload other : List α}
    (same : (framed header payload).take width = (framed header other).take width) :
    header payload = header other := by
  rwa [framed_take sized, framed_take sized] at same

theorem framed_set_ne {checksum : List α → δ}
    (headed : ∀ payload other, header payload = header other → checksum payload = checksum other)
    (notices :
      ∀ payload (index : Nat) byte (inside : index < payload.length), payload[index] ≠ byte →
        checksum (payload.set index byte) ≠ checksum payload)
    {payload other : List α} {index : Nat} {byte : α}
    (inside : index < (framed header payload).length)
    (changed : (framed header payload)[index] ≠ byte) :
    (framed header payload).set index byte ≠ framed header other := by
  intro same
  by_cases inHeader : index < width
  · have unchanged : framed header payload = framed header other := by
      apply framed_eq_of_drop sized
      rw [← same, drop_set_of_lt inHeader]
    apply changed
    have written := getElem_set_self (a := byte) (by simpa using inside)
    simpa only [same, ← unchanged] using written
  · rw [Nat.not_lt] at inHeader
    have sameHeader : header payload = header other :=
      framed_header_eq sized (by rw [← same, take_set_of_le inHeader])
    have samePayload : other = payload.set (index - width) byte := by
      rw [← framed_drop sized other, ← same, drop_set, if_neg (Nat.not_lt.mpr inHeader),
        framed_drop sized]
    have shorter : index - width < payload.length := by
      rw [framed, length_append, sized] at inside
      omega
    have moved : (framed header payload)[index] = payload[index - width] := by
      simp only [framed, getElem_append, sized, dif_neg (Nat.not_lt.mpr inHeader)]
    refine notices payload (index - width) byte shorter (moved ▸ changed) ?_
    · rw [← samePayload]
      exact (headed _ _ sameHeader).symm

end Framed

end HydraSeat.Foundation
