import Mathlib.Data.List.Basic

/-!
# Spellings that end themselves

A spelling is self-delimiting if no rest behind it can make one value look
like another.  A text that is put together from such spellings can be read in
one way only, whatever the fields hold.
-/

namespace HydraSeat.Foundation

open List

universe u v

variable {Value Item : Type u} {Symbol : Type v}

/-- Equal texts start with the same value and go on in the same way. -/
def SelfDelimiting (spell : Value → List Symbol) : Prop :=
  ∀ first second before after,
    spell first ++ before = spell second ++ after → first = second ∧ before = after

/-- A symbol that the text itself never has ends it. -/
theorem append_stop_inj {stop : Symbol} {first second before after : List Symbol}
    (absentFirst : stop ∉ first) (absentSecond : stop ∉ second)
    (same : first ++ stop :: before = second ++ stop :: after) :
    first = second ∧ before = after := by
  induction first generalizing second with
  | nil =>
    cases second with
    | nil => exact ⟨rfl, (List.cons.inj same).2⟩
    | cons head tail =>
      obtain ⟨rfl, _⟩ := List.cons.inj same
      exact absurd mem_cons_self absentSecond
  | cons head tail ih =>
    cases second with
    | nil =>
      obtain ⟨rfl, _⟩ := List.cons.inj same
      exact absurd mem_cons_self absentFirst
    | cons other rest =>
      obtain ⟨rfl, sameRest⟩ := List.cons.inj same
      obtain ⟨rfl, rests⟩ := ih (fun member => absentFirst (mem_cons_of_mem _ member))
        (fun member => absentSecond (mem_cons_of_mem _ member))
        sameRest
      exact ⟨rfl, rests⟩

theorem selfDelimiting_stop {body : Value → List Symbol} {stop : Symbol}
    (injective : Function.Injective body)
    (absent : ∀ value, stop ∉ body value) :
    SelfDelimiting fun value => body value ++ [stop] := by
  intro first second before after same
  rw [append_assoc, append_assoc] at same
  obtain ⟨bodies, rest⟩ := append_stop_inj (absent first) (absent second) same
  exact ⟨injective bodies, rest⟩

theorem selfDelimiting_counted {count : Nat → List Symbol} {stop : Symbol}
    (delimiting : SelfDelimiting count) :
    SelfDelimiting fun text : List Symbol => count text.length ++ (text ++ [stop]) := by
  intro first second before after same
  simp only [append_assoc] at same
  obtain ⟨length, texts⟩ := delimiting _ _ _ _ same
  obtain ⟨sameText, rest⟩ := append_inj texts length
  exact ⟨sameText, (List.cons.inj rest).2⟩

theorem SelfDelimiting.flatMap {spell : Item → List Symbol} (delimiting : SelfDelimiting spell)
    {first second : List Item} {before after : List Symbol}
    (length : first.length = second.length)
    (same : first.flatMap spell ++ before = second.flatMap spell ++ after) :
    first = second ∧ before = after := by
  induction first generalizing second with
  | nil =>
    rw [length_eq_zero_iff.mp length.symm] at same ⊢
    exact ⟨rfl, same⟩
  | cons head tail ih =>
    cases second with
    | nil => cases length
    | cons other rest =>
      rw [flatMap_cons, flatMap_cons, append_assoc, append_assoc] at same
      obtain ⟨rfl, sameRest⟩ := delimiting _ _ _ _ same
      obtain ⟨rfl, rests⟩ := ih (Nat.succ.inj length) sameRest
      exact ⟨rfl, rests⟩

end HydraSeat.Foundation
