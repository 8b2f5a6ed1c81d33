import Mathlib.Data.List.Count

/-!
# Latches

A latch is set by one kind of event and stays set until it is read or
cleared.  A history is newest first.  It is faithful when every read found
the latch as the events before it left it; then each read that found the
latch set has its own set event.
-/

namespace HydraSeat.Foundation

open Bool List

inductive LatchEvent where
  | set | clear
  | read (found : Bool)
  deriving DecidableEq

namespace LatchEvent

/-- Whether the history leaves the latch set. -/
def latched : List LatchEvent → Bool
  | .set :: _ => true
  | _ => false

def Faithful : List LatchEvent → Prop
  | [] => True
  | .read found :: earlier => found = latched earlier ∧ Faithful earlier
  | _ :: earlier => Faithful earlier

def record (event : Option LatchEvent) (history : List LatchEvent) : List LatchEvent :=
  match event with
  | none => history
  | some event => event :: history

def after (event : Option LatchEvent) (before : Bool) : Bool :=
  match event with
  | none => before
  | some .set => true
  | some .clear => false
  | some (.read _) => false

theorem latched_record (event : Option LatchEvent) (history : List LatchEvent) :
    latched (record event history) = after event (latched history) := by
  cases event with
  | none => rfl
  | some event => cases event <;> rfl

theorem Faithful.record {history : List LatchEvent} (faithful : Faithful history)
    {event : Option LatchEvent}
    (found : ∀ answer, event = some (.read answer) → answer = latched history) :
    Faithful (record event history) := by
  cases event with
  | none => exact faithful
  | some event =>
    cases event with
    | set | clear => exact faithful
    | read answer => exact ⟨found answer rfl, faithful⟩

/-- The reads that found the latch set, and a latch that is still set, are
no more than the set events. -/
theorem Faithful.count_le {history : List LatchEvent} (faithful : Faithful history) :
    history.count (.read true) + (latched history).toNat ≤ history.count .set := by
  induction history with
  | nil => exact Nat.le_refl 0
  | cons event earlier ih =>
    cases event with
    | set =>
      have before := ih faithful
      rw [count_cons_of_ne (by nofun), count_cons_self]
      simp only [latched, toNat_true]
      omega
    | clear =>
      have before := ih faithful
      rw [count_cons_of_ne (by nofun), count_cons_of_ne (by nofun)]
      simp only [latched, toNat_false]
      omega
    | read found =>
      obtain ⟨same, rest⟩ := faithful
      have before := ih rest
      have sets : (LatchEvent.read found :: earlier).count .set = earlier.count .set :=
        count_cons_of_ne (by nofun)
      rw [sets]
      simp only [latched, toNat_false]
      cases found with
      | false =>
        rw [count_cons_of_ne (by nofun)]
        omega
      | true =>
        rw [← same, toNat_true] at before
        rw [count_cons_self]
        omega

end LatchEvent

end HydraSeat.Foundation
