import Mathlib.Logic.Function.Basic
import Mathlib.Logic.ExistsUnique

/-!
# Exclusive holders

A resource is free or held by one party.  Parties come and go; a party that
leaves gives back everything it holds.  The moves below are all that may
happen to the table of holders.
-/

namespace HydraSeat.Foundation

abbrev Holders (Resource Party : Type) := Resource → Option Party

namespace Holders

variable {Resource Party : Type}

/-- A resource is held exactly when one party, and no other, holds it. -/
theorem isSome_iff_existsUnique (holders : Holders Resource Party) (resource : Resource) :
    (holders resource).isSome = true ↔ ∃! party, holders resource = some party := by
  rw [Option.isSome_iff_exists]
  constructor
  · intro ⟨party, held⟩
    refine ⟨party, held, ?_⟩
    intro other otherHeld
    rw [held] at otherHeld
    exact (Option.some.inj otherHeld).symm
  · intro unique
    exact unique.exists

section Resources

variable [DecidableEq Resource] (holders : Holders Resource Party)

def grant (resource : Resource) (party : Party) : Holders Resource Party :=
  Function.update holders resource (some party)

def giveBack (resource : Resource) : Holders Resource Party := Function.update holders resource none

theorem grant_apply (resource tested : Resource) (party : Party) :
    holders.grant resource party tested =
      if tested = resource then some party else holders tested :=
  Function.update_apply holders resource (some party) tested

theorem giveBack_apply (resource tested : Resource) :
    holders.giveBack resource tested = if tested = resource then none else holders tested :=
  Function.update_apply holders resource none tested

end Resources

def dismiss [DecidableEq Party] (holders : Holders Resource Party) (party : Party) :
    Holders Resource Party :=
  fun resource =>
    if holders resource = some party then none else holders resource

inductive Move [DecidableEq Resource] [DecidableEq Party]
    (holders : Holders Resource Party) : Holders Resource Party → Prop
  | kept : Move holders holders
  | granted (resource : Resource) (party : Party) (free : holders resource = none) :
      Move holders (holders.grant resource party)
  | givenBack (resource : Resource) (party : Party) (held : holders resource = some party) :
      Move holders (holders.giveBack resource)
  | dismissed (party : Party) : Move holders (holders.dismiss party)

end Holders

end HydraSeat.Foundation
