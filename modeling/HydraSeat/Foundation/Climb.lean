import Mathlib.Logic.Relation

/-!
# Climbing a chain of parents

`climb` follows the parents of a value for a bounded number of steps and asks
of each of them whether it is the one that is looked for.  When some rank
decreases with every step, enough steps find every ancestor.
-/

namespace HydraSeat.Foundation

universe u

variable {Node : Type u}

/-- One of the first parents is a hit. -/
def climb (up : Node → Option Node) (hit : Node → Bool) : Nat → Node → Bool
  | 0, _ => false
  | steps + 1, node =>
    match up node with
    | none => false
    | some parent => hit parent || climb up hit steps parent

/-- `node` has the ancestor. -/
abbrev Climbs (up : Node → Option Node) : Node → Node → Prop :=
  Relation.TransGen fun node parent => up node = some parent

variable {up : Node → Option Node} {hit : Node → Bool}

theorem climb_sound {steps : Nat} {node : Node} (found : climb up hit steps node = true) :
    ∃ ancestor, Climbs up node ancestor ∧ hit ancestor = true := by
  induction steps generalizing node with
  | zero => cases found
  | succ steps ih =>
    unfold climb at found
    split at found
    · cases found
    next parent isParent =>
      rcases Bool.or_eq_true_iff.mp found with now | later
      · exact ⟨parent, .single isParent, now⟩
      · obtain ⟨ancestor, climbs, isHit⟩ := ih later
        exact ⟨ancestor, .head isParent climbs, isHit⟩

variable {rank : Node → Nat}

theorem climb_complete
    (falls : ∀ node parent, up node = some parent → rank parent < rank node)
    {steps : Nat} {node ancestor : Node} (enough : rank node < steps)
    (climbs : Climbs up node ancestor) (isHit : hit ancestor = true) :
    climb up hit steps node = true := by
  induction steps generalizing node with
  | zero => exact absurd enough (Nat.not_lt_zero _)
  | succ steps ih =>
    unfold climb
    rcases Relation.TransGen.head'_iff.mp climbs with ⟨parent, isParent, rest⟩
    rw [isParent]
    refine Bool.or_eq_true_iff.mpr ?_
    rcases Relation.reflTransGen_iff_eq_or_transGen.mp rest with
      rfl | further
    · exact .inl isHit
    · have lower := falls node parent isParent
      exact .inr (ih (by omega) further)

theorem climb_iff
    (falls : ∀ node parent, up node = some parent → rank parent < rank node)
    {steps : Nat} {node : Node} (enough : rank node < steps) :
    climb up hit steps node = true ↔ ∃ ancestor, Climbs up node ancestor ∧ hit ancestor = true := by
  constructor
  · exact climb_sound
  · rintro ⟨ancestor, climbs, isHit⟩
    exact climb_complete falls enough climbs isHit

theorem Climbs.falls
    (falls : ∀ node parent, up node = some parent → rank parent < rank node)
    {node ancestor : Node} (climbs : Climbs up node ancestor) :
    rank ancestor < rank node := by
  induction climbs with
  | single isParent => exact falls _ _ isParent
  | tail _ isParent ih => exact Nat.lt_trans (falls _ _ isParent) ih

end HydraSeat.Foundation
