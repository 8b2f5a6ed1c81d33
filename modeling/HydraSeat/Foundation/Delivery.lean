import Mathlib.Data.List.Nodup

/-!
# Delivery at most once

Items are pushed under tags that are never used again, wait in order, and
leave by being taken or dropped, in any order.  The history says what was
pushed, what still waits and what was taken.
-/

namespace HydraSeat.Foundation

open List

universe u v

/-- What was pushed, what still waits and what was taken, oldest first. -/
structure Delivery (Tag : Type u) (Item : Type v) where
  (pushed pending taken : List (Tag × Item) := [])

namespace Delivery

variable {Tag : Type u} {Item : Type v}

def push (delivery : Delivery Tag Item) (tag : Tag) (item : Item) : Delivery Tag Item :=
  { delivery with
    pushed := delivery.pushed ++ [(tag, item)], pending := delivery.pending ++ [(tag, item)] }

def keepOnly (delivery : Delivery Tag Item) (remaining : List (Tag × Item)) : Delivery Tag Item :=
  { delivery with pending := remaining }

def take (delivery : Delivery Tag Item) (which : Tag × Item → Bool) : Delivery Tag Item :=
  { delivery with
    pending := delivery.pending.filter fun entry => !which entry
    taken := delivery.taken ++ delivery.pending.filter which }

/-- What waits is what was pushed, in order, and what was taken was pushed,
was taken once and waits no more. -/
structure AtMostOnce (delivery : Delivery Tag Item) : Prop where
  distinct : (delivery.pushed.map Prod.fst).Nodup
  inOrder : delivery.pending.Sublist delivery.pushed
  fromPushed : ∀ entry ∈ delivery.taken, entry ∈ delivery.pushed
  once : (delivery.taken.map Prod.fst).Nodup
  gone : ∀ entry ∈ delivery.taken, entry.1 ∉ delivery.pending.map Prod.fst

theorem atMostOnce_empty : AtMostOnce ({} : Delivery Tag Item) where
  distinct := nodup_nil
  inOrder := List.Sublist.refl _
  fromPushed := nofun
  once := nodup_nil
  gone := nofun

variable {delivery : Delivery Tag Item}

section

variable (atMostOnce : delivery.AtMostOnce)
include atMostOnce

theorem AtMostOnce.push {tag : Tag} (item : Item) (fresh : tag ∉ delivery.pushed.map Prod.fst) :
    (delivery.push tag item).AtMostOnce where
  distinct := by
    rw [Delivery.push, map_append, map_singleton]
    refine nodup_append.mpr ⟨atMostOnce.distinct, nodup_singleton tag, ?_⟩
    intro old member new isNew
    rw [mem_singleton.mp isNew]
    rintro rfl
    exact fresh member
  inOrder := atMostOnce.inOrder.append (List.Sublist.refl _)
  fromPushed := by
    intro entry member
    exact mem_append_left _ (atMostOnce.fromPushed entry member)
  once := atMostOnce.once
  gone := by
    intro entry member
    rw [Delivery.push, map_append, mem_append, not_or]
    refine ⟨atMostOnce.gone entry member, ?_⟩
    rw [map_singleton, mem_singleton]
    intro same
    apply fresh
    dsimp only at same
    rw [← same]
    exact mem_map_of_mem (atMostOnce.fromPushed entry member)

theorem AtMostOnce.keepOnly {remaining : List (Tag × Item)}
    (sublist : remaining.Sublist delivery.pending) :
    (delivery.keepOnly remaining).AtMostOnce where
  distinct := atMostOnce.distinct
  inOrder := sublist.trans atMostOnce.inOrder
  fromPushed := atMostOnce.fromPushed
  once := atMostOnce.once
  gone := by
    intro entry member remains
    apply atMostOnce.gone entry member
    exact (sublist.map Prod.fst).subset remains

theorem AtMostOnce.pending_distinct : (delivery.pending.map Prod.fst).Nodup :=
  atMostOnce.distinct.sublist (atMostOnce.inOrder.map Prod.fst)

theorem AtMostOnce.pending_eq {left right : Tag × Item} (isLeft : left ∈ delivery.pending)
    (isRight : right ∈ delivery.pending) (same : left.1 = right.1) :
    left = right :=
  inj_on_of_nodup_map atMostOnce.pending_distinct isLeft isRight same

theorem AtMostOnce.take (which : Tag × Item → Bool) : (delivery.take which).AtMostOnce where
  distinct := atMostOnce.distinct
  inOrder := filter_sublist.trans atMostOnce.inOrder
  fromPushed := by
    intro entry member
    rcases mem_append.mp member with before | now
    · exact atMostOnce.fromPushed entry before
    · exact atMostOnce.inOrder.subset (mem_of_mem_filter now)
  once := by
    rw [Delivery.take, map_append]
    refine nodup_append.mpr ⟨atMostOnce.once, ?_, ?_⟩
    · exact atMostOnce.pending_distinct.sublist (List.Sublist.map Prod.fst filter_sublist)
    intro tag before other now
    rintro rfl
    obtain ⟨entry, member, rfl⟩ := mem_map.mp before
    apply atMostOnce.gone entry member
    exact (List.Sublist.map Prod.fst filter_sublist).subset now
  gone := by
    intro entry member remains
    rcases mem_append.mp member with before | now
    · apply atMostOnce.gone entry before
      exact (List.Sublist.map Prod.fst filter_sublist).subset remains
    obtain ⟨waiting, taken⟩ := mem_filter.mp now
    obtain ⟨other, stays, same⟩ := mem_map.mp remains
    obtain ⟨otherWaiting, otherStays⟩ := mem_filter.mp stays
    have identical := atMostOnce.pending_eq otherWaiting waiting same
    rw [identical, taken] at otherStays
    cases otherStays

end

theorem filter_mem_of_sublist [DecidableEq Tag] {part whole : List (Tag × Item)}
    (sublist : part.Sublist whole)
    (distinct : (whole.map Prod.fst).Nodup) :
    whole.filter (fun entry => entry.1 ∈ part.map Prod.fst) = part := by
  induction sublist with
  | slnil => rfl
  | @cons part whole entry sublist ih =>
    obtain ⟨fresh, rest⟩ := nodup_cons.mp distinct
    have missing : entry.1 ∉ part.map Prod.fst := fun member =>
      fresh ((sublist.map Prod.fst).subset member)
    rw [filter_cons_of_neg (by simpa using missing)]
    exact ih rest
  | @cons_cons part whole entry sublist ih =>
    obtain ⟨fresh, rest⟩ := nodup_cons.mp distinct
    rw [filter_cons_of_pos (by simp)]
    congr 1
    have later := ih rest
    have same :
        ∀ other ∈ whole,
          decide (other.1 ∈ (entry :: part).map Prod.fst) =
            decide (other.1 ∈ part.map Prod.fst) := by
      intro other member
      have different : other.1 ≠ entry.1 := by
        intro same
        apply fresh
        rw [← same]
        exact mem_map_of_mem member
      rw [map_cons, decide_eq_decide, mem_cons]
      exact or_iff_right different
    rw [filter_congr same]
    exact later

theorem filter_tag_eq [DecidableEq Tag] {entries : List (Tag × Item)} {tag : Tag}
    {item : Item} (member : (tag, item) ∈ entries)
    (distinct : (entries.map Prod.fst).Nodup) :
    entries.filter (fun entry => entry.1 == tag) = [(tag, item)] := by
  have only := filter_mem_of_sublist (singleton_sublist.mpr member) distinct
  refine (filter_congr ?_).trans only
  intro entry _
  rw [Bool.eq_iff_iff, beq_iff_eq, decide_eq_true_iff, map_singleton, mem_singleton]

end Delivery

end HydraSeat.Foundation
