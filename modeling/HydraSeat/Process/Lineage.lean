import HydraSeat.Process.ProcessGroup
import Mathlib.Data.List.Count
import Mathlib.Data.List.Pairwise

/-!
# Descent among the recorded processes

A number of a process can be reused, so a process is told by its number and
its creation time.  Every verified parent is recorded, and it was created
before its child; so the walk to an ancestor ends, and it finds every
ancestor there is.
-/

namespace HydraSeat.Process.Group

open List

open Foundation

section Instances

variable {first second third : ProcessIdentity}

theorem sameInstance_iff :
    first.sameInstance second = true ↔
      first.processId = second.processId ∧ first.creationTime100ns = second.creationTime100ns ∧
        first.processId ≠ 0 := by
  unfold ProcessIdentity.sameInstance
  rw [Bool.and_eq_true, Bool.and_eq_true, beq_iff_eq, beq_iff_eq, bne_iff_ne, and_assoc]

theorem sameInstance_self (valid : first.valid = true) : first.sameInstance first = true := by
  unfold ProcessIdentity.valid at valid
  rw [Bool.and_eq_true, Bool.and_eq_true, bne_iff_ne] at valid
  exact sameInstance_iff.mpr ⟨rfl, rfl, valid.1.1⟩

theorem sameInstance_symm (same : first.sameInstance second = true) :
    second.sameInstance first = true := by
  obtain ⟨pid, creation, nonzero⟩ := sameInstance_iff.mp same
  exact sameInstance_iff.mpr ⟨pid.symm, creation.symm, pid ▸ nonzero⟩

theorem sameInstance_trans (left : first.sameInstance second = true)
    (right : second.sameInstance third = true) :
    first.sameInstance third = true := by
  obtain ⟨pid, creation, nonzero⟩ := sameInstance_iff.mp left
  obtain ⟨pid', creation', _⟩ := sameInstance_iff.mp right
  exact sameInstance_iff.mpr ⟨pid.trans pid', creation.trans creation', nonzero⟩

end Instances

/-- The entries are different instances, and each verified parent is an
entry that was created before its child. -/
structure Lineage (entries : List Entry) : Prop where
  valid : ∀ entry ∈ entries, entry.record.identity.valid = true
  distinct :
    entries.Pairwise fun first second =>
      first.record.identity.sameInstance second.record.identity = false
  linked :
    ∀ child ∈ entries, child.record.parentIdentityVerified = true →
      ∃ parent ∈ entries,
        child.record.parentIdentity = parent.record.identity ∧
          parent.record.identity.processId = child.record.parentProcessId ∧
          parent.record.identity.creationTime100ns < child.record.identity.creationTime100ns

/-- The process descends from the ancestor by verified parents. -/
abbrev Descends (entries : List Entry) : ProcessIdentity → ProcessIdentity → Prop :=
  Climbs (parentOf entries)

/-- How many entries were created before the process. -/
def elders (entries : List Entry) (identity : ProcessIdentity) : Nat :=
  entries.countP fun entry =>
    decide (entry.record.identity.creationTime100ns < identity.creationTime100ns)

theorem elders_le (entries : List Entry) (identity : ProcessIdentity) :
    elders entries identity ≤ entries.length :=
  countP_le_length

theorem elders_lt {entries : List Entry} {elder : Entry} (member : elder ∈ entries)
    {identity : ProcessIdentity}
    (older : elder.record.identity.creationTime100ns < identity.creationTime100ns) :
    elders entries elder.record.identity < elders entries identity := by
  unfold elders
  induction entries with
  | nil => cases member
  | cons head rest ih =>
    rw [countP_cons, countP_cons]
    have tail : elders rest elder.record.identity ≤ elders rest identity := by
      refine countP_mono_left fun entry _ before => ?_
      have less := of_decide_eq_true before
      exact decide_eq_true (UInt64.lt_trans less older)
    unfold elders at tail
    rcases mem_cons.mp member with rfl | later
    · rw [decide_eq_false (UInt64.lt_irrefl _), decide_eq_true older]
      simp only [Bool.false_eq_true, ↓reduceIte]
      omega
    have strictly := ih later
    have head_le :
        (if decide (head.record.identity.creationTime100ns <
            elder.record.identity.creationTime100ns) = true then 1
          else 0) ≤
          if decide (head.record.identity.creationTime100ns <
              identity.creationTime100ns) = true then 1 else 0 := by
      split
      next before =>
        have less := of_decide_eq_true before
        rw [if_pos (decide_eq_true (UInt64.lt_trans less older))]
      next => exact Nat.zero_le _
    omega

section Descent

variable {entries : List Entry} {identity ancestor : ProcessIdentity}
variable {entry : Entry}

theorem findEntry_some (found : findEntry entries identity = some entry) :
    entry ∈ entries ∧ entry.record.identity.sameInstance identity = true :=
  ⟨mem_of_find?_eq_some found, (find?_eq_some_iff_append.mp found).1⟩

section

variable (lineage : Lineage entries)
include lineage

theorem Lineage.unique {first second : Entry}
    (isFirst : first ∈ entries) (isSecond : second ∈ entries)
    (same : first.record.identity.sameInstance second.record.identity = true) :
    first = second := by
  have symmetric :
      Std.Symm fun first second : Entry =>
        first.record.identity.sameInstance second.record.identity = false := by
    refine ⟨fun first second apart => Bool.eq_false_iff.mpr fun same => ?_⟩
    rw [sameInstance_symm same] at apart
    cases apart
  by_contra differ
  have apart := lineage.distinct.forall isFirst isSecond differ
  rw [same] at apart
  cases apart

theorem Lineage.findEntry_mem (member : entry ∈ entries)
    (same : entry.record.identity.sameInstance identity = true) :
    findEntry entries identity = some entry := by
  cases found : findEntry entries identity with
  | none =>
    have missing := find?_eq_none.mp found entry member
    exact absurd same missing
  | some other =>
    obtain ⟨isOther, sameOther⟩ := findEntry_some found
    rw [lineage.unique isOther member (sameInstance_trans sameOther (sameInstance_symm same))]

/-- A verified parent belongs to a recorded child and is recorded, and it
was created before the child. -/
theorem Lineage.parentOf_some {parent : ProcessIdentity}
    (isParent : parentOf entries identity = some parent) :
    ∃ child ∈ entries, ∃ elder ∈ entries,
      child.record.identity.sameInstance identity = true ∧ elder.record.identity = parent ∧
        parent.processId = child.record.parentProcessId ∧
        parent.creationTime100ns < identity.creationTime100ns := by
  unfold parentOf at isParent
  split at isParent
  · cases isParent
  next child found =>
    split at isParent
    next verified =>
      obtain ⟨member, same⟩ := findEntry_some found
      obtain ⟨elder, isElder, isIdentity, pid, older⟩ := lineage.linked child member verified
      obtain rfl := Option.some.inj isParent
      refine ⟨child, member, elder, isElder, same, isIdentity.symm, ?_, ?_⟩
      · rw [isIdentity]
        exact pid
      · rw [isIdentity, ← (sameInstance_iff.mp same).2.1]
        exact older
    next => cases isParent

theorem Lineage.parentOf_elders (identity parent : ProcessIdentity)
    (isParent : parentOf entries identity = some parent) :
    elders entries parent < elders entries identity := by
  obtain ⟨child, _, elder, isElder, _, rfl, _, older⟩ := lineage.parentOf_some isParent
  exact elders_lt isElder older

theorem Lineage.descends_recorded (descends : Descends entries identity ancestor) :
    (∃ child ∈ entries, child.record.identity.sameInstance identity = true) ∧
      (∃ elder ∈ entries, elder.record.identity = ancestor) ∧
      ancestor.creationTime100ns < identity.creationTime100ns := by
  induction descends with
  | single isParent =>
    obtain ⟨child, isChild, elder, isElder, same, isParent', _, older⟩ :=
      lineage.parentOf_some isParent
    exact ⟨⟨child, isChild, same⟩, ⟨elder, isElder, isParent'⟩, older⟩
  | tail _ isParent ih =>
    obtain ⟨_, _, elder, isElder, _, isParent', _, older⟩ := lineage.parentOf_some isParent
    obtain ⟨child, _, before⟩ := ih
    exact ⟨child, ⟨elder, isElder, isParent'⟩, UInt64.lt_trans older before⟩

/-- The bounded walk of the source finds every ancestor. -/
theorem Lineage.isExactDescendant_iff {child elder : Entry}
    (isChild : child ∈ entries) (isElder : elder ∈ entries) :
    isExactDescendant entries child.record.identity elder.record.identity = true ↔
      Descends entries child.record.identity elder.record.identity := by
  have walk :
      climb (parentOf entries) (·.sameInstance elder.record.identity)
            (entries.length + 1) child.record.identity = true ↔
        ∃ found,
          Descends entries child.record.identity found ∧
            found.sameInstance elder.record.identity = true := by
    have enough : elders entries child.record.identity < entries.length + 1 :=
      Nat.lt_succ_of_le (elders_le _ _)
    exact climb_iff lineage.parentOf_elders enough
  unfold isExactDescendant
  rw [Bool.and_eq_true, Bool.and_eq_true, Bool.and_eq_true, walk]
  constructor
  · rintro ⟨_, found, descends, same⟩
    obtain ⟨_, ⟨other, isOther, rfl⟩, _⟩ := lineage.descends_recorded descends
    rw [← lineage.unique isOther isElder same]
    exact descends
  intro descends
  refine ⟨⟨⟨lineage.valid child isChild, lineage.valid elder isElder⟩, ?_⟩,
    _, descends, sameInstance_self (lineage.valid elder isElder)⟩
  rw [Bool.not_eq_true', Bool.eq_false_iff]
  intro same
  have older := (lineage.descends_recorded descends).2.2
  rw [(sameInstance_iff.mp same).2.1] at older
  exact absurd older (UInt64.lt_irrefl _)

/-- A process is taken for a descendant only if it and the ancestor are
recorded with exactly these creation times. -/
theorem Lineage.isExactDescendant_recorded
    (descendant : isExactDescendant entries identity ancestor = true) :
    ∃ child ∈ entries, ∃ elder ∈ entries,
      child.record.identity.sameInstance identity = true ∧
        elder.record.identity.sameInstance ancestor = true ∧
        Descends entries child.record.identity elder.record.identity ∧
        ancestor.creationTime100ns < identity.creationTime100ns := by
  unfold isExactDescendant at descendant
  rw [Bool.and_eq_true] at descendant
  obtain ⟨found, descends, same⟩ := Foundation.climb_sound descendant.2
  obtain ⟨⟨child, isChild, sameChild⟩, ⟨elder, isElder, rfl⟩, older⟩ :=
    lineage.descends_recorded descends
  rw [(sameInstance_iff.mp same).2.1] at older
  refine ⟨child, isChild, elder, isElder, sameChild, same, ?_, older⟩
  have sameFound : findEntry entries child.record.identity = findEntry entries identity := by
    rw [lineage.findEntry_mem isChild sameChild,
      lineage.findEntry_mem isChild (sameInstance_self (lineage.valid child isChild))]
  have sameParent : parentOf entries child.record.identity = parentOf entries identity := by
    unfold parentOf
    rw [sameFound]
  obtain ⟨parent, isParent, rest⟩ := Relation.TransGen.head'_iff.mp descends
  exact Relation.TransGen.head'_iff.mpr ⟨parent, sameParent.trans isParent, rest⟩

end

end Descent

/-- The part of a record that descent depends on. -/
structure Kin where
  identity : ProcessIdentity
  parentProcessId : UInt32
  parentIdentity : ProcessIdentity
  parentIdentityVerified : Bool

def kin (entry : Entry) : Kin where
  identity := entry.record.identity
  parentProcessId := entry.record.parentProcessId
  parentIdentity := entry.record.parentIdentity
  parentIdentityVerified := entry.record.parentIdentityVerified

section Changes

variable {entries changed : List Entry}
variable {child : ProcessRecord} {parent : Entry}

theorem mem_of_kin (same : changed.map kin = entries.map kin)
    (member : entry ∈ entries) : ∃ other ∈ changed, kin other = kin entry := by
  have mapped : kin entry ∈ changed.map kin := by
    rw [same]
    exact mem_map_of_mem member
  exact mem_map.mp mapped

theorem Lineage.of_kin (lineage : Lineage entries) (same : changed.map kin = entries.map kin) :
    Lineage changed where
  valid := by
    intro entry member
    obtain ⟨other, isOther, sameKin⟩ := mem_of_kin same.symm member
    have identity : other.record.identity = entry.record.identity := congrArg Kin.identity sameKin
    rw [← identity]
    exact lineage.valid other isOther
  distinct := by
    have pairs :
        (entries.map kin).Pairwise fun first second =>
          first.identity.sameInstance second.identity = false :=
      pairwise_map.mpr lineage.distinct
    rw [← same] at pairs
    exact pairwise_map.mp pairs
  linked := by
    intro child member verified
    obtain ⟨other, isOther, sameKin⟩ := mem_of_kin same.symm member
    have verifiedOther : other.record.parentIdentityVerified = true :=
      (congrArg Kin.parentIdentityVerified sameKin).trans verified
    obtain ⟨parent, isParent, identity, pid, older⟩ := lineage.linked other isOther verifiedOther
    obtain ⟨elder, isElder, sameElder⟩ := mem_of_kin same isParent
    have isIdentity : elder.record.identity = parent.record.identity :=
      congrArg Kin.identity sameElder
    have ownIdentity : other.record.identity = child.record.identity :=
      congrArg Kin.identity sameKin
    have parentPid : other.record.parentProcessId = child.record.parentProcessId :=
      congrArg Kin.parentProcessId sameKin
    have parentIdentity : other.record.parentIdentity = child.record.parentIdentity :=
      congrArg Kin.parentIdentity sameKin
    refine ⟨elder, isElder, ?_, ?_, ?_⟩
    · rw [← parentIdentity, identity, isIdentity]
    · rw [isIdentity, pid, parentPid]
    · rw [isIdentity, ← ownIdentity]
      exact older

/-- A new instance joins without a verified parent. -/
theorem Lineage.append (lineage : Lineage entries) {fresh : Entry}
    (valid : fresh.record.identity.valid = true)
    (isNew : ∀ entry ∈ entries, entry.record.identity.sameInstance fresh.record.identity = false)
    (unverified : fresh.record.parentIdentityVerified = false) :
    Lineage (entries ++ [fresh]) where
  valid := by
    intro entry member
    rcases mem_append.mp member with earlier | now
    · exact lineage.valid entry earlier
    · rw [mem_singleton.mp now]
      exact valid
  distinct := by
    refine pairwise_append.mpr ⟨lineage.distinct, pairwise_singleton _ _, ?_⟩
    intro first isFirst second isSecond
    rw [mem_singleton.mp isSecond]
    exact isNew first isFirst
  linked := by
    intro child member verified
    rcases mem_append.mp member with earlier | now
    · obtain ⟨parent, isParent, rest⟩ := lineage.linked child earlier verified
      exact ⟨parent, mem_append_left _ isParent, rest⟩
    · rw [mem_singleton.mp now, unverified] at verified
      cases verified

theorem uniqueParent_some (found : uniqueParent entries child = some parent) :
    parent ∈ entries ∧ mayBeParent child parent = true := by
  unfold uniqueParent at found
  split at found
  next candidate filtered =>
    obtain rfl := Option.some.inj found
    refine mem_filter.mp ?_
    rw [filtered]
    exact mem_singleton_self _
  next => cases found

theorem mayBeParent_older (may : mayBeParent child parent = true) :
    parent.record.identity.processId = child.parentProcessId ∧
      parent.record.identity.creationTime100ns < child.identity.creationTime100ns := by
  unfold mayBeParent parentLifetimeContains at may
  rw [Bool.and_eq_true, beq_iff_eq] at may
  obtain ⟨pid, contains⟩ := may
  refine ⟨pid, ?_⟩
  split at contains
  · cases contains
  next before => exact UInt64.not_le.mp (not_or.mp before).2

theorem resolveParent_record (entries : List Entry) (child : Entry) :
    (resolveParent entries child).record.identity = child.record.identity ∧
      (resolveParent entries child).record.exited = child.record.exited ∧
      (resolveParent entries child).record.exitTime100ns = child.record.exitTime100ns ∧
      (resolveParent entries child).record.parentProcessId = child.record.parentProcessId := by
  unfold resolveParent
  split
  · split
    · exact ⟨rfl, rfl, rfl, rfl⟩
    · exact ⟨rfl, rfl, rfl, rfl⟩
  · exact ⟨rfl, rfl, rfl, rfl⟩

/-- A resolved child has the parent that it had, or the only candidate. -/
theorem resolveParent_cases (entries : List Entry) (child : Entry) :
    resolveParent entries child = child ∨
      ∃ parent ∈ entries, mayBeParent child.record parent = true ∧
        (resolveParent entries child).record.parentIdentity = parent.record.identity ∧
        (resolveParent entries child).record.parentIdentityVerified = true := by
  unfold resolveParent
  split
  · split
    next candidate found =>
      obtain ⟨member, may⟩ := uniqueParent_some found
      exact .inr ⟨candidate, member, may, rfl, rfl⟩
    next => exact .inl rfl
  · exact .inl rfl

theorem Lineage.resolve (lineage : Lineage entries) :
    Lineage (entries.map (resolveParent entries)) where
  valid := by
    intro entry member
    obtain ⟨before, isBefore, rfl⟩ := mem_map.mp member
    rw [(resolveParent_record entries before).1]
    exact lineage.valid before isBefore
  distinct := by
    refine pairwise_map.mpr (lineage.distinct.imp ?_)
    intro first second apart
    rw [(resolveParent_record entries first).1, (resolveParent_record entries second).1]
    exact apart
  linked := by
    intro child member verified
    obtain ⟨before, isBefore, rfl⟩ := mem_map.mp member
    obtain ⟨identity, _, _, parentPid⟩ := resolveParent_record entries before
    rw [identity, parentPid]
    rcases resolveParent_cases entries before with
      same | ⟨parent, isParent, may, isIdentity, _⟩
    · rw [same] at verified ⊢
      obtain ⟨parent, isParent, link⟩ := lineage.linked before isBefore verified
      refine ⟨_, mem_map_of_mem isParent, ?_⟩
      rw [(resolveParent_record entries parent).1]
      exact link
    · refine ⟨_, mem_map_of_mem isParent, ?_⟩
      rw [(resolveParent_record entries parent).1]
      exact ⟨isIdentity, mayBeParent_older may⟩

theorem mayBeParent_resolve (entries : List Entry) (child : ProcessRecord) (parent : Entry) :
    mayBeParent child (resolveParent entries parent) = mayBeParent child parent := by
  obtain ⟨identity, exited, exitTime, _⟩ := resolveParent_record entries parent
  unfold mayBeParent parentLifetimeContains
  rw [identity, exited, exitTime]

theorem uniqueParent_resolve (child : ProcessRecord) :
    uniqueParent (entries.map (resolveParent entries)) child =
      (uniqueParent entries child).map (resolveParent entries) := by
  have filtered :
      (entries.map (resolveParent entries)).filter (mayBeParent child) =
        (entries.filter (mayBeParent child)).map (resolveParent entries) := by
    rw [filter_map]
    refine congrArg _ (filter_congr fun parent _ => ?_)
    exact mayBeParent_resolve entries child parent
  unfold uniqueParent
  rw [filtered]
  cases entries.filter (mayBeParent child) with
  | nil => rfl
  | cons first rest =>
    cases rest with
    | nil | cons second rest => rfl

theorem resolve_resolve :
    (entries.map (resolveParent entries)).map
        (resolveParent (entries.map (resolveParent entries))) =
      entries.map (resolveParent entries) := by
  rw [map_map]
  refine map_congr_left fun child _ => ?_
  change resolveParent (entries.map (resolveParent entries)) _ = _
  rcases resolveParent_cases entries child with
    same | ⟨_, _, _, _, verified⟩
  · rw [same]
    rw [resolveParent] at same ⊢
    split
    next searched =>
      rw [if_pos searched] at same
      rw [uniqueParent_resolve]
      cases found : uniqueParent entries child.record with
      | none => rfl
      | some candidate =>
        rw [found] at same
        refine Eq.trans ?_ same
        refine congrArg
          (fun identity : ProcessIdentity =>
            { child with
              record :=
                { child.record with
                  parentIdentity := identity
                  parentIdentityVerified := true } })
          (resolveParent_record entries candidate).1
    next => rfl
  · have settled : unresolved (resolveParent entries child).record = false := by
      unfold unresolved
      rw [verified, Bool.or_true, Bool.true_or, Bool.not_true]
    exact if_neg (Bool.eq_false_iff.mp settled)

end Changes

end HydraSeat.Process.Group
