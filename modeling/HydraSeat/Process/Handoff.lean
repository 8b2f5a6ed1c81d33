import HydraSeat.Process.Lineage

/-!
# The authority of a group

The authority moves only when it has exited, and then to the running trusted
descendant from which all others descend.  When there are candidates but no
such one, or when an observation was lost, the group is unverifiable.
-/

namespace HydraSeat.Process.Group

open List

variable (compareStringOrdinal : WideString → WideString → Bool)

/-! ## Candidates -/

/-- A running trusted entry that descends from the authority. -/
structure Candidate (group : Group) (authority : ProcessIdentity) (entry : Entry) : Prop where
  tracked : entry ∈ group.entries
  running : entry.record.exited = false
  trusted : trustedExecutable compareStringOrdinal group entry.record.identity = true
  descends : Descends group.entries entry.record.identity authority

/-- The candidate from which all other candidates descend. -/
structure Heir (group : Group) (authority : ProcessIdentity) (entry : Entry) : Prop where
  candidate : Candidate compareStringOrdinal group authority entry
  first :
    ∀ other, Candidate compareStringOrdinal group authority other →
      other = entry ∨ Descends group.entries other.record.identity entry.record.identity

/-- The process was observed to have exited. -/
def HasExited (group : Group) (identity : ProcessIdentity) : Prop :=
  ∃ entry ∈ group.entries, entry.record.identity = identity ∧ entry.record.exited = true

instance (group : Group) (identity : ProcessIdentity) : Decidable (HasExited group identity) :=
  inferInstanceAs (Decidable (∃ entry ∈ group.entries, _))

/-- The authority has exited, and none of the candidates comes first. -/
structure Ambiguous (group : Group) : Prop where
  contained : group.tracking = .fullJobObject
  exited : HasExited group group.authority
  candidates : ∃ entry, Candidate compareStringOrdinal group group.authority entry
  noHeir : ¬ ∃ entry, Heir compareStringOrdinal group group.authority entry

/-- The state of a group whenever its lock is free. -/
structure Quiet (group : Group) : Prop where
  uncertain : group.trackingComplete = false → group.handoffState = .unverifiable
  ambiguous : Ambiguous compareStringOrdinal group → group.handoffState = .unverifiable
  handedOn :
    group.trackingComplete = true → group.tracking = .fullJobObject →
      HasExited group group.authority →
        ¬ ∃ entry, Heir compareStringOrdinal group group.authority entry

/-- The authority of one group is handed on in the other. -/
structure Handoff (before after : Group) : Prop where
  certain : before.trackingComplete = true
  exited : HasExited after before.authority
  heir :
    ∃ entry, Heir compareStringOrdinal after before.authority entry ∧
      after.authority = entry.record.identity
  counted : after.handoffGeneration.toNat = before.handoffGeneration.toNat + 1
  active : after.handoffState = .descendantActive

/-- What holds of the records of a group. -/
structure Coherent (group : Group) : Prop where
  lineage : Lineage group.entries
  root : group.root.valid = true
  authority : ∃ entry ∈ group.entries, entry.record.identity = group.authority
  bounded : group.entries.length ≤ kMaximumTrackedSeatProcesses
  counted : group.handoffGeneration.toNat ≤ elders group.entries group.authority

/-! ## Groups with the same processes -/

/-- The groups differ in nothing that descent and trust depend on. -/
structure SameTree (left right : Group) : Prop where
  entries : left.entries = right.entries
  root : left.root = right.root
  authority : left.authority = right.authority
  tracking : left.tracking = right.tracking
  trusted : left.trustedHandoffExecutables = right.trustedHandoffExecutables
  generation : left.handoffGeneration = right.handoffGeneration
  complete : left.trackingComplete = right.trackingComplete

section Same

variable {compareStringOrdinal}
  {left right group : Group} {authority : ProcessIdentity} {entry : Entry}

theorem SameTree.refl (group : Group) : SameTree group group := ⟨rfl, rfl, rfl, rfl, rfl, rfl, rfl⟩

theorem SameTree.trans {other : Group} (first : SameTree left right)
    (second : SameTree right other) : SameTree left other :=
  ⟨first.entries.trans second.entries, first.root.trans second.root,
    first.authority.trans second.authority,
    first.tracking.trans second.tracking,
    first.trusted.trans second.trusted,
    first.generation.trans second.generation,
    first.complete.trans second.complete⟩

theorem Candidate.of_same (candidate : Candidate compareStringOrdinal left authority entry)
    (entries : left.entries = right.entries)
    (trusted : left.trustedHandoffExecutables = right.trustedHandoffExecutables) :
    Candidate compareStringOrdinal right authority entry where
  tracked := entries ▸ candidate.tracked
  running := candidate.running
  trusted := by
    have isTrusted := candidate.trusted
    unfold trustedExecutable at isTrusted ⊢
    rw [← trusted]
    exact isTrusted
  descends := entries ▸ candidate.descends

theorem Heir.of_same (heir : Heir compareStringOrdinal left authority entry)
    (entries : left.entries = right.entries)
    (trusted : left.trustedHandoffExecutables = right.trustedHandoffExecutables) :
    Heir compareStringOrdinal right authority entry where
  candidate := heir.candidate.of_same entries trusted
  first := by
    intro other candidate
    rw [← entries]
    exact heir.first other (candidate.of_same entries.symm trusted.symm)

theorem HasExited.of_same (exited : HasExited left authority)
    (entries : left.entries = right.entries) : HasExited right authority := by
  obtain ⟨entry, member, rest⟩ := exited
  exact ⟨entry, entries ▸ member, rest⟩

theorem Coherent.of_same (coherent : Coherent left) (same : SameTree right left) :
    Coherent right where
  lineage := same.entries ▸ coherent.lineage
  root := same.root ▸ coherent.root
  authority := by
    rw [same.entries, same.authority]
    exact coherent.authority
  bounded := by
    rw [same.entries]
    exact coherent.bounded
  counted := by
    rw [same.entries, same.authority, same.generation]
    exact coherent.counted

theorem setHandoffState_same (group : Group) (state : ProcessHandoffState) :
    SameTree (setHandoffState group state) group ∧
      (setHandoffState group state).handoffState = state := by
  unfold setHandoffState
  split
  next same => exact ⟨.refl group, same⟩
  next => exact ⟨⟨rfl, rfl, rfl, rfl, rfl, rfl, rfl⟩, rfl⟩

theorem conclude_same (group : Group) (state : ProcessHandoffState) :
    SameTree (conclude group state) group ∧ (conclude group state).handoffState = state := by
  obtain ⟨same, isState⟩ := setHandoffState_same { group with handoffPending := false } state
  exact ⟨same.trans ⟨rfl, rfl, rfl, rfl, rfl, rfl, rfl⟩, isState⟩

theorem awaitDescendant_same (group : Group) (readings : Readings) :
    SameTree (awaitDescendant group readings) group := by
  unfold awaitDescendant
  split
  · exact (conclude_same group _).1
  split
  · exact (conclude_same group _).1
  split
  · exact (setHandoffState_same _ _).1.trans ⟨rfl, rfl, rfl, rfl, rfl, rfl, rfl⟩
  · split
    · exact (setHandoffState_same group _).1
    · exact (conclude_same group _).1

end Same

/-! ## The frontier -/

section Frontier

variable {compareStringOrdinal} {group : Group} {entry : Entry}

section

variable (coherent : Coherent group)
include coherent

theorem mem_trustedRunning :
    entry ∈ trustedRunning compareStringOrdinal group ↔
      Candidate compareStringOrdinal group group.authority entry := by
  obtain ⟨elder, isElder, isAuthority⟩ := coherent.authority
  unfold trustedRunning
  rw [mem_filter, Bool.and_eq_true, Bool.and_eq_true, Bool.not_eq_true', ← isAuthority]
  constructor
  · rintro ⟨tracked, ⟨running, trusted⟩, descendant⟩
    exact ⟨tracked, running, trusted,
      (coherent.lineage.isExactDescendant_iff tracked isElder).mp descendant⟩
  · rintro ⟨tracked, running, trusted, descends⟩
    exact ⟨tracked, ⟨running, trusted⟩,
      (coherent.lineage.isExactDescendant_iff tracked isElder).mpr descends⟩

theorem mem_trustedFrontier :
    entry ∈ trustedFrontier compareStringOrdinal group ↔
      Candidate compareStringOrdinal group group.authority entry ∧
        ∀ other,
          Candidate compareStringOrdinal group group.authority other →
            ¬ Descends group.entries entry.record.identity other.record.identity := by
  unfold trustedFrontier
  rw [mem_filter, mem_trustedRunning coherent, Bool.not_eq_true', any_eq_false]
  refine and_congr_right fun candidate => ?_
  constructor
  · intro none other isOther descends
    refine none other ((mem_trustedRunning coherent).mpr isOther) ?_
    rw [Bool.and_eq_true, Bool.not_eq_true', Bool.eq_false_iff]
    refine ⟨fun same => ?_,
      (coherent.lineage.isExactDescendant_iff candidate.tracked isOther.tracked).mpr descends⟩
    have older := (coherent.lineage.descends_recorded descends).2.2
    rw [(sameInstance_iff.mp same).2.1] at older
    exact absurd older (UInt64.lt_irrefl _)
  · intro none other isOther both
    have isCandidate := (mem_trustedRunning coherent).mp isOther
    exact none other isCandidate
      ((coherent.lineage.isExactDescendant_iff candidate.tracked
        isCandidate.tracked).mp (Bool.and_eq_true_iff.mp both).2)

theorem below_trustedFrontier
    (candidate : Candidate compareStringOrdinal group group.authority entry) :
    ∃ front ∈ trustedFrontier compareStringOrdinal group,
      entry = front ∨ Descends group.entries entry.record.identity front.record.identity := by
  -- The induction is on the number of older entries.
  induction isHeight : elders group.entries entry.record.identity using
    Nat.strong_induction_on generalizing entry with
  | _ height ih =>
    by_cases isFront : entry ∈ trustedFrontier compareStringOrdinal group
    · exact ⟨entry, isFront, .inl rfl⟩
    have hidden :
        ¬ ∀ other,
          Candidate compareStringOrdinal group group.authority other →
            ¬ Descends group.entries entry.record.identity other.record.identity := fun all =>
      isFront ((mem_trustedFrontier coherent).mpr ⟨candidate, all⟩)
    simp only [not_forall, not_not] at hidden
    obtain ⟨other, isOther, descends⟩ := hidden
    have fewer : elders group.entries other.record.identity < height := by
      rw [← isHeight]
      exact descends.falls coherent.lineage.parentOf_elders
    obtain ⟨front, isMember, same | further⟩ := ih _ fewer isOther rfl
    · exact ⟨front, isMember, .inr (same ▸ descends)⟩
    · exact ⟨front, isMember, .inr (descends.trans further)⟩

theorem frontier_nil (empty : trustedFrontier compareStringOrdinal group = []) :
    ¬ Candidate compareStringOrdinal group group.authority entry := by
  intro candidate
  obtain ⟨front, member, _⟩ := below_trustedFrontier coherent candidate
  rw [empty] at member
  cases member

theorem frontier_singleton (single : trustedFrontier compareStringOrdinal group = [entry]) :
    Heir compareStringOrdinal group group.authority entry where
  candidate := by
    refine ((mem_trustedFrontier coherent).mp ?_).1
    rw [single]
    exact mem_singleton_self _
  first := by
    intro other candidate
    obtain ⟨front, member, below⟩ := below_trustedFrontier coherent candidate
    rw [single] at member
    rw [mem_singleton.mp member] at below
    exact below

theorem frontier_several {first second : Entry} {rest : List Entry}
    (several : trustedFrontier compareStringOrdinal group = first :: second :: rest) :
    ¬ ∃ heir, Heir compareStringOrdinal group group.authority heir := by
  rintro ⟨heir, isHeir⟩
  have isFront (front : Entry) (member : front ∈ trustedFrontier compareStringOrdinal group) :
      front = heir := by
    obtain ⟨candidate, top⟩ := (mem_trustedFrontier coherent).mp member
    rcases isHeir.first front candidate with same | below
    · exact same
    · exact absurd below (top heir isHeir.candidate)
  have sorted :
      (trustedFrontier compareStringOrdinal group).Pairwise
        fun first second => first.record.identity.sameInstance second.record.identity = false :=
    coherent.lineage.distinct.sublist (filter_sublist.trans filter_sublist)
  have isFirst := isFront first (by rw [several]; exact mem_cons_self)
  have isSecond := isFront second (by rw [several]; exact mem_cons_of_mem _ mem_cons_self)
  rw [several] at sorted
  have apart := rel_of_pairwise_cons sorted mem_cons_self
  rw [isFirst, isSecond,
    sameInstance_self (coherent.lineage.valid heir isHeir.candidate.tracked)] at apart
  cases apart

end

end Frontier

/-! ## Refreshing the authority -/

section Refresh

variable {compareStringOrdinal} {group : Group} {current : Entry} {readings : Readings}

/-- What one refresh can do: the authority stays, or it is handed on. -/
inductive Refreshed (compareStringOrdinal : WideString → WideString → Bool)
    (group : Group) : Group → Prop
  | stays {after : Group} :
      SameTree after group → Quiet compareStringOrdinal after →
        Refreshed compareStringOrdinal group after
  | handsOn {after : Group} {heir : Entry} :
      Heir compareStringOrdinal group group.authority heir → HasExited group group.authority →
        group.trackingComplete = true →
        SameTree after (promote group heir) →
        after.handoffState = .descendantActive →
        Refreshed compareStringOrdinal group after

theorem Quiet.of_unverifiable (unverifiable : group.handoffState = .unverifiable)
    (noHeir :
      group.trackingComplete = true →
        ¬ ∃ entry, Heir compareStringOrdinal group group.authority entry) :
    Quiet compareStringOrdinal group :=
  ⟨fun _ => unverifiable, fun _ => unverifiable, fun complete _ _ => noHeir complete⟩

theorem Quiet.of_running (coherent : Coherent group) (complete : group.trackingComplete = true)
    (member : current ∈ group.entries)
    (isAuthority : current.record.identity = group.authority)
    (running : current.record.exited = false) :
    Quiet compareStringOrdinal group := by
  have notExited : ¬ HasExited group group.authority := by
    rintro ⟨entry, isEntry, same, exited⟩
    have sameEntry : entry = current := by
      refine coherent.lineage.unique isEntry member ?_
      rw [same, isAuthority]
      exact sameInstance_self (isAuthority ▸ coherent.lineage.valid current member)
    rw [sameEntry, running] at exited
    cases exited
  refine ⟨fun incomplete => ?_, fun ambiguous => ?_, fun _ _ exited => ?_⟩
  · rw [complete] at incomplete
    cases incomplete
  · exact absurd ambiguous.exited notExited
  · exact absurd exited notExited

theorem Quiet.of_no_candidate (complete : group.trackingComplete = true)
    (none : ∀ entry, ¬ Candidate compareStringOrdinal group group.authority entry) :
    Quiet compareStringOrdinal group := by
  refine ⟨fun incomplete => ?_, fun ambiguous => ?_, fun _ _ _ => ?_⟩
  · rw [complete] at incomplete
    cases incomplete
  · obtain ⟨entry, candidate⟩ := ambiguous.candidates
    exact absurd candidate (none entry)
  · rintro ⟨entry, heir⟩
    exact none entry heir.candidate

theorem Quiet.of_uncontained (complete : group.trackingComplete = true)
    (uncontained : group.tracking ≠ .fullJobObject) :
    Quiet compareStringOrdinal group := by
  refine ⟨fun incomplete => ?_, fun ambiguous => ?_, fun _ full => ?_⟩
  · rw [complete] at incomplete
    cases incomplete
  · exact absurd ambiguous.contained uncontained
  · exact absurd full uncontained

theorem Coherent.findEntry_authority (coherent : Coherent group) :
    ∃ current ∈ group.entries,
      current.record.identity = group.authority ∧
        findEntry group.entries group.authority = some current := by
  obtain ⟨current, member, isAuthority⟩ := coherent.authority
  refine ⟨current, member, isAuthority, ?_⟩
  rw [← isAuthority]
  exact coherent.lineage.findEntry_mem member
    (sameInstance_self (coherent.lineage.valid current member))

theorem toNat_add_one {generation : UInt64} {bound : Nat} (small : generation.toNat ≤ bound)
    (limit : bound ≤ kMaximumTrackedSeatProcesses) :
    (generation + 1).toNat = generation.toNat + 1 := by
  unfold kMaximumTrackedSeatProcesses at limit
  rw [UInt64.toNat_add]
  exact Nat.mod_eq_of_lt (by change _ + 1 < _; omega)

section

variable (coherent : Coherent group)
include coherent

theorem Coherent.generation_small :
    (group.handoffGeneration + 1).toNat = group.handoffGeneration.toNat + 1 :=
  toNat_add_one (coherent.counted.trans (elders_le _ _)) coherent.bounded

theorem Coherent.promote {heir : Entry}
    (isHeir : Heir compareStringOrdinal group group.authority heir) :
    Coherent (promote group heir) where
  lineage := coherent.lineage
  root := coherent.root
  authority := ⟨heir, isHeir.candidate.tracked, rfl⟩
  bounded := coherent.bounded
  counted := by
    change (group.handoffGeneration + 1).toNat ≤ elders group.entries heir.record.identity
    have higher :
        elders group.entries group.authority < elders group.entries heir.record.identity :=
      isHeir.candidate.descends.falls coherent.lineage.parentOf_elders
    have counted := coherent.counted
    rw [coherent.generation_small]
    omega

theorem refreshAuthorityLoop_running (member : current ∈ group.entries)
    (isAuthority : current.record.identity = group.authority)
    (running : current.record.exited = false) (steps : Nat) :
    refreshAuthorityLoop compareStringOrdinal readings (steps + 1) group =
      conclude group
        (if group.handoffGeneration = 0 then .rootActive
        else .descendantActive) := by
  have found : findEntry group.entries group.authority = some current := by
    rw [← isAuthority]
    exact coherent.lineage.findEntry_mem member
      (sameInstance_self (coherent.lineage.valid current member))
  unfold refreshAuthorityLoop
  rw [found]
  exact if_pos (by rw [running]; rfl)

theorem refreshAuthorityLoop_refreshed (complete : group.trackingComplete = true) (steps : Nat) :
    Refreshed compareStringOrdinal group
      (refreshAuthorityLoop compareStringOrdinal readings (steps + 2) group) := by
  obtain ⟨current, member, isAuthority, found⟩ := coherent.findEntry_authority
  cases exited : current.record.exited with
  | false =>
    rw [refreshAuthorityLoop_running coherent member isAuthority exited]
    obtain ⟨same, _⟩ := conclude_same group
      (if group.handoffGeneration = 0 then .rootActive
      else .descendantActive)
    exact .stays same
      (.of_running (coherent.of_same same) (same.complete.trans complete)
        (same.entries ▸ member) (isAuthority.trans same.authority.symm)
        exited)
  | true =>
    unfold refreshAuthorityLoop
    rw [found]
    dsimp only
    rw [if_neg (by rw [exited]; exact Bool.false_ne_true)]
    split
    next uncontained =>
      obtain ⟨same, _⟩ := conclude_same group .unsupportedContainment
      exact .stays same
        (.of_uncontained (same.complete.trans complete) (same.tracking ▸ uncontained))
    next contained =>
      split
      next untrusting =>
        obtain ⟨same, isState⟩ := conclude_same group .unverifiable
        refine .stays same (.of_unverifiable isState ?_)
        rintro _ ⟨entry, heir⟩
        have trusted := heir.candidate.trusted
        unfold trustedExecutable at trusted
        rw [same.trusted, isEmpty_iff.mp untrusting] at trusted
        cases trusted
      next =>
        split
        next empty =>
          have same := awaitDescendant_same group readings
          refine .stays same (.of_no_candidate (same.complete.trans complete) ?_)
          intro entry candidate
          rw [same.authority] at candidate
          exact frontier_nil coherent empty (candidate.of_same same.entries same.trusted)
        next heir single =>
          have isHeir := frontier_singleton coherent single
          have promoted := coherent.promote isHeir
          rw [refreshAuthorityLoop_running promoted
            isHeir.candidate.tracked rfl isHeir.candidate.running]
          obtain ⟨same, isState⟩ := conclude_same (promote group heir)
            (if (promote group heir).handoffGeneration = 0 then .rootActive
            else .descendantActive)
          refine .handsOn isHeir ⟨current, member, isAuthority, exited⟩
            complete same (isState.trans (if_neg ?_))
          intro zero
          have counted := coherent.generation_small
          change group.handoffGeneration + 1 = 0 at zero
          rw [zero] at counted
          cases counted
        next first second rest several =>
          obtain ⟨same, isState⟩ := conclude_same group .unverifiable
          refine .stays same (.of_unverifiable isState ?_)
          rintro _ ⟨entry, heir⟩
          rw [same.authority] at heir
          exact frontier_several coherent several ⟨entry, heir.of_same same.entries same.trusted⟩

theorem refreshAuthority_refreshed :
    Refreshed compareStringOrdinal group
      (refreshAuthority compareStringOrdinal group readings) := by
  unfold refreshAuthority
  obtain ⟨current, member, isAuthority⟩ := coherent.authority
  have validAuthority : group.authority.valid = true := by
    rw [← isAuthority]
    exact coherent.lineage.valid current member
  rw [coherent.root, validAuthority]
  cases complete : group.trackingComplete with
  | false =>
    change Refreshed _ _ (conclude group .unverifiable)
    obtain ⟨same, isState⟩ := conclude_same group .unverifiable
    refine .stays same (.of_unverifiable isState fun impossible => ?_)
    rw [same.complete, complete] at impossible
    cases impossible
  | true =>
    obtain ⟨steps, isLength⟩ := Nat.exists_eq_succ_of_ne_zero
      (Nat.ne_of_gt (length_pos_of_mem member))
    rw [isLength]
    exact refreshAuthorityLoop_refreshed coherent complete steps

end

end Refresh

/-! ## Operations -/

section Operations

variable {compareStringOrdinal} {group before after result : Group} {readings : Readings}
variable {changed : List Entry} {second : Readings}

theorem elders_of_identities {entries : List Entry}
    (same : changed.map (·.record.identity) = entries.map (·.record.identity))
    (identity : ProcessIdentity) :
    elders changed identity = elders entries identity := by
  have counts (list : List Entry) :
      elders list identity =
        (list.map (·.record.identity)).countP fun other =>
          decide (other.creationTime100ns < identity.creationTime100ns) := by
    rw [countP_map]
    rfl
  rw [counts, counts, same]

theorem Coherent.of_entries (coherent : Coherent group) (lineage : Lineage changed)
    (same : changed.map (·.record.identity) = group.entries.map (·.record.identity))
    (sequence : UInt64) :
    Coherent { group with entries := changed, sequence } where
  lineage := lineage
  root := coherent.root
  authority := by
    obtain ⟨entry, member, isAuthority⟩ := coherent.authority
    have mapped : entry.record.identity ∈ changed.map (·.record.identity) := by
      rw [same]
      exact mem_map_of_mem member
    obtain ⟨other, isOther, sameIdentity⟩ := mem_map.mp mapped
    exact ⟨other, isOther, sameIdentity.trans isAuthority⟩
  bounded := by
    have length := congrArg List.length same
    rw [length_map, length_map] at length
    exact length ▸ coherent.bounded
  counted := by
    change _ ≤ elders changed group.authority
    rw [elders_of_identities same]
    exact coherent.counted

theorem map_identities {entries : List Entry} {f : Entry → Entry}
    (same : ∀ entry, (f entry).record.identity = entry.record.identity) :
    (entries.map f).map (·.record.identity) = entries.map (·.record.identity) := by
  rw [map_map]
  exact map_congr_left fun entry _ => same entry

theorem Coherent.resolve (coherent : Coherent group) : Coherent (resolveParentIdentities group) :=
  coherent.of_entries coherent.lineage.resolve
    (map_identities fun entry => (resolveParent_record _ entry).1) _

/-- What an operation does to a group. -/
structure Moves (compareStringOrdinal : WideString → WideString → Bool)
    (before after : Group) : Prop where
  coherent : Coherent after
  quiet : Quiet compareStringOrdinal after
  complete : after.trackingComplete = true → before.trackingComplete = true
  authority :
    (after.authority = before.authority ∧ after.handoffGeneration = before.handoffGeneration) ∨
      Handoff compareStringOrdinal before after

theorem Moves.refl (coherent : Coherent group) (quiet : Quiet compareStringOrdinal group) :
    Moves compareStringOrdinal group group :=
  ⟨coherent, quiet, id, .inl ⟨rfl, rfl⟩⟩

/-- Only the authority, its generation and the completeness matter of the
group that an operation starts from. -/
theorem Moves.from_same (moves : Moves compareStringOrdinal before after)
    (authority : before.authority = group.authority)
    (generation : before.handoffGeneration = group.handoffGeneration)
    (complete : before.trackingComplete = group.trackingComplete) :
    Moves compareStringOrdinal group after where
  coherent := moves.coherent
  quiet := moves.quiet
  complete := complete ▸ moves.complete
  authority := by
    rcases moves.authority with ⟨authority', generation'⟩ | handoff
    · exact .inl ⟨authority'.trans authority, generation'.trans generation⟩
    · exact .inr ⟨complete ▸ handoff.certain, authority ▸ handoff.exited,
        authority ▸ handoff.heir, generation ▸ handoff.counted,
        handoff.active⟩

theorem settle_moves (compareStringOrdinal : WideString → WideString → Bool)
    (readings : Readings) (coherent : Coherent group) :
    Moves compareStringOrdinal group (settle compareStringOrdinal group readings) ∧
      (settle compareStringOrdinal group readings).entries =
        group.entries.map (resolveParent group.entries) ∧
      (settle compareStringOrdinal group readings).trackingComplete = group.trackingComplete := by
  have resolved := coherent.resolve
  have refreshed :
      Refreshed compareStringOrdinal (resolveParentIdentities group)
        (settle compareStringOrdinal group readings) :=
    refreshAuthority_refreshed resolved
  cases refreshed with
  | stays same quiet =>
    exact ⟨⟨resolved.of_same same, quiet, fun complete => same.complete ▸ complete,
      .inl ⟨same.authority, same.generation⟩⟩, same.entries,
      same.complete⟩
  | @handsOn heir isHeir exited complete same active =>
    have promoted := resolved.promote isHeir
    have after := promoted.of_same same
    have running : (heir.record.exited) = false := isHeir.candidate.running
    refine ⟨⟨after,
      .of_running after (same.complete.trans complete)
        (same.entries ▸ isHeir.candidate.tracked) same.authority.symm
        running,
      fun _ => complete, .inr ?_⟩, same.entries, same.complete⟩
    refine ⟨complete, exited.of_same same.entries.symm,
      ⟨heir, isHeir.of_same same.entries.symm same.trusted.symm, same.authority⟩, ?_, active⟩
    rw [same.generation]
    exact resolved.generation_small

theorem settle_running (coherent : Coherent group)
    (complete : group.trackingComplete = true)
    (resolved : group.entries.map (resolveParent group.entries) = group.entries)
    (member : current ∈ group.entries)
    (isAuthority : current.record.identity = group.authority)
    (running : current.record.exited = false) :
    SameTree (settle compareStringOrdinal group readings) group ∧
      (settle compareStringOrdinal group readings).handoffState =
        if group.handoffGeneration = 0 then .rootActive
        else .descendantActive := by
  have coherentResolved := coherent.resolve
  have validAuthority : group.authority.valid = true := by
    rw [← isAuthority]
    exact coherent.lineage.valid current member
  have sameTree : SameTree (resolveParentIdentities group) group :=
    ⟨resolved, rfl, rfl, rfl, rfl, rfl, rfl⟩
  have isMember : current ∈ (resolveParentIdentities group).entries := by
    rw [sameTree.entries]
    exact member
  have isConcluded :
      settle compareStringOrdinal group readings =
        conclude (resolveParentIdentities group)
          (if group.handoffGeneration = 0 then .rootActive
          else .descendantActive) := by
    unfold settle refreshAuthority
    rw [coherentResolved.root, sameTree.authority, validAuthority, sameTree.complete, complete]
    exact refreshAuthorityLoop_running coherentResolved isMember isAuthority running _
  obtain ⟨same, isState⟩ := conclude_same (resolveParentIdentities group)
    (if group.handoffGeneration = 0 then .rootActive
    else .descendantActive)
  rw [isConcluded]
  exact ⟨same.trans sameTree, isState⟩

theorem Handoff.of_same (handoff : Handoff compareStringOrdinal before after)
    (same : SameTree result after)
    (active : result.handoffState = .descendantActive) :
    Handoff compareStringOrdinal before result where
  certain := handoff.certain
  exited := handoff.exited.of_same same.entries.symm
  heir := by
    obtain ⟨entry, heir, isAuthority⟩ := handoff.heir
    exact ⟨entry, heir.of_same same.entries.symm same.trusted.symm,
      same.authority.trans isAuthority⟩
  counted := by
    rw [same.generation]
    exact handoff.counted
  active := active

theorem settle_settle (coherent : Coherent group) :
    Moves compareStringOrdinal group
      (settle compareStringOrdinal (settle compareStringOrdinal group readings) second) := by
  obtain ⟨moves, entries, complete⟩ := settle_moves compareStringOrdinal readings coherent
  obtain ⟨again, _⟩ := settle_moves compareStringOrdinal second moves.coherent
  rcases moves.authority with ⟨authority, generation⟩ | handoff
  · exact again.from_same authority generation complete
  obtain ⟨heir, isHeir, isAuthority⟩ := handoff.heir
  have resolved :
      (settle compareStringOrdinal group readings).entries.map
          (resolveParent (settle compareStringOrdinal group readings).entries) =
        (settle compareStringOrdinal group readings).entries := by
    rw [entries]
    exact resolve_resolve
  obtain ⟨same, active⟩ := settle_running moves.coherent (complete.trans handoff.certain) resolved
    isHeir.candidate.tracked isAuthority.symm isHeir.candidate.running
  have counts : (settle compareStringOrdinal group readings).handoffGeneration ≠ 0 := by
    intro zero
    have counted := handoff.counted
    rw [zero] at counted
    cases counted
  exact ⟨again.coherent, again.quiet, fun _ => handoff.certain,
    .inr (handoff.of_same same (active.trans (if_neg counts)))⟩

theorem markTrackingUncertain_moves
    (coherent : Coherent group) (quiet : Quiet compareStringOrdinal group) :
    Moves compareStringOrdinal group (markTrackingUncertain group) := by
  unfold markTrackingUncertain
  split
  · refine ⟨⟨coherent.lineage, coherent.root, coherent.authority,
        coherent.bounded, coherent.counted⟩,
      .of_unverifiable rfl fun impossible => ?_, fun impossible => ?_,
      .inl ⟨rfl, rfl⟩⟩
    · cases impossible
    · cases impossible
  · exact .refl coherent quiet

theorem Coherent.of_kin (coherent : Coherent group)
    (same : changed.map kin = group.entries.map kin) (sequence : UInt64) :
    Coherent { group with entries := changed, sequence } := by
  refine coherent.of_entries (coherent.lineage.of_kin same) ?_ sequence
  have identities := congrArg (List.map Kin.identity) same
  rw [map_map, map_map] at identities
  exact identities

theorem refreshEntry_kin (exits : ProcessIdentity → Option Exit) (entry : Entry) :
    kin (refreshEntry exits entry) = kin entry := by
  unfold refreshEntry
  split
  · rfl
  · rfl

theorem captureFirst_kin (processId : UInt32) (exit : Exit) (entries : List Entry) :
    (captureFirst processId exit entries).map kin = entries.map kin := by
  induction entries with
  | nil => rfl
  | cons entry rest ih =>
    unfold captureFirst
    split
    · rfl
    · exact congrArg (kin entry :: ·) ih

section

variable (coherent : Coherent group)
include coherent

theorem Coherent.refreshed (exits : ProcessIdentity → Option Exit) (sequence : UInt64) :
    Coherent { group with entries := group.entries.map (refreshEntry exits), sequence } := by
  refine coherent.of_kin ?_ sequence
  rw [map_map]
  exact map_congr_left fun entry _ => refreshEntry_kin exits entry

theorem refreshExited_moves (quiet : Quiet compareStringOrdinal group)
    (exits : ProcessIdentity → Option Exit) :
    Moves compareStringOrdinal group (refreshExited compareStringOrdinal group exits readings) := by
  unfold refreshExited
  dsimp only
  split
  · exact .refl coherent quiet
  · exact (settle_moves compareStringOrdinal readings
      (coherent.refreshed exits _)).1.from_same rfl rfl rfl

theorem refreshSnapshot_moves (exits : ProcessIdentity → Option Exit) :
    Moves compareStringOrdinal group
      (refreshSnapshot compareStringOrdinal group exits readings second) := by
  unfold refreshSnapshot refreshExited
  dsimp only
  split
  · exact (settle_moves compareStringOrdinal second coherent).1
  · exact (settle_settle (coherent.refreshed exits _)).from_same rfl rfl rfl

theorem Coherent.append {fresh : Entry} (valid : fresh.record.identity.valid = true)
    (isNew :
      ∀ entry ∈ group.entries, entry.record.identity.sameInstance fresh.record.identity = false)
    (unverified : fresh.record.parentIdentityVerified = false)
    (room : group.entries.length < kMaximumTrackedSeatProcesses)
    (sequence : UInt64) :
    Coherent { group with entries := group.entries ++ [fresh], sequence } where
  lineage := coherent.lineage.append valid isNew unverified
  root := coherent.root
  authority := by
    obtain ⟨entry, member, isAuthority⟩ := coherent.authority
    exact ⟨entry, mem_append_left _ member, isAuthority⟩
  bounded := by
    change (group.entries ++ [fresh]).length ≤ _
    rw [length_append]
    exact room
  counted := by
    refine coherent.counted.trans ?_
    change _ ≤ elders (group.entries ++ [fresh]) group.authority
    unfold elders
    rw [countP_append]
    exact Nat.le_add_right _ _

section

variable (quiet : Quiet compareStringOrdinal group)
include quiet

theorem addOwnedHandle_moves (identity : ProcessIdentity) (parentProcessId : UInt32) :
    Moves compareStringOrdinal group
      (addOwnedHandle compareStringOrdinal group identity parentProcessId readings) := by
  unfold addOwnedHandle
  split
  · exact markTrackingUncertain_moves coherent quiet
  next valid =>
    split
    · exact .refl coherent quiet
    next isNew =>
      split
      · exact markTrackingUncertain_moves coherent quiet
      next room =>
        have isValid : identity.valid = true := by
          rw [Bool.not_eq_true', Bool.not_eq_false] at valid
          exact valid
        refine (settle_moves compareStringOrdinal readings
          (coherent.append isValid (fun entry member => ?_) rfl
            (Nat.not_le.mp room) _)).1.from_same rfl rfl rfl
        refine Bool.eq_false_iff.mpr fun same => isNew ?_
        exact any_eq_true.mpr ⟨entry, member, same⟩

theorem markExited_moves (processId : UInt32) (wait : Wait) :
    Moves compareStringOrdinal group
      (markExited compareStringOrdinal group processId wait readings) := by
  unfold markExited
  split
  · split
    · exact .refl coherent quiet
    · exact markTrackingUncertain_moves coherent quiet
    next exit =>
      exact (settle_moves compareStringOrdinal readings
        (coherent.of_kin (captureFirst_kin processId exit _) _)).1.from_same rfl rfl rfl
  · exact .refl coherent quiet

theorem configure_moves (executablePaths : List WideString)
    (exits : ProcessIdentity → Option Exit) :
    Moves compareStringOrdinal group
      (configureTrustedHandoffExecutables compareStringOrdinal group
        executablePaths exits readings second).2 := by
  unfold configureTrustedHandoffExecutables
  split
  · exact .refl coherent quiet
  dsimp only
  split
  · exact .refl coherent quiet
  · have reconfigured (paths : List WideString) :
        Coherent { group with trustedHandoffExecutables := paths, handoffPending := false } :=
      ⟨coherent.lineage, coherent.root, coherent.authority, coherent.bounded, coherent.counted⟩
    exact (refreshSnapshot_moves (reconfigured _) exits).from_same rfl rfl rfl

theorem step_moves (event : Event) :
    Moves compareStringOrdinal group (step compareStringOrdinal group event) := by
  cases event with
  | uncertain => exact markTrackingUncertain_moves coherent quiet
  | owned identity parentProcessId readings =>
    exact addOwnedHandle_moves coherent quiet identity parentProcessId
  | exitPacket processId wait readings => exact markExited_moves coherent quiet processId wait
  | polled exits readings => exact refreshExited_moves coherent quiet exits
  | snapshot exits first second => exact refreshSnapshot_moves coherent exits
  | configured executablePaths exits first second =>
    exact configure_moves coherent quiet executablePaths exits

end

end

end Operations

/-! ## Runs -/

section Runs

open Foundation

/-- How often the authority changes in a run. -/
def handoffs : Group → List Event → Nat
  | _, [] => 0
  | group, event :: events =>
    (if (step compareStringOrdinal group event).authority = group.authority then 0 else 1) +
      handoffs (step compareStringOrdinal group event) events

variable {compareStringOrdinal} {group start : Group}
  {tracking : ChildTrackingCapability} {identity : ProcessIdentity}
  {readings : Readings}

theorem Handoff.authority_ne {after : Group} (coherent : Coherent after)
    (handoff : Handoff compareStringOrdinal before after) :
    after.authority ≠ before.authority := by
  obtain ⟨heir, isHeir, isAuthority⟩ := handoff.heir
  have older := (coherent.lineage.descends_recorded isHeir.candidate.descends).2.2
  rw [isAuthority]
  intro same
  rw [same] at older
  exact absurd older (UInt64.lt_irrefl _)

theorem run_moves (coherent : Coherent group) (quiet : Quiet compareStringOrdinal group)
    (events : List Event) :
    Coherent (runFrom (step compareStringOrdinal) group events) ∧
      Quiet compareStringOrdinal (runFrom (step compareStringOrdinal) group events) ∧
      (runFrom (step compareStringOrdinal) group events).handoffGeneration.toNat =
        group.handoffGeneration.toNat + handoffs compareStringOrdinal group events := by
  induction events generalizing group with
  | nil => exact ⟨coherent, quiet, rfl⟩
  | cons event events ih =>
    have moves := step_moves coherent quiet event
    obtain ⟨coherentEnd, quietEnd, counted⟩ := ih moves.coherent moves.quiet
    refine ⟨coherentEnd, quietEnd, ?_⟩
    rw [runFrom_cons, counted, handoffs]
    rcases moves.authority with ⟨authority, generation⟩ | handoff
    · rw [if_pos authority, generation]
      omega
    · rw [if_neg (handoff.authority_ne moves.coherent), handoff.counted]
      omega

/-- A group with nothing but its root. -/
abbrev launched (tracking : ChildTrackingCapability) (identity : ProcessIdentity) : Group where
  tracking
  root := identity
  authority := identity
  handoffState := .rootActive
  entries := [{ record := { identity, root := true }, handle := true }]
  sequence := 1

theorem launched_coherent (tracking : ChildTrackingCapability) (valid : identity.valid = true) :
    Coherent (launched tracking identity) where
  lineage :=
    { valid := by
        intro entry member
        rw [mem_singleton.mp member]
        exact valid
      distinct := pairwise_singleton _ _
      linked := by
        intro child member verified
        rw [mem_singleton.mp member] at verified
        cases verified }
  root := valid
  authority := ⟨_, mem_singleton_self _, rfl⟩
  bounded := by
    change 1 ≤ kMaximumTrackedSeatProcesses
    decide
  counted := Nat.zero_le _

/-- A launched group starts with a running root that nothing descends
from. -/
theorem adopt_start
    (adopted : adoptLaunchedProcess compareStringOrdinal tracking identity readings = some start) :
    Coherent start ∧ Quiet compareStringOrdinal start ∧ start.handoffGeneration.toNat = 0 := by
  unfold adoptLaunchedProcess at adopted
  split at adopted
  next valid =>
    obtain rfl := Option.some.inj adopted
    have coherent : Coherent (launched tracking identity) := launched_coherent tracking valid
    obtain ⟨moves, _⟩ := settle_moves compareStringOrdinal readings coherent
    refine ⟨moves.coherent, moves.quiet, ?_⟩
    obtain ⟨same, _⟩ := settle_running coherent rfl rfl (mem_singleton_self _) rfl rfl
    exact congrArg UInt64.toNat same.generation
  next => cases adopted

structure Authoritative (compareStringOrdinal : WideString → WideString → Bool)
    (start : Group) (events : List Event) (group : Group) : Prop where
  counted : group.handoffGeneration.toNat = handoffs compareStringOrdinal start events
  quiet : Quiet compareStringOrdinal group
  lineage : Lineage group.entries
  recorded :
    ∀ candidate ancestor,
      isExactDescendant group.entries candidate ancestor = true →
        ∃ child ∈ group.entries, ∃ elder ∈ group.entries,
          child.record.identity.sameInstance candidate = true ∧
            elder.record.identity.sameInstance ancestor = true ∧
            Descends group.entries child.record.identity elder.record.identity ∧
            ancestor.creationTime100ns < candidate.creationTime100ns
  moves :
    ∀ event,
      (step compareStringOrdinal group event).authority = group.authority ∨
        Handoff compareStringOrdinal group (step compareStringOrdinal group event)

/-- In every state of every run the authority moves only from an exited one
to its heir, the generation counts these moves, and without an heir the group
is unverifiable. -/
theorem handoff_authority
    (adopted : adoptLaunchedProcess compareStringOrdinal tracking identity readings = some start)
    (events : List Event) :
    Authoritative compareStringOrdinal start events
      (runFrom (step compareStringOrdinal) start events) := by
  obtain ⟨coherent, quiet, zero⟩ := adopt_start adopted
  obtain ⟨coherentEnd, quietEnd, counted⟩ := run_moves coherent quiet events
  refine ⟨?_, quietEnd, coherentEnd.lineage,
    fun _ _ => coherentEnd.lineage.isExactDescendant_recorded,
    fun event => ?_⟩
  · rw [counted, zero, Nat.zero_add]
  · rcases (step_moves coherentEnd quietEnd event).authority with
      ⟨authority, _⟩ | handoff
    · exact .inl authority
    · exact .inr handoff

end Runs

/-! ### Two descendants of a root -/

section Example

open Foundation (runFrom)

def samplePath : WideString := [97]

def sampleProcess (processId : UInt32) : ProcessIdentity where
  processId
  creationTime100ns := processId.toUInt64
  executablePath := samplePath

def sampleReadings : Readings where
  activeProcesses := some 2
  now := 0

/-- A child of the root and a process of this parent, then the exit of the
root. -/
def sampleEvents (parent : UInt32) : List Event :=
  [.configured [samplePath] (fun _ => none) sampleReadings sampleReadings,
    .owned (sampleProcess 2) 1 sampleReadings,
    .owned (sampleProcess 3) parent sampleReadings]

def sampleExit : Event := .exitPacket 1 (.signaled ⟨some 0, some 9⟩) sampleReadings

def sampleGroup (tracking : ChildTrackingCapability) : Group :=
  settle (· == ·) (launched tracking (sampleProcess 1)) sampleReadings

/-- A chain of three processes, of which the first exits. -/
theorem sample_handoff_authority :
    Authoritative (· == ·) (sampleGroup .fullJobObject) (sampleEvents 2 ++ [sampleExit])
      (runFrom (step (· == ·)) (sampleGroup .fullJobObject) (sampleEvents 2 ++ [sampleExit])) :=
  handoff_authority
    (show adoptLaunchedProcess (· == ·) .fullJobObject (sampleProcess 1)
        sampleReadings = some (sampleGroup .fullJobObject) from rfl)
    (sampleEvents 2 ++ [sampleExit])

/-- A running trusted entry that the walk of the source finds below the
authority. -/
def trustedDescendant (compareStringOrdinal : WideString → WideString → Bool) (group : Group)
    (authority : ProcessIdentity) (entry : Entry) : Bool :=
  !entry.record.exited && trustedExecutable compareStringOrdinal group entry.record.identity &&
    isExactDescendant group.entries entry.record.identity authority

/-- Of a chain of candidates the first becomes the authority, and where
children may break away, two candidates are not unverifiable. -/
theorem several_candidates :
    (¬ ∀ (compareStringOrdinal : WideString → WideString → Bool)
        (tracking : ChildTrackingCapability) (identity : ProcessIdentity)
        (readings : Readings) (start : Group) (events : List Event)
        (event : Event) (before after : Group),
      adoptLaunchedProcess compareStringOrdinal tracking identity readings = some start →
        before = runFrom (step compareStringOrdinal) start events →
        after = step compareStringOrdinal before event →
        after.authority ≠ before.authority →
        ∀ first ∈ after.entries, ∀ second ∈ after.entries,
          trustedDescendant compareStringOrdinal after before.authority first = true →
            trustedDescendant compareStringOrdinal after before.authority second = true →
              first = second) ∧
      ¬ ∀ (compareStringOrdinal : WideString → WideString → Bool)
        (tracking : ChildTrackingCapability) (identity : ProcessIdentity)
        (readings : Readings) (start : Group) (events : List Event)
        (group : Group),
      adoptLaunchedProcess compareStringOrdinal tracking identity readings = some start →
        group = runFrom (step compareStringOrdinal) start events →
        HasExited group group.authority →
        ∀ first ∈ group.entries, ∀ second ∈ group.entries,
          trustedDescendant compareStringOrdinal group group.authority first = true →
            trustedDescendant compareStringOrdinal group group.authority second = true →
              first ≠ second → group.handoffState = .unverifiable := by
  constructor
  · intro claim
    have same := claim (· == ·) .fullJobObject (sampleProcess 1) sampleReadings
      (sampleGroup .fullJobObject) (sampleEvents 2) sampleExit _ _ rfl rfl
      rfl (by decide)
    revert same
    decide
  · intro claim
    have unverifiable := claim (· == ·) .jobObjectBreakawayAllowed (sampleProcess 1)
      sampleReadings (sampleGroup .jobObjectBreakawayAllowed)
      (sampleEvents 1 ++ [sampleExit]) _ rfl rfl (by decide)
    revert unverifiable
    decide

end Example

end HydraSeat.Process.Group
