import HydraSeat.Foundation.Fallible
import Mathlib.Data.List.Infix

/-!
# Runs of a deterministic machine

A machine is a function `step` from a state and a label to the next state.
`runFrom` folds it over a list of labels.  Two predicates talk about a whole
run: `Throughout` about every state it visits, the first and the last
included, and `Along` about every step it makes, each judged in the state
before the step.

The rules below turn a fact about one step into a fact about a run.
-/

namespace HydraSeat.Foundation

open List

universe u v

variable {State : Type u} {Label : Type v}

def runFrom (step : State → Label → State) : State → List Label → State
  | state, [] => state
  | state, label :: labels => runFrom step (step state label) labels

/-- Every state of the run satisfies `property`. -/
def Throughout (step : State → Label → State) (property : State → Prop) : State → List Label → Prop
  | state, [] => property state
  | state, label :: labels => property state ∧ Throughout step property (step state label) labels

/-- Every step of the run meets `condition` in the state it starts from. -/
def Along (step : State → Label → State) (condition : State → Label → Prop) :
    State → List Label → Prop
  | _, [] => True
  | state, label :: labels => condition state label ∧ Along step condition (step state label) labels

variable {step : State → Label → State}

@[simp]
theorem runFrom_cons (state : State) (label : Label) (labels : List Label) :
    runFrom step state (label :: labels) = runFrom step (step state label) labels :=
  rfl

theorem runFrom_append (state : State) (first second : List Label) :
    runFrom step state (first ++ second) = runFrom step (runFrom step state first) second := by
  induction first generalizing state with
  | nil => rfl
  | cons label labels ih => exact ih (step state label)

variable {property : State → Prop} {state : State} {labels : List Label}

theorem throughout_start
    (throughout : Throughout step property state labels) :
    property state := by
  cases labels with
  | nil => exact throughout
  | cons label labels => exact throughout.1

/-- `Throughout` is about exactly the states that the prefixes of the label
list lead to. -/
theorem throughout_iff_initial (state : State) (labels : List Label) :
    Throughout step property state labels ↔
      ∀ initial, initial <+: labels → property (runFrom step state initial) := by
  induction labels generalizing state with
  | nil =>
    constructor
    · intro holds initial isInitial
      rw [prefix_nil.mp isInitial]
      exact holds
    · intro holds
      exact holds [] (prefix_refl [])
  | cons label labels ih =>
    constructor
    · rintro ⟨holds, rest⟩ initial isInitial
      cases initial with
      | nil => exact holds
      | cons first initial =>
        obtain ⟨rfl, tailPrefix⟩ := cons_prefix_cons.mp isInitial
        exact (ih _).mp rest initial tailPrefix
    · intro holds
      refine ⟨holds [] nil_prefix, ?_⟩
      apply (ih _).mpr
      intro initial isInitial
      exact holds (label :: initial) (cons_prefix_cons.mpr ⟨rfl, isInitial⟩)

theorem throughout_end
    (throughout : Throughout step property state labels) :
    property (runFrom step state labels) :=
  (throughout_iff_initial state labels).mp throughout labels (prefix_refl labels)

variable {invariant : State → Prop} {condition : State → Label → Prop}

/-- The invariant rule: what every step that meets `condition` preserves
holds in every state of a run whose steps all meet it. -/
theorem throughout_of_along
    (preserved :
      ∀ state label, invariant state → condition state label → invariant (step state label))
    (start : invariant state)
    (along : Along step condition state labels) :
    Throughout step invariant state labels := by
  induction labels generalizing state with
  | nil => exact start
  | cons label labels ih => exact ⟨start, ih (preserved state label start along.1) along.2⟩

theorem throughout_mono {first second : State → Prop}
    (implies : ∀ state, first state → second state)
    (throughout : Throughout step first state labels) :
    Throughout step second state labels := by
  rw [throughout_iff_initial] at throughout ⊢
  intro initial isInitial
  exact implies _ (throughout initial isInitial)

/-- `Along` is about exactly the steps that the run makes. -/
theorem along_iff_initial (state : State) (labels : List Label) :
    Along step condition state labels ↔
      ∀ initial label, initial ++ [label] <+: labels →
        condition (runFrom step state initial) label := by
  induction labels generalizing state with
  | nil =>
    constructor
    · intro _ initial label isInitial
      have empty := prefix_nil.mp isInitial
      exact absurd empty (append_ne_nil_of_right_ne_nil _ (cons_ne_nil label []))
    · intro _
      trivial
  | cons first labels ih =>
    constructor
    · intro ⟨met, rest⟩ initial label isInitial
      cases initial with
      | nil =>
        have same := (cons_prefix_cons.mp isInitial).1
        rw [same]
        exact met
      | cons head initial =>
        obtain ⟨same, tailPrefix⟩ := cons_prefix_cons.mp isInitial
        rw [same]
        exact (ih _).mp rest initial label tailPrefix
    · intro holds
      refine ⟨holds [] first ?_, ?_⟩
      · exact cons_prefix_cons.mpr ⟨rfl, nil_prefix⟩
      · apply (ih _).mpr
        intro initial label isInitial
        exact holds (first :: initial) label (cons_prefix_cons.mpr ⟨rfl, isInitial⟩)

theorem along_of_forall
    (always : ∀ state label, condition state label)
    (state : State) (labels : List Label) :
    Along step condition state labels := by
  induction labels generalizing state with
  | nil => trivial
  | cons label labels ih => exact ⟨always state label, ih _⟩

/-- A condition on labels alone is met along every run over such
labels. -/
theorem along_of_forall_mem {condition : Label → Prop}
    (all : ∀ label ∈ labels, condition label) (state : State) :
    Along step (fun _ label => condition label) state labels := by
  induction labels generalizing state with
  | nil => trivial
  | cons label labels ih =>
    refine ⟨all label mem_cons_self, ?_⟩
    apply ih
    intro later member
    exact all later (mem_cons_of_mem label member)

/-- The invariant rule with every label of the run known to be among its
labels. -/
theorem throughout_of_along_mem
    (preserved :
      ∀ state label, invariant state → label ∈ labels →
        condition state label → invariant (step state label))
    (start : invariant state)
    (along : Along step condition state labels) :
    Throughout step invariant state labels := by
  induction labels generalizing state with
  | nil => exact start
  | cons label labels ih =>
    have next := preserved state label start mem_cons_self along.1
    refine ⟨start, ih ?_ next along.2⟩
    intro reached later holds member met
    exact preserved reached later holds (mem_cons_of_mem label member) met

theorem along_of_initial
    {initial : List Label} (isInitial : initial <+: labels)
    (along : Along step condition state labels) :
    Along step condition state initial := by
  rw [along_iff_initial] at along ⊢
  intro earlier label shorter
  exact along earlier label (shorter.trans isInitial)

/-- The invariant rule without a condition on the steps. -/
theorem throughout_of_preserved
    (preserved : ∀ state label, invariant state → invariant (step state label))
    (labels : List Label)
    (start : invariant state) :
    Throughout step invariant state labels :=
  have unconditional : ∀ state label, invariant state → True → invariant (step state label) :=
    fun state label holds _ => preserved state label holds
  throughout_of_along unconditional start (along_of_forall (fun _ _ => trivial) state labels)

theorem runFrom_preserves
    (preserved : ∀ state label, invariant state → invariant (step state label))
    (labels : List Label)
    (start : invariant state) :
    invariant (runFrom step state labels) :=
  throughout_end (throughout_of_preserved preserved labels start)

/-- A property that one step keeps exactly when it meets `condition` holds
throughout a run exactly when every step of the run meets `condition`. -/
theorem throughout_iff_along
    (preserved : ∀ state label, invariant state → invariant (step state label))
    (exactly :
      ∀ state label, invariant state → property state →
        (property (step state label) ↔ condition state label)) (labels : List Label)
    (startInvariant : invariant state) (start : property state) :
    Throughout step property state labels ↔ Along step condition state labels := by
  induction labels generalizing state with
  | nil => exact iff_of_true start trivial
  | cons label labels ih =>
    have nextInvariant := preserved state label startInvariant
    constructor
    · rintro ⟨_, rest⟩
      have next := throughout_start rest
      refine ⟨(exactly state label startInvariant start).mp next, ?_⟩
      exact (ih nextInvariant next).mp rest
    · rintro ⟨met, rest⟩
      have next := (exactly state label startInvariant start).mpr met
      refine ⟨start, ?_⟩
      exact (ih nextInvariant next).mpr rest

theorem along_append
    (state : State) (first second : List Label) :
    Along step condition state (first ++ second) ↔
      Along step condition state first ∧
        Along step condition (runFrom step state first) second := by
  induction first generalizing state with
  | nil => exact iff_of_eq (true_and _).symm
  | cons label labels ih =>
    have rest := ih (step state label)
    exact (and_congr_right fun _ => rest).trans and_assoc.symm

/-- What follows from a condition wherever an invariant holds, which the
steps meeting the condition preserve, is met along the same runs. -/
theorem along_of_along {first second : State → Label → Prop}
    (implies : ∀ state label, invariant state → first state label → second state label)
    (preserved : ∀ state label, invariant state → first state label → invariant (step state label))
    (start : invariant state)
    (along : Along step first state labels) :
    Along step second state labels := by
  induction labels generalizing state with
  | nil => trivial
  | cons label labels ih =>
    refine ⟨implies state label start along.1, ?_⟩
    exact ih (preserved state label start along.1) along.2

/-- What follows from an invariant that every step preserves is met along
every run. -/
theorem along_of_preserved
    (implies : ∀ state label, invariant state → condition state label)
    (preserved : ∀ state label, invariant state → invariant (step state label))
    (labels : List Label) (start : invariant state) :
    Along step condition state labels :=
  have unconditional : ∀ state label, invariant state → True → condition state label :=
    fun state label holds _ => implies state label holds
  along_of_along unconditional (fun state label holds _ => preserved state label holds) start
    (along_of_forall (fun _ _ => trivial) state labels)

/-- Two conditions on steps that agree wherever an invariant holds, which
the steps meeting the first preserve, are met along the same runs. -/
theorem along_iff_along {first second : State → Label → Prop}
    (agree : ∀ state label, invariant state → (first state label ↔ second state label))
    (preserved : ∀ state label, invariant state → first state label → invariant (step state label))
    (labels : List Label) (start : invariant state) :
    Along step first state labels ↔ Along step second state labels := by
  induction labels generalizing state with
  | nil => exact Iff.rfl
  | cons label labels ih =>
    have equivalent := agree state label start
    constructor
    · rintro ⟨met, rest⟩
      refine ⟨equivalent.mp met, ?_⟩
      exact (ih (preserved state label start met)).mp rest
    · rintro ⟨met, rest⟩
      have metFirst := equivalent.mpr met
      refine ⟨metFirst, ?_⟩
      exact (ih (preserved state label start metFirst)).mpr rest

end HydraSeat.Foundation
