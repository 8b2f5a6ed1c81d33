import Mathlib.Data.List.Basic

/-!
# Steps that may fail

A computation returns a value or stops with an error.  What a chain of steps,
a check on the way and a loop over a list have in common.
-/

namespace HydraSeat.Foundation

open List

universe u

variable {condition : Prop}

theorem not_taken {Result : Type u} [Decidable condition]
    {refused rest result : Result}
    (taken : (if condition then refused else rest) = result)
    (other : refused ≠ result) : ¬condition ∧ rest = result := by
  by_cases holds : condition
  · rw [if_pos holds] at taken
    exact absurd taken other
  · rw [if_neg holds] at taken
    exact ⟨holds, taken⟩

section Steps

variable {Error Item Result : Type} {first : Except Error Item} {next : Item → Except Error Result}

theorem bind_eq_ok {result : Result} :
    first >>= next = .ok result ↔ ∃ item, first = .ok item ∧ next item = .ok result := by
  cases first with
  | error diagnostic => exact ⟨nofun, nofun⟩
  | ok item =>
    constructor
    · intro found
      exact ⟨item, rfl, found⟩
    · rintro ⟨_, same, found⟩
      cases same
      exact found

theorem ok_bind (item : Item) :
    ((.ok item : Except Error Item) >>= next) = next item :=
  rfl

theorem pure_eq_ok {item other : Item}
    (same : (pure item : Except Error Item) = .ok other) : item = other :=
  Except.ok.inj same

theorem toOption_eq_some {item : Item} : first.toOption = some item ↔ first = .ok item := by
  cases first <;> simp [Except.toOption]

theorem check_eq_ok [Decidable condition]
    {error : Error} {next : Unit → Except Error Result} {value : Result}
    (passed :
      (if condition then (.error error : Except Error Unit) >>= next
        else next ()) = .ok value) :
    ¬condition ∧ next () = .ok value := by
  split at passed
  · cases passed
  next clear => exact ⟨clear, passed⟩

/-- A computation that stops stops with an error of a kind. -/
def Fails (kind : Error → Prop) (computation : Except Error Item) : Prop :=
  ∀ error, computation = .error error → kind error

variable {kind : Error → Prop}

theorem Fails.ok (item : Item) : Fails kind (.ok item : Except Error Item) := fun _ => nofun

theorem Fails.error {error : Error} (isKind : kind error) :
    Fails kind (.error error : Except Error Item) := by
  rintro _ ⟨⟩
  exact isKind

theorem Fails.bind (early : Fails kind first)
    (late : ∀ item, Fails kind (next item)) : Fails kind (first >>= next) := by
  cases first with
  | error error => exact .error (early error rfl)
  | ok item => exact late item

theorem Fails.check [Decidable condition]
    {error : Error} {next : Unit → Except Error Result}
    (isKind : kind error) (late : Fails kind (next ())) :
    Fails kind
      (if condition then (.error error : Except Error Unit) >>= next
        else next ()) := by
  split
  · exact .error isKind
  · exact late

theorem Fails.ite [Decidable condition]
    {second : Except Error Item} (early : Fails kind first)
    (late : Fails kind second) :
    Fails kind (if condition then first else second) := by
  split
  · exact early
  · exact late

end Steps

section Loops

variable {Error Item Result : Type} {items : List Item}

theorem forM_eq_ok_iff {check : Item → Except Error Unit} :
    items.forM check = .ok () ↔ ∀ item ∈ items, check item = .ok () := by
  induction items with
  | nil => exact ⟨fun _ => nofun, fun _ => rfl⟩
  | cons first rest ih =>
    change (check first >>= fun _ => rest.forM check) = .ok () ↔ _
    rw [bind_eq_ok, forall_mem_cons, ih]
    exact ⟨fun ⟨_, isFirst, later⟩ => ⟨isFirst, later⟩,
      fun ⟨isFirst, later⟩ => ⟨(), isFirst, later⟩⟩

variable {read : Item → Except Error Result}

theorem Fails.mapM {kind : Error → Prop} (each : ∀ item ∈ items, Fails kind (read item)) :
    Fails kind (items.mapM read) := by
  induction items with
  | nil => exact .ok []
  | cons first rest ih =>
    rw [mapM_cons]
    refine .bind (each first mem_cons_self) fun _ => ?_
    refine .bind (ih fun item member => ?_) fun _ => .ok _
    exact each item (mem_cons_of_mem _ member)

theorem Fails.foldlM {kind : Error → Prop}
    {step : Result → Item → Except Error Result}
    {start : Result}
    (each : ∀ state item, Fails kind (step state item)) :
    Fails kind (items.foldlM step start) := by
  induction items generalizing start with
  | nil => exact .ok start
  | cons first rest ih =>
    rw [foldlM_cons]
    exact .bind (each start first) fun _ => ih

theorem mapM_eq_ok {result : Item → Result}
    (each : ∀ item ∈ items, read item = .ok (result item)) :
    items.mapM read = .ok (items.map result) := by
  induction items with
  | nil => rfl
  | cons first rest ih =>
    rw [mapM_cons, each first mem_cons_self, ok_bind,
      ih fun item member => each item (mem_cons_of_mem _ member)]
    rfl

variable {results : List Result}

theorem mem_of_mapM
    (done : items.mapM read = .ok results) :
    ∀ result ∈ results, ∃ item ∈ items, read item = .ok result := by
  induction items generalizing results with
  | nil =>
    cases done
    exact nofun
  | cons first rest ih =>
    rw [mapM_cons] at done
    obtain ⟨head, isHead, done⟩ := bind_eq_ok.mp done
    obtain ⟨tail, isTail, done⟩ := bind_eq_ok.mp done
    obtain rfl := pure_eq_ok done
    intro result member
    rcases mem_cons.mp member with rfl | later
    · exact ⟨first, mem_cons_self, isHead⟩
    · obtain ⟨item, isItem, isResult⟩ := ih isTail result later
      exact ⟨item, mem_cons_of_mem _ isItem, isResult⟩

theorem error_of_mapM {error : Error}
    (stopped : items.mapM read = .error error) :
    ∃ item ∈ items, read item = .error error := by
  induction items with
  | nil => cases stopped
  | cons first rest ih =>
    rw [mapM_cons] at stopped
    cases isFirst : read first with
    | error early =>
      rw [isFirst] at stopped
      cases stopped
      exact ⟨first, mem_cons_self, isFirst⟩
    | ok result =>
      rw [isFirst, ok_bind] at stopped
      cases later : rest.mapM read with
      | error late =>
        rw [later] at stopped
        cases stopped
        obtain ⟨item, member, isItem⟩ := ih later
        exact ⟨item, mem_cons_of_mem _ member, isItem⟩
      | ok results =>
        rw [later] at stopped
        cases stopped

theorem zip_of_mapM
    (done : items.mapM read = .ok results) :
    ∀ pair ∈ items.zip results, read pair.1 = .ok pair.2 := by
  induction items generalizing results with
  | nil =>
    cases done
    exact nofun
  | cons first rest ih =>
    rw [mapM_cons] at done
    obtain ⟨head, isHead, done⟩ := bind_eq_ok.mp done
    obtain ⟨tail, isTail, done⟩ := bind_eq_ok.mp done
    obtain rfl := pure_eq_ok done
    intro pair member
    rcases mem_cons.mp member with rfl | later
    · exact isHead
    · exact ih isTail pair later

theorem length_of_mapM
    (done : items.mapM read = .ok results) :
    results.length = items.length := by
  induction items generalizing results with
  | nil =>
    cases done
    rfl
  | cons first rest ih =>
    rw [mapM_cons] at done
    obtain ⟨head, _, done⟩ := bind_eq_ok.mp done
    obtain ⟨tail, isTail, done⟩ := bind_eq_ok.mp done
    obtain rfl := pure_eq_ok done
    exact congrArg Nat.succ (ih isTail)

end Loops

end HydraSeat.Foundation
