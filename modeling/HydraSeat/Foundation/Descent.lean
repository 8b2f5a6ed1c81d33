import Mathlib.Data.List.Infix

/-!
# Recursive descent over a text with positions

A parser walks over a fixed text by position and carries a tally.  It ends
with a value, or it refuses the text, or it reads past the end, or it runs
out of the fuel of its recursion.  What a parser does at a position is said
in terms of the rest of the text there.
-/

namespace HydraSeat.Foundation

open List

universe u

inductive Failure where
  | refused (message : String) (position : Nat)
  | pastEnd
  | exhausted

structure Cursor (Tally : Type) where
  position : Nat
  tally : Tally

abbrev Descent (Tally : Type) := StateT (Cursor Tally) (Except Failure)

namespace Descent

variable {Tally α β : Type}
variable {action : Descent Tally α} {next : α → Descent Tally β}

def refuse (message : String) : Descent Tally α := fun cursor =>
  .error (.refused message cursor.position)

def exhaust : Descent Tally α := fun _ => .error .exhausted

def here : Descent Tally (Cursor Tally) := fun cursor => .ok (cursor, cursor)

def advance (count : Nat) : Descent Tally Unit := fun cursor =>
  .ok ((), { cursor with position := cursor.position + count })

variable (text : List UInt8)

def byteAt (position : Nat) : Descent Tally UInt8 := fun cursor =>
  match text[position]? with
  | some byte => .ok (byte, cursor)
  | none => .error .pastEnd

def atEnd : Descent Tally Bool := fun cursor => .ok (decide (text.length ≤ cursor.position), cursor)

def looksAt (accepts : UInt8 → Bool) : Descent Tally Bool := do
  let cursor ← here
  if cursor.position < text.length then
    let byte ← byteAt text cursor.position
    return accepts byte
  else
    return false

def nextByte : Descent Tally UInt8 := do
  let cursor ← here
  let byte ← byteAt text cursor.position
  advance 1
  return byte

def advanceWhile (accepts : UInt8 → Bool) : Nat → Descent Tally Unit
  | 0 => exhaust
  | fuel + 1 => do
      if ← looksAt text accepts then
        advance 1
        advanceWhile accepts fuel
      else
        return ()

def cursorAt (suffix : List UInt8) (tally : Tally) : Cursor Tally where
  position := text.length - suffix.length
  tally

variable {text}

theorem bind_eq {before after : Cursor Tally} {value : α}
    (first : action before = .ok (value, after)) :
    (action >>= next) before = next value after := by
  change (action before >>= fun pair => next pair.1 pair.2) = _
  rw [first]
  rfl

theorem bind_error {before : Cursor Tally} {failure : Failure}
    (first : action before = .error failure) :
    (action >>= next) before = .error failure := by
  change (action before >>= fun pair => next pair.1 pair.2) = _
  rw [first]
  rfl

theorem here_eq {cursor : Cursor Tally} : here cursor = .ok (cursor, cursor) := rfl

section Suffixes

variable {suffix tail : List UInt8} {byte : UInt8} {tally : Tally}

theorem drop_cursorAt (isSuffix : suffix <:+ text) :
    text.drop (cursorAt text suffix tally).position = suffix := by
  obtain ⟨front, rfl⟩ := isSuffix
  unfold cursorAt
  rw [length_append, Nat.add_sub_cancel, drop_left]

theorem tail_isSuffix (isSuffix : byte :: tail <:+ text) : tail <:+ text :=
  (suffix_cons byte tail).trans isSuffix

theorem byteAt_cons (isSuffix : byte :: tail <:+ text) (ahead : Cursor Tally) :
    byteAt text (cursorAt text (byte :: tail) tally).position ahead = .ok (byte, ahead) := by
  obtain ⟨front, rfl⟩ := isSuffix
  unfold byteAt cursorAt
  rw [length_append, Nat.add_sub_cancel,
    getElem?_append_right (Nat.le_refl _), Nat.sub_self]
  rfl

theorem advance_append (front : List UInt8) (isSuffix : front ++ tail <:+ text) :
    advance front.length (cursorAt text (front ++ tail) tally) =
      .ok ((), cursorAt text tail tally) := by
  have fits := isSuffix.length_le
  rw [length_append] at fits
  unfold advance cursorAt
  rw [length_append]
  congr 3
  dsimp only
  omega

theorem advance_cons (isSuffix : byte :: tail <:+ text) :
    advance 1 (cursorAt text (byte :: tail) tally) = .ok ((), cursorAt text tail tally) :=
  advance_append [byte] isSuffix

theorem atEnd_eq (isSuffix : suffix <:+ text) :
    atEnd text (cursorAt text suffix tally) = .ok (suffix.isEmpty, cursorAt text suffix tally) := by
  have fits := isSuffix.length_le
  unfold atEnd cursorAt
  congr 2
  rw [Bool.eq_iff_iff, decide_eq_true_iff, List.isEmpty_iff, ← List.length_eq_zero_iff]
  dsimp only
  omega

theorem looksAt_eq (accepts : UInt8 → Bool) (isSuffix : suffix <:+ text) :
    looksAt text accepts (cursorAt text suffix tally) =
      .ok (suffix.head?.any accepts, cursorAt text suffix tally) := by
  have fits := isSuffix.length_le
  unfold looksAt
  rw [bind_eq here_eq]
  cases suffix with
  | nil =>
    rw [if_neg]
    · rfl
    · unfold cursorAt
      simp
  | cons byte tail =>
    rw [length_cons] at fits
    rw [if_pos]
    · rw [bind_eq (byteAt_cons isSuffix _)]
      rfl
    · unfold cursorAt
      rw [length_cons]
      dsimp only
      omega

theorem nextByte_cons (isSuffix : byte :: tail <:+ text) :
    nextByte text (cursorAt text (byte :: tail) tally) = .ok (byte, cursorAt text tail tally) := by
  unfold nextByte
  rw [bind_eq here_eq, bind_eq (byteAt_cons isSuffix _), bind_eq (advance_cons isSuffix)]
  rfl

theorem advanceWhile_eq (accepts : UInt8 → Bool) (isSuffix : suffix <:+ text) {fuel : Nat}
    (enough : suffix.length < fuel) :
    advanceWhile text accepts fuel (cursorAt text suffix tally) =
      .ok ((), cursorAt text (suffix.dropWhile accepts) tally) := by
  induction fuel generalizing suffix with
  | zero => exact absurd enough (Nat.not_lt_zero _)
  | succ fuel ih =>
    unfold advanceWhile
    rw [bind_eq (looksAt_eq accepts isSuffix)]
    cases suffix with
    | nil => rfl
    | cons byte tail =>
      rw [head?_cons, Option.any_some, dropWhile_cons]
      cases accepted : accepts byte with
      | false => rfl
      | true =>
        rw [length_cons] at enough
        simp only [if_true]
        rw [bind_eq (advance_cons isSuffix)]
        exact ih (tail_isSuffix isSuffix) (by omega)

end Suffixes

/-- In front of `suffix` the parser refuses the text, or it ends in front of
a rest with what `accepts` says; it does nothing else. -/
inductive Ran (text suffix : List UInt8) (accepts : α → Tally → List UInt8 → Prop) :
    Except Failure (α × Cursor Tally) → Prop
  | refused (message : String) (position : Nat) :
      Ran text suffix accepts (.error (.refused message position))
  | read {value : α} {tally : Tally} {rest : List UInt8}
      (isSuffix : rest <:+ suffix) (accepted : accepts value tally rest) :
      Ran text suffix accepts (.ok (value, cursorAt text rest tally))

def Consumes (text : List UInt8) (action : Descent Tally α) (suffix : List UInt8)
    (tally : Tally) (accepts : α → Tally → List UInt8 → Prop) : Prop :=
  Ran text suffix accepts (action (cursorAt text suffix tally))

section Rules

variable {action : Descent Tally α} {suffix : List UInt8} {tally : Tally}
  {accepts : α → Tally → List UInt8 → Prop}
variable {next : α → Descent Tally β} {finally_ : β → Tally → List UInt8 → Prop}

theorem Consumes.refuse (message : String) :
    Consumes text (Descent.refuse message : Descent Tally α) suffix tally accepts :=
  .refused message _

theorem Consumes.pure {value : α} (accepted : accepts value tally suffix) :
    Consumes text (pure value) suffix tally accepts :=
  .read (suffix_refl suffix) accepted

theorem Consumes.bind (first : Consumes text action suffix tally accepts)
    (later :
      ∀ value between rest, rest <:+ suffix → accepts value between rest →
        Consumes text (next value) rest between finally_) :
    Consumes text (action >>= next) suffix tally finally_ := by
  unfold Consumes at first ⊢
  generalize ran : action (cursorAt text suffix tally) = outcome at first
  cases first with
  | refused message position =>
    rw [bind_error ran]
    exact .refused message position
  | @read value between rest isSuffix accepted =>
    rw [bind_eq ran]
    have second := later value between rest isSuffix accepted
    unfold Consumes at second
    generalize next value (cursorAt text rest between) = outcome at second
    cases second with
    | refused message position => exact .refused message position
    | read shorter final => exact .read (shorter.trans isSuffix) final

theorem Consumes.step {value : α} {between : Tally} {rest : List UInt8}
    (ran : action (cursorAt text suffix tally) = .ok (value, cursorAt text rest between))
    (isSuffix : rest <:+ suffix)
    (later : Consumes text (next value) rest between finally_) :
    Consumes text (action >>= next) suffix tally finally_ := by
  unfold Consumes at later ⊢
  rw [bind_eq ran]
  generalize next value (cursorAt text rest between) = outcome at later
  cases later with
  | refused message position => exact .refused message position
  | read shorter final => exact .read (shorter.trans isSuffix) final

theorem Consumes.mono {others : α → Tally → List UInt8 → Prop}
    (reads : Consumes text action suffix tally accepts)
    (implies :
      ∀ value between rest, rest <:+ suffix → accepts value between rest →
        others value between rest) :
    Consumes text action suffix tally others := by
  unfold Consumes at reads ⊢
  generalize action (cursorAt text suffix tally) = outcome at reads
  cases reads with
  | refused message position => exact .refused message position
  | read isSuffix accepted => exact .read isSuffix (implies _ _ _ isSuffix accepted)

end Rules

/-- Wherever it starts, the parser returns no other values. -/
def Yields (action : Descent Tally α) (post : α → Prop) : Prop :=
  ∀ before after value, action before = .ok (value, after) → post value

section Values

variable {action : Descent Tally α} {middle : α → Prop}
  {next : α → Descent Tally β} {post : β → Prop}

theorem Yields.any : Yields action fun _ => True := fun _ _ _ _ => trivial

theorem Yields.pure {value : β} (holds : post value) :
    Yields (pure value : Descent Tally β) post := by
  intro before after result returned
  cases returned
  exact holds

theorem Yields.refuse (message : String) : Yields (Descent.refuse message : Descent Tally β) post :=
  fun _ _ _ impossible => nomatch impossible

theorem Yields.exhaust : Yields (Descent.exhaust : Descent Tally β) post :=
  fun _ _ _ impossible => nomatch impossible

theorem Yields.bind (first : Yields action middle)
    (later : ∀ value, middle value → Yields (next value) post) :
    Yields (action >>= next) post := by
  intro before after result returned
  cases ran : action before with
  | error failure =>
    rw [bind_error ran] at returned
    cases returned
  | ok found =>
    obtain ⟨value, between⟩ := found
    rw [bind_eq ran] at returned
    exact later value (first _ _ _ ran) _ _ _ returned

theorem Yields.after (later : ∀ value, Yields (next value) post) : Yields (action >>= next) post :=
  .bind .any fun value _ => later value

end Values

end Descent

end HydraSeat.Foundation
