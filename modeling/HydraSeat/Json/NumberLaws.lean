import HydraSeat.Json.StringLaws
import Mathlib.Data.List.Sort

/-!
# Whitespace, numbers and objects

`skip` passes over all whitespace, `parseNumber` reads exactly the integers
of the grammar, and `emplace` keeps the entries of an object sorted.
-/

namespace HydraSeat.Json

open Foundation Foundation.Descent List Parser

section Runs

variable {accepts : UInt8 → Bool} {text rest : List UInt8}

theorem Run.isSuffix (run : Run accepts text rest) : rest <:+ text := by
  induction run with
  | nil => exact suffix_refl _
  | cons _ _ ih => exact ih.trans (suffix_cons _ _)

theorem Run.trans {middle : List UInt8}
    (run : Run accepts text middle) (more : Run accepts middle rest) :
    Run accepts text rest := by
  induction run with
  | nil => exact more
  | cons accepted _ ih => exact .cons accepted (ih more)

theorem run_dropWhile (accepts : UInt8 → Bool) (text : List UInt8) :
    Run accepts text (text.dropWhile accepts) := by
  induction text with
  | nil => exact .nil
  | cons byte tail ih =>
    rw [dropWhile_cons]
    split
    next accepted => exact .cons accepted ih
    next => exact .nil

theorem Run.dropWhile_eq (run : Run accepts text rest) (ended : rest.head?.any accepts = false) :
    text.dropWhile accepts = rest := by
  induction run with
  | @nil rest =>
    cases rest with
    | nil => rfl
    | cons byte tail =>
      rw [head?_cons, Option.any_some] at ended
      rw [dropWhile_cons, if_neg (by rw [ended]; nofun)]
  | cons accepted _ ih =>
    rw [dropWhile_cons, if_pos accepted]
    exact ih ended

/-- The first byte in front of a run is one of its bytes, or the first one
behind it. -/
theorem Run.head (run : Run accepts text rest) {test : UInt8 → Bool}
    (within : ∀ byte, accepts byte = true → test byte = false)
    (behind : rest.head?.any test = false) :
    text.head?.any test = false := by
  cases run with
  | nil => exact behind
  | cons accepted _ => exact within _ accepted

end Runs

variable {text : ByteString} {tally : Nat} {suffix rest : List UInt8}
variable {spelling : List UInt8}

theorem skip_run (run : Run isspace suffix rest) (isSuffix : suffix <:+ text)
    (ended : rest.head?.any isspace = false) :
    skip text (cursorAt text suffix tally) = .ok ((), cursorAt text rest tally) := by
  rw [skip_eq isSuffix, run.dropWhile_eq ended]

/-- The byte would go on with a number, or turn it into a fraction. -/
def continuesNumber (byte : UInt8) : Bool :=
  isDigit byte || byte == 0x2E || byte == 0x65 || byte == 0x45

theorem isDigit_continues {byte : UInt8} (digit : isDigit byte = true) :
    continuesNumber byte = true := by
  unfold continuesNumber
  rw [digit]
  rfl

theorem notDigit_of_clear (clear : rest.head?.any continuesNumber = false) :
    rest.head?.any isDigit = false := by
  cases rest with
  | nil => rfl
  | cons byte tail =>
    rw [head?_cons, Option.any_some] at clear ⊢
    cases digit : isDigit byte with
    | false => rfl
    | true =>
      rw [isDigit_continues digit] at clear
      cases clear

theorem Natural.isSuffix (natural : Natural suffix rest) : rest <:+ suffix := by
  cases natural with
  | zero => exact suffix_cons _ _
  | positive _ digits => exact digits.isSuffix.trans (suffix_cons _ _)

theorem Natural.digit (natural : Natural suffix rest) :
    ∃ first tail, suffix = first :: tail ∧ isDigit first = true := by
  cases natural with
  | zero => exact ⟨0x30, rest, rfl, by decide⟩
  | @positive first tail _ nonzero _ =>
    refine ⟨first, tail, rfl, ?_⟩
    obtain ⟨low, high⟩ := nonzero
    rw [UInt8.le_iff_toNat_le] at low high
    unfold isDigit
    rw [Bool.and_eq_true, decide_eq_true_iff, decide_eq_true_iff,
      UInt8.le_iff_toNat_le, UInt8.le_iff_toNat_le]
    exact ⟨Nat.le_trans (by decide) low, high⟩

theorem magnitude_complete (natural : Natural suffix rest) (isSuffix : suffix <:+ text)
    (clear : rest.head?.any continuesNumber = false) :
    magnitude text (cursorAt text suffix tally) = .ok ((), cursorAt text rest tally) := by
  have ended : rest.head?.any isdigit = false := notDigit_of_clear clear
  unfold magnitude
  cases natural with
  | zero =>
    rw [bind_eq (consume_cons isSuffix), if_pos rfl,
      bind_eq (looksAt_eq isdigit (tail_isSuffix isSuffix)), ended,
      if_neg nofun]
    rfl
  | @positive first tail _ nonzero digits =>
    have other : (first :: tail).head? ≠ some 0x30 := by
      rintro ⟨⟩
      exact absurd nonzero (by decide)
    have starts : (first :: tail).head?.any (fun byte => 0x31 ≤ byte && byte ≤ 0x39) = true := by
      rw [head?_cons, Option.any_some, Bool.and_eq_true, decide_eq_true_iff, decide_eq_true_iff]
      exact nonzero
    have digit : isDigit first = true := by
      obtain ⟨_, _, same, digit⟩ := (Natural.positive nonzero digits).digit
      cases same
      exact digit
    have fits := isSuffix.length_le
    rw [bind_eq (consume_other isSuffix other), if_neg nofun,
      bind_eq (looksAt_eq _ isSuffix), starts, if_pos rfl,
      advanceWhile_eq isdigit isSuffix (by omega)]
    have whole : Run isdigit (first :: tail) rest := .cons digit digits
    rw [whole.dropWhile_eq ended]

theorem magnitude_reads (isSuffix : suffix <:+ text) :
    Consumes text (magnitude text) suffix tally
      fun _ after rest => after = tally ∧ Natural suffix rest := by
  have fits := isSuffix.length_le
  unfold magnitude
  by_cases zero : suffix.head? = some 0x30
  · obtain ⟨tail, rfl⟩ := head?_eq_some_iff.mp zero
    refine .step (consume_cons isSuffix) (suffix_cons _ _) ?_
    rw [if_pos rfl]
    refine .step (looksAt_eq isdigit (tail_isSuffix isSuffix)) (suffix_refl _) ?_
    split
    · exact .refuse _
    · exact .pure ⟨rfl, .zero⟩
  · refine .step (consume_other isSuffix zero) (suffix_refl _) ?_
    rw [if_neg nofun]
    refine .step (looksAt_eq _ isSuffix) (suffix_refl _) ?_
    cases suffix with
    | nil => exact .refuse _
    | cons first tail =>
      rw [head?_cons, Option.any_some]
      split
      next nonzero =>
        rw [Bool.and_eq_true, decide_eq_true_iff, decide_eq_true_iff] at nonzero
        have digit : isdigit first = true := by
          obtain ⟨_, _, same, digit⟩ := (Natural.positive nonzero (Run.nil : Run _ tail tail)).digit
          cases same
          exact digit
        unfold Consumes
        rw [advanceWhile_eq isdigit isSuffix (by omega), dropWhile_cons, if_pos digit]
        have digits := run_dropWhile isDigit tail
        exact .read (digits.isSuffix.trans (suffix_cons _ _)) ⟨rfl, .positive nonzero digits⟩
      · exact .refuse _

theorem slice_eq (isSuffix : spelling ++ rest <:+ text) :
    (text.drop (cursorAt text (spelling ++ rest) tally).position).take
        ((cursorAt text rest tally).position - (cursorAt text (spelling ++ rest) tally).position) =
      spelling := by
  have fits := isSuffix.length_le
  rw [drop_cursorAt isSuffix]
  rw [length_append] at fits
  have length :
      (cursorAt text rest tally).position - (cursorAt text (spelling ++ rest) tally).position =
        spelling.length := by
    unfold cursorAt
    rw [length_append]
    dsimp only
    omega
  rw [length]
  exact take_left

theorem Integer.isSuffix (integer : Integer suffix rest) : rest <:+ suffix := by
  cases integer with
  | plain natural => exact natural.isSuffix
  | negative natural => exact natural.isSuffix.trans (suffix_cons _ _)

theorem numberEnd_complete (isSuffix : spelling ++ rest <:+ text)
    (clear : rest.head?.any continuesNumber = false) :
    numberEnd text (cursorAt text (spelling ++ rest) tally).position (cursorAt text rest tally) =
      .ok (⟨spelling⟩, cursorAt text rest tally) := by
  have isRest := (suffix_append spelling rest).trans isSuffix
  have unmet :
      rest.head?.any (fun byte => byte == 0x2E || byte == 0x65 || byte == 0x45) = false := by
    cases rest with
    | nil => rfl
    | cons byte tail =>
      rw [head?_cons, Option.any_some] at clear ⊢
      unfold continuesNumber at clear
      rw [Bool.or_assoc, Bool.or_assoc, Bool.or_eq_false_iff] at clear
      rw [Bool.or_assoc]
      exact clear.2
  unfold numberEnd
  rw [bind_eq (looksAt_eq _ isRest), unmet, if_neg nofun, bind_eq here_eq, slice_eq isSuffix]
  rfl

theorem parseNumber_complete (integer : Integer (spelling ++ rest) rest)
    (isSuffix : spelling ++ rest <:+ text)
    (clear : rest.head?.any continuesNumber = false) :
    parseNumber text (cursorAt text (spelling ++ rest) tally) =
      .ok (⟨spelling⟩, cursorAt text rest tally) := by
  have ending :
      numberEnd text (cursorAt text (spelling ++ rest) tally).position (cursorAt text rest tally) =
        .ok (⟨spelling⟩, cursorAt text rest tally) :=
    numberEnd_complete isSuffix clear
  unfold parseNumber
  rw [bind_eq here_eq]
  generalize whole : spelling ++ rest = suffix at integer isSuffix ending ⊢
  cases integer with
  | plain natural =>
    have other : suffix.head? ≠ some 0x2D := by
      obtain ⟨first, tail, rfl, digit⟩ := natural.digit
      rintro ⟨⟩
      cases digit
    rw [bind_eq (consume_other isSuffix other), bind_eq (magnitude_complete natural isSuffix clear)]
    exact ending
  | negative natural =>
    rw [bind_eq (consume_cons isSuffix),
      bind_eq (magnitude_complete natural (tail_isSuffix isSuffix) clear)]
    exact ending

theorem numberEnd_reads (isSuffix : suffix <:+ text) (integer : Integer suffix rest) :
    Consumes text (numberEnd text (cursorAt text suffix tally).position) rest tally
      fun number after behind => after = tally ∧ behind = rest ∧ suffix = number.text ++ rest := by
  obtain ⟨spelling, rfl⟩ := integer.isSuffix
  have isRest := (suffix_append spelling rest).trans isSuffix
  unfold numberEnd
  refine .step (looksAt_eq _ isRest) (suffix_refl _) ?_
  split
  · exact .refuse _
  · refine .step here_eq (suffix_refl _) ?_
    rw [slice_eq isSuffix]
    exact .pure ⟨rfl, rfl, rfl⟩

theorem parseNumber_reads (isSuffix : suffix <:+ text) :
    Consumes text (parseNumber text) suffix tally
      fun number after rest =>
        after = tally ∧ suffix = number.text ++ rest ∧ Integer suffix rest := by
  unfold parseNumber
  refine .step here_eq (suffix_refl _) ?_
  by_cases minus : suffix.head? = some 0x2D
  · obtain ⟨tail, rfl⟩ := head?_eq_some_iff.mp minus
    refine .step (consume_cons isSuffix) (suffix_cons _ _) ?_
    refine .bind (magnitude_reads (tail_isSuffix isSuffix)) ?_
    rintro _ _ rest _ ⟨rfl, natural⟩
    refine (numberEnd_reads isSuffix (.negative natural)).mono ?_
    rintro number _ _ _ ⟨rfl, rfl, spelled⟩
    exact ⟨rfl, spelled, .negative natural⟩
  · refine .step (consume_other isSuffix minus) (suffix_refl _) ?_
    refine .bind (magnitude_reads isSuffix) ?_
    rintro _ _ rest _ ⟨rfl, natural⟩
    refine (numberEnd_reads isSuffix (.plain natural)).mono ?_
    rintro number _ _ _ ⟨rfl, rfl, spelled⟩
    exact ⟨rfl, spelled, .plain natural⟩

def byKey (left right : ByteString × Value) : Prop := left.1 < right.1

instance : DecidableRel byKey := fun left right => inferInstanceAs (Decidable (left.1 < right.1))

/-- The map that a `std::map` holds after the fields were put in. -/
def toObject (fields : List (ByteString × Value)) : Value.Object :=
  fields.foldl (fun object field => object.orderedInsert byKey field) []

section Objects

variable {object : Value.Object} {key : ByteString} {value : Value}
variable {fields : List (ByteString × Value)}

theorem emplace_eq (sorted : object.Pairwise byKey) :
    object.emplace key value = if key ∈ object.map Prod.fst then none
      else some (object.orderedInsert byKey (key, value)) := by
  induction object with
  | nil => rfl
  | cons entry entries ih =>
    obtain ⟨smallest, rest⟩ := pairwise_cons.mp sorted
    have keys :
        key ∈ (entry :: entries).map Prod.fst ↔ key = entry.1 ∨ key ∈ entries.map Prod.fst :=
      mem_cons
    simp only [keys]
    rw [orderedInsert_cons]
    unfold Value.Object.emplace
    by_cases before : key < entry.1
    · have fresh : ¬ (key = entry.1 ∨ key ∈ entries.map Prod.fst) := by
        rintro (rfl | member)
        · exact List.lt_irrefl _ before
        · obtain ⟨later, found, rfl⟩ := mem_map.mp member
          exact List.lt_irrefl _ (List.lt_trans before (smallest later found))
      rw [if_pos before, if_neg fresh]
      exact congrArg some (if_pos before).symm
    · rw [if_neg before]
      have notBefore : ¬ byKey (key, value) entry := before
      by_cases behind : entry.1 < key
      · have different : key ≠ entry.1 := by
          rintro rfl
          exact List.lt_irrefl _ behind
        rw [if_pos behind, ih rest, if_neg notBefore]
        simp only [different, false_or]
        split
        · rfl
        · rfl
      · have same : key = entry.1 := List.le_antisymm behind before
        rw [if_neg behind, if_pos (Or.inl same)]

theorem sorted_insert (sorted : object.Pairwise byKey) (fresh : key ∉ object.map Prod.fst) :
    (object.orderedInsert byKey (key, value)).Pairwise byKey := by
  induction object with
  | nil => exact pairwise_singleton _ _
  | cons entry entries ih =>
    obtain ⟨smallest, rest⟩ := pairwise_cons.mp sorted
    rw [List.map_cons, List.mem_cons, not_or] at fresh
    rw [orderedInsert_cons]
    split
    next before =>
      refine pairwise_cons.mpr ⟨?_, sorted⟩
      intro later member
      rcases mem_cons.mp member with rfl | found
      · exact before
      · exact List.lt_trans before (smallest later found)
    next notBefore =>
      refine pairwise_cons.mpr ⟨?_, ih rest fresh.2⟩
      intro later member
      rcases (mem_orderedInsert byKey).mp member with rfl | found
      · by_contra notBehind
        exact fresh.1 (List.le_antisymm notBehind notBefore)
      · exact smallest later found

theorem toObject_append (fields : List (ByteString × Value)) (field : ByteString × Value) :
    toObject (fields ++ [field]) = (toObject fields).orderedInsert byKey field := by
  unfold toObject
  rw [foldl_append]
  rfl

theorem toObject_perm (fields : List (ByteString × Value)) : (toObject fields).Perm fields := by
  induction fields using List.reverseRecOn with
  | nil => exact .refl _
  | append_singleton fields field ih =>
    rw [toObject_append]
    exact (perm_orderedInsert byKey field _).trans
      ((ih.cons field).trans (perm_append_singleton field fields).symm)

theorem toObject_keys (fields : List (ByteString × Value)) :
    key ∈ (toObject fields).map Prod.fst ↔ key ∈ fields.map Prod.fst :=
  ((toObject_perm fields).map Prod.fst).mem_iff

theorem toObject_sorted (distinct : (fields.map Prod.fst).Nodup) :
    (toObject fields).Pairwise byKey := by
  induction fields using List.reverseRecOn with
  | nil => exact List.Pairwise.nil
  | append_singleton fields field ih =>
    rw [map_append, map_singleton, nodup_append] at distinct
    obtain ⟨earlier, _, apart⟩ := distinct
    rw [toObject_append]
    apply sorted_insert (ih earlier)
    rw [toObject_keys]
    intro member
    exact apart _ member _ mem_cons_self rfl

theorem emplace_toObject (distinct : (fields.map Prod.fst).Nodup) (key : ByteString)
    (value : Value) :
    (toObject fields).emplace key value = if key ∈ fields.map Prod.fst then none
      else some (toObject (fields ++ [(key, value)])) := by
  rw [emplace_eq (toObject_sorted distinct), toObject_append]
  simp only [toObject_keys]

end Objects

end HydraSeat.Json
