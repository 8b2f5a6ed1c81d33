import HydraSeat.Json.ParserSoundness

/-!
# Whatever is spelled is read

By induction on a spelling: within the budgets the parser reads the value,
in front of whatever does not go on with a number.
-/

namespace HydraSeat.Json

open Foundation Foundation.Descent List Parser

variable (byte : UInt8)

theorem isspace_iff : isspace byte = true ↔ byte.toNat = 32 ∨ 9 ≤ byte.toNat ∧ byte.toNat ≤ 13 := by
  unfold isspace
  rw [Bool.or_eq_true, Bool.and_eq_true, beq_iff_eq, decide_eq_true_iff,
    decide_eq_true_iff, ← UInt8.toNat_inj, UInt8.le_iff_toNat_le,
    UInt8.le_iff_toNat_le]
  rfl

theorem isDigit_iff : isDigit byte = true ↔ 48 ≤ byte.toNat ∧ byte.toNat ≤ 57 := by
  unfold isDigit
  rw [Bool.and_eq_true, decide_eq_true_iff, decide_eq_true_iff,
    UInt8.le_iff_toNat_le, UInt8.le_iff_toNat_le]
  rfl

theorem continuesNumber_iff :
    continuesNumber byte = true ↔
      48 ≤ byte.toNat ∧ byte.toNat ≤ 57 ∨ byte.toNat = 46 ∨ byte.toNat = 101 ∨ byte.toNat = 69 := by
  unfold continuesNumber
  rw [Bool.or_eq_true, Bool.or_eq_true, Bool.or_eq_true, isDigit_iff,
    beq_iff_eq, beq_iff_eq, beq_iff_eq, ← UInt8.toNat_inj,
    ← UInt8.toNat_inj, ← UInt8.toNat_inj, or_assoc, or_assoc]
  rfl

theorem not_continuesNumber_of_isspace (space : isspace byte = true) :
    continuesNumber byte = false := by
  rw [isspace_iff] at space
  rw [← Bool.not_eq_true, continuesNumber_iff]
  omega

theorem startsInteger_iff :
    startsInteger byte = true ↔ byte.toNat = 45 ∨ 48 ≤ byte.toNat ∧ byte.toNat ≤ 57 := by
  unfold startsInteger
  rw [Bool.or_eq_true, isDigit_iff, beq_iff_eq, ← UInt8.toNat_inj]
  rfl

theorem startsSpelling_iff :
    startsSpelling byte = true ↔
      (((((byte.toNat = 110 ∨ byte.toNat = 116) ∨ byte.toNat = 102) ∨
        byte.toNat = 34) ∨ byte.toNat = 91) ∨ byte.toNat = 123) ∨
        byte.toNat = 45 ∨ 48 ≤ byte.toNat ∧ byte.toNat ≤ 57 := by
  unfold startsSpelling
  rw [Bool.or_eq_true, Bool.or_eq_true, Bool.or_eq_true,
    Bool.or_eq_true, Bool.or_eq_true, Bool.or_eq_true, startsInteger_iff]
  simp only [beq_iff_eq, ← UInt8.toNat_inj]
  rfl

/-- What lies behind a value does not go on with a number. -/
abbrev Clear (rest : List UInt8) : Prop := rest.head?.any continuesNumber = false

variable {after : List UInt8}

theorem clear_of_run {rest : List UInt8} (run : Run isspace after rest)
    (behind : Clear rest) : Clear after :=
  run.head not_continuesNumber_of_isspace behind

section Steps

variable {text : ByteString} {options : ParseOptions} {level : UInt32}
  {tally : Nat} {suffix rest : List UInt8} {inner : Parser Value}
  {current : UInt8}

theorem skip_starts {start : List UInt8} (blank : Run isspace suffix start)
    (isSuffix : suffix <:+ text)
    (starts : ∃ first tail, start = first :: tail ∧ startsSpelling first = true) :
    Parser.skip text (cursorAt text suffix tally) = .ok ((), cursorAt text start tally) := by
  obtain ⟨first, tail, rfl, starts⟩ := starts
  apply skip_run blank isSuffix
  rw [startsSpelling_iff] at starts
  rw [head?_cons, Option.any_some, ← Bool.not_eq_true, isspace_iff]
  omega

theorem starts_other {start : List UInt8} {byte : UInt8}
    (starts : ∃ first tail, start = first :: tail ∧ startsSpelling first = true)
    (other : startsSpelling byte = false) :
    start.head? ≠ some byte := by
  obtain ⟨first, tail, rfl, starts⟩ := starts
  rintro ⟨⟩
  rw [other] at starts
  cases starts

theorem startsWith_other (first : UInt8) {expected : ByteString}
    (found : suffix.head? = some current)
    (starts : expected.head? = some first) (other : current ≠ first)
    (isSuffix : suffix <:+ text) :
    Parser.startsWith text expected (cursorAt text suffix tally) =
      .ok (false, cursorAt text suffix tally) := by
  obtain ⟨tail, rfl⟩ := List.head?_eq_some_iff.mp found
  obtain ⟨others, rfl⟩ := head?_eq_some_iff.mp starts
  have different :
      ((current :: tail).take (first :: others).length == first :: others) = false := by
    rw [length_cons, take_succ_cons, beq_eq_false_iff_ne]
    intro same
    exact other (List.cons.inj same).1
  rw [startsWith_eq _ isSuffix, different]

theorem valueStartingWith_string {decoded : ByteString} (chars : Chars strict suffix decoded rest)
    (isSuffix : 0x22 :: suffix <:+ text) :
    Parser.valueStartingWith text inner 0x22 (cursorAt text (0x22 :: suffix) tally) =
      .ok (.string decoded, cursorAt text rest tally) := by
  unfold Parser.valueStartingWith
  rw [if_pos rfl, bind_eq (parseString_complete chars isSuffix)]
  rfl

theorem valueStartingWith_true (isSuffix : trueLiteral ++ rest <:+ text) :
    Parser.valueStartingWith text inner 0x74 (cursorAt text (trueLiteral ++ rest) tally) =
      .ok (.bool true, cursorAt text rest tally) := by
  have spelled : "true" = trueLiteral := by decide
  unfold Parser.valueStartingWith
  rw [if_neg (by decide), if_neg (by decide), if_neg (by decide),
    spelled, bind_eq (startsWith_append _ isSuffix), if_pos rfl,
    bind_eq (literal_append _ isSuffix)]
  rfl

theorem valueStartingWith_false (isSuffix : falseLiteral ++ rest <:+ text) :
    Parser.valueStartingWith text inner 0x66 (cursorAt text (falseLiteral ++ rest) tally) =
      .ok (.bool false, cursorAt text rest tally) := by
  have spelled : "false" = falseLiteral := by decide
  unfold Parser.valueStartingWith
  rw [if_neg (by decide), if_neg (by decide), if_neg (by decide),
    bind_eq (startsWith_other 0x74 rfl (by decide) (by decide) isSuffix),
    if_neg nofun, spelled, bind_eq (startsWith_append _ isSuffix),
    if_pos rfl, bind_eq (literal_append _ isSuffix)]
  rfl

theorem valueStartingWith_null (isSuffix : nullLiteral ++ rest <:+ text) :
    Parser.valueStartingWith text inner 0x6E (cursorAt text (nullLiteral ++ rest) tally) =
      .ok (.null, cursorAt text rest tally) := by
  have spelled : "null" = nullLiteral := by decide
  unfold Parser.valueStartingWith
  rw [if_neg (by decide), if_neg (by decide), if_neg (by decide),
    bind_eq (startsWith_other 0x74 rfl (by decide) (by decide) isSuffix),
    if_neg nofun,
    bind_eq (startsWith_other 0x66 rfl (by decide) (by decide) isSuffix),
    if_neg nofun, spelled, bind_eq (startsWith_append _ isSuffix),
    if_pos rfl, bind_eq (literal_append _ isSuffix)]
  rfl

theorem valueStartingWith_number {spelling : List UInt8} (integer : Integer (spelling ++ rest) rest)
    (whole : spelling ++ rest = current :: suffix)
    (isSuffix : spelling ++ rest <:+ text) (clear : Clear rest) :
    Parser.valueStartingWith text inner current (cursorAt text (spelling ++ rest) tally) =
      .ok (.number ⟨spelling⟩, cursorAt text rest tally) := by
  obtain ⟨first, tail, same, starts⟩ := integer.starts
  rw [whole] at same
  cases same
  have begins : current = 0x2D ∨ isdigit current = true := by
    unfold startsInteger at starts
    rwa [Bool.or_eq_true, beq_iff_eq] at starts
  have other {byte : UInt8} (outside : startsInteger byte = false) : current ≠ byte := by
    rintro rfl
    rw [outside] at starts
    cases starts
  have isWhole := isSuffix
  rw [whole] at isWhole
  unfold valueStartingWith
  rw [if_neg (other (by decide)), if_neg (other (by decide)), if_neg (other (by decide)), whole,
    bind_eq (startsWith_other 0x74 rfl (by decide) (other (by decide)) isWhole),
    if_neg nofun,
    bind_eq (startsWith_other 0x66 rfl (by decide) (other (by decide)) isWhole),
    if_neg nofun,
    bind_eq (startsWith_other 0x6E rfl (by decide) (other (by decide)) isWhole),
    if_neg nofun, if_pos begins, ← whole,
    bind_eq (parseNumber_complete integer isSuffix clear)]
  rfl

theorem scalarOrContainer_cons (isSuffix : current :: suffix <:+ text) :
    Parser.scalarOrContainer text inner (cursorAt text (current :: suffix) tally) =
      Parser.valueStartingWith text inner current (cursorAt text (current :: suffix) tally) := by
  unfold Parser.scalarOrContainer
  rw [bind_eq (atEnd_eq isSuffix), isEmpty_cons, if_neg nofun,
    bind_eq here_eq, bind_eq (byteAt_cons isSuffix _)]

end Steps

/-- What the parser needs to read a spelling behind whitespace. -/
structure Room (text : ByteString) (options : ParseOptions) (start : List UInt8)
    (depth nodes fuel : Nat) (level : UInt32) (suffix : List UInt8)
    (tally : Nat) : Prop where
  blank : Run isspace suffix start
  isSuffix : suffix <:+ text
  enough : suffix.length < fuel
  fits : Fits options level depth
  few : tally + nodes ≤ options.maximumNodes.toNat

/-- The parser of a production reads its spelling wherever there is room. -/
def Completes (text : ByteString) (options : ParseOptions) :
    (production : Production) → List UInt8 → production.Meaning Value →
      Nat → Nat → List UInt8 → Prop
  | .value, start, value, depth, nodes, rest =>
    ∀ ⦃fuel level suffix tally⦄, Room text options start depth nodes fuel level suffix tally →
      Clear rest →
      Parser.parseValue text options fuel level (cursorAt text suffix tally) =
        .ok (value, cursorAt text rest (tally + nodes))
  | .elements, start, items, depth, nodes, rest =>
    ∀ ⦃fuel level suffix tally⦄ (rounds : Nat) (earlier : List Value),
      Room text options start depth nodes fuel level suffix tally →
      suffix.length < rounds →
      Parser.itemsLoop text (Parser.parseValue text options fuel level)
          rounds earlier (cursorAt text suffix tally) =
        .ok (earlier ++ items, cursorAt text rest (tally + nodes))
  | .members, start, fields, depth, nodes, rest =>
    ∀ ⦃fuel level suffix tally⦄ (rounds : Nat) (earlier : List (ByteString × Value)),
      Room text options start depth nodes fuel level suffix tally →
      suffix.length < rounds →
      ((earlier ++ fields).map Prod.fst).Nodup →
      Parser.membersLoop text (Parser.parseValue text options fuel level)
          rounds (toObject earlier) (cursorAt text suffix tally) =
        .ok (toObject (earlier ++ fields), cursorAt text rest (tally + nodes))

section Spellings

variable {text : ByteString} {options : ParseOptions} {level : UInt32}
  {depth nodes fuel tally : Nat} {suffix start rest : List UInt8}

theorem Room.fuel_succ (room : Room text options start depth nodes fuel level suffix tally) :
    ∃ less, fuel = less + 1 := by
  have enough := room.enough
  exact ⟨fuel - 1, by omega⟩

theorem parseValue_start (room : Room text options start depth nodes (fuel + 1) level suffix tally)
    (counts : 0 < nodes)
    (starts : ∃ first tail, start = first :: tail ∧ startsSpelling first = true) :
    Parser.parseValue text options (fuel + 1) level (cursorAt text suffix tally) =
      Parser.scalarOrContainer text (Parser.parseValue text options fuel (level + 1))
        (cursorAt text start (tally + 1)) := by
  have few := room.few
  have counted : ¬ options.maximumNodes.toNat ≤ (cursorAt text suffix tally).tally := by
    change ¬ options.maximumNodes.toNat ≤ tally
    omega
  conv_lhs => unfold parseValue
  rw [if_neg (UInt32.not_lt.mpr room.fits.level_le), bind_eq here_eq,
    if_neg counted, bind_eq countNode_eq,
    bind_eq (skip_starts room.blank room.isSuffix starts)]

theorem Completes.scalar {value : Value} {first : UInt8} {tail : List UInt8}
    (spelled : start = first :: tail)
    (starts : startsSpelling first = true)
    (reads :
      ∀ (inner : Parser Value) (tally : Nat), start <:+ text → Clear rest →
        Parser.valueStartingWith text inner first
            (cursorAt text start tally) =
          .ok (value, cursorAt text rest tally)) :
    Completes text options .value start value 0 1 rest := by
  intro fuel level suffix tally room clear
  obtain ⟨fuel, rfl⟩ := room.fuel_succ
  have isStart := room.blank.isSuffix.trans room.isSuffix
  rw [parseValue_start room Nat.one_pos ⟨first, tail, spelled, starts⟩]
  subst spelled
  rw [scalarOrContainer_cons isStart]
  exact reads _ _ isStart clear

theorem Room.inside {opening : UInt8} {inside : List UInt8}
    (room :
      Room text options (opening :: inside) (depth + 1) (nodes + 1) (fuel + 1) level suffix tally)
    (blank : Run isspace inside start) :
    Room text options start depth nodes fuel (level + 1) start (tally + 1) where
  blank := .nil
  isSuffix := blank.isSuffix.trans (tail_isSuffix (room.blank.isSuffix.trans room.isSuffix))
  enough := by
    have shorter := blank.isSuffix.length_le
    have outer := room.blank.isSuffix.length_le
    have enough := room.enough
    rw [List.length_cons] at outer
    omega
  fits := (fits_succ.mp room.fits).2
  few := by
    have few := room.few
    omega

theorem Completes.emptyArray {inside : List UInt8} (blank : Run isspace inside (0x5D :: rest)) :
    Completes text options .value (0x5B :: inside) (.array []) 0 1 rest := by
  apply Completes.scalar rfl (by decide)
  intro inner tally isSuffix _
  have isInside := tail_isSuffix isSuffix
  unfold valueStartingWith
  rw [if_neg (by decide), if_neg (by decide), if_pos rfl]
  unfold parseArray
  rw [bind_eq (advance_cons isSuffix), bind_eq (skip_run blank isInside rfl),
    bind_eq (consume_cons (blank.isSuffix.trans isInside)), if_pos rfl]
  rfl

theorem Completes.emptyObject {inside : List UInt8} (blank : Run isspace inside (0x7D :: rest)) :
    Completes text options .value (0x7B :: inside) (.object []) 0 1 rest := by
  apply Completes.scalar rfl (by decide)
  intro inner tally isSuffix _
  have isInside := tail_isSuffix isSuffix
  unfold valueStartingWith
  rw [if_neg (by decide), if_pos rfl]
  unfold parseObject
  rw [bind_eq (advance_cons isSuffix), bind_eq (skip_run blank isInside rfl),
    bind_eq (consume_cons (blank.isSuffix.trans isInside)), if_pos rfl]
  rfl

theorem Completes.array {inside : List UInt8} {items : List Value}
    (blank : Run isspace inside start)
    (starts : ∃ first tail, start = first :: tail ∧ startsSpelling first = true)
    (elements : Completes text options .elements start items depth nodes rest) :
    Completes text options .value (0x5B :: inside) (.array items) (depth + 1) (nodes + 1) rest := by
  intro fuel level suffix tally room clear
  obtain ⟨fuel, rfl⟩ := room.fuel_succ
  have isStart := room.blank.isSuffix.trans room.isSuffix
  have isInside := tail_isSuffix isStart
  have isSuffix := blank.isSuffix.trans isInside
  have fits := isSuffix.length_le
  rw [parseValue_start room (Nat.succ_pos _) ⟨0x5B, inside, rfl, by decide⟩,
    scalarOrContainer_cons isStart]
  unfold valueStartingWith
  rw [if_neg (by decide), if_neg (by decide), if_pos rfl]
  unfold parseArray
  rw [bind_eq (advance_cons isStart), bind_eq (skip_starts blank isInside starts),
    bind_eq (consume_other isSuffix (starts_other starts (by decide))),
    if_neg nofun,
    bind_eq (elements (text.length + 1) [] (room.inside blank) (by omega)),
    Nat.add_right_comm]
  rfl

variable {fields : List (ByteString × Value)}

theorem Completes.object {inside : List UInt8}
    (blank : Run isspace inside start)
    (starts : ∃ first tail, start = first :: tail ∧ startsSpelling first = true)
    (members : Completes text options .members start fields depth nodes rest)
    (distinct : (fields.map Prod.fst).Nodup) :
    Completes text options .value (0x7B :: inside)
      (.object (toObject fields)) (depth + 1) (nodes + 1) rest := by
  intro fuel level suffix tally room clear
  obtain ⟨fuel, rfl⟩ := room.fuel_succ
  have isStart := room.blank.isSuffix.trans room.isSuffix
  have isInside := tail_isSuffix isStart
  have isSuffix := blank.isSuffix.trans isInside
  have fits := isSuffix.length_le
  have loop :
      membersLoop text (parseValue text options fuel (level + 1))
          (text.length + 1) [] (cursorAt text start (tally + 1)) =
        .ok (toObject fields, cursorAt text rest (tally + 1 + nodes)) :=
    members (text.length + 1) [] (room.inside blank) (by omega) distinct
  rw [parseValue_start room (Nat.succ_pos _) ⟨0x7B, inside, rfl, by decide⟩,
    scalarOrContainer_cons isStart]
  unfold valueStartingWith
  rw [if_neg (by decide), if_pos rfl]
  unfold parseObject
  rw [bind_eq (advance_cons isStart), bind_eq (skip_starts blank isInside starts),
    bind_eq (consume_other isSuffix (starts_other starts (by decide))),
    if_neg nofun, bind_eq loop, Nat.add_right_comm]
  rfl

theorem Room.first {depths others : Nat}
    (room : Room text options start (max depth depths) (nodes + others) fuel level suffix tally) :
    Room text options start depth nodes fuel level suffix tally where
  blank := room.blank
  isSuffix := room.isSuffix
  enough := room.enough
  fits := (fits_max.mp room.fits).1
  few := by
    have few := room.few
    omega

theorem Room.second {depths others : Nat}
    (room : Room text options start (max depth depths) (nodes + others) fuel level suffix tally) :
    Room text options start depths others fuel level suffix (tally + nodes) where
  blank := room.blank
  isSuffix := room.isSuffix
  enough := room.enough
  fits := (fits_max.mp room.fits).2
  few := by
    rw [Nat.add_assoc]
    exact room.few

theorem Room.move {next following : List UInt8}
    (room : Room text options start depth nodes fuel level suffix tally)
    (behind : next <:+ start) (blank : Run isspace next following) :
    Room text options following depth nodes fuel level next tally where
  blank := blank
  isSuffix := behind.trans (room.blank.isSuffix.trans room.isSuffix)
  enough := Nat.lt_of_le_of_lt (behind.trans room.blank.isSuffix).length_le room.enough
  fits := room.fits
  few := room.few

variable {item : Value}

theorem Completes.lastElement (behind : after <:+ start)
    (value : Completes text options .value start item depth nodes after)
    (close : Run isspace after (0x5D :: rest)) :
    Completes text options .elements start [item] depth nodes rest := by
  intro fuel level suffix tally rounds earlier room enough
  obtain ⟨rounds, rfl⟩ := Nat.exists_eq_add_of_lt enough
  have isAfter := behind.trans (room.blank.isSuffix.trans room.isSuffix)
  unfold itemsLoop
  rw [bind_eq (value room (clear_of_run close rfl)), bind_eq (skip_run close isAfter rfl),
    bind_eq (consume_cons (close.isSuffix.trans isAfter)), if_pos rfl]
  rfl

theorem Completes.element {items : List Value} {depths others : Nat}
    {next following : List UInt8} (behind : after <:+ start)
    (shorter : after.length < start.length)
    (value : Completes text options .value start item depth nodes after)
    (comma : Run isspace after (0x2C :: next))
    (blank : Run isspace next following)
    (elements : Completes text options .elements following items depths others rest) :
    Completes text options .elements start (item :: items)
      (max depth depths) (nodes + others) rest := by
  intro fuel level suffix tally rounds earlier room enough
  obtain ⟨spare, rfl⟩ := Nat.exists_eq_add_of_lt enough
  have isNext := (suffix_cons _ _).trans comma.isSuffix
  have isAfter := behind.trans (room.blank.isSuffix.trans room.isSuffix)
  have isComma := comma.isSuffix.trans isAfter
  have fewer := isNext.length_le
  have shortest := room.blank.isSuffix.length_le
  unfold itemsLoop
  rw [bind_eq (value room.first (clear_of_run comma rfl)), bind_eq (skip_run comma isAfter rfl),
    bind_eq (consume_other isComma (by rintro ⟨⟩)), if_neg (by simp),
    bind_eq (expect_cons isComma),
    elements _ (earlier ++ [item]) (room.second.move (isNext.trans behind) blank) (by omega),
    append_assoc, Nat.add_assoc]
  rfl

variable {decoded : ByteString}

theorem memberKey_complete {name : List UInt8}
    (key : SpellsKey suffix decoded name) (isSuffix : suffix <:+ text) :
    Parser.memberKey text (cursorAt text suffix tally) =
      .ok (decoded, cursorAt text name tally) := by
  obtain ⟨blank, chars, colon⟩ := key
  have isKey := blank.isSuffix.trans isSuffix
  have isAfterKey := chars.isSuffix.trans (tail_isSuffix isKey)
  unfold memberKey
  rw [bind_eq (skip_run blank isSuffix rfl),
    bind_eq (looksAt_eq _ isKey), head?_cons, Option.any_some,
    beq_self_eq_true, if_pos rfl, bind_eq (parseString_complete chars isKey),
    bind_eq (skip_run colon isAfterKey rfl),
    bind_eq (expect_cons (colon.isSuffix.trans isAfterKey))]
  rfl

theorem emplace_fresh {earlier : List (ByteString × Value)} {key : ByteString}
    {value : Value}
    (distinct : ((earlier ++ (key, value) :: fields).map Prod.fst).Nodup) :
    (toObject earlier).emplace key value = some (toObject (earlier ++ [(key, value)])) := by
  rw [List.map_append, List.map_cons, List.nodup_append] at distinct
  obtain ⟨before, _, apart⟩ := distinct
  have fresh : key ∉ earlier.map Prod.fst := fun member => apart key member key mem_cons_self rfl
  rw [emplace_toObject before, if_neg fresh]

theorem Completes.lastMember {key name valueStart : List UInt8}
    (spelled : SpellsKey (0x22 :: key) decoded name)
    (blank : Run isspace name valueStart) (behind : after <:+ valueStart)
    (value : Completes text options .value valueStart item depth nodes after)
    (close : Run isspace after (0x7D :: rest)) :
    Completes text options .members (0x22 :: key) [(decoded, item)] depth nodes rest := by
  intro fuel level suffix tally rounds earlier room enough distinct
  obtain ⟨rounds, rfl⟩ := Nat.exists_eq_add_of_lt enough
  have inner := room.move spelled.isSuffix blank
  have isAfter := behind.trans (inner.blank.isSuffix.trans inner.isSuffix)
  have keyed : SpellsKey suffix decoded name := by
    obtain ⟨before, chars, colon⟩ := spelled
    exact ⟨room.blank.trans before, chars, colon⟩
  unfold membersLoop
  rw [bind_eq (memberKey_complete keyed room.isSuffix),
    bind_eq (value inner (clear_of_run close rfl)),
    emplace_fresh distinct]
  dsimp only
  rw [bind_eq (skip_run close isAfter rfl),
    bind_eq (consume_cons (close.isSuffix.trans isAfter)), if_pos rfl]
  rfl

theorem Completes.member {key name valueStart next following : List UInt8} {depths others : Nat}
    (spelled : SpellsKey (0x22 :: key) decoded name)
    (blank : Run isspace name valueStart) (behind : after <:+ valueStart)
    (value : Completes text options .value valueStart item depth nodes after)
    (comma : Run isspace after (0x2C :: next))
    (blanks : Run isspace next following)
    (members : Completes text options .members following fields depths others rest) :
    Completes text options .members (0x22 :: key)
      ((decoded, item) :: fields) (max depth depths) (nodes + others)
      rest := by
  intro fuel level suffix tally rounds earlier room enough distinct
  obtain ⟨spare, rfl⟩ := Nat.exists_eq_add_of_lt enough
  have inner := room.first.move spelled.isSuffix blank
  have isAfter := behind.trans (inner.blank.isSuffix.trans inner.isSuffix)
  have isComma := comma.isSuffix.trans isAfter
  have isNext := (suffix_cons _ _).trans comma.isSuffix
  have isStart := behind.trans (blank.isSuffix.trans spelled.isSuffix)
  have fewer := (isNext.trans isStart).length_le
  have shortest := room.blank.isSuffix.length_le
  have keyed : SpellsKey suffix decoded name := by
    obtain ⟨before, chars, colon⟩ := spelled
    exact ⟨room.blank.trans before, chars, colon⟩
  have nextLength : next.length < suffix.length := by
    have fewer := keyed.length_lt
    have within := ((isNext.trans behind).trans blank.isSuffix).length_le
    omega
  have extended : (((earlier ++ [(decoded, item)]) ++ fields).map Prod.fst).Nodup := by
    rw [append_assoc]
    exact distinct
  unfold membersLoop
  rw [bind_eq (memberKey_complete keyed room.isSuffix),
    bind_eq (value inner (clear_of_run comma rfl)),
    emplace_fresh distinct]
  dsimp only
  rw [bind_eq (skip_run comma isAfter rfl),
    bind_eq (consume_other isComma (by rintro ⟨⟩)), if_neg (by simp),
    bind_eq (expect_cons isComma),
    members _ (earlier ++ [(decoded, item)])
      (room.second.move (isNext.trans isStart) blanks) (by omega)
      extended,
    append_assoc, Nat.add_assoc]
  rfl

theorem Spells.completes {production : Production} {meaning : production.Meaning Value}
    (spells : Spells strict interpretation production start meaning depth nodes rest) :
    Completes text options production start meaning depth nodes rest := by
  induction spells with
  | null =>
    exact Completes.scalar rfl (by decide) fun _ _ isStart _ => valueStartingWith_null isStart
  | true_ =>
    exact Completes.scalar rfl (by decide) fun _ _ isStart _ => valueStartingWith_true isStart
  | false_ =>
    exact Completes.scalar rfl (by decide) fun _ _ isStart _ => valueStartingWith_false isStart
  | number integer =>
    obtain ⟨first, tail, spelled, starts⟩ := integer.starts
    have opens : startsSpelling first = true := by
      unfold startsSpelling
      rw [starts, Bool.or_true]
    exact Completes.scalar spelled opens fun _ _ isStart clear =>
      valueStartingWith_number integer spelled isStart clear
  | string chars =>
    exact Completes.scalar rfl (by decide) fun _ _ isStart _ =>
      valueStartingWith_string chars isStart
  | emptyArray blank => exact Completes.emptyArray blank
  | array blank elements ih => exact Completes.array blank elements.starts ih
  | emptyObject blank => exact Completes.emptyObject blank
  | object blank members distinct ih => exact Completes.object blank members.starts ih distinct
  | lastElement value close ih => exact Completes.lastElement value.isSuffix ih close
  | element value comma blank _ first others =>
    exact Completes.element value.isSuffix value.length_lt first comma blank others
  | lastMember chars colon blank value close ih =>
    exact Completes.lastMember ⟨.nil, chars, colon⟩ blank value.isSuffix ih close
  | member chars colon blank value comma behind _ first others =>
    exact Completes.member ⟨.nil, chars, colon⟩ blank value.isSuffix first comma behind others

end Spellings

end HydraSeat.Json
