import HydraSeat.Json.SpellingLaws

/-!
# What `parseValue` reads is spelled

By induction on the fuel: whatever the parser reads is a spelling of the
value that it returns, within the budgets, and it does nothing else than to
read or to refuse.
-/

namespace HydraSeat.Json

open Foundation Foundation.Descent List Parser

def interpretation : Interpretation Value where
  null := .null
  bool := .bool
  number spelling := .number ⟨spelling⟩
  string := .string
  array := .array
  object fields := .object (toObject fields)

/-- Values down to a depth below a level pass the test of the depth. -/
def Fits (options : ParseOptions) (level : UInt32) (depth : Nat) : Prop :=
  ∀ below ≤ depth, level + UInt32.ofNat below ≤ options.maximumDepth

section Depth

variable {options : ParseOptions} {level : UInt32} {depth : Nat}

theorem level_zero (level : UInt32) : level + UInt32.ofNat 0 = level := UInt32.add_zero level

theorem fits_zero : Fits options level 0 ↔ level ≤ options.maximumDepth := by
  constructor
  · intro fits
    have first := fits 0 (Nat.le_refl 0)
    rwa [level_zero] at first
  · intro within below atMost
    rw [Nat.le_zero.mp atMost, level_zero]
    exact within

theorem level_succ (level : UInt32) (below : Nat) :
    level + UInt32.ofNat (below + 1) = level + 1 + UInt32.ofNat below := by
  rw [UInt32.ofNat_add, UInt32.add_assoc, UInt32.add_comm (UInt32.ofNat below)]
  rfl

theorem fits_succ :
    Fits options level (depth + 1) ↔
      level ≤ options.maximumDepth ∧ Fits options (level + 1) depth := by
  constructor
  · intro fits
    refine ⟨fits_zero.mp fun below atMost => fits below (by omega), ?_⟩
    intro below atMost
    rw [← level_succ]
    exact fits (below + 1) (by omega)
  · rintro ⟨within, fits⟩ below atMost
    cases below with
    | zero =>
      rw [level_zero]
      exact within
    | succ below =>
      rw [level_succ]
      exact fits below (by omega)

theorem fits_max {depths : Nat} :
    Fits options level (max depth depths) ↔
      Fits options level depth ∧ Fits options level depths := by
  constructor
  · intro fits
    exact ⟨fun below atMost => fits below (by omega), fun below atMost => fits below (by omega)⟩
  · rintro ⟨first, others⟩ below atMost
    rcases Nat.le_total depth depths with larger | larger
    · exact others below (by omega)
    · exact first below (by omega)

theorem Fits.level_le (fits : Fits options level depth) : level ≤ options.maximumDepth :=
  fits_zero.mp fun below atMost => fits below (by omega)

end Depth

variable {after : Nat} {item : Value} {decoded : ByteString} {name : List UInt8} {text : ByteString}
  {options : ParseOptions} {level : UInt32} {tally : Nat} {suffix rest : List UInt8}

theorem startsWith_eq (expected : ByteString) (isSuffix : suffix <:+ text) :
    startsWith text expected (cursorAt text suffix tally) =
      .ok (suffix.take expected.length == expected, cursorAt text suffix tally) := by
  unfold startsWith
  rw [bind_eq here_eq, drop_cursorAt isSuffix]
  rfl

theorem startsWith_append (expected : ByteString) (isSuffix : expected ++ rest <:+ text) :
    startsWith text expected (cursorAt text (expected ++ rest) tally) =
      .ok (true, cursorAt text (expected ++ rest) tally) := by
  rw [startsWith_eq expected isSuffix, take_left, beq_self_eq_true]

theorem literal_append (expected : ByteString) (isSuffix : expected ++ rest <:+ text) :
    literal text expected (cursorAt text (expected ++ rest) tally) =
      .ok ((), cursorAt text rest tally) := by
  unfold literal
  rw [bind_eq (startsWith_append expected isSuffix), if_pos rfl]
  exact advance_append expected isSuffix

theorem literal_reads (expected : ByteString) (isSuffix : suffix <:+ text) :
    Consumes text (literal text expected) suffix tally
      fun _ after rest => after = tally ∧ suffix = expected ++ rest := by
  unfold literal
  refine .step (startsWith_eq expected isSuffix) (suffix_refl _) ?_
  split
  next found =>
    rw [beq_iff_eq] at found
    obtain ⟨rest, rfl⟩ := prefix_iff_eq_take.mpr found.symm
    unfold Consumes
    rw [advance_append expected isSuffix]
    exact .read (suffix_append _ _) ⟨rfl, rfl⟩
  · exact .refuse _

theorem countNode_eq :
    countNode (cursorAt text suffix tally) = .ok ((), cursorAt text suffix (tally + 1)) :=
  rfl

/-- A production is spelled behind whitespace, within the budgets. -/
def Read (options : ParseOptions) (level : UInt32) (production : Production)
    (suffix : List UInt8) (tally : Nat)
    (meaning : production.Meaning Value) (after : Nat)
    (rest : List UInt8) : Prop :=
  ∃ start depth nodes,
    Run isspace suffix start ∧
      Spells strict interpretation production start meaning depth nodes rest ∧
      Fits options level depth ∧ after = tally + nodes ∧
      after ≤ options.maximumNodes.toNat

/-- The parser of the values inside a container reads them in front of what
is shorter than the container. -/
def ReadsInner (text : ByteString) (options : ParseOptions) (level : UInt32)
    (bound : Nat) (inner : Parser Value) : Prop :=
  ∀ suffix tally, suffix <:+ text → suffix.length < bound →
    Consumes text inner suffix tally (Read options level .value suffix tally)

theorem Read.length_lt {production : Production} {meaning : production.Meaning Value}
    (read : Read options level production suffix tally meaning after rest) :
    rest.length < suffix.length := by
  obtain ⟨_, _, _, blank, spells, _⟩ := read
  exact Nat.lt_of_lt_of_le spells.length_lt blank.isSuffix.length_le

variable {middle : List UInt8}

theorem Read.single
    (read : Read options level .value suffix tally item after middle)
    (close : Run isspace middle (0x5D :: rest)) :
    Read options level .elements suffix tally [item] after rest := by
  obtain ⟨start, depth, nodes, blank, spells, fits, counted, within⟩ := read
  exact ⟨start, depth, nodes, blank, .lastElement spells close, fits, counted, within⟩

theorem Read.cons {items : List Value} {between : Nat} {next : List UInt8}
    (read : Read options level .value suffix tally item between middle)
    (comma : Run isspace middle (0x2C :: next))
    (others : Read options level .elements next between items after rest) :
    Read options level .elements suffix tally (item :: items) after rest := by
  obtain ⟨start, depth, nodes, blank, spells, fits, rfl, _⟩ := read
  obtain ⟨following, depths, count, behind, elements, fitting, rfl, within⟩ := others
  exact ⟨start, max depth depths, nodes + count, blank,
    .element spells comma behind elements, fits_max.mpr ⟨fits, fitting⟩,
    Nat.add_assoc _ _ _, within⟩

/-- The key of a member and the colon behind it. -/
inductive SpellsKey (suffix : List UInt8) (decoded : ByteString) : List UInt8 → Prop
  | intro {key afterKey name : List UInt8} (blank : Run isspace suffix (0x22 :: key))
      (chars : Chars strict key decoded afterKey)
      (colon : Run isspace afterKey (0x3A :: name)) :
      SpellsKey suffix decoded name

theorem SpellsKey.isSuffix (key : SpellsKey suffix decoded name) : name <:+ suffix := by
  obtain ⟨blank, chars, colon⟩ := key
  exact ((suffix_cons _ _).trans colon.isSuffix).trans
    (chars.isSuffix.trans ((suffix_cons _ _).trans blank.isSuffix))

theorem SpellsKey.length_lt
    (key : SpellsKey suffix decoded name) : name.length < suffix.length := by
  obtain ⟨blank, chars, colon⟩ := key
  have keyLength := blank.isSuffix.length_le
  have afterLength := chars.isSuffix.length_le
  have nameLength := colon.isSuffix.length_le
  rw [length_cons] at keyLength nameLength
  omega

theorem Read.singleField (key : SpellsKey suffix decoded name)
    (read : Read options level .value name tally item after middle)
    (close : Run isspace middle (0x7D :: rest)) :
    Read options level .members suffix tally [(decoded, item)] after rest := by
  obtain ⟨before, chars, colon⟩ := key
  obtain ⟨start, depth, nodes, blank, spells, fits, counted, within⟩ := read
  exact ⟨_, depth, nodes, before, .lastMember chars colon blank spells close, fits, counted, within⟩

variable {fields : List (ByteString × Value)}

theorem Read.consField {between : Nat}
    {next : List UInt8}
    (key : SpellsKey suffix decoded name)
    (read : Read options level .value name tally item between middle)
    (comma : Run isspace middle (0x2C :: next))
    (others : Read options level .members next between fields after rest) :
    Read options level .members suffix tally ((decoded, item) :: fields) after rest := by
  obtain ⟨before, chars, colon⟩ := key
  obtain ⟨start, depth, nodes, blank, spells, fits, rfl, _⟩ := read
  obtain ⟨following, depths, count, behind, members, fitting, rfl, within⟩ := others
  exact ⟨_, max depth depths, nodes + count, before,
    .member chars colon blank spells comma behind members,
    fits_max.mpr ⟨fits, fitting⟩, Nat.add_assoc _ _ _, within⟩

section Loops

variable {inner : Parser Value} {bound : Nat}

theorem itemsLoop_reads (reads : ReadsInner text options level bound inner) (rounds : Nat)
    (earlier : List Value) (isSuffix : suffix <:+ text)
    (enough : suffix.length < rounds) (smaller : suffix.length < bound) :
    Consumes text (itemsLoop text inner rounds earlier) suffix tally
      fun items after rest =>
        ∃ more, items = earlier ++ more ∧
          Read options level .elements suffix tally more after rest := by
  induction rounds generalizing earlier suffix tally with
  | zero => exact absurd enough (Nat.not_lt_zero _)
  | succ rounds ih =>
    unfold itemsLoop
    refine .bind (reads suffix tally isSuffix smaller) ?_
    intro value between middle shorter read
    have isMiddle := shorter.trans isSuffix
    have fewer := read.length_lt
    have blank := run_dropWhile isspace middle
    refine .step (skip_eq isMiddle) blank.isSuffix ?_
    generalize middle.dropWhile isspace = behind at blank
    have isBehind := blank.isSuffix.trans isMiddle
    by_cases closes : behind.head? = some 0x5D
    · obtain ⟨rest, rfl⟩ := head?_eq_some_iff.mp closes
      refine .step (consume_cons isBehind) (suffix_cons _ _) ?_
      rw [if_pos rfl]
      exact .pure ⟨[value], rfl, read.single blank⟩
    refine .step (consume_other isBehind closes) (suffix_refl _) ?_
    rw [if_neg nofun]
    refine .bind (expect_reads 0x2C isBehind) ?_
    rintro _ _ next _ ⟨rfl, rfl⟩
    have atMost := blank.isSuffix.length_le
    rw [length_cons] at atMost
    refine (ih (earlier ++ [value]) (tail_isSuffix isBehind) (by omega) (by omega)).mono ?_
    rintro _ after rest _ ⟨more, rfl, others⟩
    refine ⟨value :: more, ?_, read.cons blank others⟩
    rw [append_assoc]
    rfl

theorem memberKey_reads (isSuffix : suffix <:+ text) :
    Consumes text (memberKey text) suffix tally
      fun decoded after name => after = tally ∧ SpellsKey suffix decoded name := by
  have blank := run_dropWhile isspace suffix
  have isStart := blank.isSuffix.trans isSuffix
  unfold memberKey
  refine .step (skip_eq isSuffix) blank.isSuffix ?_
  refine .step (looksAt_eq _ isStart) (suffix_refl _) ?_
  split
  · refine .bind (parseString_reads isStart) ?_
    rintro decoded _ afterKey isAfter ⟨rfl, key, spelled, chars⟩
    have isAfterKey := isAfter.trans isStart
    have colon := run_dropWhile isspace afterKey
    refine .step (skip_eq isAfterKey) colon.isSuffix ?_
    refine .bind (expect_reads 0x3A (colon.isSuffix.trans isAfterKey)) ?_
    rintro _ _ name isName ⟨rfl, named⟩
    rw [spelled] at blank
    rw [named] at colon
    exact .pure ⟨rfl, blank, chars, colon⟩
  · exact .refuse _

theorem membersLoop_reads (reads : ReadsInner text options level bound inner) (rounds : Nat)
    {earlier : List (ByteString × Value)}
    (distinct : (earlier.map Prod.fst).Nodup) (isSuffix : suffix <:+ text)
    (enough : suffix.length < rounds) (smaller : suffix.length < bound) :
    Consumes text (membersLoop text inner rounds (toObject earlier)) suffix tally
      fun object after rest =>
        ∃ more, object = toObject (earlier ++ more) ∧ ((earlier ++ more).map Prod.fst).Nodup ∧
          Read options level .members suffix tally more after rest := by
  induction rounds generalizing earlier suffix tally with
  | zero => exact absurd enough (Nat.not_lt_zero _)
  | succ rounds ih =>
    unfold membersLoop
    refine .bind (memberKey_reads isSuffix) ?_
    rintro decoded _ name isName ⟨rfl, key⟩
    have nameLength := key.length_lt
    refine .bind (reads name _ (isName.trans isSuffix) (by omega)) ?_
    intro value between middle shorter read
    have isMiddle := (shorter.trans isName).trans isSuffix
    have fewer := read.length_lt
    rw [emplace_toObject distinct]
    split
    · exact .refuse _
    next object placed =>
      obtain ⟨fresh, placed⟩ := not_taken placed nofun
      cases placed
      have extended : ((earlier ++ [(decoded, value)]).map Prod.fst).Nodup := by
        rw [map_append, map_singleton]
        refine nodup_append.mpr ⟨distinct, nodup_singleton _, ?_⟩
        rintro key member _ found rfl
        rw [mem_singleton.mp found] at member
        exact fresh member
      have blank := run_dropWhile isspace middle
      refine .step (skip_eq isMiddle) blank.isSuffix ?_
      generalize middle.dropWhile isspace = behind at blank
      have isBehind := blank.isSuffix.trans isMiddle
      by_cases closes : behind.head? = some 0x7D
      · obtain ⟨rest, rfl⟩ := head?_eq_some_iff.mp closes
        refine .step (consume_cons isBehind) (suffix_cons _ _) ?_
        rw [if_pos rfl]
        exact .pure ⟨[(decoded, value)], rfl, extended, read.singleField key blank⟩
      refine .step (consume_other isBehind closes) (suffix_refl _) ?_
      rw [if_neg nofun]
      refine .bind (expect_reads 0x2C isBehind) ?_
      rintro _ _ next _ ⟨rfl, rfl⟩
      have atMost := blank.isSuffix.length_le
      rw [length_cons] at atMost
      refine (ih extended (tail_isSuffix isBehind) (by omega) (by omega)).mono ?_
      rintro _ after rest _ ⟨more, rfl, apart, others⟩
      rw [append_assoc] at apart ⊢
      exact ⟨(decoded, value) :: more, rfl, apart, read.consField key blank others⟩

end Loops

variable {start : List UInt8}

theorem Read.scalar {value : Value}
    (spells : Spells strict interpretation .value suffix value 0 1 rest)
    (within : level ≤ options.maximumDepth)
    (counted : tally < options.maximumNodes.toNat) :
    Read options level .value suffix tally value (tally + 1) rest :=
  ⟨suffix, 0, 1, .nil, spells, fits_zero.mpr within, rfl, counted⟩

theorem Read.array {items : List Value} (blank : Run isspace suffix start)
    (read : Read options (level + 1) .elements start (tally + 1) items after rest)
    (within : level ≤ options.maximumDepth) :
    Read options level .value (0x5B :: suffix) tally (.array items) after rest := by
  obtain ⟨begin_, depth, nodes, more, spells, fits, rfl, few⟩ := read
  exact ⟨_, depth + 1, nodes + 1, .nil,
    .array (blank.trans more) spells, fits_succ.mpr ⟨within, fits⟩,
    by omega, few⟩

theorem Read.object (blank : Run isspace suffix start)
    (read : Read options (level + 1) .members start (tally + 1) fields after rest)
    (distinct : (fields.map Prod.fst).Nodup)
    (within : level ≤ options.maximumDepth) :
    Read options level .value (0x7B :: suffix) tally (.object (toObject fields)) after rest := by
  obtain ⟨begin_, depth, nodes, more, spells, fits, rfl, few⟩ := read
  exact ⟨_, depth + 1, nodes + 1, .nil, .object (blank.trans more) spells distinct,
    fits_succ.mpr ⟨within, fits⟩, by omega, few⟩

section Values

variable {inner : Parser Value} {bound : Nat}

section

variable (reads : ReadsInner text options (level + 1) bound inner)
include reads

theorem parseArray_reads (isSuffix : 0x5B :: suffix <:+ text) (smaller : suffix.length < bound)
    (within : level ≤ options.maximumDepth)
    (counted : tally < options.maximumNodes.toNat) :
    Consumes text (parseArray text inner) (0x5B :: suffix) (tally + 1)
      (Read options level .value (0x5B :: suffix) tally) := by
  have isTail := tail_isSuffix isSuffix
  have blank := run_dropWhile isspace suffix
  have fits := isTail.length_le
  have shorter := blank.isSuffix.length_le
  unfold parseArray
  refine .step (advance_cons isSuffix) (suffix_cons _ _) ?_
  refine .step (skip_eq isTail) blank.isSuffix ?_
  generalize suffix.dropWhile isspace = start at blank shorter
  have isStart := blank.isSuffix.trans isTail
  by_cases closes : start.head? = some 0x5D
  · obtain ⟨rest, rfl⟩ := head?_eq_some_iff.mp closes
    refine .step (consume_cons isStart) (suffix_cons _ _) ?_
    rw [if_pos rfl]
    exact .pure (.scalar (.emptyArray blank) within counted)
  refine .step (consume_other isStart closes) (suffix_refl _) ?_
  rw [if_neg nofun]
  refine .bind (itemsLoop_reads reads (text.length + 1) [] isStart (by omega) (by omega)) ?_
  rintro _ after rest _ ⟨items, rfl, read⟩
  exact .pure (.array blank read within)

theorem parseObject_reads (isSuffix : 0x7B :: suffix <:+ text) (smaller : suffix.length < bound)
    (within : level ≤ options.maximumDepth)
    (counted : tally < options.maximumNodes.toNat) :
    Consumes text (parseObject text inner) (0x7B :: suffix)
      (tally + 1) (Read options level .value (0x7B :: suffix) tally) := by
  have isTail := tail_isSuffix isSuffix
  have blank := run_dropWhile isspace suffix
  have fits := isTail.length_le
  have shorter := blank.isSuffix.length_le
  unfold parseObject
  refine .step (advance_cons isSuffix) (suffix_cons _ _) ?_
  refine .step (skip_eq isTail) blank.isSuffix ?_
  generalize suffix.dropWhile isspace = start at blank shorter
  have isStart := blank.isSuffix.trans isTail
  by_cases closes : start.head? = some 0x7D
  · obtain ⟨rest, rfl⟩ := head?_eq_some_iff.mp closes
    refine .step (consume_cons isStart) (suffix_cons _ _) ?_
    rw [if_pos rfl]
    exact .pure (.scalar (.emptyObject blank) within counted)
  refine .step (consume_other isStart closes) (suffix_refl _) ?_
  rw [if_neg nofun]
  have loop :
      Consumes text (membersLoop text inner (text.length + 1) (toObject [])) start (tally + 1) _ :=
    membersLoop_reads reads (text.length + 1) nodup_nil isStart (by omega) (by omega)
  refine .bind loop ?_
  rintro _ after rest _ ⟨fields, rfl, distinct, read⟩
  exact .pure (.object blank read distinct within)

theorem valueStartingWith_reads {current : UInt8} (isSuffix : current :: suffix <:+ text)
    (smaller : suffix.length < bound)
    (within : level ≤ options.maximumDepth)
    (counted : tally < options.maximumNodes.toNat) :
    Consumes text (valueStartingWith text inner current) (current :: suffix) (tally + 1)
      (Read options level .value (current :: suffix) tally) := by
  unfold valueStartingWith
  split
  · refine .bind (parseString_reads isSuffix) ?_
    rintro decoded _ rest _ ⟨rfl, key, spelled, chars⟩
    rw [spelled]
    exact .pure (.scalar (.string chars) within counted)
  split
  next isBrace =>
    subst isBrace
    exact parseObject_reads reads isSuffix smaller within counted
  split
  next isBracket =>
    subst isBracket
    exact parseArray_reads reads isSuffix smaller within counted
  refine .step (startsWith_eq _ isSuffix) (suffix_refl _) ?_
  split
  · refine .bind (literal_reads _ isSuffix) ?_
    rintro _ _ rest _ ⟨rfl, spelled⟩
    rw [spelled]
    exact .pure (.scalar .true_ within counted)
  refine .step (startsWith_eq _ isSuffix) (suffix_refl _) ?_
  split
  · refine .bind (literal_reads _ isSuffix) ?_
    rintro _ _ rest _ ⟨rfl, spelled⟩
    rw [spelled]
    exact .pure (.scalar .false_ within counted)
  refine .step (startsWith_eq _ isSuffix) (suffix_refl _) ?_
  split
  · refine .bind (literal_reads _ isSuffix) ?_
    rintro _ _ rest _ ⟨rfl, spelled⟩
    rw [spelled]
    exact .pure (.scalar .null within counted)
  split
  · refine .bind (parseNumber_reads isSuffix) ?_
    rintro number _ rest _ ⟨rfl, spelled, integer⟩
    rw [spelled] at integer ⊢
    exact .pure (.scalar (.number integer) within counted)
  · exact .refuse _

theorem scalarOrContainer_reads (isSuffix : suffix <:+ text) (smaller : suffix.length ≤ bound)
    (within : level ≤ options.maximumDepth)
    (counted : tally < options.maximumNodes.toNat) :
    Consumes text (scalarOrContainer text inner) suffix (tally + 1)
      (Read options level .value suffix tally) := by
  unfold scalarOrContainer
  refine .step (atEnd_eq isSuffix) (suffix_refl _) ?_
  cases suffix with
  | nil => exact .refuse _
  | cons current tail =>
    rw [isEmpty_cons, if_neg nofun]
    refine .step here_eq (suffix_refl _) ?_
    refine .step (byteAt_cons isSuffix _) (suffix_refl _) ?_
    exact valueStartingWith_reads reads isSuffix smaller within counted

end

end Values

theorem parseValue_reads (fuel : Nat) (level : UInt32) :
    ReadsInner text options level fuel (parseValue text options fuel level) := by
  induction fuel generalizing level with
  | zero =>
    intro suffix tally _ smaller
    exact absurd smaller (Nat.not_lt_zero _)
  | succ fuel ih =>
    intro suffix tally isSuffix smaller
    have blank := run_dropWhile isspace suffix
    have shorter := blank.isSuffix.length_le
    unfold parseValue
    split
    · exact .refuse _
    next within =>
      refine .step here_eq (suffix_refl _) ?_
      split
      · exact .refuse _
      next counted =>
        refine .step countNode_eq (suffix_refl _) ?_
        refine .step (skip_eq isSuffix) blank.isSuffix ?_
        refine (scalarOrContainer_reads (ih (level + 1)) (blank.isSuffix.trans isSuffix) (by omega)
          (UInt32.not_lt.mp within) (Nat.not_le.mp counted)).mono ?_
        rintro value after rest _ ⟨start, depth, nodes, more, spells, fits, rfl, few⟩
        exact ⟨start, depth, nodes, blank.trans more, spells, fits, rfl, few⟩

end HydraSeat.Json
