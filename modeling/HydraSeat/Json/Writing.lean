import HydraSeat.Decimal
import HydraSeat.Json.ParseLaw

/-!
# Written values

A writing is a spelling of a value that leaves no byte to whitespace, with the
proof that the grammar spells that value.  Programs that write documents put
writings together; what `parse` makes of the text follows for all of them: it
is the value, unless the text has more values than the parser counts.
-/

namespace HydraSeat.Json

open List UInt8

def hexDigit (value : UInt8) : UInt8 :=
  if value < 10 then 48 + value else 87 + value

/-- The letter behind the backslash that stands for a byte. -/
def escapeLetter? (ch : UInt8) : Option UInt8 :=
  if ch = 0x22 then some 0x22
  else if ch = 0x5C then some 0x5C
  else if ch = 0x08 then some 0x62
  else if ch = 0x0C then some 0x66
  else if ch = 0x0A then some 0x6E
  else if ch = 0x0D then some 0x72
  else if ch = 0x09 then some 0x74
  else none

/-- What stands for one byte of a string. -/
def escaped (ch : UInt8) : ByteString :=
  match escapeLetter? ch with
  | some letter => [0x5C, letter]
  | none =>
    if ch < 0x20 then [0x5C, 0x75, 0x30, 0x30, hexDigit (ch >>> 4), hexDigit (ch &&& 0x0F)]
    else [ch]

def quote (text : ByteString) : ByteString := 0x22 :: text.flatMap escaped ++ [0x22]

theorem hexDigits_control (ch : UInt8) (control : ch < 0x20) :
    hexDigit? (hexDigit (ch >>> 4)) = some (ch.toNat / 16) ∧
      hexDigit? (hexDigit (ch &&& 0x0F)) = some (ch.toNat % 16) ∧
      utf8 ch.toNat = [ch] := by
  have all : ∀ value < 32,
      hexDigit? (hexDigit (UInt8.ofNat value >>> 4)) = some (value / 16) ∧
        hexDigit? (hexDigit (UInt8.ofNat value &&& 0x0F)) = some (value % 16) ∧
        utf8 value = [UInt8.ofNat value] := by
    decide
  have found := all ch.toNat (lt_iff_toNat_lt.mp control)
  rwa [UInt8.ofNat_toNat] at found

theorem piece_control {ch : UInt8} (control : ch < 0x20) (rest : List UInt8) :
    Piece strict ([0x5C, 0x75, 0x30, 0x30, hexDigit (ch >>> 4), hexDigit (ch &&& 0x0F)] ++ rest)
      [ch] rest := by
  obtain ⟨high, low, bytes⟩ := hexDigits_control ch control
  have small : ch.toNat < 32 := lt_iff_toNat_lt.mp control
  have unit : ((((0 * 16 + 0) * 16 + 0) * 16 + ch.toNat / 16) * 16 + ch.toNat % 16) = ch.toNat := by
    omega
  rw [← bytes]
  refine .codePoint ?_ ?_
  · refine .digit rfl (.digit rfl (.digit high (.digit low ?_)))
    change
      HexDigits 0 ((((0 * 16 + 0) * 16 + 0) * 16 + ch.toNat / 16) * 16 + ch.toNat % 16)
        rest ch.toNat rest
    rw [unit]
    exact .done
  · unfold isHighSurrogate isLowSurrogate
    omega

theorem escapeLetter?_cases (ch : UInt8) :
    (∃ letter, escapeLetter? ch = some letter ∧ shortEscape? letter = some ch) ∨
      escapeLetter? ch = none ∧ ch ≠ 0x22 ∧ ch ≠ 0x5C := by
  have all : ∀ value < 256,
      ((escapeLetter? (UInt8.ofNat value)).bind shortEscape? = some (UInt8.ofNat value)) ∨
        escapeLetter? (UInt8.ofNat value) = none ∧
          UInt8.ofNat value ≠ 0x22 ∧ UInt8.ofNat value ≠ 0x5C := by
    decide +kernel
  have found := all ch.toNat ch.toNat_lt
  rw [UInt8.ofNat_toNat] at found
  exact found.imp_left Option.bind_eq_some_iff.mp

theorem piece_escaped (ch : UInt8) (rest : List UInt8) :
    Piece strict (escaped ch ++ rest) [ch] rest := by
  unfold escaped
  rcases escapeLetter?_cases ch with
    ⟨letter, found, escape⟩ | ⟨found, notQuote, notBackslash⟩
  · rw [found]
    exact .short escape
  rw [found]
  dsimp only
  split
  next control => exact piece_control control rest
  next printable => exact .unescaped (UInt8.not_lt.mp printable) notQuote notBackslash

theorem chars_escaped (text rest : List UInt8) :
    Chars strict (text.flatMap escaped ++ 0x22 :: rest) text rest := by
  induction text with
  | nil => exact .close
  | cons ch text ih =>
    rw [flatMap_cons, append_assoc]
    exact .piece (piece_escaped ch _) ih

theorem run_digits (digits rest : List UInt8)
    (all : ∀ byte ∈ digits, 48 ≤ byte.toNat ∧ byte.toNat ≤ 57) :
    Run isDigit (digits ++ rest) rest := by
  induction digits with
  | nil => exact .nil
  | cons byte digits ih =>
    have bounds := all byte mem_cons_self
    refine .cons ((isDigit_iff byte).mpr bounds) (ih ?_)
    intro other member
    exact all other (mem_cons_of_mem _ member)

theorem integer_decimal (value : Nat) (rest : List UInt8) :
    Integer (decimal value ++ rest) rest := by
  have all (byte : UInt8) (member : byte ∈ decimal value) : 48 ≤ byte.toNat ∧ byte.toNat ≤ 57 :=
    decimal_digit member
  rcases decimal_head value with zero | ⟨first, digits, spelled, bounds⟩
  · rw [zero]
    exact .plain .zero
  rw [spelled] at all ⊢
  refine .plain (.positive ?_ (run_digits digits rest ?_))
  · rw [le_iff_toNat_le, le_iff_toNat_le]
    exact bounds
  · intro byte member
    exact all byte (mem_cons_of_mem _ member)

structure Writing where
  text : ByteString
  value : Value
  (depth nodes : Nat)
  spells : ∀ rest, Spells strict interpretation .value (text ++ rest) value depth nodes rest

namespace Writing

variable (field : ByteString × Writing)

def null : Writing where
  text := nullLiteral
  value := .null
  depth := 0
  nodes := 1
  spells _ := .null

def bool (value : Bool) : Writing where
  text := if value then trueLiteral else falseLiteral
  value := .bool value
  depth := 0
  nodes := 1
  spells rest := by
    cases value with
    | true => exact .true_
    | false => exact .false_

def number (value : Nat) : Writing where
  text := decimal value
  value := .number ⟨decimal value⟩
  depth := 0
  nodes := 1
  spells rest := .number (integer_decimal value rest)

def string (value : ByteString) : Writing where
  text := quote value
  value := .string value
  depth := 0
  nodes := 1
  spells rest := by
    unfold quote
    rw [append_assoc]
    exact .string (chars_escaped value rest)

def commas : List ByteString → ByteString
  | [] => []
  | [text] => text
  | text :: next :: rest => text ++ 0x2C :: commas (next :: rest)

theorem commas_length_le (texts : List ByteString) :
    (commas texts).length ≤ (texts.map (·.length)).sum + texts.length := by
  induction texts with
  | nil => exact Nat.zero_le _
  | cons first rest ih =>
    rw [map_cons, sum_cons, length_cons]
    cases rest with
    | nil =>
      change first.length ≤ _
      omega
    | cons next rest =>
      change (first ++ 0x2C :: commas (next :: rest)).length ≤ _
      rw [length_append, length_cons]
      omega

def deepest (items : List Writing) : Nat := items.foldr (fun item depth => max item.depth depth) 0

def count (items : List Writing) : Nat := (items.map (·.nodes)).sum

theorem spells_elements (item : Writing) (items : List Writing) (rest : List UInt8) :
    Spells strict interpretation .elements (commas ((item :: items).map (·.text)) ++ 0x5D :: rest)
      ((item :: items).map (·.value)) (deepest (item :: items))
      (count (item :: items)) rest := by
  induction items generalizing item with
  | nil =>
    have one := Spells.lastElement (item.spells (0x5D :: rest)) .nil
    unfold deepest count
    rw [foldr_cons, foldr_nil, Nat.max_zero]
    exact one
  | cons next items ih =>
    have value := item.spells (0x2C :: (commas ((next :: items).map (·.text)) ++ 0x5D :: rest))
    have more := Spells.element value .nil .nil (ih next)
    rw [map_cons, map_cons, commas, append_assoc]
    exact more

def array (items : List Writing) : Writing where
  text := 0x5B :: commas (items.map (·.text)) ++ [0x5D]
  value := .array (items.map (·.value))
  depth := if items.isEmpty then 0 else deepest items + 1
  nodes := count items + 1
  spells rest := by
    cases items with
    | nil => exact .emptyArray .nil
    | cons item items =>
      have elements := spells_elements item items rest
      rw [cons_append, cons_append, append_assoc]
      exact .array .nil elements

def member : ByteString := quote field.1 ++ 0x3A :: field.2.text

def entry : ByteString × Value := (field.1, field.2.value)

theorem spells_members (fields : List (ByteString × Writing)) (rest : List UInt8) :
    Spells strict interpretation .members (commas ((field :: fields).map member) ++ 0x7D :: rest)
      ((field :: fields).map entry)
      (deepest ((field :: fields).map Prod.snd))
      (count ((field :: fields).map Prod.snd)) rest := by
  induction fields generalizing field with
  | nil =>
    have one := Spells.lastMember (chars_escaped field.1 (0x3A :: (field.2.text ++ 0x7D :: rest)))
      .nil .nil (field.2.spells (0x7D :: rest)) .nil
    have text :
        commas ([field].map member) ++ 0x7D :: rest =
          0x22 :: (field.1.flatMap escaped ++ 0x22 :: 0x3A :: (field.2.text ++ 0x7D :: rest)) := by
      simp only [map_cons, map_nil, commas, member, quote, cons_append, append_assoc, nil_append]
    have depth : deepest ([field].map Prod.snd) = field.2.depth := Nat.max_zero _
    rw [text, depth]
    exact one
  | cons next fields ih =>
    have value := field.2.spells (0x2C :: (commas ((next :: fields).map member) ++ 0x7D :: rest))
    have more := Spells.member (chars_escaped field.1 _) .nil .nil value .nil .nil (ih next)
    have text :
        commas ((field :: next :: fields).map member) ++ 0x7D :: rest =
          0x22 :: (field.1.flatMap escaped ++
            0x22 :: 0x3A :: (field.2.text ++
              0x2C :: (commas ((next :: fields).map member) ++ 0x7D :: rest))) := by
      simp only [map_cons, commas, member, quote, cons_append, append_assoc, nil_append]
    rw [text]
    exact more

def object (fields : List (ByteString × Writing))
    (distinct : (fields.map Prod.fst).Nodup) : Writing where
  text := 0x7B :: commas (fields.map member) ++ [0x7D]
  value := .object (toObject (fields.map entry))
  depth := if fields.isEmpty then 0 else deepest (fields.map Prod.snd) + 1
  nodes := count (fields.map Prod.snd) + 1
  spells rest := by
    cases fields with
    | nil => exact .emptyObject .nil
    | cons field fields =>
      have members := spells_members field fields rest
      have keys : (((field :: fields).map entry).map Prod.fst).Nodup := by
        rw [map_map]
        exact distinct
      rw [cons_append, cons_append, append_assoc]
      exact .object .nil members keys

variable (writing : Writing) (options : ParseOptions)

theorem document :
    Document strict interpretation writing.text writing.value writing.depth writing.nodes := by
  have spells := writing.spells []
  rw [append_nil] at spells
  exact ⟨.nil, spells, .nil⟩

theorem document_unique {text : ByteString} {value other : Value}
    {depth nodes otherDepth otherNodes : Nat}
    (short : text.length < 2 ^ 64)
    (first : Document strict interpretation text value depth nodes)
    (second : Document strict interpretation text other otherDepth otherNodes) :
    value = other ∧ nodes = otherNodes := by
  have few {value : Value} {depth nodes : Nat}
      (read : Document strict interpretation text value depth nodes) :
      nodes ≤ (0xFFFFFFFFFFFFFFFF : UInt64).toNat := by
    obtain ⟨before, spells, behind⟩ := read
    have atMost := spells.nodes_le
    have start := before.isSuffix.length_le
    change nodes ≤ 18446744073709551615
    omega
  have deep (depth : Nat) : Fits ⟨0xFFFFFFFF, 0xFFFFFFFFFFFFFFFF⟩ 0 depth :=
    (fits_root _ depth).mpr (.inr rfl)
  have same := (document_complete first (deep _) (few first)).symm.trans
    (document_complete second (deep _) (few second))
  injection same with pair
  obtain ⟨values, cursors⟩ := Prod.mk.inj pair
  exact ⟨values, congrArg Foundation.Cursor.tally cursors⟩

theorem parse_iff (shallow : writing.depth ≤ options.maximumDepth.toNat)
    (short : writing.text.length < 2 ^ 64) (value : Value) :
    parse writing.text options = .ok value ↔
      value = writing.value ∧ writing.nodes ≤ options.maximumNodes.toNat := by
  rw [parse_eq_ok_iff]
  constructor
  · rintro ⟨depth, nodes, read, _, few⟩
    obtain ⟨rfl, rfl⟩ := document_unique short read writing.document
    exact ⟨rfl, few⟩
  · rintro ⟨rfl, few⟩
    exact ⟨writing.depth, writing.nodes, writing.document,
      (fits_root options _).mpr (.inl shallow), few⟩

end Writing

variable {fields : List (ByteString × Value)}

theorem lookup_eq_some_iff_mem
    (distinct : (fields.map Prod.fst).Nodup) (key : ByteString)
    (value : Value) :
    fields.lookup key = some value ↔ (key, value) ∈ fields := by
  induction fields with
  | nil => exact ⟨nofun, nofun⟩
  | cons field fields ih =>
    obtain ⟨name, first⟩ := field
    rw [map_cons, nodup_cons] at distinct
    rw [lookup_cons, mem_cons, Prod.mk.injEq, ← ih distinct.2]
    by_cases same : key = name
    · subst same
      have absent : fields.lookup key ≠ some value := by
        rw [ne_eq, ih distinct.2]
        intro member
        exact distinct.1 (mem_map.mpr ⟨_, member, rfl⟩)
      rw [beq_self_eq_true]
      exact ⟨fun found => .inl ⟨rfl, (Option.some.inj found).symm⟩,
        fun found => found.elim (fun found => congrArg some found.2.symm)
          fun found => absurd found absent⟩
    · rw [beq_eq_false_iff_ne.mpr same]
      exact ⟨.inr, fun found => found.resolve_left fun both => same both.1⟩

theorem lookup_toObject
    (distinct : (fields.map Prod.fst).Nodup) (key : ByteString) :
    (toObject fields).lookup key = fields.lookup key := by
  have perm := toObject_perm fields
  have keys : ((toObject fields).map Prod.fst).Nodup := (perm.map Prod.fst).nodup_iff.mpr distinct
  ext value
  rw [lookup_eq_some_iff_mem keys, lookup_eq_some_iff_mem distinct, perm.mem_iff]

end HydraSeat.Json
