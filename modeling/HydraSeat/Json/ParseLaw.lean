import HydraSeat.Json.ParserCompleteness

/-!
# `parse` accepts exactly its grammar

The parser takes for whitespace what `std::isspace` does.  On a text without
vertical tabs and form feeds that is the whitespace of RFC 8259.
-/

namespace HydraSeat.Json

open Foundation Foundation.Descent List Parser

section Dialects

variable {source target : Dialect}
variable {text rest : List UInt8} {byte : UInt8} {depth nodes : Nat}

theorem Run.respace {accepts others : UInt8 → Bool} (run : Run accepts text rest)
    (agree : ∀ byte ∈ text, accepts byte = true → others byte = true) :
    Run others text rest := by
  induction run with
  | nil => exact .nil
  | cons accepted _ ih =>
    refine .cons (agree _ mem_cons_self accepted) ?_
    exact ih fun byte member => agree byte (mem_cons_of_mem _ member)

theorem Piece.respace {decoded : List UInt8} (piece : Piece source text decoded rest)
    (same : source.unpaired = target.unpaired) :
    Piece target text decoded rest := by
  cases piece with
  | unescaped printable notQuote notBackslash => exact .unescaped printable notQuote notBackslash
  | short escaped => exact .short escaped
  | codePoint hex scalar => exact .codePoint hex scalar
  | pair first isHigh second isLow => exact .pair first isHigh second isLow
  | unpaired hex surrogate stands =>
    rw [same] at stands
    exact .unpaired hex surrogate stands

theorem Chars.respace {decoded : List UInt8} (chars : Chars source text decoded rest)
    (same : source.unpaired = target.unpaired) :
    Chars target text decoded rest := by
  induction chars with
  | close => exact .close
  | piece first _ ih => exact .piece (first.respace same) ih

/-- The bytes of a text that are whitespace for one dialect are whitespace
for another. -/
def Agree (source target : Dialect) (text : List UInt8) : Prop :=
  ∀ byte ∈ text, source.space byte = true → target.space byte = true

theorem Agree.suffix (agree : Agree source target text)
    (isSuffix : rest <:+ text) : Agree source target rest :=
  fun byte member => agree byte (isSuffix.subset member)

theorem Agree.tail (agree : Agree source target (byte :: text)) :
    Agree source target text :=
  agree.suffix (suffix_cons _ _)

theorem Agree.behind (agree : Agree source target text)
    (run : Run source.space text (byte :: rest)) :
    Agree source target rest :=
  (agree.suffix run.isSuffix).tail

theorem Spells.respace {production : Production} {meaning : production.Meaning Value}
    (spells : Spells source interpretation production text meaning depth nodes rest)
    (same : source.unpaired = target.unpaired)
    (agree : Agree source target text) :
    Spells target interpretation production text meaning depth nodes rest := by
  induction spells with
  | null => exact .null
  | true_ => exact .true_
  | false_ => exact .false_
  | number integer => exact .number integer
  | string chars => exact .string (chars.respace same)
  | emptyArray blank => exact .emptyArray (blank.respace agree.tail)
  | array blank _ ih =>
    have inside := agree.tail.suffix blank.isSuffix
    exact .array (blank.respace agree.tail) (ih inside)
  | emptyObject blank => exact .emptyObject (blank.respace agree.tail)
  | object blank _ distinct ih =>
    have inside := agree.tail.suffix blank.isSuffix
    exact .object (blank.respace agree.tail) (ih inside) distinct
  | lastElement value close ih =>
    have behind := agree.suffix value.isSuffix
    exact .lastElement (ih agree) (close.respace behind)
  | element value comma blank _ first others =>
    have behind := agree.suffix value.isSuffix
    have next := behind.behind comma
    exact .element (first agree) (comma.respace behind)
      (blank.respace next) (others (next.suffix blank.isSuffix))
  | lastMember chars colon blank value close ih =>
    have afterKey := agree.tail.suffix chars.isSuffix
    have name := afterKey.behind colon
    have start := name.suffix blank.isSuffix
    have behind := start.suffix value.isSuffix
    exact .lastMember (chars.respace same) (colon.respace afterKey) (blank.respace name) (ih start)
      (close.respace behind)
  | member chars colon blank value comma behind _ first others =>
    have afterKey := agree.tail.suffix chars.isSuffix
    have name := afterKey.behind colon
    have start := name.suffix blank.isSuffix
    have after := start.suffix value.isSuffix
    have next := after.behind comma
    exact .member (chars.respace same) (colon.respace afterKey)
      (blank.respace name) (first start) (comma.respace after)
      (behind.respace next) (others (next.suffix behind.isSuffix))

theorem Document.respace {value : Value}
    (document : Document source interpretation text value depth nodes)
    (same : source.unpaired = target.unpaired)
    (agree : Agree source target text) :
    Document target interpretation text value depth nodes := by
  obtain ⟨before, spells, behind⟩ := document
  have start := agree.suffix before.isSuffix
  exact ⟨before.respace agree, spells.respace same start,
    behind.respace (start.suffix spells.isSuffix)⟩

end Dialects

section Parse

variable {text : ByteString} {options : ParseOptions}

theorem cursorAt_start : cursorAt text text 0 = (⟨0, 0⟩ : Cursor Nat) := by
  unfold cursorAt
  rw [Nat.sub_self]

theorem document_reads :
    Consumes text (document text options) text 0
      fun value nodes rest =>
        rest = [] ∧
          ∃ depth,
            Document strict interpretation text value depth nodes ∧ Fits options 0 depth ∧
              nodes ≤ options.maximumNodes.toNat := by
  have whole := suffix_refl text
  have before := run_dropWhile isspace text
  have isStart := before.isSuffix
  have shorter := isStart.length_le
  unfold document
  refine .step (skip_eq whole) isStart ?_
  refine .bind (parseValue_reads (text.length + 1) 0 _ 0 isStart (by omega)) ?_
  rintro value _ middle isMiddle ⟨start, depth, nodes, blank, spells, fits, rfl, few⟩
  have isAfter := isMiddle.trans isStart
  have behind := run_dropWhile isspace middle
  refine .step (skip_eq isAfter) behind.isSuffix ?_
  refine .step (atEnd_eq (behind.isSuffix.trans isAfter)) (suffix_refl _) ?_
  split
  next ended =>
    rw [List.isEmpty_iff] at ended
    rw [ended] at behind ⊢
    rw [Nat.zero_add] at few ⊢
    exact .pure ⟨rfl, depth, ⟨before.trans blank, spells, behind⟩, fits, few⟩
  · exact .refuse _

theorem document_complete {value : Value} {depth nodes : Nat}
    (document : Document strict interpretation text value depth nodes)
    (fits : Fits options 0 depth)
    (few : nodes ≤ options.maximumNodes.toNat) :
    Parser.document text options (cursorAt text text 0) = .ok (value, cursorAt text [] nodes) := by
  obtain ⟨before, spells, behind⟩ := document
  have whole := suffix_refl text
  have isStart := before.isSuffix
  have isAfter := spells.isSuffix.trans isStart
  have shorter := isStart.length_le
  have ended : Clear [] := rfl
  have read := spells.completes
    { blank := .nil, isSuffix := isStart, enough := Nat.lt_succ_of_le shorter, fits := fits
      few := by rwa [Nat.zero_add] }
    (clear_of_run behind ended)
  unfold document
  rw [bind_eq (skip_starts before whole spells.starts), bind_eq read,
    bind_eq (skip_run behind isAfter rfl),
    bind_eq (atEnd_eq (behind.isSuffix.trans isAfter)),
    isEmpty_nil, if_pos rfl, Nat.zero_add]
  rfl

theorem parse_eq_ok_iff (value : Value) :
    parse text options = .ok value ↔
      ∃ depth nodes,
        Document strict interpretation text value depth nodes ∧
          Fits options 0 depth ∧ nodes ≤ options.maximumNodes.toNat := by
  unfold parse
  rw [← cursorAt_start]
  constructor
  · intro parsed
    have reads : Consumes text (document text options) text 0 _ := document_reads
    unfold Consumes at reads
    generalize document text options (cursorAt text text 0) = outcome at reads parsed
    cases reads with
    | refused => cases parsed
    | @read _ nodes _ _ accepted =>
      cases parsed
      obtain ⟨_, depth, document, fits, few⟩ := accepted
      exact ⟨depth, nodes, document, fits, few⟩
  · rintro ⟨depth, nodes, document, fits, few⟩
    rw [document_complete document fits few]

/-- A text that is not accepted is refused at a position: the parser neither
reads past the end nor runs out of fuel. -/
theorem parse_settles :
    (∃ value, parse text options = .ok value) ∨
      ∃ message position, parse text options = .error (.refused message position) := by
  unfold parse
  rw [← cursorAt_start]
  have reads : Consumes text (document text options) text 0 _ := document_reads
  unfold Consumes at reads
  generalize document text options (cursorAt text text 0) = outcome at reads
  cases reads with
  | refused message position => exact .inr ⟨message, position, rfl⟩
  | @read value _ _ _ _ => exact .inl ⟨value, rfl⟩

end Parse

/-- The grammar of RFC 8259, with what an escaped surrogate without its
partner stands for, if it stands for anything. -/
def rfc8259 (unpaired : Option (List UInt8)) : Dialect where
  space byte := byte == 0x20 || byte == 0x09 || byte == 0x0A || byte == 0x0D
  unpaired

/-- A text that is a document within the budgets, and its value.  The depth
of the outermost value is zero; the greatest limit of the depth limits
nothing, since the depth is a word of 32 bits and wraps around. -/
def Accepted (dialect : Dialect) (options : ParseOptions) (text : ByteString)
    (value : Value) : Prop :=
  ∃ depth nodes,
    Document dialect interpretation text value depth nodes ∧
      (depth ≤ options.maximumDepth.toNat ∨ options.maximumDepth = 0xFFFFFFFF) ∧
      nodes ≤ options.maximumNodes.toNat

theorem fits_root (options : ParseOptions) (depth : Nat) :
    Fits options 0 depth ↔
      depth ≤ options.maximumDepth.toNat ∨ options.maximumDepth = 0xFFFFFFFF := by
  have bounded := options.maximumDepth.toNat_lt
  constructor
  · intro fits
    by_contra neither
    obtain ⟨deeper, limited⟩ := not_or.mp neither
    have small : options.maximumDepth.toNat ≠ 4294967295 := by
      intro same
      exact limited (UInt32.toNat_inj.mp same)
    have tested := fits (options.maximumDepth.toNat + 1) (by omega)
    rw [UInt32.zero_add, UInt32.le_iff_toNat_le, UInt32.toNat_ofNat'] at tested
    omega
  · intro within below atMost
    rw [UInt32.zero_add, UInt32.le_iff_toNat_le, UInt32.toNat_ofNat']
    rcases within with shallow | unlimited
    · omega
    · rw [unlimited]
      change below % 2 ^ 32 ≤ 4294967295
      omega

theorem rfcSpace_iff (unpaired : Option (List UInt8)) (byte : UInt8) :
    (rfc8259 unpaired).space byte = true ↔
      byte.toNat = 32 ∨ byte.toNat = 9 ∨ byte.toNat = 10 ∨ byte.toNat = 13 := by
  unfold rfc8259
  simp only [Bool.or_eq_true, beq_iff_eq, ← UInt8.toNat_inj, or_assoc]
  rfl

theorem isspace_iff_rfcSpace {byte : UInt8} (plain : byte ≠ 0x0B ∧ byte ≠ 0x0C) :
    isspace byte = true ↔ (rfc8259 none).space byte = true := by
  obtain ⟨notTab, notFeed⟩ := plain
  rw [ne_eq, ← UInt8.toNat_inj] at notTab notFeed
  change byte.toNat ≠ 11 at notTab
  change byte.toNat ≠ 12 at notFeed
  rw [isspace_iff, rfcSpace_iff]
  omega

/-- On a text without vertical tabs and form feeds `parse` returns exactly
the values of the grammar in which escaped surrogates come in pairs; on
every text it ends without reading past the end. -/
theorem parse_exact (text : ByteString) (options : ParseOptions) :
    (parse text options ≠ .error .pastEnd ∧ parse text options ≠ .error .exhausted) ∧
    ((∀ byte ∈ text, byte ≠ 0x0B ∧ byte ≠ 0x0C) →
      ∀ value, parse text options = .ok value ↔ Accepted (rfc8259 none) options text value) := by
  constructor
  · have settles : (∃ value, parse text options = .ok value) ∨ _ := parse_settles
    rcases settles with ⟨value, parsed⟩ | ⟨message, position, refused⟩
    · rw [parsed]
      exact ⟨nofun, nofun⟩
    · rw [refused]
      exact ⟨nofun, nofun⟩
  · intro plain value
    have agree : Agree strict (rfc8259 none) text := fun byte member =>
      (isspace_iff_rfcSpace (plain byte member)).mp
    have back : Agree (rfc8259 none) strict text := fun byte member =>
      (isspace_iff_rfcSpace (plain byte member)).mpr
    rw [parse_eq_ok_iff]
    constructor
    · rintro ⟨depth, nodes, document, fits, few⟩
      exact ⟨depth, nodes, document.respace rfl agree, (fits_root options depth).mp fits, few⟩
    · rintro ⟨depth, nodes, document, within, few⟩
      exact ⟨depth, nodes, document.respace rfl back, (fits_root options depth).mpr within, few⟩

/-- `[1,"\u00e9"]`. -/
def sampleText : ByteString := "[1,\"\\u00e9\"]"

theorem sampleText_accepted :
    Accepted (rfc8259 none) {} sampleText (.array [.number ⟨"1"⟩, .string [0xC3, 0xA9]]) :=
  ((parse_exact sampleText {}).2 (by decide +kernel) _).mp rfl

/-- The replacement character stands for the escaped surrogate here. -/
theorem loneSurrogate_refused :
    ¬ ((∃ value, parse "\"\\ud800\"" {} = .ok value) ↔
      ∃ value depth nodes,
        Document (rfc8259 (some [0xEF, 0xBF, 0xBD])) interpretation
            "\"\\ud800\"" value depth nodes ∧
          depth ≤ 48 ∧ nodes ≤ 65536) := by
  intro accepts
  have digits : Hex4 "d800\"" 0xD800 [0x22] :=
    .digit rfl (.digit rfl (.digit rfl (.digit rfl .done)))
  have chars :
      Chars (rfc8259 (some [0xEF, 0xBF, 0xBD])) "\\ud800\"" ([0xEF, 0xBF, 0xBD] ++ []) [] :=
    .piece (.unpaired digits (.inl ⟨by decide, by decide⟩) rfl) .close
  obtain ⟨value, parsed⟩ := accepts.mpr ⟨_, 0, 1, ⟨.nil, .string chars, .nil⟩, by decide, by decide⟩
  have refused : parse "\"\\ud800\"" {} = .error (.refused "missing low surrogate" 7) := rfl
  rw [refused] at parsed
  cases parsed

end HydraSeat.Json
