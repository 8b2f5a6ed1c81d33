import HydraSeat.Foundation.Fallible
import HydraSeat.Json.Writing

/-!
# Written fields

What an encoder puts into a document is a writing that its decoder reads back.
Fields are put together to records and items to arrays; the number of values
adds up on the way.  A decoder may fail with any kind of error.
-/

namespace HydraSeat.Json

open Foundation List

/-- Texts with a comma between each two, in brackets. -/
def bracketed (texts : List ByteString) : ByteString := "[" ++ Writing.commas texts ++ "]"

/-- Texts behind their names, with a comma between each two, in braces. -/
def objectText (fields : List (String × ByteString)) : ByteString :=
  "\x7b" ++
    Writing.commas (fields.map fun (name, value) => "\"" ++ bytesOf name ++ "\":" ++ value) ++
    "\x7d"

variable {Error : Type}

/-- The text spells a value that is read as the item. -/
structure Written {Item : Type} (read : Value → Except Error Item)
    (item : Item) (nodes depth : Nat) (text : ByteString) : Prop where
  intro ::
  writing :
    ∃ writing : Writing,
      writing.text = text ∧ writing.nodes = nodes ∧
        writing.depth ≤ depth ∧ read writing.value = .ok item

variable {text : ByteString}

theorem Written.deepen {Item : Type} {read : Value → Except Error Item} {item : Item}
    {nodes depth deeper : Nat}
    (written : Written read item nodes depth text)
    (atMost : depth ≤ deeper) : Written read item nodes deeper text := by
  obtain ⟨writing, isText, isNodes, flat, isItem⟩ := written.writing
  exact ⟨writing, isText, isNodes, flat.trans atMost, isItem⟩

theorem Written.map {Item Result : Type} {read : Value → Except Error Item} {item : Item}
    {nodes depth : Nat} (written : Written read item nodes depth text)
    (make : Item → Result) :
    Written (fun value => read value >>= fun item => pure (make item))
      (make item) nodes depth text := by
  obtain ⟨writing, isText, isNodes, flat, isItem⟩ := written.writing
  refine ⟨writing, isText, isNodes, flat, ?_⟩
  rw [isItem]
  rfl

theorem written_null {Item : Type} {read : Value → Except Error Item}
    {item : Item} (isNull : read .null = .ok item) :
    Written read item 1 0 "null" :=
  ⟨.null, by decide, rfl, Nat.le_refl _, isNull⟩

section Items

variable {Item : Type}

/-- The texts spell values that are read as the items. -/
structure WrittenItems (read : Value → Except Error Item)
    (items : List Item) (nodes depth : Nat) (texts : List ByteString) :
    Prop where
  intro ::
  writings :
    ∃ writings : List Writing,
      writings.map (·.text) = texts ∧ Writing.count writings = nodes ∧
        Writing.deepest writings ≤ depth ∧
        (writings.map (·.value)).mapM read = .ok items

variable {read : Value → Except Error Item} {items : List Item}
  {nodes depth : Nat} {texts : List ByteString}

theorem WrittenItems.nil : WrittenItems read [] 0 depth [] := ⟨[], rfl, rfl, Nat.zero_le _, rfl⟩

theorem WrittenItems.cons {item : Item} {first : Nat}
    (written : Written read item first depth text)
    (others : WrittenItems read items nodes depth texts) :
    WrittenItems read (item :: items) (first + nodes) depth (text :: texts) := by
  obtain ⟨writing, rfl, rfl, shallow, isItem⟩ := written.writing
  obtain ⟨writings, rfl, rfl, flat, areItems⟩ := others.writings
  refine ⟨writing :: writings, rfl, rfl, max_le shallow flat, ?_⟩
  rw [map_cons, mapM_cons, isItem, areItems]
  rfl

theorem writtenItems_mapM {encode : Item → Except Error ByteString} {nodesOf : Item → Nat}
    (each :
      ∀ item ∈ items, ∀ text, encode item = .ok text → Written read item (nodesOf item) depth text)
    (encoded : items.mapM encode = .ok texts) :
    WrittenItems read items (items.map nodesOf).sum depth texts := by
  induction items generalizing texts with
  | nil =>
    cases encoded
    exact .nil
  | cons item items ih =>
    rw [mapM_cons] at encoded
    obtain ⟨text, first, encoded⟩ := bind_eq_ok.mp encoded
    obtain ⟨others, later, same⟩ := bind_eq_ok.mp encoded
    cases same
    exact .cons (each item mem_cons_self text first)
      (ih (fun other member => each other (mem_cons_of_mem _ member)) later)

theorem writtenItems_map {encode : Item → ByteString} {nodesOf : Item → Nat}
    (each : ∀ item ∈ items, Written read item (nodesOf item) depth (encode item)) :
    WrittenItems read items (items.map nodesOf).sum depth (items.map encode) := by
  induction items with
  | nil => exact .nil
  | cons item items ih =>
    exact .cons (each item mem_cons_self)
      (ih fun other member => each other (mem_cons_of_mem _ member))

theorem WrittenItems.array (written : WrittenItems read items nodes depth texts)
    {whole : Value → Except Error (List Item)}
    (isWhole : ∀ values, whole (.array values) = values.mapM read) :
    Written whole items (nodes + 1) (depth + 1) (bracketed texts) := by
  obtain ⟨writings, rfl, rfl, flat, areItems⟩ := written.writings
  refine ⟨.array writings, ?_, rfl, ?_, (isWhole _).trans areItems⟩
  · unfold bracketed Writing.array
    rfl
  · change (if writings.isEmpty then 0 else _) ≤ _
    split
    · exact Nat.zero_le _
    · exact Nat.succ_le_succ flat

end Items

section Records

variable {keys : List String} {writings : List Writing}

def members (keys : List String) (writings : List Writing) : List (ByteString × Writing) :=
  (keys.map bytesOf).zip writings

theorem members_keys (same : keys.length = writings.length) :
    (members keys writings).map Prod.fst = keys.map bytesOf :=
  map_fst_zip (by rw [length_map, same])

theorem members_writings (same : keys.length = writings.length) :
    (members keys writings).map Prod.snd = writings :=
  map_snd_zip (by rw [length_map, same])

/-- What the parser makes of the object. -/
def recordObject (keys : List String) (writings : List Writing) : Value.Object :=
  toObject ((members keys writings).map Writing.entry)

/-- The names differ and need no escapes. -/
def plainKeys (keys : List String) : Bool :=
  decide ((keys.map bytesOf).Nodup) &&
    keys.all fun key => quote (bytesOf key) == "\"" ++ bytesOf key ++ "\""

/-- The object has a member of this name that is read as the item. -/
def Holds {Item : Type} (object : Value.Object) (key : String)
    (read : Value → Except Error Item) (item : Item) : Prop :=
  ∃ value, object.lookup (bytesOf key) = some value ∧ read value = .ok item

/-- The object has members of these names and no others. -/
structure HasKeys (keys : List String) (object : Value.Object) : Prop where
  known : ∀ entry ∈ object, entry.1 ∈ keys.map bytesOf
  present : ∀ key ∈ keys, (object.lookup (bytesOf key)).isSome
  count : object.length = keys.length

theorem HasKeys.no_other (hasKeys : HasKeys keys object) :
    (object.find? fun entry => !(keys.map bytesOf).contains entry.1) = none := by
  rw [List.find?_eq_none]
  intro entry member
  rw [List.contains_iff_mem.mpr (hasKeys.known entry member)]
  exact Bool.false_ne_true

section Plain

variable (plain : plainKeys keys = true) (same : keys.length = writings.length)

include plain

theorem keys_distinct : (keys.map bytesOf).Nodup := by
  unfold plainKeys at plain
  rw [Bool.and_eq_true, decide_eq_true_eq] at plain
  exact plain.1

include same

theorem entries_distinct : (((members keys writings).map Writing.entry).map Prod.fst).Nodup := by
  rw [map_map]
  change ((members keys writings).map Prod.fst).Nodup
  rw [members_keys same]
  exact keys_distinct plain

theorem lookup_record {field : String × Writing} (member : field ∈ keys.zip writings) :
    (recordObject keys writings).lookup (bytesOf field.1) = some field.2.value := by
  have distinctEntries := entries_distinct plain same
  unfold recordObject
  rw [lookup_toObject distinctEntries, lookup_eq_some_iff_mem distinctEntries]
  refine mem_map.mpr ⟨(bytesOf field.1, field.2), ?_, rfl⟩
  unfold members
  rw [zip_map_left]
  exact mem_map.mpr ⟨field, member, rfl⟩

theorem hasKeys_record : HasKeys keys (recordObject keys writings) where
  known entry member := by
    rw [← members_keys same]
    have perm := toObject_perm ((members keys writings).map Writing.entry)
    obtain ⟨field, isField, rfl⟩ := mem_map.mp (perm.mem_iff.mp member)
    exact mem_map.mpr ⟨field, isField, rfl⟩
  present key member := by
    have zipped := @map_fst_zip _ _ keys writings same.le
    rw [← zipped] at member
    obtain ⟨field, isField, rfl⟩ := mem_map.mp member
    rw [lookup_record plain same isField]
    rfl
  count := by
    unfold recordObject
    rw [(toObject_perm _).length_eq, length_map,
      ← length_map (f := Prod.fst), members_keys same, length_map]

theorem members_text :
    (members keys writings).map Writing.member =
      (keys.zip (writings.map (·.text))).map fun (name, value) =>
        "\"" ++ bytesOf name ++ "\":" ++ value := by
  unfold plainKeys at plain
  rw [Bool.and_eq_true, all_eq_true] at plain
  have quoted := plain.2
  clear plain
  induction keys generalizing writings with
  | nil => rfl
  | cons key keys ih =>
    cases writings with
    | nil => cases same
    | cons writing writings =>
      have first := beq_iff_eq.mp (quoted key mem_cons_self)
      have others := ih (Nat.succ.inj same)
        fun other member => quoted other (mem_cons_of_mem _ member)
      have colon : bytesOf "\":" = bytesOf "\"" ++ [0x3A] := by
        decide
      have head :
          Writing.member (bytesOf key, writing) = "\"" ++ bytesOf key ++ "\":" ++ writing.text := by
        rw [Writing.member, first, colon]
        simp only [append_assoc, cons_append, nil_append]
      change Writing.member (bytesOf key, writing) :: (members keys writings).map Writing.member = _
      rw [others, head]
      rfl

end Plain

/-- The texts, one behind each key, spell values; `held` is what they make of
an object with these members. -/
structure WrittenMembers (keys : List String) (texts : List ByteString) (nodes depth : Nat)
    (held : Value.Object → Prop) : Prop where
  intro ::
  writings :
    ∃ writings : List Writing,
      keys.length = writings.length ∧ writings.map (·.text) = texts ∧
        Writing.count writings = nodes ∧ Writing.deepest writings ≤ depth ∧
        ∀ object : Value.Object,
          (∀ field ∈ keys.zip writings, object.lookup (bytesOf field.1) = some field.2.value) →
          held object

variable {texts : List ByteString} {nodes depth : Nat} {held : Value.Object → Prop}

theorem WrittenMembers.nil : WrittenMembers [] [] 0 depth fun _ => True :=
  ⟨[], rfl, rfl, rfl, Nat.zero_le _, fun _ _ => trivial⟩

theorem WrittenMembers.cons {Item : Type} {read : Value → Except Error Item} {item : Item}
    {key : String} {first shallow : Nat}
    (written : Written read item first shallow text) (atMost : shallow ≤ depth)
    (others : WrittenMembers keys texts nodes depth held) :
    WrittenMembers (key :: keys) (text :: texts) (first + nodes) depth
      fun object => Holds object key read item ∧ held object := by
  obtain ⟨writing, rfl, rfl, flat, isItem⟩ := written.writing
  obtain ⟨writings, same, rfl, rfl, deepest, reads⟩ := others.writings
  refine ⟨writing :: writings, congrArg Nat.succ same, rfl, rfl,
    max_le (flat.trans atMost) deepest, fun object found => ?_⟩
  exact ⟨⟨writing.value, found _ mem_cons_self, isItem⟩,
    reads object fun field member => found field (mem_cons_of_mem _ member)⟩

theorem WrittenMembers.leaf {Item : Type} {read : Value → Except Error Item} {item : Item}
    {key : String} {first : Nat} (written : Written read item first 0 text)
    (others : WrittenMembers keys texts nodes depth held) :
    WrittenMembers (key :: keys) (text :: texts) (first + nodes) depth
      fun object => Holds object key read item ∧ held object :=
  .cons written (Nat.zero_le _) others

theorem WrittenMembers.record {Item : Type} {read : Value → Except Error Item} {item : Item}
    {whole : Nat} (written : WrittenMembers keys texts nodes depth held)
    (plain : plainKeys keys = true) (total : nodes + 1 = whole)
    (isItem : ∀ object, HasKeys keys object → held object → read (.object object) = .ok item) :
    Written read item whole (depth + 1) (objectText (keys.zip texts)) := by
  obtain ⟨writings, same, rfl, rfl, flat, reads⟩ := written.writings
  have distinct := keys_distinct plain
  refine ⟨.object (members keys writings) (by rwa [members_keys same]), ?_, ?_, ?_,
    isItem _ (hasKeys_record plain same) (reads _ fun _ => lookup_record plain same)⟩
  · unfold objectText
    rw [← members_text plain same]
    rfl
  · rw [← total]
    change Writing.count ((members keys writings).map Prod.snd) + 1 = _
    rw [members_writings same]
  · change (if (members keys writings).isEmpty then 0
      else Writing.deepest ((members keys writings).map Prod.snd) + 1) ≤ _
    rw [members_writings same]
    split
    · exact Nat.zero_le _
    · exact Nat.succ_le_succ flat

end Records

end HydraSeat.Json
