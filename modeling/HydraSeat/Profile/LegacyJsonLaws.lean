import HydraSeat.Profile.LegacyJson

/-!
# What the legacy parser returns

Every string is valid UTF-8 and the members of every object are sorted, so
that no two of them have one name.
-/

namespace HydraSeat.Profile.Migration

open Foundation Foundation.Descent Json List
open Json (byKey)

inductive WellFormed : Value → Prop
  | null : WellFormed .null
  | bool (boolean : Bool) : WellFormed (.bool boolean)
  | number (number : Number) : WellFormed (.number number)
  | string {text : ByteString} (valid : validUtf8 text = true) : WellFormed (.string text)
  | array {items : List Value} (each : ∀ item ∈ items, WellFormed item) : WellFormed (.array items)
  | object {entries : Value.Object} (sorted : entries.Pairwise byKey)
      (keys : ∀ entry ∈ entries, validUtf8 entry.1 = true)
      (values : ∀ entry ∈ entries, WellFormed entry.2) :
      WellFormed (.object entries)

/-- The members of an object of which this can be said. -/
structure WellFormedObject (entries : Value.Object) : Prop where
  sorted : entries.Pairwise byKey
  keys : ∀ entry ∈ entries, validUtf8 entry.1 = true
  values : ∀ entry ∈ entries, WellFormed entry.2

theorem wellFormed_object_iff {entries : Value.Object} :
    WellFormed (.object entries) ↔ WellFormedObject entries := by
  constructor
  · rintro ⟨⟩
    next sorted keys values => exact ⟨sorted, keys, values⟩
  · intro formed
    exact .object formed.sorted formed.keys formed.values

theorem WellFormedObject.distinct {entries : Value.Object} (formed : WellFormedObject entries) :
    (entries.map Prod.fst).Nodup := by
  rw [nodup_iff_pairwise_ne, pairwise_map]
  refine formed.sorted.imp fun before same => ?_
  unfold byKey at before
  rw [same] at before
  exact List.lt_irrefl _ before

theorem WellFormedObject.emplace {object after : Value.Object} {key : ByteString} {value : Value}
    (formed : WellFormedObject object) (isKey : validUtf8 key = true)
    (isValue : WellFormed value)
    (placed : object.emplace key value = some after) :
    WellFormedObject after := by
  rw [emplace_eq formed.sorted] at placed
  obtain ⟨fresh, placed⟩ := not_taken placed nofun
  cases placed
  refine ⟨sorted_insert formed.sorted fresh, ?_, ?_⟩
  · intro entry member
    rcases (mem_orderedInsert byKey).mp member with rfl | earlier
    · exact isKey
    · exact formed.keys entry earlier
  · intro entry member
    rcases (mem_orderedInsert byKey).mp member with rfl | earlier
    · exact isValue
    · exact formed.values entry earlier

namespace JsonParser

open Json (Parser)

variable {text : ByteString} {inner : Parser Value}

theorem parseString_yields : Yields (parseString text) fun output => validUtf8 output = true := by
  refine .after fun output => ?_
  split
  next valid => exact .pure valid
  · exact .refuse _

theorem memberKey_yields : Yields (memberKey text) fun key => validUtf8 key = true := by
  refine .after fun _ => .after fun starts => ?_
  split
  · exact .bind parseString_yields fun key valid => .after fun _ => .after fun _ => .pure valid
  · exact .refuse _

theorem membersLoop_yields (isInner : Yields inner WellFormed) {fuel : Nat} {object : Value.Object}
    (formed : WellFormedObject object) :
    Yields (membersLoop text inner fuel object) WellFormedObject := by
  induction fuel generalizing object with
  | zero => exact .exhaust
  | succ fuel ih =>
    refine .bind memberKey_yields fun key isKey => .bind isInner fun value isValue => ?_
    split
    · exact .refuse _
    next after placed =>
      have formed := formed.emplace isKey isValue placed
      refine .after fun _ => .after fun closed => ?_
      split
      · exact .pure formed
      · exact .after fun _ => ih formed

theorem itemsLoop_yields (isInner : Yields inner WellFormed) {fuel : Nat} {array : List Value}
    (formed : ∀ item ∈ array, WellFormed item) :
    Yields (Parser.itemsLoop text inner fuel array)
      fun items => ∀ item ∈ items, WellFormed item := by
  induction fuel generalizing array with
  | zero => exact .exhaust
  | succ fuel ih =>
    refine .bind isInner fun value isValue => ?_
    have formed : ∀ item ∈ array ++ [value], WellFormed item := by
      intro item member
      rcases mem_append.mp member with earlier | last
      · exact formed item earlier
      · rw [mem_singleton.mp last]
        exact isValue
    refine .after fun _ => .after fun closed => ?_
    split
    · exact .pure formed
    · exact .after fun _ => ih formed

theorem valueStartingWith_yields (isInner : Yields inner WellFormed) (current : UInt8) :
    Yields (valueStartingWith text inner current) WellFormed := by
  unfold valueStartingWith
  split
  · exact .bind parseString_yields fun _ valid => .pure (.string valid)
  split
  · refine .after fun _ => .after fun _ => .after fun closed => ?_
    split
    · exact .pure (.object .nil (fun _ => nofun) fun _ => nofun)
    · exact .bind (membersLoop_yields isInner ⟨.nil, fun _ => nofun, fun _ => nofun⟩)
        fun _ formed => .pure (wellFormed_object_iff.mpr formed)
  · split
    · refine .after fun _ => .after fun _ => .after fun closed => ?_
      split
      · exact .pure (.array fun _ => nofun)
      · exact .bind (itemsLoop_yields isInner fun _ => nofun) fun _ formed => .pure (.array formed)
    · refine .after fun isTrue => ?_
      split
      · exact .after fun _ => .pure (.bool _)
      refine .after fun isFalse => ?_
      split
      · exact .after fun _ => .pure (.bool _)
      refine .after fun isNull => ?_
      split
      · exact .after fun _ => .pure .null
      · split
        · exact .after fun _ => .pure (.number _)
        · exact .refuse _

theorem parseValue_yields (fuel depth : Nat) : Yields (parseValue text fuel depth) WellFormed := by
  induction fuel generalizing depth with
  | zero => exact .exhaust
  | succ fuel ih =>
    unfold parseValue
    split
    · exact .refuse _
    · refine .after fun _ => .after fun ended => ?_
      split
      · exact .refuse _
      · exact .after fun _ => .after fun current => valueStartingWith_yields (ih _) current

theorem document_yields : Yields (document text) WellFormed := by
  refine .after fun _ => .bind (parseValue_yields _ _) fun _ formed =>
    .after fun _ => .after fun ended => ?_
  split
  · exact .pure formed
  · exact .refuse _

end JsonParser

theorem parseLegacy_wellFormed {text : ByteString} {value : Value}
    (parsed : parseLegacy text = .ok value) : WellFormed value := by
  unfold parseLegacy at parsed
  split at parsed
  next found after ran =>
    cases parsed
    exact JsonParser.document_yields _ _ _ ran
  · cases parsed

end HydraSeat.Profile.Migration
