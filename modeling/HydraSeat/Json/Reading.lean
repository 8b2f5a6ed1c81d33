import HydraSeat.Json.Fields

/-!
# Readers

The readers that a decoder is put together from: single values, members of an
object and items of an array.  What a reader refuses with is a parameter, so
that every store has its own diagnostics.  Each reader reads back what is
written for it.
-/

namespace HydraSeat.Json

open Foundation

variable {Error Item : Type}

section Values

variable (refuse : ByteString → Error) (label : String) (value : Value)

def readObject : Except Error Value.Object :=
  match value with
  | .object object => .ok object
  | _ => .error (refuse (bytesOf label ++ " must be an object"))

def readArray : Except Error (List Value) :=
  match value with
  | .array array => .ok array
  | _ => .error (refuse (bytesOf label ++ " must be an array"))

def readText : Except Error ByteString :=
  match value with
  | .string text => .ok text
  | _ => .error (refuse (bytesOf label ++ " must be a string"))

def readOptionalText : Except Error (Option ByteString) :=
  match value with
  | .null => .ok none
  | value => do return some (← readText refuse label value)

def readFlag : Except Error Bool :=
  match value with
  | .bool flag => .ok flag
  | _ => .error (refuse (bytesOf label ++ " must be a boolean"))

/-- The text of an integer without a sign. -/
def naturalText? : Value → Option ByteString
  | .number number =>
    if number.text.isEmpty || number.text.head? == some 45 then none
    else some number.text
  | _ => none

/-- An unsigned integer; `outside` says that it is too large. -/
def readU64 (outside : String) (value : Value) : Except Error UInt64 :=
  match naturalText? value with
  | none => .error (refuse (bytesOf label ++ " must be an unsigned integer"))
  | some text =>
    match fromChars text with
    | none => .error (refuse (bytesOf label ++ bytesOf outside))
    | some parsed => .ok parsed

def readU32 (outside tooLarge : String) (value : Value) : Except Error UInt32 := do
  let parsed ← readU64 refuse label outside value
  if parsed > 0xFFFFFFFF then .error (refuse (bytesOf label ++ bytesOf tooLarge))
  else
    return parsed.toUInt32

theorem written_text (value : ByteString) :
    Written (readText refuse label) value 1 0 (quote value) :=
  ⟨.string value, rfl, rfl, Nat.le_refl _, rfl⟩

def optionalText : Option ByteString → ByteString
  | some value => quote value
  | none => "null"

theorem written_optionalText (value : Option ByteString) :
    Written (readOptionalText refuse label) value 1 0 (optionalText value) := by
  cases value with
  | none => exact written_null rfl
  | some value => exact ⟨.string value, rfl, rfl, Nat.le_refl _, rfl⟩

def flagText (value : Bool) : ByteString := bytesOf (if value then "true" else "false")

theorem written_flag (value : Bool) :
    Written (readFlag refuse label) value 1 0 (flagText value) := by
  refine ⟨.bool value, ?_, rfl, Nat.le_refl _, rfl⟩
  cases value <;> decide

theorem naturalText?_decimal (value : Nat) :
    naturalText? (.number ⟨decimal value⟩) = some (decimal value) := by
  have noSign : ¬(decimal value).head? = some 45 := by
    intro sign
    have digit := decimal_digit (List.mem_of_head? sign)
    exact absurd digit.1 (by decide)
  unfold naturalText?
  dsimp only
  rw [List.isEmpty_eq_false_iff.mpr (decimal_ne_nil value), Bool.false_or,
    if_neg (by rwa [beq_iff_eq])]

theorem written_u64 (outside : String) (value : UInt64) :
    Written (readU64 refuse label outside) value 1 0 (decimal value.toNat) := by
  refine ⟨.number value.toNat, rfl, rfl, Nat.le_refl _, ?_⟩
  change readU64 refuse label outside (.number ⟨decimal value.toNat⟩) = _
  unfold readU64
  rw [naturalText?_decimal]
  dsimp only
  rw [fromChars_decimal]

theorem written_u32 (outside tooLarge : String) (value : UInt32) :
    Written (readU32 refuse label outside tooLarge) value 1 0 (decimal value.toNat) := by
  have same : value.toUInt64.toNat = value.toNat := UInt32.toNat_toUInt64 value
  obtain ⟨writing, isText, isNodes, flat, isRead⟩ :=
    (written_u64 refuse label outside value.toUInt64).writing
  rw [same] at isText
  refine ⟨writing, isText, isNodes, flat, ?_⟩
  have small : ¬value.toUInt64 > 0xFFFFFFFF := by
    rw [gt_iff_lt, UInt64.lt_iff_toNat_lt, same]
    have bounded := value.toNat_lt
    change ¬4294967295 < _
    omega
  unfold readU32
  rw [isRead, ok_bind, if_neg small, UInt32.toUInt32_toUInt64]
  rfl

end Values

section Arrays

variable (refuse : ByteString → Error) (label : String)

theorem written_items {read : Value → Except Error Item}
    {items : List Item} {nodes depth : Nat} {texts : List ByteString}
    (written : WrittenItems read items nodes depth texts) :
    Written (fun value => readArray refuse label value >>= (·.mapM read))
      items (nodes + 1) (depth + 1) (bracketed texts) :=
  written.array fun _ => rfl

end Arrays

section Members

def readMember (missing : ByteString → Error) (object : Value.Object)
    (key : String) : Except Error Value :=
  match object.lookup (bytesOf key) with
  | none => .error (missing (bytesOf key))
  | some value => .ok value

/-- The members are the expected ones; an unknown one is reported before one
that is missing. -/
def checkKeys (unknown : ByteString → Error) (missing : Error)
    (object : Value.Object) (expected : List String) : Except Error Unit :=
  match
    object.find? fun entry => !(expected.map bytesOf).contains entry.1
  with
  | some entry => .error (unknown entry.1)
  | none =>
    if object.length ≠ expected.length then .error missing
    else .ok ()

variable {keys : List String} {object : Value.Object} {key : String}
  {read : Value → Except Error Item} {item : Item}

theorem readMember_bind {Result : Type} {next : Item → Except Error Result}
    (missing : ByteString → Error) (found : Holds object key read item) :
    (readMember missing object key >>= fun value => read value >>= next) = next item := by
  obtain ⟨value, isValue, isItem⟩ := found
  unfold readMember
  rw [isValue]
  change (read value >>= next) = _
  rw [isItem, ok_bind]

theorem checkKeys_of (hasKeys : HasKeys keys object) (unknown : ByteString → Error)
    (missing : Error) : checkKeys unknown missing object keys = .ok () := by
  unfold checkKeys
  rw [hasKeys.no_other]
  dsimp only
  rw [if_neg (not_not.mpr hasKeys.count)]

end Members

end HydraSeat.Json
