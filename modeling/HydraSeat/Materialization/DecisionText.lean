import HydraSeat.Profile.SchemaText

/-!
# The texts of materialization decisions

Diagnostics of the store of local decisions, its two conversions between wide
strings and UTF-8, and the readers of JSON values.  An exception of the
source is an error here.
-/

namespace HydraSeat.Materialization

open Json

inductive MaterializationDecisionStoreCode where
  | success | missing | tooLarge | invalidDocument | parseError | unknownField | readFailed
  | writeFailed | removeFailed | cleanupFailed

structure MaterializationDecisionStoreDiagnostic where
  code : MaterializationDecisionStoreCode := .success
  message : ByteString := []

abbrev DecisionStore := Except MaterializationDecisionStoreDiagnostic

/-- A diagnostic that is returned, or an exception that is thrown. -/
def decisionFailure {α : Type} (code : MaterializationDecisionStoreCode)
    (message : ByteString) : DecisionStore α :=
  .error ⟨code, message⟩

def wideToUtf8 : WideString → Option ByteString
  | [] => some []
  | unit :: rest =>
    if 0xD800 ≤ unit ∧ unit ≤ 0xDBFF then
      match rest with
      | [] => none
      | low :: tail =>
        if low < 0xDC00 ∨ low > 0xDFFF then none
        else
          (wideToUtf8 tail).map fun converted =>
            utf8Bytes
              ((0x10000 : UInt32) + ((unit - 0xD800).toUInt32 <<< 10) +
                (low - 0xDC00).toUInt32) ++ converted
    else if 0xDC00 ≤ unit ∧ unit ≤ 0xDFFF then none
    else (wideToUtf8 rest).map fun converted => utf8Bytes unit.toUInt32 ++ converted

/-- The bits of the code point in a lead byte and how many bytes follow. -/
def leadingByte? (lead : UInt8) : Option (UInt32 × Nat) :=
  if lead ≤ 0x7F then
    if lead < 0x20 ∨ lead = 0x7F then none else some (lead.toUInt32, 0)
  else if lead &&& 0xE0 = 0xC0 then
    if lead &&& 0x1F < 2 then none
    else some ((lead &&& 0x1F).toUInt32, 1)
  else if lead &&& 0xF0 = 0xE0 then some ((lead &&& 0x0F).toUInt32, 2)
  else if lead &&& 0xF8 = 0xF0 then
    if lead &&& 0x07 > 4 then none
    else some ((lead &&& 0x07).toUInt32, 3)
  else none

/-- One turn of the loop of `utf8ToWide`: the code point and the bytes behind
its sequence. -/
def readSequence? (lead : UInt8) (rest : ByteString) : Option (UInt32 × ByteString) :=
  match leadingByte? lead with
  | none => none
  | some (start, continuationCount) =>
    let continuation := rest.take continuationCount
    if continuation.length < continuationCount then none
    else if continuation.any fun byte => byte &&& 0xC0 != 0x80 then none
    else
      let codePoint := continuation.foldl
        (fun (point : UInt32) (byte : UInt8) => (point <<< 6) ||| (byte &&& 0x3F).toUInt32) start
      if (continuationCount = 2 ∧ codePoint < 0x800) ∨
          (continuationCount = 3 ∧ codePoint < 0x10000) ∨
          codePoint > 0x10FFFF ∨
          (0xD800 ≤ codePoint ∧ codePoint ≤ 0xDFFF) then
        none
      else some (codePoint, rest.drop continuationCount)

/-- The loop of `utf8ToWide`.  Every sequence takes at least one byte, so the
length is fuel enough. -/
def utf8ToWideLoop : Nat → ByteString → Option WideString
  | _, [] => some []
  | 0, _ :: _ => none
  | fuel + 1, lead :: rest =>
    match readSequence? lead rest with
    | none => none
    | some (codePoint, tail) => (utf8ToWideLoop fuel tail).map (utf16Units codePoint ++ ·)

def utf8ToWide (input : ByteString) : Option WideString := utf8ToWideLoop input.length input

def optionalStringJson : Option ByteString → ByteString
  | some value => quote value
  | none => "null"

def asObject (value : Value) (label : String) : DecisionStore Value.Object :=
  match value with
  | .object object => .ok object
  | _ => decisionFailure .parseError (bytesOf label ++ " must be an object")

def asArray (value : Value) (label : String) : DecisionStore (List Value) :=
  match value with
  | .array array => .ok array
  | _ => decisionFailure .parseError (bytesOf label ++ " must be an array")

def required (object : Value.Object) (key : String) : DecisionStore Value :=
  match object.lookup (bytesOf key) with
  | none => decisionFailure .parseError ("missing required field: " ++ bytesOf key)
  | some value => .ok value

/-- An unknown field is reported before one that is missing. -/
def requireFields (object : Value.Object) (expected : List String) : DecisionStore Unit :=
  match
    object.find? fun entry => !(expected.map bytesOf).contains entry.1
  with
  | some entry => decisionFailure .unknownField ("unknown field: " ++ entry.1)
  | none =>
    if object.length ≠ expected.length then
      decisionFailure .parseError "object is missing one or more required fields"
    else .ok ()

def asString (value : Value) (label : String) : DecisionStore ByteString :=
  match value with
  | .string text => .ok text
  | _ => decisionFailure .parseError (bytesOf label ++ " must be a string")

def asOptionalString (value : Value) (label : String) : DecisionStore (Option ByteString) :=
  match value with
  | .null => .ok none
  | value => do return some (← asString value label)

def asU64 (value : Value) (label : String) : DecisionStore UInt64 :=
  match Profile.unsignedText? value with
  | none => decisionFailure .parseError (bytesOf label ++ " must be an unsigned integer")
  | some text =>
    match fromChars text with
    | none =>
      decisionFailure .parseError (bytesOf label ++ " is outside the unsigned integer range")
    | some parsed => .ok parsed

def asU32 (value : Value) (label : String) : DecisionStore UInt32 := do
  let parsed ← asU64 value label
  if parsed > 0xFFFFFFFF then decisionFailure .parseError (bytesOf label ++ " exceeds uint32 range")
  else
    return parsed.toUInt32

end HydraSeat.Materialization
