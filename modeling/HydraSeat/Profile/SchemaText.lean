import HydraSeat.Json.Fields
import HydraSeat.Unicode

/-!
# The texts of profile documents

Diagnostics of the profile schema, its two conversions between wide strings
and UTF-8, and the readers of JSON values.  An exception of the source is an
error here.
-/

namespace HydraSeat.Profile

open Json

inductive SchemaResult where
  | success | parseError | documentTooLarge | unsupportedVersion | unknownField | missingField
  | wrongType | invalidValue | boundsExceeded | duplicateId | runtimeOnlyStatePresent
  | crossReferenceError
  deriving DecidableEq

structure SchemaDiagnostic where
  result : SchemaResult := .success
  message : ByteString := []
  deriving DecidableEq

abbrev Schema := Except SchemaDiagnostic

/-- A diagnostic that is returned, or an exception that is thrown. -/
def fail {α : Type} (result : SchemaResult) (message : ByteString) : Schema α :=
  .error ⟨result, message⟩

/-- The lead byte of a sequence: its bits of the code point, how many bytes
follow, and the least code point for so many. -/
def leadingByte (first : UInt8) : Schema (UInt32 × Nat × UInt32) :=
  if first ≤ 0x7F then .ok (first.toUInt32, 0, 0)
  else if first &&& 0xE0 = 0xC0 then .ok ((first &&& 0x1F).toUInt32, 1, 0x80)
  else if first &&& 0xF0 = 0xE0 then .ok ((first &&& 0x0F).toUInt32, 2, 0x800)
  else if first &&& 0xF8 = 0xF0 then .ok ((first &&& 0x07).toUInt32, 3, 0x10000)
  else fail .invalidValue "invalid UTF-8 leading byte"

def continuationBytes : Nat → UInt32 → ByteString → Schema (UInt32 × ByteString)
  | 0, codePoint, rest => .ok (codePoint, rest)
  | _ + 1, _, [] => fail .invalidValue "truncated UTF-8 sequence"
  | count + 1, codePoint, current :: rest =>
    if current &&& 0xC0 ≠ 0x80 then fail .invalidValue "invalid UTF-8 continuation byte"
    else continuationBytes count ((codePoint <<< 6) ||| (current &&& 0x3F).toUInt32) rest

/-- One turn of the loop of `fromUtf8`: the code point and the bytes behind
its sequence. -/
def readCodePoint (first : UInt8) (rest : ByteString) : Schema (UInt32 × ByteString) := do
  let (start, continuation, minimum) ← leadingByte first
  if rest.length < continuation then fail .invalidValue "truncated UTF-8 sequence"
  else
    let (codePoint, rest) ← continuationBytes continuation start rest
    if codePoint < minimum ∨ codePoint > 0x10FFFF ∨ (0xD800 ≤ codePoint ∧ codePoint ≤ 0xDFFF) then
      fail .invalidValue "invalid UTF-8 code point"
    else
      return (codePoint, rest)

/-- The loop of `fromUtf8`.  Every sequence takes at least one byte, so the
length is fuel enough. -/
def fromUtf8Loop : Nat → ByteString → Schema WideString
  | _, [] => .ok []
  | 0, _ :: _ => fail .invalidValue "truncated UTF-8 sequence"
  | fuel + 1, first :: rest => do
      let (codePoint, rest) ← readCodePoint first rest
      let output ← fromUtf8Loop fuel rest
      return utf16Units codePoint ++ output

def fromUtf8 (input : ByteString) : Schema WideString := fromUtf8Loop input.length input

def toUtf8 : WideString → Schema ByteString
  | [] => .ok []
  | unit :: rest =>
    if 0xD800 ≤ unit ∧ unit ≤ 0xDBFF then
      match rest with
      | [] => fail .invalidValue "unpaired UTF-16 high surrogate"
      | low :: tail =>
        if low < 0xDC00 ∨ low > 0xDFFF then fail .invalidValue "invalid UTF-16 surrogate pair"
        else do
          let output ← toUtf8 tail
          return Parser.appendUtf8 []
            ((0x10000 : UInt32) + ((unit - 0xD800).toUInt32 <<< 10) +
              (low - 0xDC00).toUInt32) ++ output
    else if 0xDC00 ≤ unit ∧ unit ≤ 0xDFFF then fail .invalidValue "unpaired UTF-16 low surrogate"
    else do
      let output ← toUtf8 rest
      return Parser.appendUtf8 [] unit.toUInt32 ++ output

def quoteUtf8 (text : ByteString) : ByteString := quote text

def quoteWide (text : WideString) : Schema ByteString := do
  return quoteUtf8 (← toUtf8 text)

def writeWideArray (values : List WideString) : Schema ByteString := do
  return bracketed (← values.mapM quoteWide)

def writeOptionalWide : Option WideString → Schema ByteString
  | some value => quoteWide value
  | none => return "null"

def writeOptionalString : Option ByteString → ByteString
  | some value => quoteUtf8 value
  | none => "null"

/-- `error.what()` of the parser. -/
def parserMessage : Foundation.Failure → ByteString
  | .refused message position => bytesOf message ++ " at byte " ++ decimal position
  | .pastEnd | .exhausted => []

def parseJson (text : ByteString) : Schema Value :=
  match parse text ⟨48, 32768⟩ with
  | .ok value => .ok value
  | .error failure => fail .parseError (parserMessage failure)

def asObject (value : Value) (field : String) : Schema Value.Object :=
  match value with
  | .object object => .ok object
  | _ => fail .wrongType (bytesOf field ++ " must be an object")

def asArray (value : Value) (field : String) : Schema (List Value) :=
  match value with
  | .array array => .ok array
  | _ => fail .wrongType (bytesOf field ++ " must be an array")

def asString (value : Value) (field : String) : Schema ByteString :=
  match value with
  | .string text => .ok text
  | _ => fail .wrongType (bytesOf field ++ " must be a string")

def asBool (value : Value) (field : String) : Schema Bool :=
  match value with
  | .bool boolean => .ok boolean
  | _ => fail .wrongType (bytesOf field ++ " must be a boolean")

/-- The text of an integer without a sign. -/
def unsignedText? : Value → Option ByteString
  | .number number =>
    if number.text.isEmpty || number.text.head? == some 45 then none
    else some number.text
  | _ => none

def asUnsigned (value : Value) (field : String) : Schema UInt64 :=
  match unsignedText? value with
  | none => fail .wrongType (bytesOf field ++ " must be an unsigned integer")
  | some text =>
    match fromChars text with
    | none => fail .invalidValue (bytesOf field ++ " integer is out of range")
    | some result => .ok result

def asU32 (value : Value) (field : String) : Schema UInt32 := do
  let raw ← asUnsigned value field
  if raw > 0xFFFFFFFF then fail .invalidValue (bytesOf field ++ " exceeds uint32 range")
  else
    return raw.toUInt32

def required (object : Value.Object) (key : String) : Schema Value :=
  match object.lookup (bytesOf key) with
  | none => fail .missingField ("missing field: " ++ bytesOf key)
  | some value => .ok value

/-- `exactFields`, which no caller gives optional fields. -/
def exactFields (object : Value.Object) (requiredFields : List String) : Schema Unit :=
  match
    requiredFields.find? fun key => (object.lookup (bytesOf key)).isNone
  with
  | some key => fail .missingField ("missing field: " ++ bytesOf key)
  | none =>
    match
      object.find? fun entry => !(requiredFields.map bytesOf).contains entry.1
    with
    | some entry => fail .unknownField ("unknown field: " ++ entry.1)
    | none => .ok ()

def readWideArray (value : Value) (field : String) : Schema (List WideString) := do
  let array ← asArray value field
  array.mapM fun item => do fromUtf8 (← asString item field)

def readOptionalWide (value : Value) (field : String) : Schema (Option WideString) :=
  match value with
  | .null => .ok none
  | value => do return some (← fromUtf8 (← asString value field))

def readOptionalString (value : Value) (field : String) : Schema (Option ByteString) :=
  match value with
  | .null => .ok none
  | value => do return some (← asString value field)

end HydraSeat.Profile
