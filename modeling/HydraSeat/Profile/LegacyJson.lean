import HydraSeat.Profile.ProfileCodec

/-!
# The legacy workspace document

The migration has a JSON parser of its own, which reads the steps of the
strict parser but for three things: it does not count values, it checks every
string for UTF-8, and it knows one bound for the nesting.
-/

namespace HydraSeat.Profile.Migration

open Foundation Foundation.Descent Json
open Json (bracketed)

inductive ProfileMigrationResult where
  | success | invalidArgument | sourceReadError | sourceTooLarge | legacyParseError
  | legacyValidationError | reportBoundsExceeded | destinationConflict | stagingError | writeError
  | stagedValidationError | commitError | rollbackError | committedValidationError
  deriving DecidableEq

structure MigrationException where
  result : ProfileMigrationResult
  message : ByteString

abbrev Attempt := Except MigrationException

def fail {α : Type} (result : ProfileMigrationResult) (message : ByteString) : Attempt α :=
  .error ⟨result, message⟩

/-- The lead byte of a sequence: its bits of the code point, how many bytes
follow, and the least code point for so many. -/
def leading? (first : UInt8) : Option (UInt32 × Nat × UInt32) :=
  if first ≤ 0x7F then some (first.toUInt32, 0, 0)
  else if first &&& 0xE0 = 0xC0 then some ((first &&& 0x1F).toUInt32, 1, 0x80)
  else if first &&& 0xF0 = 0xE0 then some ((first &&& 0x0F).toUInt32, 2, 0x800)
  else if first &&& 0xF8 = 0xF0 then some ((first &&& 0x07).toUInt32, 3, 0x10000)
  else none

def pushBits (codePoint : UInt32) (current : UInt8) : UInt32 :=
  (codePoint <<< 6) ||| (current &&& 0x3F).toUInt32

/-- The loop of `validUtf8`.  Every sequence takes at least one byte, so the
length is fuel enough. -/
def validUtf8Loop : Nat → ByteString → Bool
  | _, [] => true
  | 0, _ :: _ => false
  | fuel + 1, first :: rest =>
    match leading? first with
    | none => false
    | some (start, continuation, minimum) =>
      if rest.length < continuation then false
      else if (rest.take continuation).any fun current => current &&& 0xC0 != 0x80 then false
      else
        let codePoint := (rest.take continuation).foldl pushBits start
        if codePoint < minimum ∨ codePoint > 0x10FFFF ∨
            (0xD800 ≤ codePoint ∧ codePoint ≤ 0xDFFF) then
          false
        else validUtf8Loop fuel (rest.drop continuation)

def validUtf8 (input : ByteString) : Bool := validUtf8Loop input.length input

/-- The lead byte in `fromUtf8`, which is given valid UTF-8 only. -/
def leading (first : UInt8) : UInt32 × Nat :=
  if first ≤ 0x7F then (first.toUInt32, 0)
  else if first &&& 0xE0 = 0xC0 then ((first &&& 0x1F).toUInt32, 1)
  else if first &&& 0xF0 = 0xE0 then ((first &&& 0x0F).toUInt32, 2)
  else ((first &&& 0x07).toUInt32, 3)

/-- The loop of `fromUtf8`.  Past the end of the string the source has no
defined behaviour; no valid string takes it there. -/
def fromUtf8Loop : Nat → ByteString → WideString
  | _, [] => []
  | 0, _ :: _ => []
  | fuel + 1, first :: rest =>
    let (start, continuation) := leading first
    let codePoint := (rest.take continuation).foldl pushBits start
    utf16Units codePoint ++ fromUtf8Loop fuel (rest.drop continuation)

def fromUtf8 (input : ByteString) : WideString := fromUtf8Loop input.length input

namespace JsonParser

open Json (Parser)
open Json.Parser

variable (text : ByteString)

def parseString : Parser ByteString := do
  let output ← Parser.parseString text
  if validUtf8 output then
    return output
  else refuse "invalid UTF-8 string"

/-- The key of a member, with its colon. -/
def memberKey : Parser ByteString := do
  skip text
  if ← looksAt text (· == 0x22) then
    let key ← parseString text
    skip text
    expect text 0x3A
    return key
  else refuse "object key expected"

/-- The loop over the members of an object, behind the test for an empty
one. -/
def membersLoop (parseValue : Parser Value) : Nat → Value.Object → Parser Value.Object
  | 0, _ => exhaust
  | fuel + 1, object => do
      let key ← memberKey text
      let value ← parseValue
      match object.emplace key value with
      | none => refuse "duplicate object key"
      | some object =>
        skip text
        if ← consume text 0x7D then
          return object
        else
          expect text 0x2C
          membersLoop parseValue fuel object

def parseObject (parseValue : Parser Value) : Parser Value := do
  advance 1
  skip text
  if ← consume text 0x7D then
    return .object []
  else
    return .object (← membersLoop text parseValue (text.length + 1) [])

/-- The value of `parseValue` that starts with a byte. -/
def valueStartingWith (inner : Parser Value) (current : UInt8) : Parser Value := do
  if current = 0x22 then
    return .string (← parseString text)
  else if current = 0x7B then parseObject text inner
  else if current = 0x5B then parseArray text inner
  else if ← startsWith text "true" then
    literal text "true"
    return .bool true
  else if ← startsWith text "false" then
    literal text "false"
    return .bool false
  else if ← startsWith text "null" then
    literal text "null"
    return .null
  else if current = 0x2D ∨ isdigit current then
    return .number (← parseNumber text)
  else refuse "invalid value"

def parseValue : Nat → Nat → Parser Value
  | 0, _ => exhaust
  | fuel + 1, depth => do
      if depth > 48 then refuse "nesting too deep"
      else
        skip text
        if ← atEnd text then refuse "value expected"
        else
          let cursor ← here
          let current ← byteAt text cursor.position
          valueStartingWith text (parseValue fuel (depth + 1)) current

/-- `parse`.  A text is nested at most as deep as it is long, so its length
is fuel enough. -/
def document : Parser Value := do
  skip text
  let result ← parseValue text (text.length + 1) 0
  skip text
  if ← atEnd text then
    return result
  else refuse "trailing content"

end JsonParser

/-- `JsonParser(text).parse()`. -/
def parseLegacy (text : ByteString) : Attempt Value :=
  match JsonParser.document text ⟨0, 0⟩ with
  | .ok (value, _) => .ok value
  | .error failure => fail .legacyParseError (parserMessage failure)

def asObject (value : Value) (field : String) : Attempt Value.Object :=
  match value with
  | .object object => .ok object
  | _ => fail .legacyValidationError (bytesOf field ++ " must be an object")

def asArray (value : Value) (field : String) : Attempt (List Value) :=
  match value with
  | .array array => .ok array
  | _ => fail .legacyValidationError (bytesOf field ++ " must be an array")

def asString (value : Value) (field : String) : Attempt ByteString :=
  match value with
  | .string text => .ok text
  | _ => fail .legacyValidationError (bytesOf field ++ " must be a string")

def asBool (value : Value) (field : String) : Attempt Bool :=
  match value with
  | .bool boolean => .ok boolean
  | _ => fail .legacyValidationError (bytesOf field ++ " must be a boolean")

def asUnsigned (value : Value) (field : String) : Attempt UInt64 :=
  match unsignedText? value with
  | none => fail .legacyValidationError (bytesOf field ++ " must be an unsigned integer")
  | some text =>
    match fromChars text with
    | none => fail .legacyValidationError (bytesOf field ++ " integer is out of range")
    | some result => .ok result

def required (object : Value.Object) (key : String) : Attempt Value :=
  match object.lookup (bytesOf key) with
  | none => fail .legacyValidationError ("missing legacy field: " ++ bytesOf key)
  | some value => .ok value

mutual

def canonicalJson : Value → ByteString
  | .null => "null"
  | .bool boolean => if boolean then "true" else "false"
  | .number number => number.text
  | .string text => quote text
  | .array items => bracketed (canonicalItems items)
  | .object entries => "\x7b" ++ Writing.commas (canonicalEntries entries) ++ "\x7d"

def canonicalItems : List Value → List ByteString
  | [] => []
  | item :: rest => canonicalJson item :: canonicalItems rest

def canonicalEntries : List (ByteString × Value) → List ByteString
  | [] => []
  | entry :: rest => canonicalEntry entry :: canonicalEntries rest

def canonicalEntry : ByteString × Value → ByteString
  | (key, value) => quote key ++ ":" ++ canonicalJson value

end

end HydraSeat.Profile.Migration
