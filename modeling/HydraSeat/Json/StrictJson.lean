import HydraSeat.Foundation.Descent
import HydraSeat.Strings

/-!
# The strict JSON parser

`json::parse` reads a document by recursive descent.  Every read of the text
goes through `byteAt`, which fails at a position past the end; the recursions
take fuel.  The tally of the cursor is `nodeCount_`.
-/

namespace HydraSeat.Json

open Foundation Foundation.Descent

structure Number where
  text : ByteString

/-- The object of a value is a `std::map`: its entries are sorted by key. -/
inductive Value where
  | null
  | bool (value : Bool)
  | number (value : Number)
  | string (value : ByteString)
  | array (value : List Value)
  | object (value : List (ByteString × Value))

abbrev Value.Object := List (ByteString × Value)

/-- `std::map::emplace`, absent when the key is present already. -/
def Value.Object.emplace : Value.Object → ByteString → Value → Option Value.Object
  | [], key, value => some [(key, value)]
  | entry :: entries, key, value =>
    if key < entry.1 then some ((key, value) :: entry :: entries)
    else if entry.1 < key then (emplace entries key value).map (entry :: ·)
    else none

structure ParseOptions where
  maximumDepth : UInt32 := 48
  maximumNodes : UInt64 := 65536

abbrev Parser := Descent Nat

/-- `std::isspace` in the "C" locale. -/
def isspace (byte : UInt8) : Bool := byte == 0x20 || 0x09 ≤ byte && byte ≤ 0x0D

/-- `std::isdigit`. -/
def isdigit (byte : UInt8) : Bool := 0x30 ≤ byte && byte ≤ 0x39

namespace Parser

variable (text : ByteString)

def skip : Parser Unit := advanceWhile text isspace (text.length + 1)

def consume (expected : UInt8) : Parser Bool := do
  if ← looksAt text (· == expected) then
    advance 1
    return true
  else
    return false

def expect (expected : UInt8) : Parser Unit := do
  if ← consume text expected then
    return ()
  else refuse "unexpected character"

/-- The text at the position starts with the bytes. -/
def startsWith (expected : ByteString) : Parser Bool := do
  let cursor ← here
  return (text.drop cursor.position).take expected.length == expected

def literal (expected : ByteString) : Parser Unit := do
  if ← startsWith text expected then advance expected.length
  else refuse "invalid literal"

def hexValue? (ch : UInt8) : Option UInt32 :=
  if 0x30 ≤ ch ∧ ch ≤ 0x39 then some (ch - 0x30).toUInt32
  else if 0x61 ≤ ch ∧ ch ≤ 0x66 then some (ch - 0x61 + 10).toUInt32
  else if 0x41 ≤ ch ∧ ch ≤ 0x46 then some (ch - 0x41 + 10).toUInt32
  else none

/-- The loop of `hex4`, with the digits that are still missing. -/
def hexDigits : Nat → UInt32 → Parser UInt32
  | 0, value => return value
  | missing + 1, value => do
      if ← atEnd text then refuse "truncated unicode escape"
      else
        let ch ← nextByte text
        match hexValue? ch with
        | some digit => hexDigits missing ((value <<< 4) + digit)
        | none => refuse "invalid unicode escape"

def hex4 : Parser UInt32 := hexDigits text 4 0

def appendUtf8 (output : ByteString) (codePoint : UInt32) : ByteString :=
  if codePoint ≤ 0x7F then output ++ [codePoint.toUInt8]
  else if codePoint ≤ 0x7FF then
    output ++
      [((0xC0 : UInt32) ||| (codePoint >>> 6)).toUInt8,
        ((0x80 : UInt32) ||| (codePoint &&& 0x3F)).toUInt8]
  else if codePoint ≤ 0xFFFF then
    output ++
      [((0xE0 : UInt32) ||| (codePoint >>> 12)).toUInt8,
        ((0x80 : UInt32) ||| ((codePoint >>> 6) &&& 0x3F)).toUInt8,
        ((0x80 : UInt32) ||| (codePoint &&& 0x3F)).toUInt8]
  else
    output ++
      [((0xF0 : UInt32) ||| (codePoint >>> 18)).toUInt8,
        ((0x80 : UInt32) ||| ((codePoint >>> 12) &&& 0x3F)).toUInt8,
        ((0x80 : UInt32) ||| ((codePoint >>> 6) &&& 0x3F)).toUInt8,
        ((0x80 : UInt32) ||| (codePoint &&& 0x3F)).toUInt8]

/-- The bytes at the position do not start another unicode escape.  The two
bytes are read only when the text is long enough. -/
def missingEscape : Parser Bool := do
  let cursor ← here
  if text.length < cursor.position + 2 then
    return true
  else
    let backslash ← byteAt text cursor.position
    if backslash ≠ 0x5C then
      return true
    else
      let letter ← byteAt text (cursor.position + 1)
      return letter != 0x75

/-- The escape `\u` of `parseString`. -/
def unicodeEscape : Parser UInt32 := do
  let codePoint ← hex4 text
  if 0xD800 ≤ codePoint ∧ codePoint ≤ 0xDBFF then
    if ← missingEscape text then refuse "missing low surrogate"
    else
      advance 2
      let low ← hex4 text
      if low < 0xDC00 ∨ 0xDFFF < low then refuse "invalid low surrogate"
      else
        return (0x10000 : UInt32) + ((codePoint - 0xD800) <<< 10) + (low - 0xDC00)
  else if 0xDC00 ≤ codePoint ∧ codePoint ≤ 0xDFFF then refuse "unexpected low surrogate"
  else
    return codePoint

/-- The escapes of `parseString` that stand for one byte. -/
def escapedByte? (escape : UInt8) : Option UInt8 :=
  if escape = 0x22 then some 0x22
  else if escape = 0x5C then some 0x5C
  else if escape = 0x2F then some 0x2F
  else if escape = 0x62 then some 0x08
  else if escape = 0x66 then some 0x0C
  else if escape = 0x6E then some 0x0A
  else if escape = 0x72 then some 0x0D
  else if escape = 0x74 then some 0x09
  else none

/-- The loop of `parseString`. -/
def characters : Nat → ByteString → Parser ByteString
  | 0, _ => exhaust
  | fuel + 1, output => do
      if ← atEnd text then refuse "unterminated string"
      else
        let raw ← nextByte text
        if raw = 0x22 then
          return output
        else if raw < 0x20 then refuse "control character in string"
        else if raw ≠ 0x5C then characters fuel (output ++ [raw])
        else if ← atEnd text then refuse "truncated escape"
        else
          let escape ← nextByte text
          match escapedByte? escape with
          | some byte => characters fuel (output ++ [byte])
          | none =>
            if escape = 0x75 then
              let codePoint ← unicodeEscape text
              characters fuel (appendUtf8 output codePoint)
            else refuse "invalid escape"

def parseString : Parser ByteString := do
  expect text 0x22
  characters text (text.length + 1) []

/-- The digits of `parseNumber` behind the sign. -/
def magnitude : Parser Unit := do
  if ← consume text 0x30 then
    if ← looksAt text isdigit then refuse "leading zero"
    else
      return ()
  else if ← looksAt text fun byte => 0x31 ≤ byte && byte ≤ 0x39 then
    advanceWhile text isdigit (text.length + 1)
  else refuse "invalid number"

/-- The end of `parseNumber`, which started at a position. -/
def numberEnd (start : Nat) : Parser Number := do
  if ← looksAt text fun byte =>
      byte == 0x2E || byte == 0x65 || byte == 0x45 then
    refuse "integer expected"
  else
    let stop ← here
    return ⟨(text.drop start).take (stop.position - start)⟩

def parseNumber : Parser Number := do
  let start ← here
  let _ ← consume text 0x2D
  magnitude text
  numberEnd text start.position

/-- The key of a member, with its colon. -/
def memberKey : Parser ByteString := do
  skip text
  if ← looksAt text (· == 0x22) then
    let key ← parseString text
    skip text
    expect text 0x3A
    return key
  else refuse "object key expected"

/-- The loop over the members of an object, behind the test for an empty
one. -/
def membersLoop (parseValue : Parser Value) : Nat → Value.Object → Parser Value.Object
  | 0, _ => exhaust
  | fuel + 1, object => do
      let key ← memberKey text
      let value ← parseValue
      match object.emplace key value with
      | none => refuse "duplicate object key"
      | some object =>
        skip text
        if ← consume text 0x7D then
          return object
        else
          expect text 0x2C
          membersLoop parseValue fuel object

/-- The loop over the items of an array. -/
def itemsLoop (parseValue : Parser Value) : Nat → List Value → Parser (List Value)
  | 0, _ => exhaust
  | fuel + 1, array => do
      let value ← parseValue
      skip text
      if ← consume text 0x5D then
        return array ++ [value]
      else
        expect text 0x2C
        itemsLoop parseValue fuel (array ++ [value])

def parseObject (parseValue : Parser Value) : Parser Value := do
  advance 1
  skip text
  if ← consume text 0x7D then
    return .object []
  else
    return .object (← membersLoop text parseValue (text.length + 1) [])

def parseArray (parseValue : Parser Value) : Parser Value := do
  advance 1
  skip text
  if ← consume text 0x5D then
    return .array []
  else
    return .array (← itemsLoop text parseValue (text.length + 1) [])

/-- Count one node of `parseValue`. -/
def countNode : Parser Unit := fun cursor => .ok ((), { cursor with tally := cursor.tally + 1 })

/-- The value of `parseValue` that starts with a byte. -/
def valueStartingWith (inner : Parser Value) (current : UInt8) : Parser Value := do
  if current = 0x22 then
    return .string (← parseString text)
  else if current = 0x7B then parseObject text inner
  else if current = 0x5B then parseArray text inner
  else if ← startsWith text "true" then
    literal text "true"
    return .bool true
  else if ← startsWith text "false" then
    literal text "false"
    return .bool false
  else if ← startsWith text "null" then
    literal text "null"
    return .null
  else if current = 0x2D ∨ isdigit current then
    return .number (← parseNumber text)
  else refuse "invalid value"

/-- `parseValue` behind its budgets and the whitespace. -/
def scalarOrContainer (inner : Parser Value) : Parser Value := do
  if ← atEnd text then refuse "value expected"
  else
    let cursor ← here
    let current ← byteAt text cursor.position
    valueStartingWith text inner current

def parseValue (options : ParseOptions) : Nat → UInt32 → Parser Value
  | 0, _ => exhaust
  | fuel + 1, depth => do
      if options.maximumDepth < depth then refuse "nesting too deep"
      else
        let cursor ← here
        if options.maximumNodes.toNat ≤ cursor.tally then refuse "JSON node count exceeds limit"
        else
          countNode
          skip text
          scalarOrContainer text (parseValue options fuel (depth + 1))

def document (options : ParseOptions) : Parser Value := do
  skip text
  let value ← parseValue text options (text.length + 1) 0
  skip text
  if ← atEnd text then
    return value
  else refuse "trailing content"

end Parser

/-- A text is nested at most as deep as it is long, so its length is fuel
enough. -/
def parse (text : ByteString) (options : ParseOptions) : Except Failure Value :=
  match Parser.document text options ⟨0, 0⟩ with
  | .ok (value, _) => .ok value
  | .error failure => .error failure

end HydraSeat.Json
