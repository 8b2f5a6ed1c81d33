import Mathlib.Data.List.Infix

/-!
# The grammar of JSON over bytes

RFC 8259 with integers for numbers and distinct keys in each object.  A
production relates a text that starts with its spelling to the value that is
spelled and to the rest of the text.  The bytes from 128 on stand for
themselves.

A dialect says which bytes are whitespace and what an escaped surrogate
without its partner stands for.  What the values are is a parameter: a
interpretation gives one for each form.  Productions also count: the depth of
the deepest value below theirs, and the number of their values.
-/

namespace HydraSeat.Json

universe u

structure Dialect where
  space : UInt8 → Bool
  unpaired : Option (List UInt8)

structure Interpretation (Value : Type u) where
  null : Value
  bool : Bool → Value
  (number string : List UInt8 → Value)
  array : List Value → Value
  object : List (List UInt8 × Value) → Value

/-- Bytes that all satisfy a test, in front of the rest. -/
inductive Run (accepts : UInt8 → Bool) : List UInt8 → List UInt8 → Prop
  | nil {rest : List UInt8} : Run accepts rest rest
  | cons {byte : UInt8} {tail rest : List UInt8}
      (accepted : accepts byte = true) (more : Run accepts tail rest) :
      Run accepts (byte :: tail) rest

def isDigit (byte : UInt8) : Bool := 0x30 ≤ byte && byte ≤ 0x39

inductive Natural : List UInt8 → List UInt8 → Prop
  | zero {rest : List UInt8} : Natural (0x30 :: rest) rest
  | positive {first : UInt8} {tail rest : List UInt8} (nonzero : 0x31 ≤ first ∧ first ≤ 0x39)
      (digits : Run isDigit tail rest) : Natural (first :: tail) rest

inductive Integer : List UInt8 → List UInt8 → Prop
  | plain {text rest : List UInt8} (natural : Natural text rest) : Integer text rest
  | negative {text rest : List UInt8} (natural : Natural text rest) : Integer (0x2D :: text) rest

def hexDigit? (byte : UInt8) : Option Nat :=
  if 0x30 ≤ byte ∧ byte ≤ 0x39 then some (byte.toNat - 0x30)
  else if 0x61 ≤ byte ∧ byte ≤ 0x66 then some (byte.toNat - 0x61 + 10)
  else if 0x41 ≤ byte ∧ byte ≤ 0x46 then some (byte.toNat - 0x41 + 10)
  else none

/-- Hexadecimal digits behind a value, most significant first. -/
inductive HexDigits : Nat → Nat → List UInt8 → Nat → List UInt8 → Prop
  | done {value : Nat} {rest : List UInt8} : HexDigits 0 value rest value rest
  | digit {missing value digit final : Nat} {byte : UInt8}
      {tail rest : List UInt8} (isDigit : hexDigit? byte = some digit)
      (others : HexDigits missing (value * 16 + digit) tail final rest) :
      HexDigits (missing + 1) value (byte :: tail) final rest

abbrev Hex4 (text : List UInt8) (unit : Nat) (rest : List UInt8) : Prop :=
  HexDigits 4 0 text unit rest

def shortEscape? (letter : UInt8) : Option UInt8 :=
  if letter = 0x22 then some 0x22
  else if letter = 0x5C then some 0x5C
  else if letter = 0x2F then some 0x2F
  else if letter = 0x62 then some 0x08
  else if letter = 0x66 then some 0x0C
  else if letter = 0x6E then some 0x0A
  else if letter = 0x72 then some 0x0D
  else if letter = 0x74 then some 0x09
  else none

def utf8 (codePoint : Nat) : List UInt8 := String.utf8EncodeChar (Char.ofNat codePoint)

def isHighSurrogate (unit : Nat) : Prop := 0xD800 ≤ unit ∧ unit ≤ 0xDBFF

def isLowSurrogate (unit : Nat) : Prop := 0xDC00 ≤ unit ∧ unit ≤ 0xDFFF

/-- The code point of a surrogate pair. -/
def pairedCodePoint (high low : Nat) : Nat := 0x10000 + (high - 0xD800) * 0x400 + (low - 0xDC00)

/-- One character of a string, and the bytes that it stands for. -/
inductive Piece (dialect : Dialect) : List UInt8 → List UInt8 → List UInt8 → Prop
  | unescaped {byte : UInt8} {rest : List UInt8} (printable : 0x20 ≤ byte) (notQuote : byte ≠ 0x22)
      (notBackslash : byte ≠ 0x5C) :
      Piece dialect (byte :: rest) [byte] rest
  | short {letter byte : UInt8} {rest : List UInt8} (escaped : shortEscape? letter = some byte) :
      Piece dialect (0x5C :: letter :: rest) [byte] rest
  | codePoint {text rest : List UInt8} {unit : Nat} (hex : Hex4 text unit rest)
      (scalar : ¬ isHighSurrogate unit ∧ ¬ isLowSurrogate unit) :
      Piece dialect (0x5C :: 0x75 :: text) (utf8 unit) rest
  | pair {text middle rest : List UInt8} {high low : Nat}
      (first : Hex4 text high (0x5C :: 0x75 :: middle))
      (isHigh : isHighSurrogate high) (second : Hex4 middle low rest)
      (isLow : isLowSurrogate low) :
      Piece dialect (0x5C :: 0x75 :: text) (utf8 (pairedCodePoint high low)) rest
  | unpaired {text rest decoded : List UInt8} {unit : Nat} (hex : Hex4 text unit rest)
      (surrogate : isHighSurrogate unit ∨ isLowSurrogate unit)
      (stands : dialect.unpaired = some decoded) :
      Piece dialect (0x5C :: 0x75 :: text) decoded rest

/-- The characters of a string up to its closing quotation mark. -/
inductive Chars (dialect : Dialect) : List UInt8 → List UInt8 → List UInt8 → Prop
  | close {rest : List UInt8} : Chars dialect (0x22 :: rest) [] rest
  | piece {text front middle back rest : List UInt8} (first : Piece dialect text front middle)
      (others : Chars dialect middle back rest) :
      Chars dialect text (front ++ back) rest

inductive Production where
  | value | elements | members

/-- What a production spells: a value, the items of an array or the members
of an object. -/
abbrev Production.Meaning (Value : Type u) : Production → Type u
  | .value => Value
  | .elements => List Value
  | .members => List (List UInt8 × Value)

def nullLiteral : List UInt8 := [0x6E, 0x75, 0x6C, 0x6C]

def trueLiteral : List UInt8 := [0x74, 0x72, 0x75, 0x65]

def falseLiteral : List UInt8 := [0x66, 0x61, 0x6C, 0x73, 0x65]

inductive Spells {Value : Type u} (dialect : Dialect) (interpretation : Interpretation Value) :
    (production : Production) → List UInt8 → production.Meaning Value →
      Nat → Nat → List UInt8 → Prop
  | null {rest : List UInt8} :
      Spells dialect interpretation .value (nullLiteral ++ rest) interpretation.null 0 1 rest
  | true_ {rest : List UInt8} :
      Spells dialect interpretation .value (trueLiteral ++ rest) (interpretation.bool true) 0 1 rest
  | false_ {rest : List UInt8} :
      Spells dialect interpretation .value (falseLiteral ++ rest)
        (interpretation.bool false) 0 1 rest
  | number {spelling rest : List UInt8} (integer : Integer (spelling ++ rest) rest) :
      Spells dialect interpretation .value (spelling ++ rest)
        (interpretation.number spelling) 0 1 rest
  | string {text decoded rest : List UInt8} (chars : Chars dialect text decoded rest) :
      Spells dialect interpretation .value (0x22 :: text) (interpretation.string decoded) 0 1 rest
  | emptyArray {text rest : List UInt8} (blank : Run dialect.space text (0x5D :: rest)) :
      Spells dialect interpretation .value (0x5B :: text) (interpretation.array []) 0 1 rest
  | array {text start rest : List UInt8} {items : List Value}
      {depth nodes : Nat} (blank : Run dialect.space text start)
      (elements : Spells dialect interpretation .elements start items depth nodes rest) :
      Spells dialect interpretation .value (0x5B :: text)
        (interpretation.array items) (depth + 1) (nodes + 1) rest
  | emptyObject {text rest : List UInt8} (blank : Run dialect.space text (0x7D :: rest)) :
      Spells dialect interpretation .value (0x7B :: text) (interpretation.object []) 0 1 rest
  | object {text start rest : List UInt8} {fields : List (List UInt8 × Value)} {depth nodes : Nat}
      (blank : Run dialect.space text start)
      (members : Spells dialect interpretation .members start fields depth nodes rest)
      (distinct : (fields.map Prod.fst).Nodup) :
      Spells dialect interpretation .value (0x7B :: text)
        (interpretation.object fields) (depth + 1) (nodes + 1) rest
  | lastElement {text after rest : List UInt8} {item : Value} {depth nodes : Nat}
      (value : Spells dialect interpretation .value text item depth nodes after)
      (close : Run dialect.space after (0x5D :: rest)) :
      Spells dialect interpretation .elements text [item] depth nodes rest
  | element {text after next start rest : List UInt8} {item : Value}
      {items : List Value} {depth depths nodes others : Nat}
      (value : Spells dialect interpretation .value text item depth nodes after)
      (comma : Run dialect.space after (0x2C :: next))
      (blank : Run dialect.space next start)
      (elements : Spells dialect interpretation .elements start items depths others rest) :
      Spells dialect interpretation .elements text (item :: items)
        (max depth depths) (nodes + others) rest
  | lastMember {key afterKey name start after rest : List UInt8}
      {decoded : List UInt8} {item : Value} {depth nodes : Nat}
      (chars : Chars dialect key decoded afterKey)
      (colon : Run dialect.space afterKey (0x3A :: name))
      (blank : Run dialect.space name start)
      (value : Spells dialect interpretation .value start item depth nodes after)
      (close : Run dialect.space after (0x7D :: rest)) :
      Spells dialect interpretation .members (0x22 :: key) [(decoded, item)] depth nodes rest
  | member {key afterKey name start after next following rest : List UInt8}
      {decoded : List UInt8} {item : Value}
      {fields : List (List UInt8 × Value)}
      {depth depths nodes others : Nat}
      (chars : Chars dialect key decoded afterKey)
      (colon : Run dialect.space afterKey (0x3A :: name))
      (blank : Run dialect.space name start)
      (value : Spells dialect interpretation .value start item depth nodes after)
      (comma : Run dialect.space after (0x2C :: next))
      (behind : Run dialect.space next following)
      (members : Spells dialect interpretation .members following fields depths others rest) :
      Spells dialect interpretation .members (0x22 :: key)
        ((decoded, item) :: fields) (max depth depths) (nodes + others)
        rest

/-- A whole text is one value with whitespace around it. -/
inductive Document {Value : Type u} (dialect : Dialect)
    (interpretation : Interpretation Value) (text : List UInt8) (value : Value)
    (depth nodes : Nat) : Prop
  | intro {start after : List UInt8} (before : Run dialect.space text start)
      (spells : Spells dialect interpretation .value start value depth nodes after)
      (behind : Run dialect.space after []) :
      Document dialect interpretation text value depth nodes

end HydraSeat.Json
