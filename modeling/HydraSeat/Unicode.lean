import HydraSeat.Strings

/-!
# UTF-8 and UTF-16

The two conversions of the Win32 API that the host uses, with the flags that
refuse ill-formed text.  `sequence?` reads one UTF-8 sequence; the validator
of the host protocol makes the same tests.
-/

namespace HydraSeat

/-- The number of bytes that follow a lead byte, and the bits of the code
point that the lead byte holds. -/
def leadByte? (lead : UInt8) : Option (Nat × UInt32) :=
  if lead ≤ 0x7F then some (0, lead.toUInt32)
  else if 0xC2 ≤ lead ∧ lead ≤ 0xDF then some (1, (lead &&& 0x1F).toUInt32)
  else if 0xE0 ≤ lead ∧ lead ≤ 0xEF then some (2, (lead &&& 0x0F).toUInt32)
  else if 0xF0 ≤ lead ∧ lead ≤ 0xF4 then some (3, (lead &&& 0x07).toUInt32)
  else none

/-- A code point too small for the bytes it takes, a surrogate, or a number
above the last code point. -/
def badCodePoint (continuationCount : Nat) (codePoint : UInt32) : Bool :=
  (continuationCount == 1 && codePoint < 0x80) || (continuationCount == 2 && codePoint < 0x800) ||
    (continuationCount == 3 && codePoint < 0x10000) ||
    (0xD800 ≤ codePoint && codePoint ≤ 0xDFFF) ||
    codePoint > 0x10FFFF

/-- The code point of the sequence that starts with `lead`, and the bytes
behind that sequence. -/
def sequence? (lead : UInt8) (rest : ByteString) : Option (UInt32 × ByteString) :=
  match leadByte? lead with
  | none => none
  | some (continuationCount, start) =>
    let continuation := rest.take continuationCount
    if continuation.length < continuationCount then none
    else if continuation.any fun byte => byte &&& 0xC0 != 0x80 then none
    else
      let codePoint := continuation.foldl
        (fun (point : UInt32) (byte : UInt8) => (point <<< 6) ||| (byte &&& 0x3F).toUInt32) start
      if badCodePoint continuationCount codePoint then none
      else some (codePoint, rest.drop continuationCount)

/-- The code points of a byte string.  Every sequence takes at least one
byte, so the length is fuel enough. -/
def codePoints? : Nat → ByteString → Option (List UInt32)
  | _, [] => some []
  | 0, _ :: _ => none
  | fuel + 1, lead :: rest =>
    match sequence? lead rest with
    | none => none
    | some (codePoint, tail) => (codePoints? fuel tail).map (codePoint :: ·)

def utf16Units (codePoint : UInt32) : WideString :=
  if codePoint < 0x10000 then [codePoint.toUInt16]
  else
    [(0xD800 : UInt16) + ((codePoint - 0x10000) >>> 10).toUInt16,
      (0xDC00 : UInt16) + ((codePoint - 0x10000) &&& 0x3FF).toUInt16]

/-- The largest string length that the conversions accept. -/
def maximumConversionLength : Nat := 0x7FFFFFFF

/-- `MultiByteToWideChar` with `MB_ERR_INVALID_CHARS`. -/
def utf8ToWide (value : ByteString) : Option WideString :=
  if value.length > maximumConversionLength then none
  else (codePoints? value.length value).map (·.flatMap utf16Units)

def utf8Bytes (codePoint : UInt32) : ByteString :=
  if codePoint < 0x80 then [codePoint.toUInt8]
  else if codePoint < 0x800 then
    [(0xC0 : UInt8) ||| (codePoint >>> 6).toUInt8, (0x80 : UInt8) ||| (codePoint &&& 0x3F).toUInt8]
  else if codePoint < 0x10000 then
    [(0xE0 : UInt8) ||| (codePoint >>> 12).toUInt8,
      (0x80 : UInt8) ||| ((codePoint >>> 6) &&& 0x3F).toUInt8,
      (0x80 : UInt8) ||| (codePoint &&& 0x3F).toUInt8]
  else
    [(0xF0 : UInt8) ||| (codePoint >>> 18).toUInt8,
      (0x80 : UInt8) ||| ((codePoint >>> 12) &&& 0x3F).toUInt8,
      (0x80 : UInt8) ||| ((codePoint >>> 6) &&& 0x3F).toUInt8,
      (0x80 : UInt8) ||| (codePoint &&& 0x3F).toUInt8]

/-- The code points of a wide string, absent when a surrogate is unpaired. -/
def wideCodePoints? : WideString → Option (List UInt32)
  | [] => some []
  | unit :: rest =>
    if 0xD800 ≤ unit ∧ unit ≤ 0xDBFF then
      match rest with
      | [] => none
      | low :: tail =>
        if 0xDC00 ≤ low ∧ low ≤ 0xDFFF then
          (wideCodePoints? tail).map fun points =>
            ((0x10000 : UInt32) + ((unit - 0xD800).toUInt32 <<< 10) +
              (low - 0xDC00).toUInt32) :: points
        else none
    else if 0xDC00 ≤ unit ∧ unit ≤ 0xDFFF then none
    else (wideCodePoints? rest).map (unit.toUInt32 :: ·)

/-- `WideCharToMultiByte` with `WC_ERR_INVALID_CHARS`. -/
def wideToUtf8 (value : WideString) : Option ByteString :=
  if value.length > maximumConversionLength then none
  else (wideCodePoints? value).map (·.flatMap utf8Bytes)

/-- A `std::wstring` built from the characters of a `std::string`: `char` is
signed, so a byte above 127 keeps its sign. -/
def widenCharacters (value : ByteString) : WideString :=
  value.map fun byte =>
    if byte < 0x80 then byte.toUInt16 else (0xFF00 : UInt16) + byte.toUInt16

example :
    utf8ToWide [0x53, 0xC3, 0xA4, 0xF0, 0x9F, 0x8E, 0xAE] =
      some [0x53, 0xE4, 0xD83C, 0xDFAE] := by decide

end HydraSeat
