import HydraSeat.Foundation.Fallible
import Mathlib.Algebra.Group.Nat.Defs
import Mathlib.Data.List.Lex

/-!
# Byte strings and wide strings

`std::string` is a sequence of bytes and, on Windows, `std::wstring` a
sequence of sixteen-bit units.  Neither has to be well formed text, so both
are lists of their units.  `std::towupper` runs in the default "C" locale,
where it changes the twenty-six ASCII letters and nothing else.
-/

namespace HydraSeat

abbrev ByteString := List UInt8

abbrev WideString := List UInt16

instance : LawfulBEq ByteString := inferInstance

instance : LawfulBEq WideString := inferInstance

/-- The bytes of a literal of the source, which are all ASCII. -/
def bytesOf (text : String) : ByteString :=
  text.toList.map fun character => UInt8.ofNat character.toNat

instance : Coe String ByteString := ⟨bytesOf⟩

def wideOf (text : String) : WideString :=
  text.toList.map fun character => UInt16.ofNat character.toNat

def towupper (unit : UInt16) : UInt16 :=
  if 97 ≤ unit ∧ unit ≤ 122 then unit - 32 else unit

/-- `canonicalId` of the controller code. -/
def canonicalId (value : WideString) : WideString := value.map towupper

end HydraSeat
