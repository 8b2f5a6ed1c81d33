import HydraSeat.HostIpc.Codec
import HydraSeat.UnicodeReading

/-!
# Reads of a payload

A payload is read at an offset, which a read that does not fit leaves where it
is or behind the length of a string.  A decoder stops at the first such read,
and so it reads on what is left as the readers of the codec do.
-/

namespace HydraSeat.HostIpc

open Foundation List

section Text

variable {bytes : ByteString} {fuel : Nat}

/-- The bytes spell code points, none of them zero. -/
def Spelled (bytes : ByteString) : Prop :=
  ∃ points : List UInt32,
    (∀ point ∈ points, Scalar point ∧ point ≠ 0) ∧ points.flatMap utf8Bytes = bytes

theorem Spelled.cons {point : UInt32} (scalar : Scalar point) (nonzero : point ≠ 0)
    (spelled : Spelled bytes) : Spelled (utf8Bytes point ++ bytes) := by
  obtain ⟨points, scalars, rfl⟩ := spelled
  refine ⟨point :: points, fun other member => ?_, rfl⟩
  cases mem_cons.mp member with
  | inl isPoint =>
    rw [isPoint]
    exact ⟨scalar, nonzero⟩
  | inr later => exact scalars other later

end Text

/-- The value that a read found, the offset behind it and the bytes it looked
at. -/
structure PayloadStep (α : Type) where
  value : Option α
  offset : Nat
  touched : List Nat := []

def PayloadStep.erase {α : Type} (step : PayloadStep α) : PayloadStep Unit :=
  { step with value := step.value.map fun _ => () }

section Reads

variable (payload : ByteString) (offset : Nat)

def bytesAt (indices : List Nat) : ByteString := indices.map fun index => payload.getD index 0

def readInteger (width : Nat) : PayloadStep Nat :=
  if offset > payload.length ∨ payload.length - offset < width then ⟨none, offset, []⟩
  else
    ⟨some (spelled (bytesAt payload (range' offset width))), offset + width, range' offset width⟩

def readStringAt (maximum : Nat) (allowEmpty : Bool) : PayloadStep ByteString :=
  match readInteger payload offset 4 with
  | ⟨none, behind, touched⟩ => ⟨none, behind, touched⟩
  | ⟨some length, behind, touched⟩ =>
    if length > maximum ∨ behind > payload.length ∨ payload.length - behind < length then
      ⟨none, behind, touched⟩
    else
      let value := bytesAt payload (range' behind length)
      ⟨if validUtf8 value maximum allowEmpty then some value else none,
        behind + length, touched ++ range' behind length⟩

inductive PayloadRead where
  | integer (width : Nat)
  | string (maximum : Nat) (allowEmpty : Bool)

def PayloadRead.run : PayloadRead → PayloadStep Unit
  | .integer width => (readInteger payload offset width).erase
  | .string maximum allowEmpty => (readStringAt payload offset maximum allowEmpty).erase

end Reads

variable {payload : ByteString} {offset : Nat}

end HydraSeat.HostIpc
