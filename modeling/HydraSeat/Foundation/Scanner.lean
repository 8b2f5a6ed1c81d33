import HydraSeat.Foundation.Codec

/-!
# Readers that say why they refuse

A record is read field after field, and its law is put together in the same
order: a field with a law, in front of a rest with a law.
-/

namespace HydraSeat.Foundation

open List

/-- A reader with a text for its failure. -/
abbrev Scanner := StateT (List UInt8) (Except String)

variable {α β γ : Type}

/-- The law of a scanner: the values that it takes, in one spelling. -/
def Scans (scanner : Scanner α) (accepts : α → Prop) (writes : α → List UInt8) : Prop :=
  ∀ bytes value rest,
    scanner bytes = .ok (value, rest) ↔ accepts value ∧ bytes = writes value ++ rest

theorem scanner_bind_eq_ok_iff (first : Scanner α) (next : α → Scanner β)
    (bytes : List UInt8) (value : β) (rest : List UInt8) :
    (first >>= next) bytes = .ok (value, rest) ↔
      ∃ found middle, first bytes = .ok (found, middle) ∧
        next found middle = .ok (value, rest) := by
  change (first bytes >>= fun pair => next pair.1 pair.2) = _ ↔ _
  constructor
  · intro scanned
    obtain ⟨pair, taken, continued⟩ := except_bind_eq_ok scanned
    exact ⟨pair.1, pair.2, taken, continued⟩
  · intro ⟨found, middle, taken, continued⟩
    rw [taken]
    exact continued

/-- A reader whose failure has one text. -/
def require (text : String) (reader : Reader α) : Scanner α :=
  fun bytes =>
    match reader bytes with
    | none => .error text
    | some found => .ok found

/-- The end of a scanner: what the fields make, or why they make nothing. -/
def conclude (result : Except String α) : Scanner α := fun bytes =>
  match result with
  | .error text => .error text
  | .ok value => .ok (value, bytes)

namespace Scans

theorem require {reader : Reader α} {accepts : α → Prop} {writes : α → List UInt8}
    (reads : ReadsOnly reader accepts writes) (text : String) :
    Scans (Foundation.require text reader) accepts writes := by
  intro bytes value rest
  rw [← reads bytes value rest]
  unfold Foundation.require
  cases reader bytes with
  | none | some found => simp

theorem concluded {result : Except String β} {accepts : β → Prop}
    (made : ∀ value, result = .ok value ↔ accepts value) :
    Scans (conclude result) accepts (fun _ => []) := by
  intro bytes value rest
  rw [← made value]
  unfold conclude
  cases result with
  | error text | ok found => simp

theorem built {record : β} {accepts : β → Prop} (made : ∀ value, record = value ↔ accepts value) :
    Scans (pure record) accepts (fun _ => []) := by
  intro bytes value rest
  rw [← made value]
  change Except.ok (record, bytes) = _ ↔ _
  simp

variable {scanner : Scanner α} {takes : α → Prop} {spelling : α → List UInt8} {next : α → Scanner β}
  {accepts : β → Prop} {tail : β → List UInt8}

variable {part : β → α}

theorem field (first : Scans scanner takes spelling)
    (implied : ∀ value, accepts value → takes (part value))
    (later :
      ∀ found, takes found →
        Scans (next found) (fun value => part value = found ∧ accepts value) tail) :
    Scans (scanner >>= next) accepts (fun value => spelling (part value) ++ tail value) := by
  intro bytes value rest
  rw [scanner_bind_eq_ok_iff]
  constructor
  · intro ⟨found, middle, taken, continued⟩
    obtain ⟨took, split⟩ := (first bytes found middle).mp taken
    obtain ⟨⟨same, accepted⟩, splitTail⟩ := (later found took middle value rest).mp continued
    refine ⟨accepted, ?_⟩
    dsimp only
    rw [same, split, splitTail, append_assoc]
  · intro ⟨accepted, split⟩
    have took := implied value accepted
    refine ⟨part value, tail value ++ rest, ?_, ?_⟩
    · apply (first _ _ _).mpr
      rw [split, append_assoc]
      exact ⟨took, rfl⟩
    · exact (later _ took _ _ _).mpr ⟨⟨rfl, accepted⟩, rfl⟩

theorem any (first : Scans scanner (fun _ => True) spelling)
    (later : ∀ found, Scans (next found) (fun value => part value = found ∧ accepts value) tail) :
    Scans (scanner >>= next) accepts (fun value => spelling (part value) ++ tail value) :=
  field first (fun _ _ => trivial) fun found _ => later found

theorem skip {padding : Scanner Unit} {zeros : List UInt8} {scanner : Scanner β}
    (first : Scans padding (fun _ => True) (fun _ => zeros))
    (later : Scans scanner accepts tail) :
    Scans (padding >>= fun _ => scanner) accepts (fun value => zeros ++ tail value) := by
  have nothing (found : Unit) :
      Scans scanner (fun value => (fun _ : β => ()) value = found ∧ accepts value) tail := by
    simpa using later
  exact any first nothing

theorem last (first : Scans scanner (fun _ => True) spelling)
    (ends :
      ∀ found, Scans (next found) (fun value => part value = found ∧ accepts value) (fun _ => [])) :
    Scans (scanner >>= next) accepts (fun value => spelling (part value)) := by
  simpa only [append_nil] using any first ends

theorem padded {padding : Scanner Unit} {zeros : List UInt8} {scanner : Scanner β}
    (first : Scans padding (fun _ => True) (fun _ => zeros))
    (ends : Scans scanner accepts (fun _ => [])) :
    Scans (padding >>= fun _ => scanner) accepts (fun _ => zeros) := by
  simpa only [append_nil] using skip first ends

theorem cast {convert : α → β} {back : β → α} (first : Scans scanner (fun _ => True) spelling)
    (left : ∀ raw, back (convert raw) = raw)
    (right : ∀ value, convert (back value) = value) :
    Scans (do let raw ← scanner; return convert raw) (fun _ => True)
      (fun value => spelling (back value)) := by
  refine last first fun raw => built fun value => ?_
  constructor
  · intro same
    rw [← same]
    exact ⟨left raw, trivial⟩
  · intro ⟨same, _⟩
    rw [← same, right]

end Scans

end HydraSeat.Foundation
