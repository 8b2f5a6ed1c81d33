import HydraSeat.Json.Writing

/-!
# JSON pointers

A pointer names a place in a document by reference tokens, each behind a
slash.  A token is the name of a member or the index of an item; in it `~1`
stands for a slash and `~0` for a tilde.
-/

namespace HydraSeat.Json.Pointer

open List

def escape (token : ByteString) : ByteString :=
  token.flatMap fun ch =>
    if ch = 0x7E then "~0"
    else if ch = 0x2F then "~1"
    else [ch]

/-- The token that is spelled, unless a tilde stands before anything else. -/
def unescape? : ByteString → Option ByteString
  | [] => some []
  | ch :: rest =>
    if ch = 0x7E then
      match rest with
      | [] => none
      | mark :: rest =>
        if mark = 0x30 then (unescape? rest).map (0x7E :: ·)
        else if mark = 0x31 then (unescape? rest).map (0x2F :: ·)
        else none
    else (unescape? rest).map (ch :: ·)

/-- The tokens of a pointer, which is empty or starts with a slash. -/
def tokens? (pointer : ByteString) : Option (List ByteString) :=
  match pointer.splitOn 0x2F with
  | [] :: spelled => spelled.mapM unescape?
  | _ => none

/-- The item with the index that a token spells. -/
def item? (token : ByteString) : Nat → List Value → Option Value
  | _, [] => none
  | index, item :: rest =>
    if decimal index = token then some item
    else item? token (index + 1) rest

def child? : Value → ByteString → Option Value
  | .object entries, token => entries.lookup token
  | .array items, token => item? token 0 items
  | _, _ => none

def resolve? (root : Value) (pointer : ByteString) : Option Value :=
  (tokens? pointer).bind (List.foldlM child? root)

def written (tokens : List ByteString) : ByteString :=
  tokens.flatMap fun token => 0x2F :: escape token

theorem escape_cons (ch : UInt8) (token : ByteString) :
    escape (ch :: token) =
      (if ch = 0x7E then bytesOf "~0"
        else if ch = 0x2F then bytesOf "~1"
        else [ch]) ++ escape token :=
  flatMap_cons

theorem unescape?_escape (token : ByteString) : unescape? (escape token) = some token := by
  induction token with
  | nil => rfl
  | cons ch token ih =>
    rw [escape_cons]
    by_cases tilde : ch = 0x7E
    · subst tilde
      change (unescape? (escape token)).map _ = _
      rw [ih]
      rfl
    rw [if_neg tilde]
    by_cases slash : ch = 0x2F
    · subst slash
      change (unescape? (escape token)).map _ = _
      rw [ih]
      rfl
    · rw [if_neg slash, singleton_append, unescape?.eq_def]
      dsimp only
      rw [if_neg tilde, ih]
      rfl

theorem slash_not_mem_escape (token : ByteString) : 0x2F ∉ escape token := by
  intro member
  obtain ⟨ch, _, member⟩ := mem_flatMap.mp member
  split at member
  · revert member
    decide
  · split at member
    · revert member
      decide
    next other => exact other (mem_singleton.mp member).symm

theorem escape_plain {token : ByteString}
    (plain : ∀ ch ∈ token, ch ≠ 0x7E ∧ ch ≠ 0x2F) : escape token = token := by
  induction token with
  | nil => rfl
  | cons ch token ih =>
    obtain ⟨⟨tilde, slash⟩, plain⟩ := forall_mem_cons.mp plain
    rw [escape_cons, if_neg tilde, if_neg slash, ih plain, singleton_append]

theorem escape_decimal (index : Nat) : escape (decimal index) = decimal index := by
  refine escape_plain fun ch member => ?_
  have bounds := decimal_digit member
  constructor
  · rintro rfl
    exact absurd bounds (by decide)
  · rintro rfl
    exact absurd bounds (by decide)

theorem splitOn_written {first : ByteString} (whole : 0x2F ∉ first) (tokens : List ByteString) :
    (first ++ written tokens).splitOn 0x2F = first :: tokens.map escape := by
  induction tokens generalizing first with
  | nil =>
    change (first ++ []).splitOn 0x2F = [first]
    rw [append_nil, splitOn_eq_singleton whole]
  | cons token tokens ih =>
    change (first ++ 0x2F :: (escape token ++ written tokens)).splitOn 0x2F =
      first :: escape token :: tokens.map escape
    rw [splitOn_append_cons_self_of_not_mem whole, ih (slash_not_mem_escape token)]

theorem tokens?_written (tokens : List ByteString) : tokens? (written tokens) = some tokens := by
  have split := splitOn_written (not_mem_nil (a := 0x2F)) tokens
  rw [nil_append] at split
  unfold tokens?
  rw [split]
  change (tokens.map escape).mapM unescape? = some tokens
  induction tokens with
  | nil => rfl
  | cons token tokens ih =>
    rw [map_cons, mapM_cons, unescape?_escape, ih (splitOn_written not_mem_nil tokens)]
    rfl

theorem written_append (tokens : List ByteString) (token : ByteString) :
    written (tokens ++ [token]) = written tokens ++ 0x2F :: escape token := by
  unfold written
  rw [flatMap_append]
  exact congrArg _ (append_nil _)

theorem resolve?_nil (root : Value) : resolve? root (written []) = some root := rfl

theorem resolve?_written (root : Value) (tokens : List ByteString) :
    resolve? root (written tokens) = tokens.foldlM child? root := by
  unfold resolve?
  rw [tokens?_written]
  rfl

example : written ["a/b", decimal 10, "~"] = "/a~1b/10/~0" := by
  decide

theorem resolve?_child {root value : Value} {tokens : List ByteString}
    (found : resolve? root (written tokens) = some value)
    (token : ByteString) :
    resolve? root (written (tokens ++ [token])) = child? value token := by
  rw [resolve?_written] at found ⊢
  rw [foldlM_append, found]
  change (child? value token).bind some = child? value token
  exact Option.bind_fun_some _

theorem item?_decimal (items : List Value) (start offset : Nat) :
    item? (decimal (start + offset)) start items = items[offset]? := by
  induction items generalizing start offset with
  | nil => rfl
  | cons item rest ih =>
    unfold item?
    cases offset with
    | zero =>
      rw [Nat.add_zero, if_pos rfl]
      rfl
    | succ offset =>
      have other : decimal start ≠ decimal (start + (offset + 1)) :=
        fun same => by
          have equal := decimal_injective same
          omega
      rw [if_neg other, show start + (offset + 1) = start + 1 + offset by
        omega, ih, getElem?_cons_succ]

theorem child?_decimal (items : List Value) (index : Nat) :
    child? (.array items) (decimal index) = items[index]? := by
  have found := item?_decimal items 0 index
  rwa [Nat.zero_add] at found

end HydraSeat.Json.Pointer
