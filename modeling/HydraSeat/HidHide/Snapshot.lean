import HydraSeat.Strings
import Mathlib.Data.List.Induction
import Mathlib.Data.List.Sort

/-!
# Snapshots of the persistent HidHide state

Two snapshots are the same when they agree after normalization: identities
are compared without regard to case, to the direction of slashes, to
repetitions and to the order.
-/

namespace HydraSeat.HidHide

open List UInt16

variable (values : List WideString) (snapshot : HidHideSessionSnapshot) (value : WideString)
variable (character : UInt16)

def trimTrailingNulls : WideString := (value.reverse.dropWhile (· == 0)).reverse

def asciiUpper : UInt16 :=
  if 97 ≤ character ∧ character ≤ 122 then character - 32 else character

/-- The loop body of `normalizeDevicePath`. -/
def normalizeCharacter : UInt16 :=
  if character = 47 then 92 else asciiUpper character

/-- `\??\`. -/
def objectManagerPrefix : WideString := [92, 63, 63, 92]

/-- `\\?\`. -/
def rawInputPrefix : WideString := [92, 92, 63, 92]

def normalizeDevicePath (path : WideString) : WideString :=
  let normalized := (trimTrailingNulls path).map normalizeCharacter
  if objectManagerPrefix <+: normalized then rawInputPrefix ++ normalized.drop 4
  else normalized

def canonicalizeInstanceId (instanceId : WideString) : WideString := normalizeDevicePath instanceId

/-- `std::sort` of wide strings. -/
def sortStrings : List WideString := values.insertionSort (· ≤ ·)

def normalizeApplication : WideString := normalizeDevicePath value

/-- The loop of `normalizedUnique`, which keeps first occurrences. -/
def pushUnique (result : List WideString) (value : WideString) : List WideString :=
  if value ∈ result then result else result ++ [value]

def normalizedUnique (application : Bool) : List WideString :=
  let normalized :=
    values.map fun value =>
      if application then normalizeApplication value
      else canonicalizeInstanceId value
  sortStrings (normalized.foldl pushUnique [])

/-- The destination is sorted, so `std::binary_search` is membership. -/
def mergeValue (destination : List WideString) (value : WideString) : List WideString :=
  if value ∈ destination then destination
  else sortStrings (destination ++ [value])

def mergeUnique (destination additions : List WideString) (application : Bool) : List WideString :=
  (normalizedUnique additions application).foldl mergeValue
    (normalizedUnique destination application)

structure HidHideSessionSnapshot where
  (active inverseWhitelist : Bool := false)
  (blockedDeviceInstanceIds allowedApplications : List WideString := [])
  deriving DecidableEq

def normalizedSnapshot : HidHideSessionSnapshot :=
  { snapshot with
    blockedDeviceInstanceIds := normalizedUnique snapshot.blockedDeviceInstanceIds false
    allowedApplications := normalizedUnique snapshot.allowedApplications true }

def sameSnapshot (lhs rhs : HidHideSessionSnapshot) : Bool :=
  normalizedSnapshot lhs == normalizedSnapshot rhs

def equivalentHidHideSessionSnapshots (left right : HidHideSessionSnapshot) : Bool :=
  sameSnapshot left right

theorem sameSnapshot_iff (lhs rhs : HidHideSessionSnapshot) :
    sameSnapshot lhs rhs = true ↔ normalizedSnapshot lhs = normalizedSnapshot rhs := by
  unfold sameSnapshot
  rw [beq_iff_eq]

@[simp]
theorem sameSnapshot_refl : sameSnapshot snapshot snapshot = true :=
  (sameSnapshot_iff snapshot snapshot).mpr rfl

theorem sameSnapshot_symm {lhs rhs : HidHideSessionSnapshot}
    (same : sameSnapshot lhs rhs = true) : sameSnapshot rhs lhs = true := by
  rw [sameSnapshot_iff] at same ⊢
  exact same.symm

theorem sameSnapshot_trans {first second third : HidHideSessionSnapshot}
    (left : sameSnapshot first second = true)
    (right : sameSnapshot second third = true) :
    sameSnapshot first third = true := by
  rw [sameSnapshot_iff] at left right ⊢
  exact left.trans right

theorem trimTrailingNulls_concat :
    trimTrailingNulls (value ++ [character]) = if character = 0 then trimTrailingNulls value
      else value ++ [character] := by
  unfold trimTrailingNulls
  rw [reverse_append, reverse_singleton, singleton_append, dropWhile_cons]
  by_cases isNull : character = 0
  · rw [if_pos isNull, if_pos (beq_iff_eq.mpr isNull)]
  · rw [if_neg isNull, if_neg (by rwa [beq_iff_eq])]
    rw [reverse_cons, reverse_reverse]

theorem trimTrailingNulls_getLast : (trimTrailingNulls value).getLast? ≠ some 0 := by
  induction value using List.reverseRecOn with
  | nil => nofun
  | append_singleton value character ih =>
    rw [trimTrailingNulls_concat]
    split
    · exact ih
    next notNull =>
      rw [getLast?_concat]
      intro same
      exact notNull (Option.some.inj same)

theorem trimTrailingNulls_of_getLast {value : WideString} (ends : value.getLast? ≠ some 0) :
    trimTrailingNulls value = value := by
  induction value using List.reverseRecOn with
  | nil => rfl
  | append_singleton value character _ =>
    rw [getLast?_concat] at ends
    rw [trimTrailingNulls_concat, if_neg]
    rintro rfl
    exact ends rfl

theorem normalizeCharacter_idem :
    normalizeCharacter (normalizeCharacter character) = normalizeCharacter character := by
  unfold normalizeCharacter asciiUpper
  split
  · decide
  split
  next lower =>
    obtain ⟨low, high⟩ := lower
    rw [le_iff_toNat_le] at low high
    change 97 ≤ character.toNat at low
    change character.toNat ≤ 122 at high
    have small : (32 : UInt16) ≤ character := by
      rw [le_iff_toNat_le]
      change 32 ≤ character.toNat
      omega
    have lowered := UInt16.toNat_sub_of_le character 32 small
    change (character - 32).toNat = character.toNat - 32 at lowered
    have notSlash : character - 32 ≠ 47 := by
      intro same
      rw [same] at lowered
      change 47 = character.toNat - 32 at lowered
      omega
    rw [if_neg notSlash, if_neg]
    rintro ⟨stillLow, _⟩
    rw [le_iff_toNat_le] at stillLow
    change 97 ≤ (character - 32).toNat at stillLow
    omega
  · rfl

theorem normalizeCharacter_eq_zero {character : UInt16}
    (null : normalizeCharacter character = 0) : character = 0 := by
  unfold normalizeCharacter asciiUpper at null
  obtain ⟨_, null⟩ := Foundation.not_taken null nofun
  split at null
  next lower =>
    obtain ⟨low, _⟩ := lower
    rw [le_iff_toNat_le] at low
    change 97 ≤ character.toNat at low
    have small : (32 : UInt16) ≤ character := by
      rw [le_iff_toNat_le]
      change 32 ≤ character.toNat
      omega
    have lowered := UInt16.toNat_sub_of_le character 32 small
    rw [null] at lowered
    change 0 = character.toNat - 32 at lowered
    omega
  · exact null

structure NormalizedPath (path : WideString) : Prop where
  ends : path.getLast? ≠ some 0
  characters : path.map normalizeCharacter = path
  spelling : ¬ objectManagerPrefix <+: path

theorem NormalizedPath.normalize {path : WideString}
    (normalized : NormalizedPath path) : normalizeDevicePath path = path := by
  unfold normalizeDevicePath
  rw [trimTrailingNulls_of_getLast normalized.ends, normalized.characters,
    if_neg normalized.spelling]

theorem normalizeDevicePath_normalized (path : WideString) :
    NormalizedPath (normalizeDevicePath path) := by
  have ends := trimTrailingNulls_getLast path
  have mappedEnds : ((trimTrailingNulls path).map normalizeCharacter).getLast? ≠ some 0 := by
    rw [getLast?_map]
    intro same
    obtain ⟨last, found, null⟩ := Option.map_eq_some_iff.mp same
    rw [normalizeCharacter_eq_zero null] at found
    exact ends found
  have mapped :
      ((trimTrailingNulls path).map normalizeCharacter).map normalizeCharacter =
        (trimTrailingNulls path).map normalizeCharacter := by
    rw [map_map]
    exact map_congr_left fun character _ => normalizeCharacter_idem character
  unfold normalizeDevicePath
  generalize (trimTrailingNulls path).map normalizeCharacter = normalized at mappedEnds mapped
  dsimp only
  split
  next spelled =>
    obtain ⟨tail, rfl⟩ := spelled
    have dropped :
        rawInputPrefix ++ (objectManagerPrefix ++ tail).drop 4 = rawInputPrefix ++ tail :=
      rfl
    rw [dropped]
    refine ⟨?_, ?_, ?_⟩
    · cases tail with
      | nil => decide
      | cons character tail =>
        rw [getLast?_append_of_ne_nil _ (cons_ne_nil _ _)] at mappedEnds ⊢
        exact mappedEnds
    · rw [map_append] at mapped ⊢
      have tailMapped := (append_inj mapped rfl).2
      rw [tailMapped]
      rfl
    · rintro ⟨others, same⟩
      cases same
  next notSpelled => exact ⟨mappedEnds, mapped, notSpelled⟩

theorem foldl_pushUnique_eq {values result : List WideString} (fresh : (result ++ values).Nodup) :
    values.foldl pushUnique result = result ++ values := by
  induction values generalizing result with
  | nil =>
    rw [append_nil]
    rfl
  | cons value values ih =>
    have absent : value ∉ result := by
      intro member
      obtain ⟨_, _, apart⟩ := nodup_append.mp fresh
      exact apart value member value mem_cons_self rfl
    rw [append_cons] at fresh
    rw [foldl_cons, pushUnique, if_neg absent, ih fresh, ← append_cons]

theorem foldl_pushUnique_nodup {result : List WideString} (distinct : result.Nodup) :
    (values.foldl pushUnique result).Nodup := by
  induction values generalizing result with
  | nil => exact distinct
  | cons value values ih =>
    rw [foldl_cons]
    apply ih
    unfold pushUnique
    split
    · exact distinct
    next absent =>
      refine nodup_append.mpr ⟨distinct, nodup_singleton value, ?_⟩
      rintro _ member _ found rfl
      rw [mem_singleton.mp found] at member
      exact absent member

theorem foldl_pushUnique_subset (result : List WideString)
    {value : WideString} (member : value ∈ values.foldl pushUnique result) :
    value ∈ result ∨ value ∈ values := by
  induction values generalizing result with
  | nil => exact .inl member
  | cons first values ih =>
    rcases ih _ member with earlier | later
    · unfold pushUnique at earlier
      split at earlier
      · exact .inl earlier
      · rcases mem_append.mp earlier with old | new
        · exact .inl old
        · rw [mem_singleton.mp new]
          exact .inr mem_cons_self
    · exact .inr (mem_cons_of_mem first later)

structure NormalizedList (values : List WideString) : Prop where
  sorted : values.Pairwise (· ≤ ·)
  distinct : values.Nodup
  normalized : ∀ value ∈ values, NormalizedPath value

theorem normalizedUnique_normalized (application : Bool) :
    NormalizedList (normalizedUnique values application) := by
  have paths :
      (fun value : WideString =>
          if application then normalizeApplication value
          else canonicalizeInstanceId value) =
        normalizeDevicePath := by
    funext value
    cases application with
    | false | true => rfl
  unfold normalizedUnique sortStrings
  rw [paths]
  dsimp only
  refine ⟨pairwise_insertionSort _ _, ?_, ?_⟩
  · rw [List.Perm.nodup_iff (perm_insertionSort _ _)]
    exact foldl_pushUnique_nodup _ nodup_nil
  intro value member
  rw [(perm_insertionSort _ _).mem_iff] at member
  rcases foldl_pushUnique_subset _ _ member with none | found
  · cases none
  · obtain ⟨path, _, rfl⟩ := mem_map.mp found
    exact normalizeDevicePath_normalized path

theorem NormalizedList.unique {values : List WideString}
    (normalized : NormalizedList values) (application : Bool) :
    normalizedUnique values application = values := by
  have kept :
      values.map (fun value =>
          if application then normalizeApplication value
          else canonicalizeInstanceId value) = values := by
    conv_rhs => rw [← map_id values]
    apply map_congr_left
    intro value member
    have same := (normalized.normalized value member).normalize
    cases application with
    | false | true => exact same
  have distinct : ([] ++ values).Nodup := normalized.distinct
  unfold normalizedUnique sortStrings
  rw [kept]
  dsimp only
  rw [foldl_pushUnique_eq distinct]
  exact normalized.sorted.insertionSort_eq

theorem normalizedSnapshot_idem :
    normalizedSnapshot (normalizedSnapshot snapshot) = normalizedSnapshot snapshot := by
  unfold normalizedSnapshot
  dsimp only
  rw [(normalizedUnique_normalized _ _).unique, (normalizedUnique_normalized _ _).unique]

theorem sameSnapshot_normalized : sameSnapshot snapshot (normalizedSnapshot snapshot) = true := by
  rw [sameSnapshot_iff, normalizedSnapshot_idem]

end HydraSeat.HidHide
