import HydraSeat.Profile.ProfileCodec
import HydraSeat.Profile.TextLaws

/-!
# Records are read back

Of each record of the schema: the text that its encoder writes is one object,
with a known number of values, and its decoder returns the record.
-/

namespace HydraSeat.Profile

section

open Foundation Json List

variable {value : WideString} {text : ByteString}

def readWide (field : String) (value : Value) : Schema WideString := do
  fromUtf8 (← asString value field)

theorem quoteWide_eq_ok (quoted : quoteWide value = .ok text) :
    ∃ bytes, fromUtf8 bytes = .ok value ∧ text = quote bytes := by
  obtain ⟨bytes, converted, same⟩ := bind_eq_ok.mp quoted
  cases same
  exact ⟨bytes, fromUtf8_toUtf8 converted, rfl⟩

theorem written_wide (field : String) (quoted : quoteWide value = .ok text) :
    Written (readWide field) value 1 0 text := by
  obtain ⟨bytes, read, rfl⟩ := quoteWide_eq_ok quoted
  exact ⟨.string bytes, rfl, rfl, Nat.le_refl _, read⟩

theorem written_string (value : ByteString) (field : String) :
    Written (asString · field) value 1 0 (quoteUtf8 value) :=
  ⟨.string value, rfl, rfl, Nat.le_refl _, rfl⟩

theorem unsignedText?_decimal (value : Nat) :
    unsignedText? (.number ⟨decimal value⟩) = some (decimal value) := by
  unfold unsignedText?
  dsimp only
  have noSign : (decimal value).head? ≠ some 45 := by
    intro sign
    have digit := decimal_digit (mem_of_head? sign)
    exact absurd digit.1 (by decide)
  rw [isEmpty_eq_false_iff.mpr (decimal_ne_nil value), Bool.false_or, if_neg (by rwa [beq_iff_eq])]

theorem written_u32 (value : UInt32) (field : String) :
    Written (asU32 · field) value 1 0 (decimal value.toNat) := by
  refine ⟨.number value.toNat, rfl, rfl, Nat.le_refl _, ?_⟩
  have same : value.toUInt64.toNat = value.toNat := UInt32.toNat_toUInt64 value
  have read : asUnsigned (.number ⟨decimal value.toNat⟩) field = .ok value.toUInt64 := by
    unfold asUnsigned
    rw [unsignedText?_decimal]
    dsimp only
    rw [← same, fromChars_decimal]
  have small : ¬value.toUInt64 > 0xFFFFFFFF := by
    rw [gt_iff_lt, UInt64.lt_iff_toNat_lt, same]
    have bounded := value.toNat_lt
    change ¬4294967295 < _
    omega
  unfold asU32
  change (asUnsigned (.number ⟨decimal value.toNat⟩) field >>= _) = _
  rw [read]
  change (if value.toUInt64 > 0xFFFFFFFF then _ else _) = _
  rw [if_neg small, UInt32.toUInt32_toUInt64]
  rfl

theorem written_bool (value : Bool) (field : String) :
    Written (asBool · field) value 1 0 (boolText value) := by
  refine ⟨.bool value, ?_, rfl, Nat.le_refl _, rfl⟩
  cases value <;> decide

theorem written_optionalWide {value : Option WideString}
    (field : String) (written : writeOptionalWide value = .ok text) :
    Written (readOptionalWide · field) value 1 0 text := by
  cases value with
  | none =>
    cases written
    exact written_null rfl
  | some value =>
    obtain ⟨bytes, read, rfl⟩ := quoteWide_eq_ok written
    refine ⟨.string bytes, rfl, rfl, Nat.le_refl _, ?_⟩
    change (fromUtf8 bytes >>= fun wide => .ok (some wide)) = _
    rw [read]
    rfl

theorem written_optionalString (value : Option ByteString) (field : String) :
    Written (readOptionalString · field) value 1 0 (writeOptionalString value) := by
  cases value with
  | none => exact written_null rfl
  | some value => exact ⟨.string value, rfl, rfl, Nat.le_refl _, rfl⟩

theorem written_array {Item : Type} {read : Value → Schema Item}
    {items : List Item} {nodes depth : Nat} {texts : List ByteString}
    (written : WrittenItems read items nodes depth texts)
    (field : String) :
    Written (fun value => asArray value field >>= (·.mapM read)) items
      (nodes + 1) (depth + 1) (bracketed texts) :=
  written.array fun _ => rfl

theorem written_wideArray {values : List WideString}
    (field : String) (written : writeWideArray values = .ok text) :
    Written (readWideArray · field) values (values.length + 1) 1 text := by
  obtain ⟨texts, encoded, same⟩ := bind_eq_ok.mp written
  cases same
  have count : (values.map fun _ => 1).sum = values.length := by
    rw [map_const', sum_replicate_nat, Nat.mul_one]
  have items : WrittenItems (readWide field) values (values.map fun _ => 1).sum 0 texts :=
    writtenItems_mapM (fun _ _ _ quoted => written_wide field quoted) encoded
  rw [count] at items
  exact written_array items field

section Records

variable {keys : List String} {object : Value.Object} {key field : String}
  {Item Result : Type} {read : Value → Schema Item} {item : Item}
  {next : Item → Schema Result}

theorem required_bind (found : Holds object key read item) :
    (required object key >>= fun value => read value >>= next) = next item := by
  obtain ⟨value, isValue, isItem⟩ := found
  unfold required
  rw [isValue]
  change (read value >>= next) = _
  rw [isItem, ok_bind]

theorem required_text {read : ByteString → Schema Item}
    (found : Holds object key (fun value => asString value field >>= read) item) :
    (required object key >>= fun value =>
      asString value field >>= fun text => read text >>= next) = next item := by
  refine Eq.trans ?_ (required_bind found)
  simp only [bind_assoc]

theorem items_eq {decode : Value → Schema Item} {items : List Item}
    (found : Holds object field (fun value => asArray value field >>= (·.mapM decode)) items) :
    decodeItems decode field object = .ok items := by
  obtain ⟨value, isValue, areItems⟩ := found
  unfold decodeItems required
  rw [isValue]
  exact areItems

theorem exactFields_of (hasKeys : HasKeys keys object) : exactFields object keys = .ok () := by
  have found : (keys.find? fun key => (object.lookup (bytesOf key)).isNone) = none := by
    rw [find?_eq_none]
    intro key member
    rw [Option.isNone_eq_false_iff.mpr (hasKeys.present key member)]
    exact Bool.false_ne_true
  unfold exactFields
  rw [found]
  dsimp only
  rw [hasKeys.no_other]

end Records

end

open Foundation
open Json

variable {text : ByteString}

theorem asObject_object (object : Json.Value.Object) (field : String) :
    asObject (.object object) field = .ok object :=
  rfl

def seatNodes (seat : PersistedSeatConfig) : Nat :=
  seat.displayIds.length + seat.keyboardIds.length + seat.mouseIds.length +
    seat.controllerIds.length + 11

theorem written_seat {seat : PersistedSeatConfig} (encoded : encodeSeat seat = .ok text) :
    Written decodeSeat seat (seatNodes seat) 2 text := by
  obtain ⟨_, name, encoded⟩ := bind_eq_ok.mp encoded
  obtain ⟨_, displayIds, encoded⟩ := bind_eq_ok.mp encoded
  obtain ⟨_, primaryDisplayId, encoded⟩ := bind_eq_ok.mp encoded
  obtain ⟨_, keyboardIds, encoded⟩ := bind_eq_ok.mp encoded
  obtain ⟨_, mouseIds, encoded⟩ := bind_eq_ok.mp encoded
  obtain ⟨_, controllerIds, encoded⟩ := bind_eq_ok.mp encoded
  obtain ⟨_, audioOutput, encoded⟩ := bind_eq_ok.mp encoded
  obtain ⟨_, audioInput, encoded⟩ := bind_eq_ok.mp encoded
  obtain rfl := pure_eq_ok encoded
  have members : WrittenMembers seatFields _ _ 1 _ :=
    .leaf (written_u32 seat.seatId "seat_id") <|
    .leaf (written_wide "name" name) <|
    .leaf (written_bool seat.active "active") <|
    .cons (written_wideArray "display_ids" displayIds) (by omega) <|
    .leaf (written_optionalWide "primary_display_id" primaryDisplayId) <|
    .cons (written_wideArray "keyboard_ids" keyboardIds) (by omega) <|
    .cons (written_wideArray "mouse_ids" mouseIds) (by omega) <|
    .cons (written_wideArray "controller_ids" controllerIds) (by omega) <|
    .leaf (written_optionalWide "audio_output_endpoint_id" audioOutput) <|
    .leaf (written_optionalWide "audio_input_endpoint_id" audioInput) .nil
  refine members.record seatFields_plain (by unfold seatNodes; omega) fun object hasKeys held => ?_
  obtain ⟨seatId, name, active, displays, primary, keyboards, mice, controllers, output, input,
    _⟩ :=
    held
  unfold decodeSeat
  rw [asObject_object, ok_bind, exactFields_of hasKeys, ok_bind, required_bind seatId,
    required_text name, required_bind active, required_bind displays, required_bind primary,
    required_bind keyboards, required_bind mice, required_bind controllers,
    required_bind output, required_bind input]
  rfl

theorem written_account (account : ProviderAccountReference) :
    Written decodeAccount account 3 1 (encodeAccount account) := by
  have members : WrittenMembers accountFields _ _ 0 _ :=
    .leaf (written_string account.providerId "provider_id") <|
    .leaf (written_string account.accountRef "account_ref") .nil
  refine members.record accountFields_plain rfl fun object hasKeys held => ?_
  obtain ⟨provider, reference, _⟩ := held
  unfold decodeAccount
  rw [asObject_object, ok_bind, exactFields_of hasKeys, ok_bind, required_bind provider,
    required_bind reference]
  rfl

def playerNodes (player : PlayerProfile) : Nat := 3 * player.providerAccounts.length + 5

theorem accounts_nodes (accounts : List ProviderAccountReference) :
    (accounts.map fun _ => 3).sum = 3 * accounts.length := by
  rw [List.map_const', List.sum_replicate_nat, Nat.mul_comm]

theorem written_player {player : PlayerProfile} (encoded : encodePlayer player = .ok text) :
    Written decodePlayer player (playerNodes player) 3 text := by
  obtain ⟨_, displayName, encoded⟩ := bind_eq_ok.mp encoded
  obtain rfl := pure_eq_ok encoded
  have accounts : WrittenItems decodeAccount player.providerAccounts _ 1 _ :=
    writtenItems_map fun account _ => written_account account
  rw [accounts_nodes] at accounts
  have members : WrittenMembers playerFields _ _ 2 _ :=
    .leaf (written_string player.playerId "player_id") <|
    .leaf (written_wide "display_name" displayName) <|
    .leaf (written_string player.preferredLocale "preferred_locale") <|
    .cons (written_array accounts "provider_accounts") (by omega) .nil
  refine members.record playerFields_plain (by unfold playerNodes; omega)
    fun object hasKeys held => ?_
  obtain ⟨playerId, name, locale, accounts, _⟩ := held
  unfold decodePlayer
  rw [asObject_object, ok_bind, exactFields_of hasKeys, ok_bind, required_bind playerId,
    required_text name, required_bind locale, items_eq accounts, ok_bind]
  rfl

def referenceNodes : Option CompatibilityReference → Nat
  | some _ => 4
  | none => 1

theorem written_reference (reference : CompatibilityReference) :
    Written decodeOptionalCompatibilityReference (some reference) 4 1
      (encodeCompatibilityReference reference) := by
  have members : WrittenMembers referenceFields _ _ 0 _ :=
    .leaf (written_string reference.recordId "record_id") <|
    .leaf (written_string reference.provenance "provenance") <|
    .leaf (written_u32 reference.evidenceRevision "evidence_revision") .nil
  refine members.record referenceFields_plain rfl fun object hasKeys held => ?_
  obtain ⟨recordId, provenance, revision, _⟩ := held
  unfold decodeOptionalCompatibilityReference
  dsimp only
  rw [asObject_object, ok_bind, exactFields_of hasKeys, ok_bind, required_bind recordId,
    required_bind provenance, required_bind revision]
  rfl

theorem written_optionalReference (reference : Option CompatibilityReference) :
    Written decodeOptionalCompatibilityReference reference (referenceNodes reference) 1
      (writeOptionalCompatibilityReference reference) := by
  cases reference with
  | none =>
    have isNull : decodeOptionalCompatibilityReference .null = .ok none := rfl
    exact (written_null isNull).deepen (Nat.zero_le 1)
  | some reference => exact written_reference reference

theorem written_origin (origin : GameOrigin) :
    Written (fun value => asString value "origin" >>= parseGameOrigin) origin
      1 0 (quoteUtf8 (gameOriginName origin)) := by
  refine ⟨.string (gameOriginName origin), rfl, rfl, Nat.le_refl _, ?_⟩
  cases origin with
  | discovered | manual => rfl

def gameNodes (game : GameRecord) : Nat :=
  game.executableCandidates.length + referenceNodes game.compatibility + 10

theorem written_game {game : GameRecord} (encoded : encodeGame game = .ok text) :
    Written decodeGame game (gameNodes game) 2 text := by
  obtain ⟨_, title, encoded⟩ := bind_eq_ok.mp encoded
  obtain ⟨_, installRoot, encoded⟩ := bind_eq_ok.mp encoded
  obtain ⟨_, candidates, encoded⟩ := bind_eq_ok.mp encoded
  obtain ⟨_, localVersion, encoded⟩ := bind_eq_ok.mp encoded
  obtain rfl := pure_eq_ok encoded
  have members : WrittenMembers gameFields _ _ 1 _ :=
    .leaf (written_string game.gameId "game_id") <|
    .leaf (written_string game.providerId "provider_id") <|
    .leaf (written_optionalString game.providerAppId "provider_app_id") <|
    .leaf (written_wide "title" title) <|
    .leaf (written_wide "install_root" installRoot) <|
    .cons (written_wideArray "executable_candidates" candidates) (by omega) <|
    .leaf (written_optionalWide "local_version" localVersion) <|
    .leaf (written_optionalString game.executableSha256 "executable_sha256") <|
    .cons (written_optionalReference game.compatibility) (by omega) <|
    .leaf (written_origin game.origin) .nil
  refine members.record gameFields_plain (by unfold gameNodes; omega) fun object hasKeys held => ?_
  obtain ⟨gameId, provider, appId, title, root, candidates, version, hash, reference, origin, _⟩ :=
    held
  unfold decodeGame
  rw [asObject_object, ok_bind, exactFields_of hasKeys, ok_bind, required_bind gameId,
    required_bind provider, required_bind appId, required_text title, required_text root,
    required_bind candidates, required_bind version, required_bind hash,
    required_bind reference, required_text origin]
  rfl

def recipeNodes (recipe : InstanceRecipe) : Nat := recipe.arguments.length + 4

theorem written_recipe {recipe : InstanceRecipe} (encoded : encodeRecipe recipe = .ok text) :
    Written decodeRecipe recipe (recipeNodes recipe) 2 text := by
  obtain ⟨_, arguments, encoded⟩ := bind_eq_ok.mp encoded
  obtain ⟨_, directory, encoded⟩ := bind_eq_ok.mp encoded
  obtain ⟨_, dataRoot, encoded⟩ := bind_eq_ok.mp encoded
  obtain rfl := pure_eq_ok encoded
  have members : WrittenMembers recipeFields _ _ 1 _ :=
    .cons (written_wideArray "arguments" arguments) (by omega) <|
    .leaf (written_optionalWide "working_directory" directory) <|
    .leaf (written_optionalWide "data_root" dataRoot) .nil
  refine members.record recipeFields_plain (by unfold recipeNodes; omega)
    fun object hasKeys held => ?_
  obtain ⟨arguments, directory, dataRoot, _⟩ := held
  unfold decodeRecipe
  rw [asObject_object, ok_bind, exactFields_of hasKeys, ok_bind, required_bind arguments,
    required_bind directory, required_bind dataRoot]
  rfl

def setupNodes (setup : TwoPlayerSetup) : Nat :=
  (setup.instances.map recipeNodes).sum + referenceNodes setup.compatibility + 5

theorem written_setup {setup : TwoPlayerSetup} (encoded : encodeSetup setup = .ok text) :
    Written decodeSetup setup (setupNodes setup) 4 text := by
  obtain ⟨_, displayName, encoded⟩ := bind_eq_ok.mp encoded
  obtain ⟨_, instances, encoded⟩ := bind_eq_ok.mp encoded
  obtain rfl := pure_eq_ok encoded
  have recipes : WrittenItems decodeRecipe setup.instances _ 2 _ :=
    writtenItems_mapM (fun _ _ _ encoded => written_recipe encoded) instances
  have members : WrittenMembers setupFields _ _ 3 _ :=
    .leaf (written_string setup.setupId "setup_id") <|
    .leaf (written_string setup.gameId "game_id") <|
    .leaf (written_wide "display_name" displayName) <|
    .cons (written_optionalReference setup.compatibility) (by omega) <|
    .cons (written_array recipes "instances") (by omega) .nil
  refine members.record setupFields_plain (by unfold setupNodes; omega)
    fun object hasKeys held => ?_
  obtain ⟨setupId, gameId, name, reference, instances, _⟩ := held
  unfold decodeSetup
  rw [asObject_object, ok_bind, exactFields_of hasKeys, ok_bind, required_bind setupId,
    required_bind gameId, required_text name, required_bind reference, items_eq instances, ok_bind]
  rfl

theorem written_binding (binding : RuntimeBinding) :
    Written decodeBinding binding 6 1 (encodeBinding binding) := by
  have members : WrittenMembers bindingFields _ _ 0 _ :=
    .leaf (written_u32 binding.seatId "seat_id") <|
    .leaf (written_string binding.playerId "player_id") <|
    .leaf (written_string binding.gameId "game_id") <|
    .leaf (written_optionalString binding.setupId "setup_id") <|
    .leaf (written_u32 binding.instanceIndex "instance_index") .nil
  refine members.record bindingFields_plain rfl fun object hasKeys held => ?_
  obtain ⟨seatId, playerId, gameId, setupId, index, _⟩ := held
  unfold decodeBinding
  rw [asObject_object, ok_bind, exactFields_of hasKeys, ok_bind, required_bind seatId,
    required_bind playerId, required_bind gameId, required_bind setupId, required_bind index]
  rfl

end HydraSeat.Profile
