import HydraSeat.Profile.ReadBack

/-!
# Documents are read back unless they hold too many values

The decoder counts the values of a document and the encoder does not.  Within
the count a document is read back as it was written; past it the decoder
refuses the text.  Documents of Seats, of Players and of a selection are never
large enough for that.
-/

namespace HydraSeat.Profile

section

open List

theorem firstRepeated?_eq_none_iff {Item : Type} [DecidableEq Item] {seen items : List Item} :
    firstRepeated? seen items = none ↔ items.Nodup ∧ ∀ item ∈ items, item ∉ seen := by
  induction items generalizing seen with
  | nil => simp [firstRepeated?]
  | cons first rest ih =>
    unfold firstRepeated?
    split
    next repeated =>
      refine ⟨by simp, fun ⟨_, fresh⟩ => ?_⟩
      exact absurd repeated (fresh first mem_cons_self)
    next isFresh =>
      rw [ih, nodup_cons, forall_mem_cons]
      constructor
      · rintro ⟨distinct, fresh⟩
        refine ⟨⟨?_, distinct⟩, isFresh, fun item member known => ?_⟩
        · exact fun member => fresh first member mem_cons_self
        · exact fresh item member (mem_cons_of_mem _ known)
      rintro ⟨⟨absent, distinct⟩, -, fresh⟩
      refine ⟨distinct, fun item member known => ?_⟩
      rcases mem_cons.mp known with rfl | earlier
      · exact absent member
      · exact fresh item member earlier

theorem uniqueIds_eq_ok_iff {identifiers : List ByteString} {field : String} :
    uniqueIds identifiers field = .ok () ↔ identifiers.Nodup := by
  have unseen : firstRepeated? [] identifiers = none ↔ identifiers.Nodup := by
    rw [firstRepeated?_eq_none_iff]
    exact ⟨fun ⟨distinct, _⟩ => distinct, fun distinct => ⟨distinct, fun _ _ => not_mem_nil⟩⟩
  rw [← unseen]
  unfold uniqueIds
  cases firstRepeated? [] identifiers with
  | none => exact ⟨fun _ => rfl, fun _ => rfl⟩
  | some identifier => exact ⟨nofun, nofun⟩

end

open Foundation List
open Json

/-- The values that the parser of the profile layer counts up to. -/
def kMaximumNodes : Nat := 32768

section Codec

variable {Item : Type} {validate : Item → Schema Unit}
  {encode : Item → Schema ByteString} {decode : Json.Value → Schema Item}
  {item : Item} {text : ByteString} {nodes depth : Nat}

theorem encodeValidated_eq_ok (encoded : encodeValidated validate encode item = .ok text) :
    validate item = .ok () ∧ encode item = .ok text ∧
      text.length ≤ kMaximumSchemaDocumentBytes := by
  obtain ⟨_, valid, encoded⟩ := bind_eq_ok.mp encoded
  obtain ⟨written, isText, encoded⟩ := bind_eq_ok.mp encoded
  obtain ⟨short, encoded⟩ := not_taken encoded nofun
  cases encoded
  exact ⟨valid, isText, Nat.not_lt.mp short⟩

theorem encodeValidated_ok (valid : validate item = .ok ()) (written : encode item = .ok text)
    (short : text.length ≤ kMaximumSchemaDocumentBytes) :
    encodeValidated validate encode item = .ok text := by
  unfold encodeValidated
  rw [valid, ok_bind, written, ok_bind, if_neg (Nat.not_lt.mpr short)]
  rfl

theorem decodeValidated_iff (written : Written decode item nodes depth text) (shallow : depth ≤ 48)
    (valid : validate item = .ok ())
    (short : text.length ≤ kMaximumSchemaDocumentBytes) :
    decodeValidated decode validate text = .ok item ↔ nodes ≤ kMaximumNodes := by
  obtain ⟨writing, rfl, rfl, flat, isItem⟩ := written.writing
  have read (value : Json.Value) :
      Json.parse writing.text ⟨48, 32768⟩ = .ok value ↔
        value = writing.value ∧ writing.nodes ≤ kMaximumNodes :=
    writing.parse_iff ⟨48, 32768⟩ (flat.trans shallow) (short.trans_lt (by decide)) value
  unfold decodeValidated
  rw [if_neg (Nat.not_lt.mpr short)]
  constructor
  · intro decoded
    obtain ⟨root, parsed, _⟩ := bind_eq_ok.mp decoded
    unfold parseJson at parsed
    split at parsed
    next value isValue => exact ((read value).mp isValue).2
    next => cases parsed
  · intro few
    have parsed : parseJson writing.text = .ok writing.value := by
      unfold parseJson
      rw [(read _).mpr ⟨rfl, few⟩]
    rw [parsed, ok_bind, isItem, ok_bind, valid, ok_bind]
    rfl

end Codec

section Valid

theorem seats_valid {document : SeatConfigDocument}
    (valid : validateSeatConfigDocument document = .ok ()) :
    document.schemaVersion = kProfileSchemaVersion ∧
      document.seats.length ≤ kMaximumPersistedSeats ∧
      validateSeats [] document.seats = .ok () := by
  unfold validateSeatConfigDocument at valid
  obtain ⟨version, valid⟩ := check_eq_ok valid
  obtain ⟨few, valid⟩ := check_eq_ok valid
  obtain ⟨_, seats, _⟩ := bind_eq_ok.mp valid
  rw [Bool.or_eq_true, not_or, decide_eq_true_eq, gt_iff_lt, not_lt] at few
  exact ⟨not_not.mp version, few.2, seats⟩

theorem players_valid {document : PlayerProfileDocument}
    (valid : validatePlayerProfileDocument document = .ok ()) :
    document.schemaVersion = kProfileSchemaVersion ∧ document.players.length ≤ kMaximumPlayers ∧
      document.players.forM validatePlayer = .ok () := by
  unfold validatePlayerProfileDocument at valid
  obtain ⟨version, valid⟩ := check_eq_ok valid
  obtain ⟨few, valid⟩ := check_eq_ok valid
  obtain ⟨_, players, _⟩ := bind_eq_ok.mp valid
  exact ⟨not_not.mp version, not_lt.mp few, players⟩

theorem games_version {document : GameRecordDocument}
    (valid : validateGameRecordDocument document = .ok ()) :
    document.schemaVersion = kProfileSchemaVersion := by
  unfold validateGameRecordDocument at valid
  exact not_not.mp (check_eq_ok valid).1

theorem setups_version {document : TwoPlayerSetupDocument}
    (valid : validateTwoPlayerSetupDocument document = .ok ()) :
    document.schemaVersion = kProfileSchemaVersion := by
  unfold validateTwoPlayerSetupDocument at valid
  exact not_not.mp (check_eq_ok valid).1

theorem selection_valid {selection : RuntimeSessionSelection}
    (valid : localValidate selection = .ok ()) :
    selection.schemaVersion = kProfileSchemaVersion ∧
      selection.bindings.length ≤ kMaximumRuntimeBindings := by
  unfold localValidate at valid
  obtain ⟨version, valid⟩ := check_eq_ok valid
  obtain ⟨few, _⟩ := check_eq_ok valid
  rw [Bool.or_eq_true, not_or, decide_eq_true_eq, gt_iff_lt, not_lt] at few
  exact ⟨not_not.mp version, few.2⟩

theorem sum_le {Item : Type} {weight : Item → Nat} {bound : Nat}
    {items : List Item} (each : ∀ item ∈ items, weight item ≤ bound) :
    (items.map weight).sum ≤ items.length * bound := by
  induction items with
  | nil => exact Nat.zero_le _
  | cons first rest ih =>
    have head := each first mem_cons_self
    have tail := ih fun item member => each item (mem_cons_of_mem _ member)
    rw [map_cons, sum_cons, length_cons, Nat.succ_mul]
    omega

end Valid

section Documents

variable {text : ByteString}

theorem schemaVersion_eq {object : Json.Value.Object}
    (found : Json.Holds object "schema_version" (asU32 · "schema_version") kProfileSchemaVersion) :
    schemaVersion object = .ok kProfileSchemaVersion := by
  unfold schemaVersion
  rw [required_bind found, if_neg (not_not.mpr rfl)]
  rfl

theorem written_versioned {Item : Type} {decode : Json.Value → Schema Item} {items : List Item}
    {texts : List ByteString} {nodes depth : Nat} {field : String}
    (label : String) (plain : plainKeys ["schema_version", field] = true)
    (written : WrittenItems decode items nodes depth texts) :
    Written (decodeVersioned label field decode)
      (kProfileSchemaVersion, items) (nodes + 3) (depth + 2)
      (versioned kProfileSchemaVersion field texts) := by
  have members : WrittenMembers ["schema_version", field] _ _ (depth + 1) _ :=
    .leaf (written_u32 kProfileSchemaVersion "schema_version") <|
    .cons (written_array written field) (by omega) .nil
  refine members.record plain (by omega) fun object hasKeys held => ?_
  obtain ⟨isVersion, areItems, _⟩ := held
  unfold decodeVersioned
  rw [asObject_object, ok_bind, exactFields_of hasKeys, ok_bind, schemaVersion_eq isVersion,
    ok_bind, items_eq areItems, ok_bind]
  rfl

/-- A document that is a list of items under its version. -/
theorem versioned_iff {Item Document : Type} {decode : Json.Value → Schema Item}
    {validate : Document → Schema Unit} {items : List Item} {texts : List ByteString}
    {version : UInt32} {nodes depth : Nat} {label field : String}
    {build : UInt32 → List Item → Document} (valid : validate (build version items) = .ok ())
    (current : version = kProfileSchemaVersion) (isText : versioned version field texts = text)
    (short : text.length ≤ kMaximumSchemaDocumentBytes)
    (written : WrittenItems decode items nodes depth texts) (shallow : depth ≤ 46)
    (plain : plainKeys ["schema_version", field] = true) :
    decodeValidated
        (fun value => do
          let read ← decodeVersioned label field decode value
          return build read.1 read.2)
        validate text = .ok (build version items) ↔
      nodes + 3 ≤ kMaximumNodes := by
  have root := written_versioned label plain written
  rw [← current, isText] at root
  exact decodeValidated_iff (root.map fun read => build read.1 read.2) (by omega) valid short

def seatsNodes (document : SeatConfigDocument) : Nat := (document.seats.map seatNodes).sum + 4

def playersNodes (document : PlayerProfileDocument) : Nat :=
  (document.players.map playerNodes).sum + 3

def gamesNodes (document : GameRecordDocument) : Nat := (document.games.map gameNodes).sum + 3

def setupsNodes (document : TwoPlayerSetupDocument) : Nat :=
  (document.setups.map setupNodes).sum + 3

def selectionNodes (selection : RuntimeSessionSelection) : Nat := 6 * selection.bindings.length + 3

theorem seats_iff {document : SeatConfigDocument}
    (encoded : encodeSeatConfigDocument document = .ok text) :
    decodeSeatConfigDocument text = .ok document ↔ seatsNodes document ≤ kMaximumNodes := by
  obtain ⟨valid, written, short⟩ := encodeValidated_eq_ok encoded
  obtain ⟨texts, seats, written⟩ := bind_eq_ok.mp written
  obtain rfl := pure_eq_ok written
  have version := (seats_valid valid).1
  have items : WrittenItems decodeSeat document.seats _ 2 texts :=
    writtenItems_mapM (fun _ _ _ encoded => written_seat encoded) seats
  have members : WrittenMembers seatDocumentFields _ _ 3 _ :=
    .leaf (written_u32 document.schemaVersion "schema_version") <|
    .leaf (written_u32 document.managementSeatId "management_seat_id") <|
    .cons (written_array items "seats") (by omega) .nil
  refine decodeValidated_iff (members.record seatDocumentFields_plain (by unfold seatsNodes; omega)
    fun object hasKeys held => ?_) (by decide) valid short
  obtain ⟨isVersion, management, areSeats, _⟩ := held
  rw [version] at isVersion
  rw [asObject_object, ok_bind, exactFields_of hasKeys, ok_bind, schemaVersion_eq isVersion,
    ok_bind, required_bind management, items_eq areSeats, ok_bind, ← version]
  rfl

theorem players_iff {document : PlayerProfileDocument}
    (encoded : encodePlayerProfileDocument document = .ok text) :
    decodePlayerProfileDocument text = .ok document ↔ playersNodes document ≤ kMaximumNodes := by
  obtain ⟨valid, written, short⟩ := encodeValidated_eq_ok encoded
  obtain ⟨texts, players, written⟩ := bind_eq_ok.mp written
  have isText := pure_eq_ok written
  have version := (players_valid valid).1
  have items : WrittenItems decodePlayer document.players _ 3 texts :=
    writtenItems_mapM (fun _ _ _ encoded => written_player encoded) players
  exact versioned_iff valid version isText short items (by decide) (by decide)

theorem games_iff {document : GameRecordDocument}
    (encoded : encodeGameRecordDocument document = .ok text) :
    decodeGameRecordDocument text = .ok document ↔ gamesNodes document ≤ kMaximumNodes := by
  obtain ⟨valid, written, short⟩ := encodeValidated_eq_ok encoded
  obtain ⟨texts, games, written⟩ := bind_eq_ok.mp written
  have isText := pure_eq_ok written
  have version := games_version valid
  have items : WrittenItems decodeGame document.games _ 2 texts :=
    writtenItems_mapM (fun _ _ _ encoded => written_game encoded) games
  exact versioned_iff valid version isText short items (by decide) (by decide)

theorem setups_iff {document : TwoPlayerSetupDocument}
    (encoded : encodeTwoPlayerSetupDocument document = .ok text) :
    decodeTwoPlayerSetupDocument text = .ok document ↔ setupsNodes document ≤ kMaximumNodes := by
  obtain ⟨valid, written, short⟩ := encodeValidated_eq_ok encoded
  obtain ⟨texts, setups, written⟩ := bind_eq_ok.mp written
  have isText := pure_eq_ok written
  have version := setups_version valid
  have items : WrittenItems decodeSetup document.setups _ 4 texts :=
    writtenItems_mapM (fun _ _ _ encoded => written_setup encoded) setups
  exact versioned_iff valid version isText short items (by decide) (by decide)

theorem selection_iff {selection : RuntimeSessionSelection}
    (encoded : encodeRuntimeSessionSelection selection = .ok text) :
    decodeRuntimeSessionSelection text = .ok selection ↔
      selectionNodes selection ≤ kMaximumNodes := by
  obtain ⟨valid, written, short⟩ := encodeValidated_eq_ok encoded
  have isText := pure_eq_ok written
  have version := (selection_valid valid).1
  have count : (selection.bindings.map fun _ => 6).sum = 6 * selection.bindings.length := by
    rw [map_const', sum_replicate_nat, Nat.mul_comm]
  have items : WrittenItems decodeBinding selection.bindings _ 1 _ :=
    writtenItems_map fun binding _ => written_binding binding
  rw [count] at items
  exact versioned_iff valid version isText short items (by decide) (by decide)

end Documents

inductive ProfileDocument where
  | seats (document : SeatConfigDocument)
  | players (document : PlayerProfileDocument)
  | games (document : GameRecordDocument)
  | setups (document : TwoPlayerSetupDocument)
  | selection (selection : RuntimeSessionSelection)

namespace ProfileDocument

def encode : ProfileDocument → Schema ByteString
  | .seats document => encodeSeatConfigDocument document
  | .players document => encodePlayerProfileDocument document
  | .games document => encodeGameRecordDocument document
  | .setups document => encodeTwoPlayerSetupDocument document
  | .selection chosen => encodeRuntimeSessionSelection chosen

/-- The decoder of its type makes this document of the text. -/
def ReadBack (text : ByteString) : ProfileDocument → Prop
  | .seats document => decodeSeatConfigDocument text = .ok document
  | .players document => decodePlayerProfileDocument text = .ok document
  | .games document => decodeGameRecordDocument text = .ok document
  | .setups document => decodeTwoPlayerSetupDocument text = .ok document
  | .selection chosen => decodeRuntimeSessionSelection text = .ok chosen

/-- The values of the document, with the document itself. -/
def nodes : ProfileDocument → Nat
  | .seats document => seatsNodes document
  | .players document => playersNodes document
  | .games document => gamesNodes document
  | .setups document => setupsNodes document
  | .selection chosen => selectionNodes chosen

/-- A document that was encoded is read back if and only if the decoder
counts as far as it has values. -/
theorem readBack_iff (document : ProfileDocument) (text : ByteString)
    (encoded : document.encode = .ok text) :
    document.ReadBack text ↔ document.nodes ≤ kMaximumNodes := by
  cases document with
  | seats document => exact seats_iff encoded
  | players document => exact players_iff encoded
  | games document => exact games_iff encoded
  | setups document => exact setups_iff encoded
  | selection selection => exact selection_iff encoded

end ProfileDocument

section Example

variable {setupId : ByteString}

theorem commas_length_le {bound : Nat} {texts : List ByteString}
    (each : ∀ text ∈ texts, text.length ≤ bound) :
    (Writing.commas texts).length ≤ texts.length * (bound + 1) := by
  have total := Writing.commas_length_le texts
  have most : (texts.map (·.length)).sum ≤ texts.length * bound := sum_le each
  rw [Nat.mul_succ]
  exact total.trans (Nat.add_le_add_right most _)

/-- A recipe with as many arguments as are allowed. -/
def fullRecipe : InstanceRecipe where
  arguments := replicate kMaximumArgumentsPerInstance []

def fullSetup (setupId : ByteString) : TwoPlayerSetup where
  setupId
  gameId := "g"
  displayName := wideOf "s"
  instances := [fullRecipe, fullRecipe]

def fullIds : List ByteString := (range 122).map decimal

def fullSetups : TwoPlayerSetupDocument where
  setups := fullIds.map fullSetup

def fullRecipeText : ByteString :=
  objectText
    [("arguments", bracketed (replicate kMaximumArgumentsPerInstance (quoteUtf8 []))),
      ("working_directory", "null"), ("data_root", "null")]

def fullSetupText (setupId : ByteString) : ByteString :=
  objectText
    [("setup_id", quoteUtf8 setupId), ("game_id", quoteUtf8 "g"), ("display_name", quoteUtf8 "s"),
      ("compatibility", "null"),
      ("instances", bracketed [fullRecipeText, fullRecipeText])]

theorem encode_fullRecipe : encodeRecipe fullRecipe = .ok fullRecipeText := by
  have arguments :
      fullRecipe.arguments.mapM quoteWide = .ok (fullRecipe.arguments.map fun _ => quoteUtf8 []) :=
    mapM_eq_ok fun argument member => by
      rw [eq_of_mem_replicate member]
      rfl
  unfold encodeRecipe writeWideArray
  rw [arguments]
  change Except.ok _ = Except.ok _
  unfold fullRecipeText fullRecipe
  rw [map_replicate]

theorem encode_fullSetup (setupId : ByteString) :
    encodeSetup (fullSetup setupId) = .ok (fullSetupText setupId) := by
  have instances :
      (fullSetup setupId).instances.mapM encodeRecipe = .ok [fullRecipeText, fullRecipeText] := by
    change [fullRecipe, fullRecipe].mapM encodeRecipe = _
    rw [mapM_cons, encode_fullRecipe, ok_bind, mapM_cons, encode_fullRecipe, ok_bind]
    rfl
  have name : quoteWide (fullSetup setupId).displayName = .ok (quoteUtf8 "s") := rfl
  unfold encodeSetup
  rw [name, ok_bind, instances, ok_bind]
  rfl

theorem validate_fullRecipe : validateRecipe fullRecipe = .ok () := by
  have arguments :
      (fullRecipe.arguments.forM fun argument =>
        validateWide argument kMaximumArgumentCodeUnits "instance argument" true) = .ok () :=
    forM_eq_ok_iff.mpr fun argument member => by
      rw [eq_of_mem_replicate member]
      rfl
  have most : ¬fullRecipe.arguments.length > kMaximumArgumentsPerInstance := by
    change ¬(replicate kMaximumArgumentsPerInstance _).length > _
    rw [length_replicate]
    exact lt_irrefl _
  unfold validateRecipe
  rw [if_neg most, arguments]
  rfl

theorem validate_fullSetup (valid : validIdentifier setupId = true) :
    validateSetup (fullSetup setupId) = .ok () := by
  have game : validIdentifier "g" = true := by decide
  have recipes : [fullRecipe, fullRecipe].forM validateRecipe = .ok () :=
    forM_eq_ok_iff.mpr fun recipe member => by
      have isFull : recipe = fullRecipe := by simpa using member
      rw [isFull]
      exact validate_fullRecipe
  have instances : (fullSetup setupId).instances = [fullRecipe, fullRecipe] := rfl
  have name :
      validateWide (fullSetup setupId).displayName
        kMaximumDisplayNameCodeUnits "setup display_name" false = .ok () :=
    rfl
  have reference : validateOptionalReference (fullSetup setupId).compatibility = .ok () := rfl
  unfold validateSetup
  rw [name, reference, instances, recipes]
  rw [if_neg (show ¬(!validIdentifier (fullSetup setupId).setupId ||
    !validIdentifier (fullSetup setupId).gameId) = true by
      change ¬(!validIdentifier setupId || !validIdentifier "g") = true
      rw [valid, game]
      decide)]
  rfl

theorem fullIds_valid (member : setupId ∈ fullIds) : validIdentifier setupId = true := by
  have all : (fullIds.all validIdentifier) = true := by decide
  exact all_eq_true.mp all setupId member

theorem fullIds_nodup : fullIds.Nodup := List.Nodup.map decimal_injective nodup_range

theorem fullIds_length : fullIds.length = 122 := by
  unfold fullIds
  rw [length_map, length_range]

theorem fullSetupText_length
    (member : setupId ∈ fullIds) : (fullSetupText setupId).length ≤ 1000 := by
  have all :
      (fullIds.all fun setupId => decide ((fullSetupText setupId).length ≤ 1000)) = true := by
    decide +kernel
  exact of_decide_eq_true (all_eq_true.mp all setupId member)

theorem validate_fullSetups : validateTwoPlayerSetupDocument fullSetups = .ok () := by
  have setups : fullSetups.setups.forM validateSetup = .ok () :=
    forM_eq_ok_iff.mpr fun setup member => by
      obtain ⟨setupId, isId, rfl⟩ := mem_map.mp member
      exact validate_fullSetup (fullIds_valid isId)
  have ids : fullSetups.setups.map (·.setupId) = fullIds := by
    change (fullIds.map fullSetup).map _ = _
    rw [map_map]
    exact map_id _
  have unique : uniqueIds fullIds "setups" = .ok () := uniqueIds_eq_ok_iff.mpr fullIds_nodup
  have few : ¬fullSetups.setups.length > kMaximumSetups := by
    change ¬(fullIds.map fullSetup).length > kMaximumSetups
    rw [length_map, fullIds_length]
    decide
  have version : ¬fullSetups.schemaVersion ≠ kProfileSchemaVersion := not_not.mpr rfl
  unfold validateTwoPlayerSetupDocument
  rw [if_neg version, if_neg few, setups, ids, unique]
  rfl

def fullSetupsText : ByteString :=
  versioned kProfileSchemaVersion "setups" (fullIds.map fullSetupText)

theorem versioned_length (setups : List ByteString) :
    (versioned kProfileSchemaVersion "setups" setups).length =
      (Writing.commas setups).length + 32 := by
  have brace : (bytesOf "\x7b").length = 1 := by decide
  have close : (bytesOf "\x7d").length = 1 := by decide
  have bracket : (bytesOf "[").length = 1 := by decide
  have last : (bytesOf "]").length = 1 := by decide
  have number :
      (bytesOf "\"" ++ bytesOf "schema_version" ++ bytesOf "\":" ++
        decimal kProfileSchemaVersion.toNat).length = 18 := by
    decide
  have name : (bytesOf "\"" ++ bytesOf "setups" ++ bytesOf "\":").length = 9 := by
    decide
  unfold versioned objectText bracketed
  rw [length_append, length_append, brace, close, map_cons,
    map_cons, map_nil]
  change 1 + (_ ++ 0x2C :: Writing.commas [_]).length + 1 = _
  rw [length_append, number, length_cons]
  change 1 + (18 + ((_ ++ _ ++ _ ++ (_ ++ _ ++ _) : ByteString).length + 1)) + 1 = _
  rw [length_append, name, length_append, length_append, bracket, last]
  omega

theorem fullSetupsText_length : fullSetupsText.length ≤ kMaximumSchemaDocumentBytes := by
  have each (text : ByteString)
      (member : text ∈ fullIds.map fullSetupText) : text.length ≤ 1000 := by
    obtain ⟨setupId, isId, rfl⟩ := mem_map.mp member
    exact fullSetupText_length isId
  have inner := commas_length_le each
  rw [length_map, fullIds_length] at inner
  unfold fullSetupsText
  rw [versioned_length]
  exact (Nat.add_le_add_right inner 32).trans (by decide)

theorem encode_fullSetups : encodeTwoPlayerSetupDocument fullSetups = .ok fullSetupsText := by
  have each (setup : TwoPlayerSetup) (member : setup ∈ fullSetups.setups) :
      encodeSetup setup = .ok (fullSetupText setup.setupId) := by
    obtain ⟨setupId, _, rfl⟩ := mem_map.mp member
    exact encode_fullSetup setupId
  have setups := mapM_eq_ok each
  have texts :
      fullSetups.setups.map (fun setup => fullSetupText setup.setupId) =
        fullIds.map fullSetupText := by
    change (fullIds.map fullSetup).map _ = _
    rw [map_map]
    rfl
  refine encodeValidated_ok validate_fullSetups ?_ fullSetupsText_length
  rw [setups, ok_bind, texts]
  rfl

theorem nodes_fullSetups : (ProfileDocument.setups fullSetups).nodes = 32943 := by
  have recipe : recipeNodes fullRecipe = 132 := by
    unfold recipeNodes fullRecipe
    rw [length_replicate]
    rfl
  have each (setupId : ByteString) : setupNodes (fullSetup setupId) = 270 := by
    change ([fullRecipe, fullRecipe].map recipeNodes).sum + 1 + 5 = 270
    rw [map_cons, map_cons, map_nil, recipe]
    rfl
  change (((fullIds.map fullSetup).map setupNodes).sum + 3) = _
  rw [map_map]
  change ((fullIds.map fun setupId => setupNodes (fullSetup setupId)).sum + 3) = _
  rw [map_congr_left fun setupId _ => each setupId, map_const',
    sum_replicate_nat, fullIds_length]

end Example

namespace ProfileDocument

/-- A document of 122 setups, with as many arguments as are allowed, is
written and refused. -/
theorem fullSetups_not_readBack :
    ¬∀ (document : ProfileDocument) (text : ByteString),
      document.encode = .ok text → document.ReadBack text := by
  intro all
  have few := (setups_iff encode_fullSetups).mp
    (all (.setups fullSetups) fullSetupsText encode_fullSetups)
  have many : setupsNodes fullSetups = 32943 := nodes_fullSetups
  unfold kMaximumNodes at few
  omega

def sampleSelection : RuntimeSessionSelection where
  bindings := [{ seatId := 1, playerId := "p", gameId := "g" }]

def sampleSelectionText : ByteString :=
  versioned kProfileSchemaVersion "bindings" (sampleSelection.bindings.map encodeBinding)

theorem encode_sampleSelection :
    (ProfileDocument.selection sampleSelection).encode = .ok sampleSelectionText := by
  change encodeRuntimeSessionSelection sampleSelection = _
  exact encodeValidated_ok rfl rfl (by decide +kernel)

theorem sampleSelection_readBack :
    (ProfileDocument.selection sampleSelection).ReadBack sampleSelectionText ↔
      (ProfileDocument.selection sampleSelection).nodes ≤ kMaximumNodes :=
  readBack_iff (.selection sampleSelection) sampleSelectionText encode_sampleSelection

end ProfileDocument

end HydraSeat.Profile
