import HydraSeat.Materialization.DecisionDocument
import HydraSeat.Materialization.PathLaws
import HydraSeat.Json.Reading
import HydraSeat.Profile.ReadBack

/-!
# Which decisions are read back

The encoder takes paths with control characters and counts no values; the
decoder refuses such paths and stops counting at its budget.  Every other
document is read back as it was written.
-/

namespace HydraSeat.Materialization

open Foundation Json List
open Profile

section Values

theorem written_string (value : ByteString) (label : String) :
    Written (asString · label) value 1 0 (quote value) :=
  ⟨.string value, rfl, rfl, Nat.le_refl _, rfl⟩

theorem written_optionalString (value : Option ByteString) (label : String) :
    Written (asOptionalString · label) value 1 0 (optionalStringJson value) := by
  cases value with
  | none => exact written_null rfl
  | some value => exact ⟨.string value, rfl, rfl, Nat.le_refl _, rfl⟩

def misread (message : ByteString) : MaterializationDecisionStoreDiagnostic :=
  ⟨.parseError, message⟩

theorem written_u64 (value : UInt64) (label : String) :
    Written (asU64 · label) value 1 0 (decimal value.toNat) :=
  Json.written_u64 misread label " is outside the unsigned integer range" value

theorem written_u32 (value : UInt32) (label : String) :
    Written (asU32 · label) value 1 0 (decimal value.toNat) :=
  Json.written_u32 misread label " is outside the unsigned integer range"
    " exceeds uint32 range" value

theorem written_origin (origin : LocalMaterializationDecisionOrigin) :
    Written (fun value => asString value "origin" >>= parseOrigin) origin 1 0
      (quote (bytesOf (localMaterializationDecisionOriginName origin))) := by
  refine ⟨.string _, rfl, rfl, Nat.le_refl _, ?_⟩
  cases origin with
  | localApproved | importedCommunity => rfl

theorem written_phase (phase : RecipeExecutionPhase) :
    Written (fun value => asString value "phase" >>= parsePhase) phase 1 0
      (quote (bytesOf (phaseName phase))) := by
  refine ⟨.string _, rfl, rfl, Nat.le_refl _, ?_⟩
  cases phase with
  | preSpawn | startup | postWindow | runtime => rfl

theorem written_scope (scope : MutationScope) :
    Written (fun value => asString value "scope" >>= parseScope) scope 1 0
      (quote (bytesOf (scopeName scope))) := by
  refine ⟨.string _, rfl, rfl, Nat.le_refl _, ?_⟩
  cases scope with
  | seatWritableInstance | sharedInstallation => rfl

end Values

section Steps

variable {Item Result : Type} {next : Item → DecisionStore Result}
variable {items : List Item}

theorem asObject_object (object : Value.Object) (label : String) :
    asObject (.object object) label = .ok object :=
  rfl

theorem written_array {read : Value → DecisionStore Item} {nodes depth : Nat}
    {texts : List ByteString}
    (written : WrittenItems read items nodes depth texts)
    (label : String) :
    Written (fun value => asArray value label >>= (·.mapM read)) items
      (nodes + 1) (depth + 1) (bracketed texts) :=
  written.array fun _ => rfl

variable {keys : List String} {object : Value.Object} {key label : String}
  {read : Value → DecisionStore Item} {item : Item}

theorem required_bind (found : Holds object key read item) :
    (required object key >>= fun value => read value >>= next) = next item :=
  readMember_bind (fun name => misread ("missing required field: " ++ name)) found

theorem required_text {read : ByteString → DecisionStore Item}
    (found : Holds object key (fun value => asString value label >>= read) item) :
    (required object key >>= fun value =>
      asString value label >>= fun text => read text >>= next) = next item := by
  refine Eq.trans ?_ (required_bind found)
  simp only [bind_assoc]

theorem required_items {next : List Item → DecisionStore Result}
    (found : Holds object key (fun value => asArray value label >>= (·.mapM read)) items) :
    (required object key >>= fun value =>
      asArray value label >>= fun array => array.mapM read >>= next) = next items := by
  refine Eq.trans ?_ (required_bind found)
  simp only [bind_assoc]

theorem requireFields_of (hasKeys : HasKeys keys object) : requireFields object keys = .ok () := by
  unfold requireFields
  rw [hasKeys.no_other]
  dsimp only
  rw [if_neg (not_not.mpr hasKeys.count)]

end Steps

variable {file : MutableFileSpec} {text : ByteString} {step : CompatibilityRecipeStep}
  {decision : LocalMaterializationDecision} {document : LocalMaterializationDecisionDocument}
  {value : Value} {path : WideString}

theorem written_compatibility (reference : Option CompatibilityReference) :
    Written parseCompatibility reference (referenceNodes reference) 1
      (compatibilityJson reference) := by
  cases reference with
  | none =>
    have isNull : parseCompatibility .null = .ok none := rfl
    exact (written_null isNull).deepen (Nat.zero_le 1)
  | some reference =>
    have members : WrittenMembers ["record_id", "provenance", "evidence_revision"] _ _ 0 _ :=
      .leaf (written_string reference.recordId "record_id") <|
      .leaf (written_string reference.provenance "provenance") <|
      .leaf (written_u32 reference.evidenceRevision "evidence_revision") .nil
    refine members.record (by decide) rfl fun object hasKeys held => ?_
    obtain ⟨recordId, provenance, revision, _⟩ := held
    unfold parseCompatibility
    dsimp only
    rw [asObject_object, ok_bind, requireFields_of hasKeys, ok_bind, required_bind recordId,
      required_bind provenance, required_bind revision]
    rfl

def PlainFile (file : MutableFileSpec) : Prop :=
  PlainPath file.sourceRelativePath ∧ PlainPath file.destinationRelativePath

theorem written_file (encoded : encodeFile file = .ok text) (plain : PlainFile file) :
    Written parseFile file 4 1 text := by
  unfold encodeFile at encoded
  split at encoded
  next source destination isSource isDestination =>
    cases encoded
    have members : WrittenMembers fileFields _ _ 0 _ :=
      .leaf (written_string source "source_relative_path") <|
      .leaf (written_string destination "destination_relative_path") <|
      .leaf (written_u64 file.maximumBytes "maximum_bytes") .nil
    refine members.record fileFields_plain rfl fun object hasKeys held => ?_
    obtain ⟨source, destination, maximum, _⟩ := held
    unfold parseFile
    rw [asObject_object, ok_bind, requireFields_of hasKeys, ok_bind, required_bind source,
      required_bind destination, utf8ToWide_of_plain isSource plain.1,
      utf8ToWide_of_plain isDestination plain.2]
    dsimp only
    rw [required_bind maximum]
    rfl
  next => cases encoded

def stepNodes (step : CompatibilityRecipeStep) : Nat := 4 * step.files.length + 5

theorem written_step (encoded : encodeStep step = .ok text)
    (plain : ∀ file ∈ step.files, PlainFile file) :
    Written parseStep step (stepNodes step) 3 text := by
  obtain ⟨texts, files, encoded⟩ := bind_eq_ok.mp encoded
  obtain rfl := pure_eq_ok encoded
  have filesNodes : (step.files.map fun _ => 4).sum = 4 * step.files.length := by
    rw [map_const', sum_replicate_nat, Nat.mul_comm]
  have items : WrittenItems parseFile step.files _ 1 texts := writtenItems_mapM
    (fun file member _ encoded => written_file encoded (plain file member))
    files
  rw [filesNodes] at items
  have members : WrittenMembers stepFields _ _ 2 _ :=
    .leaf (written_string step.stepId "step_id") <|
    .leaf (written_phase step.phase) <|
    .leaf (written_scope step.scope) <|
    .cons (written_array items "files") (by omega) .nil
  refine members.record stepFields_plain (by unfold stepNodes; omega) fun object hasKeys held => ?_
  obtain ⟨stepId, phase, scope, areFiles, _⟩ := held
  unfold parseStep
  rw [asObject_object, ok_bind, requireFields_of hasKeys, ok_bind, required_bind stepId,
    required_text phase, required_text scope, required_items areFiles]
  rfl

def decisionNodes (decision : LocalMaterializationDecision) : Nat :=
  (decision.steps.map stepNodes).sum + referenceNodes decision.compatibility + 13

theorem written_decision (encoded : encodeDecision decision = .ok text)
    (plain : ∀ step ∈ decision.steps, ∀ file ∈ step.files, PlainFile file) :
    Written parseDecision decision (decisionNodes decision) 5 text := by
  obtain ⟨texts, steps, encoded⟩ := bind_eq_ok.mp encoded
  obtain rfl := pure_eq_ok encoded
  have items : WrittenItems parseStep decision.steps _ 3 texts := writtenItems_mapM
    (fun step member _ encoded => written_step encoded (plain step member))
    steps
  have members : WrittenMembers decisionFields _ _ 4 _ :=
    .leaf (written_u32 decision.schemaVersion "schema_version") <|
    .leaf (written_string decision.decisionId "decision_id") <|
    .leaf (written_u64 decision.revision "revision") <|
    .leaf (written_origin decision.origin) <|
    .leaf (written_string decision.setupId "setup_id") <|
    .leaf (written_u32 decision.instanceIndex "instance_index") <|
    .leaf (written_string decision.gameId "game_id") <|
    .leaf (written_string decision.providerId "provider_id") <|
    .leaf (written_optionalString decision.providerAppId "provider_app_id") <|
    .leaf (written_u64 decision.providerMetadataRevision "provider_metadata_revision") <|
    .leaf (written_u64 decision.requirementRevision "requirement_revision") <|
    .cons (written_compatibility decision.compatibility) (by omega) <|
    .cons (written_array items "steps") (by omega) .nil
  refine members.record decisionFields_plain (by unfold decisionNodes; omega)
    fun object hasKeys held => ?_
  obtain ⟨version, decisionId, revision, origin, setupId, index, gameId, provider, appId,
    metadata, requirement, compatibility, areSteps, _⟩ := held
  unfold parseDecision
  rw [asObject_object, ok_bind, requireFields_of hasKeys, ok_bind, required_bind version,
    required_bind decisionId, required_bind revision, required_text origin,
    required_bind setupId, required_bind index, required_bind gameId, required_bind provider,
    required_bind appId, required_bind metadata, required_bind requirement,
    required_bind compatibility, required_items areSteps]
  rfl

def PlainDocument (document : LocalMaterializationDecisionDocument) : Prop :=
  ∀ decision ∈ document.decisions, ∀ step ∈ decision.steps, ∀ file ∈ step.files, PlainFile file

/-- The values of the document, with the document itself. -/
def documentNodes (document : LocalMaterializationDecisionDocument) : Nat :=
  (document.decisions.map decisionNodes).sum + 3

theorem written_document (encoded : encodeDocument document = .ok text)
    (few : document.decisions.length ≤ kMaximumLocalMaterializationDecisions)
    (plain : PlainDocument document) :
    Written parseDocument document (documentNodes document) 7 text := by
  obtain ⟨texts, decisions, encoded⟩ := bind_eq_ok.mp encoded
  obtain rfl := pure_eq_ok encoded
  have items : WrittenItems parseDecision document.decisions _ 5 texts := writtenItems_mapM
    (fun decision member _ encoded => written_decision encoded (plain decision member))
    decisions
  have members : WrittenMembers ["schema_version", "decisions"] _ _ 6 _ :=
    .leaf (written_u32 document.schemaVersion "schema_version") <|
    .cons (written_array items "decisions") (by omega) .nil
  refine members.record (by decide) (by unfold documentNodes; omega) fun object hasKeys held => ?_
  obtain ⟨version, ⟨value, isValue, areDecisions⟩, _⟩ := held
  obtain ⟨array, isArray, isRead⟩ := bind_eq_ok.mp areDecisions
  have bounded : ¬array.length > kMaximumLocalMaterializationDecisions := by
    rw [← length_of_mapM isRead]
    exact Nat.not_lt.mpr few
  have found : required object "decisions" = .ok value := by
    unfold required
    rw [isValue]
  unfold parseDocument
  rw [asObject_object, ok_bind, requireFields_of hasKeys, ok_bind, required_bind version,
    found, ok_bind, isArray, ok_bind, if_neg bounded, isRead]
  rfl

theorem parseFile_plain (read : parseFile value = .ok file) : PlainFile file := by
  iterate 6 obtain ⟨_, _, read⟩ := bind_eq_ok.mp read
  split at read
  next source destination =>
    obtain ⟨_, _, read⟩ := bind_eq_ok.mp read
    obtain ⟨_, _, read⟩ := bind_eq_ok.mp read
    obtain rfl := pure_eq_ok read
    exact ⟨utf8ToWide_plain source, utf8ToWide_plain destination⟩
  next => cases read

theorem parseStep_files (read : parseStep value = .ok step) :
    ∃ array : List Value, array.mapM parseFile = .ok step.files := by
  iterate 11 obtain ⟨_, _, read⟩ := bind_eq_ok.mp read
  obtain ⟨array, _, read⟩ := bind_eq_ok.mp read
  obtain ⟨_, files, read⟩ := bind_eq_ok.mp read
  obtain rfl := pure_eq_ok read
  exact ⟨array, files⟩

theorem parseDecision_steps (read : parseDecision value = .ok decision) :
    ∃ array : List Value, array.mapM parseStep = .ok decision.steps := by
  iterate 28 obtain ⟨_, _, read⟩ := bind_eq_ok.mp read
  obtain ⟨array, _, read⟩ := bind_eq_ok.mp read
  obtain ⟨_, steps, read⟩ := bind_eq_ok.mp read
  obtain rfl := pure_eq_ok read
  exact ⟨array, steps⟩

theorem parseDocument_decisions (read : parseDocument value = .ok document) :
    ∃ array : List Value, array.mapM parseDecision = .ok document.decisions := by
  iterate 5 obtain ⟨_, _, read⟩ := bind_eq_ok.mp read
  obtain ⟨array, _, read⟩ := bind_eq_ok.mp read
  obtain ⟨_, read⟩ := check_eq_ok read
  obtain ⟨_, decisions, read⟩ := bind_eq_ok.mp read
  obtain rfl := pure_eq_ok read
  exact ⟨array, decisions⟩

theorem parseDocument_plain (read : parseDocument value = .ok document) :
    PlainDocument document := by
  intro decision isDecision step isStep file isFile
  obtain ⟨_, decisions⟩ := parseDocument_decisions read
  obtain ⟨_, _, read⟩ := mem_of_mapM decisions decision isDecision
  obtain ⟨_, steps⟩ := parseDecision_steps read
  obtain ⟨_, _, read⟩ := mem_of_mapM steps step isStep
  obtain ⟨_, files⟩ := parseStep_files read
  obtain ⟨_, _, read⟩ := mem_of_mapM files file isFile
  exact parseFile_plain read

theorem decode_eq_ok {bytes : ByteString}
    (decoded : decodeLocalMaterializationDecisionDocumentJson bytes = .ok document) :
    ∃ value, parseJson bytes = .ok value ∧ parseDocument value = .ok document := by
  unfold decodeLocalMaterializationDecisionDocumentJson at decoded
  obtain ⟨_, decoded⟩ := check_eq_ok decoded
  obtain ⟨_, decoded⟩ := check_eq_ok decoded
  obtain ⟨value, parsed, decoded⟩ := bind_eq_ok.mp decoded
  obtain ⟨found, read, decoded⟩ := bind_eq_ok.mp decoded
  obtain ⟨_, _, decoded⟩ := bind_eq_ok.mp decoded
  obtain rfl := pure_eq_ok decoded
  exact ⟨value, parsed, read⟩

theorem encode_eq_ok
    (encoded : encodeLocalMaterializationDecisionDocumentJson document = .ok text) :
    validateLocalMaterializationDecisionDocument document = .ok () ∧
      encodeDocument document = .ok text ∧ text.isEmpty = false ∧
      text.length ≤ kMaximumLocalMaterializationDecisionBytes := by
  obtain ⟨_, valid, encoded⟩ := bind_eq_ok.mp encoded
  obtain ⟨bytes, isBytes, encoded⟩ := bind_eq_ok.mp encoded
  obtain ⟨fits, encoded⟩ := not_taken encoded nofun
  obtain rfl := pure_eq_ok encoded
  rw [Bool.or_eq_true, not_or, Bool.not_eq_true, decide_eq_true_eq, gt_iff_lt, not_lt] at fits
  exact ⟨valid, isBytes, fits⟩

theorem valid_few (valid : validateLocalMaterializationDecisionDocument document = .ok ()) :
    document.decisions.length ≤ kMaximumLocalMaterializationDecisions := by
  unfold validateLocalMaterializationDecisionDocument at valid
  obtain ⟨_, valid⟩ := check_eq_ok valid
  obtain ⟨few, _⟩ := check_eq_ok valid
  exact Nat.not_lt.mp few

/-- The values that the parser of the store counts up to. -/
def kMaximumNodes : Nat := 32768

theorem parseJson_written (writing : Writing) (flat : writing.depth ≤ 48)
    (short : writing.text.length ≤ kMaximumLocalMaterializationDecisionBytes)
    (value : Value) :
    parseJson writing.text = .ok value ↔ value = writing.value ∧ writing.nodes ≤ kMaximumNodes := by
  have law := writing.parse_iff ⟨48, 32768⟩ flat (short.trans_lt (by decide)) value
  unfold parseJson
  constructor
  · intro parsed
    split at parsed
    next found same =>
      cases parsed
      exact law.mp same
    next => cases parsed
  · intro few
    rw [law.mpr few]

/-- A document that was encoded is read back if and only if its paths hold no
control character and the decoder counts as far as it has values. -/
theorem decode_encode_iff (document : LocalMaterializationDecisionDocument) (text : ByteString)
    (encoded : encodeLocalMaterializationDecisionDocumentJson document = .ok text) :
    decodeLocalMaterializationDecisionDocumentJson text = .ok document ↔
      PlainDocument document ∧ documentNodes document ≤ kMaximumNodes := by
  obtain ⟨valid, isText, some, short⟩ := encode_eq_ok encoded
  have few := valid_few valid
  constructor
  · intro decoded
    obtain ⟨value, parsed, read⟩ := decode_eq_ok decoded
    have plain := parseDocument_plain read
    obtain ⟨writing, rfl, isNodes, flat, _⟩ := (written_document isText few plain).writing
    have law := parseJson_written writing (flat.trans (by decide)) short value
    exact ⟨plain, isNodes ▸ (law.mp parsed).2⟩
  · rintro ⟨plain, bounded⟩
    obtain ⟨writing, rfl, isNodes, flat, read⟩ := (written_document isText few plain).writing
    have parsed : parseJson writing.text = .ok writing.value :=
      (parseJson_written writing (flat.trans (by decide)) short _).mpr ⟨rfl, isNodes.symm ▸ bounded⟩
    unfold decodeLocalMaterializationDecisionDocumentJson
    rw [if_neg (Bool.not_eq_true _ ▸ some), if_neg (Nat.not_lt.mpr short),
      parsed, ok_bind, read, ok_bind, valid, ok_bind]
    rfl

/-- One decision that copies one file from the given path. -/
def copying (sourceRelativePath : WideString) : LocalMaterializationDecisionDocument where
  decisions :=
    [{  decisionId := "d"
        revision := 1
        setupId := "s"
        gameId := "g"
        providerId := "p"
        providerMetadataRevision := 1
        requirementRevision := 1
        steps :=
          [{  stepId := "copy"
              files :=
                [{ sourceRelativePath
                   destinationRelativePath := wideOf "b" }] }] }]

theorem copying_encoded
    (encodes : (encodeLocalMaterializationDecisionDocumentJson (copying path)).isOk = true) :
    ∃ text, encodeLocalMaterializationDecisionDocumentJson (copying path) = .ok text := by
  cases encoded : encodeLocalMaterializationDecisionDocumentJson (copying path) with
  | error =>
    rw [encoded] at encodes
    cases encodes
  | ok text => exact ⟨text, rfl⟩

theorem plainPath_letter {letter : UInt16} (isLetter : path = [letter])
    (plain : 32 ≤ letter.toNat ∧ letter.toNat ≠ 127) : PlainPath path := by
  subst isLetter
  intro unit member
  obtain rfl := mem_singleton.mp member
  exact plain

theorem copying_plain_iff (path : WideString) : PlainDocument (copying path) ↔ PlainPath path := by
  have destination : PlainPath (wideOf "b") :=
    plainPath_letter (show wideOf "b" = [98] by decide) (by decide)
  constructor
  · intro plain
    exact (plain _ mem_cons_self _ mem_cons_self _ mem_cons_self).1
  intro plain decision isDecision step isStep file isFile
  obtain rfl := mem_singleton.mp isDecision
  obtain rfl := mem_singleton.mp isStep
  obtain rfl := mem_singleton.mp isFile
  exact ⟨plain, destination⟩

theorem plain_copy_read_back :
    ∃ text,
      encodeLocalMaterializationDecisionDocumentJson (copying (wideOf "a")) = .ok text ∧
        decodeLocalMaterializationDecisionDocumentJson text = .ok (copying (wideOf "a")) := by
  obtain ⟨text, encoded⟩ := copying_encoded
    (show (encodeLocalMaterializationDecisionDocumentJson
      (copying (wideOf "a"))).isOk = true by decide +kernel)
  have plain : PlainPath (wideOf "a") :=
    plainPath_letter (show wideOf "a" = [97] by decide) (by decide)
  exact ⟨text, encoded,
    (decode_encode_iff (copying (wideOf "a")) text encoded).mpr
      ⟨(copying_plain_iff _).mpr plain, by decide⟩⟩

/-- A path with a tab is written and refused. -/
theorem tab_not_read_back :
    ¬∀ (document : LocalMaterializationDecisionDocument) (text : ByteString),
      encodeLocalMaterializationDecisionDocumentJson document = .ok text →
        decodeLocalMaterializationDecisionDocumentJson text = .ok document := by
  intro all
  obtain ⟨text, encoded⟩ := copying_encoded
      (show (encodeLocalMaterializationDecisionDocumentJson
        (copying [9])).isOk = true by decide +kernel)
  have plain := ((decode_encode_iff _ _ encoded).mp (all (copying [9]) text encoded)).1
  have tab := (copying_plain_iff [9]).mp plain 9 mem_cons_self
  exact absurd tab.1 (by decide)

end HydraSeat.Materialization
