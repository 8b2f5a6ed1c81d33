import HydraSeat.Json.Fields
import HydraSeat.Materialization.DecisionText
import HydraSeat.Profile.ProfileSchema

/-!
# The document of materialization decisions

The decisions that the local store keeps, the checks that they have to pass,
and the codec of the document.
-/

namespace HydraSeat.Materialization

open Json

open Profile

variable (document : LocalMaterializationDecisionDocument) (value : ByteString)

def kLocalMaterializationDecisionSchemaVersion : UInt32 := 1

def kMaximumLocalMaterializationDecisions : Nat := 128

def kMaximumLocalMaterializationDecisionBytes : Nat := 1024 * 1024

def kMaximumCompatibilityRecipeSteps : Nat := 16

def kMaximumMutableFilesPerRecipe : Nat := 64

def kMaximumSingleMutableFileBytes : UInt64 := 16 * 1024 * 1024

def kMaximumMutableBytesPerInstance : UInt64 := 64 * 1024 * 1024

inductive RecipeExecutionPhase where
  | preSpawn | startup | postWindow | runtime

inductive MutationScope where
  | seatWritableInstance | sharedInstallation
  deriving DecidableEq

inductive LocalMaterializationDecisionOrigin where
  | localApproved | importedCommunity

structure MutableFileSpec where
  (sourceRelativePath destinationRelativePath : WideString := [])
  maximumBytes : UInt64 := kMaximumSingleMutableFileBytes

structure CompatibilityRecipeStep where
  stepId : ByteString := []
  phase : RecipeExecutionPhase := .preSpawn
  scope : MutationScope := .seatWritableInstance
  files : List MutableFileSpec := []

structure LocalMaterializationDecision where
  schemaVersion : UInt32 := kLocalMaterializationDecisionSchemaVersion
  decisionId : ByteString := []
  revision : UInt64 := 0
  origin : LocalMaterializationDecisionOrigin := .localApproved
  setupId : ByteString := []
  instanceIndex : UInt32 := 0
  (gameId providerId : ByteString := [])
  providerAppId : Option ByteString := none
  (providerMetadataRevision requirementRevision : UInt64 := 0)
  compatibility : Option CompatibilityReference := none
  steps : List CompatibilityRecipeStep := []

structure LocalMaterializationDecisionDocument where
  schemaVersion : UInt32 := kLocalMaterializationDecisionSchemaVersion
  decisions : List LocalMaterializationDecision := []

def identifierByte (ch : UInt8) : Bool :=
  Profile.isAlnum ch || ch == 0x2E || ch == 0x5F || ch == 0x2D ||
    ch == 0x3A || ch == 0x40 || ch == 0x2B

def boundedIdentifier : Bool :=
  !value.isEmpty && value.length ≤ kMaximumIdentifierBytes && value.all identifierByte

def boundedStepId : Bool := !value.isEmpty && value.length ≤ 128 && boundedIdentifier value

def validCompatibilityReference (value : Option CompatibilityReference) : Bool :=
  value.all fun reference =>
    boundedIdentifier reference.recordId && boundedIdentifier reference.provenance &&
      reference.evidenceRevision != 0

def validIdentity (decision : LocalMaterializationDecision) : Bool :=
  decision.schemaVersion == kLocalMaterializationDecisionSchemaVersion &&
    boundedIdentifier decision.decisionId && decision.revision != 0 &&
    boundedIdentifier decision.setupId && decision.instanceIndex < 2 &&
    boundedIdentifier decision.gameId &&
    boundedIdentifier decision.providerId &&
    decision.providerAppId.all boundedIdentifier &&
    decision.providerMetadataRevision != 0 &&
    decision.requirementRevision != 0 &&
    validCompatibilityReference decision.compatibility

def validPath (path : WideString) : Bool := !path.isEmpty && path.length ≤ 2048 && !path.contains 0

/-- The loop over the files of a step, with the bytes so far. -/
def validateFiles (totalMaximumBytes : UInt64) : List MutableFileSpec → DecisionStore UInt64
  | [] => .ok totalMaximumBytes
  | file :: rest => do
      if !validPath file.sourceRelativePath || !validPath file.destinationRelativePath ||
          file.maximumBytes == 0 ||
          file.maximumBytes > kMaximumSingleMutableFileBytes ||
          totalMaximumBytes > kMaximumMutableBytesPerInstance - file.maximumBytes then
        decisionFailure .invalidDocument "local materialization mutable-file bounds are invalid"
      if (wideToUtf8 file.sourceRelativePath).isNone ||
          (wideToUtf8 file.destinationRelativePath).isNone then
        decisionFailure .invalidDocument "local materialization path is not valid Unicode"
      validateFiles (totalMaximumBytes + file.maximumBytes) rest

/-- The loop over the steps, with the ids, the files and the bytes so far. -/
def validateSteps (stepIds : List ByteString) (fileCount : Nat) (totalMaximumBytes : UInt64) :
    List CompatibilityRecipeStep → DecisionStore Unit
  | [] => .ok ()
  | step :: rest => do
      if !boundedStepId step.stepId || stepIds.contains step.stepId ||
          step.scope != .seatWritableInstance || step.files.isEmpty then
        decisionFailure .invalidDocument
          (bytesOf ("local materialization step is invalid or requests " ++ "shared mutation"))
      if fileCount + step.files.length > kMaximumMutableFilesPerRecipe then
        decisionFailure .invalidDocument
          (bytesOf ("local materialization decision exceeds " ++ "mutable-file count"))
      let totalMaximumBytes ← validateFiles totalMaximumBytes step.files
      validateSteps (step.stepId :: stepIds) (fileCount + step.files.length) totalMaximumBytes rest

/-- The loop over the decisions, with the ids and the instances so far. -/
def validateDecisions (decisionIds : List ByteString)
    (setupInstances : List (ByteString × UInt32)) :
    List LocalMaterializationDecision → DecisionStore Unit
  | [] => .ok ()
  | decision :: rest => do
      let setupInstance := (decision.setupId, decision.instanceIndex)
      if !validIdentity decision then
        decisionFailure .invalidDocument
          (bytesOf ("local materialization decision has invalid " ++ "identity/revision fields"))
      if decisionIds.contains decision.decisionId || setupInstances.contains setupInstance then
        decisionFailure .invalidDocument "local materialization decision identity is duplicated"
      if decision.steps.isEmpty || decision.steps.length > kMaximumCompatibilityRecipeSteps then
        decisionFailure .invalidDocument "local materialization decision has invalid step count"
      validateSteps [] 0 0 decision.steps
      validateDecisions (decision.decisionId :: decisionIds) (setupInstance :: setupInstances) rest

def validateLocalMaterializationDecisionDocument : DecisionStore Unit := do
  if document.schemaVersion ≠ kLocalMaterializationDecisionSchemaVersion then
    decisionFailure .invalidDocument
      (bytesOf ("unsupported local materialization decision document " ++ "version"))
  if document.decisions.length > kMaximumLocalMaterializationDecisions then
    decisionFailure .invalidDocument "too many local materialization decisions"
  validateDecisions [] [] document.decisions

def phaseName : RecipeExecutionPhase → String
  | .preSpawn => "pre-spawn"
  | .startup => "startup"
  | .postWindow => "post-window"
  | .runtime => "runtime"

def scopeName : MutationScope → String
  | .seatWritableInstance => "seat-writable-instance"
  | .sharedInstallation => "shared-installation"

def localMaterializationDecisionOriginName : LocalMaterializationDecisionOrigin → String
  | .localApproved => "local-approved"
  | .importedCommunity => "imported-community"

def compatibilityJson : Option CompatibilityReference → ByteString
  | none => "null"
  | some value =>
    objectText
      [("record_id", quote value.recordId), ("provenance", quote value.provenance),
        ("evidence_revision", decimal value.evidenceRevision.toNat)]

def encodeFile (file : MutableFileSpec) : DecisionStore ByteString :=
  match wideToUtf8 file.sourceRelativePath, wideToUtf8 file.destinationRelativePath with
  | some source, some destination =>
    .ok
      (objectText
        [("source_relative_path", quote source), ("destination_relative_path", quote destination),
          ("maximum_bytes", decimal file.maximumBytes.toNat)])
  | _, _ =>
    decisionFailure .invalidDocument "local materialization path could not be encoded as UTF-8"

def encodeStep (step : CompatibilityRecipeStep) : DecisionStore ByteString := do
  let files ← step.files.mapM encodeFile
  return objectText
    [("step_id", quote step.stepId), ("phase", quote (bytesOf (phaseName step.phase))),
      ("scope", quote (bytesOf (scopeName step.scope))),
      ("files", bracketed files)]

def encodeDecision (decision : LocalMaterializationDecision) : DecisionStore ByteString := do
  let steps ← decision.steps.mapM encodeStep
  return objectText
    [("schema_version", decimal decision.schemaVersion.toNat),
      ("decision_id", quote decision.decisionId),
      ("revision", decimal decision.revision.toNat),
      ("origin", quote (bytesOf (localMaterializationDecisionOriginName decision.origin))),
      ("setup_id", quote decision.setupId),
      ("instance_index", decimal decision.instanceIndex.toNat),
      ("game_id", quote decision.gameId),
      ("provider_id", quote decision.providerId),
      ("provider_app_id", optionalStringJson decision.providerAppId),
      ("provider_metadata_revision", decimal decision.providerMetadataRevision.toNat),
      ("requirement_revision", decimal decision.requirementRevision.toNat),
      ("compatibility", compatibilityJson decision.compatibility),
      ("steps", bracketed steps)]

def encodeDocument : DecisionStore ByteString := do
  let decisions ← document.decisions.mapM encodeDecision
  return objectText
    [("schema_version", decimal document.schemaVersion.toNat), ("decisions", bracketed decisions)]

def encodeLocalMaterializationDecisionDocumentJson : DecisionStore ByteString := do
  validateLocalMaterializationDecisionDocument document
  let bytes ← encodeDocument document
  if bytes.isEmpty || bytes.length > kMaximumLocalMaterializationDecisionBytes then
    decisionFailure .tooLarge
      (bytesOf ("encoded local materialization decision store exceeds " ++ "its bound"))
  else
    return bytes

def parseCompatibility (value : Value) : DecisionStore (Option CompatibilityReference) :=
  match value with
  | .null => .ok none
  | value => do
      let object ← asObject value "compatibility"
      requireFields object ["record_id", "provenance", "evidence_revision"]
      let recordId ← asString (← required object "record_id") "record_id"
      let provenance ← asString (← required object "provenance") "provenance"
      let evidenceRevision ← asU32 (← required object "evidence_revision") "evidence_revision"
      return some { recordId, provenance, evidenceRevision }

def parseOrigin : DecisionStore LocalMaterializationDecisionOrigin :=
  if value = "local-approved" then .ok .localApproved
  else if value = "imported-community" then .ok .importedCommunity
  else decisionFailure .parseError "unknown materialization decision origin"

def parsePhase : DecisionStore RecipeExecutionPhase :=
  if value = "pre-spawn" then .ok .preSpawn
  else if value = "startup" then .ok .startup
  else if value = "post-window" then .ok .postWindow
  else if value = "runtime" then .ok .runtime
  else decisionFailure .parseError "unknown compatibility recipe phase"

def parseScope : DecisionStore MutationScope :=
  if value = "seat-writable-instance" then .ok .seatWritableInstance
  else if value = "shared-installation" then .ok .sharedInstallation
  else decisionFailure .parseError "unknown compatibility mutation scope"

def fileFields : List String :=
  ["source_relative_path", "destination_relative_path", "maximum_bytes"]

theorem fileFields_plain : plainKeys fileFields = true := by decide

def parseFile (value : Value) : DecisionStore MutableFileSpec := do
  let object ← asObject value "mutable file"
  requireFields object fileFields
  let source ← asString (← required object "source_relative_path") "source_relative_path"
  let destination ← asString (← required object "destination_relative_path")
    "destination_relative_path"
  match utf8ToWide source, utf8ToWide destination with
  | some sourceRelativePath, some destinationRelativePath => do
      let maximumBytes ← asU64 (← required object "maximum_bytes") "maximum_bytes"
      return {
        sourceRelativePath := sourceRelativePath
        destinationRelativePath := destinationRelativePath
        maximumBytes := maximumBytes }
  | _, _ => decisionFailure .parseError "mutable file path is not valid bounded UTF-8"

def stepFields : List String := ["step_id", "phase", "scope", "files"]

theorem stepFields_plain : plainKeys stepFields = true := by decide

def parseStep (value : Value) : DecisionStore CompatibilityRecipeStep := do
  let object ← asObject value "materialization step"
  requireFields object stepFields
  let stepId ← asString (← required object "step_id") "step_id"
  let phase ← parsePhase (← asString (← required object "phase") "phase")
  let scope ← parseScope (← asString (← required object "scope") "scope")
  let files ← asArray (← required object "files") "files"
  let files ← files.mapM parseFile
  return { stepId, phase, scope, files }

def decisionFields : List String :=
  ["schema_version", "decision_id", "revision", "origin", "setup_id",
    "instance_index", "game_id", "provider_id", "provider_app_id",
    "provider_metadata_revision", "requirement_revision", "compatibility",
    "steps"]

theorem decisionFields_plain : plainKeys decisionFields = true := by decide

def parseDecision (value : Value) : DecisionStore LocalMaterializationDecision := do
  let object ← asObject value "materialization decision"
  requireFields object decisionFields
  let schemaVersion ← asU32 (← required object "schema_version") "schema_version"
  let decisionId ← asString (← required object "decision_id") "decision_id"
  let revision ← asU64 (← required object "revision") "revision"
  let origin ← parseOrigin (← asString (← required object "origin") "origin")
  let setupId ← asString (← required object "setup_id") "setup_id"
  let instanceIndex ← asU32 (← required object "instance_index") "instance_index"
  let gameId ← asString (← required object "game_id") "game_id"
  let providerId ← asString (← required object "provider_id") "provider_id"
  let providerAppId ← asOptionalString (← required object "provider_app_id") "provider_app_id"
  let providerMetadataRevision ← asU64 (← required object "provider_metadata_revision")
    "provider_metadata_revision"
  let requirementRevision ← asU64 (← required object "requirement_revision") "requirement_revision"
  let compatibility ← parseCompatibility (← required object "compatibility")
  let steps ← asArray (← required object "steps") "steps"
  let steps ← steps.mapM parseStep
  return {
    schemaVersion := schemaVersion
    decisionId, revision, origin, setupId, instanceIndex, gameId, providerId
    providerAppId, providerMetadataRevision, requirementRevision
    compatibility, steps }

def parseJson (bytes : ByteString) : DecisionStore Value :=
  match parse bytes ⟨48, 32768⟩ with
  | .ok value => .ok value
  | .error failure => decisionFailure .parseError (Profile.parserMessage failure)

def parseDocument (value : Value) : DecisionStore LocalMaterializationDecisionDocument := do
  let object ← asObject value "materialization decision document"
  requireFields object ["schema_version", "decisions"]
  let schemaVersion ← asU32 (← required object "schema_version") "schema_version"
  let decisions ← asArray (← required object "decisions") "decisions"
  if decisions.length > kMaximumLocalMaterializationDecisions then
    decisionFailure .invalidDocument "too many local materialization decisions"
  let decisions ← decisions.mapM parseDecision
  return { schemaVersion, decisions }

def decodeLocalMaterializationDecisionDocumentJson (bytes : ByteString) :
    DecisionStore LocalMaterializationDecisionDocument := do
  if bytes.isEmpty then decisionFailure .parseError "local materialization decision store is empty"
  if bytes.length > kMaximumLocalMaterializationDecisionBytes then
    decisionFailure .tooLarge "local materialization decision store exceeds its bound"
  let parsed ← parseJson bytes
  let decoded ← parseDocument parsed
  validateLocalMaterializationDecisionDocument decoded
  return decoded

end HydraSeat.Materialization
