import HydraSeat.Profile.ProfileSchema

/-!
# The provider boundary

An adapter answers from the snapshot that it last took, so it is its
descriptor and a function from selections to responses.  What it answers is
checked before it is used.
-/

namespace HydraSeat.Provider

open Profile

variable (descriptor : ProviderDescriptor)

def kMaximumProviderDiagnosticBytes : Nat := 1024

def kMaximumLaunchArguments : Nat := 128

def kMaximumLaunchArgumentCodeUnits : Nat := 4096

def kMaximumLaunchUriCodeUnits : Nat := 8192

inductive ProviderAvailability where
  | available | offline | absent
  deriving DecidableEq

/-- The capabilities that a launch request reads. -/
structure ProviderCapabilities where
  (launchRequests offlineLaunch : Bool := false)

structure ProviderDescriptor where
  providerId : ByteString := []
  availability : ProviderAvailability := .absent
  metadataRevision : UInt64 := 0
  capabilities : ProviderCapabilities := {}

inductive ProviderResult where
  | success | providerAbsent | providerOffline | unsupportedOperation | invalidDescriptor
  | invalidRequest | invalidMetadata | staleMetadata | providerFailure
  deriving DecidableEq

def providerResultName : ProviderResult → String
  | .success => "success"
  | .providerAbsent => "provider-absent"
  | .providerOffline => "provider-offline"
  | .unsupportedOperation => "unsupported-operation"
  | .invalidDescriptor => "invalid-descriptor"
  | .invalidRequest => "invalid-request"
  | .invalidMetadata => "invalid-metadata"
  | .staleMetadata => "stale-metadata"
  | .providerFailure => "provider-failure"

structure ProviderDiagnostic where
  result : ProviderResult
  message : ByteString

inductive LaunchTargetKind where
  | executable | providerUri
  deriving DecidableEq

structure LaunchSelection where
  (providerId gameId : ByteString := [])
  (providerAppId accountRef : Option ByteString := none)
  expectedMetadataRevision : UInt64 := 0
  instanceArguments : List WideString := []

structure ProviderLaunchRequest where
  (providerId gameId : ByteString := [])
  (providerAppId accountRef : Option ByteString := none)
  metadataRevision : UInt64 := 0
  targetKind : LaunchTargetKind := .executable
  target : WideString := []
  arguments : List WideString := []
  workingDirectory : Option WideString := none
  launchCorrelationId : ByteString := []

structure LaunchResponse where
  result : ProviderResult := .success
  request : ProviderLaunchRequest := {}
  diagnostic : ByteString := []

structure LauncherProviderAdapter where
  descriptor : ProviderDescriptor
  buildLaunchRequest : LaunchSelection → LaunchResponse

/-- Every unit stands for a character, alone or in a surrogate pair. -/
def validUnits : WideString → Bool
  | [] => true
  | codeUnit :: rest =>
    if codeUnit = 0 then false
    else if 0xD800 ≤ codeUnit ∧ codeUnit ≤ 0xDBFF then
      match rest with
      | [] => false
      | low :: tail =>
        if low < 0xDC00 ∨ low > 0xDFFF then false else validUnits tail
    else if 0xDC00 ≤ codeUnit ∧ codeUnit ≤ 0xDFFF then false
    else validUnits rest

def validWideText (value : WideString) (maximum : Nat) (allowEmpty : Bool) : Bool :=
  if (!allowEmpty && value.isEmpty) || value.length > maximum then false
  else validUnits value

def isDriveLetter (unit : UInt16) : Bool := (65 ≤ unit && unit ≤ 90) || (97 ≤ unit && unit ≤ 122)

def absoluteWindowsPath (value : WideString) : Bool :=
  validWideText value kMaximumPathCodeUnits false && match value with
    | first :: second :: third :: _ =>
      (isDriveLetter first && second == 58 && (third == 92 || third == 47)) ||
        (first == 92 && second == 92) || (first == 47 && second == 47)
    | _ => false

/-- The scheme in front of the first `://`, if there is one. -/
def uriScheme? : WideString → Option WideString
  | [] => none
  | unit :: rest =>
    if (wideOf "://").isPrefixOf (unit :: rest) then some []
    else (uriScheme? rest).map (unit :: ·)

def validSchemeUnit (index : Nat) (ch : UInt16) : Bool :=
  (97 ≤ ch && ch ≤ 122) || (65 ≤ ch && ch ≤ 90) ||
    (index > 0 && ((48 ≤ ch && ch ≤ 57) || ch == 43 || ch == 45 || ch == 46))

def validProviderUri (value : WideString) : Bool :=
  validWideText value kMaximumLaunchUriCodeUnits false && match uriScheme? value with
    | none => false
    | some scheme =>
      !scheme.isEmpty && (scheme.zipIdx.all fun (ch, index) => validSchemeUnit index ch) &&
        value.all fun ch => !(ch ≤ 32 || ch == 34 || ch == 60 || ch == 62 || ch == 96)

abbrev Provided := Except ProviderDiagnostic

def diagnostic {α : Type} (result : ProviderResult) (message : ByteString) : Provided α :=
  .error ⟨result, message.take kMaximumProviderDiagnosticBytes⟩

def validateDescriptor : Provided Unit :=
  if !validIdentifier descriptor.providerId then
    diagnostic .invalidDescriptor "provider descriptor has invalid identity or availability"
  else if descriptor.availability ≠ .absent ∧ descriptor.metadataRevision = 0 then
    diagnostic .invalidDescriptor
      (bytesOf ("installed provider descriptor requires a nonzero metadata " ++ "revision"))
  else if descriptor.capabilities.offlineLaunch && !descriptor.capabilities.launchRequests then
    diagnostic .invalidDescriptor
      (bytesOf ("offline launch cannot be declared without launch-request " ++ "capability"))
  else .ok ()

def operationPreflight (supported : Bool) (requiresOnline : Bool) : Provided Unit := do
  validateDescriptor descriptor
  if descriptor.availability = .absent then diagnostic .providerAbsent "provider is not installed"
  else if !supported then
    diagnostic .unsupportedOperation "provider does not support this operation"
  else if requiresOnline && descriptor.availability = .offline then
    diagnostic .providerOffline "provider is offline and does not support offline launch"
  else .ok ()

def validateAdapterResponse (result : ProviderResult) (message : ByteString) : Provided Unit :=
  if result = .success then .ok ()
  else
    diagnostic result
      (if message.isEmpty then "provider operation failed"
        else message)

def validateRevision (expected actual : UInt64) : Provided Unit :=
  if actual = 0 ∨ actual ≠ expected then
    diagnostic .staleMetadata "provider metadata revision changed during the operation"
  else .ok ()

def validArguments (arguments : List WideString) : Bool :=
  arguments.all (validWideText · kMaximumLaunchArgumentCodeUnits true)

def validateLaunchSelection (selection : LaunchSelection) : Provided Unit :=
  if selection.providerId ≠ descriptor.providerId ∨ !validIdentifier selection.gameId ∨
      selection.expectedMetadataRevision = 0 then
    diagnostic .invalidRequest "launch selection identity or revision is invalid"
  else if selection.providerAppId.any (!validIdentifier ·) then
    diagnostic .invalidRequest "launch selection provider app identity is invalid"
  else if selection.accountRef.any (!validIdentifier ·) then
    diagnostic .invalidRequest "launch selection account reference is invalid"
  else if selection.instanceArguments.length > kMaximumLaunchArguments then
    diagnostic .invalidRequest "launch selection contains too many instance arguments"
  else if !validArguments selection.instanceArguments then
    diagnostic .invalidRequest "launch selection contains an invalid instance argument"
  else validateRevision descriptor.metadataRevision selection.expectedMetadataRevision

def validateLaunch (selection : LaunchSelection) (request : ProviderLaunchRequest) :
    Provided Unit := do
  if request.providerId ≠ descriptor.providerId ∨ request.providerId ≠ selection.providerId ∨
      request.gameId ≠ selection.gameId ∨
      request.providerAppId ≠ selection.providerAppId ∨
      request.accountRef ≠ selection.accountRef ∨
      !validIdentifier request.launchCorrelationId then
    diagnostic .invalidMetadata
      (bytesOf ("provider launch response does not match the requested " ++ "identity"))
  else
    validateRevision descriptor.metadataRevision request.metadataRevision
    if request.arguments.length > kMaximumLaunchArguments then
      diagnostic .invalidMetadata "provider launch response contains too many arguments"
    else if !validArguments request.arguments then
      diagnostic .invalidMetadata "provider launch response contains an invalid argument"
    else if request.workingDirectory.any (!absoluteWindowsPath ·) then
      diagnostic .invalidMetadata "provider launch response has an invalid working directory"
    else if !(match request.targetKind with
        | .executable => absoluteWindowsPath request.target
        | .providerUri => validProviderUri request.target) then
      diagnostic .invalidMetadata "provider launch response has an invalid typed target"
    else .ok ()

/-- `buildLaunchRequest` of the boundary. -/
def requestLaunch (adapter : LauncherProviderAdapter)
    (selection : LaunchSelection) : Provided ProviderLaunchRequest := do
  let descriptor := adapter.descriptor
  operationPreflight descriptor descriptor.capabilities.launchRequests
    (descriptor.availability = .offline && !descriptor.capabilities.offlineLaunch)
  validateLaunchSelection descriptor selection
  let response := adapter.buildLaunchRequest selection
  validateAdapterResponse response.result response.diagnostic
  validateLaunch descriptor selection response.request
  return response.request

end HydraSeat.Provider
