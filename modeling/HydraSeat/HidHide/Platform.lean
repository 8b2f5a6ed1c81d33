import HydraSeat.Foundation.Objects
import HydraSeat.HidHide.Snapshot

/-!
# The surroundings of a HidHide session

The calls of a session: the platform, the clock, the hashes of the evidence
files and the files of the recovery records.  The state around it is the
persistent HidHide state and, for each resource, the published record file
and the temporary one.

The environment may fail any call and may answer with any error text, also
on success.  A read that succeeds tells the truth, a write leaves any state
behind whether it succeeds or not, and nothing else changes the persistent
state.  A file is replaced as a whole or not at all.
-/

namespace HydraSeat.HidHide

open Foundation
open Foundation.Command

structure Reply where
  succeeded : Bool
  error : ByteString

structure ReadReply where
  succeeded : Bool
  snapshot : HidHideSessionSnapshot
  error : ByteString

/-- The hash of a file, or what was thrown: an `EvidenceError` or another
exception. -/
inductive HashReply where
  | hash (digest : ByteString)
  | evidenceError (what : ByteString)
  | otherException (what : ByteString)

inductive WriteReply where
  | written | notOpened | failed

inductive SizeReply where
  | size (bytes : Nat)
  | missing (systemError : UInt32)
  | failed (systemError : UInt32)

inductive FileReply where
  | bytes (content : List UInt8)
  | notOpened
  | incomplete

/-- `std::filesystem::remove`: whether there was a file, or the error. -/
inductive RemoveReply where
  | removed (existed : Bool)
  | failed (error : ByteString)

inductive SessionCall where
  | readState
  | writeState (snapshot : HidHideSessionSnapshot)
  | addSessionBlacklist (deviceInstanceIds : List WideString)
  | clearSessionBlacklist
  | mutationSupported
  | sessionBlacklistSupported
  | currentUnixSeconds
  | sha256File (path : WideString) (maximumBytes : Nat) (label : ByteString)
  | createDirectories
  | writeTemporary (resourceId : UInt64) (bytes : List UInt8)
  | flushTemporary (resourceId : UInt64)
  | replaceFile (resourceId : UInt64)
  | fileSize (resourceId : UInt64)
  | readFile (resourceId : UInt64)
  | removeFile (resourceId : UInt64)
  | fileExists (resourceId : UInt64)
  | removeTemporary (resourceId : UInt64)
  deriving DecidableEq

abbrev SessionCall.Answer : SessionCall → Type
  | .readState => ReadReply
  | .writeState _ => Reply
  | .addSessionBlacklist _ => Reply
  | .clearSessionBlacklist => Reply
  | .mutationSupported => Bool
  | .sessionBlacklistSupported => Bool
  | .currentUnixSeconds => UInt64
  | .sha256File _ _ _ => HashReply
  | .createDirectories => Reply
  | .writeTemporary _ _ => WriteReply
  | .flushTemporary _ => Bool
  | .replaceFile _ => Reply
  | .fileSize _ => SizeReply
  | .readFile _ => FileReply
  | .removeFile _ => RemoveReply
  | .fileExists _ => Bool
  | .removeTemporary _ => Unit

abbrev sessionInterface : Interface where
  Call := SessionCall
  Answer := SessionCall.Answer

abbrev SessionProgram := Command sessionInterface

def callSession (request : SessionCall) : SessionProgram request.Answer :=
  @ask sessionInterface request

structure World where
  persistent : HidHideSessionSnapshot
  (files temporaries : UInt64 → Option (List UInt8) := fun _ => none)

abbrev SessionEntry := Entry sessionInterface World

namespace World

def setFile (world : World) (resourceId : UInt64) (content : Option (List UInt8)) : World :=
  { world with files := Function.update world.files resourceId content }

def setTemporary (world : World) (resourceId : UInt64) (content : Option (List UInt8)) : World :=
  { world with temporaries := Function.update world.temporaries resourceId content }

/-- The temporary file takes the place of the published one. -/
def publish (world : World) (resourceId : UInt64) : World :=
  (world.setFile resourceId (world.temporaries resourceId)).setTemporary resourceId none

end World

/-- What each call may answer and leave behind. -/
def platformEnvironment : Environment sessionInterface World :=
  fun before request =>
    match request with
    | .readState => fun answer after =>
      after = before ∧ ((answer : ReadReply).succeeded = true → answer.snapshot = before.persistent)
    | .writeState _ => fun _ after => ∃ persistent, after = { before with persistent }
    | .writeTemporary resourceId bytes => fun answer after =>
      ∃ content, after = before.setTemporary resourceId content ∧
        ((answer : WriteReply) = .written → content = some bytes)
    | .replaceFile resourceId => fun answer after =>
      after = if (answer : Reply).succeeded then before.publish resourceId
        else before
    | .fileSize resourceId => fun answer after =>
      after = before ∧ match (answer : SizeReply) with
        | .size bytes => ∃ content, before.files resourceId = some content ∧ content.length = bytes
        | .missing _ => before.files resourceId = none
        | .failed _ => True
    | .readFile resourceId => fun answer after =>
      after = before ∧
        ∀ content, (answer : FileReply) = .bytes content → before.files resourceId = some content
    | .removeFile resourceId => fun answer after =>
      match (answer : RemoveReply) with
      | .removed existed =>
        (before.files resourceId).isSome = existed ∧ after = before.setFile resourceId none
      | .failed _ => after = before
    | .fileExists resourceId => fun answer after =>
      after = before ∧ ((answer : Bool) = true → (before.files resourceId).isSome = true)
    | .removeTemporary resourceId => fun _ after =>
      ∃ content, after = before.setTemporary resourceId content
    | _ => fun _ after => after = before

/-- An environment that keeps to `platformEnvironment`. -/
def Truthful (env : Environment sessionInterface World) : Prop :=
  ∀ before request answer after, env before request answer after →
    platformEnvironment before request answer after

/-- Other processes change the persistent state as they like. -/
def Meddles (before after : World) : Prop := ∃ persistent, after = { before with persistent }

end HydraSeat.HidHide
