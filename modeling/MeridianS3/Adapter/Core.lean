import MeridianS3.Envelope
import MeridianS3.Layout
import MeridianS3.Transport

namespace MeridianS3

open Effect Json

def S3_ADAPTER_ID : String := "s3"

-- __version__
def VERSION : String := "1.0.4"

-- One adapter with its configuration. The version is the installed package's.
structure S3ObjectAdapter where
  common : ObjectCommon
  config : S3Config
  referenceSigner : Option Value := none
  signedReferenceAudience : Option String := none
  adapterVersion : String := VERSION

namespace S3ObjectAdapter

variable (adapter : S3ObjectAdapter)

def transport : S3Transport := ⟨adapter.common, adapter.config⟩

def layout : S3Layout := .ofConfig adapter.common adapter.config

-- _reference, for the method that the operation names.
def reference (resource : ResourceRef) (raw : Value) (method : String) (requireDigest : Bool) :
    Except Failure ObjectReference := do
  let raw ← jsonMapping raw "reference"
  let parsed ← adapter.common.parseLogicalReference raw
  let reference ← match parsed with
    | .plain reference => .ok reference
    | .signed signed =>
        match adapter.referenceSigner, adapter.signedReferenceAudience with
        | some signer, some audience => adapter.common.verifySigned signed signer method audience
        | _, _ => .error (.meridian .objectAuthorizationFailed
            (some "signed Object references are not configured"))
  if requireDigest ∧ reference.digest = none then
    throw (.meridian .objectInvalidRequest (some "exact Object operation requires a digest"))
  if (reference.resourceRef.namespace, reference.resourceRef.name) ≠
      (resource.namespace, resource.name) then
    throw (.meridian .objectInvalidRequest
      (some "Object reference does not belong to the target Resource"))
  return reference

def storedProfile : Option Value → Except Failure Value
  | none => .ok adapter.common.defaultProfile
  | some value =>
      match value.get? "profile" with
      | some (.obj fields) => adapter.common.parseObjectProfile (.obj fields)
      | _ => .error (.meridian .digestMismatch
          (some "stored Object Resource profile is corrupt"))

def resourceProfile (resource : ResourceRef) : S3M Value := do
  let found ← tryCatch (some <$> adapter.transport.readJson (adapter.layout.resourceKey resource))
    fun failure => if failure.is .objectNotFound then pure none else throw failure
  Program.lift (adapter.storedProfile found)

-- A digest read from the store goes into the key functions as it is.
def storedDigest (value : Option Value) : Except Failure String :=
  match value with
  | some (.str digest) => .ok digest
  | _ => .error ⟨.typeError "expected string or bytes-like object", none⟩

def pointerDigest (latest : Value) : Except Failure String :=
  if ¬latest.hasExactly ["formatVersion", "digest"] ∨
      latest.get? "formatVersion" ≠ some (.str LATEST_VERSION) then
    .error (.meridian .digestMismatch (some "stored S3 latest Object pointer is invalid"))
  else storedDigest (latest.get? "digest")

def selectedDigest (resource : ResourceRef) (objectId : String) : Option String → S3M String
  | some digest => pure digest
  | none => do
      let latest ← adapter.transport.readJson (adapter.layout.latestKey resource objectId)
      Program.lift (pointerDigest latest)

def checkedEnvelope (objectId digest : String) (value : Value) : Except Failure StoredEnvelope := do
  let envelope ← StoredEnvelope.fromMapping adapter.common value
  if envelope.metadata.objectRef.objectId ≠ objectId ∨ envelope.metadata.digest ≠ digest then
    throw (.meridian .digestMismatch
      (some "stored S3 Object envelope identity does not match its key"))
  return envelope

def readEnvelope (resource : ResourceRef) (objectId : String) (digest : Option String) :
    S3M StoredEnvelope := do
  let selected ← adapter.selectedDigest resource objectId digest
  let key ← Program.lift (adapter.layout.referenceKey resource objectId selected)
  let value ← adapter.transport.readJson key
  Program.lift (adapter.checkedEnvelope objectId selected value)

def tryLatest (resource : ResourceRef) (objectId : String) : S3M (Option StoredEnvelope) :=
  tryCatch (some <$> adapter.readEnvelope resource objectId none)
    fun failure => if failure.is .objectNotFound then pure none else throw failure

def orphanValue (resource : ResourceRef) (objectId digest reason : String)
    (observedAt : Timestamp) : Value :=
  .obj
    [("formatVersion", .str "meridian.s3-orphan-candidate.v1"),
      ("objectRef", .obj
        [("digest", .str digest),
          ("objectId", .str objectId),
          ("resourceRef", adapter.common.resourceToDict resource)]),
      ("observedAt", .str (adapter.common.timestampIsoformat observedAt)),
      ("reason", .str reason)]

def recordOrphan (resource : ResourceRef) (objectId digest reason : String)
    (observedAt : Timestamp) : S3M Unit := do
  let key ← Program.lift (adapter.layout.orphanKey resource objectId digest)
  tryCatch
    (do
      let _ ← adapter.transport.putJson key
        (adapter.orphanValue resource objectId digest reason observedAt) true none)
    fun failure => if failure.is .conditionalConflict then pure () else throw failure

-- The versions of one page, the newest kept so far first.
def newestOfPage (excludeDigest : Option String) :
    List String → Option StoredEnvelope → S3M (Option StoredEnvelope)
  | [], selected => pure selected
  | key :: rest, selected => do
      let value ← adapter.transport.readJson key
      let envelope ← Program.lift (StoredEnvelope.fromMapping adapter.common value)
      if some envelope.metadata.digest = excludeDigest then
        newestOfPage excludeDigest rest selected
      else if selected.all fun held => adapter.common.newer envelope.metadata held.metadata then
        newestOfPage excludeDigest rest (some envelope)
      else newestOfPage excludeDigest rest selected

def newestOfPages (keyPrefix : String) (excludeDigest : Option String) :
    Nat → Option String → Option StoredEnvelope → S3M (Option StoredEnvelope)
  | 0, _, selected => pure selected
  | pages + 1, startAfter, selected => do
      let page ← S3Transport.listKeys keyPrefix 1000 startAfter
      let selected ← adapter.newestOfPage excludeDigest page.keys selected
      match page.truncated, page.keys.getLast? with
      | true, some last => newestOfPages keyPrefix excludeDigest pages (some last) selected
      | _, _ => pure selected

def newestVersion (resource : ResourceRef) (objectId : String) (excludeDigest : Option String) :
    S3M (Option StoredEnvelope) :=
  adapter.newestOfPages (adapter.layout.versionPrefix resource objectId) excludeDigest
    MAX_INTERNAL_LIST_PAGES none none

end S3ObjectAdapter

end MeridianS3
