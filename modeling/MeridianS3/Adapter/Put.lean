import MeridianS3.Adapter.Core
import MeridianS3.Spool.Theorems

namespace MeridianS3

open Effect Json

-- The normalized input of a put.
structure PutInput where
  objectId : String
  createOnly : Bool
  immutability : Value
  retention : Value
  creationContext : Frozen
  provenance : Frozen
  payload : Value
  mediaType : String
  userMetadata : Mapping

-- A put with what it takes from outside the bucket: the writes that the payload's
-- transfer makes to the spool, and the clock at its two readings.
structure PutRequest where
  resource : ResourceRef
  input : PutInput
  transfer : Value → Except Failure (List Bytes)
  createdAt : Timestamp
  observedAt : Timestamp

-- What a put has settled before it opens its state machine.
structure PutIntent where
  mutability : Mutability
  retention : Option RetentionRecord
  creationContext : Mapping
  provenance : Mapping
  payload : Value

-- A put returns the stored metadata at once, or has stored the blob and goes on.
inductive PutProgress where
  | idempotent (metadata : ObjectMetadata)
  | uploaded (identity : PayloadIdentity) (chunks : List String) (stored : StoredObject)

namespace S3ObjectAdapter

variable (adapter : S3ObjectAdapter)

def frozenMapping (value : Frozen) (name : String) : Except Failure Mapping :=
  match Mapping.ofValue value.1 with
  | some mapping => .ok mapping
  | none => .error (.meridian .objectInvalidRequest (some (name ++ " must be an object")))

theorem adapterEntry_canonical (id version profile : String) :
    (Value.obj [("adapterId", .str id), ("adapterVersion", .str version),
      ("engineProfile", .str profile)]).canonical = true := by
  have hversion : ("adapterId" : String) < "adapterVersion" := by decide
  have hprofile : ("adapterId" : String) < "engineProfile" := by decide
  have hlast : ("adapterVersion" : String) < "engineProfile" := by decide
  simp only [Value.canonical, Value.canonicalFields, List.all_cons, List.all_nil, hversion, hprofile,
    hlast, decide_true, Bool.and_self]

def adapterEntry : Frozen :=
  ⟨.obj [("adapterId", .str S3_ADAPTER_ID), ("adapterVersion", .str adapter.adapterVersion),
    ("engineProfile", .str adapter.config.engineProfile)], adapterEntry_canonical _ _ _⟩

def rawProvenance (value : Frozen) : Except Failure Mapping := do
  let mapping ← frozenMapping value "provenance"
  if mapping.contains "meridian.adapter" then
    throw (.meridian .objectInvalidRequest
      (some "provenance key 'meridian.adapter' is reserved"))
  return mapping.insert "meridian.adapter" adapter.adapterEntry

-- The steps of a put up to its state machine: profile, intents, the first look at
-- the latest version, and the payload reference.
def putIntent (request : PutRequest) : S3M PutIntent := do
  let profile ← adapter.resourceProfile request.resource
  let mutability ← Program.lift
    (adapter.common.effectiveImmutability profile request.input.immutability)
  let retentionRequest ← Program.lift
    (parseRetentionRequest adapter.common request.input.retention)
  let retention ← Program.lift (RetentionRecord.fromRequest retentionRequest adapter.config)
  let creationContext ← Program.lift
    (frozenMapping request.input.creationContext "creationContext")
  let provenance ← Program.lift (adapter.rawProvenance request.input.provenance)
  let existing ← adapter.tryLatest request.resource request.input.objectId
  if existing.isSome ∧ request.input.createOnly then
    throw (.meridian .conditionalConflict (some "create-only Object id already exists"))
  let rawPayload ← Program.lift (jsonMapping request.input.payload "payload")
  let payload ← Program.lift (adapter.common.payloadReferenceFromMapping rawPayload)
  return ⟨mutability, retention, creationContext, provenance, payload⟩

-- As for the registry's documents, the metadata compared are assumed not to differ only by
-- True, 1 and 1.0.
def requireIdempotentMetadata (request : PutRequest) (intent : PutIntent)
    (latest : StoredEnvelope) : Except Failure Unit :=
  if latest.metadata.mediaType ≠ request.input.mediaType ∨
      latest.metadata.userMetadata ≠ request.input.userMetadata ∨
      latest.metadata.mutability ≠ intent.mutability ∨
      latest.metadata.creationContext ≠ intent.creationContext ∨
      latest.metadata.provenance ≠ intent.provenance ∨
      latest.retention ≠ intent.retention then
    .error (.meridian .conditionalConflict
      (some "the existing Object digest has different immutable metadata"))
  else .ok ()

-- The second look at the latest version: some is the metadata to return at once.
def checkExisting (request : PutRequest) (intent : PutIntent) (digest : String)
    (latest : Option StoredEnvelope) : Except Failure (Option ObjectMetadata) :=
  match latest with
  | none => .ok none
  | some latest =>
      if request.input.createOnly then
        .error (.meridian .conditionalConflict (some "create-only Object id already exists"))
      else if latest.metadata.digest = digest then do
        requireIdempotentMetadata request intent latest
        return some latest.metadata
      else if intent.mutability = .immutable then .error (.meridian .immutableObjectConflict)
      else .ok none

def blobMetadata (identity : PayloadIdentity) : List (String × String) :=
  [("meridian-digest", S3Transport.removeSha256Prefix identity.digest),
    ("meridian-format", "object-v1")]

theorem blobMetadata_identity (content : Bytes) :
    blobMetadata (adapter.common.identity content) =
      [("meridian-digest", (adapter.common.hexdigest content).text),
        ("meridian-format", "object-v1")] := by
  unfold blobMetadata ObjectCommon.identity ObjectCommon.digest
  rw [S3Transport.removeSha256Prefix_digest]

def storeBlob (request : PutRequest) (intent : PutIntent) (identity : PayloadIdentity)
    (content : Bytes) : S3M StoredObject := do
  let blobKey ← Program.lift
    (adapter.layout.blobKey request.resource request.input.objectId identity.digest)
  adapter.transport.putFile blobKey content identity.byteLength identity.digest
    request.input.mediaType (blobMetadata identity) intent.retention true

-- The steps of the try block up to the return of put_file.
def putUpload (request : PutRequest) (intent : PutIntent) : S3M PutProgress := do
  let writes ← Program.lift (request.transfer intent.payload)
  let spool := (IntegritySpool.new adapter.config.integrityChunkBytes).writeAll adapter.common writes
  let identity := adapter.common.transferIdentity writes
  let chunks := spool.finish adapter.common
  if adapter.config.maxObjectBytes < identity.byteLength then
    throw (.meridian .objectInvalidRequest (some "Object exceeds the configured S3 size limit"))
  let latestAfterStream ← adapter.tryLatest request.resource request.input.objectId
  let existing ← Program.lift
    (checkExisting request intent identity.digest latestAfterStream)
  match existing with
  | some metadata => return .idempotent metadata
  | none => do
      let stored ← adapter.storeBlob request intent identity spool.stream
      return .uploaded identity chunks stored

-- What is transferred is what the spool holds.
theorem putUpload_eq (request : PutRequest) (intent : PutIntent) :
    adapter.putUpload request intent = do
      let writes ← Program.lift (request.transfer intent.payload)
      let spool :=
        (IntegritySpool.new adapter.config.integrityChunkBytes).writeAll adapter.common writes
      let content := spool.stream
      let chunks := spool.finish adapter.common
      if adapter.config.maxObjectBytes < content.length then
        throw (.meridian .objectInvalidRequest (some "Object exceeds the configured S3 size limit"))
      let latestAfterStream ← adapter.tryLatest request.resource request.input.objectId
      let existing ← Program.lift
        (checkExisting request intent (adapter.common.digest content) latestAfterStream)
      match existing with
      | some metadata => return .idempotent metadata
      | none => do
          let stored ← adapter.storeBlob request intent (adapter.common.identity content) content
          return .uploaded (adapter.common.identity content) chunks stored := by
  unfold putUpload
  congr 1
  funext writes
  have hstream : ((IntegritySpool.new adapter.config.integrityChunkBytes).writeAll adapter.common
      writes).stream = writes.flatten := by
    rw [IntegritySpool.writeAll_stream]
    rfl
  have hidentity := adapter.common.transferIdentity_eq writes
  rw [← hstream] at hidentity
  rw [hidentity]
  rfl

def newMetadata (request : PutRequest) (intent : PutIntent) (identity : PayloadIdentity) :
    ObjectMetadata :=
  { objectRef := ⟨⟨"object", request.resource.namespace, request.resource.name⟩,
      request.input.objectId, some identity.digest⟩
    digest := identity.digest
    byteLength := identity.byteLength
    mediaType := request.input.mediaType
    createdAt := request.createdAt
    creationContext := intent.creationContext
    userMetadata := request.input.userMetadata
    mutability := intent.mutability
    provenance := intent.provenance }

def newEnvelope (request : PutRequest) (intent : PutIntent) (identity : PayloadIdentity)
    (chunks : List String) (versionId : Option String) : StoredEnvelope :=
  { metadata := newMetadata request intent identity
    blobVersionId := .ofOption versionId
    retention := intent.retention
    integrityChunkBytes := adapter.config.integrityChunkBytes
    chunkDigests := chunks }

def publishReference (request : PutRequest) (intent : PutIntent) (identity : PayloadIdentity)
    (chunks : List String) (stored : StoredObject) : S3M Unit := do
  let key ← Program.lift (adapter.layout.referenceKey request.resource request.input.objectId
    identity.digest)
  let _ ← adapter.transport.putJson key
    ((adapter.newEnvelope request intent identity chunks stored.versionId).toDict adapter.common)
    true intent.retention

def latestCreateOnly (request : PutRequest) (intent : PutIntent) : Bool :=
  request.input.createOnly || decide (intent.mutability = .immutable)

-- The pointer write, and what is recorded when another put won it.
def publishLatest (request : PutRequest) (intent : PutIntent) (digest : String) : S3M Unit :=
  tryCatch
    (do
      let _ ← adapter.transport.putJson
        (adapter.layout.latestKey request.resource request.input.objectId) (latestValue digest)
        (latestCreateOnly request intent) none)
    fun failure =>
      if failure.is .conditionalConflict then do
        let winner ← adapter.tryLatest request.resource request.input.objectId
        if ¬winner.any fun winner => winner.metadata.digest = digest then
          adapter.recordOrphan request.resource request.input.objectId digest "latest-conflict"
            request.observedAt
        throw (.meridian .conditionalConflict
          (some "logical Object publication lost a conditional race"))
      else throw failure

-- The steps behind that return.
def publish (request : PutRequest) (intent : PutIntent) (identity : PayloadIdentity)
    (chunks : List String) (stored : StoredObject) : S3M ObjectMetadata := do
  adapter.publishReference request intent identity chunks stored
  adapter.publishLatest request intent identity.digest
  return newMetadata request intent identity

-- What the except clause of the put hands to the state machine's fail.
def failing {α : Type} (physicalCommitPossible : Bool) (program : S3M α) : S3M α :=
  tryCatch program fun failure =>
    throw { failure with physicalCommitPossible := some physicalCommitPossible }

def put (request : PutRequest) : S3M ObjectMetadata := do
  let intent ← adapter.putIntent request
  match ← failing false (adapter.putUpload request intent) with
  | .idempotent metadata => return metadata
  | .uploaded identity chunks stored =>
      failing true (adapter.publish request intent identity chunks stored)

end S3ObjectAdapter

end MeridianS3
