import MeridianS3.Adapter.Put
import MeridianS3.Records.Reading
import MeridianS3.Removal

namespace MeridianS3

open Effect ObjectStore Json

-- How far a put has come: the last of its three writes that has taken effect.
inductive PutPhase where
  | start
  | blob
  | reference
  | pointer
deriving DecidableEq

namespace S3ObjectAdapter

variable (adapter : S3ObjectAdapter)

def profileAt (bucket : Bucket) (resource : ResourceRef) : Except Failure Value :=
  (missingAsNone (adapter.transport.document bucket (adapter.layout.resourceKey resource))).bind
    adapter.storedProfile

-- The intent of a put, its looks at the latest version left out.
def intentFrom (profile : Value) (request : PutRequest) : Except Failure PutIntent := do
  let mutability ← adapter.common.effectiveImmutability profile request.input.immutability
  let wanted ← parseRetentionRequest adapter.common request.input.retention
  let retention ← RetentionRecord.fromRequest wanted adapter.config
  let creationContext ← frozenMapping request.input.creationContext "creationContext"
  let provenance ← adapter.rawProvenance request.input.provenance
  let rawPayload ← jsonMapping request.input.payload "payload"
  let payload ← adapter.common.payloadReferenceFromMapping rawPayload
  return ⟨mutability, retention, creationContext, provenance, payload⟩

def spooled (writes : List Bytes) : IntegritySpool :=
  (IntegritySpool.new adapter.config.integrityChunkBytes).writeAll adapter.common writes

-- What a put has settled by the time that it writes, or returns what it has found.
structure Settles (request : PutRequest) (bucket : Bucket) (intent : PutIntent) (content : Bytes)
    (chunks : List String) (latest : Option StoredEnvelope) : Prop where
  intends : ∃ profile, adapter.profileAt bucket request.resource = .ok profile ∧
    adapter.intentFrom profile request = .ok intent
  transfer : ∃ writes, request.transfer intent.payload = .ok writes ∧
    (adapter.spooled writes).stream = content ∧
    (adapter.spooled writes).finish adapter.common = chunks
  size : content.length ≤ adapter.config.maxObjectBytes
  seen : missingAsNone (adapter.latestEnvelope bucket request.resource
    request.input.objectId) = .ok latest
  creates : ¬(latest.isSome ∧ request.input.createOnly)

-- The put returns the metadata that is stored already.
def Returns (request : PutRequest) (bucket : Bucket) (metadata : ObjectMetadata) : Prop :=
  ∃ intent content chunks latest, adapter.Settles request bucket intent content chunks latest ∧
    checkExisting request intent (adapter.common.digest content) latest = .ok (some metadata)

end S3ObjectAdapter

-- A put with what it has settled before it writes anything.
structure Deposit where
  adapter : S3ObjectAdapter
  request : PutRequest
  intent : PutIntent
  content : Bytes
  chunks : List String
  arguments : WriteArguments

namespace Deposit

variable (deposit : Deposit) (provider : Provider)

def resource : HexDigest := deposit.adapter.layout.resourceToken deposit.request.resource

def object : HexDigest := deposit.adapter.layout.objectToken deposit.request.input.objectId

def identity : PayloadIdentity := deposit.adapter.common.identity deposit.content

def hash : HexDigest := deposit.adapter.common.hexdigest deposit.content

def blobPath : String :=
  deposit.adapter.layout.path (.blob deposit.resource deposit.object deposit.hash)

def referencePath : String :=
  deposit.adapter.layout.path (.reference deposit.resource deposit.object deposit.hash)

def latestPath : String := deposit.adapter.layout.path (.latest deposit.resource deposit.object)

-- The payload goes up in parts.
def multipart : Bool :=
  decide (deposit.adapter.config.multipartThresholdBytes ≤ deposit.content.length)

def createOnly : Bool := S3ObjectAdapter.latestCreateOnly deposit.request deposit.intent

def header : ObjectHeader :=
  ⟨deposit.request.input.mediaType, S3ObjectAdapter.blobMetadata deposit.identity,
    deposit.arguments⟩

def envelope (versionId : Option String) : StoredEnvelope :=
  deposit.adapter.newEnvelope deposit.request deposit.intent deposit.identity deposit.chunks versionId

def metadata : ObjectMetadata :=
  S3ObjectAdapter.newMetadata deposit.request deposit.intent deposit.identity

def blobStored (bucket : Bucket) : Bucket :=
  bucket.put deposit.blobPath ⟨deposit.header, deposit.content⟩

-- The envelope that is published when the blob is stored in this bucket.
def published (bucket : Bucket) : StoredEnvelope :=
  deposit.envelope (provider.reportedVersion bucket bucket.issued)

def referenceStored (bucket : Bucket) : Bucket :=
  (deposit.blobStored bucket).put deposit.referencePath (deposit.adapter.transport.jsonObject
    ((deposit.published provider bucket).toDict deposit.adapter.common) deposit.arguments)

def pointerStored (bucket : Bucket) : Bucket :=
  deposit.adapter.written (deposit.referenceStored provider bucket) deposit.latestPath
    (latestValue deposit.hash.digest)

-- The bucket when the put has come so far.
def reach (bucket : Bucket) : PutPhase → Bucket
  | .start => bucket
  | .blob => deposit.blobStored bucket
  | .reference => deposit.referenceStored provider bucket
  | .pointer => deposit.pointerStored provider bucket

-- How far a put has come when a call fails, with or without having taken effect.
def phaseAt (effect : Bool) : S3Call → PutPhase
  | .putObject key .. =>
      if key = deposit.blobPath then if effect then .blob else .start
      else if key = deposit.referencePath then if effect then .reference else .blob
      else if effect then .pointer else .reference
  | .completeMultipartUpload .. => if effect then .blob else .start
  | .getObject key .. => if key = deposit.blobPath then .blob else .start
  | _ => .start

-- Something is stored where the put may only write if nothing is.
def Blocked (bucket : Bucket) : Prop :=
  deposit.multipart = false ∧ (bucket.current deposit.blobPath).isSome = true ∨
  (bucket.current deposit.referencePath).isSome = true ∨
  deposit.createOnly = true ∧ (bucket.current deposit.latestPath).isSome = true

-- How far a blocked put comes: to the first of its writes that finds something stored.
def halts (bucket : Bucket) : PutPhase :=
  if deposit.multipart = false ∧ (bucket.current deposit.blobPath).isSome = true then .start
  else if (bucket.current deposit.referencePath).isSome = true then .blob
  else .reference

-- What the put has settled is what it finds in a bucket.
structure Finds (bucket : Bucket) : Prop where
  settles : ∃ latest, deposit.adapter.Settles deposit.request bucket deposit.intent deposit.content
      deposit.chunks latest ∧
    S3ObjectAdapter.checkExisting deposit.request deposit.intent deposit.hash.digest latest =
      .ok none
  arguments : deposit.adapter.transport.writeArguments deposit.intent.retention =
    .ok deposit.arguments
  fits : deposit.multipart = true → (deposit.adapter.transport.uploadTarget deposit.blobPath
    deposit.content.length
      (deposit.adapter.transport.useChecksum deposit.intent.retention)).Fits deposit.content

-- The phases that a put can have come to when a call fails. Which call of a transfer in
-- parts has failed makes no difference to what can be done about it.
def Stops (call : S3Call) (effect : Bool) (phase : PutPhase) : Prop :=
  phase = deposit.phaseAt effect call ∨
    call.multipart ∧ deposit.multipart = true ∧ (phase = .start ∨ phase = .blob)

end Deposit

-- Nothing but orphan records makes a difference between two buckets.
structure S3Layout.Beside (layout : S3Layout) (before after : Bucket) : Prop where
  versioned : after.versioned = before.versioned
  entries : ∀ physical, (∀ resource object content,
    physical ≠ PhysicalKey.orphan resource object content) →
    after.entries (layout.path physical) = before.entries (layout.path physical)

-- How a put can end that runs alone, among failures that nothing mistakes for an answer.
inductive PutEnds (provider : Provider) (adapter : S3ObjectAdapter) (request : PutRequest)
    (faults : S3Call → Fault Failure → Prop) (bucket : Bucket) :
    Except Failure ObjectMetadata → Bucket → Prop where
  | refused (failure : Failure) (after : Bucket) (hsame : SameObjects bucket after)
      (hcause : (∃ call fault, faults call fault ∧ ∀ deposit : Deposit,
          deposit.adapter = adapter → deposit.request = request →
            deposit.phaseAt fault.effect call = .start) ∨
        (∀ metadata, ¬adapter.Returns request bucket metadata) ∧
          ∀ deposit : Deposit, deposit.adapter = adapter → deposit.request = request →
            ¬deposit.Finds bucket) :
      PutEnds provider adapter request faults bucket (.error failure) after
  | returned (metadata : ObjectMetadata) (after : Bucket) (hsame : SameObjects bucket after)
      (hreturns : adapter.Returns request bucket metadata) :
      PutEnds provider adapter request faults bucket (.ok metadata) after
  | blocked (deposit : Deposit) (phase : PutPhase) (failure : Failure) (after : Bucket)
      (hadapter : deposit.adapter = adapter) (hrequest : deposit.request = request)
      (hfinds : deposit.Finds bucket) (hblocked : deposit.Blocked bucket)
      (hphase : phase ≠ .pointer)
      (hbeside : adapter.layout.Beside (deposit.reach provider bucket phase) after)
      (hhalts : phase = deposit.halts bucket) :
      PutEnds provider adapter request faults bucket (.error failure) after
  | cut (deposit : Deposit) (call : S3Call) (fault : Fault Failure) (phase : PutPhase)
      (failure : Failure) (after : Bucket) (hadapter : deposit.adapter = adapter)
      (hrequest : deposit.request = request) (hfinds : deposit.Finds bucket)
      (hfault : faults call fault) (hphase : deposit.Stops call fault.effect phase)
      (hsame : SameObjects (deposit.reach provider bucket phase) after) :
      PutEnds provider adapter request faults bucket (.error failure) after
  | committed (deposit : Deposit) (after : Bucket) (hadapter : deposit.adapter = adapter)
      (hrequest : deposit.request = request) (hfinds : deposit.Finds bucket)
      (hfree : ¬deposit.Blocked bucket)
      (hsame : SameObjects (deposit.reach provider bucket .pointer) after) :
      PutEnds provider adapter request faults bucket (.ok deposit.metadata) after

end MeridianS3
