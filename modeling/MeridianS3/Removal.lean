import MeridianS3.Adapter.Delete
import MeridianS3.Adapter.Solo
import MeridianS3.Records

namespace MeridianS3

open Effect ObjectStore Json

-- How far a delete has come: the last of its changes that has taken effect.
inductive DeletePhase where
  | start
  | blob
  | reference
  | pointer
  | evidence
deriving DecidableEq

-- A delete with what it has found before it changes anything: the version's envelope,
-- the entry of its reference document, the latest version and the newest other one.
structure Removal where
  adapter : S3ObjectAdapter
  request : DeleteRequest
  reference : ObjectReference
  content : HexDigest
  envelope : StoredEnvelope
  version : Option String
  entry : Nat
  latest : Option StoredEnvelope
  previous : Option StoredEnvelope

-- The bucket after the deletion of a key or of one of its versions.
def Provider.without (provider : Provider) (bucket : Bucket) (key : String)
    (version : Option String) : Bucket :=
  (provider.handle (.deleteObject key version) bucket).2

-- The bucket after an unconditional write of a document.
def S3ObjectAdapter.written (adapter : S3ObjectAdapter) (bucket : Bucket) (key : String)
    (value : Value) : Bucket :=
  bucket.put key (adapter.transport.jsonObject value
    ⟨adapter.config.serverSideEncryption, adapter.config.kmsKeyId, none⟩)

namespace Removal

variable (removal : Removal) (provider : Provider)

def resource : HexDigest := removal.adapter.layout.resourceToken removal.request.resource

def object : HexDigest := removal.adapter.layout.objectToken removal.reference.objectId

def blobPath : String :=
  removal.adapter.layout.path (.blob removal.resource removal.object removal.content)

def referencePath : String :=
  removal.adapter.layout.path (.reference removal.resource removal.object removal.content)

def latestPath : String := removal.adapter.layout.path (.latest removal.resource removal.object)

def evidencePath : String :=
  removal.adapter.layout.path (.deletion removal.resource removal.object removal.content)

-- The pointer is moved if it was seen at the version that goes.
def moves : Bool :=
  removal.latest.any fun latest => latest.metadata.digest = removal.content.digest

def movePointer (bucket : Bucket) : Bucket :=
  match removal.previous with
  | some previous =>
      removal.adapter.written bucket removal.latestPath (latestValue previous.metadata.digest)
  | none =>
      match bucket.head removal.latestPath with
      | some entry =>
          provider.without bucket removal.latestPath (provider.reportedVersion bucket entry.id)
      | none => bucket

def recordEvidence (bucket : Bucket) : Bucket :=
  if (bucket.current removal.evidencePath).isSome then bucket
  else removal.adapter.written bucket removal.evidencePath
    (removal.adapter.deletionValue removal.request removal.reference)

def blobGone (bucket : Bucket) : Bucket :=
  provider.without bucket removal.blobPath removal.version

def referenceGone (bucket : Bucket) : Bucket :=
  provider.without (removal.blobGone provider bucket) removal.referencePath
    (provider.reportedVersion bucket removal.entry)

def pointerMoved (bucket : Bucket) : Bucket :=
  if removal.moves then removal.movePointer provider (removal.referenceGone provider bucket)
  else removal.referenceGone provider bucket

-- The bucket when the delete has come so far.
def reach (bucket : Bucket) : DeletePhase → Bucket
  | .start => bucket
  | .blob => removal.blobGone provider bucket
  | .reference => removal.referenceGone provider bucket
  | .pointer => removal.pointerMoved provider bucket
  | .evidence => removal.recordEvidence (removal.pointerMoved provider bucket)

-- How far a delete has come when a call fails, with or without having taken effect.
def phaseAt (effect : Bool) : S3Call → DeletePhase
  | .deleteObject key _ =>
      if key = removal.blobPath then if effect then .blob else .start
      else if key = removal.referencePath then if effect then .reference else .blob
      else if effect then .pointer else .reference
  | .putObject key .. =>
      if key = removal.latestPath then if effect then .pointer else .reference
      else if effect then .evidence else .pointer
  | .headObject key _ => if key = removal.latestPath then .reference else .start
  | _ => .start

-- What the delete has found is what a bucket holds.
structure Finds (faults : S3Call → Fault Failure → Prop) (bucket : Bucket) : Prop where
  reference : removal.adapter.reference removal.request.resource removal.request.reference
    "delete" true = .ok removal.reference
  digest : removal.reference.digest = some removal.content.digest
  envelope : removal.adapter.envelopeAt bucket removal.request.resource
    removal.reference.objectId removal.content.digest = .ok removal.envelope
  allowed : removal.adapter.requireDeleteAllowed removal.envelope removal.request.checkedAt =
    .ok ()
  version : removal.envelope.blobVersionId = .ofOption removal.version
  entry : ∃ stored, bucket.entries removal.referencePath = [⟨removal.entry, some stored⟩]
  latest : removal.adapter.Sees bucket removal.request.resource removal.reference.objectId faults
    removal.latest
  previous : removal.adapter.newestIn bucket removal.request.resource removal.reference.objectId
    (some removal.content.digest) = .ok removal.previous

end Removal

-- How a delete can end that runs alone: refused before it has changed anything, cut off,
-- or carried out to the evidence, which may already have been recorded by an earlier one.
inductive DeleteEnds (provider : Provider) (adapter : S3ObjectAdapter) (request : DeleteRequest)
    (faults : S3Call → Fault Failure → Prop) (bucket : Bucket) :
    Except Failure Bool → Bucket → Prop where
  | refused (failure : Failure) (after : Bucket) (hsame : SameObjects bucket after)
      (hcause : S3ObjectAdapter.Outages faults → S3ObjectAdapter.ReadFault faults ∨
        ∀ removal : Removal, removal.adapter = adapter → removal.request = request →
          ¬removal.Finds faults bucket) :
      DeleteEnds provider adapter request faults bucket (.error failure) after
  | rejected (removal : Removal) (failure error : Failure) (after : Bucket)
      (hadapter : removal.adapter = adapter) (hrequest : removal.request = request)
      (hfinds : removal.Finds faults bucket)
      (hrejects : (provider.handle (.deleteObject removal.blobPath removal.version) bucket).1 =
        .error error) (hsame : SameObjects bucket after) :
      DeleteEnds provider adapter request faults bucket (.error failure) after
  | cut (removal : Removal) (call : S3Call) (fault : Fault Failure) (failure : Failure)
      (after : Bucket) (hadapter : removal.adapter = adapter)
      (hrequest : removal.request = request) (hfinds : removal.Finds faults bucket)
      (hfault : faults call fault) (hsame : SameObjects
        (removal.reach provider bucket (removal.phaseAt fault.effect call)) after) :
      DeleteEnds provider adapter request faults bucket (.error failure) after
  | recorded (removal : Removal) (after : Bucket) (hadapter : removal.adapter = adapter)
      (hrequest : removal.request = request) (hfinds : removal.Finds faults bucket)
      (hevidence : (bucket.current removal.evidencePath).isSome = true)
      (hsame : SameObjects (removal.reach provider bucket .evidence) after) :
      DeleteEnds provider adapter request faults bucket (.error S3Transport.refusedWrite) after
  | completed (removal : Removal) (after : Bucket) (hadapter : removal.adapter = adapter)
      (hrequest : removal.request = request) (hfinds : removal.Finds faults bucket)
      (hevidence : bucket.current removal.evidencePath = none)
      (hsame : SameObjects (removal.reach provider bucket .evidence) after) :
      DeleteEnds provider adapter request faults bucket (.ok true) after

end MeridianS3
