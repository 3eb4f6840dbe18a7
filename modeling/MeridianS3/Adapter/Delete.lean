import MeridianS3.Adapter.Core

namespace MeridianS3

open Effect Json

-- An exact delete, with the clock when retention is checked and when the evidence
-- is written.
structure DeleteRequest where
  resource : ResourceRef
  reference : Value
  reason : Value
  checkedAt : Timestamp
  deletedAt : Timestamp

namespace S3ObjectAdapter

variable (adapter : S3ObjectAdapter)

def deletionValue (request : DeleteRequest) (reference : ObjectReference) : Value :=
  .obj
    [("deletedAt", .str (adapter.common.timestampIsoformat request.deletedAt)),
      ("formatVersion", .str "meridian.s3-object-deletion.v1"),
      ("objectRef", adapter.common.referenceToDict reference),
      ("reason", request.reason)]

def requireDeleteAllowed (envelope : StoredEnvelope) (now : Timestamp) : Except Failure Unit :=
  match envelope.retention with
  | none => .ok ()
  | some record => record.requireDeleteAllowed adapter.common now

-- The pointer after its version is gone: rewritten to the newest remaining
-- version, or its head version removed.
def restoreLatest (resource : ResourceRef) (objectId : String)
    (previous : Option StoredEnvelope) : S3M Unit := do
  let latestKey := adapter.layout.latestKey resource objectId
  match previous with
  | some previous => do
      let _ ← adapter.transport.putJson latestKey (latestValue previous.metadata.digest) false none
  | none => do
      let latestHead ← S3Transport.head latestKey .null
      S3Transport.delete latestKey (.ofOption latestHead.versionId) false

-- The removals of a delete, after all that it reads.
def removeVersion (resource : ResourceRef) (objectId digest : String) (envelope : StoredEnvelope)
    (latest previous : Option StoredEnvelope) : S3M Unit := do
  let blobKey ← Program.lift (adapter.layout.blobKey resource objectId digest)
  let exactKey ← Program.lift (adapter.layout.referenceKey resource objectId digest)
  let exactHead ← S3Transport.head exactKey .null
  S3Transport.delete blobKey envelope.blobVersionId envelope.retention.isSome
  S3Transport.delete exactKey (.ofOption exactHead.versionId) envelope.retention.isSome
  if latest.any fun latest => latest.metadata.digest = digest then
    adapter.restoreLatest resource objectId previous

def recordDeletion (request : DeleteRequest) (reference : ObjectReference) (digest : String) :
    S3M Unit := do
  let key ← Program.lift
    (adapter.layout.deletionEvidenceKey request.resource reference.objectId digest)
  let _ ← adapter.transport.putJson key (adapter.deletionValue request reference) true none

def deleteVersion (request : DeleteRequest) (reference : ObjectReference) (digest : String) :
    S3M Unit := do
  let envelope ← adapter.readEnvelope request.resource reference.objectId (some digest)
  Program.lift (adapter.requireDeleteAllowed envelope request.checkedAt)
  let latest ← adapter.tryLatest request.resource reference.objectId
  let previous ← adapter.newestVersion request.resource reference.objectId (some digest)
  adapter.removeVersion request.resource reference.objectId digest envelope latest previous
  adapter.recordDeletion request reference digest

-- deleted = true is the only value that a delete returns.
def delete (request : DeleteRequest) : S3M Bool := do
  let reference ← Program.lift
    (adapter.reference request.resource request.reference "delete" true)
  match reference.digest with
  | none => throw (.meridian .objectInvalidRequest (some "exact Object delete requires a digest"))
  | some digest => do
      adapter.deleteVersion request reference digest
      return true

end S3ObjectAdapter

end MeridianS3
