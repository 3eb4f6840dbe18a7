import MeridianS3.Retention

namespace MeridianS3

open Json

def ENVELOPE_VERSION : String := "meridian.s3-object-envelope.v1"
def LATEST_VERSION : String := "meridian.s3-object-latest.v1"
def MAX_INTERNAL_LIST_PAGES : Nat := 10

def jsonMapping (value : Value) (name : String) : Except Failure Value :=
  if value.isMapping then .ok value
  else .error (.meridian .objectInvalidRequest (some (name ++ " must be an object")))

-- The blob version id is read back without a check of its type.
structure StoredEnvelope where
  metadata : ObjectMetadata
  blobVersionId : Value
  retention : Option RetentionRecord
  integrityChunkBytes : Int
  chunkDigests : List String
deriving DecidableEq

namespace StoredEnvelope

def toDict (common : ObjectCommon) (envelope : StoredEnvelope) : Value :=
  .obj
    [("blobVersionId", envelope.blobVersionId),
      ("formatVersion", .str ENVELOPE_VERSION),
      ("integrity", .obj
        [("chunkBytes", .int envelope.integrityChunkBytes),
          ("chunkDigests", .arr (envelope.chunkDigests.map .str))]),
      ("metadata", common.metadataToDict envelope.metadata),
      ("retention", (envelope.retention.map RetentionRecord.toDict).getD .null)]

def FIELDS : List String :=
  ["formatVersion", "metadata", "blobVersionId", "retention", "integrity"]

def invalid (message : String) : Failure := .meridian .digestMismatch (some message)

def stringItem : Value → Option String
  | .str text => some text
  | _ => none

def integrityFields (integrity : Value) : Except Failure (Int × List String) :=
  if ¬integrity.hasExactly ["chunkBytes", "chunkDigests"] then
    .error (invalid "stored S3 integrity record is invalid")
  else
    match integrity.get? "chunkBytes", integrity.get? "chunkDigests" with
    | some (.int chunkBytes), some (.arr items) =>
        match items.mapM stringItem with
        | some digests => .ok (chunkBytes, digests)
        | none => .error (invalid "stored S3 integrity record is invalid")
    | _, _ => .error (invalid "stored S3 integrity record is invalid")

def fromMapping (common : ObjectCommon) (value : Value) : Except Failure StoredEnvelope :=
  match value.get? "formatVersion", value.get? "metadata", value.get? "blobVersionId",
    value.get? "retention", value.get? "integrity" with
  | some formatVersion, some metadata, some blobVersionId, some retention, some integrity =>
      if ¬value.hasExactly FIELDS ∨ formatVersion ≠ .str ENVELOPE_VERSION then
        .error (invalid "stored S3 Object envelope is invalid")
      else do
        let metadataValue ← jsonMapping metadata "stored metadata"
        if retention ≠ .null ∧ ¬retention.isMapping then
          throw (invalid "stored S3 retention record is invalid")
        let integrityValue ← jsonMapping integrity "stored integrity"
        let (chunkBytes, chunkDigests) ← integrityFields integrityValue
        let parsed ← common.parseObjectMetadata metadataValue
        let record ← RetentionRecord.fromMapping retention
        return ⟨parsed, blobVersionId, record, chunkBytes, chunkDigests⟩
  | _, _, _, _, _ => .error (invalid "stored S3 Object envelope is invalid")

end StoredEnvelope

-- The document under the latest key.
def latestValue (digest : String) : Value :=
  .obj [("digest", .str digest), ("formatVersion", .str LATEST_VERSION)]

end MeridianS3
