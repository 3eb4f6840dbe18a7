import MeridianS3.Retention
import MeridianS3.Multipart

namespace MeridianS3

open Effect Json

def MAX_INTERNAL_JSON_BYTES : Nat := 4 * 1024 * 1024

structure StoredObject where
  versionId : Option String
  etag : Option String
  multipart : Option MultipartUploadEvidence
deriving DecidableEq

structure HeadObject where
  byteLength : Nat
  contentType : String
  metadata : List (String × String)
  versionId : Option String
deriving DecidableEq

structure KeyPage where
  keys : List String
  truncated : Bool

-- The SDK's own failures are normalized before they leave the transport.
def normalized {α : Type} (operation : String) (retentionSensitive : Bool) (program : S3M α) :
    S3M α :=
  tryCatch program fun failure => throw (raiseNormalizedS3Error failure operation retentionSensitive)

-- A version id that is not a string does not pass the SDK's parameter validation.
def versionArgument (versionId : Value) : Except Failure (Option String) :=
  match versionId with
  | .null => .ok none
  | .str name => .ok (some name)
  | _ => .error ⟨.sdk .paramValidation, none⟩

-- The read loop of verify_digest, up to the first empty read.
def readBack : List Bytes → Bytes → Nat → Bytes × Nat
  | [], hashed, observed => (hashed, observed)
  | chunk :: rest, hashed, observed =>
      if chunk = [] then (hashed, observed)
      else readBack rest (hashed ++ chunk) (observed + chunk.length)

structure S3Transport where
  common : ObjectCommon
  config : S3Config

namespace S3Transport

variable (transport : S3Transport)

def headBucket : S3M Unit :=
  normalized "health.head-bucket" false (Program.perform (S := S3) .headBucket)

def head (key : String) (versionId : Value) : S3M HeadObject := do
  let value ← normalized "stat" false do
    let version ← Program.lift (versionArgument versionId)
    Program.perform (S := S3) (.headObject key version)
  return ⟨value.contentLength, value.contentType, value.metadata, value.versionId⟩

def getBody (key : String) (versionId : Value) (byteRange : Option (Nat × Nat)) :
    S3M (List Bytes) :=
  normalized (if byteRange.isSome then "read_range" else "get") false do
    let version ← Program.lift (versionArgument versionId)
    Program.perform (S := S3) (.getObject key version byteRange)

def verifyDigest (key digest : String) (length : Nat) (versionId : Option String) : S3M Unit := do
  let body ← getBody key (.ofOption versionId) none
  let (hashed, observedLength) := readBack body [] 0
  if observedLength ≠ length then
    throw (.meridian .incompleteUpload
      (some "S3 stored length did not match the verified upload"))
  if transport.common.digest hashed ≠ digest then
    throw (.meridian .digestMismatch (some "S3 stored digest did not match the verified upload"))

def writeArguments (retention : Option RetentionRecord) : Except Failure WriteArguments := do
  let lock ← match retention with
    | none => .ok none
    | some record => record.objectLockArguments transport.common
  return ⟨transport.config.serverSideEncryption, transport.config.kmsKeyId, lock⟩

def enforced (retention : Option RetentionRecord) : Bool :=
  retention.any fun record => record.providerEnforced.truthy

def removeSha256Prefix (digest : String) : String :=
  if digest.toList.take 7 = "sha256:".toList then String.ofList (digest.toList.drop 7) else digest

theorem removeSha256Prefix_digest (content : HexDigest) :
    removeSha256Prefix content.digest = content.text := by
  have htake : content.digest.toList.take 7 = "sha256:".toList := by
    simp [HexDigest.digest]
  have hdrop : content.digest.toList.drop 7 = content.text.toList := by
    simp [HexDigest.digest]
  rw [removeSha256Prefix, if_pos htake, hdrop, String.ofList_toList]

def uploadTarget (key : String) (length : Nat) (useChecksum : Bool) : UploadTarget :=
  { common := transport.common
    key := key
    length := length
    partSize := transport.config.multipartPartBytes
    checksumHeaders := useChecksum }

def useChecksum (retention : Option RetentionRecord) : Bool :=
  transport.config.checksumHeaders || enforced retention

-- The single request that stores a payload below the multipart threshold.
def fileCall (key : String) (stream : Bytes) (length : Nat) (digest : String)
    (header : ObjectHeader) (retention : Option RetentionRecord) (createOnly : Bool) : S3Call :=
  .putObject key header stream length createOnly
    (if transport.useChecksum retention then some (removeSha256Prefix digest) else none)

def storeFile (key : String) (stream : Bytes) (length : Nat) (digest : String)
    (header : ObjectHeader) (retention : Option RetentionRecord) (createOnly : Bool) :
    S3M StoredObject :=
  if transport.config.multipartThresholdBytes ≤ length then do
    let evidence ← (transport.uploadTarget key length
      (transport.useChecksum retention)).uploadMultipart stream header
    return ⟨evidence.versionId, none, some evidence⟩
  else do
    let value : PutReply ← Program.perform (S := S3)
      (transport.fileCall key stream length digest header retention createOnly)
    return ⟨value.versionId, value.etag, none⟩

def putFile (key : String) (stream : Bytes) (length : Nat) (digest contentType : String)
    (metadata : List (String × String)) (retention : Option RetentionRecord) (createOnly : Bool) :
    S3M StoredObject := do
  if transport.config.maxObjectBytes < length then
    throw (.meridian .objectInvalidRequest (some "Object exceeds the configured S3 size limit"))
  let arguments ← Program.lift (transport.writeArguments retention)
  let stored ← normalized "put" false (transport.storeFile key stream length digest
    ⟨contentType, metadata, arguments⟩ retention createOnly)
  if transport.config.verifyAfterWrite then
    transport.verifyDigest key digest length stored.versionId
  return stored

-- What a JSON document is stored as.
def jsonObject (value : Value) (arguments : WriteArguments) : StoredBody :=
  ⟨⟨"application/json", [("meridian-format", "object-v1")], arguments⟩,
    transport.common.canonicalJsonBytes value⟩

def jsonCall (key : String) (value : Value) (createOnly : Bool)
    (retention : Option RetentionRecord) (arguments : WriteArguments) : S3Call :=
  let object := transport.jsonObject value arguments
  .putObject key object.header object.body object.body.length createOnly
    (if enforced retention then some (transport.common.hexdigest object.body).text else none)

def putJson (key : String) (value : Value) (createOnly : Bool)
    (retention : Option RetentionRecord) : S3M StoredObject := do
  let arguments ← Program.lift (transport.writeArguments retention)
  let response : PutReply ← normalized "metadata.put" false
    (Program.perform (S := S3) (transport.jsonCall key value createOnly retention arguments))
  return ⟨response.versionId, response.etag, none⟩

def decodeJson (raw : Bytes) : Except Failure Value :=
  if MAX_INTERNAL_JSON_BYTES < raw.length then
    .error (.meridian .objectInvalidRequest
      (some "stored Object metadata exceeds its safety bound"))
  else
    match transport.common.jsonLoads raw with
    | .error .decodeError =>
        .error (.meridian .digestMismatch (some "stored Object metadata is corrupt"))
    | .error (.valueError message) => .error ⟨.valueError message, none⟩
    | .error (.recursionError message) => .error ⟨.recursionError message, none⟩
    | .ok value =>
        if value.isMapping then .ok value
        else .error (.meridian .digestMismatch (some "stored Object metadata is not an object"))

def readJson (key : String) : S3M Value := do
  let body ← getBody key .null none
  Program.lift (transport.decodeJson (body.flatten.take (MAX_INTERNAL_JSON_BYTES + 1)))

def delete (key : String) (versionId : Value) (retentionSensitive : Bool) : S3M Unit :=
  normalized "delete" retentionSensitive do
    let version ← Program.lift (versionArgument versionId)
    Program.perform (S := S3) (.deleteObject key version)

def listKeys (keyPrefix : String) (maxKeys : Nat) (startAfter : Option String) : S3M KeyPage := do
  let value ← normalized "list" false
    (Program.perform (S := S3) (.listObjectsV2 keyPrefix maxKeys startAfter))
  return ⟨value.contents, value.isTruncated⟩

end S3Transport

end MeridianS3
