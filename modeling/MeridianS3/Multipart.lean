import MeridianS3.Config
import MeridianS3.Provider

namespace MeridianS3

open Effect

structure MultipartUploadEvidence where
  uploadId : String
  versionId : Option String
  partCount : Nat
  partDigests : List String
deriving DecidableEq

-- What the loop over the parts has read and sent so far.
structure PartsProgress where
  stream : Bytes
  consumed : Nat
  completed : List CompletedPart
  partDigests : List String

structure UploadTarget where
  common : ObjectCommon
  key : String
  length : Nat
  partSize : Nat
  checksumHeaders : Bool

namespace UploadTarget

variable (target : UploadTarget)

def expectedParts : Nat :=
  max 1 ((target.length + target.partSize - 1) / target.partSize)

def incomplete (message : String) : Failure := .meridian .incompleteUpload (some message)

def partRead (progress : PartsProgress) : Nat :=
  min target.partSize (target.length - progress.consumed)

def partCall (uploadId : String) (number : Nat) (data : Bytes) : S3Call :=
  .uploadPart target.key uploadId number data
    (if target.checksumHeaders then some (target.common.hexdigest data).text else none)

def sendPart (uploadId : String) (number : Nat) (progress : PartsProgress) : S3M PartsProgress := do
  let data := progress.stream.take (target.partRead progress)
  if data = [] then throw (incomplete "multipart source ended before its declared length")
  let digest := target.common.hexdigest data
  let uploaded : PartReply ← Program.perform (S := S3) (target.partCall uploadId number data)
  let etag := uploaded.etag.getD ""
  if etag = "" then throw (incomplete "S3 did not verify a completed multipart part")
  if uploaded.checksumSha256.any (· ≠ digest.text) then
    throw (incomplete "S3 returned a mismatched multipart part checksum")
  return { stream := progress.stream.drop (target.partRead progress)
           consumed := progress.consumed + data.length
           completed := progress.completed ++ [⟨etag, number, uploaded.checksumSha256⟩]
           partDigests := progress.partDigests ++ [digest.digest] }

-- for number in range(1, expected_parts + 1)
def sendParts (uploadId : String) : Nat → Nat → PartsProgress → S3M PartsProgress
  | 0, _, progress => pure progress
  | remaining + 1, number, progress => do
      let next ← target.sendPart uploadId number progress
      sendParts uploadId remaining (number + 1) next

def completeUpload (uploadId : String) (stream : Bytes) : S3M MultipartUploadEvidence := do
  let progress ← target.sendParts uploadId target.expectedParts 1 ⟨stream, 0, [], []⟩
  if progress.consumed ≠ target.length ∨ progress.stream.take 1 ≠ [] then
    throw (incomplete "multipart source length did not match its declaration")
  let versionId ← Program.perform (S := S3)
    (.completeMultipartUpload target.key uploadId progress.completed)
  return ⟨uploadId, versionId, progress.completed.length, progress.partDigests⟩

def abortUpload (uploadId : String) : S3M Unit :=
  tryCatch (Program.perform (S := S3) (.abortMultipartUpload target.key uploadId)) fun _ => pure ()

def uploadMultipart (stream : Bytes) (header : ObjectHeader) : S3M MultipartUploadEvidence := do
  if S3_MAX_MULTIPART_PARTS < target.expectedParts then
    throw (.meridian .multipartInvalid (some "multipart upload exceeds the S3 part-count limit"))
  let response ← Program.perform (S := S3)
    (.createMultipartUpload target.key header target.checksumHeaders)
  let uploadId := response.getD ""
  if uploadId = "" then throw (incomplete "S3 did not return a multipart upload id")
  tryCatch (target.completeUpload uploadId stream) fun failure => do
    target.abortUpload uploadId
    throw failure

end UploadTarget

end MeridianS3
