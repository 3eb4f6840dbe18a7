import MeridianS3.Effect.Interleaving
import MeridianS3.ObjectStore.Store
import MeridianS3.ObjectCommon

namespace MeridianS3

open Effect ObjectStore

structure ObjectLock where
  mode : Json.Value
  retainUntilDate : Timestamp
deriving DecidableEq

-- The write arguments taken from the configuration and the retention record.
structure WriteArguments where
  serverSideEncryption : Option String := none
  sseKmsKeyId : Option String := none
  objectLock : Option ObjectLock := none
deriving DecidableEq

-- Everything a put request or an opened upload carries besides the bytes.
structure ObjectHeader where
  contentType : String
  metadata : List (String × String)
  arguments : WriteArguments
deriving DecidableEq

structure CompletedPart where
  etag : String
  partNumber : Nat
  checksumSha256 : Option String
deriving DecidableEq

-- A checksum is given as the SHA-256 whose base64 form is sent.
inductive S3Call where
  | headBucket
  | headObject (key : String) (versionId : Option String)
  | getObject (key : String) (versionId : Option String) (range : Option (Nat × Nat))
  | putObject (key : String) (header : ObjectHeader) (body : Bytes) (contentLength : Nat)
      (ifNoneMatch : Bool) (checksumSha256 : Option String)
  | deleteObject (key : String) (versionId : Option String)
  | listObjectsV2 (keyPrefix : String) (maxKeys : Nat) (startAfter : Option String)
  | createMultipartUpload (key : String) (header : ObjectHeader) (checksums : Bool)
  | uploadPart (key uploadId : String) (partNumber : Nat) (body : Bytes)
      (checksumSha256 : Option String)
  | completeMultipartUpload (key uploadId : String) (parts : List CompletedPart)
  | abortMultipartUpload (key uploadId : String)

structure HeadReply where
  contentLength : Nat
  contentType : String
  metadata : List (String × String)
  versionId : Option String

structure PutReply where
  versionId : Option String
  etag : Option String

structure PartReply where
  etag : Option String
  checksumSha256 : Option String

structure ListReply where
  contents : List String
  isTruncated : Bool

-- A body is the results of the successive reads of its stream.
abbrev S3Call.Reply : S3Call → Type
  | .headBucket => Unit
  | .headObject .. => HeadReply
  | .getObject .. => List Bytes
  | .putObject .. => PutReply
  | .deleteObject .. => Unit
  | .listObjectsV2 .. => ListReply
  | .createMultipartUpload .. => Option String
  | .uploadPart .. => PartReply
  | .completeMultipartUpload .. => Option String
  | .abortMultipartUpload .. => Unit

abbrev S3 : Signature := ⟨S3Call, S3Call.Reply⟩

abbrev S3M (α : Type) := Program S3 Failure α

abbrev StoredBody := Object ObjectHeader UInt8

abbrev Bucket := Store String ObjectHeader UInt8

-- What an S3 provider is free to choose: how it spells version and upload ids,
-- its entity tags, and how a body comes in over the wire.
structure Provider where
  versionName : Nat → String
  versionNumber : String → Option Nat
  versionNumber_iff : ∀ name number, versionNumber name = some number ↔ name = versionName number
  uploadName : Nat → String
  uploadNumber : String → Option Nat
  uploadNumber_iff : ∀ name number, uploadNumber name = some number ↔ name = uploadName number
  uploadName_ne : ∀ number, uploadName number ≠ ""
  etag : Bytes → String
  etag_ne : ∀ body, etag body ≠ ""
  deliver : Bytes → List Bytes
  deliver_flatten : ∀ body, (deliver body).flatten = body
  deliver_ne : ∀ body, [] ∉ deliver body

namespace Provider

variable (provider : Provider)

def reportedVersion (bucket : Bucket) (number : Nat) : Option String :=
  if bucket.versioned then some (provider.versionName number) else none

-- The entry and object that a request names, or the code and status of the refusal.
def lookup (bucket : Bucket) (key : String) (versionId : Option String) (missing : String) :
    Except Failure (Nat × StoredBody) :=
  match versionId with
  | none =>
      match bucket.head key with
      | some ⟨id, some object⟩ => .ok (id, object)
      | _ => .error (.client missing "404")
  | some name =>
      match if bucket.versioned then provider.versionNumber name else none with
      | none => .error (.client "NoSuchVersion" "404")
      | some number =>
          match (bucket.entries key).find? fun entry => entry.id = number with
          | some ⟨id, some object⟩ => .ok (id, object)
          | some ⟨_, none⟩ => .error (.client "MethodNotAllowed" "405")
          | none => .error (.client "NoSuchVersion" "404")

def slice (body : Bytes) (range : Nat × Nat) : Bytes :=
  (body.drop range.1).take (range.2 + 1 - range.1)

def partsBody (session : Session String ObjectHeader UInt8) (parts : List CompletedPart) :
    Option Bytes :=
  match parts with
  | [] => some []
  | part :: rest =>
      match session.parts part.partNumber with
      | none => none
      | some body =>
          if provider.etag body = part.etag then (partsBody session rest).map (body ++ ·) else none

def handle : Handler S3 Failure Bucket
  | .headBucket, bucket => (.ok (), bucket)
  | .headObject key versionId, bucket =>
      (match provider.lookup bucket key versionId "404" with
      | .error error => .error error
      | .ok (id, object) => .ok
          { contentLength := object.body.length
            contentType := object.header.contentType
            metadata := object.header.metadata
            versionId := provider.reportedVersion bucket id }, bucket)
  | .getObject key versionId range, bucket =>
      (match provider.lookup bucket key versionId "NoSuchKey" with
      | .error error => .error error
      | .ok (_, object) =>
          match range with
          | none => .ok (provider.deliver object.body)
          | some range =>
              if range.1 < object.body.length then .ok (provider.deliver (slice object.body range))
              else .error (.client "InvalidRange" "416"), bucket)
  | .putObject key header body contentLength ifNoneMatch _, bucket =>
      if contentLength ≠ body.length then (.error (.client "IncompleteBody" "400"), bucket)
      else if ifNoneMatch ∧ (bucket.current key).isSome then
        (.error (.client "PreconditionFailed" "412"), bucket)
      else (.ok ⟨provider.reportedVersion bucket bucket.issued, some (provider.etag body)⟩,
        bucket.put key ⟨header, body⟩)
  | .deleteObject key versionId, bucket =>
      match versionId with
      | none => (.ok (), bucket.delete key none)
      | some name =>
          match if bucket.versioned then provider.versionNumber name else none with
          | none => (.error (.client "InvalidArgument" "400"), bucket)
          | some number => (.ok (), bucket.delete key (some number))
  | .listObjectsV2 keyPrefix maxKeys startAfter, bucket =>
      let page := bucket.list (fun key => keyPrefix.toList.isPrefixOf key.toList)
        (min maxKeys 1000) startAfter
      (.ok ⟨page.keys, page.truncated⟩, bucket)
  | .createMultipartUpload key header _, bucket =>
      (.ok (some (provider.uploadName bucket.opened)), bucket.openSession key header)
  | .uploadPart key uploadId number body checksum, bucket =>
      match provider.uploadNumber uploadId with
      | none => (.error (.client "NoSuchUpload" "404"), bucket)
      | some upload =>
          match bucket.sessions upload with
          | none => (.error (.client "NoSuchUpload" "404"), bucket)
          | some session =>
              if session.key ≠ key then (.error (.client "NoSuchUpload" "404"), bucket)
              else (.ok ⟨some (provider.etag body), checksum⟩, bucket.addPart upload number body)
  | .completeMultipartUpload key uploadId parts, bucket =>
      match provider.uploadNumber uploadId with
      | none => (.error (.client "NoSuchUpload" "404"), bucket)
      | some upload =>
          match bucket.sessions upload with
          | none => (.error (.client "NoSuchUpload" "404"), bucket)
          | some session =>
              if session.key ≠ key then (.error (.client "NoSuchUpload" "404"), bucket)
              else
                match provider.partsBody session parts with
                | none => (.error (.client "InvalidPart" "400"), bucket)
                | some body =>
                    (.ok (provider.reportedVersion bucket bucket.issued),
                      (bucket.closeSession upload).put key ⟨session.header, body⟩)
  | .abortMultipartUpload key uploadId, bucket =>
      match provider.uploadNumber uploadId with
      | none => (.error (.client "NoSuchUpload" "404"), bucket)
      | some upload =>
          match bucket.sessions upload with
          | none => (.error (.client "NoSuchUpload" "404"), bucket)
          | some session =>
              if session.key ≠ key then (.error (.client "NoSuchUpload" "404"), bucket)
              else (.ok (), bucket.closeSession upload)

end Provider

end MeridianS3
