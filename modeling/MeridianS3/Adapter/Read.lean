import MeridianS3.Adapter.Core
import MeridianS3.Layout.Cursor

namespace MeridianS3

open Effect Json

-- A request by reference, with the method that the operation names.
structure ReferenceRequest where
  resource : ResourceRef
  reference : Value
  method : String

structure RangeRequest where
  resource : ResourceRef
  reference : Value
  range : Value

structure ListRequest where
  resource : ResourceRef
  namePrefix : String
  limit : Nat
  cursor : Option String

-- A payload source as it is registered: where the bytes will be read from, and what
-- they are to be.
structure PayloadSource where
  key : String
  versionId : Value
  expectedLength : Nat
  expectedDigest : Option String

structure GetResult where
  metadata : ObjectMetadata
  payload : PayloadSource

structure RangeResult where
  metadata : ObjectMetadata
  payload : PayloadSource
  range : ResolvedByteRange
  chunkDigests : List String

structure ListResult where
  items : List ObjectMetadata
  cursor : Option String

-- What the loops of a listing carry from page to page.
structure ListProgress where
  items : List ObjectMetadata
  lastScanned : Option String

namespace S3ObjectAdapter

variable (adapter : S3ObjectAdapter)

def verifyHead (envelope : StoredEnvelope) (head : HeadObject) : Except Failure Unit :=
  if head.byteLength ≠ envelope.metadata.byteLength ∨
      head.metadata.lookup "meridian-digest" ≠
        some (S3Transport.removeSha256Prefix envelope.metadata.digest) then
    .error (.meridian .digestMismatch
      (some "S3 Object metadata does not match its physical bytes"))
  else .ok ()

def stat (request : ReferenceRequest) : S3M StoredEnvelope := do
  let reference ← Program.lift
    (adapter.reference request.resource request.reference request.method false)
  let envelope ← adapter.readEnvelope request.resource reference.objectId reference.digest
  let blobKey ← Program.lift (adapter.layout.blobKey request.resource
    envelope.metadata.objectRef.objectId envelope.metadata.digest)
  let head ← S3Transport.head blobKey envelope.blobVersionId
  Program.lift (verifyHead envelope head)
  return envelope

def get (resource : ResourceRef) (reference : Value) : S3M GetResult := do
  let envelope ← adapter.stat ⟨resource, reference, "get"⟩
  let key ← Program.lift (adapter.layout.blobKey resource envelope.metadata.objectRef.objectId
    envelope.metadata.digest)
  return ⟨envelope.metadata, ⟨key, envelope.blobVersionId, envelope.metadata.byteLength,
    some envelope.metadata.digest⟩⟩

def readRange (request : RangeRequest) : S3M RangeResult := do
  let envelope ← adapter.stat ⟨request.resource, request.reference, "read_range"⟩
  let rawRange ← Program.lift (jsonMapping request.range "range")
  let resolved ← Program.lift
    (adapter.common.resolveRange rawRange envelope.metadata.byteLength)
  if adapter.config.maxRangeBytes < resolved.length then
    throw (.meridian .objectInvalidRequest
      (some "requested byte range exceeds the configured S3 limit"))
  if envelope.integrityChunkBytes ≠ adapter.config.integrityChunkBytes then
    throw (.meridian .digestMismatch
      (some "stored Object integrity chunk format is incompatible"))
  let key ← Program.lift (adapter.layout.blobKey request.resource
    envelope.metadata.objectRef.objectId envelope.metadata.digest)
  return ⟨envelope.metadata, ⟨key, envelope.blobVersionId, resolved.length, none⟩, resolved,
    envelope.chunkDigests⟩

-- The keys of one page, up to the limit. The flag says that the limit cut the page off.
def listPage (namePrefix : String) (limit : Nat) :
    List String → ListProgress → S3M (ListProgress × Bool)
  | [], progress => pure (progress, false)
  | key :: rest, progress =>
      if progress.items.length = limit then pure (progress, true)
      else do
        let value ← adapter.transport.readJson key
        let envelope ← Program.lift (StoredEnvelope.fromMapping adapter.common value)
        listPage namePrefix limit rest
          { items := if namePrefix.toList.isPrefixOf
                envelope.metadata.objectRef.objectId.toList
              then progress.items ++ [envelope.metadata] else progress.items
            lastScanned := some key }

-- The flag says that there may be more to list. Once it is set it is not reset before
-- the next page has been scanned, so the scan ends with that page.
def listPages (keyPrefix namePrefix : String) (limit : Nat) :
    Nat → Option String → ListProgress → Bool → S3M (ListProgress × Bool)
  | 0, _, progress, more => pure (progress, more)
  | pages + 1, startAfter, progress, more => do
      let page ← S3Transport.listKeys keyPrefix 1000 startAfter
      match page.keys.getLast? with
      | none => pure (progress, false)
      | some last => do
          let (progress, limited) ← adapter.listPage namePrefix limit page.keys progress
          if limited ∨ more then pure (progress, true)
          else if ¬page.truncated then pure (progress, false)
          else listPages keyPrefix namePrefix limit pages (some last) progress true

def list (request : ListRequest) : S3M ListResult := do
  let startAfter ← Program.lift (adapter.layout.startAfter request.resource request.cursor)
  let (progress, more) ← adapter.listPages (adapter.layout.referencePrefix request.resource)
    request.namePrefix request.limit MAX_INTERNAL_LIST_PAGES startAfter ⟨[], none⟩ false
  match more, progress.lastScanned with
  | true, some key => do
      let cursor ← Program.lift (adapter.layout.cursorForKey request.resource key)
      return ⟨progress.items, some cursor⟩
  | _, _ => return ⟨progress.items, none⟩

end S3ObjectAdapter

end MeridianS3
