import MeridianS3.Adapter.Put
import MeridianS3.Layout.Theorems
import MeridianS3.Provider.Theorems

namespace MeridianS3

open Effect ObjectStore Json

-- The metadata that a stored blob carries.
def blobHeader (content : HexDigest) : List (String × String) :=
  [("meridian-digest", content.text), ("meridian-format", "object-v1")]

namespace S3Layout

variable (layout : S3Layout) (provider : Provider) (hashed : Set Bytes)

abbrev path (key : PhysicalKey) : String := key.render layout.root

-- An envelope that can stand under the reference key of an object and a content.
structure EnvelopeOf (versioned : Bool) (object content : HexDigest) (envelope : StoredEnvelope) :
    Prop where
  canonical : (envelope.toDict layout.common).canonical = true
  hashed : ObjectCommon.encodeUtf8 envelope.metadata.objectRef.objectId ∈ hashed
  object : layout.objectToken envelope.metadata.objectRef.objectId = object
  digest : envelope.metadata.digest = content.digest
  version : ∃ name : Option String, envelope.blobVersionId = .ofOption name ∧ name.isSome = versioned

-- What may be stored under a key. The byte strings that are hashed are kept account
-- of, so that a statement can assume that no two of them collide.
def Proper (versioned : Bool) : PhysicalKey → StoredBody → Prop
  | .blob _ _ content, stored =>
      stored.body ∈ hashed ∧ layout.common.hexdigest stored.body = content ∧
        stored.header.metadata = blobHeader content
  | .reference _ object content, stored =>
      ∃ envelope, layout.EnvelopeOf hashed versioned object content envelope ∧
        stored.body = layout.common.canonicalJsonBytes (envelope.toDict layout.common)
  | .latest _ _, stored =>
      ∃ content : HexDigest,
        stored.body = layout.common.canonicalJsonBytes (latestValue content.digest)
  | _, _ => True

-- The keys that are only ever written while nothing is stored under them.
def writtenOnce : PhysicalKey → Prop
  | .blob .. | .latest .. => False
  | _ => True

structure Sound (bucket : Bucket) : Prop where
  keys : ∀ key, bucket.entries key ≠ [] → ∃ physical : PhysicalKey, key = layout.path physical
  present : ∀ key, ∀ entry ∈ bucket.entries key, entry.object ≠ none
  proper : ∀ physical, ∀ entry ∈ bucket.entries (layout.path physical), ∀ stored,
    entry.object = some stored → layout.Proper hashed bucket.versioned physical stored
  once : ∀ physical, writtenOnce physical → (bucket.entries (layout.path physical)).length ≤ 1

-- The reference document of a version is stored, and records the envelope.
def Recorded (bucket : Bucket) (resource object content : HexDigest) (envelope : StoredEnvelope) :
    Prop :=
  (envelope.toDict layout.common).canonical = true ∧
    ∃ stored, bucket.current (layout.path (.reference resource object content)) = some stored ∧
      stored.body = layout.common.canonicalJsonBytes (envelope.toDict layout.common)

-- The latest pointer of an object names a content.
def Points (bucket : Bucket) (resource object content : HexDigest) : Prop :=
  ∃ stored, bucket.current (layout.path (.latest resource object)) = some stored ∧
    stored.body = layout.common.canonicalJsonBytes (latestValue content.digest)

-- The blob that a reference records is stored at its version id, whole.
def Backed (bucket : Bucket) (resource object content : HexDigest) : Prop :=
  ∀ envelope, layout.Recorded bucket resource object content envelope →
    ∃ (name : Option String) (stored : StoredBody), envelope.blobVersionId = .ofOption name ∧
      provider.fetch bucket (layout.path (.blob resource object content)) name = some stored ∧
      stored.body.length = envelope.metadata.byteLength

-- Every pointer names a stored reference.
def Resolved (bucket : Bucket) : Prop :=
  ∀ resource object content, layout.Points bucket resource object content →
    bucket.entries (layout.path (.reference resource object content)) ≠ []

-- SHA-256 tells the hashed byte strings apart.
def CollisionFree : Prop := Set.InjOn layout.common.hexdigest hashed

end S3Layout

end MeridianS3
