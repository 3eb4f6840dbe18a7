import MeridianS3.Config.Validation
import MeridianS3.Deposit
import MeridianS3.Adapter.Execute
import MeridianS3.Json.Size
import MeridianS3.Spool.Theorems
import MeridianS3.Standard.Common

namespace MeridianS3

open Effect ObjectStore Json

namespace Standard

def numbered (mark : Char) (number : Nat) : String := String.ofList (mark :: Nat.toDigits 10 number)

def number? (mark : Char) (name : String) : Option Nat :=
  let number := Nat.ofDigitChars 10 name.toList.tail 0
  if numbered mark number = name then some number else none

theorem number?_iff (mark : Char) (name : String) (number : Nat) :
    number? mark name = some number ↔ name = numbered mark number := by
  have hread (number : Nat) :
      Nat.ofDigitChars 10 (numbered mark number).toList.tail 0 = number := by
    rw [numbered, String.toList_ofList]
    exact Nat.ofDigitChars_toDigits (by decide) (by decide)
  unfold number?
  constructor
  · intro h
    simp only at h
    split at h
    · rename_i hname
      rw [Option.some.injEq] at h
      exact h ▸ hname.symm
    · cases h
  · rintro rfl
    simp only [hread, if_true]

-- A checksum of the body.
def etag (body : Bytes) : String :=
  numbered '"' (body.foldl (fun sum byte => (31 * sum + byte.toNat) % 4294967296) 0)

-- A provider whose bodies come in at one read.
def provider : Provider where
  versionName := numbered 'v'
  versionNumber := number? 'v'
  versionNumber_iff := number?_iff 'v'
  uploadName := numbered 'u'
  uploadNumber := number? 'u'
  uploadNumber_iff := number?_iff 'u'
  uploadName_ne number := by
    intro h
    have hlist := congrArg String.toList h
    rw [numbered, String.toList_ofList] at hlist
    cases hlist
  etag := etag
  etag_ne body := by
    intro h
    have hlist := congrArg String.toList h
    rw [etag, numbered, String.toList_ofList] at hlist
    cases hlist
  deliver body := if body = [] then [] else [body]
  deliver_flatten body := by
    by_cases h : body = [] <;> simp [h]
  deliver_ne body := by
    by_cases h : body = []
    · simp [h]
    · simp [h, Ne.symm h]

def config : S3Config where
  bucket := "meridian-test-bucket"
  keyPrefix := "tests"
  multipartThresholdBytes := 5 * MIB
  multipartPartBytes := 5 * MIB
  spoolMemoryBytes := 64 * 1024
  integrityChunkBytes := 64 * 1024
  maxRangeBytes := 8 * MIB

-- The sample configuration has no endpoint to split.
def noSplit (endpoint : String) : Except Failure SplitResult :=
  .error (S3Config.invalid ("not an origin URL: " ++ endpoint))

theorem config_accepted : config.postInit noSplit = .ok config := by
  decide

-- The same with a higher threshold.
def higher : S3Config := { config with multipartThresholdBytes := 6 * MIB }

theorem higher_accepted : higher.postInit noSplit = .ok higher := by
  decide

def adapter : S3ObjectAdapter where
  common := common
  config := config

def resource : ResourceRef := ⟨"object", "mutable", "objects"⟩

-- The registration of the sample Resource.
def resourceRequest (mutability : Mutability) : ResourceRequest where
  «namespace» := "mutable"
  name := "objects"
  profile := profile mutability
  options := ⟨.obj [], rfl⟩

def putInput (createOnly : Bool) (immutability : Value) : PutInput where
  objectId := "channel"
  createOnly := createOnly
  immutability := immutability
  retention := .null
  creationContext := ⟨.obj [], rfl⟩
  provenance := ⟨.obj [], rfl⟩
  payload := .obj []
  mediaType := "application/octet-stream"
  userMetadata := Mapping.empty

def putRequest (createOnly : Bool) (immutability : Value) (content : String) (time : Timestamp) :
    PutRequest where
  resource := resource
  input := putInput createOnly immutability
  transfer _ := .ok [ObjectCommon.encodeUtf8 content]
  createdAt := time
  observedAt := time

-- A request that wants its version to be immutable.
def wantsImmutable : Value := .obj [("mutability", .str "immutable")]

def objectReference (content : HexDigest) : ObjectReference :=
  ⟨resource, "channel", some content.digest⟩

-- The reference of the sample object that names no version.
def stableReference : ObjectReference := ⟨resource, "channel", none⟩

def deleteRequest (content : HexDigest) (time : Timestamp) : DeleteRequest where
  resource := resource
  reference := referenceToDict (objectReference content)
  reason := .str "expired"
  checkedAt := time
  deletedAt := time

def intent (mutability : Mutability) : PutIntent where
  mutability := mutability
  retention := none
  creationContext := Mapping.empty
  provenance := Mapping.empty.insert "meridian.adapter" adapter.adapterEntry
  payload := .obj []

-- The put of a small text, with all that it settles.
def deposit (createOnly : Bool) (immutability : Value) (mutability : Mutability)
    (content : String) (time : Timestamp) : Deposit where
  adapter := adapter
  request := putRequest createOnly immutability content time
  intent := intent mutability
  content := ObjectCommon.encodeUtf8 content
  chunks := (adapter.spooled [ObjectCommon.encodeUtf8 content]).finish common
  arguments := ⟨config.serverSideEncryption, config.kmsKeyId, none⟩

-- What the samples hash.
def hashed : Set Bytes := { content | content ∈ KNOWN_DIGESTS.map Prod.fst }

theorem collisionFree : adapter.layout.CollisionFree hashed := by
  have hknown : ∀ first ∈ KNOWN_DIGESTS.map Prod.fst, ∀ second ∈ KNOWN_DIGESTS.map Prod.fst,
      hexdigest first = hexdigest second → first = second := by decide
  exact fun first hfirst second hsecond he => hknown first hfirst second hsecond he

theorem objectId_hashed : ObjectCommon.encodeUtf8 "channel" ∈ hashed := by
  simp [hashed, KNOWN_DIGESTS]

-- A document that has room to spare can be read back.
theorem legible {value : Value} (h : 4 * Text.room value ≤ MAX_INTERNAL_JSON_BYTES) :
    adapter.layout.legible value :=
  (Text.length_encoded value).trans h

-- Five mebibytes: the multipart threshold.
def heavy : Bytes := List.replicate (5 * MIB) 0

theorem heavy_length : heavy.length = 5 * MIB := List.length_replicate

theorem digest_room (hash : HexDigest) : Text.quoteRoom hash.digest ≤ 2000 := by
  have hsize (characters : List Char) : String.utf8Len characters ≤ 4 * characters.length := by
    induction characters with
    | nil => rfl
    | cons character rest ih =>
        have hone := Char.utf8Size_le_four character
        simp only [String.utf8Len_cons, List.length_cons]
        omega
  have htext := hsize hash.text.toList
  rw [String.utf8Len_toList, hash.text_length] at htext
  rw [Text.quoteRoom, HexDigest.digest, String.utf8ByteSize_append]
  have hscheme : ("sha256:" : String).utf8ByteSize = 7 := by decide
  omega

theorem pointer_legible (hash : HexDigest) :
    adapter.layout.legible (latestValue hash.digest) := by
  apply legible
  have hroom : Text.room (latestValue hash.digest) + Text.quoteRoom "" =
      Text.room (latestValue "") + Text.quoteRoom hash.digest := by
    simp only [latestValue, Text.room, Text.roomFields]
    omega
  have hempty : Text.room (latestValue "") ≤ 10000 := by decide
  have hdigest := digest_room hash
  have hlimit : 1000000 ≤ MAX_INTERNAL_JSON_BYTES := by decide
  omega

-- An envelope with other digests.
def rehashed (envelope : StoredEnvelope) (digest : String) (chunks : List String) :
    StoredEnvelope :=
  { envelope with
    metadata :=
      { envelope.metadata with
        objectRef := { envelope.metadata.objectRef with digest := some digest }
        digest := digest }
    chunkDigests := chunks }

theorem rehashed_room (envelope : StoredEnvelope) (digest : String) (chunks : List String) :
    Text.room ((rehashed envelope digest chunks).toDict common) + 2 * Text.quoteRoom "" =
      Text.room ((rehashed envelope "" []).toDict common) + 2 * Text.quoteRoom digest +
        Text.roomItems (chunks.map .str) := by
  simp only [StoredEnvelope.toDict, rehashed, common, metadataToDict, referenceToDict, Text.room,
    Text.roomFields, Text.roomItems, List.map_nil]
  omega

theorem roomItems_digests (hashes : List HexDigest) :
    Text.roomItems ((hashes.map HexDigest.digest).map .str) ≤ 2001 * hashes.length := by
  induction hashes with
  | nil => exact Nat.le_refl 0
  | cons hash rest ih =>
      have hdigest := digest_room hash
      rw [List.map_cons, List.map_cons, Text.roomItems, Text.room, List.length_cons]
      omega

-- Digests leave room to spare where they are few.
theorem rehashed_legible {envelope : StoredEnvelope} (hash : HexDigest) {hashes : List HexDigest}
    (hfew : hashes.length ≤ 100)
    (houtline : Text.room ((rehashed envelope "" []).toDict common) ≤ 10000) :
    adapter.layout.legible
      ((rehashed envelope hash.digest (hashes.map HexDigest.digest)).toDict common) := by
  apply legible
  have hroom := rehashed_room envelope hash.digest (hashes.map HexDigest.digest)
  have hchunks := roomItems_digests hashes
  have hdigest := digest_room hash
  have hlimit : 1000000 ≤ MAX_INTERNAL_JSON_BYTES := by decide
  omega

-- A payload up to the multipart threshold has few chunks.
theorem chunks_legible {envelope : StoredEnvelope} (hash : HexDigest) {content : Bytes}
    (hlength : content.length ≤ 5 * MIB)
    (houtline : Text.room ((rehashed envelope "" []).toDict common) ≤ 10000) :
    adapter.layout.legible ((rehashed envelope hash.digest
      (((IntegritySpool.new config.integrityChunkBytes).writeAll common [content]).finish
        common)).toDict common) := by
  have hfew : ((Codec.pieces config.integrityChunkBytes content).map hexdigest).length ≤ 100 := by
    rw [List.length_map, Codec.length_pieces (by decide),
      show config.integrityChunkBytes = 64 * 1024 from rfl]
    have hmega : 5 * MIB = 5 * (1024 * 1024) := rfl
    omega
  have hlegible := rehashed_legible hash hfew houtline
  rw [List.map_map] at hlegible
  rw [IntegritySpool.finish_writeAll common (by decide), List.flatten_singleton]
  exact hlegible

theorem deposit_legible (createOnly : Bool) (immutability : Value) (mutability : Mutability)
    {content : String} (time : Timestamp) (version : Option String)
    (hlength : (ObjectCommon.encodeUtf8 content).length ≤ 5 * MIB)
    (houtline : Text.room ((rehashed ((deposit createOnly immutability mutability content
      time).envelope version) "" []).toDict common) ≤ 10000) :
    adapter.layout.legible (((deposit createOnly immutability mutability content
      time).envelope version).toDict common) := by
  -- An envelope that is given its own digests is the same.
  have hlegible := chunks_legible (hexdigest (ObjectCommon.encodeUtf8 content)) hlength houtline
  exact hlegible

end Standard

end MeridianS3
