import MeridianS3.Errors
import MeridianS3.Json.Value

namespace MeridianS3

open Json

abbrev Bytes := List UInt8

-- Microseconds since the epoch.
abbrev Timestamp := Nat

def HEX_DIGITS : List Char := "0123456789abcdef".toList

def isHex64 (text : List Char) : Bool :=
  text.length = 64 && text.all fun character => character ∈ HEX_DIGITS

-- The text of a SHA-256 hexdigest.
structure HexDigest where
  text : String
  shape : isHex64 text.toList = true
deriving DecidableEq

-- The digest as it stands in metadata.
def HexDigest.digest (hex : HexDigest) : String := "sha256:" ++ hex.text

structure ResourceRef where
  catalog : String
  «namespace» : String
  name : String
deriving DecidableEq

structure ObjectReference where
  resourceRef : ResourceRef
  objectId : String
  digest : Option String
deriving DecidableEq

inductive Mutability where
  | mutable
  | immutable
deriving DecidableEq

structure ObjectMetadata where
  objectRef : ObjectReference
  digest : String
  byteLength : Nat
  mediaType : String
  createdAt : Timestamp
  creationContext : Mapping
  userMetadata : Mapping
  mutability : Mutability
  provenance : Mapping
deriving DecidableEq

structure RetentionRequest where
  retainUntil : Option String
  policy : Option String
  requireEnforcement : Bool
deriving DecidableEq

-- A parsed reference is plain or still has to be verified.
inductive LogicalReference where
  | plain (reference : ObjectReference)
  | signed (raw : Value)

structure ResolvedByteRange where
  start : Nat
  «end» : Nat
  totalLength : Nat
deriving DecidableEq

def ResolvedByteRange.length (range : ResolvedByteRange) : Nat := range.end - range.start + 1

-- What transfer_payload says about the bytes that it has transferred.
structure PayloadIdentity where
  digest : String
  byteLength : Nat
deriving DecidableEq

-- What json.loads raises: UnicodeDecodeError or JSONDecodeError, which its callers name, the
-- bare ValueError of an integer with too many digits, or a RecursionError.
inductive JsonError where
  | decodeError
  | valueError (message : String)
  | recursionError (message : String)
deriving DecidableEq

-- What the adapter takes from the Meridian packages and from the language's own
-- library, with what it relies on. Profiles, signers and payload references are
-- passed along unread, as values.
structure ObjectCommon where
  hexdigest : Bytes → HexDigest
  transferIdentity : (writes : List Bytes) → PayloadIdentity
  resourceString : ResourceRef → String
  canonicalJsonBytes : Value → Bytes
  jsonLoads : Bytes → Except JsonError Value
  metadataToDict : ObjectMetadata → Value
  parseObjectMetadata : Value → Except Failure ObjectMetadata
  referenceToDict : ObjectReference → Value
  resourceToDict : ResourceRef → Value
  parseLogicalReference : Value → Except Failure LogicalReference
  verifySigned : (raw signer : Value) → (operation audience : String) →
    Except Failure ObjectReference
  defaultProfile : Value
  parseObjectProfile : Value → Except Failure Value
  effectiveImmutability : (profile request : Value) → Except Failure Mutability
  retentionRequestFromMapping : Value → Except Failure RetentionRequest
  payloadReferenceFromMapping : Value → Except Failure Value
  resolveRange : Value → (total : Nat) → Except Failure ResolvedByteRange
  strptime : String → Option Timestamp
  timestampStr : Timestamp → String
  timestampIsoformat : Timestamp → String
  transfer_identity : ∀ writes, transferIdentity writes =
    ⟨(hexdigest writes.flatten).digest, writes.flatten.length⟩
  loads_canonical : ∀ value, value.canonical = true →
    jsonLoads (canonicalJsonBytes value) = .ok value
  parse_toDict : ∀ metadata, parseObjectMetadata (metadataToDict metadata) = .ok metadata
  metadata_mapping : ∀ metadata, (metadataToDict metadata).isMapping = true
  metadata_canonical : ∀ metadata, (metadataToDict metadata).canonical = true
  reference_canonical : ∀ reference, (referenceToDict reference).canonical = true
  resource_canonical : ∀ resource, (resourceToDict resource).canonical = true

namespace ObjectCommon

variable (common : ObjectCommon)

-- str.encode("utf-8")
def encodeUtf8 (text : String) : Bytes := text.toUTF8.data.toList

def digest (content : Bytes) : String := (common.hexdigest content).digest

def identity (content : Bytes) : PayloadIdentity := ⟨common.digest content, content.length⟩

@[simp] theorem identity_digest (content : Bytes) :
    (common.identity content).digest = common.digest content := rfl

@[simp] theorem identity_byteLength (content : Bytes) :
    (common.identity content).byteLength = content.length := rfl

theorem transferIdentity_eq (writes : List Bytes) :
    common.transferIdentity writes = common.identity writes.flatten :=
  common.transfer_identity writes

-- str(created_at), which orders the versions of an object id.
def newer (first second : ObjectMetadata) : Bool :=
  decide (common.timestampStr second.createdAt < common.timestampStr first.createdAt)

end ObjectCommon

end MeridianS3
