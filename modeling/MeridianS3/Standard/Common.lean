import MeridianS3.Codec.Clock
import MeridianS3.Codec.Utf8
import MeridianS3.Json.Text
import MeridianS3.ObjectCommon

namespace MeridianS3

open Json

-- The packages that the adapter imports, as far as the samples of these modules go.
namespace Standard

def sha256 (content : Bytes) : HexDigest where
  text := String.ofList (Codec.sha256Hex content)
  shape := by
    rw [String.toList_ofList, isHex64, Bool.and_eq_true, decide_eq_true_eq, List.all_eq_true]
    exact ⟨Codec.sha256Hex_length content, fun character h => decide_eq_true (Codec.sha256Hex_mem h)⟩

-- The digests of what the samples hash, worked out beforehand.
def KNOWN_DIGESTS : List (Bytes × HexDigest) :=
  [(ObjectCommon.encodeUtf8 "object:mutable.objects", ⟨"809c03d9f00ab35143060deecf8210b2c635c9efd51eba6eb088f7f30f091997", by decide +kernel⟩),
    (ObjectCommon.encodeUtf8 "channel", ⟨"69e36568cd8b4659389b9fcfbe1167547f6421e78168bfb439dada2ffddb0146", by decide +kernel⟩),
    (ObjectCommon.encodeUtf8 "version-one", ⟨"832864603d3905eb60f8fe19557fe7fb467e3bc9fb486dae28d838a209288106", by decide +kernel⟩),
    (ObjectCommon.encodeUtf8 "version-two", ⟨"d11b889d5330a443e0de9a36d42f83a316e4e9ac2a60c8a115bc944a21ab66ef", by decide +kernel⟩),
    (ObjectCommon.encodeUtf8 "version-three", ⟨"d5b5c9a914e8a5d8b19ec2cbe4ecc279149957979c5e1f27a2e8672ca24bd1c4", by decide +kernel⟩)]

def hexdigest (content : Bytes) : HexDigest := (KNOWN_DIGESTS.lookup content).getD (sha256 content)

theorem known_digests (entry : Bytes × HexDigest) (h : entry ∈ KNOWN_DIGESTS) :
    sha256 entry.1 = entry.2 := by
  simp only [KNOWN_DIGESTS, List.mem_cons, List.not_mem_nil, or_false] at h
  rcases h with rfl | rfl | rfl | rfl | rfl <;> decide +kernel

theorem hexdigest_eq (content : Bytes) : hexdigest content = sha256 content := by
  unfold hexdigest
  cases hfound : KNOWN_DIGESTS.lookup content with
  | none => rfl
  | some digest =>
      obtain ⟨before, after, hknown, -⟩ := List.lookup_eq_some_iff.mp hfound
      exact (known_digests (content, digest) (by simp [hknown])).symm

def resourceString (resource : ResourceRef) : String :=
  resource.catalog ++ ":" ++ resource.namespace ++ "." ++ resource.name

def canonicalJsonBytes (value : Value) : Bytes := Codec.encodeChars (Text.write value)

-- json.loads gives up on text that opens more arrays than this without closing one.
def RECURSION_LIMIT : Nat := 20000

def jsonLoads (raw : Bytes) : Except JsonError Value :=
  match (Codec.decodeChars raw).bind Text.readAll with
  | some value => .ok value
  | none =>
      if RECURSION_LIMIT ≤ (raw.takeWhile fun byte => decide (byte = 91)).length then
        .error (.recursionError "maximum recursion depth exceeded")
      else .error .decodeError

def timestampText (time : Timestamp) : String := String.ofList (Codec.Clock.stamp time)

def strptime (text : String) : Option Timestamp := Codec.Clock.readStamp text.toList

def resourceToDict (resource : ResourceRef) : Value :=
  .obj [("catalog", .str resource.catalog), ("name", .str resource.name),
    ("namespace", .str resource.namespace)]

def referenceToDict (reference : ObjectReference) : Value :=
  match reference.digest with
  | none => .obj [("objectId", .str reference.objectId),
      ("resourceRef", resourceToDict reference.resourceRef)]
  | some digest => .obj [("digest", .str digest), ("objectId", .str reference.objectId),
      ("resourceRef", resourceToDict reference.resourceRef)]

def mutabilityText : Mutability → String
  | .mutable => "mutable"
  | .immutable => "immutable"

def metadataToDict (metadata : ObjectMetadata) : Value :=
  .obj
    [("byteLength", .int metadata.byteLength),
      ("createdAt", .str (timestampText metadata.createdAt)),
      ("creationContext", metadata.creationContext.toValue),
      ("digest", .str metadata.digest),
      ("mediaType", .str metadata.mediaType),
      ("mutability", .str (mutabilityText metadata.mutability)),
      ("objectRef", referenceToDict metadata.objectRef),
      ("provenance", metadata.provenance.toValue),
      ("userMetadata", metadata.userMetadata.toValue)]

def text? : Value → Option String
  | .str text => some text
  | _ => none

def natural? : Value → Option Nat
  | .int (.ofNat value) => some value
  | _ => none

def parseResource (value : Value) : Option ResourceRef := do
  let catalog ← (value.get? "catalog").bind text?
  let «namespace» ← (value.get? "namespace").bind text?
  let name ← (value.get? "name").bind text?
  return ⟨catalog, «namespace», name⟩

def parseReference (value : Value) : Option ObjectReference := do
  let resourceRef ← (value.get? "resourceRef").bind parseResource
  let objectId ← (value.get? "objectId").bind text?
  match value.get? "digest" with
  | none => return ⟨resourceRef, objectId, none⟩
  | some digest => do
      let digest ← text? digest
      return ⟨resourceRef, objectId, some digest⟩

def parseMutability : Value → Option Mutability
  | .str text =>
      if text = "mutable" then some .mutable
      else if text = "immutable" then some .immutable else none
  | _ => none

def parseMetadata (value : Value) : Option ObjectMetadata := do
  let objectRef ← (value.get? "objectRef").bind parseReference
  let digest ← (value.get? "digest").bind text?
  let byteLength ← (value.get? "byteLength").bind natural?
  let mediaType ← (value.get? "mediaType").bind text?
  let createdAt ← (value.get? "createdAt").bind text?
  let createdAt ← strptime createdAt
  let creationContext ← (value.get? "creationContext").bind Mapping.ofValue
  let userMetadata ← (value.get? "userMetadata").bind Mapping.ofValue
  let mutability ← (value.get? "mutability").bind parseMutability
  let provenance ← (value.get? "provenance").bind Mapping.ofValue
  return { objectRef, digest, byteLength, mediaType, createdAt, creationContext, userMetadata,
           mutability, provenance }

def required {α : Type} (message : String) : Option α → Except Failure α
  | some value => .ok value
  | none => .error (.meridian .objectInvalidRequest (some message))

def parseLogicalReference (value : Value) : Except Failure LogicalReference :=
  if (value.get? "signature").isSome then .ok (.signed value)
  else (required "Object reference is invalid" (parseReference value)).map .plain

-- A profile that says that its objects are mutable lets a request say otherwise.
def effectiveImmutability (profile request : Value) : Except Failure Mutability :=
  match (profile.get? "mutability").bind parseMutability,
    (request.get? "mutability").bind parseMutability with
  | none, _ => .error (.meridian .objectInvalidRequest (some "Object profile is invalid"))
  | some .mutable, some .immutable => .ok .immutable
  | some mutability, _ => .ok mutability

def parseObjectProfile (value : Value) : Except Failure Value :=
  required "Object profile is invalid"
    ((value.get? "mutability").bind fun mutability => (parseMutability mutability).map fun _ => value)

def profile (mutability : Mutability) : Value :=
  .obj [("kind", .str "object"), ("mutability", .str (mutabilityText mutability)),
    ("profile", .str "object")]

def optional? (value : Value) : Option (Option String) :=
  match value with
  | .null => some none
  | .str text => some (some text)
  | _ => none

def flag? : Value → Option Bool
  | .bool value => some value
  | _ => none

def retentionRequest (value : Value) : Option RetentionRequest := do
  let retainUntil ← (value.get? "retainUntil").bind optional?
  let policy ← (value.get? "policy").bind optional?
  let requireEnforcement ← (value.get? "requireEnforcement").bind flag?
  return ⟨retainUntil, policy, requireEnforcement⟩

def byteRange (value : Value) (total : Nat) : Option ResolvedByteRange := do
  let start ← (value.get? "start").bind natural?
  let last ← (value.get? "end").bind natural?
  if start ≤ last ∧ last < total then some ⟨start, last, total⟩ else none

theorem loads_canonical (value : Value) : jsonLoads (canonicalJsonBytes value) = .ok value := by
  have hread : (Codec.decodeChars (canonicalJsonBytes value)).bind Text.readAll = some value := by
    rw [canonicalJsonBytes, Codec.decodeChars_encodeChars]
    exact Text.readAll_write value
  simp only [jsonLoads, hread]

theorem strptime_timestampText (time : Timestamp) : strptime (timestampText time) = some time := by
  rw [strptime, timestampText, String.toList_ofList]
  exact Codec.Clock.readStamp_stamp time

theorem parseReference_toDict (reference : ObjectReference) :
    parseReference (referenceToDict reference) = some reference := by
  rcases reference with ⟨resource, objectId, digest⟩
  cases digest <;> rfl

theorem parseMutability_text (mutability : Mutability) :
    parseMutability (.str (mutabilityText mutability)) = some mutability := by
  cases mutability <;> rfl

theorem parseMetadata_toDict (metadata : ObjectMetadata) :
    parseMetadata (metadataToDict metadata) = some metadata := by
  have hfields : parseMetadata (metadataToDict metadata) =
      (parseReference (referenceToDict metadata.objectRef)).bind fun objectRef =>
        (strptime (timestampText metadata.createdAt)).bind fun createdAt =>
          (Mapping.ofValue metadata.creationContext.toValue).bind fun creationContext =>
            (Mapping.ofValue metadata.userMetadata.toValue).bind fun userMetadata =>
              (parseMutability (.str (mutabilityText metadata.mutability))).bind fun mutability =>
                (Mapping.ofValue metadata.provenance.toValue).bind fun provenance =>
                  some ⟨objectRef, metadata.digest, metadata.byteLength, metadata.mediaType,
                    createdAt, creationContext, userMetadata, mutability, provenance⟩ := rfl
  rw [hfields, parseReference_toDict, strptime_timestampText, parseMutability_text]
  simp only [Mapping.ofValue_toValue, Option.bind_some]

theorem resourceToDict_canonical (resource : ResourceRef) :
    (resourceToDict resource).canonical = true := by
  apply (Value.canonicalFields_iff _).mpr
  refine ⟨?_, ?_⟩
  · change ["catalog", "name", "namespace"].Pairwise (· < ·)
    decide
  · simp [Value.canonical]

theorem referenceToDict_canonical (reference : ObjectReference) :
    (referenceToDict reference).canonical = true := by
  rcases reference with ⟨resource, objectId, digest⟩
  cases digest with
  | none =>
      apply (Value.canonicalFields_iff _).mpr
      refine ⟨?_, ?_⟩
      · change ["objectId", "resourceRef"].Pairwise (· < ·)
        decide
      · simp [Value.canonical, resourceToDict_canonical]
  | some digest =>
      apply (Value.canonicalFields_iff _).mpr
      refine ⟨?_, ?_⟩
      · change ["digest", "objectId", "resourceRef"].Pairwise (· < ·)
        decide
      · simp [Value.canonical, resourceToDict_canonical]

theorem metadataToDict_canonical (metadata : ObjectMetadata) :
    (metadataToDict metadata).canonical = true := by
  apply (Value.canonicalFields_iff _).mpr
  refine ⟨?_, ?_⟩
  · change ["byteLength", "createdAt", "creationContext", "digest", "mediaType", "mutability",
      "objectRef", "provenance", "userMetadata"].Pairwise (· < ·)
    decide
  · simp [Value.canonical, Mapping.toValue_canonical, referenceToDict_canonical]

def common : ObjectCommon where
  hexdigest := hexdigest
  transferIdentity writes :=
    ⟨(hexdigest writes.flatten).digest, (writes.map List.length).sum⟩
  resourceString := resourceString
  canonicalJsonBytes := canonicalJsonBytes
  jsonLoads := jsonLoads
  metadataToDict := metadataToDict
  parseObjectMetadata value := required "stored Object metadata is invalid" (parseMetadata value)
  referenceToDict := referenceToDict
  resourceToDict := resourceToDict
  parseLogicalReference := parseLogicalReference
  verifySigned _ _ _ _ := .error (.meridian .objectAuthorizationFailed
    (some "Object reference signature is invalid"))
  defaultProfile := profile .immutable
  parseObjectProfile := parseObjectProfile
  effectiveImmutability := effectiveImmutability
  retentionRequestFromMapping value :=
    required "retention request is invalid" (retentionRequest value)
  payloadReferenceFromMapping := .ok
  resolveRange value total := match byteRange value total with
    | some range => .ok range
    | none => .error (.meridian .rangeNotSatisfiable)
  strptime := strptime
  timestampStr time := String.ofList (Codec.Clock.isoformat ' ' time)
  timestampIsoformat time := String.ofList (Codec.Clock.isoformat 'T' time)
  transfer_identity writes := by rw [List.length_flatten]
  loads_canonical value _ := loads_canonical value
  parse_toDict metadata := by rw [parseMetadata_toDict, required]
  metadata_mapping _ := rfl
  metadata_canonical := metadataToDict_canonical
  reference_canonical := referenceToDict_canonical
  resource_canonical := resourceToDict_canonical

end Standard

end MeridianS3
