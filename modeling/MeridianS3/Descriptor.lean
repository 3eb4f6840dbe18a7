import MeridianS3.Adapter.Core

namespace MeridianS3

open Json

def S3_ADAPTER_CONTRACT_VERSION : String := "1.0.0"

-- The names that the common Object module has for guarantees and for limits.
inductive Guarantee where
  | boundedPrefixList
  | conditionalCreate
  | digestSha256
  | digestVerification
  | exactVersionDelete
  | immutabilityIntent
  | metadataAfterCommit
  | multipart
  | rangeRead
  | retentionEnforcement
  | retentionIntent
  | signedReference
  | streaming
deriving DecidableEq

inductive Limit where
  | maxListPageSize
  | maxMultipartPartBytes
  | maxMultipartParts
  | maxObjectBytes
  | maxRangeBytes
  | maxUserMetadataEntries
deriving DecidableEq

structure OperationCapability where
  operationContract : String
  operationVersions : List String
  guarantees : List Guarantee
  limits : List (Limit × Nat)
  cursorBehavior : String
  migrationBehavior : String
  healthProbes : List String
  extensions : List (String × String)
deriving DecidableEq

structure AdapterDescriptor where
  adapterId : String
  adapterContractVersion : String
  driver : String
  supportedEngineVersions : List (String × List String)
  capabilities : List OperationCapability
deriving DecidableEq

structure CapabilityManifest where
  descriptor : AdapterDescriptor
  engineProfile : String
  engineVersion : String
  extensions : List (String × Value)
deriving DecidableEq

namespace CapabilityManifest

-- Some operation is offered with the guarantee, or within the bound.
def offers (manifest : CapabilityManifest) (guarantee : Guarantee) : Prop :=
  ∃ capability ∈ manifest.descriptor.capabilities, guarantee ∈ capability.guarantees

def bounds (manifest : CapabilityManifest) (limit : Limit) (bound : Nat) : Prop :=
  ∃ capability ∈ manifest.descriptor.capabilities, (limit, bound) ∈ capability.limits

end CapabilityManifest

-- The constructors of the SPI, which check what they are given, and the versions of the
-- installed packages.
structure Spi (Manifest : Type) where
  operationVersion : String
  version : String → Except Failure String
  operationCapability : OperationCapability → Except Failure Unit
  adapterDescriptor : AdapterDescriptor → Except Failure Unit
  capabilityManifest : CapabilityManifest → Except Failure Manifest

-- _capability
def capability (operationVersion method : String) (guarantees : List Guarantee := [])
    (limits : List (Limit × Nat) := []) (cursor : String := "none") : OperationCapability where
  operationContract := "meridian.object." ++ method
  operationVersions := [operationVersion]
  guarantees := guarantees
  limits := limits
  cursorBehavior := cursor
  migrationBehavior := "externally-orchestrated-forward"
  healthProbes := ["authenticated", "bucket-access"]
  extensions := [("catalog", "object"), ("provider", "s3")]

def putGuarantees (config : S3Config) : List Guarantee :=
  let always : List Guarantee :=
    [.conditionalCreate, .digestSha256, .digestVerification, .immutabilityIntent,
      .metadataAfterCommit, .multipart, .retentionIntent, .streaming]
  if config.retentionEnforcement then always ++ [.retentionEnforcement] else always

-- The guarantees of an operation that takes references, signed or not.
def referenceGuarantees (always : List Guarantee) (signedReferences : Bool) : List Guarantee :=
  if signedReferences then always ++ [.signedReference] else always

def putLimits (config : S3Config) : List (Limit × Nat) :=
  [(.maxObjectBytes, config.maxObjectBytes), (.maxUserMetadataEntries, 128),
    (.maxMultipartParts, S3_MAX_MULTIPART_PARTS),
    (.maxMultipartPartBytes, S3_MAX_MULTIPART_PART_BYTES)]

def s3Capabilities (operationVersion : String) (config : S3Config) (signedReferences : Bool) :
    List OperationCapability :=
  [capability operationVersion "publish_schema",
    capability operationVersion "create_resource",
    capability operationVersion "put" (putGuarantees config) (putLimits config),
    capability operationVersion "get"
      (referenceGuarantees [.digestVerification, .streaming] signedReferences),
    capability operationVersion "stat" (referenceGuarantees [] signedReferences),
    capability operationVersion "read_range"
      (referenceGuarantees [.digestVerification, .rangeRead] signedReferences)
      [(.maxRangeBytes, config.maxRangeBytes)],
    capability operationVersion "list" [.boundedPrefixList] [(.maxListPageSize, 1000)]
      "opaque-logical-start-after",
    capability operationVersion "delete" [.exactVersionDelete]]

def adapterDescriptor (operationVersion : String) (config : S3Config) (signedReferences : Bool) :
    AdapterDescriptor where
  adapterId := S3_ADAPTER_ID
  adapterContractVersion := S3_ADAPTER_CONTRACT_VERSION
  driver := "boto3>=1.40,<2"
  supportedEngineVersions := [("aws-s3", ["2006-03-01"]), ("s3-compatible", ["2006-03-01"])]
  capabilities := s3Capabilities operationVersion config signedReferences

def capabilityManifest (descriptor : AdapterDescriptor) (config : S3Config)
    (objectCommonVersion coreVersion : String) (versioningVerified objectLockVerified : Bool) :
    CapabilityManifest where
  descriptor := descriptor
  engineProfile := config.engineProfile
  engineVersion := config.engineVersion
  extensions :=
    [("adapterVersion", .str VERSION), ("objectCommonVersion", .str objectCommonVersion),
      ("coreVersion", .str coreVersion), ("s3ApiContract", .str config.engineVersion),
      ("selectedServerVersion", .ofOption config.selectedServerVersion),
      ("objectLockVerified", .bool objectLockVerified),
      ("versioningVerified", .bool versioningVerified)]

section Spi

variable {Manifest : Type} (spi : Spi Manifest) (config : S3Config) (signedReferences : Bool)

def s3Descriptor : Except Failure AdapterDescriptor := do
  let descriptor := adapterDescriptor spi.operationVersion config signedReferences
  descriptor.capabilities.forM spi.operationCapability
  spi.adapterDescriptor descriptor
  return descriptor

def s3CapabilityManifest (versioningVerified objectLockVerified : Bool) :
    Except Failure Manifest := do
  let descriptor ← s3Descriptor spi config signedReferences
  let objectCommonVersion ← spi.version "meridian-storage-object-common"
  let coreVersion ← spi.version "meridian-storage-core"
  spi.capabilityManifest (capabilityManifest descriptor config objectCommonVersion coreVersion
    versioningVerified objectLockVerified)

end Spi

-- What a manifest says of the configuration and of the bucket that it was made for.
structure CapabilityManifest.Describes (manifest : CapabilityManifest) (config : S3Config)
    (signedReferences versioningVerified objectLockVerified : Bool) : Prop where
  engineProfile : manifest.engineProfile = config.engineProfile
  engineVersion : manifest.engineVersion = config.engineVersion
  versioning : ∀ value, ("versioningVerified", value) ∈ manifest.extensions ↔
    value = .bool versioningVerified
  objectLock : ∀ value, ("objectLockVerified", value) ∈ manifest.extensions ↔
    value = .bool objectLockVerified
  enforcement : manifest.offers .retentionEnforcement ↔ config.retentionEnforcement = true
  signed : manifest.offers .signedReference ↔ signedReferences = true
  objectBytes : ∀ bound, manifest.bounds .maxObjectBytes bound ↔ bound = config.maxObjectBytes
  rangeBytes : ∀ bound, manifest.bounds .maxRangeBytes bound ↔ bound = config.maxRangeBytes

section Made

variable {Manifest : Type} {spi : Spi Manifest} {config : S3Config}
variable {signedReferences versioningVerified objectLockVerified : Bool}

theorem s3Descriptor_capabilities {descriptor : AdapterDescriptor}
    (h : s3Descriptor spi config signedReferences = .ok descriptor) :
    descriptor.capabilities = s3Capabilities spi.operationVersion config signedReferences := by
  obtain ⟨_, -, h⟩ := bind_ok h
  obtain ⟨_, -, h⟩ := bind_ok h
  exact congrArg AdapterDescriptor.capabilities (Except.ok.inj h).symm

theorem mem_putGuarantees {guarantee : Guarantee}
    (hconditional : guarantee = .retentionEnforcement ∨ guarantee = .signedReference) :
    guarantee ∈ putGuarantees config ↔
      config.retentionEnforcement = true ∧ guarantee = .retentionEnforcement := by
  unfold putGuarantees
  rcases hconditional with rfl | rfl <;> split <;> simp_all

theorem mem_referenceGuarantees {always : List Guarantee} {guarantee : Guarantee}
    (hconditional : guarantee ∉ always) :
    guarantee ∈ referenceGuarantees always signedReferences ↔
      signedReferences = true ∧ guarantee = .signedReference := by
  unfold referenceGuarantees
  split <;> simp_all

-- A column of the table.
theorem exists_column {α : Type} (column : OperationCapability → List α)
    (rows : List OperationCapability) (item : α) :
    (∃ row ∈ rows, item ∈ column row) ↔ ∃ items ∈ rows.map column, item ∈ items := by
  simp only [List.mem_map, exists_exists_and_eq_and]

theorem map_guarantees (operationVersion : String) (config : S3Config) (signedReferences : Bool) :
    (s3Capabilities operationVersion config signedReferences).map OperationCapability.guarantees =
      [[], [], putGuarantees config,
        referenceGuarantees [.digestVerification, .streaming] signedReferences,
        referenceGuarantees [] signedReferences,
        referenceGuarantees [.digestVerification, .rangeRead] signedReferences,
        [.boundedPrefixList], [.exactVersionDelete]] := rfl

theorem map_limits (operationVersion : String) (config : S3Config) (signedReferences : Bool) :
    (s3Capabilities operationVersion config signedReferences).map OperationCapability.limits =
      [[], [], putLimits config, [], [], [(.maxRangeBytes, config.maxRangeBytes)],
        [(.maxListPageSize, 1000)], []] := rfl

-- The tables offer retention enforcement and signed references only where they are
-- configured, and bound what is put and what is read by the configuration.
theorem mem_s3Capabilities_guarantees (operationVersion : String) (config : S3Config)
    (signedReferences : Bool) :
    ((∃ row ∈ s3Capabilities operationVersion config signedReferences,
        Guarantee.retentionEnforcement ∈ row.guarantees) ↔ config.retentionEnforcement = true) ∧
      ((∃ row ∈ s3Capabilities operationVersion config signedReferences,
        Guarantee.signedReference ∈ row.guarantees) ↔ signedReferences = true) := by
  rw [exists_column OperationCapability.guarantees, exists_column OperationCapability.guarantees,
    map_guarantees]
  constructor
  · simp [mem_putGuarantees, mem_referenceGuarantees]
  · simp [mem_putGuarantees, mem_referenceGuarantees]

theorem mem_s3Capabilities_limits (operationVersion : String) (config : S3Config)
    (signedReferences : Bool) (bound : Nat) :
    ((∃ row ∈ s3Capabilities operationVersion config signedReferences,
        (Limit.maxObjectBytes, bound) ∈ row.limits) ↔ bound = config.maxObjectBytes) ∧
      ((∃ row ∈ s3Capabilities operationVersion config signedReferences,
        (Limit.maxRangeBytes, bound) ∈ row.limits) ↔ bound = config.maxRangeBytes) := by
  rw [exists_column OperationCapability.limits, exists_column OperationCapability.limits,
    map_limits]
  constructor <;> simp [putLimits]

theorem s3CapabilityManifest_describes {manifest : Manifest}
    (h : s3CapabilityManifest spi config signedReferences versioningVerified objectLockVerified =
      .ok manifest) :
    ∃ made : CapabilityManifest, spi.capabilityManifest made = .ok manifest ∧
      made.Describes config signedReferences versioningVerified objectLockVerified := by
  obtain ⟨descriptor, hdescriptor, h⟩ := bind_ok h
  obtain ⟨objectCommonVersion, -, h⟩ := bind_ok h
  obtain ⟨coreVersion, -, h⟩ := bind_ok h
  have hcapabilities := s3Descriptor_capabilities hdescriptor
  obtain ⟨henforcement, hsigned⟩ :=
    mem_s3Capabilities_guarantees spi.operationVersion config signedReferences
  have hlimits := mem_s3Capabilities_limits spi.operationVersion config signedReferences
  rw [← hcapabilities] at henforcement hsigned hlimits
  refine ⟨_, h, rfl, rfl, ?_, ?_, henforcement, hsigned, fun bound => (hlimits bound).1,
    fun bound => (hlimits bound).2⟩
  · simp [capabilityManifest]
  · simp [capabilityManifest]

end Made

end MeridianS3
