import MeridianS3.Descriptor

namespace MeridianS3

open Json

-- What client_factory is given to verify certificates with: the system's own roots,
-- nothing, or the file of that number.
inductive Verify where
  | system
  | disabled
  | file (path : Nat)
deriving DecidableEq

-- A temporary file with CA material.
structure CaFile where
  path : Nat
  content : Bytes
  mode : Nat
deriving DecidableEq

-- The temporary directory: names are never given out twice.
structure TemporaryDirectory where
  files : List CaFile
  named : Nat

namespace TemporaryDirectory

def write (directory : TemporaryDirectory) (content : Bytes) : TemporaryDirectory where
  files := ⟨directory.named, content, 0o600⟩ :: directory.files
  named := directory.named + 1

-- Path.unlink(missing_ok=True)
def unlink (directory : TemporaryDirectory) (path : Nat) : TemporaryDirectory :=
  { directory with files := directory.files.filter fun file => file.path ≠ path }

end TemporaryDirectory

structure S3ProbeEvidence where
  versioningStatus : String
  objectLockEnabled : Bool

def S3ProbeEvidence.versioningEnabled (evidence : S3ProbeEvidence) : Bool :=
  evidence.versioningStatus = "Enabled"

structure AdapterProbe (Manifest : Type) where
  manifest : Manifest
  evidence : List (String × String)

-- What a call on the runtime meets outside of it: the client factory, the requests of
-- the health probe, the SPI and the client's own close. Any of them may raise.
structure Surroundings (Client Manifest : Type) where
  clientFactory : S3Config → Verify → Except Failure Client
  headBucket : Client → Except Failure Unit
  versioningStatus : Client → Except Failure String
  objectLockEnabled : Client → Except Failure Bool
  spi : Spi Manifest
  close : Client → Except Failure Unit

-- S3HealthProbe.run
def healthProbe {Client Manifest : Type} (around : Surroundings Client Manifest) (client : Client)
    (config : S3Config) (signed : Bool) :
    Except Failure (AdapterProbe Manifest × S3ProbeEvidence) := do
  around.headBucket client
  let versioningStatus ←
    if config.requireVersioning || config.retentionEnforcement then around.versioningStatus client
    else pure "NotProbed"
  let objectLockEnabled ←
    if config.retentionEnforcement then around.objectLockEnabled client else pure false
  if config.requireVersioning ∧ versioningStatus ≠ "Enabled" then
    throw (.meridian .objectUnavailable
      (some "S3 bucket versioning is required but was not verified"))
  if config.retentionEnforcement ∧ ¬objectLockEnabled then
    throw ⟨.meridian
      { kind := .other "ObjectCapabilityMismatch"
        message := some "S3 Object Lock enforcement was configured but not verified"
        operationContract := some "meridian.object.put"
        adapterProvenance := [("adapterId", "s3"), ("objectLockVerified", "false")] }, none⟩
  let evidence : S3ProbeEvidence := ⟨versioningStatus, objectLockEnabled⟩
  let manifest ← s3CapabilityManifest around.spi config signed evidence.versioningEnabled
    evidence.objectLockEnabled
  return (⟨manifest,
    [("s3ApiContract", config.engineVersion), ("serverVersionObservation", "unavailable"),
      ("authenticated", "true"), ("bucketAccess", "verified"),
      ("checksumHeaders", if config.checksumHeaders then "true" else "false"),
      ("objectLock", if evidence.objectLockEnabled then "enabled" else "not-enabled"),
      ("versioning", evidence.versioningStatus)]⟩, evidence)

structure S3AdapterRuntime (Client Manifest : Type) where
  common : ObjectCommon
  config : S3Config
  tlsMode : String
  tlsCa : Option Bytes
  referenceSigner : Option Value
  signedReferenceAudience : Option String
  transport : Option Client := none
  adapter : Option S3ObjectAdapter := none
  probe : Option (AdapterProbe Manifest) := none
  caPath : Option Nat := none
  isOpen : Bool := false

-- A runtime with the directory that it writes to.
structure Workplace (Client Manifest : Type) where
  runtime : S3AdapterRuntime Client Manifest
  directory : TemporaryDirectory

-- An exception leaves the fields as they were assigned before it.
abbrev RuntimeM (Client Manifest α : Type) :=
  ExceptT Failure (StateM (Workplace Client Manifest)) α

namespace S3AdapterRuntime

variable {Client Manifest : Type}

def notOpen : Failure := .meridian .objectInvalidRequest (some "S3 Adapter runtime is not open")

def assign (change : S3AdapterRuntime Client Manifest → S3AdapterRuntime Client Manifest) :
    RuntimeM Client Manifest Unit :=
  modify fun place => { place with runtime := change place.runtime }

def raising {α : Type} (result : Except Failure α) : RuntimeM Client Manifest α :=
  ExceptT.mk (pure result)

-- The CA material goes into a file of its own.
def writeCa (content : Bytes) : RuntimeM Client Manifest Verify := do
  let path := (← get).directory.named
  modify fun place => { place with directory := place.directory.write content }
  assign fun runtime => { runtime with caPath := some path }
  return .file path

def cleanupCa : RuntimeM Client Manifest Unit := do
  match (← get).runtime.caPath with
  | none => pure ()
  | some path =>
      modify fun place => { place with directory := place.directory.unlink path }
      assign fun runtime => { runtime with caPath := none }

def verifyArgument : RuntimeM Client Manifest Verify := do
  let runtime := (← get).runtime
  if runtime.tlsMode = "disabled" then return .disabled
  match runtime.tlsCa with
  | some content => if runtime.tlsMode = "server" then writeCa content else return .system
  | none => return .system

def «open» (around : Surroundings Client Manifest) : RuntimeM Client Manifest Unit := do
  let runtime := (← get).runtime
  if runtime.isOpen then return ()
  let verify ← verifyArgument
  let client ← raising (around.clientFactory runtime.config verify)
  assign fun runtime => { runtime with
    transport := some client
    adapter := some
      { common := runtime.common
        config := runtime.config
        referenceSigner := runtime.referenceSigner
        signedReferenceAudience := runtime.signedReferenceAudience } }
  tryCatch
    (do
      let (probe, _) ← raising (healthProbe around client runtime.config
        runtime.referenceSigner.isSome)
      assign fun runtime => { runtime with probe := some probe, isOpen := true })
    fun failure => do
      raising (around.close client)
      assign fun runtime => { runtime with transport := none, adapter := none }
      cleanupCa
      throw failure

def close (around : Surroundings Client Manifest) : RuntimeM Client Manifest Unit := do
  match (← get).runtime.transport with
  | some client => raising (around.close client)
  | none => pure ()
  assign fun runtime => { runtime with
    transport := none
    adapter := none
    probe := none
    isOpen := false }
  cleanupCa

variable (runtime : S3AdapterRuntime Client Manifest)

-- The method probe.
def adapterProbe : Except Failure (AdapterProbe Manifest) :=
  match runtime.isOpen, runtime.probe with
  | true, some probe => .ok probe
  | _, _ => .error notOpen

structure S3AdapterSession (Client Manifest : Type) where
  runtime : S3AdapterRuntime Client Manifest
  closed : Bool := false

def openSession (transactional : Bool) : Except Failure (S3AdapterSession Client Manifest) := do
  if ¬runtime.isOpen then throw notOpen
  if transactional then
    throw (.meridian (.other "ObjectCapabilityMismatch")
      (some "S3 Object Operations are not transactional"))
  return { runtime := runtime }

structure PhysicalResource where
  resourceRef : ResourceRef
  resourceFingerprint : String
  schemaFingerprint : Option String
  profile : String

structure PhysicalVerification where
  fingerprint : String
  mappings : List (String × String)
  evidence : List (String × String)

-- What verify_physical says of one Resource.
def physicalMapping (resource : PhysicalResource) : Except Failure ((String × String) × Value) := do
  if resource.resourceRef.catalog ≠ "object" then
    throw (.meridian .objectInvalidRequest
      (some "S3 physical verification accepts only Object Resources"))
  let name := runtime.common.resourceString resource.resourceRef
  let opaqueName := (runtime.common.hexdigest (ObjectCommon.encodeUtf8
    (runtime.config.bucket ++ "\x00" ++ runtime.config.keyPrefix ++ "\x00" ++ name))).text
  return ((name, "s3:sha256:" ++ opaqueName), .obj
    [("profile", .str resource.profile),
      ("resource", .str name),
      ("resourceFingerprint", .str resource.resourceFingerprint),
      ("schemaFingerprint", (resource.schemaFingerprint.map .str).getD .null)])

-- The open check of verify_physical.
def physicalClient : Except Failure Client :=
  match runtime.isOpen, runtime.transport with
  | true, some client => .ok client
  | _, _ => .error notOpen

def verifyPhysical (around : Surroundings Client Manifest) (sha256Fingerprint : Value → String)
    (resources : List PhysicalResource) : Except Failure PhysicalVerification := do
  let client ← runtime.physicalClient
  around.headBucket client
  let sorted := resources.mergeSort fun first second =>
    decide (runtime.common.resourceString first.resourceRef ≤
      runtime.common.resourceString second.resourceRef)
  let mapped ← sorted.mapM runtime.physicalMapping
  let namespaceFingerprint := (runtime.common.hexdigest (ObjectCommon.encodeUtf8
    (runtime.config.bucket ++ "\x00" ++ runtime.config.keyPrefix))).text
  return {
    fingerprint := sha256Fingerprint (.obj
      [("adapterId", .str S3_ADAPTER_ID),
        ("engineProfile", .str runtime.config.engineProfile),
        ("engineVersion", .str runtime.config.engineVersion),
        ("formatVersion", .str "meridian.s3-physical-verification.v1"),
        ("namespaceFingerprint", .str namespaceFingerprint),
        ("resources", .arr (mapped.map Prod.snd))])
    mappings := (mapped.map Prod.fst).dedup
    evidence := [("authenticated", "true"), ("resourceCount", toString resources.length)] }

end S3AdapterRuntime

end MeridianS3
