import MeridianS3.Adapter.Execute
import MeridianS3.Effect.Layered
import MeridianS3.Runtime.Lifecycle

namespace MeridianS3

open Effect Json

variable {Client Manifest : Type}

namespace S3Transport

-- head_bucket, on what the client's request comes to.
def headBucketOf (reply : Except Failure Unit) : Except Failure Unit :=
  match reply with
  | .ok _ => .ok ()
  | .error failure => .error (raiseNormalizedS3Error failure "health.head-bucket")

def versioningStatus (reply : Except Failure Value) : Except Failure String :=
  match reply with
  | .error failure => .error (raiseNormalizedS3Error failure "health.bucket-versioning")
  | .ok value =>
      match value.get? "Status" with
      | some (.str status) => .ok status
      | _ => .ok "Disabled"

-- The error codes of a bucket that has no Object Lock.
def UNLOCKED : List String :=
  ["InvalidBucketState", "NotImplemented", "ObjectLockConfigurationNotFoundError"]

def withoutLock (failure : Failure) : Bool :=
  match failure.cause with
  | .sdk (.client code _) => code ∈ UNLOCKED
  | _ => false

def objectLockEnabled (reply : Except Failure Value) : Except Failure Bool :=
  match reply with
  | .error failure =>
      if withoutLock failure then .ok false
      else .error (raiseNormalizedS3Error failure "health.object-lock")
  | .ok value =>
      match value.get? "ObjectLockConfiguration" with
      | some (.obj configuration) =>
          .ok (decide ((Value.obj configuration).get? "ObjectLockEnabled" = some (.str "Enabled")))
      | _ => .ok false

end S3Transport

-- The SDK with the provider behind it: what client_factory comes to, what the client's
-- requests for the state of the bucket come to, and its own close. The SPI beside it.
structure Sdk (Client Manifest : Type) where
  clientFactory : S3Config → Verify → Except Failure Client
  headBucket : Client → Except Failure Unit
  getBucketVersioning : Client → Except Failure Value
  getObjectLockConfiguration : Client → Except Failure Value
  spi : Spi Manifest
  close : Client → Except Failure Unit

def Sdk.surroundings (sdk : Sdk Client Manifest) : Surroundings Client Manifest where
  clientFactory := sdk.clientFactory
  headBucket client := S3Transport.headBucketOf (sdk.headBucket client)
  versioningStatus client := S3Transport.versioningStatus (sdk.getBucketVersioning client)
  objectLockEnabled client := S3Transport.objectLockEnabled (sdk.getObjectLockConfiguration client)
  spi := sdk.spi
  close := sdk.close

-- The property adapter of a runtime.
def S3AdapterRuntime.heldAdapter (runtime : S3AdapterRuntime Client Manifest) :
    Except Failure S3ObjectAdapter :=
  match runtime.adapter with
  | some adapter => .ok adapter
  | none => .error notOpen

-- What the callers of a runtime and of its sessions do to it in one step.
inductive RuntimeCall (Client Manifest : Type) where
  | open (sdk : Sdk Client Manifest)
  | close (sdk : Sdk Client Manifest)
  | openSession (transactional : Bool)
  | closeSession (session : Nat)
  | requireOpen (session : Nat)
  | adapter
  | probe
  | config

abbrev RuntimeCall.Reply : RuntimeCall Client Manifest → Type
  | .open _ | .close _ | .closeSession _ | .requireOpen _ => Unit
  | .openSession _ => Nat
  | .adapter => S3ObjectAdapter
  | .probe => AdapterProbe Manifest
  | .config => S3Config

abbrev RuntimeSignature (Client Manifest : Type) : Signature :=
  ⟨RuntimeCall Client Manifest, RuntimeCall.Reply⟩

-- The runtime, which its sessions share, and the flag _closed of each of them.
structure Service (Client Manifest : Type) where
  place : Workplace Client Manifest
  closed : List Bool

namespace Service

variable (service : Service Client Manifest)

def sessionClosed : Failure :=
  .meridian .objectInvalidRequest (some "S3 Adapter session is closed")

-- A session that there is not answers as a closed one.
def requireOpen (session : Nat) : Except Failure Unit :=
  if service.closed[session]? = some false then .ok () else .error sessionClosed

def handle : Handler (RuntimeSignature Client Manifest) Failure (Service Client Manifest)
  | .open sdk, service =>
      ((RuntimeM.exec (S3AdapterRuntime.«open» sdk.surroundings) service.place).1,
        { service with
          place := (RuntimeM.exec (S3AdapterRuntime.«open» sdk.surroundings) service.place).2 })
  | .close sdk, service =>
      ((RuntimeM.exec (S3AdapterRuntime.close sdk.surroundings) service.place).1,
        { service with
          place := (RuntimeM.exec (S3AdapterRuntime.close sdk.surroundings) service.place).2 })
  | .openSession transactional, service =>
      match service.place.runtime.openSession transactional with
      | .error failure => (.error failure, service)
      | .ok session =>
          (.ok service.closed.length,
            { service with closed := service.closed ++ [session.closed] })
  | .closeSession session, service =>
      (.ok (), { service with closed := service.closed.set session true })
  | .requireOpen session, service => (service.requireOpen session, service)
  | .adapter, service => (service.place.runtime.heldAdapter, service)
  | .probe, service => (service.place.runtime.adapterProbe, service)
  | .config, service => (.ok service.place.runtime.config, service)

end Service

-- What the manifest of the SPI says of itself.
structure ManifestFields (Manifest : Type) where
  fingerprint : Manifest → String
  engineProfile : Manifest → String
  engineVersion : Manifest → String

structure ExecutionResult where
  data : Outcome
  resultBytes : Nat
  provenance : List (String × String)

abbrev ServiceM (Client Manifest α : Type) :=
  Program (S3.both (RuntimeSignature Client Manifest)) Failure α

namespace S3AdapterSession

def asked (request : RuntimeCall Client Manifest) :
    ServiceM Client Manifest (RuntimeCall.Reply request) :=
  Program.perform (S := S3.both (RuntimeSignature Client Manifest)) (.inr request)

def notTransactional : Failure :=
  .meridian (.other "ObjectCapabilityMismatch")
    (some "S3 Object Operations are not transactional")

-- begin, commit and rollback
def transaction {α : Type} (session : Nat) : ServiceM Client Manifest α := do
  asked (.requireOpen session)
  throw notTransactional

def provenance (fields : ManifestFields Manifest) (adapterVersion : String) (config : S3Config)
    (manifest : Manifest) : List (String × String) :=
  [("adapterId", S3_ADAPTER_ID), ("adapterVersion", adapterVersion),
    ("capabilityFingerprint", fields.fingerprint manifest),
    ("engineProfile", fields.engineProfile manifest),
    ("engineVersion", fields.engineVersion manifest),
    ("s3ApiContract", fields.engineVersion manifest),
    ("selectedServerVersion",
      (config.selectedServerVersion.filter (· ≠ "")).getD "unavailable"),
    ("observedServerVersion", "unavailable")]

def execute (fields : ManifestFields Manifest) (session : Nat) (operation : Operation) :
    ServiceM Client Manifest ExecutionResult := do
  asked (.requireOpen session)
  let adapter ← asked .adapter
  let result ← (adapter.execute operation).inject
  let probe ← asked .probe
  let config ← asked .config
  return ⟨result, 0, provenance fields adapter.adapterVersion config probe.manifest⟩

end S3AdapterSession

-- What is asked of a runtime or of one of its sessions, numbered as they were opened.
inductive Demand (Client Manifest : Type) where
  | open (sdk : Sdk Client Manifest)
  | close (sdk : Sdk Client Manifest)
  | openSession (transactional : Bool)
  | begin (session : Nat)
  | execute (session : Nat) (operation : Operation)
  | commit (session : Nat)
  | rollback (session : Nat)
  | closeSession (session : Nat)

inductive Answer where
  | nothing
  | session (number : Nat)
  | executed (result : ExecutionResult)

open S3AdapterSession in
def Demand.program (fields : ManifestFields Manifest) :
    Demand Client Manifest → ServiceM Client Manifest Answer
  | .open sdk => (fun _ => .nothing) <$> asked (.open sdk)
  | .close sdk => (fun _ => .nothing) <$> asked (.close sdk)
  | .openSession transactional => Answer.session <$> asked (.openSession transactional)
  | .begin session | .commit session | .rollback session => transaction session
  | .execute session operation =>
      Answer.executed <$> S3AdapterSession.execute fields session operation
  | .closeSession session => (fun _ => .nothing) <$> asked (.closeSession session)

-- A runtime that has not been opened yet, its callers, and the bucket.
def deployment (fields : ManifestFields Manifest) (bucket : Bucket)
    (runtime : S3AdapterRuntime Client Manifest) (named : Nat)
    (demands : List (Demand Client Manifest)) :
    System (S3.both (RuntimeSignature Client Manifest)) Failure Answer
      (Bucket × Service Client Manifest) :=
  ⟨(bucket, ⟨⟨runtime, ⟨[], named⟩⟩, []⟩), demands.map (Demand.program fields)⟩

end MeridianS3
