import MeridianS3.Adapter.Registry

namespace MeridianS3

open Effect Json

def S3_METADATA_REVISION : Nat := 1

-- A plan as its constructor admits it: forward-only, for the supported revision, and
-- for Object Resources that are all different.
structure S3MigrationPlan where
  currentRevision : Nat
  targetRevision : Nat
  resources : List ResourceRef
  actions : List String
  forward : currentRevision < targetRevision
  supported : targetRevision = S3_METADATA_REVISION
  nonempty : resources ≠ []
  distinct : resources.Nodup
  objects : ∀ item ∈ resources, item.catalog = "object"

structure S3MigrationResult where
  planFingerprint : String
  applied : Bool

-- sha256_fingerprint comes from the semantics package.
structure S3MigrationHooks where
  transport : S3Transport
  layout : S3Layout
  sha256Fingerprint : Value → String

namespace S3MigrationHooks

variable (hooks : S3MigrationHooks) (plan : S3MigrationPlan)

def planResources : Value := .arr (plan.resources.map hooks.transport.common.resourceToDict)

def fingerprint : String :=
  hooks.sha256Fingerprint (.obj
    [("actions", .arr (plan.actions.map .str)),
      ("currentRevision", .int plan.currentRevision),
      ("formatVersion", .str "meridian.s3-migration-plan.v1"),
      ("resources", hooks.planResources plan),
      ("targetRevision", .int plan.targetRevision)])

def planValue : Value :=
  .obj
    [("actions", .arr (plan.actions.map .str)),
      ("currentRevision", .int plan.currentRevision),
      ("fingerprint", .str (hooks.fingerprint plan)),
      ("formatVersion", .str "meridian.s3-migration-plan.v1"),
      ("resources", hooks.planResources plan),
      ("targetRevision", .int plan.targetRevision)]

def recordValue : Value :=
  .obj
    [("formatVersion", .str "meridian.s3-migration-record.v1"),
      ("plan", hooks.planValue plan)]

def apply : S3M S3MigrationResult := do
  S3Transport.headBucket
  let applied ← hooks.transport.register (hooks.layout.migrationKey plan.targetRevision)
    (hooks.recordValue plan) "S3 metadata revision has a different migration plan"
  return ⟨hooks.fingerprint plan, applied⟩

end S3MigrationHooks

end MeridianS3
