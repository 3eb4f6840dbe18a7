import MeridianS3.Adapter.Core

namespace MeridianS3

open Effect Json

structure SchemaRequest where
  «namespace» : String
  name : String
  version : String
  definition : Frozen

structure ResourceRequest where
  «namespace» : String
  name : String
  profile : Value
  options : Frozen

structure SchemaResult where
  «namespace» : String
  name : String
  version : String
  created : Bool

structure ResourceResult where
  resource : ResourceRef
  profile : Value
  created : Bool

namespace S3Transport

variable (transport : S3Transport)

-- A registry document that is already there must be the same. Python's comparison takes
-- True, 1 and 1.0 for one value: the documents compared are assumed not to differ by that
-- alone.
def requireSame (key : String) (document : Value) (message : String) : S3M Bool := do
  let stored ← transport.readJson key
  if stored ≠ document then throw (.meridian .conditionalConflict (some message))
  return false

-- The except clause around a conditional write, as each registration has it.
def register (key : String) (document : Value) (message : String) : S3M Bool :=
  tryCatch
    (do
      let _ ← transport.putJson key document true none
      return true)
    fun failure =>
      if failure.is .conditionalConflict then transport.requireSame key document message
      else throw failure

end S3Transport

namespace S3ObjectAdapter

variable (adapter : S3ObjectAdapter)

def schemaValue (request : SchemaRequest) : Value :=
  .obj
    [("definition", request.definition.1),
      ("formatVersion", .str "meridian.s3-object-schema.v1"),
      ("name", .str request.name),
      ("namespace", .str request.namespace),
      ("version", .str request.version)]

def publishSchema (request : SchemaRequest) : S3M SchemaResult := do
  let created ← adapter.transport.register
    (adapter.layout.schemaKey request.namespace request.name request.version)
    (schemaValue request) "Object Schema version already has a different definition"
  return ⟨request.namespace, request.name, request.version, created⟩

def resourceValue (request : ResourceRequest) (resource : ResourceRef) (profile : Value) : Value :=
  .obj
    [("formatVersion", .str "meridian.s3-object-resource.v1"),
      ("options", request.options.1),
      ("profile", profile),
      ("resourceRef", adapter.common.resourceToDict resource)]

def createResource (request : ResourceRequest) : S3M ResourceResult := do
  let resource : ResourceRef := ⟨"object", request.namespace, request.name⟩
  let profile ← Program.lift (adapter.common.parseObjectProfile request.profile)
  let created ← adapter.transport.register (adapter.layout.resourceKey resource)
    (adapter.resourceValue request resource profile)
    "Object Resource already has a different definition"
  return ⟨resource, profile, created⟩

end S3ObjectAdapter

end MeridianS3
