import MeridianS3.Config

namespace MeridianS3

-- What a physical key stands for. The tokens and the content digest are hexdigests.
inductive PhysicalKey where
  | blob (resource object content : HexDigest)
  | reference (resource object content : HexDigest)
  | latest (resource object : HexDigest)
  | schema (token : HexDigest)
  | registered (resource : HexDigest)
  | orphan (resource object content : HexDigest)
  | deletion (resource object content : HexDigest)
  | migration (revision : Nat)
deriving DecidableEq

-- f"{revision:08d}"
def zeroPadded (revision : Nat) : List Char :=
  List.replicate (8 - (Nat.toDigits 10 revision).length) '0' ++ Nat.toDigits 10 revision

namespace PhysicalKey

def render (root : String) : PhysicalKey → String
  | .blob resource object content =>
      root ++ "/objects/" ++ resource.text ++ "/" ++ object.text ++ "/sha256/" ++ content.text
  | .reference resource object content =>
      root ++ "/refs/" ++ resource.text ++ "/" ++ object.text ++ "/" ++ content.text ++ ".json"
  | .latest resource object =>
      root ++ "/latest/" ++ resource.text ++ "/" ++ object.text ++ ".json"
  | .schema token => root ++ "/registry/schemas/" ++ token.text ++ ".json"
  | .registered resource => root ++ "/registry/resources/" ++ resource.text ++ ".json"
  | .orphan resource object content =>
      root ++ "/orphans/" ++ resource.text ++ "/" ++ object.text ++ "/" ++ content.text ++ ".json"
  | .deletion resource object content =>
      root ++ "/deletions/" ++ resource.text ++ "/" ++ object.text ++ "/" ++ content.text ++ ".json"
  | .migration revision =>
      root ++ "/migrations/" ++ String.ofList (zeroPadded revision) ++ ".json"

end PhysicalKey

def digestHex (digest : String) : Except Failure HexDigest :=
  if h : digest.toList.take 7 = "sha256:".toList ∧ isHex64 (digest.toList.drop 7) = true then
    .ok ⟨String.ofList (digest.toList.drop 7), by rw [String.toList_ofList]; exact h.2⟩
  else .error ⟨.valueError "digest must be sha256:<lowercase hex>", none⟩

structure S3Layout where
  common : ObjectCommon
  root : String

namespace S3Layout

def ofConfig (common : ObjectCommon) (config : S3Config) : S3Layout :=
  ⟨common, config.namespaceRoot ++ "_meridian/object/v1"⟩

variable (layout : S3Layout)

def token (value : String) : HexDigest := layout.common.hexdigest (ObjectCommon.encodeUtf8 value)

def resourceToken (resource : ResourceRef) : HexDigest :=
  layout.token (layout.common.resourceString resource)

def objectToken (objectId : String) : HexDigest := layout.token objectId

def blobKey (resource : ResourceRef) (objectId digest : String) : Except Failure String := do
  let hexadecimal ← digestHex digest
  return (PhysicalKey.blob (layout.resourceToken resource) (layout.objectToken objectId)
    hexadecimal).render layout.root

def referencePrefix (resource : ResourceRef) : String :=
  layout.root ++ "/refs/" ++ (layout.resourceToken resource).text ++ "/"

def referenceKey (resource : ResourceRef) (objectId digest : String) : Except Failure String := do
  let hexadecimal ← digestHex digest
  return (PhysicalKey.reference (layout.resourceToken resource) (layout.objectToken objectId)
    hexadecimal).render layout.root

def latestKey (resource : ResourceRef) (objectId : String) : String :=
  (PhysicalKey.latest (layout.resourceToken resource) (layout.objectToken objectId)).render
    layout.root

def schemaKey («namespace» name version : String) : String :=
  (PhysicalKey.schema (layout.token («namespace» ++ ":" ++ name ++ "@" ++ version))).render
    layout.root

def resourceKey (resource : ResourceRef) : String :=
  (PhysicalKey.registered (layout.resourceToken resource)).render layout.root

def orphanKey (resource : ResourceRef) (objectId digest : String) : Except Failure String := do
  let hexadecimal ← digestHex digest
  return (PhysicalKey.orphan (layout.resourceToken resource) (layout.objectToken objectId)
    hexadecimal).render layout.root

def deletionEvidenceKey (resource : ResourceRef) (objectId digest : String) :
    Except Failure String := do
  let hexadecimal ← digestHex digest
  return (PhysicalKey.deletion (layout.resourceToken resource) (layout.objectToken objectId)
    hexadecimal).render layout.root

def migrationKey (revision : Nat) : String := (PhysicalKey.migration revision).render layout.root

-- The prefix that the scan of one object's versions lists.
def versionPrefix (resource : ResourceRef) (objectId : String) : String :=
  layout.referencePrefix resource ++ (layout.objectToken objectId).text ++ "/"

end S3Layout

end MeridianS3
