import MeridianS3.Config
import MeridianS3.Provider

namespace MeridianS3

open Json

-- A stored record is read back without a check of its fields' types.
structure RetentionRecord where
  retainUntil : Value
  policy : Value
  requireEnforcement : Value
  providerEnforced : Value
  objectLockMode : Value
deriving DecidableEq

namespace RetentionRecord

def fromRequest (request : Option RetentionRequest) (config : S3Config) :
    Except Failure (Option RetentionRecord) :=
  match request with
  | none => .ok none
  | some request =>
      if request.requireEnforcement ∧ ¬config.retentionEnforcement then
        .error ⟨.meridian
          { kind := .retentionDenied
            message := some "retention enforcement was required but is unavailable"
            adapterProvenance := [("adapterId", "s3"), ("retentionEnforcement", "false")] }, none⟩
      else
        let enforced := config.retentionEnforcement && request.retainUntil.isSome
        .ok (some
          { retainUntil := .ofOption request.retainUntil
            policy := .ofOption request.policy
            requireEnforcement := .bool request.requireEnforcement
            providerEnforced := .bool enforced
            objectLockMode := if enforced then .ofOption config.objectLockMode else .null })

def FIELDS : List String :=
  ["retainUntil", "policy", "requireEnforcement", "providerEnforced", "objectLockMode"]

def fromMapping (value : Value) : Except Failure (Option RetentionRecord) :=
  match value with
  | .null => .ok none
  | value =>
      match value.hasExactly FIELDS, value.get? "retainUntil", value.get? "policy",
        value.get? "requireEnforcement", value.get? "providerEnforced",
        value.get? "objectLockMode" with
      | true, some retainUntil, some policy, some requireEnforcement, some providerEnforced,
        some objectLockMode =>
          .ok (some ⟨retainUntil, policy, requireEnforcement, providerEnforced, objectLockMode⟩)
      | _, _, _, _, _, _ =>
          .error ⟨.valueError "stored retention record has unknown or missing fields", none⟩

def toDict (record : RetentionRecord) : Value :=
  .obj
    [("objectLockMode", record.objectLockMode),
      ("policy", record.policy),
      ("providerEnforced", record.providerEnforced),
      ("requireEnforcement", record.requireEnforcement),
      ("retainUntil", record.retainUntil)]

-- datetime.strptime(self.retain_until, ...)
def deadline (common : ObjectCommon) (record : RetentionRecord) : Except Failure Timestamp :=
  match record.retainUntil with
  | .str text =>
      match common.strptime text with
      | some deadline => .ok deadline
      | none => .error ⟨.valueError "time data does not match format", none⟩
  | _ => .error ⟨.typeError "strptime() argument 1 must be str", none⟩

def objectLockArguments (common : ObjectCommon) (record : RetentionRecord) :
    Except Failure (Option ObjectLock) :=
  if ¬record.providerEnforced.truthy ∨ record.retainUntil = .null then .ok none
  else do
    let deadline ← record.deadline common
    return some ⟨record.objectLockMode, deadline⟩

def requireDeleteAllowed (common : ObjectCommon) (record : RetentionRecord) (now : Timestamp) :
    Except Failure Unit :=
  if record.retainUntil = .null then
    .error (.meridian .retentionDenied (some "logical retention policy does not permit deletion"))
  else do
    let deadline ← record.deadline common
    if now < deadline then .error (.meridian .retentionDenied) else .ok ()

end RetentionRecord

def parseRetentionRequest (common : ObjectCommon) (value : Value) :
    Except Failure (Option RetentionRequest) :=
  match value with
  | .null => .ok none
  | .obj fields => (common.retentionRequestFromMapping (.obj fields)).map some
  | _ => .error ⟨.typeError "retention must be an object or null", none⟩

end MeridianS3
