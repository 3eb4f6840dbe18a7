import Mathlib.Tactic.Common

namespace MeridianS3

-- The error classes that the adapter raises or passes on.
inductive ErrorKind where
  | conditionalConflict
  | digestMismatch
  | immutableObjectConflict
  | incompleteUpload
  | multipartInvalid
  | objectAuthenticationFailed
  | objectAuthorizationFailed
  | objectInvalidRequest
  | objectNotFound
  | objectQuotaExceeded
  | objectRateLimited
  | objectUnavailable
  | rangeNotSatisfiable
  | retentionDenied
  | other (name : String)
deriving DecidableEq

structure MeridianError where
  kind : ErrorKind
  message : Option String := none
  operationContract : Option String := none
  adapterProvenance : List (String × String) := []
deriving DecidableEq

-- What the SDK raises: a provider response with its error code and HTTP status,
-- or a failure of the client itself.
inductive SdkError where
  | client (code status : String)
  | paramValidation
  | connectTimeout
  | connectionClosed
  | endpointConnection
  | readTimeout
  | botoCore
  | unclassified
deriving DecidableEq

inductive Cause where
  | meridian (error : MeridianError)
  | sdk (error : SdkError)
  | valueError (message : String)
  | typeError (message : String)
  | recursionError (message : String)
deriving DecidableEq

-- A raised exception. One that leaves a put carries the physical_commit_possible
-- flag that the put handed to the state machine's fail.
structure Failure where
  cause : Cause
  physicalCommitPossible : Option Bool := none
deriving DecidableEq

namespace Failure

def meridian (kind : ErrorKind) (message : Option String := none) : Failure :=
  ⟨.meridian { kind := kind, message := message }, none⟩

def client (code status : String) : Failure := ⟨.sdk (.client code status), none⟩

def is (failure : Failure) (kind : ErrorKind) : Bool :=
  match failure.cause with
  | .meridian error => error.kind = kind
  | _ => false

end Failure

def AUTHENTICATION : List String :=
  ["AuthorizationHeaderMalformed", "ExpiredToken", "InvalidAccessKeyId", "InvalidToken",
    "SignatureDoesNotMatch", "TokenRefreshRequired"]

def NOT_FOUND : List String := ["404", "NoSuchBucket", "NoSuchKey", "NoSuchUpload", "NotFound"]

def CONFLICT : List String := ["409", "ConditionalRequestConflict", "PreconditionFailed"]

def RATE_LIMIT : List String :=
  ["RequestLimitExceeded", "SlowDown", "Throttling", "ThrottlingException"]

def QUOTA : List String := ["EntityTooLarge", "InsufficientStorage", "QuotaExceeded", "StorageFull"]

def CORRUPTION : List String := ["BadDigest", "ChecksumMismatch", "InvalidDigest"]

def s3Provenance : List (String × String) := [("adapterId", "s3")]

def clientErrorKind (code status : String) (retentionSensitive : Bool) : ErrorKind :=
  if code ∈ AUTHENTICATION then .objectAuthenticationFailed
  else if code ∈ NOT_FOUND ∨ status = "404" then .objectNotFound
  else if code ∈ CONFLICT ∨ status = "412" then .conditionalConflict
  else if code = "InvalidRange" ∨ status = "416" then .rangeNotSatisfiable
  else if code ∈ RATE_LIMIT ∨ status = "429" then .objectRateLimited
  else if code ∈ QUOTA ∨ status = "507" then .objectQuotaExceeded
  else if code ∈ CORRUPTION then .digestMismatch
  else if retentionSensitive ∧
      code ∈ ["AccessDenied", "AllAccessDisabled", "InvalidRequest", "MethodNotAllowed"] then
    .retentionDenied
  else if code ∈ ["AccessDenied", "AllAccessDisabled", "MethodNotAllowed"] ∨ status = "403" then
    if retentionSensitive then .retentionDenied else .objectAuthorizationFailed
  else .objectUnavailable

def normalizeS3Error (cause : Cause) (operation : String) (retentionSensitive : Bool) :
    MeridianError :=
  match cause with
  | .meridian error => error
  | .sdk (.client code status) =>
      { kind := clientErrorKind code status retentionSensitive
        operationContract :=
          if operation ∈ ["delete", "get", "list", "put", "read_range", "stat"] then
            some ("meridian.object." ++ operation)
          else none
        adapterProvenance := s3Provenance }
  | .sdk .paramValidation =>
      { kind := .objectInvalidRequest
        message := some "S3 Adapter generated an invalid provider request"
        adapterProvenance := s3Provenance }
  | .sdk .connectTimeout | .sdk .connectionClosed | .sdk .endpointConnection | .sdk .readTimeout
  | .sdk .botoCore => { kind := .objectUnavailable, adapterProvenance := s3Provenance }
  | .sdk .unclassified | .valueError _ | .typeError _ | .recursionError _ =>
      { kind := .objectUnavailable
        message := some "S3 Adapter returned an unclassified failure"
        adapterProvenance := s3Provenance }

def raiseNormalizedS3Error (failure : Failure) (operation : String)
    (retentionSensitive : Bool := false) : Failure :=
  ⟨.meridian (normalizeS3Error failure.cause operation retentionSensitive), none⟩

-- A missing object and a refused conditional write keep their class through
-- normalization, whatever the operation.
@[simp] theorem notFound_is (operation : String) (code : String) (h : code ∈ NOT_FOUND)
    (hcode : code ∉ AUTHENTICATION) (status : String) (sensitive : Bool) :
    (raiseNormalizedS3Error (.client code status) operation sensitive).is .objectNotFound = true := by
  simp [raiseNormalizedS3Error, normalizeS3Error, Failure.client, Failure.is, clientErrorKind, h,
    hcode]

theorem preconditionFailed_is (operation : String) (sensitive : Bool) :
    (raiseNormalizedS3Error (.client "PreconditionFailed" "412") operation sensitive).is
      .conditionalConflict = true := by
  simp [raiseNormalizedS3Error, normalizeS3Error, Failure.client, Failure.is, clientErrorKind,
    AUTHENTICATION, NOT_FOUND, CONFLICT]

namespace Failure

-- A failure of the provider that no caller mistakes for a missing object or a
-- refused conditional write.
def Outage (failure : Failure) : Prop :=
  ∀ operation sensitive,
    (raiseNormalizedS3Error failure operation sensitive).is .objectNotFound = false ∧
      (raiseNormalizedS3Error failure operation sensitive).is .conditionalConflict = false

variable {failure : Failure}

theorem Outage.normalized (h : failure.Outage) (operation : String) (sensitive : Bool) :
    (raiseNormalizedS3Error failure operation sensitive).Outage := by
  intro _ _
  exact h operation sensitive

theorem Outage.not_notFound (h : failure.Outage) : failure.is .objectNotFound = false := by
  rcases failure with ⟨cause, flag⟩
  cases cause with
  | meridian error => exact (h "" false).1
  | sdk error | valueError message | typeError message | recursionError message => rfl

theorem Outage.not_conflict (h : failure.Outage) : failure.is .conditionalConflict = false := by
  rcases failure with ⟨cause, flag⟩
  cases cause with
  | meridian error => exact (h "" false).2
  | sdk error | valueError message | typeError message | recursionError message => rfl

-- A kind of failure that normalization does not take away.
def Lasting (raised : Failure → Prop) : Prop :=
  ∀ failure, raised failure → ∀ operation sensitive,
    raised (raiseNormalizedS3Error failure operation sensitive)

theorem lasting_outage : Lasting Outage := fun _ h => h.normalized

theorem lasting_any : Lasting fun _ => True := fun _ _ _ _ => trivial

end Failure

theorem bind_ok {α β : Type} {first : Except Failure α} {next : α → Except Failure β} {value : β}
    (h : first >>= next = .ok value) : ∃ middle, first = .ok middle ∧ next middle = .ok value := by
  cases first with
  | ok middle => exact ⟨middle, rfl, h⟩
  | error failure => cases h

theorem ok_bind {α β : Type} {first : Except Failure α} {value : α}
    {next : α → Except Failure β} (h : first = .ok value) : first >>= next = next value := by
  rw [h]
  rfl

-- What a check that raises has let through.
theorem guard_passed {β : Type} {condition : Prop} [Decidable condition] {failure : Failure}
    {next : PUnit → Except Failure β} {value : β}
    (h : (if condition then (throw failure : Except Failure PUnit) >>= next else next ⟨⟩) =
      .ok value) : ¬condition ∧ next ⟨⟩ = .ok value := by
  split at h
  · cases h
  · rename_i hcondition
    exact ⟨hcondition, h⟩

theorem guard_passes {β : Type} {condition : Prop} [Decidable condition] {failure : Failure}
    {next : PUnit → Except Failure β} (h : ¬condition) :
    (if condition then (throw failure : Except Failure PUnit) >>= next else next ⟨⟩) =
      next ⟨⟩ :=
  if_neg h

end MeridianS3
