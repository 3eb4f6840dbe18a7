import MeridianS3.Config.Validation
import MeridianS3.Standard.Samples
import MeridianS3.Transport.Raising

namespace MeridianS3

open Effect Json

def partLimitExceeded : Failure :=
  .meridian .multipartInvalid (some "multipart upload exceeds the S3 part-count limit")

def Failure.Uploadable (failure : Failure) : Prop := failure.is .multipartInvalid = false

namespace Failure

theorem uploadable_sdk (failure : Failure) (error : SdkError) (h : failure.cause = .sdk error) :
    failure.Uploadable := by
  simp [Uploadable, Failure.is, h]

theorem clientErrorKind_ne (code status : String) (sensitive : Bool) :
    clientErrorKind code status sensitive ≠ .multipartInvalid := by
  unfold clientErrorKind
  repeat' split
  all_goals exact fun h => by cases h

theorem Uploadable.normalized {failure : Failure} (h : failure.Uploadable) (operation : String)
    (sensitive : Bool) : (raiseNormalizedS3Error failure operation sensitive).Uploadable := by
  rcases failure with ⟨cause, flag⟩
  match cause with
  | .meridian error => exact h
  | .sdk (.client code status) =>
      simpa [Uploadable, raiseNormalizedS3Error, normalizeS3Error, Failure.is] using
        clientErrorKind_ne code status sensitive
  | .sdk .paramValidation | .sdk .connectTimeout | .sdk .connectionClosed
  | .sdk .endpointConnection | .sdk .readTimeout | .sdk .botoCore | .sdk .unclassified
  | .valueError _ | .typeError _ | .recursionError _ =>
      simp [Uploadable, raiseNormalizedS3Error, normalizeS3Error, Failure.is]

end Failure

namespace UploadTarget

variable (target : UploadTarget)

theorem sendPart_uploadable (uploadId : String) (number : Nat) (progress : PartsProgress) :
    Raising Failure.Uploadable (target.sendPart uploadId number progress) := by
  unfold sendPart
  dsimp only
  split
  · exact .ofThrow rfl
  · apply Raising.bind (.perform Failure.uploadable_sdk _)
    intro uploaded
    split
    · exact .ofThrow rfl
    · split
      · exact .ofThrow rfl
      · exact .ofPure _

theorem sendParts_uploadable (uploadId : String) (remaining number : Nat)
    (progress : PartsProgress) :
    Raising Failure.Uploadable (target.sendParts uploadId remaining number progress) := by
  induction remaining generalizing number progress with
  | zero => exact .ofPure _
  | succ remaining ih =>
      apply Raising.bind (target.sendPart_uploadable uploadId number progress)
      intro next
      exact ih (number + 1) next

theorem completeUpload_uploadable (uploadId : String) (stream : Bytes) :
    Raising Failure.Uploadable (target.completeUpload uploadId stream) := by
  apply Raising.bind (target.sendParts_uploadable uploadId _ _ _)
  intro progress
  split
  · exact .ofThrow rfl
  · apply Raising.bind (.perform Failure.uploadable_sdk _)
    intro versionId
    exact .ofPure _

theorem abortUpload_uploadable (uploadId : String) :
    Raising Failure.Uploadable (target.abortUpload uploadId) := by
  apply Raising.recover (.perform Failure.uploadable_sdk _)
  intro failure _
  exact .ofPure _

theorem uploadMultipart_uploadable (stream : Bytes) (header : ObjectHeader)
    (hparts : target.expectedParts ≤ S3_MAX_MULTIPART_PARTS) :
    Raising Failure.Uploadable (target.uploadMultipart stream header) := by
  unfold uploadMultipart
  rw [if_neg (by omega)]
  apply Raising.bind (.perform Failure.uploadable_sdk _)
  intro response
  dsimp only
  split
  · exact .ofThrow rfl
  · apply Raising.recover (target.completeUpload_uploadable _ stream)
    intro failure hfailure
    apply Raising.bind (target.abortUpload_uploadable _)
    intro _
    exact .ofThrow hfailure

end UploadTarget

namespace S3Transport

variable (transport : S3Transport) {common : ObjectCommon}

theorem deadline_uploadable {record : RetentionRecord} {failure : Failure}
    (h : record.deadline common = .error failure) : failure.Uploadable := by
  unfold RetentionRecord.deadline at h
  split at h
  · split at h
    · cases h
    · cases h
      rfl
  · cases h
    rfl

theorem writeArguments_uploadable {retention : Option RetentionRecord} {failure : Failure}
    (h : transport.writeArguments retention = .error failure) : failure.Uploadable := by
  cases retention with
  | none => cases h
  | some record =>
      simp only [writeArguments, RetentionRecord.objectLockArguments] at h
      split at h
      · cases h
      · cases hdeadline : record.deadline transport.common with
        | ok deadline =>
            rw [hdeadline] at h
            cases h
        | error raised =>
            rw [hdeadline] at h
            cases h
            exact deadline_uploadable hdeadline

theorem getBody_uploadable (key : String) (versionId : Value) (range : Option (Nat × Nat)) :
    Raising Failure.Uploadable (getBody key versionId range) := by
  have hrequest : Raising Failure.Uploadable (do
      let version ← Program.lift (versionArgument versionId)
      Program.perform (S := S3) (.getObject key version range)) := by
    apply Raising.lift_bind
    · intro failure h
      unfold versionArgument at h
      split at h <;> cases h
      rfl
    · intro version _
      exact .perform Failure.uploadable_sdk _
  apply hrequest.normalized
  intro failure hfailure
  exact hfailure.normalized _ _

theorem verifyDigest_uploadable (key digest : String) (length : Nat)
    (versionId : Option String) :
    Raising Failure.Uploadable (transport.verifyDigest key digest length versionId) := by
  apply Raising.bind (getBody_uploadable key _ none)
  intro body
  dsimp only
  split
  · exact .ofThrow rfl
  · split
    · exact .ofThrow rfl
    · exact .ofPure _

theorem storeFile_uploadable (key : String) (stream : Bytes) (length : Nat) (digest : String)
    (header : ObjectHeader) (retention : Option RetentionRecord) (createOnly : Bool)
    (hsize : 0 < transport.config.multipartPartBytes)
    (hfits : length < transport.config.multipartThresholdBytes ∨
      length ≤ S3_MAX_MULTIPART_PARTS * transport.config.multipartPartBytes) :
    Raising Failure.Uploadable
      (transport.storeFile key stream length digest header retention createOnly) := by
  unfold storeFile
  split
  · rename_i hthreshold
    have hparts : (transport.uploadTarget key length
        (transport.useChecksum retention)).expectedParts ≤ S3_MAX_MULTIPART_PARTS := by
      apply (UploadTarget.expectedParts_le_iff _ hsize _ (by decide)).mpr
      obtain hbelow | hwithin := hfits
      · omega
      · exact hwithin
    apply Raising.bind (UploadTarget.uploadMultipart_uploadable _ stream header hparts)
    intro evidence
    exact .ofPure _
  · apply Raising.bind (.perform Failure.uploadable_sdk _)
    intro value
    exact .ofPure _

theorem putFile_uploadable (key : String) (stream : Bytes) (length : Nat)
    (digest contentType : String) (metadata : List (String × String))
    (retention : Option RetentionRecord) (createOnly : Bool)
    (hsize : 0 < transport.config.multipartPartBytes)
    (hfits : length < transport.config.multipartThresholdBytes ∨
      length ≤ S3_MAX_MULTIPART_PARTS * transport.config.multipartPartBytes) :
    Raising Failure.Uploadable
      (transport.putFile key stream length digest contentType metadata retention createOnly) := by
  unfold putFile
  dsimp only
  by_cases hmax : transport.config.maxObjectBytes < length
  · rw [if_pos hmax]
    exact .ofThrow rfl
  · rw [if_neg hmax]
    apply Raising.lift_bind
    · intro failure h
      exact transport.writeArguments_uploadable h
    · intro arguments _
      apply Raising.bind
      · apply Raising.normalized (transport.storeFile_uploadable key stream length digest _
          retention createOnly hsize hfits)
        intro failure hfailure
        exact hfailure.normalized _ _
      · intro stored
        split
        · apply Raising.bind (transport.verifyDigest_uploadable key digest length _)
          intro _
          exact .ofPure _
        · exact .ofPure _

-- A payload over the limit is refused before the first call.
theorem putFile_over_limit (key : String) (stream : Bytes) (length : Nat)
    (digest contentType : String) (metadata : List (String × String)) (createOnly : Bool)
    (hsize : 0 < transport.config.multipartPartBytes)
    (hadmitted : length ≤ transport.config.maxObjectBytes)
    (hthreshold : transport.config.multipartThresholdBytes ≤ length)
    (hover : S3_MAX_MULTIPART_PARTS * transport.config.multipartPartBytes < length) :
    transport.putFile key stream length digest contentType metadata none createOnly =
      .done (.error partLimitExceeded) := by
  have hparts : S3_MAX_MULTIPART_PARTS < (transport.uploadTarget key length
      (transport.useChecksum none)).expectedParts := by
    by_contra hle
    have hwithin := (UploadTarget.expectedParts_le_iff (transport.uploadTarget key length
      (transport.useChecksum none)) hsize _ (by decide)).mp (Nat.le_of_not_lt hle)
    exact absurd hover (Nat.not_lt_of_le hwithin)
  have hstore (header : ObjectHeader) :
      transport.storeFile key stream length digest header none createOnly =
        .done (.error partLimitExceeded) := by
    unfold storeFile UploadTarget.uploadMultipart
    rw [if_pos hthreshold, if_pos hparts]
    rfl
  unfold putFile
  rw [if_neg (Nat.not_lt_of_le hadmitted)]
  simp only [hstore]
  rfl

end S3Transport

-- Every length that the configuration admits can be uploaded when the part limit covers
-- the largest one.
theorem admitted_lengths_fit_iff (urlsplit : String → Except Failure SplitResult)
    (common : ObjectCommon) (raw config : S3Config) (haccepted : raw.postInit urlsplit = .ok config) :
    (∀ key stream length digest contentType metadata retention createOnly events failure,
      length ≤ config.maxObjectBytes →
      ((⟨common, config⟩ : S3Transport).putFile key stream length digest contentType metadata
        retention createOnly).Path events (.error failure) →
      (∀ event ∈ events, Answered event.2) →
        failure.is .multipartInvalid = false) ↔
      config.maxObjectBytes ≤ S3_MAX_MULTIPART_PARTS * config.multipartPartBytes := by
  have hsized := S3Config.postInit_sized haccepted
  have hsize : 0 < config.multipartPartBytes :=
    Nat.lt_of_lt_of_le (by decide) hsized.part_min
  constructor
  · intro hnever
    by_contra hover
    have hpath := S3Transport.putFile_over_limit ⟨common, config⟩ "" [] config.maxObjectBytes "" ""
      [] false hsize le_rfl hsized.threshold_max (Nat.lt_of_not_le hover)
    have hspared := hnever "" [] config.maxObjectBytes "" "" [] none false [] partLimitExceeded
      le_rfl (by rw [hpath]; exact .done _) (fun _ hmem => absurd hmem List.not_mem_nil)
    cases hspared
  · intro hwithin key stream length digest contentType metadata retention createOnly events failure
      hlength hpath hanswered
    have hraising := S3Transport.putFile_uploadable ⟨common, config⟩ key stream length digest
      contentType metadata retention createOnly hsize (Or.inr (hlength.trans hwithin))
    exact (hraising.path hpath hanswered).2 failure rfl

theorem sample_lengths_fit_iff :
    Standard.config.postInit Standard.noSplit = .ok Standard.config ∧
      ((∀ key stream length digest contentType metadata retention createOnly events failure,
        length ≤ Standard.config.maxObjectBytes →
        ((⟨Standard.common, Standard.config⟩ : S3Transport).putFile key stream length digest
          contentType metadata retention createOnly).Path events (.error failure) →
        (∀ event ∈ events, Answered event.2) →
          failure.is .multipartInvalid = false) ↔
        Standard.config.maxObjectBytes ≤
          S3_MAX_MULTIPART_PARTS * Standard.config.multipartPartBytes) :=
  ⟨Standard.config_accepted, admitted_lengths_fit_iff Standard.noSplit Standard.common
    Standard.config Standard.config Standard.config_accepted⟩

-- Parts of 5 MiB end below 49 GiB, and the largest admitted object has 5 TiB.
theorem largest_object_refused :
    Standard.config.postInit Standard.noSplit = .ok Standard.config ∧
      ∃ failure, 5 * TIB ≤ Standard.config.maxObjectBytes ∧
        ((⟨Standard.common, Standard.config⟩ : S3Transport).putFile "blob"
          (List.replicate (5 * TIB) 0) (5 * TIB) "sha256:" "text/plain" [] none true).Path []
          (.error failure) ∧
        failure.is .multipartInvalid = true := by
  refine ⟨Standard.config_accepted, partLimitExceeded, by decide, ?_, rfl⟩
  rw [S3Transport.putFile_over_limit ⟨Standard.common, Standard.config⟩ "blob" _ (5 * TIB)
    "sha256:" "text/plain" [] true (by decide) (by decide) (by decide) (by decide)]
  exact .done _

end MeridianS3
