import MeridianS3.Deposit.Theorems
import MeridianS3.Effect.Failing

namespace MeridianS3

open Effect ObjectStore Json

variable {raised : Failure → Prop} {α : Type}

theorem normalized_heeds {operation : String} {retentionSensitive : Bool}
    {program : S3M α} (h : program.Heeds raised) :
    (normalized operation retentionSensitive program).Heeds raised :=
  h.recover fun _ => Program.Fails.throw _

theorem UploadTarget.uploadMultipart_heeds (target : UploadTarget) (stream : Bytes)
    (header : ObjectHeader) : (target.uploadMultipart stream header).Heeds raised := by
  have hpart (uploadId : String) (number : Nat) (progress : PartsProgress) :
      (target.sendPart uploadId number progress).Heeds raised := by
    unfold UploadTarget.sendPart
    dsimp only
    split
    · trivial
    · apply Program.Heeds.bind .perform
      intro uploaded
      split
      · trivial
      · split <;> trivial
  have hparts (uploadId : String) (remaining number : Nat) (progress : PartsProgress) :
      (target.sendParts uploadId remaining number progress).Heeds raised := by
    induction remaining generalizing number progress with
    | zero => trivial
    | succ remaining ih => exact (hpart uploadId number progress).bind fun next => ih _ next
  have hcomplete (uploadId : String) : (target.completeUpload uploadId stream).Heeds raised := by
    apply Program.Heeds.bind (hparts _ _ _ _)
    intro progress
    split
    · trivial
    · exact Program.Heeds.bind .perform fun _ => trivial
  unfold UploadTarget.uploadMultipart
  split
  · trivial
  · apply Program.Heeds.bind .perform
    intro response
    dsimp only
    split
    · trivial
    · apply (hcomplete _).recover
      intro failure
      exact Program.Fails.bind _ fun _ => .throw failure

theorem S3Transport.putFile_heeds (transport : S3Transport) (hlasting : Failure.Lasting raised)
    (key : String) (stream : Bytes) (length : Nat) (digest contentType : String)
    (metadata : List (String × String)) (retention : Option RetentionRecord) (createOnly : Bool) :
    (transport.putFile key stream length digest contentType metadata retention createOnly).Heeds
      raised := by
  unfold S3Transport.putFile
  dsimp only
  split
  · trivial
  · apply Program.Heeds.bind (.ofLift _)
    intro arguments
    apply Program.Heeds.bind
    · apply normalized_heeds
      unfold S3Transport.storeFile
      split
      · exact (UploadTarget.uploadMultipart_heeds _ _ _).bind fun _ => trivial
      · exact Program.Heeds.bind .perform fun _ => trivial
    · intro stored
      split
      · exact (S3Transport.verifyDigest_surfaces transport hlasting _ _ _ _).heeds.bind fun _ => trivial
      · trivial

namespace S3ObjectAdapter

variable (adapter : S3ObjectAdapter) (request : PutRequest) (intent : PutIntent)

theorem publishLatest_heeds (hlasting : Failure.Lasting raised) (digest : String) :
    (adapter.publishLatest request intent digest).Heeds raised := by
  apply Program.Heeds.recover
  · exact (S3Transport.putJson_surfaces _ hlasting _ _ _ _).heeds.bind fun _ => trivial
  · intro failure
    split
    · apply Program.Fails.bind
      intro winner
      split
      · exact Program.Fails.bind _ fun _ => .throw _
      · exact .throw _
    · exact .throw failure

-- A put in which a call has failed for an outage fails.
theorem put_heeds : (adapter.put request).Heeds Failure.Outage := by
  have hlasting := Failure.lasting_outage
  have hfound (failure : Failure) (h : failure.Outage) : failure.is .objectNotFound = false :=
    h.not_notFound
  have hfailing {α : Type} {possible : Bool} {program : S3M α} (h : program.Heeds Failure.Outage) :
      (failing possible program).Heeds Failure.Outage := h.recover fun _ => .throw _
  apply (adapter.putIntent_surfaces request).heeds.bind
  intro intent
  apply Program.Heeds.bind
  · apply hfailing
    apply Program.Heeds.bind (.ofLift _)
    intro writes
    dsimp only
    split
    · trivial
    · apply (adapter.tryLatest_surfaces _ _ hlasting hfound).heeds.bind
      intro latest
      apply Program.Heeds.bind (.ofLift _)
      intro existing
      split
      · trivial
      · apply Program.Heeds.bind
        · apply Program.Heeds.bind (.ofLift _)
          intro blobKey
          exact S3Transport.putFile_heeds _ hlasting _ _ _ _ _ _ _ _
        · exact fun _ => trivial
  · intro progress
    split
    · trivial
    · apply hfailing
      apply Program.Heeds.bind
      · apply Program.Heeds.bind (.ofLift _)
        intro key
        exact (S3Transport.putJson_surfaces _ hlasting _ _ _ _).heeds.bind fun _ => trivial
      · intro _
        exact (adapter.publishLatest_heeds _ _ hlasting _).bind fun _ => trivial

end S3ObjectAdapter

end MeridianS3
