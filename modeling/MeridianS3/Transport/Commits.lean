import MeridianS3.Multipart.Exact
import MeridianS3.Transport.Theorems

namespace MeridianS3

open Effect Json

-- The read-back of a payload.
def readBackEvent (key : String) (versionId : Option String) (outcome : Except Failure (List Bytes)) :
    Event S3 Failure :=
  ⟨.getObject key versionId none, outcome⟩

theorem UploadTarget.uploadMultipart_writes (target : UploadTarget) (stream : Bytes)
    (header : ObjectHeader) :
    (target.uploadMultipart stream header).Within (S3Call.writes target.key) := by
  apply uploadMultipart_within
  · exact fun _ _ _ _ => rfl
  · rfl
  · exact fun _ _ => rfl
  · exact fun _ => rfl

-- The calls that store a payload under a key when they take effect.
def S3Call.commits (key : String) : S3Call → Prop
  | .putObject target .. | .completeMultipartUpload target .. => target = key
  | _ => False

instance (key : String) (call : S3Call) : Decidable (call.commits key) :=
  match call with
  | .putObject target .. | .completeMultipartUpload target .. =>
      inferInstanceAs (Decidable (target = key))
  | .headBucket | .headObject .. | .getObject .. | .deleteObject .. | .listObjectsV2 ..
  | .createMultipartUpload .. | .uploadPart .. | .abortMultipartUpload .. => .isFalse id

-- The calls of an upload to a key.
def S3Call.uploads (key : String) : S3Call → Prop
  | .putObject target .. | .createMultipartUpload target .. | .uploadPart target ..
  | .completeMultipartUpload target .. => target = key
  | _ => False

theorem S3Call.commits_uploads {key : String} {call : S3Call} (h : call.commits key) :
    call.uploads key := by
  cases call <;> first | exact h | cases h

theorem S3Call.uploads_writes {key : String} {call : S3Call} (h : call.uploads key) :
    call.writes key := by
  cases call <;> first | exact h | cases h

theorem S3Call.commits_writes {key : String} {call : S3Call} (h : call.commits key) :
    call.writes key := S3Call.uploads_writes (S3Call.commits_uploads h)

theorem S3Call.sendsPart_uncommitted {key : String} {call : S3Call} (h : call.sendsPart) :
    ¬call.commits key := by
  cases call <;> first | exact absurd h id | exact id

-- The call that commits an upload and the upload itself come to the same, and there is no
-- upload without one.
structure Commits {α : Type} (key : String) (events : List (Event S3 Failure))
    (result : Except Failure α) : Prop where
  same : ∀ event ∈ events, event.1.commits key → event.2.isOk = result.isOk
  some : result.isOk = true → ∃ event ∈ events, event.1.commits key

namespace Commits

variable {α β : Type} {key : String} {events : List (Event S3 Failure)}

-- An upload that fails before its commit.
theorem early {failure : Failure} (h : ∀ event ∈ events, ¬event.1.commits key) :
    Commits key events (.error failure : Except Failure α) where
  same event hmem hcommits := absurd hcommits (h event hmem)
  some hok := nomatch hok

theorem congr {result : Except Failure α} {other : Except Failure β}
    (h : Commits key events result) (hsame : other.isOk = result.isOk) :
    Commits key events other where
  same event hmem hcommits := (h.same event hmem hcommits).trans hsame.symm
  some hok := h.some (hsame.symm.trans hok)

-- What goes before or after the commit does not matter.
theorem prepend {before : List (Event S3 Failure)} {result : Except Failure α}
    (hbefore : ∀ event ∈ before, ¬event.1.commits key) (h : Commits key events result) :
    Commits key (before ++ events) result where
  same event hmem hcommits := by
    obtain hmem | hmem := List.mem_append.mp hmem
    · exact absurd hcommits (hbefore event hmem)
    · exact h.same event hmem hcommits
  some hok := by
    obtain ⟨event, hmem, hcommits⟩ := h.some hok
    exact ⟨event, List.mem_append_right _ hmem, hcommits⟩

theorem append {after : List (Event S3 Failure)} {result : Except Failure α}
    (h : Commits key events result) (hafter : ∀ event ∈ after, ¬event.1.commits key) :
    Commits key (events ++ after) result where
  same event hmem hcommits := by
    obtain hmem | hmem := List.mem_append.mp hmem
    · exact h.same event hmem hcommits
    · exact absurd hcommits (hafter event hmem)
  some hok := by
    obtain ⟨event, hmem, hcommits⟩ := h.some hok
    exact ⟨event, List.mem_append_left _ hmem, hcommits⟩

theorem single {event : Event S3 Failure} {result : Except Failure α}
    (hcommits : event.1.commits key) (h : event.2.isOk = result.isOk) :
    Commits key [event] result where
  same other hmem _ := by
    rw [List.mem_singleton] at hmem
    rw [hmem, h]
  some _ := ⟨event, List.mem_singleton_self _, hcommits⟩

end Commits

namespace UploadTarget

variable {target : UploadTarget} {uploadId : String} {stream : Bytes} {header : ObjectHeader}
variable {events : List (Event S3 Failure)}

theorem completeUpload_commits {result : Except Failure MultipartUploadEvidence}
    (path : (target.completeUpload uploadId stream).Path events result) :
    Commits target.key events result := by
  have hparts {sent : List (Event S3 Failure)} {outcome : Except Failure PartsProgress}
      (hsent : (target.sendParts uploadId target.expectedParts 1 ⟨stream, 0, [], []⟩).Path sent
        outcome) : ∀ event ∈ sent, ¬event.1.commits target.key := by
    intro event hmem
    exact S3Call.sendsPart_uncommitted ((sendParts_sends _ _ _).path hsent event hmem)
  obtain ⟨failure, hsent, rfl⟩ | ⟨sent, rest, progress, rfl, hsent, hrest⟩ :=
    Program.path_bind.mp path
  · exact .early (hparts hsent)
  · by_cases hdone : progress.consumed ≠ target.length ∨ progress.stream.take 1 ≠ []
    · rw [if_pos hdone] at hrest
      obtain ⟨rfl, rfl⟩ := Program.path_throw.mp hrest
      rw [List.append_nil]
      exact .early (hparts hsent)
    · rw [if_neg hdone] at hrest
      obtain ⟨failure, hcall, rfl⟩ | ⟨called, ended, versionId, rfl, hcall, hended⟩ :=
        Program.path_bind.mp hrest
      · rw [Program.path_perform.mp hcall]
        apply Commits.prepend (hparts hsent)
        exact .single rfl rfl
      · rw [Program.path_perform.mp hcall]
        obtain ⟨rfl, rfl⟩ := Program.path_pure.mp hended
        rw [List.append_nil]
        apply Commits.prepend (hparts hsent)
        exact .single rfl rfl

theorem uploadMultipart_commits {result : Except Failure MultipartUploadEvidence}
    (path : (target.uploadMultipart stream header).Path events result) :
    Commits target.key events result := by
  have hnothing : ∀ event ∈ ([] : List (Event S3 Failure)), ¬event.1.commits target.key :=
    fun _ hmem => absurd hmem List.not_mem_nil
  have hcreated (outcome : Except Failure (Option String)) : ∀ event ∈
      [(⟨.createMultipartUpload target.key header target.checksumHeaders, outcome⟩ :
        Event S3 Failure)], ¬event.1.commits target.key := by
    intro event hmem
    rw [List.mem_singleton.mp hmem]
    exact id
  unfold uploadMultipart at path
  dsimp only at path
  by_cases hlimit : S3_MAX_MULTIPART_PARTS < target.expectedParts
  · rw [if_pos hlimit] at path
    obtain ⟨rfl, rfl⟩ := Program.path_throw.mp path
    exact .early hnothing
  · rw [if_neg hlimit] at path
    obtain ⟨failure, hcreate, rfl⟩ | ⟨created, rest, response, rfl, hcreate, hrest⟩ :=
      Program.path_bind.mp path
    · rw [Program.path_perform.mp hcreate]
      exact .early (hcreated _)
    · rw [Program.path_perform.mp hcreate]
      by_cases hid : response.getD "" = ""
      · rw [if_pos hid] at hrest
        obtain ⟨rfl, rfl⟩ := Program.path_throw.mp hrest
        exact .early (hcreated _)
      · rw [if_neg hid] at hrest
        obtain ⟨evidence, hcompleted, rfl⟩ | ⟨sent, later, failure, rfl, hfailed, hlater⟩ :=
          Program.path_tryCatch.mp hrest
        · exact .prepend (hcreated _) (completeUpload_commits hcompleted)
        · obtain ⟨error, haborted, _⟩ | ⟨aborting, ended, _, rfl, haborting, hended⟩ :=
            Program.path_bind.mp hlater
          · cases (abortUpload_path haborted).2
          · obtain ⟨⟨outcome, rfl⟩, _⟩ := abortUpload_path haborting
            obtain ⟨rfl, rfl⟩ := Program.path_throw.mp hended
            apply Commits.prepend (hcreated _)
            apply (completeUpload_commits hfailed).append
            intro event hmem
            rw [List.append_nil] at hmem
            rw [List.mem_singleton.mp hmem]
            exact id

end UploadTarget

theorem normalized_path {α : Type} {operation : String} {sensitive : Bool} {program : S3M α}
    {events : List (Event S3 Failure)} {result : Except Failure α}
    (path : (normalized operation sensitive program).Path events result) :
    ∃ inner, program.Path events inner ∧ result = normalizedResult operation sensitive inner := by
  rw [normalized_eq] at path
  obtain ⟨first, rest, inner, rfl, hinner, hrest⟩ := Program.path_andThen.mp path
  obtain ⟨rfl, rfl⟩ := Program.path_done.mp hrest
  rw [List.append_nil]
  exact ⟨inner, hinner, rfl⟩

theorem normalizedResult_isOk {α : Type} (operation : String) (sensitive : Bool)
    (result : Except Failure α) :
    (normalizedResult operation sensitive result).isOk = result.isOk := by
  cases result <;> rfl

namespace S3Transport

variable {transport : S3Transport} {key digest contentType : String} {stream : Bytes}
  {length : Nat} {metadata : List (String × String)} {retention : Option RetentionRecord}
  {createOnly : Bool} {events : List (Event S3 Failure)}

theorem storeFile_writes (header : ObjectHeader) :
    (transport.storeFile key stream length digest header retention createOnly).Within
      (S3Call.writes key) := by
  unfold storeFile
  split
  · apply Program.Within.bind
    · exact (transport.uploadTarget key length _).uploadMultipart_writes stream header
    · intro evidence
      trivial
  · apply Program.Within.bind
    · exact Program.Within.perform rfl
    · intro value
      trivial

theorem storeFile_commits {header : ObjectHeader} {result : Except Failure StoredObject}
    (path : (transport.storeFile key stream length digest header retention createOnly).Path events
      result) : Commits key events result := by
  unfold storeFile at path
  split at path
  · obtain ⟨failure, hupload, rfl⟩ | ⟨sent, ended, evidence, rfl, hupload, hended⟩ :=
      Program.path_bind.mp path
    · exact (UploadTarget.uploadMultipart_commits hupload).congr rfl
    · obtain ⟨rfl, rfl⟩ := Program.path_pure.mp hended
      rw [List.append_nil]
      exact (UploadTarget.uploadMultipart_commits hupload).congr rfl
  · obtain ⟨failure, hcall, rfl⟩ | ⟨sent, ended, reply, rfl, hcall, hended⟩ :=
      Program.path_bind.mp path
    · rw [Program.path_perform.mp hcall]
      exact .single rfl rfl
    · rw [Program.path_perform.mp hcall]
      obtain ⟨rfl, rfl⟩ := Program.path_pure.mp hended
      exact .single rfl rfl

-- How far a transfer comes: through its commit, and with the read-back of what is stored.
inductive FilePath (transport : S3Transport) (key digest : String) (length : Nat) :
    List (Event S3 Failure) → Except Failure StoredObject → Prop where
  | unverified {events : List (Event S3 Failure)} {result : Except Failure StoredObject}
      (hwrites : ∀ event ∈ events, event.1.writes key) (hcommits : Commits key events result)
      (hoff : result.isOk = true → transport.config.verifyAfterWrite = false) :
      FilePath transport key digest length events result
  | verified {sent : List (Event S3 Failure)} {stored : StoredObject} {versionId : Option String}
      {outcome : Except Failure (List Bytes)} (hwrites : ∀ event ∈ sent, event.1.writes key)
      (hcommits : Commits key sent (.ok stored)) :
      FilePath transport key digest length (sent ++ [readBackEvent key versionId outcome])
        (((normalizedResult "get" false outcome).bind (transport.checkBody digest length)).map
          fun _ => stored)

theorem verifyDigest_paths {versionId : Option String} {verdict : Except Failure Unit}
    (path : (transport.verifyDigest key digest length versionId).Path events verdict) :
    ∃ outcome, events = [readBackEvent key versionId outcome] ∧
      verdict = (normalizedResult "get" false outcome).bind (transport.checkBody digest length) := by
  rw [verifyDigest_eq] at path
  obtain ⟨got, rest, outcome, rfl, hgot, hrest⟩ := Program.path_andThen.mp path
  obtain ⟨rfl, rfl⟩ := Program.path_done.mp hrest
  rw [Program.path_perform.mp hgot]
  exact ⟨outcome, rfl, rfl⟩

theorem putFile_paths {result : Except Failure StoredObject}
    (path : (transport.putFile key stream length digest contentType metadata retention
      createOnly).Path events result) :
    transport.FilePath key digest length events result := by
  have hrefused (failure : Failure) : transport.FilePath key digest length [] (.error failure) :=
    .unverified (fun _ hmem => absurd hmem List.not_mem_nil)
      (.early fun _ hmem => absurd hmem List.not_mem_nil) (nomatch ·)
  unfold putFile at path
  dsimp only at path
  by_cases hsize : transport.config.maxObjectBytes < length
  · rw [if_pos hsize] at path
    obtain ⟨rfl, rfl⟩ := Program.path_throw.mp path
    exact hrefused _
  · rw [if_neg hsize] at path
    obtain ⟨failure, hlift, rfl⟩ | ⟨first, rest, arguments, rfl, hlift, hrest⟩ :=
      Program.path_bind.mp path
    · obtain ⟨rfl, -⟩ := Program.path_lift.mp hlift
      exact hrefused _
    · obtain ⟨rfl, -⟩ := Program.path_lift.mp hlift
      have hwithin : (normalized "put" false (transport.storeFile key stream length digest
          ⟨contentType, metadata, arguments⟩ retention createOnly)).Within
            (S3Call.writes key) :=
        normalized_within (transport.storeFile_writes _)
      have hstored {sent : List (Event S3 Failure)} {outcome : Except Failure StoredObject}
          (hstore : (normalized "put" false (transport.storeFile key stream length digest
            ⟨contentType, metadata, arguments⟩ retention createOnly)).Path sent outcome) :
          Commits key sent outcome := by
        obtain ⟨inner, hinner, rfl⟩ := normalized_path hstore
        exact (storeFile_commits hinner).congr (normalizedResult_isOk _ _ _)
      obtain ⟨failure, hstore, rfl⟩ | ⟨sent, later, stored, rfl, hstore, hlater⟩ :=
        Program.path_bind.mp hrest
      · exact .unverified (hwithin.path hstore) (hstored hstore) (nomatch ·)
      · rw [List.nil_append]
        by_cases hverify : transport.config.verifyAfterWrite = true
        · rw [if_pos hverify] at hlater
          obtain ⟨failure, hfailed, rfl⟩ | ⟨called, ended, _, rfl, hcalled, hended⟩ :=
            Program.path_bind.mp hlater
          · obtain ⟨outcome, rfl, hresult⟩ := verifyDigest_paths hfailed
            have hverdict : (.error failure : Except Failure StoredObject) =
                ((normalizedResult "get" false outcome).bind
                  (transport.checkBody digest length)).map fun _ => stored := by
              rw [← hresult]
              rfl
            rw [hverdict]
            exact .verified (hwithin.path hstore) (hstored hstore)
          · obtain ⟨outcome, rfl, hresult⟩ := verifyDigest_paths hcalled
            obtain ⟨rfl, rfl⟩ := Program.path_pure.mp hended
            have hverdict : (.ok stored : Except Failure StoredObject) =
                ((normalizedResult "get" false outcome).bind
                  (transport.checkBody digest length)).map fun _ => stored := by
              rw [← hresult]
              rfl
            rw [List.append_nil, hverdict]
            exact .verified (hwithin.path hstore) (hstored hstore)
        · rw [if_neg hverify] at hlater
          obtain ⟨rfl, rfl⟩ := Program.path_pure.mp hlater
          rw [List.append_nil]
          exact .unverified (hwithin.path hstore) (hstored hstore) fun _ =>
            Bool.eq_false_iff.mpr hverify

end S3Transport

end MeridianS3
