import MeridianS3.Standard.Samples
import MeridianS3.Transport.Theorems

namespace MeridianS3

open Effect ObjectStore Json

namespace UploadTarget

-- A transfer that nobody disturbs stores its stream.
theorem uploadMultipart_run (target : UploadTarget) (provider : Provider) (header : ObjectHeader)
    (stream : Bytes) (bucket : Bucket) (hlength : target.length = stream.length)
    (hfits : target.Fits stream) :
    ∃ evidence after, (target.uploadMultipart stream header).run provider.handle bucket =
        (.ok evidence, after) ∧
      evidence.versionId = provider.reportedVersion bucket bucket.issued ∧
      SameObjects (bucket.put target.key ⟨header, stream⟩) after := by
  have hverified : Verified provider.handle (solo fun _ _ => False).protocol
      (target.uploadMultipart stream header) ∅ bucket fun result _ after =>
        ∃ evidence, result = .ok evidence ∧
          evidence.versionId = provider.reportedVersion bucket bucket.issued ∧
          SameObjects (bucket.put target.key ⟨header, stream⟩) after := by
    apply uploadMultipart_rule hlength
    · exact fun hunfit => absurd hfits hunfit
    · exact fun _ _ _ _ _ _ hfault => absurd hfault not_false
    · intro held upload before after hothers _ _ he
      have hsame : SameObjects (bucket.put target.key ⟨header, stream⟩) after := by
        rw [he]
        exact (hothers.trans (SameObjects.closeSession before upload)).put _ _
      refine ⟨trivial, trivial, ?_, fun _ _ _ _ _ hfault => absurd hfault not_false⟩
      intro evidence hversion
      refine ⟨evidence, rfl, ?_, hsame⟩
      rw [hversion]
      simp only [Provider.reportedVersion, hothers.versioned, hothers.issued]
  obtain ⟨_, _, evidence, hresult, hversion, hsame⟩ :=
    hverified.run Discipline.rely_refl trivial
  exact ⟨evidence, _, Prod.ext hresult rfl, hversion, hsame⟩

end UploadTarget

namespace S3Transport

variable (transport : S3Transport) (provider : Provider) {key : String} {stream : Bytes}
  {digest contentType : String} {metadata : List (String × String)}
  {retention : Option RetentionRecord} {createOnly : Bool} {bucket : Bucket}
  {arguments : WriteArguments}

theorem storeFile_run_multipart {header : ObjectHeader}
    (hthreshold : transport.config.multipartThresholdBytes ≤ stream.length)
    (hfits : (transport.uploadTarget key stream.length
      (transport.useChecksum retention)).Fits stream) :
    ∃ stored after, (transport.storeFile key stream stream.length digest header retention
        createOnly).run provider.handle bucket = (.ok stored, after) ∧
      stored.versionId = provider.reportedVersion bucket bucket.issued ∧
      SameObjects (bucket.put key ⟨header, stream⟩) after := by
  obtain ⟨evidence, after, hrun, hversion, hsame⟩ :=
    (transport.uploadTarget key stream.length (transport.useChecksum retention)).uploadMultipart_run
      provider header stream bucket rfl hfits
  refine ⟨⟨evidence.versionId, none, some evidence⟩, after, ?_, hversion, hsame⟩
  unfold storeFile
  rw [if_pos hthreshold, Program.run_bind_ok _ _ _ _ _ _ hrun]
  rfl

theorem storeFile_run_single {header : ObjectHeader}
    (hthreshold : stream.length < transport.config.multipartThresholdBytes)
    (hfree : ¬(createOnly = true ∧ (bucket.current key).isSome = true)) :
    ∃ stored after, (transport.storeFile key stream stream.length digest header retention
        createOnly).run provider.handle bucket = (.ok stored, after) ∧
      stored.versionId = provider.reportedVersion bucket bucket.issued ∧
      SameObjects (bucket.put key ⟨header, stream⟩) after := by
  refine ⟨⟨provider.reportedVersion bucket bucket.issued, some (provider.etag stream), none⟩, _, ?_,
    rfl, .refl _⟩
  unfold storeFile
  rw [if_neg (Nat.not_le_of_lt hthreshold)]
  have hcall : (Program.perform (S := S3) (transport.fileCall key stream stream.length digest header
      retention createOnly)).run provider.handle bucket =
        (.ok (⟨provider.reportedVersion bucket bucket.issued, some (provider.etag stream)⟩ :
          PutReply), bucket.put key ⟨header, stream⟩) := provider.handle_put_written hfree
  exact Program.run_bind_ok provider.handle _ _ bucket _ _ hcall

theorem storeFile_run_refused {header : ObjectHeader}
    (hthreshold : stream.length < transport.config.multipartThresholdBytes)
    (hcreate : createOnly = true) (hcurrent : (bucket.current key).isSome = true) :
    (transport.storeFile key stream stream.length digest header retention createOnly).run
      provider.handle bucket = (.error (.client "PreconditionFailed" "412"), bucket) := by
  unfold storeFile
  rw [if_neg (Nat.not_le_of_lt hthreshold)]
  exact Program.run_bind_error provider.handle _ _ bucket _ _
    (provider.handle_put_blocked hcreate hcurrent)

variable (key stream contentType metadata retention createOnly)

def putsFile (bucket : Bucket) : Except Failure StoredObject × Bucket :=
  (transport.putFile key stream stream.length (transport.common.digest stream) contentType metadata
    retention createOnly).run provider.handle bucket

variable {key stream contentType metadata retention createOnly}

theorem putsFile_oversized (hsize : transport.config.maxObjectBytes < stream.length) :
    transport.putsFile provider key stream contentType metadata retention createOnly bucket =
      (.error (.meridian .objectInvalidRequest
        (some "Object exceeds the configured S3 size limit")), bucket) := by
  unfold putsFile putFile
  rw [if_pos hsize]
  rfl

theorem putsFile_unargued {failure : Failure}
    (hsize : stream.length ≤ transport.config.maxObjectBytes)
    (harguments : transport.writeArguments retention = .error failure) :
    transport.putsFile provider key stream contentType metadata retention createOnly bucket =
      (.error failure, bucket) := by
  unfold putsFile putFile
  rw [if_neg (Nat.not_lt_of_le hsize), harguments]
  rfl

theorem putsFile_refused (hsize : stream.length ≤ transport.config.maxObjectBytes)
    (harguments : transport.writeArguments retention = .ok arguments)
    (hthreshold : stream.length < transport.config.multipartThresholdBytes)
    (hcreate : createOnly = true) (hcurrent : (bucket.current key).isSome = true) :
    transport.putsFile provider key stream contentType metadata retention createOnly bucket =
      (.error (raiseNormalizedS3Error (.client "PreconditionFailed" "412") "put"), bucket) := by
  have hrun : (transport.storeFile key stream stream.length (transport.common.digest stream)
      ⟨contentType, metadata, arguments⟩ retention createOnly).run provider.handle bucket =
        (.error (.client "PreconditionFailed" "412"), bucket) :=
    transport.storeFile_run_refused provider hthreshold hcreate hcurrent
  unfold putsFile putFile
  rw [if_neg (Nat.not_lt_of_le hsize), harguments]
  have hnormalized : (normalized "put" false (transport.storeFile key stream stream.length
      (transport.common.digest stream) ⟨contentType, metadata, arguments⟩ retention
      createOnly)).run provider.handle bucket =
        (.error (raiseNormalizedS3Error (.client "PreconditionFailed" "412") "put"), bucket) := by
    rw [run_normalized, hrun]
    rfl
  exact (Program.run_bind_ok provider.handle (Program.lift (.ok arguments)) _ bucket bucket
    arguments rfl).trans (Program.run_bind_error provider.handle _ _ bucket _ _ hnormalized)

theorem putsFile_stored (key contentType : String) (metadata : List (String × String))
    (createOnly : Bool) (bucket : Bucket) (hsize : stream.length ≤ transport.config.maxObjectBytes)
    (harguments : transport.writeArguments retention = .ok arguments)
    (hfits : transport.config.multipartThresholdBytes ≤ stream.length →
      (transport.uploadTarget key stream.length (transport.useChecksum retention)).Fits stream)
    (hfree : stream.length < transport.config.multipartThresholdBytes →
      ¬(createOnly = true ∧ (bucket.current key).isSome = true)) :
    ∃ stored after,
      transport.putsFile provider key stream contentType metadata retention createOnly bucket =
        (.ok stored, after) ∧
      SameObjects (bucket.put key ⟨⟨contentType, metadata, arguments⟩, stream⟩) after := by
  have hstore : ∃ stored after, (transport.storeFile key stream stream.length
        (transport.common.digest stream) ⟨contentType, metadata, arguments⟩ retention
        createOnly).run provider.handle bucket = (.ok stored, after) ∧
      stored.versionId = provider.reportedVersion bucket bucket.issued ∧
      SameObjects (bucket.put key ⟨⟨contentType, metadata, arguments⟩, stream⟩) after := by
    by_cases hthreshold : transport.config.multipartThresholdBytes ≤ stream.length
    · exact transport.storeFile_run_multipart provider hthreshold (hfits hthreshold)
    · exact transport.storeFile_run_single provider (Nat.lt_of_not_le hthreshold)
        (hfree (Nat.lt_of_not_le hthreshold))
  obtain ⟨stored, after, hrun, hversion, hsame⟩ := hstore
  refine ⟨stored, after, ?_, hsame⟩
  unfold putsFile putFile
  rw [if_neg (Nat.not_lt_of_le hsize), harguments]
  have hnormalized : (normalized "put" false (transport.storeFile key stream stream.length
      (transport.common.digest stream) ⟨contentType, metadata, arguments⟩ retention
      createOnly)).run provider.handle bucket = (.ok stored, after) := by
    rw [run_normalized, hrun]
    rfl
  apply (Program.run_bind_ok provider.handle _ _ bucket _ _ hnormalized).trans
  dsimp only
  split
  · have hfetch : provider.fetch after key stored.versionId =
        some ⟨⟨contentType, metadata, arguments⟩, stream⟩ := by
      rw [hversion, provider.fetch_congr hsame.versioned (congrFun hsame.entries key)]
      exact provider.fetch_put_reported bucket key _
    exact Program.run_bind_ok provider.handle _ _ after _ _
      (transport.run_verifyDigest provider hfetch)
  · rfl

end S3Transport

-- What the two paths of put_file are to agree on: both fail with the same error or both
-- succeed, they leave the same object at the key, and a create-only write does not replace
-- one.
structure PathsAgree (key : String) (createOnly : Bool) (bucket : Bucket)
    (first second : Except Failure StoredObject × Bucket) : Prop where
  error : ∀ failure, first.1 = .error failure ↔ second.1 = .error failure
  object : first.2.current key = second.2.current key
  kept : createOnly = true → (bucket.current key).isSome = true →
    first.2.entries key = bucket.entries key ∧ second.2.entries key = bucket.entries key

namespace PathsAgree

variable {key : String} {createOnly : Bool} {bucket : Bucket}

-- Two refusals with the same error, neither of which touches the bucket.
theorem refused (failure : Failure) :
    PathsAgree key createOnly bucket (.error failure, bucket) (.error failure, bucket) :=
  ⟨fun _ => Iff.rfl, rfl, fun _ _ => ⟨rfl, rfl⟩⟩

theorem stored {body : StoredBody} {first second : StoredObject} {left right : Bucket}
    (hfree : ¬(createOnly = true ∧ (bucket.current key).isSome = true))
    (hleft : SameObjects (bucket.put key body) left)
    (hright : SameObjects (bucket.put key body) right) :
    PathsAgree key createOnly bucket (.ok first, left) (.ok second, right) := by
  refine ⟨fun failure => ?_, ?_, fun hcreate hcurrent => absurd ⟨hcreate, hcurrent⟩ hfree⟩
  · simp
  · rw [hleft.current, hright.current]

end PathsAgree

-- A write puts a version of its own in front.
theorem put_entries_ne {key : String} {body : StoredBody} {bucket after : Bucket}
    (hsame : SameObjects (bucket.put key body) after) :
    after.entries key ≠ bucket.entries key := by
  rw [congrFun hsame.entries key, Store.put_entries_self]
  intro he
  have hmem : (⟨bucket.issued, some body⟩ : Entry ObjectHeader UInt8) ∈ bucket.entries key := by
    rw [← he]
    exact List.mem_cons_self
  exact absurd (bucket.id_lt key _ hmem) (Nat.lt_irrefl _)

theorem uploadTarget_fits (common : ObjectCommon) {config : S3Config} (hsized : config.Sized)
    (key : String) {stream : Bytes} (retention : Option RetentionRecord)
    (hparts : stream.length ≤ S3_MAX_MULTIPART_PARTS * config.multipartPartBytes)
    (hthreshold : config.multipartThresholdBytes ≤ stream.length) :
    ((⟨common, config⟩ : S3Transport).uploadTarget key stream.length
      ((⟨common, config⟩ : S3Transport).useChecksum retention)).Fits stream := by
  have hmin : 0 < S3_MIN_MULTIPART_PART_BYTES := by decide
  have hsize : 0 < config.multipartPartBytes := Nat.lt_of_lt_of_le hmin hsized.part_min
  constructor
  · exact (UploadTarget.expectedParts_le_iff _ hsize _ (by decide)).mpr hparts
  · exact hsize
  · exact Nat.lt_of_lt_of_le hmin (hsized.threshold_min.trans hthreshold)

-- On the multipart path nothing keeps the object that is there.
theorem putsFile_replaces (common : ObjectCommon) (provider : Provider) {config : S3Config}
    (hsized : config.Sized) {key : String} {stream : Bytes} {contentType : String}
    {metadata : List (String × String)} {retention : Option RetentionRecord} {createOnly : Bool}
    {bucket : Bucket} {arguments : WriteArguments}
    (hparts : stream.length ≤ S3_MAX_MULTIPART_PARTS * config.multipartPartBytes)
    (hsize : stream.length ≤ config.maxObjectBytes)
    (harguments : (⟨common, config⟩ : S3Transport).writeArguments retention = .ok arguments)
    (hthreshold : config.multipartThresholdBytes ≤ stream.length) :
    ((⟨common, config⟩ : S3Transport).putsFile provider key stream contentType metadata retention
      createOnly bucket).2.entries key ≠ bucket.entries key := by
  obtain ⟨stored, after, hrun, hsame⟩ := S3Transport.putsFile_stored ⟨common, config⟩ provider
    key contentType metadata createOnly bucket hsize harguments
    (uploadTarget_fits common hsized key retention hparts)
    fun hlt => absurd hthreshold (Nat.not_le_of_lt hlt)
  rw [hrun]
  exact put_entries_ne hsame

-- The paths of two configurations that differ in the threshold only.
theorem put_file_paths_agree_iff (urlsplit : String → Except Failure SplitResult)
    (common : ObjectCommon) (provider : Provider) (raw other first : S3Config) (threshold : Nat)
    (hfirst : raw.postInit urlsplit = .ok first)
    (hsecond : other.postInit urlsplit =
      .ok { first with multipartThresholdBytes := threshold })
    (key : String) (stream : Bytes) (contentType : String) (metadata : List (String × String))
    (retention : Option RetentionRecord) (createOnly : Bool) (bucket : Bucket)
    (hparts : stream.length ≤ S3_MAX_MULTIPART_PARTS * first.multipartPartBytes) :
    PathsAgree key createOnly bucket
      ((⟨common, first⟩ : S3Transport).putsFile provider key stream contentType metadata retention
        createOnly bucket)
      ((⟨common, { first with multipartThresholdBytes := threshold }⟩ : S3Transport).putsFile
        provider key stream contentType metadata retention createOnly bucket) ↔
      (createOnly = true → (bucket.current key).isSome = true →
        stream.length ≤ first.maxObjectBytes →
        (∃ arguments, (⟨common, first⟩ : S3Transport).writeArguments retention = .ok arguments) →
          stream.length < first.multipartThresholdBytes ∧ stream.length < threshold) := by
  have hleft := S3Config.postInit_sized hfirst
  have hright := S3Config.postInit_sized hsecond
  by_cases hsize : stream.length ≤ first.maxObjectBytes
  · cases harguments : (⟨common, first⟩ : S3Transport).writeArguments retention with
    | error failure =>
        have hother : (⟨common, { first with multipartThresholdBytes := threshold }⟩ :
            S3Transport).writeArguments retention = .error failure := harguments
        rw [S3Transport.putsFile_unargued _ provider hsize harguments,
          S3Transport.putsFile_unargued _ provider hsize hother]
        exact ⟨(fun _ _ _ _ ⟨_, h⟩ => nomatch h), fun _ => .refused failure⟩
    | ok arguments =>
        have hother : (⟨common, { first with multipartThresholdBytes := threshold }⟩ :
            S3Transport).writeArguments retention = .ok arguments := harguments
        have hfits := uploadTarget_fits common hleft key retention hparts
        have hotherFits := uploadTarget_fits common hright key retention hparts
        constructor
        · intro hagree hcreate hcurrent _ _
          have hkept := hagree.kept hcreate hcurrent
          constructor
          · by_contra hover
            exact putsFile_replaces common provider hleft hparts hsize harguments
              (Nat.le_of_not_lt hover) hkept.1
          · by_contra hover
            exact putsFile_replaces common provider hright hparts hsize hother
              (Nat.le_of_not_lt hover) hkept.2
        · intro hbelow
          by_cases hblocked : createOnly = true ∧ (bucket.current key).isSome = true
          · obtain ⟨hfirstBelow, hsecondBelow⟩ :=
              hbelow hblocked.1 hblocked.2 hsize ⟨arguments, rfl⟩
            rw [S3Transport.putsFile_refused _ provider hsize harguments hfirstBelow hblocked.1
                hblocked.2,
              S3Transport.putsFile_refused _ provider hsize hother hsecondBelow hblocked.1
                hblocked.2]
            exact .refused _
          · obtain ⟨stored, after, hrun, hsame⟩ := S3Transport.putsFile_stored ⟨common, first⟩
              provider key contentType metadata createOnly bucket hsize harguments hfits
              fun _ => hblocked
            obtain ⟨otherStored, otherAfter, hotherRun, hotherSame⟩ :=
              S3Transport.putsFile_stored ⟨common, { first with multipartThresholdBytes := threshold }⟩
                provider key contentType metadata createOnly bucket hsize hother hotherFits
                fun _ => hblocked
            rw [hrun, hotherRun]
            exact .stored hblocked hsame hotherSame
  · have hover : first.maxObjectBytes < stream.length := Nat.lt_of_not_le hsize
    rw [S3Transport.putsFile_oversized ⟨common, first⟩ provider hover,
      S3Transport.putsFile_oversized ⟨common, { first with multipartThresholdBytes := threshold }⟩
        provider hover]
    exact ⟨(fun _ _ _ hle => absurd hle hsize), fun _ => .refused _⟩

namespace Standard

-- A bucket in which the blob key is taken.
def taken : Bucket := (Store.empty false).put "blob" ⟨⟨"text/plain", [], {}⟩, [1]⟩

end Standard

theorem sample_paths_agree_iff :
    Standard.config.postInit Standard.noSplit = .ok Standard.config ∧
      Standard.higher.postInit Standard.noSplit = .ok Standard.higher ∧
      (PathsAgree "blob" true Standard.taken
        ((⟨Standard.common, Standard.config⟩ : S3Transport).putsFile Standard.provider "blob"
          Standard.heavy "text/plain" [] none true Standard.taken)
        ((⟨Standard.common, Standard.higher⟩ : S3Transport).putsFile Standard.provider "blob"
          Standard.heavy "text/plain" [] none true Standard.taken) ↔
        (true = true → (Standard.taken.current "blob").isSome = true →
          Standard.heavy.length ≤ Standard.config.maxObjectBytes →
          (∃ arguments, (⟨Standard.common, Standard.config⟩ : S3Transport).writeArguments none =
            .ok arguments) →
            Standard.heavy.length < Standard.config.multipartThresholdBytes ∧
              Standard.heavy.length < 6 * MIB)) :=
  ⟨Standard.config_accepted, Standard.higher_accepted,
    put_file_paths_agree_iff Standard.noSplit Standard.common Standard.provider Standard.config
      Standard.higher Standard.config (6 * MIB) Standard.config_accepted Standard.higher_accepted
      "blob" Standard.heavy "text/plain" [] none true Standard.taken
      (by rw [Standard.heavy_length]; decide)⟩

-- The create-only write of a payload at the threshold replaces the object that is there.
theorem create_only_multipart_replaces :
    ¬PathsAgree "blob" true Standard.taken
      ((⟨Standard.common, Standard.config⟩ : S3Transport).putsFile Standard.provider "blob"
        Standard.heavy "text/plain" [] none true Standard.taken)
      ((⟨Standard.common, Standard.higher⟩ : S3Transport).putsFile Standard.provider "blob"
        Standard.heavy "text/plain" [] none true Standard.taken) := by
  intro hagree
  have hcurrent : (Standard.taken.current "blob").isSome = true := by
    rw [Standard.taken, Store.put_current_self]
    rfl
  have hsized := S3Config.postInit_sized Standard.config_accepted
  have harguments : (⟨Standard.common, Standard.config⟩ : S3Transport).writeArguments none =
      .ok ⟨none, none, none⟩ := rfl
  apply putsFile_replaces Standard.common Standard.provider hsized _ _ harguments _
    (hagree.kept rfl hcurrent).1
  all_goals rw [Standard.heavy_length]
  all_goals decide

end MeridianS3
