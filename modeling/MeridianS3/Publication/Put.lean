import MeridianS3.Adapter.Rules
import MeridianS3.Publication
import MeridianS3.Records.Reading
import MeridianS3.Spool.Theorems

namespace MeridianS3

open Effect ObjectStore Json

-- The byte strings that a put hashes are kept account of.
structure PutRequest.Hashes (request : PutRequest) (hashed : Set Bytes) : Prop where
  objectId : ObjectCommon.encodeUtf8 request.input.objectId ∈ hashed
  content : ∀ payload writes, request.transfer payload = .ok writes → writes.flatten ∈ hashed

namespace S3ObjectAdapter

variable {adapter : S3ObjectAdapter} {provider : Provider} {request : PutRequest}
variable {owned : Set Nat} {state : Bucket}

section Intent

variable {discipline : Discipline S3 Failure String ObjectHeader UInt8}

-- Where a put takes its intent from.
structure Intends (adapter : S3ObjectAdapter) (request : PutRequest) (profile : Value)
    (intent : PutIntent) : Prop where
  mutability : adapter.common.effectiveImmutability profile request.input.immutability =
    .ok intent.mutability
  retention : ∃ wanted, RetentionRecord.fromRequest wanted adapter.config = .ok intent.retention

theorem putIntent_rule {post : Except Failure PutIntent → Set Nat → Bucket → Prop}
    (hok : ∀ intent profile after, discipline.others state after →
      Intends adapter request profile intent →
      ((∀ seen, discipline.others state seen →
        seen.current (adapter.layout.resourceKey request.resource) = none) →
        profile = adapter.common.defaultProfile) →
      post (.ok intent) owned after)
    (herror : ∀ failure after, discipline.others state after → post (.error failure) owned after) :
    Verified provider.handle discipline.protocol (adapter.putIntent request) owned state post := by
  apply Verified.seq
  apply resourceProfile_rule
  case herror => exact fun failure after hafter => Verified.done (herror failure after hafter)
  intro profile middle hmiddle hdefault
  apply Verified.seq
  apply Verified.lift
  cases hmutability : adapter.common.effectiveImmutability profile request.input.immutability with
  | error failure => exact Verified.done (herror failure middle hmiddle)
  | ok mutability =>
  apply Verified.seq
  apply Verified.lift
  cases parseRetentionRequest adapter.common request.input.retention with
  | error failure => exact Verified.done (herror failure middle hmiddle)
  | ok wanted =>
  apply Verified.seq
  apply Verified.lift
  cases hretention : RetentionRecord.fromRequest wanted adapter.config with
  | error failure => exact Verified.done (herror failure middle hmiddle)
  | ok retention =>
  apply Verified.seq
  apply Verified.lift
  cases frozenMapping request.input.creationContext "creationContext" with
  | error failure => exact Verified.done (herror failure middle hmiddle)
  | ok creationContext =>
  apply Verified.seq
  apply Verified.lift
  cases adapter.rawProvenance request.input.provenance with
  | error failure => exact Verified.done (herror failure middle hmiddle)
  | ok provenance =>
  -- The first look at the latest version decides no more than whether to go on.
  have hrest (existing : Option StoredEnvelope) (after : Bucket)
      (hafter : discipline.others state after) :
      Verified provider.handle discipline.protocol
        (do
          if existing.isSome ∧ request.input.createOnly then
            throw (.meridian .conditionalConflict (some "create-only Object id already exists"))
          let rawPayload ← Program.lift (jsonMapping request.input.payload "payload")
          let payload ← Program.lift (adapter.common.payloadReferenceFromMapping rawPayload)
          return (⟨mutability, retention, creationContext, provenance, payload⟩ : PutIntent))
        owned after post := by
    split
    · exact Verified.done (herror _ after hafter)
    · apply Verified.seq
      apply Verified.lift
      cases jsonMapping request.input.payload "payload" with
      | error failure => exact Verified.done (herror failure after hafter)
      | ok rawPayload =>
          apply Verified.seq
          apply Verified.lift
          cases adapter.common.payloadReferenceFromMapping rawPayload with
          | error failure => exact Verified.done (herror failure after hafter)
          | ok payload =>
              exact Verified.done
                (hok _ profile after hafter ⟨hmutability, wanted, hretention⟩ hdefault)
  apply Verified.seq
  apply tryLatest_rule
  · intro envelope digest first second hfirst _ _ hsecond _ _
    exact hrest _ second (discipline.others_trans _ _ _ hmiddle
      (discipline.others_trans _ _ _ hfirst hsecond))
  · intro result after hafter _
    have hothers := discipline.others_trans _ _ _ hmiddle hafter
    cases result with
    | error failure => exact Verified.done (herror failure after hothers)
    | ok existing => exact hrest existing after hothers

end Intent

section Steps

variable {hashed : Set Bytes} {sealed : HexDigest → HexDigest → Prop}
variable {company : Company provider adapter.layout hashed sealed}

-- A put has stored the blob of its content, and it is still there.
structure BlobStored (adapter : S3ObjectAdapter) (provider : Provider) (hashed : Set Bytes)
    (request : PutRequest) (content : Bytes) (stored : StoredObject) (bucket : Bucket) : Prop where
  version : stored.versionId.isSome = bucket.versioned
  blob : adapter.layout.CollisionFree hashed → ∃ blob, provider.fetch bucket
    (adapter.layout.path (.blob (adapter.layout.resourceToken request.resource)
      (adapter.layout.objectToken request.input.objectId) (adapter.common.hexdigest content)))
    stored.versionId = some blob ∧ blob.body = content

theorem BlobStored.kept {content : Bytes} {stored : StoredObject} {before after : Bucket}
    (h : adapter.BlobStored provider hashed request content stored before)
    (hpublishes : Publishes provider adapter.layout hashed sealed before after) :
    adapter.BlobStored provider hashed request content stored after := by
  refine ⟨h.version.trans hpublishes.versioned.symm, fun hfree => ?_⟩
  obtain ⟨blob, hfetch, hbody⟩ := h.blob hfree
  obtain ⟨found, hfound, hsame⟩ := hpublishes.blobs hfree _ _ _ _ _ hfetch
  exact ⟨found, hfound, hsame.trans hbody⟩

theorem storeBlob_rule {intent : PutIntent} {content : Bytes} (hcontent : content ∈ hashed)
    {post : Except Failure StoredObject → Set Nat → Bucket → Prop}
    (hok : ∀ stored held after, Publishes provider adapter.layout hashed sealed state after →
      adapter.BlobStored provider hashed request content stored after →
      post (.ok stored) held after)
    (herror : ∀ failure held after, Publishes provider adapter.layout hashed sealed state after →
      post (.error failure) held after) :
    Verified provider.handle (publication company).protocol
      (adapter.storeBlob request intent (adapter.common.identity content) content) owned state
        post := by
  have hrefl : Publishes provider adapter.layout hashed sealed state state := .same (.refl state)
  have hkey : adapter.layout.blobKey request.resource request.input.objectId
      (adapter.common.digest content) = .ok (adapter.layout.path
        (.blob (adapter.layout.resourceToken request.resource)
          (adapter.layout.objectToken request.input.objectId) (adapter.common.hexdigest content))) :=
    S3Layout.blobKey_digest ..
  unfold storeBlob
  simp only [ObjectCommon.identity_digest, ObjectCommon.identity_byteLength, hkey]
  unfold S3Transport.putFile
  apply Verified.seq
  apply Verified.lift
  simp only [Program.onOk]
  split
  · exact Verified.done (herror _ owned state hrefl)
  apply Verified.seq
  apply Verified.lift
  cases adapter.transport.writeArguments intent.retention with
  | error failure => exact Verified.done (herror failure owned state hrefl)
  | ok arguments =>
  -- The transfer ends with the blob stored, and the verification only reads.
  have hverify (stored : StoredObject) (held : Set Nat) (middle : Bucket)
      (hmiddle : Publishes provider adapter.layout hashed sealed state middle)
      (hstored : adapter.BlobStored provider hashed request content stored middle) :
      Verified provider.handle (publication company).protocol
        (do
          if adapter.transport.config.verifyAfterWrite then
            adapter.transport.verifyDigest (adapter.layout.path
              (.blob (adapter.layout.resourceToken request.resource)
                (adapter.layout.objectToken request.input.objectId)
                (adapter.common.hexdigest content)))
              (adapter.common.digest content) content.length stored.versionId
          return stored) held middle post := by
    split
    · apply Verified.seq
      apply Discipline.observe (S3Transport.verifyDigest_within _ trivial _ _ _)
        provider.handle_reads
      intro result after hothers
      have hafter := company.publishes _ _ hothers
      have hwhole := hmiddle.trans hafter
      cases result with
      | error failure => exact Verified.done (herror failure held after hwhole)
      | ok verified => exact Verified.done (hok stored held after hwhole (hstored.kept hafter))
    · exact Verified.done (hok stored held middle hmiddle hstored)
  apply Verified.seq
  apply normalized_rule
  apply S3Transport.storeFile_rule
  · intro _ _ failure held after hafter
    exact Verified.done (herror _ held after (company.publishes _ _ hafter))
  · intro _ before hbefore _ _ failure
    exact Verified.done (herror _ owned before (company.publishes _ _ hbefore))
  · intro _ _ failure held after _ _ hafter _
    exact Verified.done (herror _ held after (company.publishes _ _ hafter))
  · intro held before after hothers hsound _ _ hsame
    have hbefore := company.publishes _ _ hothers
    have hproper : adapter.layout.Proper hashed before.versioned
        (.blob (adapter.layout.resourceToken request.resource)
          (adapter.layout.objectToken request.input.objectId) (adapter.common.hexdigest content))
        ⟨⟨request.input.mediaType, blobMetadata (adapter.common.identity content), arguments⟩,
          content⟩ :=
      ⟨hcontent, rfl, adapter.blobMetadata_identity content⟩
    have hput := hsound.put hproper fun h => h.elim
    have hpublishes : Publishes provider adapter.layout hashed sealed before _ :=
      Publishes.put hsound hproper (fun h => h.elim) (by simp) (by simp) (by simp)
    have hafter := hpublishes.trans (.same hsame)
    refine ⟨hput.same hsame, hafter, ?_, ?_⟩
    · intro stored hversion
      apply hverify stored held after (hbefore.trans hafter)
      constructor
      · rw [hversion, hsame.versioned, Store.put_versioned, Provider.reportedVersion]
        split <;> simp [*]
      · intro _
        refine ⟨⟨⟨request.input.mediaType, blobMetadata (adapter.common.identity content),
          arguments⟩, content⟩, ?_, rfl⟩
        rw [provider.fetch_congr hsame.versioned (by rw [hsame.entries]), hversion]
        exact provider.fetch_put_reported before _ _
    · intro _ _ failure final _ _ _ hfinal
      exact Verified.done (herror _ held final
        (hbefore.trans (hafter.trans (company.publishes _ _ hfinal))))

theorem newEnvelope_envelopeOf {intent : PutIntent} {content : Bytes} {chunks : List String}
    {versionId : Option String} {versioned : Bool} (hobject : ObjectCommon.encodeUtf8
      request.input.objectId ∈ hashed)
    (hretention : ∃ wanted, RetentionRecord.fromRequest wanted adapter.config =
      .ok intent.retention) (hversion : versionId.isSome = versioned) :
    adapter.layout.EnvelopeOf hashed versioned
      (adapter.layout.objectToken request.input.objectId) (adapter.common.hexdigest content)
      (adapter.newEnvelope request intent (adapter.common.identity content) chunks versionId) where
  canonical := by
    apply StoredEnvelope.toDict_canonical
    · exact Value.ofOption_canonical versionId
    · intro record hrecord
      obtain ⟨wanted, hwanted⟩ := hretention
      have he : intent.retention = some record := hrecord
      rw [he] at hwanted
      exact RetentionRecord.fromRequest_canonical hwanted
  hashed := hobject
  object := rfl
  digest := rfl
  version := ⟨versionId, rfl, hversion⟩

theorem publishReference_rule {intent : PutIntent} {content : Bytes} {chunks : List String}
    {stored : StoredObject} (hobject : ObjectCommon.encodeUtf8 request.input.objectId ∈ hashed)
    (hretention : ∃ wanted, RetentionRecord.fromRequest wanted adapter.config =
      .ok intent.retention)
    (hstored : adapter.BlobStored provider hashed request content stored state)
    {post : Except Failure Unit → Set Nat → Bucket → Prop}
    (hok : ∀ after, Publishes provider adapter.layout hashed sealed state after →
      adapter.layout.Recorded after (adapter.layout.resourceToken request.resource)
        (adapter.layout.objectToken request.input.objectId) (adapter.common.hexdigest content)
        (adapter.newEnvelope request intent (adapter.common.identity content) chunks stored.versionId) →
      post (.ok ()) owned after)
    (herror : ∀ failure after, Publishes provider adapter.layout hashed sealed state after →
      post (.error failure) owned after) :
    Verified provider.handle (publication company).protocol
      (adapter.publishReference request intent (adapter.common.identity content) chunks stored)
        owned state post := by
  have hkey : adapter.layout.referenceKey request.resource request.input.objectId
      (adapter.common.digest content) = .ok (adapter.layout.path
        (.reference (adapter.layout.resourceToken request.resource)
          (adapter.layout.objectToken request.input.objectId) (adapter.common.hexdigest content))) :=
    S3Layout.referenceKey_digest ..
  unfold publishReference
  simp only [ObjectCommon.identity_digest, hkey]
  apply Verified.seq
  apply Verified.lift
  apply Verified.seq
  apply S3Transport.putJson_rule
  · exact fun failure _ => Verified.done (herror failure state (.same (.refl state)))
  · intro arguments before hothers _ _ _
    have hbefore := company.publishes _ _ hothers
    exact ⟨Verified.done (herror _ before hbefore),
      fun fault _ => Verified.done (herror _ before hbefore)⟩
  · intro arguments before after hothers hsound _ hfree he
    have hbefore := company.publishes _ _ hothers
    have hblob := hstored.kept hbefore
    have henvelope : adapter.layout.EnvelopeOf hashed before.versioned
        (adapter.layout.objectToken request.input.objectId) (adapter.common.hexdigest content)
        (adapter.newEnvelope request intent (adapter.common.identity content) chunks stored.versionId) :=
      newEnvelope_envelopeOf hobject hretention hblob.version
    have hnone : before.current (adapter.layout.path
        (.reference (adapter.layout.resourceToken request.resource)
          (adapter.layout.objectToken request.input.objectId)
          (adapter.common.hexdigest content))) = none := by
      simpa using hfree
    have hproper : adapter.layout.Proper hashed before.versioned
        (.reference (adapter.layout.resourceToken request.resource)
          (adapter.layout.objectToken request.input.objectId) (adapter.common.hexdigest content))
        (adapter.transport.jsonObject ((adapter.newEnvelope request intent (adapter.common.identity content) chunks
          stored.versionId).toDict adapter.common) arguments) :=
      ⟨_, henvelope, rfl⟩
    have hpublishes : Publishes provider adapter.layout hashed sealed before after := by
      rw [he]
      apply Publishes.put hsound hproper (fun _ => hnone) (by simp)
      · intro resource object found hfound hcollision
        cases hfound
        obtain ⟨blob, hfetch, hbody⟩ := hblob.blob hcollision
        exact ⟨_, stored.versionId, blob, rfl, henvelope.canonical, rfl, hfetch, by rw [hbody]; rfl⟩
      · simp
    refine ⟨he ▸ hsound.put hproper fun _ => hnone, hpublishes, ?_, ?_⟩
    · intro written
      apply Verified.done
      apply hok after (hbefore.trans hpublishes)
      rw [he]
      exact ⟨henvelope.canonical, _, Store.put_current_self .., rfl⟩
    · intro fault _
      split
      · exact Verified.done (herror _ _ (hbefore.trans hpublishes))
      · exact Verified.done (herror _ _ hbefore)

-- An orphan record is of no concern to the rest of the bucket.
theorem recordOrphan_rule {digest reason : String} {observedAt : Timestamp}
    {post : Except Failure Unit → Set Nat → Bucket → Prop}
    (h : ∀ result after, Publishes provider adapter.layout hashed sealed state after →
      post result owned after) :
    Verified provider.handle (publication company).protocol
      (adapter.recordOrphan request.resource request.input.objectId digest reason observedAt)
      owned state post := by
  have hcaught (result : Except Failure Unit) (after : Bucket)
      (hafter : Publishes provider adapter.layout hashed sealed state after) :
      Verified provider.handle (publication company).protocol
        (Program.onError (fun failure => if failure.is .conditionalConflict then pure ()
          else throw failure) result) owned after post := by
    cases result with
    | ok value => exact Verified.done (h _ after hafter)
    | error failure =>
        simp only [Program.onError]
        split <;> exact Verified.done (h _ after hafter)
  have hrefl : Publishes provider adapter.layout hashed sealed state state := .same (.refl state)
  unfold recordOrphan
  apply Verified.seq
  apply Verified.lift
  cases hhex : digestHex digest with
  | error failure =>
      simp only [S3Layout.orphanKey, hhex]
      exact Verified.done (h _ state hrefl)
  | ok content =>
      rw [digestHex_eq_ok hhex, S3Layout.orphanKey_digest]
      apply Verified.recover
      apply Verified.seq
      apply S3Transport.putJson_rule
      · exact fun failure _ => hcaught (.error failure) state hrefl
      · intro arguments before hothers _ _ _
        have hbefore := company.publishes _ _ hothers
        exact ⟨hcaught (.error _) before hbefore, fun fault _ => hcaught (.error _) before hbefore⟩
      · intro arguments before after hothers hsound _ hfree he
        have hbefore := company.publishes _ _ hothers
        have hnone : before.current (adapter.layout.path
            (.orphan (adapter.layout.resourceToken request.resource)
              (adapter.layout.objectToken request.input.objectId) content)) = none := by
          simpa using hfree
        have hpublishes : Publishes provider adapter.layout hashed sealed before after := by
          rw [he]
          exact Publishes.put hsound trivial (fun _ => hnone) (by simp) (by simp) (by simp)
        refine ⟨he ▸ hsound.put trivial fun _ => hnone, hpublishes, ?_, ?_⟩
        · exact fun written => hcaught (.ok ()) _ (hbefore.trans hpublishes)
        · intro fault _
          split
          · exact hcaught (.error _) _ (hbefore.trans hpublishes)
          · exact hcaught (.error _) _ hbefore

theorem publishLatest_rule {intent : PutIntent} {content : HexDigest}
    (hstored : state.entries (adapter.layout.path
      (.reference (adapter.layout.resourceToken request.resource)
        (adapter.layout.objectToken request.input.objectId) content)) ≠ [])
    (hsealed : sealed (adapter.layout.resourceToken request.resource)
      (adapter.layout.objectToken request.input.objectId) →
      latestCreateOnly request intent = true)
    {post : Except Failure Unit → Set Nat → Bucket → Prop}
    (hok : ∀ after, Publishes provider adapter.layout hashed sealed state after →
      adapter.layout.Points after (adapter.layout.resourceToken request.resource)
        (adapter.layout.objectToken request.input.objectId) content → post (.ok ()) owned after)
    (herror : ∀ failure after, Publishes provider adapter.layout hashed sealed state after →
      post (.error failure) owned after) :
    Verified provider.handle (publication company).protocol
      (adapter.publishLatest request intent content.digest) owned state post := by
  have hlost (failure : Failure) (before : Bucket)
      (hbefore : Publishes provider adapter.layout hashed sealed state before) :
      Verified provider.handle (publication company).protocol
        (if failure.is .conditionalConflict then do
          let winner ← adapter.tryLatest request.resource request.input.objectId
          if ¬winner.any fun winner => winner.metadata.digest = content.digest then
            adapter.recordOrphan request.resource request.input.objectId content.digest
              "latest-conflict" request.observedAt
          throw (.meridian .conditionalConflict
            (some "logical Object publication lost a conditional race"))
        else throw failure : S3M Unit) owned before post := by
    split
    · have hrest (winner : Option StoredEnvelope) (after : Bucket)
          (hafter : Publishes provider adapter.layout hashed sealed state after) :
          Verified provider.handle (publication company).protocol
            (do
              if ¬winner.any fun winner => winner.metadata.digest = content.digest then
                adapter.recordOrphan request.resource request.input.objectId content.digest
                  "latest-conflict" request.observedAt
              throw (.meridian .conditionalConflict
                (some "logical Object publication lost a conditional race")) : S3M Unit)
            owned after post := by
        split
        · apply Verified.seq
          apply recordOrphan_rule
          intro result final hfinal
          cases result <;> exact Verified.done (herror _ final (hafter.trans hfinal))
        · exact Verified.done (herror _ after hafter)
      apply Verified.seq
      apply tryLatest_rule
      · intro envelope digest first second hfirst _ _ hsecond _ _
        exact hrest _ second (hbefore.trans
          (company.publishes _ _ (company.trans _ _ _ hfirst hsecond)))
      · intro result after hothers _
        have hafter := hbefore.trans (company.publishes _ _ hothers)
        cases result with
        | error failure => exact Verified.done (herror _ after hafter)
        | ok winner => exact hrest winner after hafter
    · exact Verified.done (herror _ before hbefore)
  apply Verified.recover
  apply Verified.seq
  apply S3Transport.putJson_rule
  · exact fun failure _ => hlost failure state (.same (.refl state))
  · intro arguments before hothers _ _ _
    have hbefore := company.publishes _ _ hothers
    exact ⟨Verified.done (hlost S3Transport.refusedWrite before hbefore),
      fun fault _ => Verified.done (hlost _ before hbefore)⟩
  · intro arguments before after hothers hsound _ hfree he
    have hbefore := company.publishes _ _ hothers
    have hproper : adapter.layout.Proper hashed before.versioned
        (.latest (adapter.layout.resourceToken request.resource)
          (adapter.layout.objectToken request.input.objectId))
        (adapter.transport.jsonObject (latestValue content.digest) arguments) := ⟨content, rfl⟩
    have hput : adapter.layout.Sound hashed after := he ▸ hsound.put hproper fun h => h.elim
    have hpublishes : Publishes provider adapter.layout hashed sealed before after := by
      rw [he]
      apply Publishes.put hsound hproper (fun h => h.elim) (by simp) (by simp)
      intro resource object hlatest
      cases hlatest
      refine ⟨fun hs => ?_, content, rfl, hbefore.references_kept hstored⟩
      rw [← hsound.current_eq_none_iff]
      simpa [hsealed hs, latestKey_eq] using hfree
    have hpoints : adapter.layout.Points after (adapter.layout.resourceToken request.resource)
        (adapter.layout.objectToken request.input.objectId) content := by
      rw [he]
      exact ⟨_, Store.put_current_self .., rfl⟩
    refine ⟨hput, hpublishes, ?_, ?_⟩
    · exact fun written => Verified.done (hok _ (hbefore.trans hpublishes) hpoints)
    · intro fault _
      split
      · exact hlost _ _ (hbefore.trans hpublishes)
      · exact hlost _ _ hbefore

theorem checkExisting_some {intent : PutIntent} {digest : String} {latest : StoredEnvelope}
    {metadata : ObjectMetadata}
    (h : checkExisting request intent digest (some latest) = .ok (some metadata)) :
    metadata = latest.metadata ∧ latest.metadata.digest = digest := by
  simp only [checkExisting] at h
  split at h
  · cases h
  · split at h
    · rename_i hdigest
      cases hsame : requireIdempotentMetadata request intent latest with
      | error failure => simp [hsame, bind, Except.bind] at h
      | ok same =>
          simp only [hsame, bind, Except.bind, pure, Except.pure, Except.ok.injEq,
            Option.some.injEq] at h
          exact ⟨h.symm, hdigest⟩
    · split at h <;> cases h

-- What a put that has returned metadata has seen and left: the reference records the
-- metadata, and the pointer named it at some moment up to the return.
structure Committed {adapter : S3ObjectAdapter} {provider : Provider} {hashed : Set Bytes}
    {sealed : HexDigest → HexDigest → Prop}
    (company : Company provider adapter.layout hashed sealed) (request : PutRequest)
    (metadata : ObjectMetadata) (content : HexDigest) (seen after : Bucket) : Prop where
  since : company.others seen after
  points : adapter.layout.Points seen (adapter.layout.resourceToken request.resource)
    (adapter.layout.objectToken request.input.objectId) content
  digest : metadata.digest = content.digest
  object : metadata.objectRef.objectId = request.input.objectId
  recorded : ∃ envelope, envelope.metadata = metadata ∧
    adapter.layout.Recorded after (adapter.layout.resourceToken request.resource)
      (adapter.layout.objectToken request.input.objectId) content envelope

theorem Committed.later {metadata : ObjectMetadata} {content : HexDigest} {seen before after : Bucket}
    (h : Committed company request metadata content seen before)
    (hothers : company.others before after) :
    Committed company request metadata content seen after := by
  obtain ⟨envelope, hmetadata, hrecorded⟩ := h.recorded
  have hpublishes := company.publishes _ _ hothers
  exact ⟨company.trans _ _ _ h.since hothers, h.points, h.digest, h.object, envelope, hmetadata,
    S3Layout.recorded_congr (hpublishes.references _ _ _ (S3Layout.recorded_entries hrecorded))
      hrecorded⟩

-- A sealed object gets its pointer from a put that creates it.
theorem latestCreateOnly_sealed {intent : PutIntent} {profile : Value}
    (hsealed : sealed (adapter.layout.resourceToken request.resource)
      (adapter.layout.objectToken request.input.objectId) →
      request.input.createOnly = true ∨
      adapter.common.effectiveImmutability adapter.common.defaultProfile
        request.input.immutability = .ok .immutable ∧
      state.entries (adapter.layout.resourceKey request.resource) = [])
    (hintends : adapter.Intends request profile intent)
    (hdefault : (∀ seen, company.others state seen →
      seen.current (adapter.layout.resourceKey request.resource) = none) →
        profile = adapter.common.defaultProfile)
    (hs : sealed (adapter.layout.resourceToken request.resource)
      (adapter.layout.objectToken request.input.objectId)) :
    latestCreateOnly request intent = true := by
  rcases hsealed hs with hcreate | ⟨himmutable, hempty⟩
  · simp [latestCreateOnly, hcreate]
  · have hprofile : profile = adapter.common.defaultProfile := by
      apply hdefault
      intro seen hseen
      apply Store.current_eq_none
      exact ((company.publishes _ _ hseen).registered _).trans hempty
    have hmutability := hintends.mutability
    rw [hprofile, himmutable, Except.ok.injEq] at hmutability
    simp [latestCreateOnly, ← hmutability]

-- Up to the return of put_file: the latest version is what is put, or the blob is stored.
theorem putUpload_rule {intent : PutIntent} (hhashes : request.Hashes hashed)
    {post : Except Failure PutProgress → Set Nat → Bucket → Prop}
    (hidempotent : ∀ metadata content seen after,
      Committed company request metadata content seen after →
        post (.ok (.idempotent metadata)) owned after)
    (huploaded : ∀ content chunks stored held after,
      adapter.BlobStored provider hashed request content stored after →
        post (.ok (.uploaded (adapter.common.identity content) chunks stored)) held after)
    (herror : ∀ failure held after, post (.error failure) held after) :
    Verified provider.handle (publication company).protocol (adapter.putUpload request intent)
      owned state post := by
  rw [putUpload_eq]
  apply Verified.seq
  apply Verified.lift
  cases htransfer : request.transfer intent.payload with
  | error failure => exact Verified.done (herror failure owned state)
  | ok writes =>
  have hcontent := hhashes.content _ _ htransfer
  have hstream : ((IntegritySpool.new adapter.config.integrityChunkBytes).writeAll adapter.common
      writes).stream = writes.flatten := by
    rw [IntegritySpool.writeAll_stream]
    rfl
  simp only [Program.onOk, hstream]
  split
  · exact Verified.done (herror _ owned state)
  -- Once the second look at the latest version finds nothing to keep.
  have hupload (middle : Bucket) :
      Verified provider.handle (publication company).protocol
        (do
          let stored ← adapter.storeBlob request intent (adapter.common.identity writes.flatten)
            writes.flatten
          return .uploaded (adapter.common.identity writes.flatten)
            (((IntegritySpool.new adapter.config.integrityChunkBytes).writeAll adapter.common
              writes).finish adapter.common) stored : S3M PutProgress)
        owned middle post := by
    apply Verified.seq
    apply storeBlob_rule hcontent
    case herror => exact fun failure held after _ => Verified.done (herror failure held after)
    intro stored held stage _ hstored
    exact Verified.done (huploaded _ _ stored held stage hstored)
  apply Verified.seq
  apply tryLatest_rule
  · intro envelope digest first second hfirst hsoundFirst hdigest hsecond hsoundSecond henvelope
    cases hexisting : checkExisting request intent (adapter.common.digest writes.flatten)
        (some envelope) with
    | error failure =>
        simp only [Program.onOk, hexisting]
        exact Verified.done (herror failure owned second)
    | ok existing =>
        cases existing with
        | none =>
            simp only [Program.onOk, hexisting]
            exact hupload second
        | some metadata =>
            simp only [Program.onOk, hexisting]
            apply Verified.done
            obtain ⟨rfl, hdigest'⟩ := checkExisting_some hexisting
            obtain ⟨content, hcontentDigest, hpoints⟩ := latestDigest_ok hsoundFirst hdigest
            obtain ⟨other, hother, hrecorded, hobject, hfound⟩ :=
              envelopeAt_ok hsoundSecond henvelope
            rw [hcontentDigest, HexDigest.digest_inj] at hother
            subst hother
            exact hidempotent _ content first second ⟨hsecond, hpoints,
              hfound.trans hcontentDigest, hobject, envelope, rfl, hrecorded⟩
  · intro result after hafter hnone
    cases result with
    | error failure => exact Verified.done (herror failure owned after)
    | ok latest =>
        cases latest with
        | some envelope => exact absurd rfl (hnone envelope)
        | none => exact hupload after

-- Behind it: the reference records the blob, and the pointer names it.
theorem publish_rule {intent : PutIntent} {content : Bytes} {chunks : List String}
    {stored : StoredObject} (hobject : ObjectCommon.encodeUtf8 request.input.objectId ∈ hashed)
    (hretention : ∃ wanted, RetentionRecord.fromRequest wanted adapter.config =
      .ok intent.retention)
    (hcreateOnly : sealed (adapter.layout.resourceToken request.resource)
      (adapter.layout.objectToken request.input.objectId) → latestCreateOnly request intent = true)
    (hstored : adapter.BlobStored provider hashed request content stored state)
    {post : Except Failure ObjectMetadata → Set Nat → Bucket → Prop}
    (hok : ∀ metadata content seen after,
      Committed company request metadata content seen after → post (.ok metadata) owned after)
    (herror : ∀ failure after, post (.error failure) owned after) :
    Verified provider.handle (publication company).protocol
      (adapter.publish request intent (adapter.common.identity content) chunks stored)
        owned state post := by
  apply Verified.seq
  apply publishReference_rule hobject hretention hstored
  case herror => exact fun failure after _ => Verified.done (herror failure after)
  intro recorded _ hrecorded
  apply Verified.seq
  apply publishLatest_rule (S3Layout.recorded_entries hrecorded) hcreateOnly
  case herror => exact fun failure after _ => Verified.done (herror failure after)
  intro final hfinal hpoints
  apply Verified.done
  have hkept := S3Layout.recorded_congr
    (hfinal.references _ _ _ (S3Layout.recorded_entries hrecorded)) hrecorded
  exact hok _ (adapter.common.hexdigest content) final final
    ⟨company.same _ _ (.refl final), hpoints, rfl, rfl, _, rfl, hkept⟩

theorem put_rule (hhashes : request.Hashes hashed)
    (hsealed : sealed (adapter.layout.resourceToken request.resource)
      (adapter.layout.objectToken request.input.objectId) →
      request.input.createOnly = true ∨
      adapter.common.effectiveImmutability adapter.common.defaultProfile
        request.input.immutability = .ok .immutable ∧
      state.entries (adapter.layout.resourceKey request.resource) = []) :
    Verified provider.handle (publication company).protocol
      (adapter.put request) owned state fun result _ after =>
        ∀ metadata, result = .ok metadata →
          ∃ content seen, Committed company request metadata content seen
            after := by
  have hfailed (failure : Failure) (held : Set Nat) (after : Bucket) :
      Verified provider.handle (publication company).protocol
        (.done (.error failure) : S3M ObjectMetadata) held after fun result _ after =>
          ∀ metadata, result = .ok metadata →
            ∃ content seen, Committed company request metadata content seen
              after :=
    Verified.done fun _ h => by cases h
  unfold put
  apply Verified.seq
  apply putIntent_rule
  case herror => exact fun failure after _ => hfailed failure owned after
  intro intent profile start hstart hintends hdefault
  have hcreateOnly := latestCreateOnly_sealed hsealed hintends hdefault
  apply Verified.seq
  apply failing_rule
  apply putUpload_rule hhashes
  case herror => exact fun failure held after => hfailed _ held after
  case hidempotent =>
    intro metadata content seen after hcommitted
    apply Verified.done
    rintro found ⟨⟩
    exact ⟨content, seen, hcommitted⟩
  case huploaded =>
    intro content chunks stored held after hstored
    apply failing_rule
    apply publish_rule hhashes.objectId hintends.retention hcreateOnly hstored
    case herror => exact fun failure after => by rintro _ ⟨⟩
    case hok =>
      rintro metadata content seen final hcommitted _ ⟨⟩
      exact ⟨content, seen, hcommitted⟩

end Steps

end S3ObjectAdapter

end MeridianS3
