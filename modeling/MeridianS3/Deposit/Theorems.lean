import MeridianS3.Deposit
import MeridianS3.Removal.Theorems

namespace MeridianS3

open Effect ObjectStore Json

namespace S3ObjectAdapter

variable {adapter : S3ObjectAdapter} {provider : Provider} {request : PutRequest}
variable {bucket state : Bucket} {owned : Set Nat} {faults : S3Call → Fault Failure → Prop}

-- What the first half of a put comes to in a bucket that does not change.
theorem run_putIntent_ok {intent : PutIntent} :
    ((adapter.putIntent request).run provider.handle bucket).1 = .ok intent ↔
      (∃ profile, adapter.profileAt bucket request.resource = .ok profile ∧
        adapter.intentFrom profile request = .ok intent) ∧
      ∃ latest, missingAsNone (adapter.latestEnvelope bucket request.resource
        request.input.objectId) = .ok latest ∧ ¬(latest.isSome ∧ request.input.createOnly) := by
  have hlift {α β : Type} (result : Except Failure α) (next : α → S3M β) :
      ((Program.lift result >>= next).run provider.handle bucket).1 =
        result.bind fun value => ((next value).run provider.handle bucket).1 := by
    cases result <;> rfl
  have hbind {α β : Type} (result : Except Failure α) (next : α → Except Failure β) :
      (result >>= next) = result.bind next := rfl
  unfold putIntent intentFrom
  rw [Program.run_bind, run_resourceProfile]
  change (Program.run provider.handle (Program.onOk _
    (adapter.profileAt bucket request.resource)) bucket).1 = _ ↔ _
  cases adapter.profileAt bucket request.resource with
  | error failure => simp [Program.onOk]
  | ok profile =>
  simp only [Program.onOk, hlift, hbind, Except.ok.injEq, exists_eq_left']
  cases adapter.common.effectiveImmutability profile request.input.immutability with
  | error failure => simp [Except.bind]
  | ok mutability =>
  cases parseRetentionRequest adapter.common request.input.retention with
  | error failure => simp [Except.bind]
  | ok wanted =>
  simp only [Except.bind]
  cases RetentionRecord.fromRequest wanted adapter.config with
  | error failure => simp
  | ok retention =>
  cases frozenMapping request.input.creationContext "creationContext" with
  | error failure => simp
  | ok creationContext =>
  cases adapter.rawProvenance request.input.provenance with
  | error failure => simp
  | ok provenance =>
  dsimp only
  rw [Program.run_bind, run_tryLatest]
  cases missingAsNone (adapter.latestEnvelope bucket request.resource request.input.objectId) with
  | error failure => simp [Program.onOk]
  | ok latest =>
      simp only [Program.onOk, Except.ok.injEq, exists_eq_left']
      by_cases hcreate : latest.isSome = true ∧ request.input.createOnly = true
      · rw [if_pos hcreate]
        constructor
        · intro h
          cases h
        · exact fun h => absurd hcreate h.2
      · rw [if_neg hcreate]
        simp only [hlift, hcreate, not_false_eq_true, and_true]
        cases jsonMapping request.input.payload "payload" with
        | error failure => simp [Except.bind]
        | ok rawPayload =>
            simp only [Except.bind]
            cases adapter.common.payloadReferenceFromMapping rawPayload <;>
              simp [pure, Except.pure]

theorem putIntent_within {keys listings : String → Prop} (request : PutRequest)
    (hregistered : keys (adapter.layout.resourceKey request.resource))
    (hkeys : ∀ key, adapter.objectKey request.resource request.input.objectId key → keys key) :
    (adapter.putIntent request).Within (S3Call.reads keys listings) := by
  apply Program.Within.bind (adapter.resourceProfile_within request.resource hregistered)
  intro profile
  apply Program.Within.bind (.ofLift _)
  intro mutability
  apply Program.Within.bind (.ofLift _)
  intro wanted
  apply Program.Within.bind (.ofLift _)
  intro retention
  apply Program.Within.bind (.ofLift _)
  intro creationContext
  apply Program.Within.bind (.ofLift _)
  intro provenance
  apply Program.Within.bind (adapter.tryLatest_within _ _ hkeys)
  intro existing
  split
  · trivial
  · apply Program.Within.bind (.ofLift _)
    intro rawPayload
    exact Program.Within.bind (.ofLift _) fun _ => trivial

theorem putIntent_surfaces (request : PutRequest) :
    (adapter.putIntent request).Surfaces Failure.Outage := by
  have hfound (failure : Failure) (h : failure.Outage) : failure.is .objectNotFound = false :=
    h.not_notFound
  apply Program.Surfaces.bind
    (adapter.resourceProfile_surfaces request.resource Failure.lasting_outage hfound)
  intro profile
  apply Program.Surfaces.bind (.ofLift _)
  intro mutability
  apply Program.Surfaces.bind (.ofLift _)
  intro wanted
  apply Program.Surfaces.bind (.ofLift _)
  intro retention
  apply Program.Surfaces.bind (.ofLift _)
  intro creationContext
  apply Program.Surfaces.bind (.ofLift _)
  intro provenance
  apply Program.Surfaces.bind (adapter.tryLatest_surfaces _ _ Failure.lasting_outage hfound)
  intro existing
  split
  · trivial
  · apply Program.Surfaces.bind (.ofLift _)
    intro rawPayload
    exact Program.Surfaces.bind (.ofLift _) fun _ => trivial

-- The keys that a put reads before it writes: none of its object's blobs.
def notBlob (adapter : S3ObjectAdapter) (request : PutRequest) (key : String) : Prop :=
  ∀ content, key ≠ adapter.layout.path (.blob (adapter.layout.resourceToken request.resource)
    (adapter.layout.objectToken request.input.objectId) content)

theorem notBlob_registered (request : PutRequest) :
    adapter.notBlob request (adapter.layout.resourceKey request.resource) := by
  intro content h
  have hkey := PhysicalKey.render_injective adapter.layout.root h
  cases hkey

theorem notBlob_object (request : PutRequest) (key : String)
    (h : adapter.objectKey request.resource request.input.objectId key) :
    adapter.notBlob request key := by
  rintro content rfl
  rcases h with hlatest | ⟨digest, hreference⟩
  · have hkey := PhysicalKey.render_injective adapter.layout.root hlatest
    cases hkey
  · unfold S3Layout.referenceKey at hreference
    cases hhex : digestHex digest with
    | error failure => simp [hhex, bind, Except.bind] at hreference
    | ok hex =>
        simp only [hhex, bind, Except.bind, pure, Except.pure, Except.ok.injEq] at hreference
        have hkey := PhysicalKey.render_injective adapter.layout.root hreference
        cases hkey

theorem phaseAt_reads {call : S3Call}
    (h : call.reads (adapter.notBlob request) fun _ => False) (effect : Bool) (deposit : Deposit)
    (hadapter : deposit.adapter = adapter) (hrequest : deposit.request = request) :
    deposit.phaseAt effect call = .start := by
  cases call with
  | getObject key versionId range =>
      have hkey : key ≠ deposit.blobPath := by
        subst hadapter hrequest
        exact h deposit.hash
      simp [Deposit.phaseAt, hkey]
  | listObjectsV2 | headBucket | headObject | putObject | deleteObject | createMultipartUpload
  | uploadPart | completeMultipartUpload | abortMultipartUpload => exact absurd h id

theorem Settles.unique {intent intent' : PutIntent} {content content' : Bytes}
    {chunks chunks' : List String} {latest latest' : Option StoredEnvelope} {second : Bucket}
    (h : adapter.Settles request bucket intent content chunks latest)
    (hother : adapter.Settles request second intent' content' chunks' latest')
    (hprofile : adapter.profileAt second request.resource =
      adapter.profileAt bucket request.resource) :
    intent' = intent ∧ content' = content ∧ chunks' = chunks := by
  obtain ⟨profile, hfound, hintent⟩ := h.intends
  obtain ⟨profile', hfound', hintent'⟩ := hother.intends
  rw [hprofile, hfound, Except.ok.injEq] at hfound'
  subst hfound'
  rw [hintent, Except.ok.injEq] at hintent'
  subst hintent'
  obtain ⟨writes, htransfer, hstream, hchunks⟩ := h.transfer
  obtain ⟨writes', htransfer', hstream', hchunks'⟩ := hother.transfer
  rw [htransfer, Except.ok.injEq] at htransfer'
  subst htransfer'
  exact ⟨rfl, hstream'.symm.trans hstream, hchunks'.symm.trans hchunks⟩

theorem Settles.seen_unique {intent intent' : PutIntent} {content content' : Bytes}
    {chunks chunks' : List String} {latest latest' : Option StoredEnvelope}
    (h : adapter.Settles request bucket intent content chunks latest)
    (hother : adapter.Settles request bucket intent' content' chunks' latest') :
    latest' = latest := by
  have hseen := h.seen.symm.trans hother.seen
  rw [Except.ok.injEq] at hseen
  exact hseen.symm

-- One document write of a solo run, with the write arguments of a retention record.
theorem putDocument_solo {key : String} {value : Value} {createOnly : Bool}
    {retention : Option RetentionRecord} {arguments : WriteArguments}
    (harguments : adapter.transport.writeArguments retention = .ok arguments)
    (hstate : SameObjects bucket state)
    {post : Except Failure StoredObject → Set Nat → Bucket → Prop}
    (hblocked : createOnly = true ∧ (bucket.current key).isSome = true → ∀ failure after,
      SameObjects bucket after → post (.error failure) owned after)
    (hok : ¬(createOnly = true ∧ (bucket.current key).isSome = true) → ∀ stored after,
      SameObjects (bucket.put key (adapter.transport.jsonObject value arguments)) after →
      post (.ok stored) owned after)
    (hfault : ∀ call fault after, call.puts key → faults call fault →
      ¬(createOnly = true ∧ (bucket.current key).isSome = true) →
      SameObjects (if fault.effect then
        bucket.put key (adapter.transport.jsonObject value arguments) else bucket) after →
      post (.error (raiseNormalizedS3Error fault.error "metadata.put")) owned after) :
    Verified provider.handle (solo faults).protocol
      (adapter.transport.putJson key value createOnly retention) owned state post := by
  apply S3Transport.putJson_rule
  · intro failure h
    rw [harguments] at h
    cases h
  · intro given before hothers _ _ hb
    have hbefore := hstate.trans hothers
    rw [hbefore.current] at hb
    exact ⟨hblocked hb _ before hbefore, fun fault _ => hblocked hb _ before hbefore⟩
  · intro given before after hothers _ hgiven hfree he
    have hbefore := hstate.trans hothers
    rw [hbefore.current] at hfree
    rw [harguments, Except.ok.injEq] at hgiven
    have hafter : SameObjects (bucket.put key (adapter.transport.jsonObject value arguments))
        after := by
      rw [he, ← hgiven]
      exact SameObjects.put hbefore _ _
    refine ⟨trivial, trivial, fun stored => hok hfree stored after hafter, fun fault hf => ?_⟩
    apply hfault _ fault _ ⟨_, _, _, _, _, rfl⟩ hf hfree
    split
    · exact hafter
    · exact hbefore

end S3ObjectAdapter

namespace S3Layout.Beside

variable {layout : S3Layout} {first second third : Bucket}

theorem ofSame (layout : S3Layout) (h : SameObjects first second) :
    layout.Beside first second :=
  ⟨h.versioned, fun _ _ => congrFun h.entries _⟩

theorem same (h : layout.Beside first second) (hsame : SameObjects second third) :
    layout.Beside first third :=
  ⟨hsame.versioned.trans h.versioned, fun physical hphysical =>
    (congrFun hsame.entries _).trans (h.entries physical hphysical)⟩

theorem put_orphan (h : layout.Beside first second) (resource object content : HexDigest)
    (stored : StoredBody) :
    layout.Beside first (second.put (layout.path (.orphan resource object content)) stored) := by
  refine ⟨h.versioned, fun physical hphysical => ?_⟩
  have hne : layout.path physical ≠ layout.path (.orphan resource object content) :=
    fun he => hphysical resource object content (PhysicalKey.render_injective layout.root he)
  exact (Store.put_entries_of_ne second hne stored).trans (h.entries physical hphysical)

end S3Layout.Beside

namespace Deposit

variable {deposit : Deposit} {provider : Provider} {faults : S3Call → Fault Failure → Prop}
variable {owned : Set Nat} {bucket state : Bucket}

theorem referencePath_ne_blobPath (deposit : Deposit) :
    deposit.referencePath ≠ deposit.blobPath := by
  simp [referencePath, blobPath]

theorem latestPath_ne_blobPath (deposit : Deposit) : deposit.latestPath ≠ deposit.blobPath := by
  simp [latestPath, blobPath]

theorem latestPath_ne_referencePath (deposit : Deposit) :
    deposit.latestPath ≠ deposit.referencePath := by
  simp [latestPath, referencePath]

theorem phaseAt_blob {header : ObjectHeader} {body : Bytes} {length : Nat} {ifNoneMatch : Bool}
    {checksum : Option String} (deposit : Deposit) (effect : Bool) :
    deposit.phaseAt effect
      (.putObject deposit.blobPath header body length ifNoneMatch checksum) =
      if effect then .blob else .start := by
  simp [phaseAt]

theorem phaseAt_reference {call : S3Call} (h : call.puts deposit.referencePath) (effect : Bool) :
    deposit.phaseAt effect call = if effect then .reference else .blob := by
  obtain ⟨header, body, length, ifNoneMatch, checksum, rfl⟩ := h
  simp [phaseAt, referencePath_ne_blobPath]

theorem phaseAt_latest {call : S3Call} (h : call.puts deposit.latestPath) (effect : Bool) :
    deposit.phaseAt effect call = if effect then .pointer else .reference := by
  obtain ⟨header, body, length, ifNoneMatch, checksum, rfl⟩ := h
  simp [phaseAt, latestPath_ne_blobPath, latestPath_ne_referencePath]

-- The calls that carry the blob belong to its phase.
theorem stops_storeCall {retention : Option RetentionRecord} {call : S3Call} {effect : Bool}
    {phase : PutPhase}
    (hcall : deposit.adapter.transport.storeCall deposit.content.length
      (deposit.adapter.transport.fileCall deposit.blobPath deposit.content deposit.content.length
        deposit.hash.digest deposit.header retention true) call)
    (hphase : phase = .start ∨ phase = .blob)
    (hsingle : deposit.multipart = false → phase = if effect then .blob else .start) :
    deposit.Stops call effect phase := by
  unfold S3Transport.storeCall at hcall
  split at hcall
  · rename_i hthreshold
    exact Or.inr ⟨hcall, decide_eq_true hthreshold, hphase⟩
  · rename_i hthreshold
    left
    rw [hcall, hsingle (decide_eq_false hthreshold)]
    exact (deposit.phaseAt_blob effect).symm

-- The verification reads back what the transfer has stored.
theorem verify_solo (hstate : SameObjects (deposit.blobStored bucket) state)
    {stored : StoredObject} (hversion : stored.versionId =
      provider.reportedVersion bucket bucket.issued)
    {post : Except Failure StoredObject → Set Nat → Bucket → Prop}
    (hcut : ∀ call fault failure after, faults call fault →
      deposit.Stops call fault.effect .blob → SameObjects (deposit.blobStored bucket) after →
      post (.error failure) owned after)
    (hok : ∀ after, SameObjects (deposit.blobStored bucket) after → post (.ok stored) owned after) :
    Verified provider.handle (solo faults).protocol
      (do
        if deposit.adapter.transport.config.verifyAfterWrite then
          deposit.adapter.transport.verifyDigest deposit.blobPath
            (deposit.adapter.common.digest deposit.content) deposit.content.length
            stored.versionId
        return stored) owned state post := by
  split
  · apply Verified.seq
    apply solo_reading (S3Transport.verifyDigest_within _ (Eq.refl deposit.blobPath) _ _ _)
      (S3Transport.verifyDigest_surfaces _ Failure.lasting_any _ _ _ _)
      (fun _ _ _ _ => trivial) hstate
    · intro after hafter
      have hfetch : provider.fetch (deposit.blobStored bucket) deposit.blobPath
          stored.versionId = some ⟨deposit.header, deposit.content⟩ := by
        rw [hversion]
        exact provider.fetch_put_reported bucket _ _
      have hrun := deposit.adapter.transport.run_verifyDigest provider hfetch
      change (deposit.adapter.transport.verifyDigest deposit.blobPath
        (deposit.adapter.common.digest deposit.content) deposit.content.length
        stored.versionId).run provider.handle (deposit.blobStored bucket) = _ at hrun
      rw [hrun]
      exact Verified.done (hok after hafter)
    · intro call fault failure after hreads hf _ hafter
      apply Verified.done
      apply hcut call fault failure after hf _ hafter
      left
      cases call with
      | getObject key versionId range =>
          have hpath : key = deposit.blobPath := hreads.symm
          simp [phaseAt, hpath]
      | listObjectsV2 => exact absurd hreads id
      | headBucket | headObject | putObject | deleteObject | createMultipartUpload
      | uploadPart | completeMultipartUpload | abortMultipartUpload => exact absurd hreads id
  · exact Verified.done (hok state hstate)

-- The blob goes up, from the bucket in which everything was settled.
theorem storeBlob_solo (hfinds : deposit.Finds bucket) (hstate : SameObjects bucket state)
    {post : Except Failure StoredObject → Set Nat → Bucket → Prop}
    (hblocked : deposit.multipart = false → (bucket.current deposit.blobPath).isSome = true →
      ∀ failure held after, SameObjects bucket after → post (.error failure) held after)
    (hcut : ∀ call fault phase failure held after, faults call fault →
      deposit.Stops call fault.effect phase →
      SameObjects (deposit.reach provider bucket phase) after → post (.error failure) held after)
    (hok : ¬(deposit.multipart = false ∧ (bucket.current deposit.blobPath).isSome = true) →
      ∀ stored held after, stored.versionId = provider.reportedVersion bucket bucket.issued →
      SameObjects (deposit.blobStored bucket) after → post (.ok stored) held after) :
    Verified provider.handle (solo faults).protocol
      (deposit.adapter.storeBlob deposit.request deposit.intent deposit.identity deposit.content)
        owned state post := by
  obtain ⟨latest, hsettles, -⟩ := hfinds.settles
  have hkey : deposit.adapter.layout.blobKey deposit.request.resource
      deposit.request.input.objectId (deposit.adapter.common.digest deposit.content) =
      .ok deposit.blobPath := S3Layout.blobKey_digest ..
  have hsize : ¬deposit.adapter.transport.config.maxObjectBytes < deposit.content.length :=
    Nat.not_lt.mpr hsettles.size
  have hsingle (h : deposit.content.length <
      deposit.adapter.transport.config.multipartThresholdBytes) : deposit.multipart = false :=
    decide_eq_false (Nat.not_le.mpr h)
  unfold S3ObjectAdapter.storeBlob identity
  simp only [ObjectCommon.identity_digest, ObjectCommon.identity_byteLength, hkey]
  unfold S3Transport.putFile
  apply Verified.seq
  apply Verified.lift
  simp only [Program.onOk, if_neg hsize]
  apply Verified.seq
  apply Verified.lift
  rw [hfinds.arguments]
  apply Verified.seq
  apply normalized_rule
  apply S3Transport.storeFile_rule
  · intro hthreshold hunfit
    exact absurd (hfinds.fits (decide_eq_true hthreshold)) hunfit
  · intro hlt before hothers _ hb failure
    have hbefore := hstate.trans hothers
    rw [hbefore.current] at hb
    exact Verified.done (hblocked (hsingle hlt) hb.2 _ owned before hbefore)
  · intro call fault failure held after hcall hf hothers hpart
    apply Verified.done
    apply hcut call fault .start _ held after hf _ (hstate.trans hothers)
    refine stops_storeCall hcall (Or.inl rfl) fun hsmall => ?_
    rw [hpart.resolve_left (of_decide_eq_false hsmall)]
    rfl
  · intro held before after hothers _ _ hfree hafter
    have hbefore := hstate.trans hothers
    have hstored : SameObjects (deposit.blobStored bucket) after :=
      (SameObjects.put hbefore _ _).trans hafter
    refine ⟨trivial, trivial, ?_, ?_⟩
    · intro stored hversion
      rw [Provider.reportedVersion, hbefore.versioned, hbefore.issued] at hversion
      have hunblocked : ¬(deposit.multipart = false ∧
          (bucket.current deposit.blobPath).isSome = true) := by
        rintro ⟨hsmall, hsome⟩
        exact hfree (Nat.not_le.mp (of_decide_eq_false hsmall))
          ⟨rfl, by rwa [hbefore.current]⟩
      exact verify_solo hstored hversion
        (fun call fault failure final hf hstops hfinal =>
          hcut call fault .blob failure held final hf hstops hfinal)
        (hok hunblocked stored held · hversion)
    · intro call fault failure final hcall hf heffect hfinal
      apply Verified.done
      apply hcut call fault .blob _ held final hf _ (hstored.trans hfinal)
      refine stops_storeCall hcall (Or.inr rfl) fun _ => ?_
      rw [heffect]
      rfl

theorem blobStored_current {key : String} (hblob : key ≠ deposit.blobPath) :
    (deposit.blobStored bucket).current key = bucket.current key :=
  Store.current_congr (Store.put_entries_of_ne _ hblob _)

theorem referenceStored_current {key : String} (hblob : key ≠ deposit.blobPath)
    (hreference : key ≠ deposit.referencePath) :
    (deposit.referenceStored provider bucket).current key = bucket.current key :=
  (Store.current_congr (Store.put_entries_of_ne _ hreference _)).trans (blobStored_current hblob)

theorem publishReference_solo (hfinds : deposit.Finds bucket)
    (hstate : SameObjects (deposit.blobStored bucket) state) {stored : StoredObject}
    (hversion : stored.versionId = provider.reportedVersion bucket bucket.issued)
    {post : Except Failure Unit → Set Nat → Bucket → Prop}
    (hblocked : (bucket.current deposit.referencePath).isSome = true → ∀ failure after,
      SameObjects (deposit.blobStored bucket) after → post (.error failure) owned after)
    (hcut : ∀ call fault phase failure after, faults call fault →
      deposit.Stops call fault.effect phase →
      SameObjects (deposit.reach provider bucket phase) after → post (.error failure) owned after)
    (hok : ¬(bucket.current deposit.referencePath).isSome = true → ∀ after,
      SameObjects (deposit.referenceStored provider bucket) after → post (.ok ()) owned after) :
    Verified provider.handle (solo faults).protocol
      (deposit.adapter.publishReference deposit.request deposit.intent deposit.identity
        deposit.chunks stored) owned state post := by
  have hkey : deposit.adapter.layout.referenceKey deposit.request.resource
      deposit.request.input.objectId (deposit.adapter.common.digest deposit.content) =
      .ok deposit.referencePath := S3Layout.referenceKey_digest ..
  have hcurrent : (deposit.blobStored bucket).current deposit.referencePath =
      bucket.current deposit.referencePath := blobStored_current deposit.referencePath_ne_blobPath
  unfold S3ObjectAdapter.publishReference
  rw [show deposit.identity.digest = deposit.adapter.common.digest deposit.content from rfl, hkey,
    hversion]
  apply Verified.seq
  apply Verified.lift
  apply Verified.seq
  apply S3ObjectAdapter.putDocument_solo hfinds.arguments hstate
  · rintro ⟨-, hsome⟩ failure after hafter
    exact Verified.done (hblocked (hcurrent ▸ hsome) failure after hafter)
  · intro hfree written after hafter
    have hnone : ¬(bucket.current deposit.referencePath).isSome = true := by
      rw [hcurrent] at hfree
      simpa using hfree
    exact Verified.done (hok hnone after hafter)
  · intro call fault after hputs hf _ hafter
    apply Verified.done
    apply hcut call fault _ _ after hf (Or.inl rfl)
    rw [phaseAt_reference hputs]
    split
    · rename_i heffect
      rw [if_pos heffect] at hafter
      exact hafter
    · rename_i heffect
      rw [if_neg heffect] at hafter
      exact hafter

-- A put that has lost its pointer write raises, whatever it still finds and records.
theorem lost_solo {request : PutRequest} {adapter : S3ObjectAdapter} {content : HexDigest}
    (hstate : adapter.layout.Beside bucket state)
    {post : Except Failure Unit → Set Nat → Bucket → Prop}
    (herror : ∀ failure after, adapter.layout.Beside bucket after →
      post (.error failure) owned after) :
    Verified provider.handle (solo faults).protocol
      (do
        let winner ← adapter.tryLatest request.resource request.input.objectId
        if ¬winner.any fun winner => winner.metadata.digest = content.digest then
          adapter.recordOrphan request.resource request.input.objectId content.digest
            "latest-conflict" request.observedAt
        throw (.meridian .conditionalConflict
          (some "logical Object publication lost a conditional race"))) owned state post := by
  have hcaught (result : Except Failure Unit) (after : Bucket)
      (hafter : adapter.layout.Beside bucket after)
      (rest : Except Failure Unit → Set Nat → Bucket → Prop)
      (hthen : ∀ result after, adapter.layout.Beside bucket after → rest result owned after) :
      Verified provider.handle (solo faults).protocol
        (Program.onError (fun failure => if failure.is .conditionalConflict then pure ()
          else throw failure) result) owned after rest := by
    cases result with
    | ok value => exact Verified.done (hthen _ after hafter)
    | error failure =>
        simp only [Program.onError]
        split <;> exact Verified.done (hthen _ after hafter)
  have horphan (state : Bucket) (hstate : adapter.layout.Beside bucket state)
      (rest : Except Failure Unit → Set Nat → Bucket → Prop)
      (hthen : ∀ result after, adapter.layout.Beside bucket after → rest result owned after) :
      Verified provider.handle (solo faults).protocol
        (adapter.recordOrphan request.resource request.input.objectId content.digest
          "latest-conflict" request.observedAt) owned state rest := by
    have hkey := S3Layout.orphanKey_digest adapter.layout request.resource
      request.input.objectId content
    unfold S3ObjectAdapter.recordOrphan
    simp only [hkey]
    apply Verified.seq
    apply Verified.lift
    apply Verified.recover
    apply Verified.seq
    apply S3Transport.putJson_rule
    · exact fun failure _ => hcaught (.error failure) state hstate rest hthen
    · intro arguments before hothers _ _ _
      have hbefore := hstate.same hothers
      exact ⟨hcaught (.error _) before hbefore rest hthen,
        fun fault _ => hcaught (.error _) before hbefore rest hthen⟩
    · intro arguments before written hothers _ _ _ he
      have hbefore := hstate.same hothers
      have hwritten : adapter.layout.Beside bucket written := by
        rw [he]
        exact hbefore.put_orphan _ _ _ _
      refine ⟨trivial, trivial, fun stored => hcaught (.ok ()) _ hwritten rest hthen,
        fun fault _ => hcaught (.error _) _ ?_ rest hthen⟩
      split
      · exact hwritten
      · exact hbefore
  apply Verified.seq
  apply Discipline.observe (adapter.tryLatest_within _ _ fun _ _ => trivial) provider.handle_reads
  intro result after hothers
  have hafter := hstate.same hothers
  cases result with
  | error failure => exact Verified.done (herror failure after hafter)
  | ok winner =>
      simp only [Program.onOk]
      split
      · apply Verified.seq
        apply horphan after hafter
        intro result final hfinal
        cases result <;> exact Verified.done (herror _ final hfinal)
      · exact Verified.done (herror _ after hafter)

theorem publishLatest_solo (houtages : S3ObjectAdapter.Outages faults)
    (hstate : SameObjects (deposit.referenceStored provider bucket) state)
    {post : Except Failure Unit → Set Nat → Bucket → Prop}
    (hblocked : deposit.createOnly = true ∧ (bucket.current deposit.latestPath).isSome = true →
      ∀ failure after, deposit.adapter.layout.Beside (deposit.referenceStored provider bucket)
        after → post (.error failure) owned after)
    (hcut : ∀ call fault phase failure after, faults call fault →
      deposit.Stops call fault.effect phase →
      SameObjects (deposit.reach provider bucket phase) after → post (.error failure) owned after)
    (hok : ¬(deposit.createOnly = true ∧ (bucket.current deposit.latestPath).isSome = true) →
      ∀ after, SameObjects (deposit.pointerStored provider bucket) after →
      post (.ok ()) owned after) :
    Verified provider.handle (solo faults).protocol
      (deposit.adapter.publishLatest deposit.request deposit.intent deposit.hash.digest) owned
      state post := by
  have hcurrent : (deposit.referenceStored provider bucket).current deposit.latestPath =
      bucket.current deposit.latestPath :=
    referenceStored_current deposit.latestPath_ne_blobPath deposit.latestPath_ne_referencePath
  have hkey : deposit.adapter.layout.latestKey deposit.request.resource
      deposit.request.input.objectId = deposit.latestPath := rfl
  have harguments := S3ObjectAdapter.writeArguments_none deposit.adapter.transport
  unfold S3ObjectAdapter.publishLatest
  rw [hkey]
  apply Verified.recover
  apply Verified.seq
  apply S3ObjectAdapter.putDocument_solo harguments hstate
  · intro hb failure after hafter
    rw [hcurrent] at hb
    have hbeside := S3Layout.Beside.ofSame deposit.adapter.layout hafter
    apply Verified.done
    simp only [Program.onError]
    split
    · exact lost_solo hbeside (hblocked hb)
    · exact Verified.done (hblocked hb failure after hbeside)
  · intro hfree stored after hafter
    rw [hcurrent] at hfree
    exact Verified.done (hok hfree after hafter)
  · intro call fault after hputs hf _ hafter
    have hnot : (raiseNormalizedS3Error fault.error "metadata.put").is .conditionalConflict =
        false := ((houtages call fault hf).normalized _ _).not_conflict
    apply Verified.done
    simp only [Program.onError, hnot, Bool.false_eq_true, if_false]
    apply Verified.done
    apply hcut call fault _ _ after hf (Or.inl rfl)
    rw [phaseAt_latest hputs]
    split
    · rename_i heffect
      rw [if_pos heffect] at hafter
      exact hafter
    · rename_i heffect
      rw [if_neg heffect] at hafter
      exact hafter

end Deposit

-- A transfer that cannot be carried out leaves the bucket.
theorem storeBlob_refused {adapter : S3ObjectAdapter} {provider : Provider}
    {request : PutRequest} {intent : PutIntent} {content : Bytes}
    {faults : S3Call → Fault Failure → Prop} {owned : Set Nat} {bucket state : Bucket}
    (hstate : SameObjects bucket state)
    (hunable : (∃ failure, adapter.transport.writeArguments intent.retention = .error failure) ∨
      adapter.config.multipartThresholdBytes ≤ content.length ∧
        ¬(adapter.transport.uploadTarget (adapter.layout.path
          (.blob (adapter.layout.resourceToken request.resource)
            (adapter.layout.objectToken request.input.objectId)
            (adapter.common.hexdigest content))) content.length
          (adapter.transport.useChecksum intent.retention)).Fits content)
    {post : Except Failure StoredObject → Set Nat → Bucket → Prop}
    (herror : ∀ failure held after, SameObjects bucket after → post (.error failure) held after) :
    Verified provider.handle (solo faults).protocol
      (adapter.storeBlob request intent (adapter.common.identity content) content) owned state
        post := by
  have hkey : adapter.layout.blobKey request.resource request.input.objectId
      (adapter.common.digest content) = .ok (adapter.layout.path
        (.blob (adapter.layout.resourceToken request.resource)
          (adapter.layout.objectToken request.input.objectId)
          (adapter.common.hexdigest content))) := S3Layout.blobKey_digest ..
  unfold S3ObjectAdapter.storeBlob
  simp only [ObjectCommon.identity_digest, ObjectCommon.identity_byteLength, hkey]
  unfold S3Transport.putFile
  apply Verified.seq
  apply Verified.lift
  simp only [Program.onOk]
  split
  · exact Verified.done (herror _ owned state hstate)
  apply Verified.seq
  apply Verified.lift
  rcases hunable with ⟨failure, hfailure⟩ | ⟨hthreshold, hunfit⟩
  · rw [hfailure]
    exact Verified.done (herror failure owned state hstate)
  cases adapter.transport.writeArguments intent.retention with
  | error failure => exact Verified.done (herror failure owned state hstate)
  | ok arguments =>
      have hmultipart : adapter.transport.config.multipartThresholdBytes ≤ content.length :=
        hthreshold
      apply Verified.seq
      apply normalized_rule
      apply S3Transport.storeFile_rule
      · exact fun _ _ failure held after hothers =>
          Verified.done (herror _ held after (hstate.trans hothers))
      · exact fun hlt => absurd hmultipart (Nat.not_le.mpr hlt)
      · exact fun _ _ failure held after _ _ hothers _ =>
          Verified.done (herror _ held after (hstate.trans hothers))
      · exact fun _ _ _ _ _ hfits => absurd (hfits hmultipart) hunfit

section Ends

variable {adapter : S3ObjectAdapter} {provider : Provider} {request : PutRequest}
variable {faults : S3Call → Fault Failure → Prop} {owned : Set Nat} {bucket state after : Bucket}

namespace PutEnds

-- A read that fails before the upload ends the put where it was.
theorem ofRead {call : S3Call} {fault : Fault Failure}
    (hreads : call.reads (adapter.notBlob request) fun _ => False) (hfault : faults call fault)
    (failure : Failure) (hsame : SameObjects bucket after) :
    PutEnds provider adapter request faults bucket (.error failure) after :=
  .refused failure after hsame (Or.inl ⟨call, fault, hfault, fun deposit hadapter hrequest =>
    S3ObjectAdapter.phaseAt_reads hreads fault.effect deposit hadapter hrequest⟩)

-- Without a failure the put is refused because something that it needs is not so.
theorem unsettled (failure : Failure) (hsame : SameObjects bucket after)
    (hnone : ∀ intent content chunks latest,
      adapter.Settles request bucket intent content chunks latest →
      ∃ error, S3ObjectAdapter.checkExisting request intent (adapter.common.digest content)
        latest = .error error) :
    PutEnds provider adapter request faults bucket (.error failure) after := by
  refine .refused failure after hsame (Or.inr ⟨?_, ?_⟩)
  · rintro metadata ⟨intent, content, chunks, latest, hsettles, hcheck⟩
    obtain ⟨error, herror⟩ := hnone _ _ _ _ hsettles
    rw [hcheck] at herror
    cases herror
  · rintro deposit rfl rfl hfinds
    obtain ⟨latest, hsettles, hcheck⟩ := hfinds.settles
    obtain ⟨error, herror⟩ := hnone _ _ _ _ hsettles
    rw [show deposit.adapter.common.digest deposit.content = deposit.hash.digest from rfl, hcheck]
      at herror
    cases herror

-- Which failure it is that the put raises makes no difference.
theorem raised {failure : Failure}
    (h : PutEnds provider adapter request faults bucket (.error failure) after)
    (other : Failure) : PutEnds provider adapter request faults bucket (.error other) after := by
  cases h with
  | refused _ _ hsame hcause => exact .refused other after hsame hcause
  | blocked deposit phase _ _ hadapter hrequest hfinds hblocked hphase hbeside hhalts =>
      exact .blocked deposit phase other after hadapter hrequest hfinds hblocked hphase hbeside
        hhalts
  | cut deposit call fault phase _ _ hadapter hrequest hfinds hfault hphase hsame =>
      exact .cut deposit call fault phase other after hadapter hrequest hfinds hfault hphase hsame

end PutEnds

variable {intent : PutIntent} {content : Bytes} {chunks : List String}
variable {latest : Option StoredEnvelope}

-- A put that has settled everything uploads its blob, or is refused if it cannot do so.
theorem storeBlob_ends (hsettles : adapter.Settles request bucket intent content chunks latest)
    (hcheck : S3ObjectAdapter.checkExisting request intent (adapter.common.digest content) latest =
      .ok none) (hstate : SameObjects bucket state)
    {post : Except Failure StoredObject → Set Nat → Bucket → Prop}
    (herror : ∀ failure held after,
      PutEnds provider adapter request faults bucket (.error failure) after →
        post (.error failure) held after)
    (hok : ∀ (deposit : Deposit) stored held after, deposit.adapter = adapter →
      deposit.request = request → deposit.intent = intent → deposit.content = content →
      deposit.chunks = chunks → deposit.Finds bucket →
      ¬(deposit.multipart = false ∧ (bucket.current deposit.blobPath).isSome = true) →
      stored.versionId = provider.reportedVersion bucket bucket.issued →
      SameObjects (deposit.blobStored bucket) after → post (.ok stored) held after) :
    Verified provider.handle (solo faults).protocol
      (adapter.storeBlob request intent (adapter.common.identity content) content) owned state
        post := by
  have hunable (failure : Failure) (after : Bucket) (hafter : SameObjects bucket after)
      (hnone : ∀ deposit : Deposit, deposit.adapter = adapter → deposit.request = request →
        deposit.intent = intent → deposit.content = content → ¬deposit.Finds bucket) :
      PutEnds provider adapter request faults bucket (.error failure) after := by
    refine .refused failure after hafter (Or.inr ⟨?_, ?_⟩)
    · rintro metadata ⟨other, content, chunks, found, h, hreturn⟩
      obtain ⟨rfl, rfl, rfl⟩ := hsettles.unique h rfl
      obtain rfl := hsettles.seen_unique h
      rw [hcheck] at hreturn
      cases hreturn
    · rintro deposit rfl rfl hfinds
      obtain ⟨found, h, -⟩ := hfinds.settles
      obtain ⟨hintent, hcontent, -⟩ := hsettles.unique h rfl
      exact hnone deposit rfl rfl hintent hcontent hfinds
  cases harguments : adapter.transport.writeArguments intent.retention with
  | error failure =>
      apply storeBlob_refused hstate (Or.inl ⟨failure, harguments⟩)
      intro failure held after hafter
      apply herror
      apply hunable _ after hafter
      rintro deposit rfl rfl rfl - hfinds
      rw [hfinds.arguments] at harguments
      cases harguments
  | ok arguments =>
  obtain ⟨deposit, rfl, rfl, rfl, rfl, rfl, rfl⟩ : ∃ deposit : Deposit,
      deposit.adapter = adapter ∧ deposit.request = request ∧ deposit.intent = intent ∧
        deposit.content = content ∧ deposit.chunks = chunks ∧ deposit.arguments = arguments :=
    ⟨⟨adapter, request, intent, content, chunks, arguments⟩, rfl, rfl, rfl, rfl, rfl, rfl⟩
  by_cases hfits : deposit.multipart = true → (deposit.adapter.transport.uploadTarget
      deposit.blobPath deposit.content.length
      (deposit.adapter.transport.useChecksum deposit.intent.retention)).Fits deposit.content
  case neg =>
    obtain ⟨hmultipart, hunfit⟩ := Classical.not_imp.mp hfits
    apply storeBlob_refused hstate (Or.inr ⟨of_decide_eq_true hmultipart, hunfit⟩)
    intro failure held after hafter
    apply herror
    apply hunable _ after hafter
    intro other hadapter hrequest hintent hcontent hother
    have hmultipart' : other.multipart = true := by
      unfold Deposit.multipart
      rw [hadapter, hcontent]
      exact hmultipart
    have hfit := hother.fits hmultipart'
    unfold Deposit.blobPath Deposit.resource Deposit.object Deposit.hash at hfit
    rw [hadapter, hrequest, hintent, hcontent] at hfit
    exact hunfit hfit
  have hfinds : deposit.Finds bucket := ⟨⟨latest, hsettles, hcheck⟩, harguments, hfits⟩
  apply Deposit.storeBlob_solo hfinds hstate
  · intro hsingle hsome failure held after hafter
    exact herror failure held after (.blocked deposit .start _ after rfl rfl hfinds
      (Or.inl ⟨hsingle, hsome⟩) (by simp) (.ofSame _ hafter) (if_pos ⟨hsingle, hsome⟩).symm)
  · intro call fault phase failure held after hf hstops hafter
    exact herror failure held after
      (.cut deposit call fault phase _ after rfl rfl hfinds hf hstops hafter)
  · intro hfree stored held after hversion hafter
    exact hok deposit stored held after rfl rfl rfl rfl rfl hfinds hfree hversion hafter

-- What the put settles has this intent and sees this latest version.
theorem settles_unique {other : PutIntent} {found : Option StoredEnvelope}
    (hintends : ∃ profile, adapter.profileAt bucket request.resource = .ok profile ∧
      adapter.intentFrom profile request = .ok intent)
    (hseen : missingAsNone (adapter.latestEnvelope bucket request.resource
      request.input.objectId) = .ok latest)
    (h : adapter.Settles request bucket other content chunks found) :
    other = intent ∧ found = latest := by
  obtain ⟨profile, hprofile, hsame⟩ := hintends
  obtain ⟨profile', hprofile', hother⟩ := h.intends
  rw [hprofile, Except.ok.injEq] at hprofile'
  subst hprofile'
  rw [hsame, Except.ok.injEq] at hother
  have hfound := h.seen
  rw [hseen, Except.ok.injEq] at hfound
  exact ⟨hother.symm, hfound.symm⟩

-- The put up to the return of put_file.
theorem putUpload_ends (houtages : S3ObjectAdapter.Outages faults)
    (hstate : SameObjects bucket state)
    (hintends : ∃ profile, adapter.profileAt bucket request.resource = .ok profile ∧
      adapter.intentFrom profile request = .ok intent)
    (hseen : missingAsNone (adapter.latestEnvelope bucket request.resource
      request.input.objectId) = .ok latest)
    (hcreates : ¬(latest.isSome ∧ request.input.createOnly))
    {post : Except Failure PutProgress → Set Nat → Bucket → Prop}
    (herror : ∀ failure held after,
      PutEnds provider adapter request faults bucket (.error failure) after →
        post (.error failure) held after)
    (hreturned : ∀ metadata after,
      PutEnds provider adapter request faults bucket (.ok metadata) after →
        post (.ok (.idempotent metadata)) owned after)
    (huploaded : ∀ (deposit : Deposit) stored held after, deposit.adapter = adapter →
      deposit.request = request → deposit.intent = intent → deposit.Finds bucket →
      ¬(deposit.multipart = false ∧ (bucket.current deposit.blobPath).isSome = true) →
      stored.versionId = provider.reportedVersion bucket bucket.issued →
      SameObjects (deposit.blobStored bucket) after →
        post (.ok (.uploaded deposit.identity deposit.chunks stored)) held after) :
    Verified provider.handle (solo faults).protocol (adapter.putUpload request intent) owned state
      post := by
  rw [S3ObjectAdapter.putUpload_eq]
  apply Verified.seq
  apply Verified.lift
  cases htransfer : request.transfer intent.payload with
  | error failure =>
      apply Verified.done
      apply herror
      apply PutEnds.unsettled _ hstate
      intro other content chunks found h
      obtain ⟨rfl, rfl⟩ := settles_unique hintends hseen h
      obtain ⟨writes, hwrites, -⟩ := h.transfer
      rw [htransfer] at hwrites
      cases hwrites
  | ok writes =>
  have hspooled : (IntegritySpool.new adapter.config.integrityChunkBytes).writeAll adapter.common
      writes = adapter.spooled writes := rfl
  simp only [Program.onOk, hspooled]
  by_cases hsize : adapter.config.maxObjectBytes < (adapter.spooled writes).stream.length
  · rw [if_pos hsize]
    apply Verified.done
    apply herror
    apply PutEnds.unsettled _ hstate
    intro other content chunks found h
    obtain ⟨rfl, rfl⟩ := settles_unique hintends hseen h
    obtain ⟨writes', hwrites, rfl, -⟩ := h.transfer
    rw [htransfer, Except.ok.injEq] at hwrites
    subst hwrites
    exact absurd h.size (Nat.not_le.mpr hsize)
  rw [if_neg hsize]
  have hsettles : adapter.Settles request bucket intent (adapter.spooled writes).stream
      ((adapter.spooled writes).finish adapter.common) latest :=
    ⟨hintends, ⟨writes, htransfer, rfl, rfl⟩, Nat.not_lt.mp hsize, hseen, hcreates⟩
  apply Verified.seq
  apply solo_reading (adapter.tryLatest_within _ _ (adapter.notBlob_object request))
    (adapter.tryLatest_surfaces _ _ Failure.lasting_outage fun _ h => h.not_notFound)
    (fun call fault _ hf => houtages call fault hf) hstate
  case herror =>
    intro call fault failure after hreads hf _ hafter
    exact Verified.done (herror failure owned after (.ofRead hreads hf failure hafter))
  intro second hsecond
  rw [S3ObjectAdapter.run_tryLatest, hseen]
  simp only [Program.onOk]
  apply Verified.seq
  apply Verified.lift
  cases hcheck : S3ObjectAdapter.checkExisting request intent
      (adapter.common.digest (adapter.spooled writes).stream) latest with
  | error failure =>
      apply Verified.done
      apply herror
      apply PutEnds.unsettled _ hsecond
      intro other content chunks found h
      obtain ⟨rfl, rfl⟩ := settles_unique hintends hseen h
      obtain ⟨-, rfl, -⟩ := hsettles.unique h rfl
      exact ⟨failure, hcheck⟩
  | ok existing =>
  cases existing with
  | some metadata =>
      exact Verified.done (hreturned metadata second (.returned metadata second hsecond
        ⟨intent, _, _, latest, hsettles, hcheck⟩))
  | none =>
  apply Verified.seq
  apply storeBlob_ends hsettles hcheck hsecond
  · exact fun failure held after hends => Verified.done (herror failure held after hends)
  · rintro deposit stored held after rfl hrequest hintent hcontent hchunks hfinds hfree hversion
      hafter
    apply Verified.done
    rw [← hcontent, ← hchunks]
    exact huploaded deposit stored held after rfl hrequest hintent hfinds hfree hversion hafter

-- The put behind that return: the reference is written, and then the pointer.
theorem Deposit.publish_ends {deposit : Deposit} (houtages : S3ObjectAdapter.Outages faults)
    (hfinds : deposit.Finds bucket)
    (hfree : ¬(deposit.multipart = false ∧ (bucket.current deposit.blobPath).isSome = true))
    {stored : StoredObject}
    (hversion : stored.versionId = provider.reportedVersion bucket bucket.issued)
    (hstate : SameObjects (deposit.blobStored bucket) state)
    {post : Except Failure ObjectMetadata → Set Nat → Bucket → Prop}
    (hends : ∀ result after,
      PutEnds provider deposit.adapter deposit.request faults bucket result after →
        post result owned after) :
    Verified provider.handle (solo faults).protocol
      (deposit.adapter.publish deposit.request deposit.intent deposit.identity deposit.chunks
        stored) owned state post := by
  apply Verified.seq
  apply Deposit.publishReference_solo hfinds hstate hversion
  · intro hsome failure after hafter
    exact Verified.done (hends _ after (.blocked deposit .blob failure after rfl rfl hfinds
      (Or.inr (Or.inl hsome)) (by simp) (.ofSame _ hafter)
      ((if_neg hfree).trans (if_pos hsome)).symm))
  · intro call fault phase failure after hf hstops hafter
    exact Verified.done (hends _ after
      (.cut deposit call fault phase failure after rfl rfl hfinds hf hstops hafter))
  intro hreference third hthird
  apply Verified.seq
  apply Deposit.publishLatest_solo houtages hthird
  · intro hheld failure after hafter
    exact Verified.done (hends _ after (.blocked deposit .reference failure after rfl rfl hfinds
      (Or.inr (Or.inr hheld)) (by simp) hafter
      ((if_neg hfree).trans (if_neg hreference)).symm))
  · intro call fault phase failure after hf hstops hafter
    exact Verified.done (hends _ after
      (.cut deposit call fault phase failure after rfl rfl hfinds hf hstops hafter))
  intro hlatest last hlast
  apply Verified.done
  have hunblocked : ¬deposit.Blocked bucket := by
    rintro (hblob | hnamed | hpointed)
    · exact hfree hblob
    · exact hreference hnamed
    · exact hlatest hpointed
  exact hends _ last (.committed deposit last rfl rfl hfinds hunblocked hlast)

-- Every way in which a put that runs alone can end.
theorem put_ends (houtages : S3ObjectAdapter.Outages faults) :
    Verified provider.handle (solo faults).protocol (adapter.put request) owned bucket
      fun result _ after => PutEnds provider adapter request faults bucket result after := by
  unfold S3ObjectAdapter.put
  apply Verified.seq
  apply solo_reading (adapter.putIntent_within request (adapter.notBlob_registered request)
    (adapter.notBlob_object request)) (adapter.putIntent_surfaces request)
    (fun call fault _ hf => houtages call fault hf) (SameObjects.refl bucket)
  case herror =>
    intro call fault failure after hreads hf _ hafter
    exact Verified.done (.ofRead hreads hf failure hafter)
  intro first hfirst
  cases hintent : ((adapter.putIntent request).run provider.handle bucket).1 with
  | error failure =>
      apply Verified.done
      apply PutEnds.unsettled failure hfirst
      intro intent content chunks latest hsettles
      have hok : ((adapter.putIntent request).run provider.handle bucket).1 = .ok intent :=
        S3ObjectAdapter.run_putIntent_ok.mpr
          ⟨hsettles.intends, latest, hsettles.seen, hsettles.creates⟩
      rw [hintent] at hok
      cases hok
  | ok intent =>
  obtain ⟨hintends, latest, hseen, hcreates⟩ := S3ObjectAdapter.run_putIntent_ok.mp hintent
  apply Verified.seq
  apply S3ObjectAdapter.failing_rule
  apply putUpload_ends houtages hfirst hintends hseen hcreates
  · exact fun failure held after hends => Verified.done (hends.raised _)
  · exact fun metadata after hends => Verified.done hends
  · rintro deposit stored held after rfl rfl rfl hfinds hfree hversion hafter
    apply S3ObjectAdapter.failing_rule
    apply Deposit.publish_ends houtages hfinds hfree hversion hafter
    intro result after hends
    cases result with
    | ok metadata => exact hends
    | error failure => exact hends.raised _

end Ends

end MeridianS3
