import MeridianS3.Deposit.First

namespace MeridianS3

open Effect ObjectStore Json

variable {provider : Provider} {adapter : S3ObjectAdapter} {layout : S3Layout} {hashed : Set Bytes}
variable {bucket after : Bucket}

-- A condition that each step of a run meets in the bucket that it starts from.
def Along (provider : Provider) (condition : Step → Bucket → Prop) : Bucket → List Step → Prop
  | _, [] => True
  | bucket, step :: rest =>
      condition step bucket ∧ Along provider condition (step.run provider bucket).2 rest

-- A failure that leaves a delete between its two removals: the blob's has taken effect,
-- or the reference's, which comes next, has not.
def S3Layout.splits (layout : S3Layout) (call : S3Call) (effect : Bool) : Prop :=
  ∃ resource object content version,
    call = .deleteObject (layout.path (.blob resource object content)) version ∧ effect = true ∨
    call = .deleteObject (layout.path (.reference resource object content)) version ∧
      effect = false

def Step.Whole (provider : Provider) (step : Step) (bucket : Bucket) : Prop :=
  ∀ call fault, (call, fault) ∈ step.struck provider bucket →
    ¬step.adapter.layout.splits call fault.effect

namespace Removal

variable {removal : Removal} {faults : S3Call → Fault Failure → Prop}

theorem phaseAt_eq_blob {call : S3Call} {effect : Bool}
    (h : removal.phaseAt effect call = .blob) : removal.adapter.layout.splits call effect := by
  cases call with
  | deleteObject key version =>
      simp only [phaseAt] at h
      split at h
      · rename_i hkey
        split at h
        · rename_i heffect
          exact ⟨_, _, _, version, Or.inl ⟨by rw [hkey]; rfl, heffect⟩⟩
        · cases h
      · split at h
        · rename_i hkey
          split at h
          · cases h
          · rename_i heffect
            exact ⟨_, _, _, version, Or.inr ⟨by rw [hkey]; rfl, by simpa using heffect⟩⟩
        · split at h <;> cases h
  | putObject key header body length ifNoneMatch checksum =>
      simp only [phaseAt] at h
      split at h <;> split at h <;> cases h
  | headObject key version =>
      simp only [phaseAt] at h
      split at h <;> cases h
  | headBucket | getObject | listObjectsV2 | createMultipartUpload | uploadPart
  | completeMultipartUpload | abortMultipartUpload => cases h

-- A removal that does not stop between the blob and the reference leaves every
-- reference with its blob.
theorem reach_backed (hfinds : removal.Finds faults bucket) {phase : DeletePhase}
    (hphase : phase ≠ .blob)
    (hbacked : ∀ resource object content,
      removal.adapter.layout.Backed provider bucket resource object content)
    (resource object content : HexDigest) :
    removal.adapter.layout.Backed provider (removal.reach provider bucket phase) resource object
      content := by
  by_cases hstart : phase = .start
  · subst hstart
    exact hbacked resource object content
  intro envelope hrecorded
  by_cases hversion : removal.adapter.layout.path (.reference resource object content) =
      removal.referencePath
  · refine absurd ?_ (S3Layout.recorded_entries hrecorded)
    rw [hversion]
    exact removal.reference_gone hfinds ⟨hstart, hphase⟩
  · have hkeys : (PhysicalKey.blob resource object content) ≠
        .blob removal.resource removal.object removal.content := by
      rintro ⟨⟩
      exact hversion rfl
    have hreference := removal.reach_entries provider bucket phase
      (by simp [Removal.blobPath]) hversion (by simp [Removal.latestPath])
      (by simp [Removal.evidencePath])
    have hblob : (removal.reach provider bucket phase).entries
        (removal.adapter.layout.path (.blob resource object content)) =
        bucket.entries (removal.adapter.layout.path (.blob resource object content)) :=
      removal.reach_entries provider bucket phase (by simpa [Removal.blobPath] using hkeys)
        (by simp [Removal.referencePath]) (by simp [Removal.latestPath])
        (by simp [Removal.evidencePath])
    obtain ⟨name, stored, hname, hfetch, hlength⟩ :=
      hbacked resource object content envelope (S3Layout.recorded_congr hreference.symm hrecorded)
    exact ⟨name, stored, hname,
      (provider.fetch_congr (removal.reach_versioned provider bucket phase) hblob).trans hfetch,
      hlength⟩

end Removal

theorem S3Layout.backed_same (hsame : SameObjects bucket after)
    {resource object content : HexDigest}
    (h : layout.Backed provider bucket resource object content) :
    layout.Backed provider after resource object content := by
  intro envelope hrecorded
  obtain ⟨name, stored, hname, hfetch, hlength⟩ :=
    h envelope (S3Layout.recorded_congr (by rw [hsame.entries]) hrecorded)
  exact ⟨name, stored, hname,
    (provider.fetch_congr hsame.versioned (by rw [hsame.entries])).trans hfetch, hlength⟩

theorem DeleteEnds.backed {request : DeleteRequest} {faults : S3Call → Fault Failure → Prop}
    {result : Except Failure Bool}
    (hwhole : ∀ call fault, faults call fault → ¬adapter.layout.splits call fault.effect)
    (h : DeleteEnds provider adapter request faults bucket result after)
    (hbacked : ∀ resource object content,
      adapter.layout.Backed provider bucket resource object content)
    (resource object content : HexDigest) :
    adapter.layout.Backed provider after resource object content := by
  cases h with
  | refused failure _ hsame => exact S3Layout.backed_same hsame (hbacked _ _ _)
  | rejected removal failure error _ _ _ _ _ hsame =>
      exact S3Layout.backed_same hsame (hbacked _ _ _)
  | cut removal call fault failure _ hadapter _ hfinds hfault hsame =>
      subst hadapter
      have hphase : removal.phaseAt fault.effect call ≠ .blob := fun hblob =>
        hwhole call fault hfault (removal.phaseAt_eq_blob hblob)
      exact S3Layout.backed_same hsame (removal.reach_backed hfinds hphase hbacked _ _ _)
  | recorded removal _ hadapter _ hfinds _ hsame =>
      subst hadapter
      exact S3Layout.backed_same hsame (removal.reach_backed hfinds (by simp) hbacked _ _ _)
  | completed removal _ hadapter _ hfinds _ hsame =>
      subst hadapter
      exact S3Layout.backed_same hsame (removal.reach_backed hfinds (by simp) hbacked _ _ _)

theorem Step.backed {step : Step} (hjoin : step.Joins layout hashed)
    (hfree : layout.CollisionFree hashed) (hsound : layout.Sound hashed bucket)
    (hwhole : step.Whole provider bucket)
    (hbacked : ∀ resource object content, layout.Backed provider bucket resource object content)
    (resource object content : HexDigest) :
    layout.Backed provider (step.run provider bucket).2 resource object content := by
  have hends : StepEnds provider hashed step bucket (step.run provider bucket).2 :=
    (Step.ends hjoin hsound).2
  obtain ⟨rfl, -⟩ := hjoin
  cases hends with
  | read hsame =>
      rw [hsame]
      exact hbacked _ _ _
  | registered hends =>
      intro envelope hrecorded
      obtain ⟨name, stored, hname, hfetch, hlength⟩ := hbacked _ _ _ envelope
        (S3Layout.recorded_congr (hends.entries id).symm hrecorded)
      exact ⟨name, stored, hname,
        (provider.fetch_congr hends.versioned (hends.entries id)).trans hfetch, hlength⟩
  | published _ _ hpublishes => exact hpublishes.backed_kept hfree (hbacked _ _ _)
  | deleted request result hoperation hends => exact hends.backed hwhole hbacked _ _ _

theorem runSteps_backed {steps : List Step} (hjoin : ∀ step ∈ steps, step.Joins layout hashed)
    (hfree : layout.CollisionFree hashed) (hsound : layout.Sound hashed bucket)
    (hwhole : Along provider (Step.Whole provider) bucket steps)
    (hbacked : ∀ resource object content, layout.Backed provider bucket resource object content)
    (resource object content : HexDigest) :
    layout.Backed provider (runSteps provider bucket steps) resource object content := by
  induction steps generalizing bucket with
  | nil => exact hbacked _ _ _
  | cons step rest ih =>
      have hstep := hjoin step List.mem_cons_self
      exact ih (fun later hmem => hjoin later (List.mem_cons_of_mem _ hmem))
        (Step.ends hstep hsound).1 hwhole.2 (step.backed hstep hfree hsound hwhole.1 hbacked)

-- A stat by stable reference in a bucket where the latest envelope and its blob agree.
theorem run_stat {request : ReferenceRequest} {reference : ObjectReference}
    {envelope : StoredEnvelope} {content : HexDigest} {name : Option String} {blob : StoredBody}
    (hreference : adapter.reference request.resource request.reference request.method false =
      .ok reference) (hdigest : reference.digest = none)
    (hlatest : adapter.latestEnvelope bucket request.resource reference.objectId = .ok envelope)
    (hobject : envelope.metadata.objectRef.objectId = reference.objectId)
    (hcontent : envelope.metadata.digest = content.digest)
    (hname : envelope.blobVersionId = .ofOption name)
    (hfetch : provider.fetch bucket (adapter.layout.path
      (.blob (adapter.layout.resourceToken request.resource)
        (adapter.layout.objectToken reference.objectId) content)) name = some blob)
    (hlength : blob.body.length = envelope.metadata.byteLength)
    (hheader : blob.header.metadata = blobHeader content) :
    (adapter.stat request).run provider.handle bucket = (.ok envelope, bucket) := by
  have hkey : adapter.layout.blobKey request.resource envelope.metadata.objectRef.objectId
      envelope.metadata.digest = .ok (adapter.layout.path
        (.blob (adapter.layout.resourceToken request.resource)
          (adapter.layout.objectToken reference.objectId) content)) := by
    rw [hobject, hcontent]
    exact S3Layout.blobKey_digest ..
  obtain ⟨version, hhead⟩ := S3Transport.run_head_fetch provider hfetch
  have hread : (adapter.readEnvelope request.resource reference.objectId reference.digest).run
      provider.handle bucket = (.ok envelope, bucket) := by
    rw [hdigest, S3ObjectAdapter.run_readLatest, hlatest]
  have hverified : S3ObjectAdapter.verifyHead envelope ⟨blob.body.length, blob.header.contentType,
      blob.header.metadata, version⟩ = .ok () := by
    simp [S3ObjectAdapter.verifyHead, hlength, hheader, hcontent,
      S3Transport.removeSha256Prefix_digest, blobHeader]
  unfold S3ObjectAdapter.stat
  rw [hreference]
  rw [Program.run_bind_ok _ _ _ _ _ reference rfl]
  rw [Program.run_bind_ok _ _ _ _ _ envelope hread, hkey]
  rw [Program.run_bind_ok _ _ _ _ _ _ rfl, hname]
  rw [Program.run_bind_ok _ _ _ _ _ _ hhead, hverified]
  rfl

theorem acknowledged_put_readable (hfree : layout.CollisionFree hashed) (versioned : Bool)
    (earlier : List Step) (hjoin : ∀ step ∈ earlier, step.Joins layout hashed)
    (hwhole : Along provider (Step.Whole provider) (Store.empty versioned) earlier)
    (request : PutRequest) (plan : Plan Failure) (metadata : ObjectMetadata)
    (hkeyed : adapter.layout = layout) (hhashes : request.Hashes hashed)
    (hput : (adapter.put request).runFaulty provider.handle plan
      (runSteps provider (Store.empty versioned) earlier) = (.ok metadata, after))
    (hlegible : layout.Legible after) (reader : S3ObjectAdapter) (hreader : reader.layout = layout)
    (raw : Value) (reference : ObjectReference)
    (hreference : reader.reference request.resource raw "stat" false = .ok reference)
    (hobject : reference.objectId = request.input.objectId) (hstable : reference.digest = none) :
    ∃ (envelope : StoredEnvelope) (content : HexDigest) (name : Option String) (blob : StoredBody),
      (reader.stat ⟨request.resource, raw, "stat"⟩).run provider.handle after =
        (.ok envelope, after) ∧ envelope.metadata = metadata ∧
      metadata.digest = content.digest ∧ envelope.blobVersionId = .ofOption name ∧
      provider.fetch after (layout.path (.blob (layout.resourceToken request.resource)
        (layout.objectToken request.input.objectId) content)) name = some blob ∧
      blob.body.length = metadata.byteLength ∧
      layout.common.digest blob.body = metadata.digest := by
  subst hkeyed
  have hbefore : adapter.layout.Sound hashed (runSteps provider (Store.empty versioned) earlier) :=
    runSteps_sound hjoin (S3Layout.sound_empty _ _ _)
  have hbacked : ∀ resource object content, adapter.layout.Backed provider
      (runSteps provider (Store.empty versioned) earlier) resource object content :=
    runSteps_backed hjoin hfree (S3Layout.sound_empty _ _ _) hwhole
      fun _ _ _ _ hrecorded => absurd rfl (S3Layout.recorded_entries hrecorded)
  have halone := put_alone provider hbefore hhashes plan
  rw [hput] at halone
  obtain ⟨hsound, hpublishes, hcommitted⟩ := halone
  obtain ⟨content, seen, hsince, hpoints, hdigest, hmetadata, envelope, henvelope, hrecorded⟩ :=
    hcommitted metadata rfl
  have hlatest : adapter.layout.Points after (adapter.layout.resourceToken request.resource)
      (adapter.layout.objectToken request.input.objectId) content :=
    S3Layout.points_congr (by rw [SameObjects.entries hsince]) hpoints
  obtain ⟨name, blob, hname, hfetch, hlength⟩ :=
    hpublishes.backed_kept hfree (hbacked _ _ _) envelope hrecorded
  obtain ⟨-, hblob, hheader⟩ := hsound.blob hfetch
  subst henvelope
  have hread : reader.latestEnvelope after request.resource reference.objectId =
      .ok envelope := by
    rw [hobject]
    rw [← hreader] at hlegible hlatest hrecorded
    obtain ⟨pointer, hpointer, hnamed⟩ := id hlatest
    obtain ⟨-, document, hdocument, hbody⟩ := id hrecorded
    have hshort : reader.layout.legible (latestValue content.digest) := by
      rw [S3Layout.legible, ← hnamed]
      exact hlegible _ pointer hpointer (by simp)
    have hread : reader.layout.legible (envelope.toDict reader.layout.common) := by
      rw [S3Layout.legible, ← hbody]
      exact hlegible _ document hdocument (by simp)
    exact S3ObjectAdapter.latestEnvelope_recorded hshort hread hlatest hrecorded hmetadata hdigest
  have hreached : provider.fetch after (reader.layout.path
      (.blob (reader.layout.resourceToken request.resource)
        (reader.layout.objectToken reference.objectId) content)) name = some blob := by
    rw [hreader, hobject]
    exact hfetch
  have hstat : (reader.stat ⟨request.resource, raw, "stat"⟩).run provider.handle after =
      (.ok envelope, after) := run_stat hreference hstable hread
    (hmetadata.trans hobject.symm) hdigest hname hreached hlength hheader
  refine ⟨envelope, content, name, blob, hstat, rfl, hdigest, hname, hfetch, hlength, ?_⟩
  rw [hdigest, ← hblob]
  rfl

-- A delete that is cut off once the blob has gone leaves a latest version that the same put
-- takes for its own.
theorem Deposit.First.acknowledged_without_blob {deposit : Deposit} {request : DeleteRequest}
    {reference : ObjectReference} {fault : Fault Failure}
    (h : deposit.First provider hashed bucket) (hunversioned : bucket.versioned = false)
    (hdelete : deposit.Deleted request reference)
    (hallowed : deposit.adapter.requireDeleteAllowed
      (deposit.published provider bucket) request.checkedAt = .ok ())
    (hagain : deposit.request.input.createOnly = false) (houtage : fault.error.Outage)
    (heffect : fault.effect = true) :
    ∃ plan reached, reached = runSteps provider bucket
        [deposit.step, ⟨deposit.adapter, .delete request, plan⟩] ∧
      ((deposit.adapter.put deposit.request).run provider.handle reached).1 =
        .ok deposit.metadata ∧
      ((deposit.adapter.put deposit.request).run provider.handle reached).2.current
        deposit.blobPath = none := by
  obtain ⟨plan, hblob, hothers⟩ := h.deletion_cut hunversioned hdelete hallowed houtage heffect
  rw [← run_delete] at hblob
  simp only [← run_delete] at hothers
  refine ⟨plan, ((⟨deposit.adapter, .delete request, plan⟩ : Step).run provider
    (deposit.stored provider bucket)).2, rfl, ?_⟩
  generalize ((⟨deposit.adapter, .delete request, plan⟩ : Step).run provider
    (deposit.stored provider bucket)).2 = reached at hblob hothers ⊢
  have hprofile : reached.entries (deposit.adapter.layout.resourceKey deposit.request.resource) =
      bucket.entries (deposit.adapter.layout.resourceKey deposit.request.resource) := by
    have hkey : deposit.adapter.layout.resourceKey deposit.request.resource =
        deposit.adapter.layout.path (.registered deposit.resource) := rfl
    rw [hkey, hothers _ (by simp [blobPath]), h.registered]
  have hlatest : deposit.adapter.latestEnvelope reached deposit.request.resource
      deposit.request.input.objectId = .ok (deposit.published provider bucket) := by
    rw [← h.latest]
    apply S3ObjectAdapter.latestEnvelope_congr
    · exact Store.current_congr (hothers _ deposit.latestPath_ne_blobPath)
    · exact fun content => Store.current_congr (hothers _ (by simp [blobPath]))
  have hreturns := h.finds.returns hagain hprofile hlatest
  obtain ⟨hresult, hsame⟩ := hreturns.run provider
  exact ⟨hresult, by rw [hsame.current, Store.current_eq_none _ _ hblob]⟩

theorem acknowledged_put_without_blob : ∃ plan reached,
    reached = runSteps Standard.provider (Store.empty false) [Standard.one.step,
      ⟨Standard.adapter, .delete (Standard.deleteRequest Standard.one.hash 2), plan⟩] ∧
    ((Standard.adapter.put Standard.one.request).run Standard.provider.handle reached).1 =
      .ok Standard.one.metadata ∧
    ((Standard.adapter.put Standard.one.request).run Standard.provider.handle reached).2.current
      Standard.one.blobPath = none :=
  Standard.one_first.acknowledged_without_blob rfl
    (Standard.deleted false .null .immutable "version-one" 1 2) rfl rfl Standard.lostReply_outage
    rfl

-- A delete that takes away the blob and the reference, and is cut off there.
theorem S3ObjectAdapter.delete_withdraws {request : DeleteRequest} {reference : ObjectReference}
    {content : HexDigest} {fault : Fault Failure} (hlegible : adapter.layout.Legible bucket)
    (hsound : adapter.layout.Sound hashed bucket) (hfree : adapter.layout.CollisionFree hashed)
    (hobject : ObjectCommon.encodeUtf8 reference.objectId ∈ hashed)
    (hunversioned : bucket.versioned = false)
    (hnames : adapter.Names request reference content)
    (hpermits : adapter.Permits bucket request reference.objectId content)
    (houtage : fault.error.Outage) (heffect : fault.effect = true) :
    ∃ plan version, (adapter.delete request).struck provider.handle plan bucket =
        [(.deleteObject (adapter.layout.path (.reference
          (adapter.layout.resourceToken request.resource)
          (adapter.layout.objectToken reference.objectId) content)) version, fault)] ∧
      ∀ key, ((adapter.delete request).runFaulty provider.handle plan bucket).2.entries key =
        if key = adapter.layout.path (.blob (adapter.layout.resourceToken request.resource)
              (adapter.layout.objectToken reference.objectId) content) ∨
            key = adapter.layout.path (.reference (adapter.layout.resourceToken request.resource)
              (adapter.layout.objectToken reference.objectId) content)
        then [] else bucket.entries key := by
  obtain ⟨removal, rfl, rfl, rfl, rfl, hfinds⟩ :=
    Removal.found_legible hlegible hsound hfree hobject hnames hpermits
  have haccepted : ∀ error,
      (provider.handle (.deleteObject removal.blobPath removal.version) bucket).1 ≠
        .error error := hfinds.accepted hsound hunversioned
  obtain ⟨plan, hstruck⟩ := Program.exists_struck (hfinds.calls_reference haccepted) fault
  have hcut := hfinds.cut_off hsound haccepted houtage hstruck
  have hphase : removal.phaseAt fault.effect (.deleteObject removal.referencePath
      (provider.reportedVersion bucket removal.entry)) = .reference := by
    simp [Removal.phaseAt, Removal.referencePath_ne_blobPath, heffect]
  rw [hphase] at hcut
  refine ⟨plan, _, hstruck, fun key => ?_⟩
  rw [hcut.entries]
  split
  · rename_i hkey
    rcases hkey with rfl | rfl
    · refine (provider.without_entries_of_ne _ removal.referencePath_ne_blobPath.symm _).trans ?_
      exact removal.blobGone_blob hunversioned (hfinds.unversioned_none hsound hunversioned)
    · exact removal.reference_gone hfinds ⟨by simp, by simp⟩
  · rename_i hkey
    obtain ⟨hblob, hreference⟩ := not_or.mp hkey
    exact removal.referenceGone_entries provider bucket hblob hreference

-- A put is cut off at its pointer, and a delete takes its version back.
theorem Deposit.First.withdrawn {deposit : Deposit} {request : DeleteRequest}
    {reference : ObjectReference} {unmade lost : Fault Failure}
    (h : deposit.First provider hashed bucket) (hunversioned : bucket.versioned = false)
    (hblob : bucket.entries deposit.blobPath = []) (hdelete : deposit.Deleted request reference)
    (hallowed : deposit.adapter.requireDeleteAllowed (deposit.published provider bucket)
      request.checkedAt = .ok ()) (hunmade : unmade.error.Outage) (hlost : lost.error.Outage)
    (hbefore : unmade.effect = false) (hafter : lost.effect = true) :
    ∃ first second,
      (∃ call, call.puts deposit.latestPath ∧
        (⟨deposit.adapter, .put deposit.request, first⟩ : Step).struck provider bucket =
          [(call, unmade)]) ∧
      (∃ version, (⟨deposit.adapter, .delete request, second⟩ : Step).struck provider
        ((⟨deposit.adapter, .put deposit.request, first⟩ : Step).run provider bucket).2 =
          [(.deleteObject deposit.referencePath version, lost)]) ∧
      ∀ key, (runSteps provider bucket [⟨deposit.adapter, .put deposit.request, first⟩,
        ⟨deposit.adapter, .delete request, second⟩]).entries key = bucket.entries key := by
  obtain ⟨call, hputs, hcall⟩ := h.finds.calls_pointer provider h.unblocked
  have hsingle : ¬call.multipart := by
    obtain ⟨_, _, _, _, _, rfl⟩ := hputs
    exact not_false
  obtain ⟨first, failure, reached, hstruck, hcut, hsame⟩ :=
    h.finds.struck_at h.unblocked hcall hsingle hunmade
  rw [Deposit.phaseAt_latest hputs, hbefore] at hsame
  have hrun : ((⟨deposit.adapter, .put deposit.request, first⟩ : Step).run provider bucket).2 =
      reached := by
    simp only [Step.run, S3ObjectAdapter.execute]
    rw [runFaulty_map, hcut]
  have hsound : deposit.adapter.layout.Sound hashed reached := by
    have halone := put_alone provider h.before.sound h.hashes first
    rw [hcut] at halone
    exact halone.1
  have hlegible : deposit.adapter.layout.Legible reached :=
    (Deposit.reach_legible h.before.legible h.pointer h.reference .reference).same hsame
  have hrecorded : deposit.adapter.layout.Recorded reached deposit.resource deposit.object
      deposit.hash (deposit.published provider bucket) :=
    S3Layout.recorded_congr (congrFun hsame.entries _) (h.finds.reach_recorded (Or.inl rfl))
  have hversioned : reached.versioned = false :=
    (hsame.versioned.trans (deposit.reach_versioned provider bucket .reference)).trans hunversioned
  have hobject : ObjectCommon.encodeUtf8 reference.objectId ∈ hashed :=
    hdelete.object ▸ h.hashes.objectId
  have hpermits : deposit.adapter.Permits reached request reference.objectId deposit.hash := by
    refine ⟨_, ?_, hallowed⟩
    rw [hdelete.resource, hdelete.object]
    exact hrecorded
  obtain ⟨second, version, hlast, hentries⟩ := S3ObjectAdapter.delete_withdraws hlegible hsound
    h.free hobject hversioned hdelete.names hpermits hlost hafter
  rw [hdelete.resource, hdelete.object] at hlast hentries
  refine ⟨first, second, ⟨call, hputs, ?_⟩, ⟨version, ?_⟩, fun key => ?_⟩
  · simpa only [Step.struck, S3ObjectAdapter.execute, struck_map] using hstruck
  · rw [hrun]
    simp only [Step.struck, S3ObjectAdapter.execute, struck_map]
    exact hlast
  · rw [runSteps_cons, hrun, runSteps_cons, runSteps_nil, Deposit.run_delete, hentries]
    change (if key = deposit.blobPath ∨ key = deposit.referencePath then [] else _) = _
    split
    · rename_i hkey
      rcases hkey with rfl | rfl
      · exact hblob.symm
      · exact (h.fresh deposit.hash).symm
    · rename_i hkey
      obtain ⟨hnotBlob, hnotReference⟩ := not_or.mp hkey
      rw [hsame.entries]
      exact (Store.put_entries_of_ne _ hnotReference _).trans (Store.put_entries_of_ne _ hnotBlob _)

-- Where every key holds what it held, the put lands again.
theorem Deposit.Lands.acknowledges_alike {deposit : Deposit}
    (h : deposit.Lands provider hashed bucket) (hunversioned : bucket.versioned = false)
    (hversioned : after.versioned = false)
    (hentries : ∀ key, after.entries key = bucket.entries key) :
    ∃ final, (deposit.adapter.put deposit.request).runFaulty provider.handle [] after =
        (.ok deposit.metadata, final) ∧ deposit.adapter.layout.Legible final := by
  have hcurrent (key : String) : after.current key = bucket.current key :=
    Store.current_congr (hentries key)
  have hfinds : deposit.Finds after := by
    apply h.finds.elsewhere (hentries _)
    rw [S3ObjectAdapter.latestEnvelope_congr (hcurrent _) fun _ => hcurrent _]
  have hunblocked : ¬deposit.Blocked after := by
    unfold Deposit.Blocked
    rw [hcurrent, hcurrent, hcurrent]
    exact h.unblocked
  have hlegible : deposit.adapter.layout.Legible after := by
    intro physical stored hstored
    rw [hcurrent] at hstored
    exact h.before.legible physical stored hstored
  have hpublished : deposit.published provider after = deposit.published provider bucket := by
    simp only [Deposit.published, Provider.reportedVersion, hunversioned, hversioned,
      Bool.false_eq_true, if_false]
  have hreference : deposit.adapter.layout.legible
      ((deposit.published provider after).toDict deposit.adapter.common) :=
    hpublished ▸ h.reference
  obtain ⟨hcommits, hsame⟩ : ((deposit.adapter.put deposit.request).run provider.handle after).1 =
        .ok deposit.metadata ∧
      SameObjects (deposit.pointerStored provider after)
        ((deposit.adapter.put deposit.request).run provider.handle after).2 :=
    hfinds.commits hunblocked
  rw [runFaulty_nil]
  exact ⟨_, Prod.ext hcommits rfl,
    (Deposit.reach_legible hlegible h.pointer hreference .pointer).same hsame⟩

namespace Standard

-- The put of the sample object, cut off, and the delete that takes it back, cut off too.
def takenBack (first second : Plan Failure) : List Step :=
  [⟨Standard.adapter, .put one.request, first⟩,
    ⟨Standard.adapter, .delete (deleteRequest one.hash 2), second⟩]

theorem takenBack_joins (first second : Plan Failure) :
    ∀ step ∈ takenBack first second, step.Joins Standard.adapter.layout Standard.hashed := by
  intro step hstep
  simp only [takenBack, List.mem_cons, List.not_mem_nil, or_false] at hstep
  rcases hstep with rfl | rfl
  · refine ⟨rfl, ?_⟩
    rintro request ⟨⟩
    exact one_first.hashes
  · exact ⟨rfl, fun _ h => nomatch h⟩

theorem takenBack_versioned (first second : Plan Failure) :
    (runSteps Standard.provider (Store.empty false) (takenBack first second)).versioned = false :=
  runSteps_versioned (takenBack_joins first second) (S3Layout.sound_empty _ _ _)

end Standard

-- The sample object is put again after that, and can be read.
theorem first_put_readable : ∃ first second envelope after,
    Along Standard.provider (fun step bucket => step.struck Standard.provider bucket ≠ [])
      (Store.empty false) (Standard.takenBack first second) ∧
    (Standard.adapter.put Standard.one.request).runFaulty Standard.provider.handle []
      (runSteps Standard.provider (Store.empty false) (Standard.takenBack first second)) =
        (.ok Standard.one.metadata, after) ∧
    (Standard.adapter.stat ⟨Standard.one.request.resource, Standard.common.referenceToDict
      Standard.stableReference, "stat"⟩).run Standard.provider.handle after =
        (.ok envelope, after) ∧
    envelope.metadata = Standard.one.metadata := by
  obtain ⟨first, second, ⟨call, hputs, hstruck⟩, ⟨version, hlast⟩, hentries⟩ :=
    Standard.one_first.withdrawn rfl rfl
      (Standard.deleted false .null .immutable "version-one" 1 2) rfl Standard.lostCall_outage
      Standard.lostReply_outage rfl rfl
  change Step.struck Standard.provider ⟨Standard.adapter, .put Standard.one.request, first⟩
    (Store.empty false) = _ at hstruck
  change Step.struck Standard.provider
    ⟨Standard.adapter, .delete (Standard.deleteRequest Standard.one.hash 2), second⟩
    (Step.run Standard.provider ⟨Standard.adapter, .put Standard.one.request, first⟩
      (Store.empty false)).2 = _ at hlast
  have hwhole : Along Standard.provider (Step.Whole Standard.provider) (Store.empty false)
      (Standard.takenBack first second) := by
    refine ⟨?_, ?_, trivial⟩
    · intro found fault hmem
      obtain ⟨_, _, _, _, _, rfl⟩ := hputs
      rw [hstruck, List.mem_singleton, Prod.mk.injEq] at hmem
      rw [hmem.1]
      rintro ⟨_, _, _, _, ⟨hdelete, -⟩ | ⟨hdelete, -⟩⟩ <;> cases hdelete
    · intro found fault hmem
      rw [hlast, List.mem_singleton, Prod.mk.injEq] at hmem
      obtain ⟨rfl, rfl⟩ := hmem
      rintro ⟨_, _, _, _, ⟨hdelete, -⟩ | ⟨-, heffect⟩⟩
      · injection hdelete with hkey
        change Standard.adapter.layout.path (.reference _ _ _) =
          Standard.adapter.layout.path _ at hkey
        simp at hkey
      · cases heffect
  have hinterrupted : Along Standard.provider
      (fun step bucket => step.struck Standard.provider bucket ≠ []) (Store.empty false)
        (Standard.takenBack first second) := by
    refine ⟨?_, ?_, trivial⟩
    · change Step.struck _ _ _ ≠ []
      rw [hstruck]
      exact List.cons_ne_nil _ _
    · change Step.struck _ _ _ ≠ []
      rw [hlast]
      exact List.cons_ne_nil _ _
  obtain ⟨after, hput, hlegible⟩ := Standard.one_first.acknowledges_alike rfl
    (Standard.takenBack_versioned first second) hentries
  obtain ⟨envelope, content, name, blob, hstat, hmetadata, -⟩ :=
    acknowledged_put_readable Standard.collisionFree false (Standard.takenBack first second)
      (Standard.takenBack_joins first second) hwhole
      Standard.one.request [] Standard.one.metadata rfl Standard.one_first.hashes hput hlegible
      Standard.adapter rfl (Standard.common.referenceToDict Standard.stableReference)
      Standard.stableReference rfl rfl rfl
  exact ⟨first, second, envelope, after, hinterrupted, hput, hstat, hmetadata⟩

end MeridianS3
