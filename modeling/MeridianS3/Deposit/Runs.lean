import MeridianS3.Deposit.Failing
import MeridianS3.Effect.Advance
import MeridianS3.Minted

namespace MeridianS3

open Effect ObjectStore Json

variable {provider : Provider} {hashed : Set Bytes} {bucket after : Bucket} {deposit : Deposit}
variable {adapter : S3ObjectAdapter} {request : PutRequest}

namespace S3ObjectAdapter

theorem Settles.run_putIntent {intent : PutIntent} {content : Bytes} {chunks : List String}
    {latest : Option StoredEnvelope}
    (h : adapter.Settles request bucket intent content chunks latest) :
    (adapter.putIntent request).run provider.handle bucket = (.ok intent, bucket) := by
  have hwithin : (adapter.putIntent request).Within (S3Call.reads anything anything) :=
    adapter.putIntent_within request trivial fun _ _ => trivial
  apply Prod.ext
  · exact run_putIntent_ok.mpr ⟨h.intends, latest, h.seen, h.creates⟩
  · exact hwithin.run_state provider.handle_reads bucket

-- The except clause hands on what has succeeded.
theorem run_failing_ok {α : Type} {flag : Bool} {program : S3M α} {value : α} :
    (failing flag program).run provider.handle bucket = (.ok value, after) ↔
      program.run provider.handle bucket = (.ok value, after) := by
  unfold failing
  rw [Program.run_tryCatch]
  generalize program.run provider.handle bucket = run
  obtain ⟨result, final⟩ := run
  cases result with
  | ok found => exact Iff.rfl
  | error failure => simp [Program.onError]

theorem latestEnvelope_same {resource : ResourceRef} {objectId : String}
    (h : SameObjects bucket after) :
    adapter.latestEnvelope after resource objectId =
      adapter.latestEnvelope bucket resource objectId :=
  latestEnvelope_congr (h.current _) fun _ => h.current _

-- What a put returns without writing is the metadata of the latest version.
theorem Returns.latest {metadata : ObjectMetadata} (h : adapter.Returns request bucket metadata) :
    ∃ envelope, adapter.latestEnvelope bucket request.resource request.input.objectId =
      .ok envelope ∧ envelope.metadata = metadata := by
  obtain ⟨intent, content, chunks, latest, hsettles, hreturn⟩ := h
  cases latest with
  | none => simp [checkExisting] at hreturn
  | some envelope =>
      exact ⟨envelope, missingAsNone_some hsettles.seen, (checkExisting_some hreturn).1.symm⟩

theorem Returns.unique {metadata other : ObjectMetadata}
    (h : adapter.Returns request bucket metadata) (hother : adapter.Returns request bucket other) :
    other = metadata := by
  obtain ⟨envelope, hlatest, rfl⟩ := h.latest
  obtain ⟨found, hfound, rfl⟩ := hother.latest
  rw [hlatest, Except.ok.injEq] at hfound
  rw [hfound]

-- A put that returns without writing.
theorem Returns.run {metadata : ObjectMetadata} (provider : Provider)
    (h : adapter.Returns request bucket metadata) :
    ((adapter.put request).run provider.handle bucket).1 = .ok metadata ∧
      SameObjects bucket ((adapter.put request).run provider.handle bucket).2 := by
  have hends : PutEnds provider adapter request unfailing bucket
      ((adapter.put request).run provider.handle bucket).1
      ((adapter.put request).run provider.handle bucket).2 := put_unfailing request
  generalize (adapter.put request).run provider.handle bucket = run at hends ⊢
  rcases run with ⟨result, after⟩
  cases hends with
  | refused failure _ hsame hcause =>
      rcases hcause with ⟨_, _, hfault, -⟩ | ⟨hnone, -⟩
      · exact hfault.elim
      · exact absurd h (hnone _)
  | returned found _ hsame hreturns =>
      obtain rfl := h.unique hreturns
      exact ⟨rfl, hsame⟩
  | blocked other _ _ _ hadapter hrequest hfinds =>
      exact absurd hfinds (h.not_finds hadapter hrequest)
  | cut _ _ _ _ _ _ _ _ _ hfault => exact hfault.elim
  | committed other _ hadapter hrequest hfinds =>
      exact absurd hfinds (h.not_finds hadapter hrequest)

end S3ObjectAdapter

namespace Deposit

-- A put with nothing in its way commits what it has settled.
theorem Finds.commits (hfinds : deposit.Finds bucket) (hfree : ¬deposit.Blocked bucket) :
    ((deposit.adapter.put deposit.request).run provider.handle bucket).1 =
        .ok deposit.metadata ∧
      SameObjects (deposit.pointerStored provider bucket)
        ((deposit.adapter.put deposit.request).run provider.handle bucket).2 := by
  have hends : PutEnds provider deposit.adapter deposit.request unfailing bucket
      ((deposit.adapter.put deposit.request).run provider.handle bucket).1
      ((deposit.adapter.put deposit.request).run provider.handle bucket).2 := put_unfailing _
  generalize (deposit.adapter.put deposit.request).run provider.handle bucket = run at hends ⊢
  rcases run with ⟨result, after⟩
  cases hends with
  | refused failure _ _ hcause =>
      rcases hcause with ⟨_, _, hfault, -⟩ | ⟨-, hnone⟩
      · exact hfault.elim
      · exact absurd hfinds (hnone deposit rfl rfl)
  | returned metadata _ _ hreturns => exact absurd hfinds (hreturns.not_finds rfl rfl)
  | blocked other _ failure _ hadapter hrequest hother hblocked =>
      obtain rfl := hfinds.unique hother hadapter hrequest
      exact absurd hblocked hfree
  | cut _ _ _ _ _ _ _ _ _ hfault => exact hfault.elim
  | committed other _ hadapter hrequest hother _ hsame =>
      obtain rfl := hfinds.unique hother hadapter hrequest
      exact ⟨rfl, hsame⟩

-- A put that is blocked leaves what it has written up to there.
theorem Finds.blocks (provider : Provider) (hfinds : deposit.Finds bucket)
    (hblocked : deposit.Blocked bucket) :
    (∃ failure, ((deposit.adapter.put deposit.request).run provider.handle bucket).1 =
        .error failure) ∧
      deposit.adapter.layout.Beside (deposit.reach provider bucket (deposit.halts bucket))
        ((deposit.adapter.put deposit.request).run provider.handle bucket).2 := by
  have hends : PutEnds provider deposit.adapter deposit.request unfailing bucket
      ((deposit.adapter.put deposit.request).run provider.handle bucket).1
      ((deposit.adapter.put deposit.request).run provider.handle bucket).2 := put_unfailing _
  generalize (deposit.adapter.put deposit.request).run provider.handle bucket = run at hends ⊢
  rcases run with ⟨result, after⟩
  cases hends with
  | refused failure _ _ hcause =>
      rcases hcause with ⟨_, _, hfault, -⟩ | ⟨-, hnone⟩
      · exact hfault.elim
      · exact absurd hfinds (hnone deposit rfl rfl)
  | returned metadata _ _ hreturns => exact absurd hfinds (hreturns.not_finds rfl rfl)
  | blocked other phase failure _ hadapter hrequest hother _ _ hbeside hhalts =>
      obtain rfl := hfinds.unique hother hadapter hrequest
      rw [hhalts] at hbeside
      exact ⟨⟨failure, rfl⟩, hbeside⟩
  | cut _ _ _ _ _ _ _ _ _ hfault => exact hfault.elim
  | committed other _ hadapter hrequest hother hfree =>
      obtain rfl := hfinds.unique hother hadapter hrequest
      exact absurd hblocked hfree

-- A put that a single failure strikes stops at the phase that the call belongs to.
theorem Finds.cut_off (hfinds : deposit.Finds bucket) (hfree : ¬deposit.Blocked bucket)
    {plan : Plan Failure} {call : S3Call} {fault : Fault Failure} (houtage : fault.error.Outage)
    (hstruck : (deposit.adapter.put deposit.request).struck provider.handle plan bucket =
      [(call, fault)]) {failure : Failure}
    (hcut : (deposit.adapter.put deposit.request).runFaulty provider.handle plan bucket =
      (.error failure, after)) :
    ∃ phase, deposit.Stops call fault.effect phase ∧
      SameObjects (deposit.reach provider bucket phase) after := by
  let strikes (found : S3Call) (struck : Fault Failure) : Prop := found = call ∧ struck = fault
  have houtages : S3ObjectAdapter.Outages strikes := by
    rintro found struck ⟨-, rfl⟩
    exact houtage
  have hput : Verified provider.handle (solo strikes).protocol (deposit.adapter.put
      deposit.request) ∅ bucket fun result _ after =>
        PutEnds provider deposit.adapter deposit.request strikes bucket result after :=
    put_ends houtages
  obtain ⟨-, -, hends⟩ := hput.runFaulty Discipline.rely_refl trivial plan
    fun found struck h => by
      rw [hstruck, List.mem_singleton, Prod.mk.injEq] at h
      exact h
  rw [hcut] at hends
  cases hends with
  | refused _ _ hsame hcause =>
      rcases hcause with ⟨found, struck, hfault, hstart⟩ | ⟨-, hnone⟩
      · obtain ⟨rfl, rfl⟩ := hfault
        exact ⟨.start, Or.inl (hstart deposit rfl rfl).symm, hsame⟩
      · exact absurd hfinds (hnone deposit rfl rfl)
  | blocked other _ _ _ hadapter hrequest hother hblocked =>
      obtain rfl := hfinds.unique hother hadapter hrequest
      exact absurd hblocked hfree
  | cut other found struck phase _ _ hadapter hrequest hother hfault hstops hsame =>
      obtain rfl := hfinds.unique hother hadapter hrequest
      obtain ⟨rfl, rfl⟩ := hfault
      exact ⟨phase, hstops, hsame⟩

-- The version that a put has stored is what the same put asks for.
theorem checkExisting_published (deposit : Deposit) (provider : Provider) (bucket : Bucket)
    (hagain : deposit.request.input.createOnly = false) :
    S3ObjectAdapter.checkExisting deposit.request deposit.intent
      (deposit.adapter.common.digest deposit.content) (some (deposit.published provider bucket)) =
        .ok (some deposit.metadata) := by
  simp [S3ObjectAdapter.checkExisting, S3ObjectAdapter.requireIdempotentMetadata, hagain,
    published, envelope, S3ObjectAdapter.newEnvelope, S3ObjectAdapter.newMetadata, identity, bind,
    Except.bind, pure, Except.pure, metadata]

-- A put of what is the latest version already returns it, whatever became of its blob.
theorem Finds.returns (hfinds : deposit.Finds bucket)
    (hagain : deposit.request.input.createOnly = false)
    (hprofile : after.entries (deposit.adapter.layout.resourceKey deposit.request.resource) =
      bucket.entries (deposit.adapter.layout.resourceKey deposit.request.resource))
    (hlatest : deposit.adapter.latestEnvelope after deposit.request.resource
      deposit.request.input.objectId = .ok (deposit.published provider bucket)) :
    deposit.adapter.Returns deposit.request after deposit.metadata := by
  obtain ⟨latest, hsettles, -⟩ := hfinds.settles
  obtain ⟨profile, hfound, hintent⟩ := hsettles.intends
  have hsame := (S3ObjectAdapter.profileAt_congr hprofile).trans hfound
  have hseen : missingAsNone (deposit.adapter.latestEnvelope after deposit.request.resource
      deposit.request.input.objectId) = .ok (some (deposit.published provider bucket)) := by
    rw [hlatest]
    rfl
  have hcreates : ¬((some (deposit.published provider bucket)).isSome ∧
      deposit.request.input.createOnly) := by
    simp [hagain]
  refine ⟨deposit.intent, deposit.content, deposit.chunks,
    some (deposit.published provider bucket),
    ⟨⟨profile, hsame, hintent⟩, hsettles.transfer, hsettles.size, hseen, hcreates⟩, ?_⟩
  exact deposit.checkExisting_published provider bucket hagain

theorem Finds.struck_fails (hfinds : deposit.Finds bucket) (hfree : ¬deposit.Blocked bucket)
    {plan : Plan Failure} {call : S3Call} {fault : Fault Failure} (houtage : fault.error.Outage)
    (hstruck : (deposit.adapter.put deposit.request).struck provider.handle plan bucket =
      [(call, fault)]) :
    ∃ failure after phase, (deposit.adapter.put deposit.request).runFaulty provider.handle plan
        bucket = (.error failure, after) ∧ deposit.Stops call fault.effect phase ∧
      SameObjects (deposit.reach provider bucket phase) after := by
  have hfails : ∃ failure, ((deposit.adapter.put deposit.request).runFaulty provider.handle plan
      bucket).1 = .error failure := by
    apply (deposit.adapter.put_heeds deposit.request).runFaulty_struck
    · intro found struck hmem
      rw [hstruck, List.mem_singleton] at hmem
      cases hmem
      exact houtage
    · simp [hstruck]
  obtain ⟨failure, hfailure⟩ := hfails
  have hcut : (deposit.adapter.put deposit.request).runFaulty provider.handle plan bucket =
      (.error failure, ((deposit.adapter.put deposit.request).runFaulty provider.handle plan
        bucket).2) := Prod.ext hfailure rfl
  obtain ⟨phase, hstops, hsame⟩ := hfinds.cut_off hfree houtage hstruck hcut
  exact ⟨failure, _, phase, hcut, hstops, hsame⟩

-- A put with nothing in its way that a single failure strikes at one of its calls, other than
-- those of a transfer in parts.
theorem Finds.struck_at (hfinds : deposit.Finds bucket) (hfree : ¬deposit.Blocked bucket)
    {call : S3Call}
    (hcall : call ∈ (deposit.adapter.put deposit.request).trace provider.handle bucket)
    (hsingle : ¬call.multipart) {fault : Fault Failure} (houtage : fault.error.Outage) :
    ∃ plan failure after, (deposit.adapter.put deposit.request).struck provider.handle plan
        bucket = [(call, fault)] ∧
      (deposit.adapter.put deposit.request).runFaulty provider.handle plan bucket =
        (.error failure, after) ∧
      SameObjects (deposit.reach provider bucket (deposit.phaseAt fault.effect call)) after := by
  obtain ⟨plan, hstruck⟩ := Program.exists_struck hcall fault
  obtain ⟨failure, after, phase, hcut, hstops, hsame⟩ := hfinds.struck_fails hfree houtage hstruck
  obtain rfl : phase = deposit.phaseAt fault.effect call :=
    hstops.resolve_right fun hparts => hsingle hparts.1
  exact ⟨plan, failure, after, hstruck, hcut, hsame⟩

-- What a put stores can be read back if its two documents can.
theorem reach_legible (hlegible : deposit.adapter.layout.Legible bucket)
    (hpointer : deposit.adapter.layout.legible (latestValue deposit.hash.digest))
    (hreference : deposit.adapter.layout.legible
      ((deposit.published provider bucket).toDict deposit.adapter.common)) (phase : PutPhase) :
    deposit.adapter.layout.Legible (deposit.reach provider bucket phase) := by
  apply hlegible.kept
  intro physical stored hcurrent hdocument
  by_cases hlatest : deposit.adapter.layout.path physical = deposit.latestPath
  · by_cases hphase : phase = .pointer
    · right
      subst hphase
      rw [hlatest] at hcurrent
      have hstored : (deposit.reach provider bucket .pointer).current deposit.latestPath =
          some (deposit.adapter.transport.jsonObject (latestValue deposit.hash.digest)
            ⟨deposit.adapter.config.serverSideEncryption, deposit.adapter.config.kmsKeyId,
              none⟩) := Store.put_current_self _ _ _
      rw [hstored, Option.some.injEq] at hcurrent
      subst hcurrent
      exact ⟨_, rfl, hpointer⟩
    · left
      refine ⟨physical, ?_, hdocument⟩
      rwa [hlatest, Store.current_congr (deposit.reach_latest_entries provider bucket hphase),
        ← hlatest] at hcurrent
  by_cases hversion : deposit.adapter.layout.path physical = deposit.referencePath
  · by_cases hphase : phase = .start ∨ phase = .blob
    · left
      refine ⟨physical, ?_, hdocument⟩
      rwa [hversion, Store.current_congr (deposit.reach_reference_entries provider bucket hphase),
        ← hversion] at hcurrent
    · right
      rw [hversion] at hcurrent
      have hstored : (deposit.referenceStored provider bucket).current deposit.referencePath =
          some (deposit.adapter.transport.jsonObject
            ((deposit.published provider bucket).toDict deposit.adapter.common)
            deposit.arguments) := Store.put_current_self _ _ _
      have hreached : (deposit.reach provider bucket phase).current deposit.referencePath =
          (deposit.referenceStored provider bucket).current deposit.referencePath := by
        cases phase with
        | start => exact absurd (Or.inl rfl) hphase
        | blob => exact absurd (Or.inr rfl) hphase
        | reference => rfl
        | pointer =>
            exact Store.current_congr (deposit.adapter.written_entries_of_ne _
              deposit.latestPath_ne_referencePath.symm _)
      rw [hreached, hstored, Option.some.injEq] at hcurrent
      subst hcurrent
      exact ⟨_, rfl, hreference⟩
  · left
    refine ⟨physical, ?_, hdocument⟩
    have hblob : deposit.adapter.layout.path physical ≠ deposit.blobPath := by
      simpa [blobPath] using hdocument deposit.resource deposit.object deposit.hash
    have hsame : (deposit.reach provider bucket phase).current
        (deposit.adapter.layout.path physical) =
          bucket.current (deposit.adapter.layout.path physical) :=
      Store.current_congr (deposit.reach_entries provider bucket phase hblob hversion hlatest)
    rwa [hsame] at hcurrent

theorem Finds.tidy (h : deposit.adapter.layout.Tidy hashed provider bucket)
    (hhashes : deposit.request.Hashes hashed) (hfinds : deposit.Finds bucket)
    (hfree : ¬deposit.Blocked bucket)
    (hpointer : deposit.adapter.layout.legible (latestValue deposit.hash.digest))
    (hreference : deposit.adapter.layout.legible
      ((deposit.published provider bucket).toDict deposit.adapter.common)) :
    deposit.adapter.layout.Tidy hashed provider
      ((deposit.adapter.put deposit.request).run provider.handle bucket).2 where
  sound := by
    have halone := put_alone provider h.sound hhashes []
    rw [runFaulty_nil] at halone
    exact halone.1
  minted := (put_unfailing deposit.request).minted h.minted
  legible := (reach_legible h.legible hpointer hreference .pointer).same (hfinds.commits hfree).2

section Calls

-- What a put settles before it writes leaves the bucket.
theorem Finds.run_putUpload (provider : Provider) (hfinds : deposit.Finds bucket) :
    (deposit.adapter.putUpload deposit.request deposit.intent).run provider.handle bucket =
        (deposit.adapter.storeBlob deposit.request deposit.intent deposit.identity
          deposit.content >>= fun stored =>
            pure (PutProgress.uploaded deposit.identity deposit.chunks stored)).run
              provider.handle bucket ∧
      ∀ call ∈ (deposit.adapter.storeBlob deposit.request deposit.intent deposit.identity
          deposit.content).trace provider.handle bucket,
        call ∈ (deposit.adapter.putUpload deposit.request deposit.intent).trace provider.handle
          bucket := by
  obtain ⟨latest, hsettles, hcheck⟩ := hfinds.settles
  obtain ⟨writes, htransfer, hstream, hfinish⟩ := hsettles.transfer
  have hlatest : (deposit.adapter.tryLatest deposit.request.resource
      deposit.request.input.objectId).run provider.handle bucket = (.ok latest, bucket) := by
    rw [S3ObjectAdapter.run_tryLatest, hsettles.seen]
  have hspooled : (IntegritySpool.new deposit.adapter.config.integrityChunkBytes).writeAll
      deposit.adapter.common writes = deposit.adapter.spooled writes := rfl
  have hdigest : deposit.adapter.common.digest deposit.content = deposit.hash.digest := rfl
  rw [S3ObjectAdapter.putUpload_eq, htransfer]
  constructor
  · rw [Program.run_bind_ok _ _ _ _ _ writes rfl]
    simp only [hspooled, hstream, hfinish]
    rw [if_neg (Nat.not_lt.mpr hsettles.size), Program.run_bind_ok _ _ _ _ _ latest hlatest,
      hdigest, hcheck, Program.run_bind_ok _ _ _ _ _ _ rfl]
    rfl
  · intro call hcall
    apply Program.mem_trace_bind (Program.run_lift _ _ _)
    simp only [hspooled, hstream]
    rw [if_neg (Nat.not_lt.mpr hsettles.size)]
    apply Program.mem_trace_bind hlatest
    rw [hdigest, hcheck]
    apply Program.mem_trace_bind (Program.run_lift _ _ _)
    exact Program.mem_trace_bind_first hcall

theorem Finds.trace_storeBlob (hfinds : deposit.Finds bucket) {call : S3Call}
    (hcall : call ∈ (deposit.adapter.storeBlob deposit.request deposit.intent deposit.identity
      deposit.content).trace provider.handle bucket) :
    call ∈ (deposit.adapter.put deposit.request).trace provider.handle bucket := by
  obtain ⟨latest, hsettles, -⟩ := hfinds.settles
  unfold S3ObjectAdapter.put
  apply Program.mem_trace_bind hsettles.run_putIntent
  apply Program.mem_trace_bind_first
  unfold S3ObjectAdapter.failing
  rw [Program.trace_tryCatch]
  exact List.mem_append_left _ ((hfinds.run_putUpload provider).2 call hcall)

-- A small payload goes up in one request.
theorem Finds.calls_blob (provider : Provider) (hfinds : deposit.Finds bucket)
    (hsingle : deposit.multipart = false) :
    ∃ header body length ifNoneMatch checksum,
      S3Call.putObject deposit.blobPath header body length ifNoneMatch checksum ∈
        (deposit.adapter.put deposit.request).trace provider.handle bucket := by
  obtain ⟨latest, hsettles, -⟩ := hfinds.settles
  have hsize : ¬deposit.adapter.transport.config.maxObjectBytes < deposit.content.length :=
    Nat.not_lt.mpr hsettles.size
  have hsmall : ¬deposit.adapter.transport.config.multipartThresholdBytes ≤
      deposit.content.length := of_decide_eq_false hsingle
  refine ⟨deposit.header, deposit.content, deposit.content.length, true,
    if deposit.adapter.transport.useChecksum deposit.intent.retention then
      some (S3Transport.removeSha256Prefix deposit.hash.digest) else none,
    hfinds.trace_storeBlob ?_⟩
  unfold S3ObjectAdapter.storeBlob identity
  have hkey : deposit.adapter.layout.blobKey deposit.request.resource
      deposit.request.input.objectId (deposit.adapter.common.digest deposit.content) =
      .ok deposit.blobPath := S3Layout.blobKey_digest ..
  simp only [ObjectCommon.identity_digest, ObjectCommon.identity_byteLength, hkey]
  apply Program.mem_trace_bind (Program.run_lift _ _ _)
  unfold S3Transport.putFile
  rw [if_neg hsize, hfinds.arguments]
  apply Program.mem_trace_bind (Program.run_pure _ _ _)
  apply Program.mem_trace_bind (Program.run_lift _ _ _)
  apply Program.mem_trace_bind_first
  unfold normalized
  rw [Program.trace_tryCatch]
  apply List.mem_append_left
  unfold S3Transport.storeFile
  rw [if_neg hsmall]
  exact Program.mem_trace_bind_first (List.mem_singleton_self _)

-- The blob, where nothing is in its way.
theorem Finds.run_storeBlob (provider : Provider) (hfinds : deposit.Finds bucket)
    (hfree : ¬(deposit.multipart = false ∧ (bucket.current deposit.blobPath).isSome = true)) :
    ∃ stored final, (deposit.adapter.storeBlob deposit.request deposit.intent deposit.identity
        deposit.content).run provider.handle bucket = (.ok stored, final) ∧
      stored.versionId = provider.reportedVersion bucket bucket.issued ∧
      SameObjects (deposit.blobStored bucket) final := by
  have hstore : Verified provider.handle (solo unfailing).protocol
      (deposit.adapter.storeBlob deposit.request deposit.intent deposit.identity deposit.content) ∅
      bucket fun result _ final => ∃ stored : StoredObject, result = .ok stored ∧
        stored.versionId = provider.reportedVersion bucket bucket.issued ∧
        SameObjects (deposit.blobStored bucket) final := by
    apply storeBlob_solo hfinds (.refl _)
    · exact fun hsmall hsome => absurd ⟨hsmall, hsome⟩ hfree
    · exact fun _ _ _ _ _ _ hf => hf.elim
    · exact fun _ stored _ final hversion hfinal => ⟨stored, rfl, hversion, hfinal⟩
  obtain ⟨-, -, stored, hresult, hversion, hfinal⟩ := hstore.run Discipline.rely_refl trivial
  exact ⟨stored, _, Prod.ext hresult rfl, hversion, hfinal⟩

-- The reference document, where nothing is in its way.
theorem Finds.run_publishReference (provider : Provider) (hfinds : deposit.Finds bucket)
    (hnone : ¬(bucket.current deposit.referencePath).isSome = true)
    (hstate : SameObjects (deposit.blobStored bucket) after) {stored : StoredObject}
    (hversion : stored.versionId = provider.reportedVersion bucket bucket.issued) :
    ∃ final, (deposit.adapter.publishReference deposit.request deposit.intent deposit.identity
        deposit.chunks stored).run provider.handle after = (.ok (), final) ∧
      SameObjects (deposit.referenceStored provider bucket) final := by
  have hpublish : Verified provider.handle (solo unfailing).protocol
      (deposit.adapter.publishReference deposit.request deposit.intent deposit.identity
        deposit.chunks stored) ∅ after fun result _ final =>
          result = .ok () ∧ SameObjects (deposit.referenceStored provider bucket) final := by
    apply publishReference_solo hfinds hstate hversion
    · exact fun hsome => absurd hsome hnone
    · exact fun _ _ _ _ _ hf => hf.elim
    · exact fun _ final hfinal => ⟨rfl, hfinal⟩
  obtain ⟨-, -, hresult, hfinal⟩ := hpublish.run Discipline.rely_refl trivial
  exact ⟨_, Prod.ext hresult rfl, hfinal⟩

-- A put that commits comes to its pointer write, with the reference document behind it.
theorem Finds.reaches_pointer (provider : Provider) (hfinds : deposit.Finds bucket)
    (hfree : ¬deposit.Blocked bucket) :
    ∃ call next between, S3Call.puts deposit.latestPath call ∧
      (deposit.adapter.put deposit.request).Advances provider.handle bucket (.call call next)
        between ∧ SameObjects (deposit.referenceStored provider bucket) between := by
  obtain ⟨latest, hsettles, -⟩ := hfinds.settles
  obtain ⟨stored, middle, hstore, hversion, hmiddle⟩ :=
    hfinds.run_storeBlob provider fun h => hfree (Or.inl h)
  obtain ⟨between, hpublish, hbetween⟩ :=
    hfinds.run_publishReference provider (fun h => hfree (Or.inr (Or.inl h))) hmiddle hversion
  have hupload : (S3ObjectAdapter.failing false
      (deposit.adapter.putUpload deposit.request deposit.intent)).run provider.handle bucket =
        (.ok (.uploaded deposit.identity deposit.chunks stored), middle) := by
    rw [S3ObjectAdapter.run_failing_ok, (hfinds.run_putUpload provider).1,
      Program.run_bind_ok _ _ _ _ _ _ hstore]
    rfl
  -- The pointer write is the first call of what comes after the reference document.
  have hpointer : ∃ call next, S3Call.puts deposit.latestPath call ∧
      deposit.adapter.publishLatest deposit.request deposit.intent deposit.identity.digest =
        .call call next := by
    unfold S3ObjectAdapter.publishLatest S3Transport.putJson
    rw [S3ObjectAdapter.writeArguments_none]
    exact ⟨_, _, ⟨_, _, _, _, _, rfl⟩, rfl⟩
  obtain ⟨call, next, hputs, hcall⟩ := hpointer
  have hpublishes : ∃ rest, (S3ObjectAdapter.failing true (deposit.adapter.publish deposit.request
      deposit.intent deposit.identity deposit.chunks stored)).Advances provider.handle middle
        (.call call rest) between := by
    unfold S3ObjectAdapter.failing S3ObjectAdapter.publish
    rw [hcall]
    exact ⟨_, (Program.Advances.seq hpublish (.here _ _)).tryCatch _⟩
  obtain ⟨rest, hrest⟩ := hpublishes
  refine ⟨call, rest, between, hputs, ?_, hbetween⟩
  unfold S3ObjectAdapter.put
  apply Program.Advances.seq hsettles.run_putIntent
  apply Program.Advances.seq hupload
  exact hrest

-- A put that commits writes its pointer.
theorem Finds.calls_pointer (provider : Provider) (hfinds : deposit.Finds bucket)
    (hfree : ¬deposit.Blocked bucket) :
    ∃ call : S3Call, call.puts deposit.latestPath ∧
      call ∈ (deposit.adapter.put deposit.request).trace provider.handle bucket := by
  obtain ⟨call, next, between, hputs, hadvances, -⟩ := hfinds.reaches_pointer provider hfree
  exact ⟨call, hputs, hadvances.mem_trace⟩

end Calls

end Deposit

end MeridianS3
