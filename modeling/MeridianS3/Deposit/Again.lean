import MeridianS3.Deposit.First
import MeridianS3.Publication.Verification

namespace MeridianS3

open Effect ObjectStore Json

section Again

variable {adapter other : S3ObjectAdapter} {request again : PutRequest} {content : Bytes}
variable {provider : Provider} {bucket after : Bucket} {profile : Value} {intent : PutIntent}

namespace S3ObjectAdapter

-- What a put makes of its request.
structure IntentOf (adapter : S3ObjectAdapter) (request : PutRequest) (profile : Value)
    (intent : PutIntent) : Prop where
  mutability : adapter.common.effectiveImmutability profile request.input.immutability =
    .ok intent.mutability
  retention : ∃ wanted, parseRetentionRequest adapter.common request.input.retention = .ok wanted ∧
    RetentionRecord.fromRequest wanted adapter.config = .ok intent.retention
  creationContext : frozenMapping request.input.creationContext "creationContext" =
    .ok intent.creationContext
  provenance : adapter.rawProvenance request.input.provenance = .ok intent.provenance
  payload : ∃ raw, jsonMapping request.input.payload "payload" = .ok raw ∧
    adapter.common.payloadReferenceFromMapping raw = .ok intent.payload

theorem intentFrom_ok :
    adapter.intentFrom profile request = .ok intent ↔ adapter.IntentOf request profile intent := by
  constructor
  · intro h
    obtain ⟨mutability, hmutability, h⟩ := bind_ok h
    obtain ⟨wanted, hwanted, h⟩ := bind_ok h
    obtain ⟨retention, hretention, h⟩ := bind_ok h
    obtain ⟨creationContext, hcontext, h⟩ := bind_ok h
    obtain ⟨provenance, hprovenance, h⟩ := bind_ok h
    obtain ⟨raw, hraw, h⟩ := bind_ok h
    obtain ⟨payload, hpayload, h⟩ := bind_ok h
    obtain rfl := Except.ok.inj h
    exact ⟨hmutability, ⟨wanted, hwanted, hretention⟩, hcontext, hprovenance, raw, hraw, hpayload⟩
  · rintro ⟨hmutability, ⟨wanted, hwanted, hretention⟩, hcontext, hprovenance, raw, hraw, hpayload⟩
    simp only [intentFrom, hmutability, hwanted, hretention, hcontext, hprovenance, hraw, hpayload,
      bind, Except.bind, pure, Except.pure]

-- The caller's provenance and the adapter's entry in it.
theorem rawProvenance_ok {value : Frozen} {provenance : Mapping} :
    adapter.rawProvenance value = .ok provenance ↔
      ∃ given, frozenMapping value "provenance" = .ok given ∧
        given.contains "meridian.adapter" = false ∧
        provenance = given.insert "meridian.adapter" adapter.adapterEntry := by
  constructor
  · intro h
    obtain ⟨given, hgiven, h⟩ := bind_ok h
    by_cases hreserved : given.contains "meridian.adapter" = true
    · simp only [hreserved, if_true] at h
      cases h
    · simp only [hreserved] at h
      exact ⟨given, hgiven, Bool.eq_false_iff.mpr hreserved, (Except.ok.inj h).symm⟩
  · rintro ⟨given, hgiven, hfree, rfl⟩
    simp only [rawProvenance, hgiven, hfree, bind, Except.bind, pure, Except.pure]
    rfl

end S3ObjectAdapter

-- One request at two adapters on the same bucket and prefix. Their versions, profiles and
-- sizes may differ.
structure S3ObjectAdapter.Repeats (adapter other : S3ObjectAdapter) (request again : PutRequest)
    (content : Bytes) : Prop where
  common : other.common = adapter.common
  keyPrefix : other.config.keyPrefix = adapter.config.keyPrefix
  objectLockMode : other.config.objectLockMode = adapter.config.objectLockMode
  resource : again.resource = request.resource
  input : again.input = { request.input with payload := again.input.payload }
  uploads : adapter.uploadContent request = .ok content
  uploadsAgain : other.uploadContent again = .ok content
  size : content.length ≤ other.config.maxObjectBytes

namespace S3ObjectAdapter.Repeats

theorem layout (h : adapter.Repeats other request again content) :
    other.layout = adapter.layout := by
  simp only [S3ObjectAdapter.layout, S3Layout.ofConfig, S3Config.namespaceRoot, h.common,
    h.keyPrefix]

theorem document (h : adapter.Repeats other request again content) (bucket : Bucket)
    (key : String) : other.transport.document bucket key = adapter.transport.document bucket key := by
  simp only [S3Transport.document, S3Transport.decodeJson, S3ObjectAdapter.transport, h.common]

theorem profileAt (h : adapter.Repeats other request again content) (bucket : Bucket) :
    other.profileAt bucket again.resource = adapter.profileAt bucket request.resource := by
  have hstored (found : Option Value) : other.storedProfile found = adapter.storedProfile found := by
    simp only [S3ObjectAdapter.storedProfile, h.common]
  simp only [S3ObjectAdapter.profileAt, h.layout, h.resource, h.document]
  congr 1
  exact funext hstored

theorem latestEnvelope (h : adapter.Repeats other request again content) (bucket : Bucket) :
    other.latestEnvelope bucket again.resource again.input.objectId =
      adapter.latestEnvelope bucket request.resource request.input.objectId := by
  have hobject : again.input.objectId = request.input.objectId := by rw [h.input]
  have hchecked (digest : String) (value : Value) :
      other.checkedEnvelope request.input.objectId digest value =
        adapter.checkedEnvelope request.input.objectId digest value := by
    simp only [S3ObjectAdapter.checkedEnvelope, h.common]
  simp only [S3ObjectAdapter.latestEnvelope, S3ObjectAdapter.latestDigest, h.layout, h.resource,
    hobject, h.document]
  congr 1
  funext digest
  simp only [S3ObjectAdapter.envelopeAt, h.layout, h.document]
  congr 1
  funext key
  congr 1
  exact funext (hchecked digest)

theorem fromRequest (h : adapter.Repeats other request again content)
    (wanted : Option RetentionRequest) :
    RetentionRecord.fromRequest wanted other.config =
      RetentionRecord.fromRequest wanted adapter.config := by
  have henforced : other.config.retentionEnforcement = adapter.config.retentionEnforcement := by
    simp only [S3Config.retentionEnforcement, h.objectLockMode]
  unfold RetentionRecord.fromRequest
  rw [henforced, h.objectLockMode]

-- The payload of a put is what its transfer makes of the reference.
theorem uploadContent_ok (h : adapter.uploadContent request = .ok content) :
    ∃ raw payload writes, jsonMapping request.input.payload "payload" = .ok raw ∧
      adapter.common.payloadReferenceFromMapping raw = .ok payload ∧
      request.transfer payload = .ok writes ∧ (adapter.spooled writes).stream = content := by
  obtain ⟨raw, hraw, h⟩ := bind_ok h
  obtain ⟨payload, hpayload, h⟩ := bind_ok h
  obtain ⟨writes, hwrites, h⟩ := bind_ok h
  exact ⟨raw, payload, writes, hraw, hpayload, hwrites, Except.ok.inj h⟩

variable {repeated : PutIntent}

theorem exists_intent (h : adapter.Repeats other request again content)
    (hintent : adapter.IntentOf request profile intent) :
    ∃ repeated, other.IntentOf again profile repeated := by
  obtain ⟨given, hgiven, hfree, -⟩ := S3ObjectAdapter.rawProvenance_ok.mp hintent.provenance
  obtain ⟨wanted, hwanted, hretention⟩ := hintent.retention
  obtain ⟨raw, payload, writes, hraw, hpayload, -⟩ := uploadContent_ok h.uploadsAgain
  refine ⟨⟨intent.mutability, intent.retention, intent.creationContext,
    given.insert "meridian.adapter" other.adapterEntry, payload⟩, ?_, ⟨wanted, ?_, ?_⟩, ?_, ?_,
    raw, hraw, hpayload⟩
  · rw [h.common, h.input]
    exact hintent.mutability
  · rw [h.common, h.input]
    exact hwanted
  · rw [h.fromRequest]
    exact hretention
  · rw [h.input]
    exact hintent.creationContext
  · rw [h.input]
    exact S3ObjectAdapter.rawProvenance_ok.mpr ⟨given, hgiven, hfree, rfl⟩

-- The two differ in the adapter's entry at most.
theorem same_intent (h : adapter.Repeats other request again content)
    (hintent : adapter.IntentOf request profile intent)
    (hrepeated : other.IntentOf again profile repeated) :
    repeated.mutability = intent.mutability ∧ repeated.retention = intent.retention ∧
      repeated.creationContext = intent.creationContext ∧
      ∃ given, intent.provenance = Mapping.insert given "meridian.adapter" adapter.adapterEntry ∧
        repeated.provenance = given.insert "meridian.adapter" other.adapterEntry := by
  have hmutability := hrepeated.mutability
  rw [h.common, h.input, hintent.mutability, Except.ok.injEq] at hmutability
  obtain ⟨wanted, hwanted, hretention⟩ := hintent.retention
  obtain ⟨wanted', hwanted', hretention'⟩ := hrepeated.retention
  rw [h.common, h.input, hwanted, Except.ok.injEq] at hwanted'
  subst hwanted'
  rw [h.fromRequest, hretention, Except.ok.injEq] at hretention'
  have hcontext := hrepeated.creationContext
  rw [h.input, hintent.creationContext, Except.ok.injEq] at hcontext
  obtain ⟨given, hgiven, -, hfirst⟩ := S3ObjectAdapter.rawProvenance_ok.mp hintent.provenance
  obtain ⟨given', hgiven', -, hsecond⟩ := S3ObjectAdapter.rawProvenance_ok.mp hrepeated.provenance
  rw [h.input, hgiven, Except.ok.injEq] at hgiven'
  subst hgiven'
  exact ⟨hmutability.symm, hretention'.symm, hcontext.symm, given, hfirst, hsecond⟩

end S3ObjectAdapter.Repeats

namespace S3ObjectAdapter

-- The one version that a pointer and its reference can be read as.
theorem latestEnvelope_found {resource : ResourceRef} {objectId : String} {hash : HexDigest}
    {envelope found : StoredEnvelope}
    (hpoints : adapter.layout.Points bucket (adapter.layout.resourceToken resource)
      (adapter.layout.objectToken objectId) hash)
    (hrecorded : adapter.layout.Recorded bucket (adapter.layout.resourceToken resource)
      (adapter.layout.objectToken objectId) hash envelope)
    (h : adapter.latestEnvelope bucket resource objectId = .ok found) : found = envelope := by
  obtain ⟨digest, hdigest, hfound⟩ := bind_ok h
  obtain ⟨pointer, hpointer, hread⟩ := bind_ok hdigest
  obtain ⟨stored, hcurrent, hbody⟩ := hpoints
  obtain rfl := S3Transport.document_ok hcurrent hbody (latestValue_canonical _) hpointer
  rw [pointerDigest_latestValue, Except.ok.injEq] at hread
  subst hread
  obtain ⟨key, hkey, hfound⟩ := bind_ok hfound
  rw [S3Layout.referenceKey_digest, Except.ok.injEq] at hkey
  subst hkey
  obtain ⟨value, hvalue, hchecked⟩ := bind_ok hfound
  obtain ⟨hcanonical, kept, hkept, hdocument⟩ := hrecorded
  obtain rfl := S3Transport.document_ok hkept hdocument hcanonical hvalue
  have hparsed := (StoredEnvelope.fromMapping_toDict adapter.common envelope).symm.trans
    (checkedEnvelope_ok hchecked).1
  exact (Except.ok.inj hparsed).symm

-- A version that can be read is within the bound of its documents.
theorem latestEnvelope_bounded {resource : ResourceRef} {objectId : String} {hash : HexDigest}
    {envelope found : StoredEnvelope}
    (hpoints : adapter.layout.Points bucket (adapter.layout.resourceToken resource)
      (adapter.layout.objectToken objectId) hash)
    (hrecorded : adapter.layout.Recorded bucket (adapter.layout.resourceToken resource)
      (adapter.layout.objectToken objectId) hash envelope)
    (h : adapter.latestEnvelope bucket resource objectId = .ok found) :
    adapter.layout.legible (latestValue hash.digest) ∧
      adapter.layout.legible (envelope.toDict adapter.common) := by
  obtain ⟨digest, hdigest, hfound⟩ := bind_ok h
  obtain ⟨pointer, hpointer, hread⟩ := bind_ok hdigest
  obtain ⟨stored, hcurrent, hbody⟩ := hpoints
  have hlength := S3Transport.document_length hcurrent hpointer
  obtain rfl := S3Transport.document_ok hcurrent hbody (latestValue_canonical _) hpointer
  rw [pointerDigest_latestValue, Except.ok.injEq] at hread
  subst hread
  obtain ⟨key, hkey, hfound⟩ := bind_ok hfound
  rw [S3Layout.referenceKey_digest, Except.ok.injEq] at hkey
  subst hkey
  obtain ⟨value, hvalue, -⟩ := bind_ok hfound
  obtain ⟨-, kept, hkept, hdocument⟩ := hrecorded
  have hbound := S3Transport.document_length hkept hvalue
  rw [hbody] at hlength
  rw [hdocument] at hbound
  exact ⟨hlength, hbound⟩

theorem adapterEntry_congr (hversion : other.adapterVersion = adapter.adapterVersion)
    (hprofile : other.config.engineProfile = adapter.config.engineProfile) :
    other.adapterEntry = adapter.adapterEntry := by
  simp only [adapterEntry, hversion, hprofile]

theorem idempotent_provenance {latest : StoredEnvelope}
    (h : requireIdempotentMetadata request intent latest = .ok ()) :
    latest.metadata.provenance = intent.provenance := by
  unfold requireIdempotentMetadata at h
  split at h
  · cases h
  · rename_i hsame
    simp only [not_or, not_not] at hsame
    exact hsame.2.2.2.2.1

theorem checkExisting_idempotent {digest : String} {latest : StoredEnvelope}
    {metadata : ObjectMetadata}
    (h : checkExisting request intent digest (some latest) = .ok (some metadata)) :
    requireIdempotentMetadata request intent latest = .ok () := by
  simp only [checkExisting] at h
  split at h
  · cases h
  · split at h
    · obtain ⟨_, hsame, -⟩ := bind_ok h
      exact hsame
    · split at h <;> cases h

-- What a successful put leaves of its version.
structure Left (adapter : S3ObjectAdapter) (request : PutRequest) (content : Bytes)
    (metadata : ObjectMetadata) (profile : Value) (intent : PutIntent) (after : Bucket) : Prop where
  found : adapter.profileAt after request.resource = .ok profile
  intends : adapter.IntentOf request profile intent
  latest : ∀ envelope, adapter.latestEnvelope after request.resource request.input.objectId =
    .ok envelope → envelope.metadata = metadata ∧
      envelope.metadata.digest = adapter.common.digest content ∧
      requireIdempotentMetadata request intent envelope = .ok ()
  stored : (∃ envelope, adapter.latestEnvelope after request.resource request.input.objectId =
      .ok envelope) ∨ (after.current (adapter.referencePath request content)).isSome = true

theorem Settles.intentOf {sent : Bytes} {chunks : List String} {latest : Option StoredEnvelope}
    (h : adapter.Settles request bucket intent sent chunks latest) :
    ∃ profile, adapter.profileAt bucket request.resource = .ok profile ∧
      adapter.IntentOf request profile intent := by
  obtain ⟨profile, hfound, hintent⟩ := h.intends
  exact ⟨profile, hfound, intentFrom_ok.mp hintent⟩

theorem Settles.uploads {sent : Bytes} {chunks : List String} {latest : Option StoredEnvelope}
    (h : adapter.Settles request bucket intent sent chunks latest)
    (hupload : adapter.uploadContent request = .ok content) : sent = content := by
  obtain ⟨profile, -, hintent⟩ := h.intentOf
  obtain ⟨raw, hraw, hpayload⟩ := hintent.payload
  obtain ⟨writes, hwrites, hstream, -⟩ := h.transfer
  obtain ⟨raw', payload', writes', hraw', hpayload', hwrites', hstream'⟩ :=
    Repeats.uploadContent_ok hupload
  rw [hraw, Except.ok.injEq] at hraw'
  subst hraw'
  rw [hpayload, Except.ok.injEq] at hpayload'
  subst hpayload'
  rw [hwrites, Except.ok.injEq] at hwrites'
  subst hwrites'
  exact hstream.symm.trans hstream'

theorem put_left {metadata : ObjectMetadata} (hupload : adapter.uploadContent request = .ok content)
    (hput : (adapter.put request).run provider.handle bucket = (.ok metadata, after)) :
    ∃ profile intent, adapter.Left request content metadata profile intent after := by
  have hends : PutEnds provider adapter request unfailing bucket
      ((adapter.put request).run provider.handle bucket).1
      ((adapter.put request).run provider.handle bucket).2 := put_unfailing request
  rw [hput] at hends
  cases hends with
  | returned _ _ hsame hreturns =>
      obtain ⟨intent, sent, chunks, latest, hsettles, hreturn⟩ := hreturns
      obtain ⟨profile, hfound, hintent⟩ := hsettles.intentOf
      obtain rfl := hsettles.uploads hupload
      cases latest with
      | none => cases hreturn
      | some envelope =>
          have hlatest : adapter.latestEnvelope after request.resource request.input.objectId =
              .ok envelope := (latestEnvelope_same hsame).trans (missingAsNone_some hsettles.seen)
          obtain ⟨hmetadata, hdigest⟩ := checkExisting_some hreturn
          refine ⟨profile, intent, ?_, hintent, ?_, Or.inl ⟨envelope, hlatest⟩⟩
          · exact (profileAt_congr (congrFun hsame.entries _)).trans hfound
          · intro found hagain
            rw [hlatest, Except.ok.injEq] at hagain
            subst hagain
            exact ⟨hmetadata.symm, hdigest, checkExisting_idempotent hreturn⟩
  | committed deposit _ hadapter hrequest hfinds hfree hsame =>
      subst hadapter hrequest
      obtain ⟨latest, hsettles, -⟩ := hfinds.settles
      obtain ⟨profile, hfound, hintent⟩ := hsettles.intentOf
      obtain rfl := hsettles.uploads hupload
      have hpoints : deposit.adapter.layout.Points after deposit.resource deposit.object
          deposit.hash :=
        S3Layout.points_congr (congrFun hsame.entries _) (deposit.pointerStored_points provider bucket)
      have hrecorded : deposit.adapter.layout.Recorded after deposit.resource deposit.object
          deposit.hash (deposit.published provider bucket) := by
        apply S3Layout.recorded_congr _ (hfinds.stored_recorded provider hfree)
        have hstored := (hfinds.stored_same provider hfree).entries
        exact congrFun (hsame.entries.trans hstored.symm) _
      refine ⟨profile, deposit.intent, ?_, hintent, ?_, Or.inr ?_⟩
      · rw [profileAt_congr (congrFun hsame.entries _)]
        exact (deposit.reach_profile provider bucket .pointer).trans hfound
      · intro found hagain
        obtain rfl := latestEnvelope_found hpoints hrecorded hagain
        refine ⟨rfl, rfl, ?_⟩
        simp [requireIdempotentMetadata, Deposit.published, Deposit.envelope, newEnvelope,
          newMetadata]
      · obtain ⟨-, stored, hcurrent, -⟩ := hrecorded
        exact Option.isSome_iff_exists.mpr ⟨stored, hcurrent⟩

-- A transfer of what is the latest version already stops before it writes.
theorem putUpload_idempotent (provider : Provider) {chunks : List String}
    {latest : Option StoredEnvelope} {metadata : ObjectMetadata} (h : adapter.Settles request bucket intent content chunks latest)
    (hreturn : checkExisting request intent (adapter.common.digest content) latest =
      .ok (some metadata)) :
    (adapter.putUpload request intent).run provider.handle bucket =
        (.ok (.idempotent metadata), bucket) ∧
      (adapter.putUpload request intent).Traced provider.handle bucket S3Call.observes := by
  obtain ⟨writes, htransfer, hstream, -⟩ := h.transfer
  have hsees : (adapter.tryLatest request.resource request.input.objectId).Within
      (S3Call.reads anything fun _ => False) := adapter.tryLatest_within _ _ fun _ _ => trivial
  have hlatest : (adapter.tryLatest request.resource request.input.objectId).run provider.handle
      bucket = (.ok latest, bucket) := by
    rw [run_tryLatest, h.seen]
  have hspooled : (IntegritySpool.new adapter.config.integrityChunkBytes).writeAll
      adapter.common writes = adapter.spooled writes := rfl
  rw [putUpload_eq, htransfer]
  constructor
  · rw [Program.run_bind_ok _ _ _ _ _ writes rfl]
    simp only [hspooled, hstream]
    rw [if_neg (Nat.not_lt.mpr h.size), Program.run_bind_ok _ _ _ _ _ latest hlatest, hreturn]
    rfl
  · refine Program.Traced.bind (.ofLift _ _ _ _) (Program.run_lift _ _ _) ?_
    simp only [hspooled, hstream]
    rw [if_neg (Nat.not_lt.mpr h.size)]
    refine Program.Traced.bind (hsees.traced (fun call => call.reads_observes) _ _) hlatest ?_
    rw [hreturn]
    exact Program.Traced.ofLift _ (.ok (PutProgress.idempotent metadata)) _ _

-- A put that returns the stored metadata only reads.
theorem Returns.reads {metadata : ObjectMetadata} (h : adapter.Returns request bucket metadata) :
    (adapter.put request).Traced provider.handle bucket S3Call.observes := by
  obtain ⟨intent, content, chunks, latest, hsettles, hreturn⟩ := h
  obtain ⟨hrun, htraced⟩ := putUpload_idempotent provider hsettles hreturn
  have hwithin : (adapter.putIntent request).Within (S3Call.reads anything anything) :=
    adapter.putIntent_within request trivial fun _ _ => trivial
  have hcaught : (failing false (adapter.putUpload request intent)).run provider.handle bucket =
      (.ok (.idempotent metadata), bucket) := by
    unfold failing
    rw [Program.run_tryCatch, hrun]
    rfl
  refine Program.Traced.bind (hwithin.traced (fun call => call.reads_observes) _ _)
    hsettles.run_putIntent ?_
  refine Program.Traced.bind (htraced.recover hrun) hcaught ?_
  exact Program.Traced.ofLift _ (.ok metadata) _ _

namespace Repeats

variable {metadata : ObjectMetadata}

theorem entry_injective {given : Mapping} (h : given.insert "meridian.adapter" adapter.adapterEntry =
    given.insert "meridian.adapter" other.adapterEntry) :
    other.adapterVersion = adapter.adapterVersion ∧
      other.config.engineProfile = adapter.config.engineProfile := by
  have hvalue := Mapping.insert_injective h
  simp only [adapterEntry, Subtype.mk.injEq, Value.obj.injEq, List.cons.injEq, Prod.mk.injEq,
    Value.str.injEq, true_and, and_true] at hvalue
  exact ⟨hvalue.1.symm, hvalue.2.symm⟩

-- The same request finds its own version when it is stored under the same entry.
theorem returns (h : adapter.Repeats other request again content)
    (hopen : request.input.createOnly = false)
    (hleft : adapter.Left request content metadata profile intent after)
    (hversion : other.adapterVersion = adapter.adapterVersion)
    (hprofile : other.config.engineProfile = adapter.config.engineProfile)
    {envelope : StoredEnvelope} (hlatest : adapter.latestEnvelope after request.resource
      request.input.objectId = .ok envelope) : other.Returns again after metadata := by
  obtain ⟨repeated, hrepeated⟩ := h.exists_intent hleft.intends
  obtain ⟨hmutability, hretention, hcontext, given, hfirst, hsecond⟩ :=
    h.same_intent hleft.intends hrepeated
  obtain ⟨raw, payload, writes, hraw, hpayload, hwrites, hstream⟩ := uploadContent_ok h.uploadsAgain
  obtain ⟨raw', hraw', hpayload'⟩ := hrepeated.payload
  rw [hraw, Except.ok.injEq] at hraw'
  subst hraw'
  rw [hpayload, Except.ok.injEq] at hpayload'
  obtain ⟨rfl, hdigest, hsame⟩ := hleft.latest envelope hlatest
  have hprovenance : repeated.provenance = intent.provenance := by
    rw [hfirst, hsecond, adapterEntry_congr hversion hprofile]
  have hagain : ¬((some envelope).isSome ∧ again.input.createOnly) := by
    rw [h.input]
    simp [hopen]
  refine ⟨repeated, content, (other.spooled writes).finish other.common, some envelope,
    ⟨⟨profile, (h.profileAt after).trans hleft.found, intentFrom_ok.mpr hrepeated⟩,
      ⟨writes, by rw [← hpayload', hwrites], hstream, rfl⟩, h.size, ?_, hagain⟩, ?_⟩
  · rw [h.latestEnvelope, hlatest]
    rfl
  · have hidempotent : requireIdempotentMetadata again repeated envelope = .ok () := by
      have hmedia : again.input.mediaType = request.input.mediaType := by rw [h.input]
      have huser : again.input.userMetadata = request.input.userMetadata := by rw [h.input]
      rw [← hsame]
      simp only [requireIdempotentMetadata, hmedia, huser, hmutability, hretention, hcontext,
        hprovenance]
    have hcreates : again.input.createOnly = false := by rw [h.input, hopen]
    simp only [checkExisting, hcreates, h.common, hdigest, hidempotent, if_true]
    rfl

-- A repeated put that succeeds has found the version under the same entry.
theorem returned (h : adapter.Repeats other request again content)
    (hleft : adapter.Left request content metadata profile intent after)
    {found : ObjectMetadata} (hreturns : other.Returns again after found) :
    (other.adapterVersion = adapter.adapterVersion ∧
      other.config.engineProfile = adapter.config.engineProfile) ∧
      ∃ envelope, adapter.latestEnvelope after request.resource request.input.objectId =
        .ok envelope := by
  obtain ⟨repeated, sent, chunks, latest, hsettles, hreturn⟩ := hreturns
  obtain ⟨profile', hfound', hrepeated⟩ := hsettles.intentOf
  rw [h.profileAt, hleft.found, Except.ok.injEq] at hfound'
  subst hfound'
  obtain ⟨-, -, -, given, hfirst, hsecond⟩ := h.same_intent hleft.intends hrepeated
  cases latest with
  | none => cases hreturn
  | some envelope =>
      have hlatest := (h.latestEnvelope after).symm.trans (missingAsNone_some hsettles.seen)
      obtain ⟨-, -, hsame⟩ := hleft.latest envelope hlatest
      have hstored := idempotent_provenance hsame
      have hasked := idempotent_provenance (checkExisting_idempotent hreturn)
      have hentries : given.insert "meridian.adapter" adapter.adapterEntry =
          given.insert "meridian.adapter" other.adapterEntry := by
        rw [← hfirst, ← hsecond, ← hstored, hasked]
      exact ⟨entry_injective hentries, envelope, hlatest⟩

-- A repeated put does not commit.
theorem not_commits (h : adapter.Repeats other request again content)
    (hopen : request.input.createOnly = false)
    (hleft : adapter.Left request content metadata profile intent after) {deposit : Deposit}
    (hadapter : deposit.adapter = other) (hrequest : deposit.request = again)
    (hfinds : deposit.Finds after) (hfree : ¬deposit.Blocked after) : False := by
  subst hadapter hrequest
  obtain ⟨latest, hsettles, hcheck⟩ := hfinds.settles
  have hcontent := hsettles.uploads h.uploadsAgain
  rcases hleft.stored with ⟨envelope, hlatest⟩ | hstored
  · have hseen := hsettles.seen
    rw [h.latestEnvelope, hlatest] at hseen
    obtain rfl : some envelope = latest := Except.ok.inj hseen
    have hcreates : deposit.request.input.createOnly = false := by rw [h.input, hopen]
    have hdigest : envelope.metadata.digest = deposit.hash.digest := by
      rw [(hleft.latest envelope hlatest).2.1, Deposit.hash, hcontent, h.common]
      rfl
    simp only [checkExisting, hcreates, hdigest, if_true] at hcheck
    obtain ⟨_, _, hnone⟩ := bind_ok hcheck
    cases hnone
  · apply hfree
    right
    left
    have hpath : deposit.referencePath = adapter.referencePath request content := by
      have hobject : deposit.request.input.objectId = request.input.objectId := by rw [h.input]
      simp only [Deposit.referencePath, S3ObjectAdapter.referencePath, Deposit.resource,
        Deposit.object, Deposit.hash, h.layout, h.resource, hobject, hcontent, h.common]
    rw [hpath]
    exact hstored

end Repeats

-- What a repeated put needs to succeed.
theorem put_again_ok {metadata found : ObjectMetadata}
    (h : adapter.Repeats other request again content) (hopen : request.input.createOnly = false)
    (hput : (adapter.put request).run provider.handle bucket = (.ok metadata, after))
    (hok : ((other.put again).run provider.handle after).1 = .ok found) :
    (other.adapterVersion = adapter.adapterVersion ∧
      other.config.engineProfile = adapter.config.engineProfile) ∧
      ∃ envelope, adapter.latestEnvelope after request.resource request.input.objectId =
        .ok envelope := by
  obtain ⟨profile, intent, hleft⟩ := put_left h.uploads hput
  have hends : PutEnds provider other again unfailing after
      ((other.put again).run provider.handle after).1
      ((other.put again).run provider.handle after).2 := put_unfailing again
  rw [hok] at hends
  cases hends with
  | returned _ _ _ hreturns => exact h.returned hleft hreturns
  | committed deposit _ hadapter hrequest hfinds hfree =>
      exact (h.not_commits hopen hleft hadapter hrequest hfinds hfree).elim

-- A successful put repeated, whatever the sizes of the second adapter: it returns what is
-- stored, without a write, exactly when the two adapters leave the same entry in the
-- provenance and the version can be read back.
theorem put_again_iff {metadata : ObjectMetadata} (h : adapter.Repeats other request again content)
    (hopen : request.input.createOnly = false)
    (hput : (adapter.put request).run provider.handle bucket = (.ok metadata, after)) :
    (((other.put again).run provider.handle after).1 = .ok metadata ∧
        (other.put again).Traced provider.handle after S3Call.observes) ↔
      (other.adapterVersion = adapter.adapterVersion ∧
        other.config.engineProfile = adapter.config.engineProfile) ∧
        ∃ envelope, adapter.latestEnvelope after request.resource request.input.objectId =
          .ok envelope := by
  constructor
  · rintro ⟨hok, -⟩
    exact put_again_ok h hopen hput hok
  · rintro ⟨⟨hversion, hprofile⟩, envelope, hlatest⟩
    obtain ⟨profile, intent, hleft⟩ := put_left h.uploads hput
    have hreturns := h.returns hopen hleft hversion hprofile hlatest
    exact ⟨(hreturns.run provider).1, hreturns.reads⟩

end S3ObjectAdapter

end Again

namespace Standard

theorem one_put : (adapter.put one.request).run provider.handle (Store.empty false) =
    (.ok one.metadata, one.stored provider (Store.empty false)) :=
  one_first.finds.run_put provider one_first.unblocked

-- The sample adapter at another deployment.
def elsewhere (version : String) : S3ObjectAdapter :=
  { adapter with config := higher, adapterVersion := version }

theorem one_repeats (version : String) :
    adapter.Repeats (elsewhere version) one.request one.request
      (ObjectCommon.encodeUtf8 "version-one") where
  common := rfl
  keyPrefix := rfl
  objectLockMode := rfl
  resource := rfl
  input := rfl
  uploads := one_uploads
  uploadsAgain := one_uploads
  size := by
    change _ ≤ higher.maxObjectBytes
    decide +kernel

theorem one_put_again : (((elsewhere "1.0.4").put one.request).run provider.handle
    (one.stored provider (Store.empty false))).1 = .ok one.metadata ∧
      ((elsewhere "1.0.4").put one.request).Traced provider.handle
        (one.stored provider (Store.empty false)) S3Call.observes :=
  (S3ObjectAdapter.put_again_iff (one_repeats "1.0.4") rfl one_put).mpr
    ⟨⟨rfl, rfl⟩, _, one_first.latest⟩

-- After an upgrade the same request is refused.
theorem upgraded_put_refused :
    adapter.Repeats (elsewhere "1.0.5") one.request one.request
        (ObjectCommon.encodeUtf8 "version-one") ∧
      one.request.input.createOnly = false ∧
      (adapter.put one.request).run provider.handle (Store.empty false) =
        (.ok one.metadata, one.stored provider (Store.empty false)) ∧
      ∀ metadata, (((elsewhere "1.0.5").put one.request).run provider.handle
        (one.stored provider (Store.empty false))).1 ≠ .ok metadata := by
  refine ⟨one_repeats "1.0.5", rfl, one_put, fun metadata hok => ?_⟩
  have hversion := (S3ObjectAdapter.put_again_ok (one_repeats "1.0.5") rfl one_put hok).1.1
  exact absurd hversion (by decide)

end Standard

end MeridianS3
