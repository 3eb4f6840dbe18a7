import MeridianS3.Publication.Verification

namespace MeridianS3

open Effect ObjectStore Json

-- The key and the header of a call that stores an object or opens an upload in parts.
def S3Call.opens : S3Call → Option (String × ObjectHeader)
  | .putObject key header .. | .createMultipartUpload key header _ => some (key, header)
  | _ => none

theorem S3Call.opens_writes {call : S3Call} {key : String} {header : ObjectHeader}
    (h : call.opens = some (key, header)) : call.writes key := by
  cases call <;> first | exact congrArg Prod.fst (Option.some.inj h) | cases h

theorem S3Call.opens_unread {call : S3Call} {key : String} {header : ObjectHeader}
    {keys listings : String → Prop} (h : call.opens = some (key, header)) :
    ¬call.reads keys listings := fun hreads =>
  S3Call.reads_silent hreads key (S3Call.opens_writes h)

theorem UploadTarget.uploadMultipart_opens {target : UploadTarget} {stream : Bytes}
    {header : ObjectHeader} {events : List (Event S3 Failure)} {evidence : MultipartUploadEvidence}
    (path : (target.uploadMultipart stream header).Path events (.ok evidence)) :
    ∃ event ∈ events, event.1.opens = some (target.key, header) := by
  unfold uploadMultipart at path
  dsimp only at path
  split at path
  · cases (Program.path_throw.mp path).2
  · obtain ⟨failure, -, hfailure⟩ | ⟨created, rest, response, rfl, hcreate, -⟩ :=
      Program.path_bind.mp path
    · cases hfailure
    · rw [Program.path_perform.mp hcreate]
      exact ⟨_, List.mem_append_left _ (List.mem_singleton_self _), rfl⟩

namespace S3Transport

variable {transport : S3Transport} {key digest contentType : String} {stream : Bytes}
  {length : Nat} {metadata : List (String × String)} {retention : Option RetentionRecord}
  {createOnly : Bool} {events : List (Event S3 Failure)}

-- Whatever the call opens carries the arguments that the retention asks for.
def carries (transport : S3Transport) (retention : Option RetentionRecord) (call : S3Call) : Prop :=
  ∀ key header, call.opens = some (key, header) →
    transport.writeArguments retention = .ok header.arguments

theorem storeFile_carries {header : ObjectHeader}
    (h : transport.writeArguments retention = .ok header.arguments) :
    (transport.storeFile key stream length digest header retention createOnly).Within
      (transport.carries retention) := by
  unfold storeFile
  split
  · apply Program.Within.bind
    · apply UploadTarget.uploadMultipart_within
      · exact fun _ _ _ _ _ _ hopens => nomatch hopens
      · rintro key found hopens
        obtain ⟨-, rfl⟩ := Prod.mk.inj (Option.some.inj hopens)
        exact h
      · exact fun _ _ _ _ hopens => nomatch hopens
      · exact fun _ _ _ hopens => nomatch hopens
    · exact fun _ => trivial
  · apply Program.Within.bind
    · apply Program.Within.perform
      rintro key found hopens
      obtain ⟨-, rfl⟩ := Prod.mk.inj (Option.some.inj hopens)
      exact h
    · exact fun _ => trivial

theorem putFile_carries :
    (transport.putFile key stream length digest contentType metadata retention createOnly).Within
      (transport.carries retention) := by
  unfold putFile
  dsimp only
  split
  · trivial
  · apply Program.Within.lift_bind
    intro arguments harguments
    apply Program.Within.bind
    · exact normalized_within (storeFile_carries harguments)
    · intro stored
      split
      · apply Program.Within.bind
        · have hreads : (transport.verifyDigest key digest length stored.versionId).Within
              (S3Call.reads (fun _ => True) fun _ => True) :=
            transport.verifyDigest_within trivial digest length stored.versionId
          apply hreads.mono
          exact fun call hreads found header hopens => absurd hreads (S3Call.opens_unread hopens)
        · exact fun _ => trivial
      · trivial

theorem storeFile_opens {header : ObjectHeader} {stored : StoredObject}
    (path : (transport.storeFile key stream length digest header retention createOnly).Path events
      (.ok stored)) : ∃ event ∈ events, event.1.opens = some (key, header) := by
  unfold storeFile at path
  split at path
  · obtain ⟨failure, -, hfailure⟩ | ⟨sent, ended, evidence, rfl, hupload, -⟩ :=
      Program.path_bind.mp path
    · cases hfailure
    · obtain ⟨event, hmem, hopens⟩ := UploadTarget.uploadMultipart_opens hupload
      exact ⟨event, List.mem_append_left _ hmem, hopens⟩
  · obtain ⟨failure, -, hfailure⟩ | ⟨sent, ended, reply, rfl, hcall, -⟩ :=
      Program.path_bind.mp path
    · cases hfailure
    · rw [Program.path_perform.mp hcall]
      exact ⟨_, List.mem_append_left _ (List.mem_singleton_self _), rfl⟩

theorem putFile_opens {stored : StoredObject}
    (path : (transport.putFile key stream length digest contentType metadata retention
      createOnly).Path events (.ok stored)) :
    ∃ event ∈ events, ∃ header, event.1.opens = some (key, header) := by
  unfold putFile at path
  dsimp only at path
  split at path
  · cases (Program.path_throw.mp path).2
  · obtain ⟨failure, -, hfailure⟩ | ⟨first, rest, arguments, rfl, -, hrest⟩ :=
      Program.path_bind.mp path
    · cases hfailure
    · obtain ⟨failure, -, hfailure⟩ | ⟨sent, later, found, rfl, hstore, -⟩ :=
        Program.path_bind.mp hrest
      · cases hfailure
      · obtain ⟨inner, hinner, hresult⟩ := normalized_path hstore
        cases inner with
        | error failure => cases hresult
        | ok inner =>
          obtain ⟨event, hmem, hopens⟩ := storeFile_opens hinner
          exact ⟨event, by simp [hmem], _, hopens⟩

-- A document goes out with its own bytes.
theorem putJson_carries {value : Value} {kind : S3Call → Prop}
    (h : ∀ arguments, transport.writeArguments retention = .ok arguments →
      kind (transport.jsonCall key value createOnly retention arguments)) :
    (transport.putJson key value createOnly retention).Within kind := by
  apply Program.Within.lift_bind
  intro arguments harguments
  apply Program.Within.bind
  · exact normalized_within (.perform (h arguments harguments))
  · exact fun _ => trivial

theorem putJson_sends {value : Value} {stored : StoredObject}
    (path : (transport.putJson key value createOnly retention).Path events (.ok stored)) :
    ∃ event ∈ events, ∃ arguments,
      event.1 = transport.jsonCall key value createOnly retention arguments := by
  unfold putJson at path
  obtain ⟨failure, -, hfailure⟩ | ⟨first, rest, arguments, rfl, -, hrest⟩ :=
    Program.path_bind.mp path
  · cases hfailure
  · obtain ⟨failure, -, hfailure⟩ | ⟨sent, later, reply, rfl, hcall, -⟩ :=
      Program.path_bind.mp hrest
    · cases hfailure
    · obtain ⟨inner, hinner, -⟩ := normalized_path hcall
      rw [Program.path_perform.mp hinner]
      exact ⟨_, List.mem_append_right _ (List.mem_append_left _ (List.mem_singleton_self _)),
        arguments, rfl⟩

end S3Transport

namespace S3ObjectAdapter

section Calls

variable (adapter : S3ObjectAdapter) (request : PutRequest)

-- The keys of a version's blob and of its reference.
def blobAt (hash : HexDigest) : String :=
  adapter.layout.path (.blob (adapter.layout.resourceToken request.resource)
    (adapter.layout.objectToken request.input.objectId) hash)

def referenceAt (hash : HexDigest) : String :=
  adapter.layout.path (.reference (adapter.layout.resourceToken request.resource)
    (adapter.layout.objectToken request.input.objectId) hash)

-- The single request, or the opening of the upload, that writes a blob.
def writesBlob (call : S3Call) : Prop :=
  ∃ hash header, call.opens = some (adapter.blobAt request hash, header)

-- The blob and the reference are written with what the retention asks for, and the
-- reference holds the record.
structure Retains (retention : Option RetentionRecord) (call : S3Call) : Prop where
  blob : ∀ hash header, call.opens = some (adapter.blobAt request hash, header) →
    adapter.transport.writeArguments retention = .ok header.arguments
  reference : ∀ hash header body length ifNoneMatch checksum,
    call = .putObject (adapter.referenceAt request hash) header body length ifNoneMatch checksum →
    adapter.transport.writeArguments retention = .ok header.arguments ∧
      ∃ envelope : StoredEnvelope, body = adapter.common.canonicalJsonBytes
        (envelope.toDict adapter.common) ∧ envelope.retention = retention

end Calls

variable {adapter : S3ObjectAdapter} {request : PutRequest} {intent : PutIntent}
variable {retention : Option RetentionRecord} {events : List (Event S3 Failure)}

theorem reads_retains {call : S3Call} {keys listings : String → Prop}
    (h : call.reads keys listings) : adapter.Retains request retention call where
  blob _ _ hopens := absurd h (S3Call.opens_unread hopens)
  reference _ _ _ _ _ _ hcall := by
    rw [hcall] at h
    cases h

theorem ne_referenceAt (adapter : S3ObjectAdapter) (request : PutRequest) (physical : PhysicalKey)
    (h : ∀ resource object hash, physical ≠ .reference resource object hash) (hash : HexDigest) :
    physical.render adapter.layout.root ≠ adapter.referenceAt request hash := fun hsame =>
  h _ _ _ (PhysicalKey.render_injective adapter.layout.root hsame)

-- A document under no blob's key, and under a reference's only if it holds the record.
theorem document_retains {key : String} {value : Value} {createOnly : Bool}
    {other : Option RetentionRecord} {arguments : WriteArguments}
    (hblob : adapter.notBlob request key)
    (hreference : ∀ hash, key = adapter.referenceAt request hash →
      adapter.transport.writeArguments retention = .ok arguments ∧
        ∃ envelope : StoredEnvelope, value = envelope.toDict adapter.common ∧
          envelope.retention = retention) :
    adapter.Retains request retention
      (adapter.transport.jsonCall key value createOnly other arguments) where
  blob hash header hopens :=
    absurd (congrArg Prod.fst (Option.some.inj hopens)) (hblob hash)
  reference hash header body length ifNoneMatch checksum hcall := by
    injection hcall with hkey hheader hbody
    obtain ⟨harguments, envelope, rfl, hretention⟩ := hreference hash hkey
    rw [← hheader, ← hbody]
    exact ⟨harguments, envelope, rfl, hretention⟩

theorem publish_retains {identity : PayloadIdentity} {chunks : List String} {stored : StoredObject} :
    (adapter.publish request intent identity chunks stored).Within
      (adapter.Retains request intent.retention) := by
  apply publish_within
  · exact fun call hreads => reads_retains hreads
  · intro key hkey
    apply S3Transport.putJson_carries
    intro arguments harguments
    apply document_retains (adapter.notBlob_object request key (Or.inr ⟨_, hkey⟩))
    exact fun hash _ => ⟨harguments, _, rfl, rfl⟩
  · apply S3Transport.putJson_carries
    intro arguments harguments
    apply document_retains (adapter.notBlob_object request _ (Or.inl rfl))
    intro hash hsame
    exact absurd hsame (adapter.ne_referenceAt request (.latest _ _) (fun _ _ _ h => nomatch h) hash)
  · intro key value hkey
    apply S3Transport.putJson_carries
    intro arguments harguments
    apply document_retains (notBlob_orphan hkey)
    intro hash hsame
    obtain ⟨recorded, -, rfl⟩ := digestKey_ok hkey
    exact absurd hsame
      (adapter.ne_referenceAt request (.orphan _ _ recorded) (fun _ _ _ h => nomatch h) hash)

-- The calls of a transfer are under the blob's key, and its read-back opens nothing.
theorem storeBlob_retains {content : Bytes} {result : Except Failure StoredObject}
    (path : (adapter.storeBlob request intent (adapter.common.identity content) content).Path
      events result) :
    ∀ event ∈ events, adapter.Retains request intent.retention event.1 ∧
      ∀ hash, ¬event.1.writes (adapter.referenceAt request hash) := by
  have hkey : adapter.layout.blobKey request.resource request.input.objectId
      (adapter.common.digest content) = .ok (adapter.blobPath request content) :=
    S3Layout.blobKey_digest ..
  have hother (hash : HexDigest) : adapter.blobPath request content ≠
      adapter.referenceAt request hash :=
    adapter.ne_referenceAt request (.blob _ _ _) (fun _ _ _ h => nomatch h) hash
  unfold storeBlob at path
  simp only [ObjectCommon.identity_digest, ObjectCommon.identity_byteLength, hkey] at path
  intro event hmem
  have hcarries := S3Transport.putFile_carries.path path event hmem
  have hunder : ∀ hash, ¬event.1.writes (adapter.referenceAt request hash) := by
    intro hash hwrites
    cases S3Transport.putFile_paths path with
    | unverified hsent hcommits hoff =>
      exact hother hash (S3Call.writes_unique (hsent event hmem) hwrites)
    | verified hsent hcommits =>
      obtain hmem | hmem := List.mem_append.mp hmem
      · exact hother hash (S3Call.writes_unique (hsent event hmem) hwrites)
      · rw [List.mem_singleton.mp hmem] at hwrites
        exact hwrites
  refine ⟨⟨fun hash header hopens => hcarries _ header hopens, ?_⟩, hunder⟩
  intro hash header body length ifNoneMatch checksum hcall
  refine absurd ?_ (hunder hash)
  rw [hcall]
  rfl

-- An upload that has stored its blob has written it.
theorem uploaded_writes {identity : PayloadIdentity} {chunks : List String}
    {stored : StoredObject}
    (path : (adapter.putUpload request intent).Path events
      (.ok (.uploaded identity chunks stored))) :
    ∃ event ∈ events, adapter.writesBlob request event.1 := by
  generalize hended : (.ok (.uploaded identity chunks stored) : Except Failure PutProgress) = ended
    at path
  cases putUpload_paths path with
  | refused failure hreads => cases hended
  | idempotent metadata hreads hlatest hcheck => cases hended
  | @transferred looked sent writes outcome hreads htransfer hstore =>
    cases outcome with
    | error failure => cases hended
    | ok found =>
      have hkey : adapter.layout.blobKey request.resource request.input.objectId
          (adapter.common.digest (adapter.spooled writes).stream) =
            .ok (adapter.blobPath request (adapter.spooled writes).stream) :=
        S3Layout.blobKey_digest ..
      unfold storeBlob at hstore
      simp only [ObjectCommon.identity_digest, ObjectCommon.identity_byteLength, hkey] at hstore
      obtain ⟨event, hmem, header, hopens⟩ := S3Transport.putFile_opens hstore
      exact ⟨event, List.mem_append_right _ hmem, _, header, hopens⟩

theorem intentFrom_wanted {profile : Value} {wanted : Option RetentionRequest}
    (hwanted : parseRetentionRequest adapter.common request.input.retention = .ok wanted)
    (hintent : adapter.intentFrom profile request = .ok intent) :
    RetentionRecord.fromRequest wanted adapter.config = .ok intent.retention := by
  obtain ⟨mutability, _, h⟩ := bind_ok hintent
  obtain ⟨found, hfound, h⟩ := bind_ok h
  obtain ⟨retention, hretention, h⟩ := bind_ok h
  obtain ⟨creationContext, _, h⟩ := bind_ok h
  obtain ⟨provenance, _, h⟩ := bind_ok h
  obtain ⟨raw, _, h⟩ := bind_ok h
  obtain ⟨payload, _, h⟩ := bind_ok h
  obtain rfl := Except.ok.inj h
  rw [hwanted] at hfound
  obtain rfl := Except.ok.inj hfound
  exact hretention

theorem checkExisting_retention {digest : String} {latest : StoredEnvelope}
    {metadata : ObjectMetadata}
    (h : checkExisting request intent digest (some latest) = .ok (some metadata)) :
    latest.retention = intent.retention := by
  unfold checkExisting at h
  dsimp only at h
  split at h
  · cases h
  · split at h
    · obtain ⟨_, hrequire, -⟩ := bind_ok h
      unfold requireIdempotentMetadata at hrequire
      split at hrequire
      · cases hrequire
      · rename_i hsame
        by_contra hdiffers
        exact hsame (by simp [hdiffers])
    · split at h <;> cases h

-- The version that a put finds behind its transfer.
def Revisits (adapter : S3ObjectAdapter) (request : PutRequest) (events : List (Event S3 Failure))
    (latest : StoredEnvelope) : Prop :=
  ∃ looked seen intent, events = looked ++ seen ∧ (adapter.putIntent request).Path looked
    (.ok intent) ∧ (adapter.tryLatest request.resource request.input.objectId).Path seen
    (.ok (some latest))

theorem Revisits.unique {latest other : StoredEnvelope}
    (h : adapter.Revisits request events latest) (hother : adapter.Revisits request events other) :
    latest = other := by
  obtain ⟨looked, seen, intent, rfl, hintent, hlatest⟩ := h
  obtain ⟨before, after, found, hsame, hfound, hafter⟩ := hother
  obtain ⟨rfl, -⟩ := Program.path_unique hintent hfound hsame
  obtain rfl := List.append_cancel_left hsame
  have hseen : seen ++ ([] : List (Event S3 Failure)) = seen ++ [] := rfl
  obtain ⟨-, hresult⟩ := Program.path_unique hlatest hafter hseen
  exact Option.some.inj (Except.ok.inj hresult)

-- The record that a put leaves its version stored with: in the reference that it has
-- written, or in the one that it has found behind its transfer.
inductive StoredRecord (adapter : S3ObjectAdapter) (request : PutRequest)
    (events : List (Event S3 Failure)) : RetentionRecord → Prop where
  | written {event : Event S3 Failure} {hash : HexDigest} {header : ObjectHeader}
      {envelope : StoredEnvelope} {record : RetentionRecord} {length : Nat} {ifNoneMatch : Bool}
      {checksum : Option String} (hmem : event ∈ events)
      (hput : event.1 = .putObject (adapter.referenceAt request hash) header
        (adapter.common.canonicalJsonBytes (envelope.toDict adapter.common)) length ifNoneMatch
        checksum)
      (hretention : envelope.retention = some record) : StoredRecord adapter request events record
  | found {latest : StoredEnvelope} {record : RetentionRecord}
      (hlatest : adapter.Revisits request events latest)
      (hretention : latest.retention = some record) : StoredRecord adapter request events record

theorem publish_records {identity : PayloadIdentity} {chunks : List String} {stored : StoredObject}
    {after : List (Event S3 Failure)} {metadata : ObjectMetadata} {record : RetentionRecord}
    (path : (adapter.publish request intent identity chunks stored).Path after (.ok metadata))
    (hrecord : intent.retention = some record) (hafter : after ⊆ events) :
    adapter.StoredRecord request events record := by
  obtain ⟨failure, -, hfailure⟩ | ⟨first, rest, _, rfl, hreference, -⟩ := Program.path_bind.mp path
  · cases hfailure
  · obtain ⟨failure, -, hfailure⟩ | ⟨none, sent, key, rfl, hkey, hsent⟩ :=
      Program.path_bind.mp hreference
    · cases hfailure
    · obtain ⟨rfl, hreferenceKey⟩ := Program.path_lift.mp hkey
      obtain ⟨hash, -, rfl⟩ := digestKey_ok hreferenceKey.symm
      obtain ⟨failure, -, hfailure⟩ | ⟨called, ended, reply, rfl, hcalled, -⟩ :=
        Program.path_bind.mp hsent
      · cases hfailure
      · obtain ⟨event, hmem, arguments, hput⟩ := S3Transport.putJson_sends hcalled
        exact .written (hafter (by simp [hmem])) hput hrecord

-- What a put that has settled its retention does with it. A reference is written only
-- behind its blob.
structure RetainedPut (adapter : S3ObjectAdapter) (request : PutRequest)
    (retention : Option RetentionRecord) (events : List (Event S3 Failure))
    (result : Except Failure ObjectMetadata) : Prop where
  retains : ∀ event ∈ events, adapter.Retains request retention event.1
  behind : (∃ event ∈ events, adapter.writesBlob request event.1) ∨
    ∀ event ∈ events, ∀ hash, ¬event.1.writes (adapter.referenceAt request hash)
  returned : ∀ metadata, result = .ok metadata → ∀ record, retention = some record →
    adapter.StoredRecord request events record

theorem put_retains {wanted : Option RetentionRequest} {result : Except Failure ObjectMetadata}
    (hwanted : parseRetentionRequest adapter.common request.input.retention = .ok wanted)
    (path : (adapter.put request).Path events result) :
    ((∀ event ∈ events, event.1.reads (adapter.notBlob request) fun _ => False) ∧
        ∃ failure, result = .error failure) ∨
      ∃ retention, RetentionRecord.fromRequest wanted adapter.config = .ok retention ∧
        adapter.RetainedPut request retention events result := by
  have hintends : (adapter.putIntent request).Within
      (S3Call.reads (adapter.notBlob request) fun _ => False) :=
    adapter.putIntent_within request (adapter.notBlob_registered request)
      (adapter.notBlob_object request)
  -- What comes before the transfer reads only.
  have hreading {retention : Option RetentionRecord} {looked : List (Event S3 Failure)}
      (hreads : ∀ event ∈ looked, event.1.reads (adapter.notBlob request) fun _ => False) :
      ∀ event ∈ looked, adapter.Retains request retention event.1 ∧
        ∀ hash, ¬event.1.writes (adapter.referenceAt request hash) := fun event hmem =>
    ⟨reads_retains (hreads event hmem), fun hash => S3Call.reads_silent (hreads event hmem) _⟩
  have hupload {intent : PutIntent} {called : List (Event S3 Failure)}
      {ended : Except Failure PutProgress}
      (path : (adapter.putUpload request intent).Path called ended) :
      ∀ event ∈ called, adapter.Retains request intent.retention event.1 ∧
        ∀ hash, ¬event.1.writes (adapter.referenceAt request hash) := by
    cases putUpload_paths path with
    | refused failure hreads => exact hreading hreads
    | idempotent metadata hreads hlatest hcheck => exact hreading hreads
    | transferred hreads htransfer hstore =>
      intro event hmem
      obtain hmem | hmem := List.mem_append.mp hmem
      · exact hreading hreads event hmem
      · exact storeBlob_retains hstore event hmem
  have hsofar {looked called : List (Event S3 Failure)} {intent : PutIntent}
      {ended : Except Failure PutProgress}
      (hintent : (adapter.putIntent request).Path looked (.ok intent))
      (hcalled : (adapter.putUpload request intent).Path called ended) :
      ∀ event ∈ looked ++ called, adapter.Retains request intent.retention event.1 ∧
        ∀ hash, ¬event.1.writes (adapter.referenceAt request hash) := by
    intro event hmem
    obtain hmem | hmem := List.mem_append.mp hmem
    · exact hreading (hintends.path hintent) event hmem
    · exact hupload hcalled event hmem
  have hsettled {looked : List (Event S3 Failure)} {intent : PutIntent}
      (hintent : (adapter.putIntent request).Path looked (.ok intent)) :
      RetentionRecord.fromRequest wanted adapter.config = .ok intent.retention := by
    obtain ⟨profile, hprofile⟩ := putIntent_paths hintent
    exact intentFrom_wanted hwanted hprofile
  cases put_paths path with
  | unopened hintent => exact Or.inl ⟨hintends.path hintent, _, rfl⟩
  | failed hintent hcalled =>
    have hall := hsofar hintent hcalled
    exact Or.inr ⟨_, hsettled hintent, fun event hmem => (hall event hmem).1,
      Or.inr fun event hmem => (hall event hmem).2, fun _ h => nomatch h⟩
  | @idempotent looked called intent metadata hintent hcalled =>
    have hall := hsofar hintent hcalled
    refine Or.inr ⟨_, hsettled hintent, fun event hmem => (hall event hmem).1,
      Or.inr fun event hmem => (hall event hmem).2, ?_⟩
    rintro - - record hrecord
    generalize hended : (.ok (.idempotent metadata) : Except Failure PutProgress) = ended
      at hcalled
    cases putUpload_paths hcalled with
    | refused failure hreads => cases hended
    | idempotent stored hreads hlatest hcheck =>
      exact .found ⟨looked, called, intent, rfl, hintent, hlatest⟩
        ((checkExisting_retention hcheck).trans hrecord)
    | @transferred seen sent writes outcome hreads htransfer hstore =>
      cases outcome with
      | ok stored => cases hended
      | error raised => cases hended
  | @uploaded looked called after intent identity chunks stored ended hintent hcalled hpublish =>
    refine Or.inr ⟨_, hsettled hintent, ?_, Or.inl ?_, ?_⟩
    · intro event hmem
      rw [← List.append_assoc] at hmem
      obtain hmem | hmem := List.mem_append.mp hmem
      · exact (hsofar hintent hcalled event hmem).1
      · exact publish_retains.path hpublish event hmem
    · obtain ⟨event, hmem, hwrites⟩ := uploaded_writes hcalled
      exact ⟨event, by simp [hmem], hwrites⟩
    · intro metadata hresult record hrecord
      cases ended with
      | error failure => cases hresult
      | ok returned => exact publish_records hpublish hrecord (by simp)

-- A call that stores a version does so under the provider's lock, and the reference says so.
structure Protected (adapter : S3ObjectAdapter) (request : PutRequest) (call : S3Call) : Prop where
  blob : ∀ hash header, call.opens = some (adapter.blobAt request hash, header) →
    header.arguments.objectLock.isSome = true
  reference : ∀ hash header body length ifNoneMatch checksum,
    call = .putObject (adapter.referenceAt request hash) header body length ifNoneMatch checksum →
    header.arguments.objectLock.isSome = true ∧ ∃ (envelope : StoredEnvelope) (record : _),
      body = adapter.common.canonicalJsonBytes (envelope.toDict adapter.common) ∧
      envelope.retention = some record ∧ record.providerEnforced = .bool true

structure Enforced (adapter : S3ObjectAdapter) (request : PutRequest)
    (events : List (Event S3 Failure)) (result : Except Failure ObjectMetadata) : Prop where
  calls : ∀ event ∈ events, adapter.Protected request event.1
  returned : ∀ metadata, result = .ok metadata → ∃ record,
    adapter.StoredRecord request events record ∧ record.providerEnforced = .bool true

-- The put is denied before it writes anything.
def Denied (events : List (Event S3 Failure)) (result : Except Failure ObjectMetadata) : Prop :=
  (∃ failure, result = .error failure ∧ failure.is .retentionDenied = true) ∧
    ∀ event ∈ events, ∀ key, ¬event.1.writes key

def Delivers (adapter : S3ObjectAdapter) (request : PutRequest)
    (events : List (Event S3 Failure)) (result : Except Failure ObjectMetadata) : Prop :=
  Denied events result ∨ adapter.Enforced request events result

-- The put stores a blob, or returns.
def Acts (adapter : S3ObjectAdapter) (request : PutRequest) (events : List (Event S3 Failure))
    (result : Except Failure ObjectMetadata) : Prop :=
  (∃ event ∈ events, adapter.writesBlob request event.1) ∨ ∃ metadata, result = .ok metadata

theorem fromRequest_required {wanted : RetentionRequest} {config : S3Config}
    {retention : Option RetentionRecord} (hrequired : wanted.requireEnforcement = true)
    (h : RetentionRecord.fromRequest (some wanted) config = .ok retention) :
    config.objectLockMode ≠ none ∧ ∃ record, retention = some record ∧
      record.retainUntil = .ofOption wanted.retainUntil ∧
      record.providerEnforced = .bool wanted.retainUntil.isSome := by
  unfold RetentionRecord.fromRequest at h
  dsimp only at h
  split at h
  · cases h
  · rename_i hgranted
    have hmode : config.retentionEnforcement = true := by
      by_contra hnone
      exact hgranted ⟨hrequired, hnone⟩
    obtain rfl := Except.ok.inj h
    refine ⟨?_, _, rfl, rfl, ?_⟩
    · intro hnone
      unfold S3Config.retentionEnforcement at hmode
      rw [hnone] at hmode
      cases hmode
    · simp only [hmode, Bool.true_and]

-- The lock goes out with a record that is enforced and has a deadline, and with no other.
theorem writeArguments_locks {transport : S3Transport} {record : RetentionRecord}
    {arguments : WriteArguments}
    (h : transport.writeArguments (some record) = .ok arguments) :
    arguments.objectLock.isSome = true ↔
      record.providerEnforced.truthy = true ∧ record.retainUntil ≠ .null := by
  obtain ⟨lock, hlock, h⟩ := bind_ok h
  obtain rfl := Except.ok.inj h
  change record.objectLockArguments transport.common = .ok lock at hlock
  change lock.isSome = true ↔ _
  unfold RetentionRecord.objectLockArguments at hlock
  split at hlock
  · rename_i hfree
    obtain rfl := Except.ok.inj hlock
    constructor
    · intro hsome
      cases hsome
    · rintro ⟨htruthy, hdeadline⟩
      obtain hfree | hfree := hfree
      · exact absurd htruthy hfree
      · exact absurd hfree hdeadline
  · rename_i hlocked
    obtain ⟨deadline, -, hlock⟩ := bind_ok hlock
    obtain rfl := Except.ok.inj hlock
    exact iff_of_true rfl (by simpa using hlocked)

section Delivery

variable {wanted : RetentionRequest} {record : RetentionRecord}
variable {result : Except Failure ObjectMetadata}

-- A put that neither stores a blob nor returns has nothing to protect.
theorem idle_enforced (hwrites : ∀ event ∈ events,
      (∀ hash header, event.1.opens ≠ some (adapter.blobAt request hash, header)) ∧
        ∀ hash, ¬event.1.writes (adapter.referenceAt request hash))
    (hfailed : ∀ metadata, result ≠ .ok metadata) :
    adapter.Enforced request events result where
  calls event hmem :=
    { blob := fun hash header hopens => absurd hopens ((hwrites event hmem).1 hash header)
      reference := fun hash header body length ifNoneMatch checksum hcall => by
        refine absurd ?_ ((hwrites event hmem).2 hash)
        rw [hcall]
        rfl }
  returned metadata hresult := absurd hresult (hfailed metadata)

theorem RetainedPut.enforced (h : adapter.RetainedPut request (some record) events result)
    (hdeadline : record.retainUntil ≠ .null) (henforced : record.providerEnforced = .bool true) :
    adapter.Enforced request events result where
  calls event hmem := by
    have hlocks {arguments : WriteArguments}
        (h : adapter.transport.writeArguments (some record) = .ok arguments) :
        arguments.objectLock.isSome = true :=
      (writeArguments_locks h).mpr ⟨by rw [henforced]; rfl, hdeadline⟩
    constructor
    · intro hash header hopens
      exact hlocks ((h.retains event hmem).blob hash header hopens)
    · intro hash header body length ifNoneMatch checksum hcall
      obtain ⟨harguments, envelope, hbody, hretention⟩ :=
        (h.retains event hmem).reference hash header body length ifNoneMatch checksum hcall
      exact ⟨hlocks harguments, envelope, record, hbody, hretention, henforced⟩
  returned metadata hresult := ⟨record, h.returned metadata hresult record rfl, henforced⟩

theorem RetainedPut.undelivered (h : adapter.RetainedPut request (some record) events result)
    (hacts : adapter.Acts request events result)
    (hunenforced : record.providerEnforced = .bool false) :
    ¬adapter.Delivers request events result := by
  -- No lock goes out with the blob.
  have hbare {event : Event S3 Failure} (hmem : event ∈ events)
      (hwrites : adapter.writesBlob request event.1) : ¬adapter.Protected request event.1 := by
    obtain ⟨hash, header, hopens⟩ := hwrites
    intro hprotected
    have hlock := (writeArguments_locks ((h.retains event hmem).blob hash header hopens)).mp
      (hprotected.blob hash header hopens)
    rw [hunenforced] at hlock
    exact Bool.false_ne_true hlock.1
  rintro (⟨⟨failure, hfailure, -⟩, hsilent⟩ | henforced)
  · obtain ⟨event, hmem, hash, header, hopens⟩ | ⟨metadata, hresult⟩ := hacts
    · exact hsilent event hmem _ (S3Call.opens_writes hopens)
    · rw [hfailure] at hresult
      cases hresult
  · by_cases hblob : ∃ event ∈ events, adapter.writesBlob request event.1
    · obtain ⟨event, hmem, hwrites⟩ := hblob
      exact hbare hmem hwrites (henforced.calls event hmem)
    · obtain ⟨metadata, hresult⟩ := hacts.resolve_left hblob
      have hunwritten := h.behind.resolve_left hblob
      -- Without a write, the two records are the one that the put has found.
      have hfound {other : RetentionRecord} (hstored : adapter.StoredRecord request events other) :
          ∃ latest, adapter.Revisits request events latest ∧ latest.retention = some other := by
        cases hstored with
        | found hlatest hretention => exact ⟨_, hlatest, hretention⟩
        | @written event hash _ _ _ _ _ _ hmem hput hretention =>
          refine absurd ?_ (hunwritten event hmem hash)
          rw [hput]
          rfl
      obtain ⟨other, hother, htrue⟩ := henforced.returned metadata hresult
      obtain ⟨latest, hlatest, hretention⟩ := hfound (h.returned metadata hresult record rfl)
      obtain ⟨again, hagain, hsame⟩ := hfound hother
      obtain rfl := hlatest.unique hagain
      obtain rfl := Option.some.inj (hretention.symm.trans hsame)
      rw [hunenforced] at htrue
      cases htrue

-- A put whose retention has to be enforced, whoever answers its calls and whichever of them
-- fail: once it stores its blob, or returns, it has delivered the enforcement exactly when
-- the configuration has no lock mode to ask for, or the request has a deadline.
theorem put_delivers_iff (adapter : S3ObjectAdapter) (request : PutRequest)
    (wanted : RetentionRequest)
    (hwanted : parseRetentionRequest adapter.common request.input.retention = .ok (some wanted))
    (hrequired : wanted.requireEnforcement = true) {σ : Type} (handler : Handler S3 Failure σ)
    (plan : Plan Failure) (state : σ) :
    let events := (adapter.put request).history handler plan state
    let result := ((adapter.put request).runFaulty handler plan state).1
    (adapter.Acts request events result → (adapter.Delivers request events result ↔
      adapter.config.objectLockMode = none ∨ wanted.retainUntil ≠ none)) ∧
    (¬adapter.Acts request events result → adapter.Delivers request events result) := by
  intro events result
  have hpath : (adapter.put request).Path events result :=
    (adapter.put request).runFaulty_path handler plan state
  obtain ⟨hreads, failure, hfailure⟩ | ⟨retention, hretention, hput⟩ := put_retains hwanted hpath
  · have hdelivers : adapter.Delivers request events result := by
      apply Or.inr
      apply idle_enforced
      · intro event hmem
        exact ⟨fun hash header hopens => S3Call.opens_unread hopens (hreads event hmem),
          fun hash => S3Call.reads_silent (hreads event hmem) _⟩
      · intro metadata hresult
        rw [hfailure] at hresult
        cases hresult
    refine ⟨?_, fun _ => hdelivers⟩
    rintro (⟨event, hmem, hash, header, hopens⟩ | ⟨metadata, hresult⟩)
    · exact absurd (hreads event hmem) (S3Call.opens_unread hopens)
    · rw [hfailure] at hresult
      cases hresult
  · obtain ⟨hmode, record, rfl, huntil, henforced⟩ := fromRequest_required hrequired hretention
    constructor
    · intro hacts
      rw [or_iff_right hmode]
      cases hdeadline : wanted.retainUntil with
      | none =>
        rw [hdeadline] at henforced
        exact iff_of_false (hput.undelivered hacts henforced) (fun h => h rfl)
      | some text =>
        rw [hdeadline] at huntil henforced
        apply iff_of_true
        · exact Or.inr (hput.enforced (by rw [huntil]; exact fun h => nomatch h) henforced)
        · exact fun h => nomatch h
    · intro hidle
      apply Or.inr
      apply idle_enforced
      · intro event hmem
        refine ⟨fun hash header hopens => hidle (Or.inl ⟨event, hmem, hash, header, hopens⟩), ?_⟩
        exact hput.behind.resolve_left (fun hblob => hidle (Or.inl hblob)) event hmem
      · exact fun metadata hresult => hidle (Or.inr ⟨metadata, hresult⟩)

end Delivery

end S3ObjectAdapter

namespace Standard

-- An adapter whose configuration asks for a lock.
def lockingConfig : S3Config := { config with objectLockMode := some "GOVERNANCE" }

def locking : S3ObjectAdapter := { adapter with config := lockingConfig }

def retaining (retention : Value) : PutRequest :=
  { one.request with input := { one.request.input with retention := retention } }

def enforcing (policy retainUntil : Value) : Value :=
  .obj [("policy", policy), ("requireEnforcement", .bool true), ("retainUntil", retainUntil)]

def dated : PutRequest := retaining (enforcing .null (.str "1970-01-02T00:00:00.000000Z"))

theorem dated_delivered :
    locking.Delivers dated
      ((locking.put dated).history provider.handle [] (Store.empty false))
      ((locking.put dated).runFaulty provider.handle [] (Store.empty false)).1 := by
  have hdelivers := S3ObjectAdapter.put_delivers_iff locking dated
    ⟨some "1970-01-02T00:00:00.000000Z", none, true⟩ (by decide) rfl provider.handle []
    (Store.empty false)
  have hreturned : ((locking.put dated).runFaulty provider.handle [] (Store.empty false)).1.isOk =
      true := by
    decide +kernel
  refine (hdelivers.1 (Or.inr ?_)).mpr (Or.inr (by decide))
  generalize ((locking.put dated).runFaulty provider.handle [] (Store.empty false)).1 = result
    at hreturned
  cases result with
  | ok metadata => exact ⟨metadata, rfl⟩
  | error failure => cases hreturned

-- A legal hold names a policy and no deadline.
def policyHold : PutRequest := retaining (enforcing (.str "legal-hold") .null)

theorem policy_unprotected :
    lockingConfig.postInit noSplit = .ok lockingConfig ∧
    parseRetentionRequest common policyHold.input.retention =
      .ok (some ⟨none, some "legal-hold", true⟩) ∧
    ¬locking.Delivers policyHold
      ((locking.put policyHold).history provider.handle [] (Store.empty false))
      ((locking.put policyHold).runFaulty provider.handle [] (Store.empty false)).1 := by
  refine ⟨by decide, by decide, ?_⟩
  have hreturned : ((locking.put policyHold).runFaulty provider.handle []
      (Store.empty false)).1.isOk = true := by
    decide +kernel
  have hbare : ∃ event ∈ (locking.put policyHold).history provider.handle [] (Store.empty false),
      ∃ found ∈ event.1.opens, found.1 = locking.blobAt policyHold one.hash ∧
        found.2.arguments.objectLock = none := by
    decide +kernel
  rintro (⟨⟨failure, hfailure, -⟩, -⟩ | henforced)
  · rw [hfailure] at hreturned
    cases hreturned
  · obtain ⟨event, hmem, ⟨key, header⟩, hopens, rfl, hlock⟩ := hbare
    have hlocked := (henforced.calls event hmem).blob _ header hopens
    rw [hlock] at hlocked
    cases hlocked

end Standard

end MeridianS3
