import MeridianS3.Publication.Paths
import MeridianS3.Deposit.First
import MeridianS3.Transport.Commits

namespace MeridianS3

open Effect Json

namespace S3Transport

variable (transport : S3Transport) {key digest contentType : String} {stream : Bytes}
  {length : Nat} {metadata : List (String × String)} {retention : Option RetentionRecord}
  {createOnly : Bool} {events : List (Event S3 Failure)}

-- A transfer fails before the read-back, or ends with the read-back and its verdict.
theorem putFile_path {result : Except Failure StoredObject}
    (hverify : transport.config.verifyAfterWrite = true)
    (path : (transport.putFile key stream length digest contentType metadata retention
      createOnly).Path events result) :
    ((∃ failure, result = .error failure) ∧ ∀ event ∈ events, event.1.writes key) ∨
      ∃ sent versionId outcome stored,
        events = sent ++ [readBackEvent key versionId outcome] ∧
        (∀ event ∈ sent, event.1.writes key) ∧
        result = ((normalizedResult "get" false outcome).bind
          (transport.checkBody digest length)).map fun _ => stored := by
  cases putFile_paths path with
  | unverified hwrites hcommits hoff =>
      left
      cases result with
      | error failure => exact ⟨⟨failure, rfl⟩, hwrites⟩
      | ok stored =>
          rw [hoff rfl] at hverify
          cases hverify
  | @verified sent stored versionId outcome hwrites hcommits =>
      exact Or.inr ⟨sent, versionId, outcome, stored, rfl, hwrites, rfl⟩

-- What the verification lets through is the payload.
theorem checkBody_ok {hashed : Set Bytes} {content : Bytes} {body : List Bytes}
    (hfree : Set.InjOn transport.common.hexdigest hashed) (hcontent : content ∈ hashed)
    (hbody : body.flatten ∈ hashed) (hreads : [] ∉ body) :
    transport.checkBody (transport.common.digest content) content.length body = .ok () ↔
      body.flatten = content := by
  have hread := readBack_eq body [] 0 hreads
  rw [List.nil_append, Nat.zero_add] at hread
  unfold checkBody
  rw [hread]
  constructor
  · intro h
    split at h
    · cases h
    · split at h
      · cases h
      · rename_i hdigest
        apply hfree hbody hcontent
        exact HexDigest.digest_injective (not_not.mp hdigest)
  · rintro rfl
    rw [if_neg (by simp), if_neg (by simp)]

end S3Transport

namespace S3ObjectAdapter

variable (adapter : S3ObjectAdapter)

-- The payload of a put.
def uploadContent (request : PutRequest) : Except Failure Bytes := do
  let raw ← jsonMapping request.input.payload "payload"
  let payload ← adapter.common.payloadReferenceFromMapping raw
  let writes ← request.transfer payload
  return (adapter.spooled writes).stream

-- The calls of a put outside of its transfer.
def besides (request : PutRequest) (call : S3Call) : Prop :=
  call.reads (adapter.notBlob request) (fun _ => False) ∨ ∃ key, call.puts key

variable (request : PutRequest) (content : Bytes)

def blobPath : String :=
  adapter.layout.path (.blob (adapter.layout.resourceToken request.resource)
    (adapter.layout.objectToken request.input.objectId) (adapter.common.hexdigest content))

def referencePath : String :=
  adapter.layout.path (.reference (adapter.layout.resourceToken request.resource)
    (adapter.layout.objectToken request.input.objectId) (adapter.common.hexdigest content))

def latestPath : String :=
  adapter.layout.path (.latest (adapter.layout.resourceToken request.resource)
    (adapter.layout.objectToken request.input.objectId))

theorem uploadContent_ok {adapter : S3ObjectAdapter} {request : PutRequest} {intent : PutIntent}
    {writes : List Bytes} {profile : Value} (hintent : adapter.intentFrom profile request = .ok intent)
    (htransfer : request.transfer intent.payload = .ok writes) :
    adapter.uploadContent request = .ok (adapter.spooled writes).stream := by
  obtain ⟨mutability, _, h⟩ := bind_ok hintent
  obtain ⟨wanted, _, h⟩ := bind_ok h
  obtain ⟨retention, _, h⟩ := bind_ok h
  obtain ⟨creationContext, _, h⟩ := bind_ok h
  obtain ⟨provenance, _, h⟩ := bind_ok h
  obtain ⟨raw, hraw, h⟩ := bind_ok h
  obtain ⟨payload, hparsed, h⟩ := bind_ok h
  obtain rfl := Except.ok.inj h
  simp only [uploadContent, hraw, hparsed, bind, Except.bind, htransfer]
  rfl

-- The calls of a transfer: it fails before the read-back, or ends with it.
inductive Transfers {α : Type} (value : StoredObject → α) :
    List (Event S3 Failure) → Except Failure α → Prop where
  | failed {events : List (Event S3 Failure)} (failure : Failure)
      (hwrites : ∀ event ∈ events, event.1.writes (adapter.blobPath request content)) :
      Transfers value events (.error failure)
  | readBack {sent : List (Event S3 Failure)} {versionId : Option String}
      {outcome : Except Failure (List Bytes)} {stored : StoredObject}
      (hwrites : ∀ event ∈ sent, event.1.writes (adapter.blobPath request content)) :
      Transfers value (sent ++ [readBackEvent (adapter.blobPath request content) versionId outcome])
        (((normalizedResult "get" false outcome).bind (adapter.transport.checkBody
          (adapter.common.digest content) content.length)).map fun _ => value stored)

variable {adapter request content} {events : List (Event S3 Failure)}

theorem Transfers.mapped {α : Type} {value : StoredObject → α}
    {result : Except Failure StoredObject}
    (h : adapter.Transfers request content id events result) :
    adapter.Transfers request content value events (result.map value) := by
  cases h with
  | failed failure hwrites => exact .failed failure hwrites
  | @readBack sent versionId outcome stored hwrites =>
      have hmap (verdict : Except Failure Unit) :
          (verdict.map fun _ => id stored).map value = verdict.map fun _ => value stored := by
        cases verdict <;> rfl
      rw [hmap]
      exact .readBack hwrites

theorem storeBlob_path {intent : PutIntent} {result : Except Failure StoredObject}
    (hverify : adapter.config.verifyAfterWrite = true)
    (path : (adapter.storeBlob request intent (adapter.common.identity content) content).Path
      events result) :
    adapter.Transfers request content id events result := by
  have hkey : adapter.layout.blobKey request.resource request.input.objectId
      (adapter.common.digest content) = .ok (adapter.blobPath request content) :=
    S3Layout.blobKey_digest ..
  unfold storeBlob at path
  simp only [ObjectCommon.identity_digest, ObjectCommon.identity_byteLength, hkey] at path
  obtain ⟨⟨failure, rfl⟩, hwrites⟩ | ⟨sent, versionId, outcome, stored, rfl, hwrites, rfl⟩ :=
    adapter.transport.putFile_path hverify path
  · exact .failed failure hwrites
  · exact .readBack hwrites

-- Up to its transfer a put only reads.
theorem putUpload_path {intent : PutIntent} {result : Except Failure PutProgress}
    (hverify : adapter.config.verifyAfterWrite = true)
    (hintent : ∃ profile, adapter.intentFrom profile request = .ok intent)
    (hupload : adapter.uploadContent request = .ok content)
    (path : (adapter.putUpload request intent).Path events result) :
    ((∀ event ∈ events, event.1.reads (adapter.notBlob request) fun _ => False) ∧
        ∀ progress, result = .ok progress → ∃ metadata, progress = .idempotent metadata) ∨
      ∃ before sent chunks, events = before ++ sent ∧
        (∀ event ∈ before, event.1.reads (adapter.notBlob request) fun _ => False) ∧
        adapter.Transfers request content
          (PutProgress.uploaded (adapter.common.identity content) chunks) sent result := by
  cases putUpload_paths path with
  | refused failure hreads => exact Or.inl ⟨hreads, fun _ h => nomatch h⟩
  | idempotent metadata hreads hlatest hcheck =>
      exact Or.inl ⟨hreads, fun progress h => ⟨metadata, (Except.ok.inj h).symm⟩⟩
  | @transferred looked sent writes outcome hreads htransfer hstore =>
      obtain ⟨profile, hintent⟩ := hintent
      rw [uploadContent_ok hintent htransfer] at hupload
      obtain rfl := Except.ok.inj hupload
      exact Or.inr ⟨looked, sent, _, rfl, hreads, (storeBlob_path hverify hstore).mapped⟩

-- A put reads, transfers its payload, and goes on only when the transfer succeeded.
inductive Puts (adapter : S3ObjectAdapter) (request : PutRequest) (content : Bytes) :
    List (Event S3 Failure) → Except Failure ObjectMetadata → Prop where
  | unsent {events : List (Event S3 Failure)} (result : Except Failure ObjectMetadata)
      (hreads : ∀ event ∈ events, event.1.reads (adapter.notBlob request) fun _ => False) :
      Puts adapter request content events result
  | failed {before sent : List (Event S3 Failure)} {chunks : List String} (failure raised : Failure)
      (hreads : ∀ event ∈ before, event.1.reads (adapter.notBlob request) fun _ => False)
      (htransfer : adapter.Transfers request content
        (PutProgress.uploaded (adapter.common.identity content) chunks) sent (.error failure)) :
      Puts adapter request content (before ++ sent) (.error raised)
  | sent {before sent after : List (Event S3 Failure)} {chunks : List String}
      {progress : PutProgress} (result : Except Failure ObjectMetadata)
      (hreads : ∀ event ∈ before, event.1.reads (adapter.notBlob request) fun _ => False)
      (htransfer : adapter.Transfers request content
        (PutProgress.uploaded (adapter.common.identity content) chunks) sent (.ok progress))
      (hbesides : ∀ event ∈ after, adapter.besides request event.1) :
      Puts adapter request content (before ++ (sent ++ after)) result

theorem put_path {result : Except Failure ObjectMetadata}
    (hverify : adapter.config.verifyAfterWrite = true)
    (hupload : adapter.uploadContent request = .ok content)
    (path : (adapter.put request).Path events result) :
    adapter.Puts request content events result := by
  have hintends : (adapter.putIntent request).Within
      (S3Call.reads (adapter.notBlob request) fun _ => False) :=
    adapter.putIntent_within request (adapter.notBlob_registered request)
      (adapter.notBlob_object request)
  have hlooked {looked first : List (Event S3 Failure)} {intent : PutIntent}
      (hintent : (adapter.putIntent request).Path looked (.ok intent))
      (hreads : ∀ event ∈ first, event.1.reads (adapter.notBlob request) fun _ => False) :
      ∀ event ∈ looked ++ first, event.1.reads (adapter.notBlob request) fun _ => False := by
    intro event hmem
    rcases List.mem_append.mp hmem with hmem | hmem
    · exact hintends.path hintent event hmem
    · exact hreads event hmem
  cases put_paths path with
  | unopened hintent => exact .unsent _ (hintends.path hintent)
  | failed hintent hfailed =>
      obtain ⟨hreads, -⟩ | ⟨before, sent, chunks, rfl, hreads, htransfer⟩ :=
        putUpload_path hverify (putIntent_paths hintent) hupload hfailed
      · exact .unsent _ (hlooked hintent hreads)
      · rw [← List.append_assoc]
        exact .failed _ _ (hlooked hintent hreads) htransfer
  | idempotent hintent hfound =>
      obtain ⟨hreads, -⟩ | ⟨before, sent, chunks, rfl, hreads, htransfer⟩ :=
        putUpload_path hverify (putIntent_paths hintent) hupload hfound
      · exact .unsent _ (hlooked hintent hreads)
      · rw [← List.append_assoc, ← List.append_nil sent]
        exact .sent _ (hlooked hintent hreads) htransfer fun _ hmem => absurd hmem List.not_mem_nil
  | @uploaded looked called after intent identity chunks stored result hintent hstored hpublish =>
      have hrest : ∀ event ∈ after, adapter.besides request event.1 := by
        have hwithin : (adapter.publish request intent identity chunks stored).Within
            (adapter.besides request) := publish_apart.mono fun call hapart =>
          hapart.imp id fun ⟨key, _, hputs⟩ => ⟨key, hputs⟩
        exact hwithin.path hpublish
      obtain ⟨_, hidempotent⟩ | ⟨before, sent, chunks, rfl, hreads, htransfer⟩ :=
        putUpload_path hverify (putIntent_paths hintent) hupload hstored
      · obtain ⟨metadata, hmetadata⟩ := hidempotent _ rfl
        cases hmetadata
      · rw [List.append_assoc, ← List.append_assoc looked]
        exact .sent _ (hlooked hintent hreads) htransfer hrest

-- The calls that publish a version.
def publishes (adapter : S3ObjectAdapter) (request : PutRequest) (content : Bytes)
    (call : S3Call) : Prop :=
  call.writes (adapter.referencePath request content) ∨ call.writes (adapter.latestPath request)

theorem blob_unpublished {call : S3Call} (h : call.writes (adapter.blobPath request content)) :
    ¬adapter.publishes request content call := by
  rintro (hwrites | hwrites)
  · have hsame := S3Call.writes_unique h hwrites
    simp [blobPath, referencePath] at hsame
  · have hsame := S3Call.writes_unique h hwrites
    simp [blobPath, latestPath] at hsame

theorem reads_unpublished {keys listings : String → Prop} {call : S3Call}
    (h : call.reads keys listings) : ¬adapter.publishes request content call := by
  rintro (hwrites | hwrites) <;> exact S3Call.reads_silent h _ hwrites

theorem readBack_unread {keys : String → Prop} {versionId : Option String}
    {outcome : Except Failure (List Bytes)}
    (h : (readBackEvent (adapter.blobPath request content) versionId outcome).1.reads
      (adapter.notBlob request) keys) : False :=
  h _ rfl

theorem readBack_besides {versionId : Option String} {outcome : Except Failure (List Bytes)}
    (h : adapter.besides request
      (readBackEvent (adapter.blobPath request content) versionId outcome).1) : False := by
  rcases h with hreads | ⟨key, _, _, _, _, _, hputs⟩
  · exact readBack_unread hreads
  · cases hputs

-- The read-back of a transfer, if there was one, is its last call and decides it.
theorem Transfers.decided {α : Type} {value : StoredObject → α} {result : Except Failure α}
    (h : adapter.Transfers request content value events result) {versionId : Option String}
    {chunks : List Bytes}
    (hmem : readBackEvent (adapter.blobPath request content) versionId (.ok chunks) ∈ events) :
    ∃ stored, result = (adapter.transport.checkBody (adapter.common.digest content)
      content.length chunks).map fun _ => value stored := by
  cases h with
  | failed failure hwrites => exact absurd (hwrites _ hmem) id
  | @readBack sent _ outcome stored hwrites =>
      rcases List.mem_append.mp hmem with hmem | hmem
      · exact absurd (hwrites _ hmem) id
      · rw [List.mem_singleton, readBackEvent, readBackEvent, Sigma.mk.injEq] at hmem
        obtain ⟨hcall, houtcome⟩ := hmem
        cases hcall
        cases houtcome
        exact ⟨stored, rfl⟩

theorem Transfers.unpublished {α : Type} {value : StoredObject → α} {result : Except Failure α}
    (h : adapter.Transfers request content value events result) :
    ∀ event ∈ events, ¬adapter.publishes request content event.1 := by
  cases h with
  | failed failure hwrites => exact fun event hmem => blob_unpublished (hwrites event hmem)
  | readBack hwrites =>
      intro event hmem
      rcases List.mem_append.mp hmem with hmem | hmem
      · exact blob_unpublished (hwrites event hmem)
      · rw [List.mem_singleton] at hmem
        subst hmem
        exact fun h => h.elim id id

-- A transfer that succeeded has read its payload back.
theorem Transfers.succeeded {α : Type} {value : StoredObject → α} {outcome : α}
    (h : adapter.Transfers request content value events (.ok outcome)) :
    ∃ versionId chunks, readBackEvent (adapter.blobPath request content) versionId (.ok chunks) ∈
        events ∧ adapter.transport.checkBody (adapter.common.digest content) content.length chunks =
          .ok () := by
  generalize hresult : (Except.ok outcome : Except Failure α) = result at h
  cases h with
  | failed failure hwrites => cases hresult
  | @readBack sent versionId outcome stored hwrites =>
      cases outcome with
      | error failure => cases hresult
      | ok chunks =>
          refine ⟨versionId, chunks, List.mem_append_right _ (List.mem_singleton.mpr rfl), ?_⟩
          cases hcheck : adapter.transport.checkBody (adapter.common.digest content)
            content.length chunks with
          | ok _ => rfl
          | error failure =>
              change _ = ((adapter.transport.checkBody _ _ chunks).map _) at hresult
              rw [hcheck] at hresult
              cases hresult

-- What a put reads back of its payload, verified.
structure Verifies (adapter : S3ObjectAdapter) (request : PutRequest) (content : Bytes)
    (events : List (Event S3 Failure)) (result : Except Failure ObjectMetadata) : Prop where
  differs : ∀ versionId chunks,
    readBackEvent (adapter.blobPath request content) versionId (.ok chunks) ∈ events →
    chunks.flatten ≠ content → (∃ failure, result = .error failure) ∧
      ∀ event ∈ events, ¬adapter.publishes request content event.1
  equals : ∀ versionId chunks verdict,
    chunks.flatten = content → [] ∉ chunks →
    (adapter.transport.verifyDigest (adapter.blobPath request content)
      (adapter.common.digest content) content.length versionId).Path
        [readBackEvent (adapter.blobPath request content) versionId (.ok chunks)] verdict →
    verdict = .ok ()
  published : ∀ event ∈ events, adapter.publishes request content event.1 →
    ∃ versionId chunks, chunks.flatten = content ∧
      readBackEvent (adapter.blobPath request content) versionId (.ok chunks) ∈ events

theorem verifyDigest_path {key digest : String} {length : Nat} {versionId : Option String}
    {chunks : List Bytes} {verdict : Except Failure Unit}
    (path : (adapter.transport.verifyDigest key digest length versionId).Path
      [readBackEvent key versionId (.ok chunks)] verdict) :
    verdict = adapter.transport.checkBody digest length chunks := by
  rw [S3Transport.verifyDigest_eq] at path
  obtain ⟨first, rest, outcome, hevents, hfirst, hrest⟩ := Program.path_andThen.mp path
  obtain ⟨rfl, rfl⟩ := Program.path_done.mp hrest
  rw [Program.path_perform.mp hfirst, List.append_nil, readBackEvent, List.cons.injEq,
    Sigma.mk.injEq] at hevents
  cases hevents.1.2
  rfl

-- A put whose payload is not read back as it was sent fails and publishes nothing.
theorem put_verifies {hashed : Set Bytes} {result : Except Failure ObjectMetadata}
    (hfree : adapter.layout.CollisionFree hashed)
    (hverify : adapter.config.verifyAfterWrite = true)
    (hupload : adapter.uploadContent request = .ok content) (hcontent : content ∈ hashed)
    (path : (adapter.put request).Path events result)
    (hbodies : ∀ versionId chunks,
      readBackEvent (adapter.blobPath request content) versionId (.ok chunks) ∈ events →
      [] ∉ chunks ∧ chunks.flatten ∈ hashed) :
    adapter.Verifies request content events result := by
  have hok {versionId : Option String} {chunks : List Bytes}
      (hmem : readBackEvent (adapter.blobPath request content) versionId (.ok chunks) ∈ events) :
      adapter.transport.checkBody (adapter.common.digest content) content.length chunks = .ok () ↔
        chunks.flatten = content := by
    obtain ⟨hreads, hbody⟩ := hbodies versionId chunks hmem
    exact adapter.transport.checkBody_ok hfree hcontent hbody hreads
  constructor
  · intro versionId chunks hmem hne
    cases put_path hverify hupload path with
    | unsent result hreads => exact (readBack_unread (hreads _ hmem)).elim
    | @failed before sent parts failure raised hreads htransfer =>
        refine ⟨⟨raised, rfl⟩, fun event hevent => ?_⟩
        rcases List.mem_append.mp hevent with hevent | hevent
        · exact reads_unpublished (hreads event hevent)
        · exact htransfer.unpublished event hevent
    | @sent before sent after parts progress result hreads htransfer hbesides =>
        rcases List.mem_append.mp hmem with hbefore | hlater
        · exact (readBack_unread (hreads _ hbefore)).elim
        · rcases List.mem_append.mp hlater with hsent | hafter
          · obtain ⟨stored, hdecided⟩ := htransfer.decided hsent
            cases hcheck : adapter.transport.checkBody (adapter.common.digest content)
              content.length chunks with
            | ok _ => exact absurd ((hok hmem).mp hcheck) hne
            | error failure =>
                rw [hcheck] at hdecided
                cases hdecided
          · exact (readBack_besides (hbesides _ hafter)).elim
  · intro versionId chunks verdict hflatten hreads hpath
    rw [verifyDigest_path hpath]
    exact (adapter.transport.checkBody_ok hfree hcontent (hflatten ▸ hcontent) hreads).mpr hflatten
  · intro event hmem hpublishes
    cases put_path hverify hupload path with
    | unsent result hreads => exact absurd hpublishes (reads_unpublished (hreads event hmem))
    | @failed before sent parts failure raised hreads htransfer =>
        rcases List.mem_append.mp hmem with hmem | hmem
        · exact absurd hpublishes (reads_unpublished (hreads event hmem))
        · exact absurd hpublishes (htransfer.unpublished event hmem)
    | @sent before sent after parts progress result hreads htransfer hbesides =>
        obtain ⟨versionId, chunks, hread, hcheck⟩ := htransfer.succeeded
        have hread := List.mem_append_right before (List.mem_append_left after hread)
        exact ⟨versionId, chunks, (hok hread).mp hcheck, hread⟩

end S3ObjectAdapter

namespace Standard

theorem one_uploads : adapter.uploadContent one.request =
    .ok (ObjectCommon.encodeUtf8 "version-one") := by
  change Except.ok (adapter.spooled [ObjectCommon.encodeUtf8 "version-one"]).stream = _
  unfold S3ObjectAdapter.spooled
  rw [IntegritySpool.writeAll_stream]
  simp [IntegritySpool.new]

-- A provider that takes what it is sent and gives something else back.
def tampered : (call : S3Call) → Except Failure call.Reply
  | .getObject key _ _ =>
      if key = one.blobPath then .ok [ObjectCommon.encodeUtf8 "version-two"]
      else .error (.client "NoSuchKey" "404")
  | .putObject .. => .ok ⟨none, none⟩
  | _ => .error ⟨.sdk .endpointConnection, none⟩

def tampering : Handler S3 Failure Unit := fun call state => (tampered call, state)

theorem tampered_verifies :
    adapter.Verifies one.request (ObjectCommon.encodeUtf8 "version-one")
      ((adapter.put one.request).history tampering [] ())
      ((adapter.put one.request).run tampering ()).1 := by
  apply S3ObjectAdapter.put_verifies collisionFree rfl one_uploads (by simp [hashed, KNOWN_DIGESTS])
    (Program.run_path _ _ _)
  intro versionId chunks hmem
  have hanswer := Program.history_answers (fun _ _ => rfl) _ _ _ hmem
  change _ = tampered (.getObject one.blobPath versionId none) at hanswer
  rw [tampered, if_pos rfl] at hanswer
  cases hanswer
  exact ⟨by decide +kernel, by simp [hashed, KNOWN_DIGESTS]⟩

end Standard

end MeridianS3
