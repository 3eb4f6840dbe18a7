import MeridianS3.Effect.Account
import MeridianS3.Publication.Verification

namespace MeridianS3

open Effect ObjectStore Json

namespace S3ObjectAdapter

section Summary

variable (adapter : S3ObjectAdapter) (request : PutRequest)

-- The calls that store a blob of the put's object when they take effect.
def commitsBlob (call : S3Call) : Prop :=
  ∃ hash, call.commits (adapter.layout.path (.blob (adapter.layout.resourceToken request.resource)
    (adapter.layout.objectToken request.input.objectId) hash))

-- The calls that upload one.
def uploadsBlob (call : S3Call) : Prop :=
  ∃ hash, call.uploads (adapter.layout.path (.blob (adapter.layout.resourceToken request.resource)
    (adapter.layout.objectToken request.input.objectId) hash))

-- The read-back of the payload came in as it was sent.
def Matches (content : Bytes) (outcome : Except Failure (List Bytes)) : Prop :=
  ∃ chunks, outcome = .ok chunks ∧ adapter.transport.checkBody (adapter.common.digest content)
    content.length chunks = .ok ()

-- What a put does about its blob, and what it reports when it raises.
inductive Summary (events : List (Event S3 Failure)) (result : Except Failure ObjectMetadata) :
    Prop where
  | unsent (hreads : ∀ event ∈ events, event.1.reads (adapter.notBlob request) fun _ => False)
      (hreports : ∀ failure, result = .error failure →
        failure.physicalCommitPossible = some false ∨
          (adapter.putIntent request).Path events (.error failure))
  | uncommitted (hreports : ∃ failure, result = .error failure ∧
        failure.physicalCommitPossible = some false)
      (hcommits : ∀ event ∈ events, adapter.commitsBlob request event.1 → event.2.isOk = false)
      (hunread : ∀ event ∈ events, ∀ content versionId outcome,
        event ≠ readBackEvent (adapter.blobPath request content) versionId outcome)
  | mismatched (hreports : ∃ failure, result = .error failure ∧
        failure.physicalCommitPossible = some false)
      (hstored : ∃ event ∈ events, adapter.commitsBlob request event.1 ∧ event.2.isOk = true)
      (hmismatch : ∃ content versionId outcome, adapter.uploadContent request = .ok content ∧
        readBackEvent (adapter.blobPath request content) versionId outcome ∈ events ∧
        ¬adapter.Matches content outcome)
  | committed (hreports : ∀ failure, result = .error failure →
        failure.physicalCommitPossible = some true)
      (hstored : ∃ event ∈ events, adapter.commitsBlob request event.1)
      (hcommits : ∀ event ∈ events, adapter.commitsBlob request event.1 → event.2.isOk = true)
      (hmatches : ∀ content, adapter.uploadContent request = .ok content →
        ∀ versionId outcome, readBackEvent (adapter.blobPath request content) versionId outcome ∈
          events → adapter.Matches content outcome)

end Summary

variable {adapter : S3ObjectAdapter} {request : PutRequest} {intent : PutIntent}
variable {content : Bytes} {events : List (Event S3 Failure)}

theorem reads_uncommitted {call : S3Call}
    (h : call.reads (adapter.notBlob request) fun _ => False) :
    ¬adapter.commitsBlob request call := fun ⟨_, hcommits⟩ =>
  S3Call.reads_silent h _ (S3Call.commits_writes hcommits)

theorem apart_uncommitted {call : S3Call} (h : adapter.apart request call) :
    ¬adapter.commitsBlob request call := by
  obtain hreads | ⟨key, hkey, header, body, length, ifNoneMatch, checksum, rfl⟩ := h
  · exact reads_uncommitted hreads
  · rintro ⟨hash, hcommits⟩
    exact hkey hash hcommits

theorem apart_unread {versionId : Option String} {outcome : Except Failure (List Bytes)}
    {event : Event S3 Failure} (h : adapter.apart request event.1) :
    event ≠ readBackEvent (adapter.blobPath request content) versionId outcome := by
  rintro rfl
  obtain hreads | ⟨key, hkey, header, body, length, ifNoneMatch, checksum, hcall⟩ := h
  · exact readBack_unread hreads
  · cases hcall

theorem writes_unread {key : String} {versionId : Option String}
    {outcome : Except Failure (List Bytes)} {event : Event S3 Failure} (h : event.1.writes key)
    (other : String) : event ≠ readBackEvent other versionId outcome := by
  rintro rfl
  exact h

-- The calls of a transfer commit its own blob and no other.
theorem blob_commits {α : Type} {result : Except Failure α}
    (h : Commits (adapter.blobPath request content) events result)
    (hwrites : ∀ event ∈ events, event.1.writes (adapter.blobPath request content))
    (event : Event S3 Failure) (hmem : event ∈ events)
    (hcommits : adapter.commitsBlob request event.1) : event.2.isOk = result.isOk := by
  obtain ⟨hash, hcommits⟩ := hcommits
  have hkey := S3Call.writes_unique (S3Call.commits_writes hcommits) (hwrites event hmem)
  rw [hkey] at hcommits
  exact h.same event hmem hcommits

theorem storeBlob_paths {result : Except Failure StoredObject}
    (path : (adapter.storeBlob request intent (adapter.common.identity content) content).Path
      events result) :
    adapter.transport.FilePath (adapter.blobPath request content) (adapter.common.digest content)
      content.length events result := by
  have hkey : adapter.layout.blobKey request.resource request.input.objectId
      (adapter.common.digest content) = .ok (adapter.blobPath request content) :=
    S3Layout.blobKey_digest ..
  unfold storeBlob at path
  simp only [ObjectCommon.identity_digest, ObjectCommon.identity_byteLength, hkey] at path
  exact S3Transport.putFile_paths path

-- A verdict on the read-back is that it matches.
theorem verdict_isOk {α : Type} {outcome : Except Failure (List Bytes)} (value : α) :
    (((normalizedResult "get" false outcome).bind (adapter.transport.checkBody
      (adapter.common.digest content) content.length)).map fun _ => value).isOk = true ↔
      adapter.Matches content outcome := by
  cases outcome with
  | error failure =>
    constructor
    · intro h
      cases h
    · rintro ⟨chunks, hchunks, -⟩
      cases hchunks
  | ok chunks =>
    have hbind : (normalizedResult "get" false (.ok chunks)).bind (adapter.transport.checkBody
        (adapter.common.digest content) content.length) =
      adapter.transport.checkBody (adapter.common.digest content) content.length chunks := rfl
    rw [hbind]
    constructor
    · intro h
      refine ⟨chunks, rfl, ?_⟩
      cases hcheck : adapter.transport.checkBody (adapter.common.digest content) content.length
        chunks with
      | ok verdict => rfl
      | error failure =>
        rw [hcheck] at h
        cases h
    · rintro ⟨found, hfound, hcheck⟩
      obtain rfl := Except.ok.inj hfound
      rw [hcheck]
      rfl

-- The calls that bear on the blob are those of the transfer.
theorem mem_transfer {before sent after : List (Event S3 Failure)} {event : Event S3 Failure}
    (hbefore : ∀ event ∈ before, event.1.reads (adapter.notBlob request) fun _ => False)
    (hafter : ∀ event ∈ after, adapter.apart request event.1)
    (hmem : event ∈ before ++ (sent ++ after)) (h : ¬adapter.apart request event.1) :
    event ∈ sent := by
  simp only [List.mem_append] at hmem
  obtain hmem | hmem | hmem := hmem
  · exact absurd (Or.inl (hbefore event hmem)) h
  · exact hmem
  · exact absurd (hafter event hmem) h

theorem readBack_bears {versionId : Option String} {outcome : Except Failure (List Bytes)} :
    ¬adapter.apart request
      (readBackEvent (adapter.blobPath request content) versionId outcome).1 :=
  fun h => apart_unread h rfl

theorem commitsBlob_bears {call : S3Call} (h : adapter.commitsBlob request call) :
    ¬adapter.apart request call := fun hapart => apart_uncommitted hapart h

section Transfer

variable {before sent after : List (Event S3 Failure)} {result : Except Failure ObjectMetadata}
variable (hbefore : ∀ event ∈ before, event.1.reads (adapter.notBlob request) fun _ => False)
variable (hupload : adapter.uploadContent request = .ok content)

include hbefore hupload

theorem summary_failed {failure : Failure}
    (hpath : adapter.transport.FilePath (adapter.blobPath request content)
      (adapter.common.digest content) content.length sent (.error failure))
    (hreports : ∃ raised, result = .error raised ∧ raised.physicalCommitPossible = some false) :
    adapter.Summary request (before ++ sent) result := by
  have hsent {called : List (Event S3 Failure)} {event : Event S3 Failure}
      (hmem : event ∈ before ++ called) (h : ¬adapter.apart request event.1) : event ∈ called := by
    have hlast : event ∈ before ++ (called ++ []) := by rwa [List.append_nil]
    exact mem_transfer hbefore (fun _ hmem => absurd hmem List.not_mem_nil) hlast h
  generalize hended : (.error failure : Except Failure StoredObject) = ended at hpath
  cases hpath with
  | unverified hwrites hcommits hoff =>
    apply Summary.uncommitted hreports
    · intro event hmem hblob
      have hsame := blob_commits hcommits hwrites event (hsent hmem (commitsBlob_bears hblob)) hblob
      rw [← hended] at hsame
      exact hsame
    · intro event hmem other versionId outcome hread
      have hbears : ¬adapter.apart request event.1 := by
        rw [hread]
        exact readBack_bears
      exact writes_unread (hwrites event (hsent hmem hbears)) _ hread
  | @verified called stored versionId outcome hwrites hcommits =>
    apply Summary.mismatched hreports
    · obtain ⟨event, hmem, hblob⟩ := hcommits.some rfl
      refine ⟨event, by simp [hmem], ⟨_, hblob⟩, ?_⟩
      exact hcommits.same event hmem hblob
    · refine ⟨content, versionId, outcome, hupload, by simp, fun hmatches => ?_⟩
      have hok := (verdict_isOk stored).mpr hmatches
      rw [← hended] at hok
      cases hok

theorem summary_stored {stored : StoredObject}
    (hpath : adapter.transport.FilePath (adapter.blobPath request content)
      (adapter.common.digest content) content.length sent (.ok stored))
    (hafter : ∀ event ∈ after, adapter.apart request event.1)
    (hreports : ∀ failure, result = .error failure →
      failure.physicalCommitPossible = some true) :
    adapter.Summary request (before ++ (sent ++ after)) result := by
  generalize hended : (.ok stored : Except Failure StoredObject) = ended at hpath
  cases hpath with
  | unverified hwrites hcommits hoff =>
    rw [← hended] at hcommits
    apply Summary.committed hreports
    · obtain ⟨event, hmem, hblob⟩ := hcommits.some rfl
      exact ⟨event, by simp [hmem], _, hblob⟩
    · intro event hmem hblob
      exact blob_commits hcommits hwrites event
        (mem_transfer hbefore hafter hmem (commitsBlob_bears hblob)) hblob
    · intro other hother versionId outcome hmem
      exact absurd rfl (writes_unread (hwrites _ (mem_transfer hbefore hafter hmem readBack_bears))
        (adapter.blobPath request other))
  | @verified called found versionId outcome hwrites hcommits =>
    have hmatches : adapter.Matches content outcome := by
      rw [← verdict_isOk found, ← hended]
      rfl
    have hinner {event : Event S3 Failure}
        (hmem : event ∈ called ++ [readBackEvent (adapter.blobPath request content) versionId outcome])
        (hblob : adapter.commitsBlob request event.1) : event ∈ called := by
      obtain hmem | hmem := List.mem_append.mp hmem
      · exact hmem
      · rw [List.mem_singleton.mp hmem] at hblob
        obtain ⟨hash, hblob⟩ := hblob
        cases hblob
    apply Summary.committed hreports
    · obtain ⟨event, hmem, hblob⟩ := hcommits.some rfl
      exact ⟨event, by simp [hmem], _, hblob⟩
    · intro event hmem hblob
      exact blob_commits hcommits hwrites event
        (hinner (mem_transfer hbefore hafter hmem (commitsBlob_bears hblob)) hblob) hblob
    · intro other hother readId reply hmem
      rw [hupload] at hother
      obtain rfl := Except.ok.inj hother
      obtain hmem | hmem := List.mem_append.mp (mem_transfer hbefore hafter hmem readBack_bears)
      · exact absurd rfl (writes_unread (hwrites _ hmem) (adapter.blobPath request content))
      · obtain ⟨-, hreply⟩ := Sigma.mk.inj (List.mem_singleton.mp hmem)
        obtain rfl := eq_of_heq hreply
        exact hmatches

end Transfer

theorem put_summary {result : Except Failure ObjectMetadata}
    (path : (adapter.put request).Path events result) : adapter.Summary request events result := by
  have hintends : (adapter.putIntent request).Within
      (S3Call.reads (adapter.notBlob request) fun _ => False) :=
    adapter.putIntent_within request (adapter.notBlob_registered request)
      (adapter.notBlob_object request)
  have hlooked {looked seen : List (Event S3 Failure)} {intent : PutIntent}
      (hintent : (adapter.putIntent request).Path looked (.ok intent))
      (hreads : ∀ event ∈ seen, event.1.reads (adapter.notBlob request) fun _ => False) :
      ∀ event ∈ looked ++ seen, event.1.reads (adapter.notBlob request) fun _ => False := by
    intro event hmem
    obtain hmem | hmem := List.mem_append.mp hmem
    · exact hintends.path hintent event hmem
    · exact hreads event hmem
  cases put_paths path with
  | unopened hintent =>
    apply Summary.unsent (hintends.path hintent)
    intro failure hfailure
    obtain rfl := Except.error.inj hfailure
    exact Or.inr hintent
  | @failed looked called intent failure hintent hupload =>
    obtain ⟨profile, hprofile⟩ := putIntent_paths hintent
    generalize hended : (.error failure : Except Failure PutProgress) = ended at hupload
    cases putUpload_paths hupload with
    | refused raised hreads =>
      apply Summary.unsent (hlooked hintent hreads)
      intro raised hraised
      obtain rfl := Except.error.inj hraised
      exact Or.inl rfl
    | idempotent metadata hreads hlatest hcheck => cases hended
    | @transferred seen sent writes outcome hreads htransfer hstore =>
      cases outcome with
      | ok stored => cases hended
      | error raised =>
        rw [← List.append_assoc]
        exact summary_failed (hlooked hintent hreads) (uploadContent_ok hprofile htransfer)
          (storeBlob_paths hstore) ⟨_, rfl, rfl⟩
  | @idempotent looked called intent metadata hintent hfound =>
    generalize hended : (.ok (.idempotent metadata) : Except Failure PutProgress) = ended at hfound
    cases putUpload_paths hfound with
    | refused raised hreads => cases hended
    | idempotent stored hreads hlatest hcheck =>
      exact .unsent (hlooked hintent hreads) fun _ h => nomatch h
    | @transferred seen sent writes outcome hreads htransfer hstore =>
      cases outcome with
      | ok stored => cases hended
      | error raised => cases hended
  | @uploaded looked called after intent identity chunks stored result hintent hstored hpublish =>
    obtain ⟨profile, hprofile⟩ := putIntent_paths hintent
    generalize hended : (.ok (.uploaded identity chunks stored) : Except Failure PutProgress) =
      ended at hstored
    cases putUpload_paths hstored with
    | refused raised hreads => cases hended
    | idempotent metadata hreads hlatest hcheck => cases hended
    | @transferred seen sent writes outcome hreads htransfer hstore =>
      cases outcome with
      | error raised => cases hended
      | ok found =>
        rw [List.append_assoc, ← List.append_assoc looked]
        apply summary_stored (hlooked hintent hreads) (uploadContent_ok hprofile htransfer)
          (storeBlob_paths hstore) (publish_apart.path hpublish)
        intro failure hfailure
        cases result with
        | ok metadata => cases hfailure
        | error raised =>
          obtain rfl := Except.error.inj hfailure
          rfl

-- The failure state tells of a blob that the put has stored, and of none when nothing was
-- uploaded. A put that fails before it opens its state machine has no failure state.
structure Reports (adapter : S3ObjectAdapter) (request : PutRequest)
    (account : List (Event S3 Failure × Bool)) (result : Except Failure ObjectMetadata) : Prop where
  stored : ∀ failure, result = .error failure →
    (∃ entry ∈ account, entry.2 = true ∧ adapter.commitsBlob request entry.1.1) →
    failure.physicalCommitPossible = some true
  unsent : ∀ failure, result = .error failure →
    (∀ entry ∈ account, ¬adapter.uploadsBlob request entry.1.1) →
    failure.physicalCommitPossible = some false ∨
      (adapter.putIntent request).Path (account.map Prod.fst) (.error failure)

-- No reply to the call that stores the blob is lost, and what is read back of it is what
-- was sent.
structure Answered (adapter : S3ObjectAdapter) (request : PutRequest)
    (account : List (Event S3 Failure × Bool)) : Prop where
  replies : ∀ entry ∈ account, adapter.commitsBlob request entry.1.1 → entry.2 = true →
    entry.1.2.isOk = true
  matched : ∀ content, adapter.uploadContent request = .ok content → ∀ versionId outcome,
    readBackEvent (adapter.blobPath request content) versionId outcome ∈ account.map Prod.fst →
    adapter.Matches content outcome

theorem Summary.reports_iff {account : List (Event S3 Failure × Bool)}
    {result : Except Failure ObjectMetadata}
    (h : adapter.Summary request (account.map Prod.fst) result)
    (hreturned : ∀ entry ∈ account, entry.1.2.isOk = true → entry.2 = true) :
    adapter.Reports request account result ↔ adapter.Answered request account := by
  have hevent {entry : Event S3 Failure × Bool} (hmem : entry ∈ account) :
      entry.1 ∈ account.map Prod.fst := List.mem_map_of_mem hmem
  cases h with
  | unsent hreads hreports =>
    have hnone (entry : Event S3 Failure × Bool) (hmem : entry ∈ account) :=
      reads_uncommitted (hreads entry.1 (hevent hmem))
    constructor
    · intro _
      refine ⟨fun entry hmem hcommits => absurd hcommits (hnone entry hmem), ?_⟩
      exact fun content _ versionId outcome hmem => (readBack_unread (hreads _ hmem)).elim
    · intro _
      refine ⟨?_, fun failure hfailure _ => hreports failure hfailure⟩
      rintro failure - ⟨entry, hmem, -, hcommits⟩
      exact absurd hcommits (hnone entry hmem)
  | uncommitted hreports hcommits hunread =>
    obtain ⟨failure, rfl, hflag⟩ := hreports
    constructor
    · intro h
      refine ⟨?_, fun content _ versionId outcome hmem => absurd rfl (hunread _ hmem _ _ _)⟩
      intro entry hmem hblob htook
      rw [h.stored failure rfl ⟨entry, hmem, htook, hblob⟩] at hflag
      cases hflag
    · intro h
      constructor
      · rintro raised - ⟨entry, hmem, htook, hblob⟩
        have hlost := hcommits entry.1 (hevent hmem) hblob
        rw [h.replies entry hmem hblob htook] at hlost
        cases hlost
      · intro raised hraised _
        obtain rfl := Except.error.inj hraised
        exact Or.inl hflag
  | mismatched hreports hstored hmismatch =>
    obtain ⟨failure, rfl, hflag⟩ := hreports
    constructor
    · intro h
      obtain ⟨event, hmem, hblob, hok⟩ := hstored
      obtain ⟨entry, hentry, rfl⟩ := List.mem_map.mp hmem
      rw [h.stored failure rfl ⟨entry, hentry, hreturned entry hentry hok, hblob⟩] at hflag
      cases hflag
    · intro h
      obtain ⟨content, versionId, outcome, hupload, hmem, hdiffers⟩ := hmismatch
      exact absurd (h.matched content hupload versionId outcome hmem) hdiffers
  | committed hreports hstored hcommits hmatches =>
    constructor
    · intro _
      exact ⟨fun entry hmem hblob _ => hcommits entry.1 (hevent hmem) hblob, hmatches⟩
    · intro _
      refine ⟨fun failure hfailure _ => hreports failure hfailure, ?_⟩
      intro failure _ hunsent
      obtain ⟨event, hmem, hash, hblob⟩ := hstored
      obtain ⟨entry, hentry, rfl⟩ := List.mem_map.mp hmem
      exact absurd ⟨hash, S3Call.commits_uploads hblob⟩ (hunsent entry hentry)

-- Whoever answers the calls of a put, and whichever of them fail before or after they take
-- effect: its failure state is right exactly when the reply to the call that stores the
-- blob is not lost and the read-back matches.
theorem put_reports_iff (adapter : S3ObjectAdapter) (request : PutRequest) {σ : Type}
    (handler : Handler S3 Failure σ) (plan : Plan Failure) (state : σ) :
    adapter.Reports request ((adapter.put request).account handler plan state)
        ((adapter.put request).runFaulty handler plan state).1 ↔
      adapter.Answered request ((adapter.put request).account handler plan state) := by
  have hpath := (adapter.put request).account_path handler plan state
  apply (put_summary hpath).reports_iff
  intro entry hmem hok
  exact Program.account_returned handler _ plan state hmem hok

end S3ObjectAdapter

namespace Standard

-- The reply to the fourth call, which stores the blob, is lost.
def lostCommit : Plan Failure := [none, none, none, some lostReply]

theorem lost_commit_unreported :
    ¬adapter.Reports one.request
      ((adapter.put one.request).account provider.handle lostCommit (Store.empty false))
      ((adapter.put one.request).runFaulty provider.handle lostCommit (Store.empty false)).1 := by
  have hraised : ((adapter.put one.request).runFaulty provider.handle lostCommit
      (Store.empty false)).1 = .error ⟨.meridian { kind := .objectUnavailable
                                                   adapterProvenance := s3Provenance },
        some false⟩ := by
    decide +kernel
  have hstored : ∃ entry ∈ (adapter.put one.request).account provider.handle lostCommit
      (Store.empty false), entry.2 = true ∧ entry.1.1.commits one.blobPath := by
    decide +kernel
  intro h
  obtain ⟨entry, hmem, htook, hcommits⟩ := hstored
  have hflag := h.stored _ hraised ⟨entry, hmem, htook, one.hash, hcommits⟩
  cases hflag

end Standard

end MeridianS3
