import MeridianS3.Acknowledged
import MeridianS3.Records.Malformed
import MeridianS3.Standard.Samples

namespace MeridianS3

open Effect ObjectStore Json

namespace S3ObjectAdapter

variable {adapter : S3ObjectAdapter} {α : Type}

section Requests

variable {resource : ResourceRef}

theorem reference_domestic (hchecked : adapter.common.Checked) (resource : ResourceRef)
    (raw : Value) (method : String) (requireDigest : Bool) :
    ¬Foreign Failure.foreign (adapter.reference resource raw method requireDigest) := by
  have hmeridian (kind : ErrorKind) (message : Option String) :
      ¬Foreign Failure.foreign (.error (.meridian kind message) : Except Failure ObjectReference) :=
    mt foreign_error.mp (Failure.meridian_domestic _ _)
  have hends (reference : ObjectReference) : ¬Foreign Failure.foreign (do
      if requireDigest ∧ reference.digest = none then
        throw (.meridian .objectInvalidRequest (some "exact Object operation requires a digest"))
      if (reference.resourceRef.namespace, reference.resourceRef.name) ≠
          (resource.namespace, resource.name) then
        throw (.meridian .objectInvalidRequest
          (some "Object reference does not belong to the target Resource"))
      return reference : Except Failure ObjectReference) := by
    dsimp only
    split
    · exact hmeridian _ _
    · split
      · exact hmeridian _ _
      · exact not_foreign_ok
  apply not_foreign_bind
  · unfold jsonMapping
    split
    · exact not_foreign_ok
    · exact mt foreign_error.mp (Failure.meridian_domestic _ _)
  · intro mapping _
    apply not_foreign_bind (hchecked.reference mapping)
    intro parsed _
    cases parsed with
    | plain reference => exact hends reference
    | signed signed =>
      dsimp only
      split
      · exact not_foreign_bind (hchecked.signed _ _ _ _) fun reference _ => hends reference
      · exact hmeridian _ _

theorem reference_digest (hchecked : adapter.common.Checked) {raw : Value} {method : String}
    {requireDigest : Bool} {reference : ObjectReference}
    (h : adapter.reference resource raw method requireDigest = .ok reference) :
    ∀ digest ∈ reference.digest, ∃ hash : HexDigest, digest = hash.digest := by
  have hends {found : ObjectReference} (h : (do
      if requireDigest ∧ found.digest = none then
        throw (.meridian .objectInvalidRequest (some "exact Object operation requires a digest"))
      if (found.resourceRef.namespace, found.resourceRef.name) ≠
          (resource.namespace, resource.name) then
        throw (.meridian .objectInvalidRequest
          (some "Object reference does not belong to the target Resource"))
      return found : Except Failure ObjectReference) = .ok reference) : found = reference := by
    dsimp only at h
    split at h
    · cases h
    · split at h
      · cases h
      · exact Except.ok.inj h
  obtain ⟨mapping, -, h⟩ := bind_ok h
  obtain ⟨parsed, hparsed, h⟩ := bind_ok h
  cases parsed with
  | plain plain =>
    obtain rfl := hends h
    exact hchecked.plainDigest _ _ hparsed
  | signed signed =>
    dsimp only at h
    split at h
    · obtain ⟨found, hfound, h⟩ := bind_ok h
      obtain rfl := hends h
      exact hchecked.signedDigest _ _ _ _ _ hfound
    · cases h

theorem stat_blames (hchecked : adapter.common.Checked) (request : ReferenceRequest) :
    adapter.Blames (adapter.stat request) := by
  apply Program.Blames.lift_bind (reference_domestic hchecked _ _ _ _)
  intro reference hreference
  apply Program.Blames.bind_path (readEnvelope_blames _ (reference_digest hchecked hreference))
  intro events envelope path _
  obtain ⟨hash, hdigest⟩ := readEnvelope_digest path
  rw [hdigest, S3Layout.blobKey_digest]
  apply Program.Blames.bind (head_blames _ _)
  intro head
  apply Program.Blames.lift_bind
  · unfold verifyHead
    split
    · exact mt foreign_error.mp (Failure.meridian_domestic _ _)
    · exact not_foreign_ok
  · exact fun _ _ => .ofPure envelope

-- The digest of an envelope that a stat returns has its form.
theorem stat_digest {request : ReferenceRequest} {events : List (Event S3 Failure)}
    {envelope : StoredEnvelope} (path : (adapter.stat request).Path events (.ok envelope)) :
    ∃ hash : HexDigest, envelope.metadata.digest = hash.digest := by
  obtain ⟨failure, -, hfailure⟩ | ⟨none, rest, reference, rfl, -, hrest⟩ := Program.path_bind.mp path
  · cases hfailure
  · obtain ⟨failure, -, hfailure⟩ | ⟨read, later, found, rfl, hread, hlater⟩ :=
      Program.path_bind.mp hrest
    · cases hfailure
    · obtain ⟨failure, -, hfailure⟩ | ⟨none, after, key, rfl, -, hafter⟩ :=
        Program.path_bind.mp hlater
      · cases hfailure
      · obtain ⟨failure, -, hfailure⟩ | ⟨called, verified, head, rfl, -, hverified⟩ :=
          Program.path_bind.mp hafter
        · cases hfailure
        · obtain ⟨failure, -, hfailure⟩ | ⟨none, ended, _, rfl, -, hended⟩ :=
            Program.path_bind.mp hverified
          · cases hfailure
          · obtain ⟨-, hresult⟩ := Program.path_pure.mp hended
            obtain rfl := Except.ok.inj hresult
            exact readEnvelope_digest hread

theorem get_blames (hchecked : adapter.common.Checked) (reference : Value) :
    adapter.Blames (adapter.get resource reference) := by
  apply Program.Blames.bind_path (stat_blames hchecked _)
  intro events envelope path _
  obtain ⟨hash, hdigest⟩ := stat_digest path
  rw [hdigest, S3Layout.blobKey_digest]
  exact .ofPure _

theorem readRange_blames (hchecked : adapter.common.Checked) (request : RangeRequest) :
    adapter.Blames (adapter.readRange request) := by
  apply Program.Blames.bind_path (stat_blames hchecked _)
  intro events envelope path _
  obtain ⟨hash, hdigest⟩ := stat_digest path
  apply Program.Blames.lift_bind
  · unfold jsonMapping
    split
    · exact not_foreign_ok
    · exact mt foreign_error.mp (Failure.meridian_domestic _ _)
  · intro rawRange _
    apply Program.Blames.lift_bind (hchecked.range _ _)
    intro resolved _
    dsimp only
    split
    · exact .ofThrow (Failure.meridian_domestic _ _)
    · split
      · exact .ofThrow (Failure.meridian_domestic _ _)
      · rw [hdigest, S3Layout.blobKey_digest]
        exact .ofPure _

theorem written_blames {call : S3Call} {operation : String} {sensitive : Bool}
    (h : ∀ key, call ≠ .getObject key none none) :
    adapter.Blames (normalized operation sensitive (Program.perform (S := S3) call)) := by
  apply normalized_blames
  apply Program.Within.perform
  intro reply hmalformed
  obtain ⟨key, hcall⟩ := malformed_reads hmalformed
  exact h key hcall

theorem putJson_blames (key : String) (value : Value) (createOnly : Bool) :
    adapter.Blames (adapter.transport.putJson key value createOnly none) := by
  apply Program.Blames.lift_bind
  · exact not_foreign_ok
  · intro arguments _
    apply Program.Blames.bind
    · apply written_blames
      exact fun _ h => nomatch h
    · exact fun response => .ofPure _

theorem delete_blames (key : String) (versionId : Value) (sensitive : Bool) :
    adapter.Blames (S3Transport.delete key versionId sensitive) := by
  apply normalized_blames
  apply Program.Within.bind (.ofLift _)
  intro version
  apply Program.Within.perform
  intro reply hmalformed
  obtain ⟨found, hcall⟩ := malformed_reads hmalformed
  cases hcall

theorem removeVersion_blames {objectId : String} {hash : HexDigest} (envelope : StoredEnvelope)
    (latest previous : Option StoredEnvelope) :
    adapter.Blames
      (adapter.removeVersion resource objectId hash.digest envelope latest previous) := by
  unfold removeVersion
  rw [S3Layout.blobKey_digest, S3Layout.referenceKey_digest]
  apply Program.Blames.lift_bind not_foreign_ok
  intro blobKey _
  apply Program.Blames.lift_bind not_foreign_ok
  intro exactKey _
  apply Program.Blames.bind (head_blames _ _)
  intro exactHead
  apply Program.Blames.bind (delete_blames _ _ _)
  intro _
  apply Program.Blames.bind (delete_blames _ _ _)
  intro _
  split
  · unfold restoreLatest
    cases previous with
    | some previous => exact Program.Blames.bind (putJson_blames _ _ _) fun _ => .ofPure ()
    | none => exact Program.Blames.bind (head_blames _ _) fun _ => delete_blames _ _ _
  · exact .ofPure ()

theorem recordDeletion_blames (request : DeleteRequest) (reference : ObjectReference)
    (hash : HexDigest) :
    adapter.Blames (adapter.recordDeletion request reference hash.digest) := by
  unfold recordDeletion
  rw [S3Layout.deletionEvidenceKey_digest]
  apply Program.Blames.lift_bind not_foreign_ok
  intro key _
  exact Program.Blames.bind (putJson_blames _ _ _) fun _ => .ofPure ()

-- A delete reads the version first. Its retention record has a deadline that is none.
structure UndatedAt (adapter : S3ObjectAdapter) (request : DeleteRequest) (objectId : String)
    (hash : HexDigest) (event : Event S3 Failure) (value : Value) (envelope : StoredEnvelope) :
    Prop where
  reads : adapter.Reads event (adapter.layout.path
    (.reference (adapter.layout.resourceToken request.resource)
      (adapter.layout.objectToken objectId) hash)) value
  checked : adapter.checkedEnvelope objectId hash.digest value = .ok envelope
  foreign : Foreign Failure.foreign (adapter.requireDeleteAllowed envelope request.checkedAt)

theorem deleteVersion_blames {request : DeleteRequest} {reference : ObjectReference}
    {hash : HexDigest} {events : List (Event S3 Failure)} {result : Except Failure Unit}
    (path : (adapter.deleteVersion request reference hash.digest).Path events result)
    (hlisted : ∀ event ∈ events, Listed event) :
    Foreign Failure.foreign result ↔ (∃ event ∈ events, adapter.Malformed event) ∨
      ∃ event ∈ events.head?, ∃ value envelope,
        adapter.UndatedAt request reference.objectId hash event value envelope := by
  have hread : adapter.Blames (adapter.readEnvelope request.resource reference.objectId
      (some hash.digest)) := by
    rw [readEnvelope_exact]
    exact readExact_blames
  obtain ⟨failure, hpath, rfl⟩ | ⟨first, rest, envelope, rfl, hpath, hrest⟩ :=
    Program.path_bind.mp path
  · have hblames := hread _ _ hpath hlisted
    rw [readEnvelope_exact] at hpath
    obtain ⟨event, reply, rfl, rfl, hresult⟩ := document_path hpath
    rw [or_iff_left]
    · exact foreign_error.trans (foreign_error.symm.trans hblames)
    · rintro ⟨event, hevent, value, envelope, hundated⟩
      obtain rfl := Option.some.inj hevent
      rw [(reads_iff.mp hundated.reads).2] at hresult
      exact nomatch hresult.trans hundated.checked
  · obtain ⟨hbefore, hafter⟩ := List.forall_mem_append.mp hlisted
    have hgood := (hread _ _ hpath hbefore).not.mp not_foreign_ok
    rw [readEnvelope_exact] at hpath
    obtain ⟨event, reply, rfl, hevent, hresult⟩ := document_path hpath
    obtain ⟨value, hvalue, hchecked⟩ := bind_ok hresult.symm
    -- The version that is read first is the one whose deadline counts.
    have hundated : (∃ first ∈ ([event] ++ rest).head?, ∃ value envelope,
        adapter.UndatedAt request reference.objectId hash first value envelope) ↔
        Foreign Failure.foreign (adapter.requireDeleteAllowed envelope request.checkedAt) := by
      constructor
      · rintro ⟨first, hfirst, other, found, hreads, hfound, hforeign⟩
        obtain rfl := Option.some.inj hfirst
        rw [hevent] at hreads
        rw [(reads_iff.mp hreads).2] at hvalue
        obtain rfl := Except.ok.inj hvalue
        rw [hchecked] at hfound
        obtain rfl := Except.ok.inj hfound
        exact hforeign
      · exact fun hforeign => ⟨event, rfl, value, envelope,
          by rw [hevent]; exact reads_iff.mpr ⟨rfl, hvalue⟩, hchecked, hforeign⟩
    rw [hundated]
    have hmalformed : (∃ called ∈ [event] ++ rest, adapter.Malformed called) ↔
        ∃ called ∈ rest, adapter.Malformed called := by
      simp only [List.mem_append, or_and_right, exists_or]
      exact or_iff_right hgood
    rw [hmalformed]
    by_cases hforeign : Foreign Failure.foreign
        (adapter.requireDeleteAllowed envelope request.checkedAt)
    · obtain ⟨failure, hfailure, hraised⟩ := hforeign
      rw [hfailure] at hrest ⊢
      obtain ⟨rfl, rfl⟩ := Program.path_throw.mp hrest
      exact iff_of_true (foreign_error.mpr hraised) (Or.inr (foreign_error.mpr hraised))
    · rw [or_iff_left hforeign]
      have hblames : adapter.Blames (Program.lift
          (adapter.requireDeleteAllowed envelope request.checkedAt) >>= fun _ => do
            let latest ← adapter.tryLatest request.resource reference.objectId
            let previous ← adapter.newestVersion request.resource reference.objectId
              (some hash.digest)
            adapter.removeVersion request.resource reference.objectId hash.digest envelope latest
              previous
            adapter.recordDeletion request reference hash.digest) := by
        apply Program.Blames.lift_bind hforeign
        intro _ _
        apply Program.Blames.bind tryLatest_blames
        intro latest
        apply Program.Blames.bind (newestVersion_blames _)
        intro previous
        apply Program.Blames.bind (removeVersion_blames _ _ _)
        exact fun _ => recordDeletion_blames _ _ _
      exact hblames _ _ hrest hafter

end Requests

-- The operations that use stored envelopes.
def Consults : Operation → Prop
  | .get .. | .stat .. | .readRange _ | .list _ | .delete _ => True
  | _ => False

-- A delete whose version has a deadline that is none.
def Undated (adapter : S3ObjectAdapter) (operation : Operation)
    (events : List (Event S3 Failure)) : Prop :=
  ∃ request reference, ∃ hash : HexDigest, operation = .delete request ∧
    adapter.reference request.resource request.reference "delete" true = .ok reference ∧
    reference.digest = some hash.digest ∧ ∃ event ∈ events.head?, ∃ value envelope,
      adapter.UndatedAt request reference.objectId hash event value envelope

-- A list with a cursor that nests too deep.
def Overnested (adapter : S3ObjectAdapter) (operation : Operation) : Prop :=
  ∃ request, operation = .list request ∧
    ∃ cursor ∈ request.cursor, ListCursor.Nested adapter.common cursor

theorem delete_foreign_iff (hchecked : adapter.common.Checked) {request : DeleteRequest}
    {events : List (Event S3 Failure)} {result : Except Failure Bool}
    (path : (adapter.delete request).Path events result)
    (hlisted : ∀ event ∈ events, Listed event) :
    Foreign Failure.foreign result ↔
      (∃ event ∈ events, adapter.Malformed event) ∨ adapter.Undated (.delete request) events := by
  have hunread : ¬∃ event ∈ ([] : List (Event S3 Failure)), adapter.Malformed event := by simp
  have hdomestic := reference_domestic hchecked request.resource request.reference "delete" true
  obtain ⟨failure, hfailed, rfl⟩ | ⟨none, rest, reference, rfl, hreference, hrest⟩ :=
    Program.path_bind.mp path
  · obtain ⟨rfl, hfailure⟩ := Program.path_lift.mp hfailed
    rw [← hfailure] at hdomestic
    apply iff_of_false
    · exact mt (fun h => foreign_error.mpr (foreign_error.mp h)) hdomestic
    · rintro (hmalformed | ⟨_, _, _, _, _, _, event, hevent, _⟩)
      · exact hunread hmalformed
      · cases hevent
  · obtain ⟨rfl, hfound⟩ := Program.path_lift.mp hreference
    rw [List.nil_append] at hlisted ⊢
    cases hdigest : reference.digest with
    | none =>
      rw [hdigest] at hrest
      obtain ⟨rfl, rfl⟩ := Program.path_throw.mp hrest
      apply iff_of_false
      · exact mt foreign_error.mp (Failure.meridian_domestic _ _)
      · rintro (hmalformed | ⟨_, _, _, _, _, _, event, hevent, _⟩)
        · exact hunread hmalformed
        · cases hevent
    | some digest =>
      obtain ⟨hash, rfl⟩ := reference_digest hchecked hfound.symm digest hdigest
      rw [hdigest] at hrest
      have hundated : adapter.Undated (.delete request) rest ↔ ∃ event ∈ rest.head?,
          ∃ value envelope,
            adapter.UndatedAt request reference.objectId hash event value envelope := by
        constructor
        · rintro ⟨other, parsed, content, hrequest, hparsed, hcontent, hrecord⟩
          cases hrequest
          obtain rfl := Except.ok.inj (hfound.trans hparsed)
          have hsame : hash.digest = content.digest := Option.some.inj (hdigest.symm.trans hcontent)
          obtain rfl := HexDigest.digest_injective hsame
          exact hrecord
        · exact fun hrecord => ⟨request, reference, hash, rfl, hfound.symm, hdigest, hrecord⟩
      rw [hundated]
      obtain ⟨failure, hdeleted, rfl⟩ | ⟨called, ended, _, rfl, hdeleted, hended⟩ :=
        Program.path_bind.mp hrest
      · exact foreign_error.trans
          (foreign_error.symm.trans (deleteVersion_blames hdeleted hlisted))
      · obtain ⟨rfl, rfl⟩ := Program.path_pure.mp hended
        rw [List.append_nil] at hlisted ⊢
        exact (iff_of_false not_foreign_ok not_foreign_ok).trans
          (deleteVersion_blames hdeleted hlisted)

theorem list_foreign_iff {request : ListRequest} {events : List (Event S3 Failure)}
    {result : Except Failure ListResult} (path : (adapter.list request).Path events result)
    (hlisted : ∀ event ∈ events, Listed event) :
    Foreign Failure.foreign result ↔ (∃ event ∈ events, adapter.Malformed event) ∨
      ∃ cursor ∈ request.cursor, ListCursor.Nested adapter.common cursor := by
  by_cases hnested : ∃ cursor ∈ request.cursor, ListCursor.Nested adapter.common cursor
  · obtain ⟨failure, hfailure, hforeign⟩ := startAfter_foreign.mpr hnested
    apply iff_of_true _ (Or.inr hnested)
    unfold list at path
    rw [hfailure] at path
    obtain ⟨-, rfl⟩ := Program.path_throw.mp path
    exact foreign_error.mpr hforeign
  · rw [or_iff_left hnested]
    exact list_blames hnested _ _ path hlisted

theorem execute_foreign_iff (hchecked : adapter.common.Checked) {operation : Operation}
    (hconsults : Consults operation) {events : List (Event S3 Failure)}
    {result : Except Failure Outcome} (path : (adapter.execute operation).Path events result)
    (hlisted : ∀ event ∈ events, Listed event) :
    Foreign Failure.foreign result ↔ (∃ event ∈ events, adapter.Malformed event) ∨
      adapter.Undated operation events ∨ adapter.Overnested operation := by
  have hreads (hblames : adapter.Blames (adapter.execute operation))
      (hdelete : ∀ request, operation ≠ .delete request)
      (hlist : ∀ request, operation ≠ .list request) :
      Foreign Failure.foreign result ↔ (∃ event ∈ events, adapter.Malformed event) ∨
        adapter.Undated operation events ∨ adapter.Overnested operation := by
    rw [or_iff_left]
    · exact hblames _ _ path hlisted
    · rintro (⟨request, _, _, hrequest, _⟩ | ⟨request, hrequest, -⟩)
      · exact hdelete request hrequest
      · exact hlist request hrequest
  cases operation with
  | publishSchema request | createResource request | put request => exact hconsults.elim
  | get resource reference =>
    exact hreads (Program.Blames.map (get_blames hchecked reference)) (fun _ h => nomatch h)
      fun _ h => nomatch h
  | stat resource reference =>
    exact hreads (Program.Blames.map (stat_blames hchecked _)) (fun _ h => nomatch h)
      fun _ h => nomatch h
  | readRange request =>
    exact hreads (Program.Blames.map (readRange_blames hchecked request)) (fun _ h => nomatch h)
      fun _ h => nomatch h
  | list request =>
    have hdated : ¬adapter.Undated (.list request) events := by
      rintro ⟨_, _, _, hdelete, _⟩
      cases hdelete
    have hnested : adapter.Overnested (.list request) ↔
        ∃ cursor ∈ request.cursor, ListCursor.Nested adapter.common cursor := by
      constructor
      · rintro ⟨other, hsame, hcursor⟩
        cases hsame
        exact hcursor
      · exact fun hcursor => ⟨request, rfl, hcursor⟩
    rw [or_iff_right hdated, hnested]
    obtain ⟨inner, hinner, hresult⟩ := Program.foreign_of_map path
    exact hresult.trans (list_foreign_iff hinner hlisted)
  | delete request =>
    have hnested : ¬adapter.Overnested (.delete request) := by
      rintro ⟨_, hlist, -⟩
      cases hlist
    rw [or_iff_left hnested]
    obtain ⟨inner, hinner, hresult⟩ := Program.foreign_of_map path
    exact hresult.trans (delete_foreign_iff hchecked hinner hlisted)

-- An envelope under the reference key of its own Resource, object id and digest.
def Identified (adapter : S3ObjectAdapter) (envelope : StoredEnvelope) (key : String) : Prop :=
  adapter.layout.referenceKey envelope.metadata.objectRef.resourceRef
    envelope.metadata.objectRef.objectId envelope.metadata.digest = .ok key

-- If the call has read an envelope, it is that of its key.
def Own (adapter : S3ObjectAdapter) (event : Event S3 Failure) : Prop :=
  ∀ key value envelope, adapter.ReferenceKey key → adapter.Reads event key value →
    StoredEnvelope.fromMapping adapter.common value = .ok envelope →
    adapter.Identified envelope key

-- The operation ends with one of Meridian's errors, or has used no envelope but those of
-- the keys that they were read from.
structure FailsClosed {α : Type} (adapter : S3ObjectAdapter) (events : List (Event S3 Failure))
    (result : Except Failure α) : Prop where
  closed : ¬Foreign Failure.foreign result
  own : ∀ value, result = .ok value → ∀ event ∈ events, adapter.Own event

-- The documents that the operation reads can be read, and each is that of its key. So can
-- the cursor of a listing.
structure Legible (adapter : S3ObjectAdapter) (operation : Operation)
    (events : List (Event S3 Failure)) : Prop where
  formed : ∀ event ∈ events, ¬adapter.Malformed event
  dated : ¬adapter.Undated operation events
  flat : ¬adapter.Overnested operation
  own : ∀ event ∈ events, adapter.Own event

-- A bucket of such documents.
structure Intact (adapter : S3ObjectAdapter) (bucket : Bucket) : Prop where
  pointers : ∀ resource objectId, ¬Foreign Failure.foreign
    ((adapter.transport.document bucket (adapter.layout.latestKey resource objectId)).bind pointed)
  envelopes : ∀ key, adapter.ReferenceKey key → ¬Foreign Failure.foreign
    ((adapter.transport.document bucket key).bind (StoredEnvelope.fromMapping adapter.common))
  own : ∀ key value envelope, adapter.ReferenceKey key →
    adapter.transport.document bucket key = .ok value →
    StoredEnvelope.fromMapping adapter.common value = .ok envelope →
    adapter.Identified envelope key

theorem decodeReply_error (adapter : S3ObjectAdapter) {failure : Failure}
    (decode : Value → Except Failure α) :
    ¬Foreign Failure.foreign ((adapter.transport.decodeReply (.error failure)).bind decode) := by
  rw [foreign_bind]
  rintro (hforeign | ⟨value, hvalue, -⟩)
  · exact Failure.normalized_domestic _ _ _ (foreign_error.mp hforeign)
  · cases hvalue

-- Readers find nothing else in it, whatever calls fail.
theorem Intact.legible {bucket : Bucket} (h : adapter.Intact bucket) {operation : Operation}
    (hobserves : (adapter.execute operation).Within S3Call.observes)
    (hflat : ¬adapter.Overnested operation) (hreads : ∀ request, operation ≠ .delete request)
    (provider : Provider) (plan : Plan Failure) :
    adapter.Legible operation
      ((adapter.execute operation).history provider.handle plan bucket) := by
  have hanswers := hobserves.history_answers provider.handle_observes plan bucket
  constructor
  · intro event hmem hmalformed
    obtain ⟨key, reply, rfl, hkey⟩ := malformed_key hmalformed
    obtain hreply | ⟨failure, hreply⟩ := hanswers _ hmem
    · obtain rfl : reply = (provider.handle (.getObject key none none) bucket).1 := hreply
      obtain hreference | ⟨resource, objectId, rfl⟩ := hkey
      · rw [malformed_reference hreference, S3Transport.decodeReply_handle] at hmalformed
        exact h.envelopes key hreference hmalformed
      · rw [malformed_latest, S3Transport.decodeReply_handle] at hmalformed
        exact h.pointers resource objectId hmalformed
    · obtain rfl : reply = .error failure := hreply
      obtain hreference | ⟨resource, objectId, rfl⟩ := hkey
      · rw [malformed_reference hreference] at hmalformed
        exact decodeReply_error adapter _ hmalformed
      · rw [malformed_latest] at hmalformed
        exact decodeReply_error adapter _ hmalformed
  · rintro ⟨request, _, _, hdelete, _⟩
    exact hreads request hdelete
  · exact hflat
  · rintro event hmem key value envelope hkey ⟨reply, rfl, hvalue⟩ henvelope
    obtain hreply | ⟨failure, hreply⟩ := hanswers _ hmem
    · obtain rfl : reply = (provider.handle (.getObject key none none) bucket).1 := hreply
      rw [S3Transport.decodeReply_handle] at hvalue
      exact h.own key value envelope hkey hvalue henvelope
    · obtain rfl : reply = .error failure := hreply
      cases hvalue

theorem handle_listed (provider : Provider) (request : S3Call) (bucket : Bucket) :
    Listed ⟨request, (provider.handle request bucket).1⟩ := by
  intro keyPrefix maxKeys startAfter page hevent key hkey
  obtain ⟨rfl, hreply⟩ := Sigma.mk.inj hevent
  obtain rfl := Except.ok.inj (eq_of_heq hreply)
  obtain ⟨-, hselects, -⟩ := (bucket.mem_listed key).mp (List.mem_of_mem_take hkey)
  exact List.isPrefixOf_iff_prefix.mp hselects

end S3ObjectAdapter

theorem Deposit.pointerStored_recorded (deposit : Deposit) (provider : Provider) (bucket : Bucket)
    (hcanonical : ((deposit.published provider bucket).toDict
      deposit.adapter.common).canonical = true) :
    deposit.adapter.layout.Recorded (deposit.pointerStored provider bucket) deposit.resource
      deposit.object deposit.hash (deposit.published provider bucket) :=
  ⟨hcanonical, _, (Store.current_congr (deposit.adapter.written_entries_of_ne _
    deposit.latestPath_ne_referencePath.symm _)).trans (Store.put_current_self _ _ _), rfl⟩

-- What a put leaves in an empty bucket is intact.
theorem Deposit.intact (deposit : Deposit) (provider : Provider) (versioned : Bool)
    (hcatalog : deposit.request.resource.catalog = "object")
    (hcanonical : ((deposit.published provider (Store.empty versioned)).toDict
      deposit.adapter.common).canonical = true)
    (hpointer : deposit.adapter.layout.legible (latestValue deposit.hash.digest))
    (hreference : deposit.adapter.layout.legible
      ((deposit.published provider (Store.empty versioned)).toDict deposit.adapter.common)) :
    deposit.adapter.Intact (deposit.pointerStored provider (Store.empty versioned)) := by
  have hlatest : deposit.adapter.transport.document
      (deposit.pointerStored provider (Store.empty versioned)) deposit.latestPath =
        .ok (latestValue deposit.hash.digest) :=
    S3Transport.document_canonical (Store.put_current_self _ _ _) rfl (latestValue_canonical _)
      rfl hpointer
  have henvelope : deposit.adapter.transport.document
      (deposit.pointerStored provider (Store.empty versioned)) deposit.referencePath =
        .ok ((deposit.published provider (Store.empty versioned)).toDict deposit.adapter.common) := by
    obtain ⟨-, stored, hcurrent, hbody⟩ :=
      deposit.pointerStored_recorded provider (Store.empty versioned) hcanonical
    exact S3Transport.document_canonical hcurrent hbody hcanonical rfl (hbody ▸ hreference)
  have hnone {key : String} (hblob : key ≠ deposit.blobPath)
      (hreference : key ≠ deposit.referencePath) (hlatest : key ≠ deposit.latestPath) :
      deposit.adapter.transport.document
        (deposit.pointerStored provider (Store.empty versioned)) key =
          .error S3Transport.missingDocument := by
    have hempty : (deposit.pointerStored provider (Store.empty versioned)).entries key = [] :=
      deposit.reach_entries provider (Store.empty versioned) .pointer hblob hreference hlatest
    exact S3Transport.document_missing (Store.current_eq_none _ _ hempty)
  have hmissing {β : Type} (decode : Value → Except Failure β) :
      ¬Foreign Failure.foreign ((.error S3Transport.missingDocument : Except Failure Value).bind
        decode) :=
    mt foreign_error.mp (Failure.normalized_domestic _ _ _)
  -- A reference key is neither that of the blob nor that of the pointer.
  have happart {key : String} (hunder : deposit.adapter.ReferenceKey key) :
      key ≠ deposit.blobPath ∧ key ≠ deposit.latestPath := by
    constructor
    · rintro rfl
      obtain ⟨resource, hblob⟩ := hunder
      obtain ⟨object, content, hsame⟩ := (PhysicalKey.referencePrefix_prefix_iff
        deposit.adapter.layout resource (.blob _ _ _)).mp hblob
      cases hsame
    · rintro rfl
      exact S3ObjectAdapter.latestKey_apart deposit.request.resource
        deposit.request.input.objectId hunder
  constructor
  · intro resource objectId
    by_cases hkey : deposit.adapter.layout.latestKey resource objectId = deposit.latestPath
    · rw [hkey, hlatest]
      change ¬Foreign Failure.foreign (S3ObjectAdapter.pointed (latestValue deposit.hash.digest))
      unfold S3ObjectAdapter.pointed
      rw [S3ObjectAdapter.pointerDigest_latestValue]
      change ¬Foreign Failure.foreign (digestHex deposit.hash.digest)
      rw [digestHex_digest]
      exact not_foreign_ok
    · rw [hnone (by simp [S3ObjectAdapter.latestKey_eq, Deposit.blobPath])
        (by simp [S3ObjectAdapter.latestKey_eq, Deposit.referencePath]) hkey]
      exact hmissing _
  · intro key hunder
    by_cases hkey : key = deposit.referencePath
    · rw [hkey, henvelope, foreign_bind]
      rintro (hforeign | ⟨value, hvalue, hforeign⟩)
      · exact not_foreign_ok hforeign
      · obtain rfl := Except.ok.inj hvalue
        rw [StoredEnvelope.fromMapping_toDict] at hforeign
        exact not_foreign_ok hforeign
    · obtain ⟨hblob, hlatest⟩ := happart hunder
      rw [hnone hblob hkey hlatest]
      exact hmissing _
  · intro key value envelope hunder hvalue hread
    obtain ⟨hblob, hapart⟩ := happart hunder
    by_cases hkey : key = deposit.referencePath
    · subst hkey
      rw [henvelope] at hvalue
      obtain rfl := Except.ok.inj hvalue
      rw [StoredEnvelope.fromMapping_toDict] at hread
      obtain rfl := Except.ok.inj hread
      have hresource : deposit.metadata.objectRef.resourceRef = deposit.request.resource := by
        change (⟨"object", deposit.request.resource.namespace, deposit.request.resource.name⟩ :
          ResourceRef) = deposit.request.resource
        rw [← hcatalog]
      change deposit.adapter.layout.referenceKey deposit.metadata.objectRef.resourceRef
        deposit.request.input.objectId deposit.hash.digest = .ok deposit.referencePath
      rw [hresource]
      exact S3Layout.referenceKey_digest deposit.adapter.layout deposit.request.resource
        deposit.request.input.objectId deposit.hash
    · rw [hnone hblob hkey hapart] at hvalue
      cases hvalue

namespace Standard

-- The sample package with a check of the digests that references name.
def formed (reference : ObjectReference) : Bool :=
  reference.digest.all fun digest => (digestHex digest).isOk

def strict : ObjectCommon :=
  { common with
    parseLogicalReference := fun value =>
      if (value.get? "signature").isSome then .ok (.signed value)
      else (required "Object reference is invalid" ((parseReference value).filter formed)).map .plain }

theorem required_domestic {α : Type} (message : String) (found : Option α) :
    ¬Foreign Failure.foreign (required message found) := by
  cases found with
  | some value => exact not_foreign_ok
  | none => exact mt foreign_error.mp (Failure.meridian_domestic _ _)

theorem strict_checked : strict.Checked where
  metadata value := required_domestic _ _
  reference raw := by
    change ¬Foreign Failure.foreign (if _ then _ else _)
    split
    · exact not_foreign_ok
    · exact not_foreign_bind (required_domestic _ _) fun _ _ => not_foreign_ok
  signed _ _ _ _ := mt foreign_error.mp (Failure.meridian_domestic _ _)
  range raw total := by
    dsimp only [strict, common]
    split
    · exact not_foreign_ok
    · exact mt foreign_error.mp (Failure.meridian_domestic _ _)
  plainDigest raw reference h digest hdigest := by
    change (if _ then _ else _) = _ at h
    split at h
    · cases h
    · cases hparsed : (parseReference raw).filter formed with
      | none =>
        rw [hparsed] at h
        cases h
      | some found =>
        rw [hparsed] at h
        obtain rfl := LogicalReference.plain.inj (Except.ok.inj h)
        have hformed := (Option.filter_eq_some_iff.mp hparsed).2
        unfold formed at hformed
        rw [Option.mem_def.mp hdigest] at hformed
        cases hhash : digestHex digest with
        | ok hash => exact ⟨hash, digestHex_eq_ok hhash⟩
        | error failure =>
          rw [Option.all_some, hhash] at hformed
          cases hformed
  signedDigest _ _ _ _ _ h := nomatch h

def checking : S3ObjectAdapter := { adapter with common := strict }

def statStable : Operation := .stat resource (referenceToDict stableReference)

theorem error_of_map {α : Type} {result : Except Failure α} {failure : Failure}
    (h : result.map (fun _ => ()) = .error failure) : result = .error failure := by
  cases result with
  | ok value => cases h
  | error raised => rw [Except.error.inj h]

-- A put of the sample object, with what it leaves in an empty bucket.
def kept : Deposit :=
  { deposit false .null .immutable "version-one" 1 with adapter := checking }

def keeping : Bucket := kept.pointerStored provider (Store.empty false)

theorem kept_canonical : ((kept.published provider (Store.empty false)).toDict
    kept.adapter.common).canonical = true :=
  StoredEnvelope.toDict_canonical _ rfl fun _ h => nomatch h

theorem kept_pointer : checking.layout.legible (latestValue kept.hash.digest) := pointer_legible _

theorem kept_reference : checking.layout.legible
    ((kept.published provider (Store.empty false)).toDict kept.adapter.common) :=
  deposit_legible _ _ _ _ _ (by decide) (by decide)

theorem keeping_intact : checking.Intact keeping :=
  kept.intact provider false rfl kept_canonical kept_pointer kept_reference

theorem keeping_stat :
    ((checking.execute statStable).runFaulty provider.handle [] keeping).1 =
      .ok (.stat kept.metadata) := by
  have hreference : checking.reference resource (referenceToDict stableReference) "stat" false =
      .ok stableReference := by decide
  have hlatest : checking.latestEnvelope keeping resource "channel" =
      .ok (kept.published provider (Store.empty false)) :=
    S3ObjectAdapter.latestEnvelope_recorded kept_pointer kept_reference
      (kept.pointerStored_points provider _)
      (kept.pointerStored_recorded provider _ kept_canonical) rfl rfl
  have hentries : keeping.entries kept.blobPath = (kept.blobStored (Store.empty false)).entries
      kept.blobPath :=
    (kept.adapter.written_entries_of_ne _ kept.latestPath_ne_blobPath.symm _).trans
      (Store.put_entries_of_ne _ kept.referencePath_ne_blobPath.symm _)
  have hblob : provider.fetch keeping kept.blobPath none = some ⟨kept.header, kept.content⟩ :=
    (Store.current_congr hentries).trans (Store.put_current_self _ _ _)
  have hstat : (checking.stat ⟨resource, referenceToDict stableReference, "stat"⟩).run
      provider.handle keeping = (.ok (kept.published provider (Store.empty false)), keeping) :=
    run_stat hreference rfl hlatest rfl rfl rfl hblob rfl rfl
  unfold statStable S3ObjectAdapter.execute
  rw [runFaulty_map, runFaulty_nil, hstat]
  rfl

-- Brackets that nothing closes are no document.
theorem read_brackets (fuel count : Nat) : Text.read fuel (List.replicate count '[') = none := by
  induction fuel using Nat.strong_induction_on generalizing count with
  | _ fuel ih =>
    match fuel, count with
    | 0, _ => rfl
    | _ + 1, 0 => rfl
    | 1, count + 1 => cases count <;> rfl
    | fuel + 2, count + 1 =>
      have hitems : Text.readItems (fuel + 1) (List.replicate count '[') = none := by
        simp only [Text.readItems, ih fuel (by omega) count]
      cases count with
      | zero =>
        change (Text.readItems (fuel + 1) []).map _ = none
        rw [List.replicate_zero] at hitems
        rw [hitems]
        rfl
      | succ count =>
        change (Text.readItems (fuel + 1) ('[' :: List.replicate count '[')).map _ = none
        rw [List.replicate_succ] at hitems
        rw [hitems]
        rfl

theorem encode_brackets (count : Nat) :
    Codec.encodeChars (List.replicate count '[') = List.replicate count 91 := by
  induction count with
  | zero => rfl
  | succ count ih => exact congrArg (List.cons 91) ih

theorem loads_brackets (count : Nat) (h : RECURSION_LIMIT ≤ count) :
    jsonLoads (List.replicate count 91) =
      .error (.recursionError "maximum recursion depth exceeded") := by
  have hread : (Codec.decodeChars (List.replicate count 91)).bind Text.readAll = none := by
    rw [← encode_brackets, Codec.decodeChars_encodeChars, Option.bind_some, Text.readAll,
      read_brackets]
  have hopen : ((List.replicate count (91 : UInt8)).takeWhile
      fun byte => decide (byte = 91)).length = count := by
    simp
  unfold jsonLoads
  rw [hread, hopen]
  exact if_pos h

-- A pointer to a digest that is none.
def pointsNowhere : Bucket :=
  (Store.empty false).put (checking.layout.latestKey resource "channel")
    (checking.transport.jsonObject (latestValue "sha256:none") ⟨none, none, none⟩)

-- One of brackets only.
def pointsInto : Bucket :=
  (Store.empty false).put (checking.layout.latestKey resource "channel")
    ⟨⟨"application/json", [], ⟨none, none, none⟩⟩, List.replicate RECURSION_LIMIT 91⟩

theorem pointsInto_raised :
    ((checking.execute statStable).runFaulty provider.handle [] pointsInto).1 =
      .error ⟨.recursionError "maximum recursion depth exceeded", none⟩ := by
  have hcurrent : pointsInto.current (checking.layout.latestKey resource "channel") =
      some ⟨⟨"application/json", [], ⟨none, none, none⟩⟩, List.replicate RECURSION_LIMIT 91⟩ :=
    Store.put_current_self _ _ _
  have hshort : ¬MAX_INTERNAL_JSON_BYTES < RECURSION_LIMIT := by decide
  have hcommon : checking.transport.common.jsonLoads = jsonLoads := rfl
  have hlatest : checking.latestEnvelope pointsInto resource "channel" =
      .error ⟨.recursionError "maximum recursion depth exceeded", none⟩ := by
    simp only [S3ObjectAdapter.latestEnvelope, S3ObjectAdapter.latestDigest, S3Transport.document,
      hcurrent, S3Transport.decodeJson, List.length_replicate, if_neg hshort, hcommon,
      loads_brackets RECURSION_LIMIT (Nat.le_refl _)]
    rfl
  have hreference : checking.reference resource (referenceToDict stableReference) "stat" false =
      .ok stableReference := by decide
  have hread : (checking.readEnvelope resource stableReference.objectId stableReference.digest).run
      provider.handle pointsInto =
        (.error ⟨.recursionError "maximum recursion depth exceeded", none⟩, pointsInto) := by
    rw [← hlatest]
    exact checking.run_readLatest provider resource "channel" pointsInto
  have hstat : (checking.stat ⟨resource, referenceToDict stableReference, "stat"⟩).run
      provider.handle pointsInto =
        (.error ⟨.recursionError "maximum recursion depth exceeded", none⟩, pointsInto) := by
    unfold S3ObjectAdapter.stat
    rw [hreference, Program.run_bind_ok _ _ _ _ _ stableReference rfl]
    exact Program.run_bind_error _ _ _ _ _ _ hread
  unfold statStable S3ObjectAdapter.execute
  rw [runFaulty_map, runFaulty_nil, hstat]
  rfl

end Standard

end MeridianS3
