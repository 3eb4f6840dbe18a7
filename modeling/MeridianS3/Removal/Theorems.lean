import MeridianS3.Records.Reading
import MeridianS3.Removal

namespace MeridianS3

open Effect ObjectStore Json

namespace Provider

variable (provider : Provider) {first second : Bucket}

theorem handle_delete_same (h : SameObjects first second) (key : String)
    (version : Option String) :
    (provider.handle (.deleteObject key version) second).1 =
      (provider.handle (.deleteObject key version) first).1 ∧
    SameObjects (provider.without first key version) (provider.without second key version) := by
  unfold without
  cases version with
  | none => exact ⟨rfl, h.delete key none⟩
  | some name =>
      simp only [handle, h.versioned]
      split
      · exact ⟨rfl, h⟩
      · rename_i number _
        exact ⟨rfl, h.delete key (some number)⟩

theorem without_rejected {bucket : Bucket} {key : String} {version : Option String}
    {error : Failure} (h : (provider.handle (.deleteObject key version) bucket).1 = .error error) :
    provider.without bucket key version = bucket := by
  unfold without
  rcases provider.handle_delete_cases bucket key version with ⟨id, hd⟩ | ⟨found, hd⟩
  · simp [hd] at h
  · rw [hd]

@[simp] theorem without_versioned (bucket : Bucket) (key : String) (version : Option String) :
    (provider.without bucket key version).versioned = bucket.versioned := by
  unfold without
  rcases provider.handle_delete_cases bucket key version with ⟨id, h⟩ | ⟨error, h⟩ <;> simp [h]

theorem without_entries_of_ne (bucket : Bucket) {key other : String} (h : other ≠ key)
    (version : Option String) :
    (provider.without bucket key version).entries other = bucket.entries other := by
  unfold without
  rcases provider.handle_delete_cases bucket key version with ⟨id, hd⟩ | ⟨error, hd⟩
  · rw [hd, Store.delete_entries_of_ne _ h]
  · rw [hd]

theorem without_reported (bucket : Bucket) (key : String) (id : Nat) :
    provider.without bucket key (provider.reportedVersion bucket id) =
      bucket.delete key (if bucket.versioned then some id else none) := by
  unfold without
  rw [handle_delete_reported]

end Provider

def S3Call.puts (key : String) (call : S3Call) : Prop :=
  ∃ header body length ifNoneMatch checksum,
    call = .putObject key header body length ifNoneMatch checksum

namespace S3ObjectAdapter

variable (adapter : S3ObjectAdapter)

theorem written_same {first second : Bucket} (h : SameObjects first second) (key : String)
    (value : Value) :
    SameObjects (adapter.written first key value) (adapter.written second key value) := h.put _ _

theorem written_entries_of_ne (bucket : Bucket) {key other : String} (h : other ≠ key)
    (value : Value) : (adapter.written bucket key value).entries other = bucket.entries other :=
  Store.put_entries_of_ne _ h _

end S3ObjectAdapter

namespace Removal

variable (removal : Removal) (provider : Provider)

theorem blobGone_entries (bucket : Bucket) {key : String} (h : key ≠ removal.blobPath) :
    (removal.blobGone provider bucket).entries key = bucket.entries key :=
  provider.without_entries_of_ne bucket h _

theorem referenceGone_entries (bucket : Bucket) {key : String} (hblob : key ≠ removal.blobPath)
    (hreference : key ≠ removal.referencePath) :
    (removal.referenceGone provider bucket).entries key = bucket.entries key :=
  (provider.without_entries_of_ne _ hreference _).trans (removal.blobGone_entries provider _ hblob)

theorem movePointer_entries (bucket : Bucket) {key : String} (h : key ≠ removal.latestPath) :
    (removal.movePointer provider bucket).entries key = bucket.entries key := by
  unfold movePointer
  split
  · exact removal.adapter.written_entries_of_ne _ h _
  · split
    · exact provider.without_entries_of_ne _ h _
    · rfl

theorem pointerMoved_entries (bucket : Bucket) {key : String} (hblob : key ≠ removal.blobPath)
    (hreference : key ≠ removal.referencePath) (hlatest : key ≠ removal.latestPath) :
    (removal.pointerMoved provider bucket).entries key = bucket.entries key := by
  unfold pointerMoved
  split
  · exact (removal.movePointer_entries provider _ hlatest).trans
      (removal.referenceGone_entries provider _ hblob hreference)
  · exact removal.referenceGone_entries provider _ hblob hreference

theorem recordEvidence_entries (bucket : Bucket) {key : String} (h : key ≠ removal.evidencePath) :
    (removal.recordEvidence bucket).entries key = bucket.entries key := by
  unfold recordEvidence
  split
  · rfl
  · exact removal.adapter.written_entries_of_ne _ h _

-- A delete touches four keys at most.
theorem reach_entries (bucket : Bucket) (phase : DeletePhase) {key : String}
    (hblob : key ≠ removal.blobPath) (hreference : key ≠ removal.referencePath)
    (hlatest : key ≠ removal.latestPath) (hevidence : key ≠ removal.evidencePath) :
    (removal.reach provider bucket phase).entries key = bucket.entries key := by
  cases phase with
  | start => rfl
  | blob => exact removal.blobGone_entries provider _ hblob
  | reference => exact removal.referenceGone_entries provider _ hblob hreference
  | pointer => exact removal.pointerMoved_entries provider _ hblob hreference hlatest
  | evidence =>
      exact (removal.recordEvidence_entries _ hevidence).trans
        (removal.pointerMoved_entries provider _ hblob hreference hlatest)

@[simp] theorem blobGone_versioned (bucket : Bucket) :
    (removal.blobGone provider bucket).versioned = bucket.versioned :=
  provider.without_versioned ..

@[simp] theorem referenceGone_versioned (bucket : Bucket) :
    (removal.referenceGone provider bucket).versioned = bucket.versioned :=
  (provider.without_versioned ..).trans (removal.blobGone_versioned provider bucket)

@[simp] theorem pointerMoved_versioned (bucket : Bucket) :
    (removal.pointerMoved provider bucket).versioned = bucket.versioned := by
  have hmove (current : Bucket) :
      (removal.movePointer provider current).versioned = current.versioned := by
    unfold movePointer
    split
    · rfl
    · split
      · exact provider.without_versioned ..
      · rfl
  unfold pointerMoved
  split
  · rw [hmove, referenceGone_versioned]
  · exact removal.referenceGone_versioned provider bucket

@[simp] theorem reach_versioned (bucket : Bucket) (phase : DeletePhase) :
    (removal.reach provider bucket phase).versioned = bucket.versioned := by
  cases phase with
  | start => rfl
  | blob => exact removal.blobGone_versioned provider bucket
  | reference => exact removal.referenceGone_versioned provider bucket
  | pointer => exact removal.pointerMoved_versioned provider bucket
  | evidence =>
      simp only [reach, recordEvidence]
      split
      · exact removal.pointerMoved_versioned provider bucket
      · exact removal.pointerMoved_versioned provider bucket

end Removal

namespace S3ObjectAdapter

variable {adapter : S3ObjectAdapter} {provider : Provider} {request : DeleteRequest}
variable {faults : S3Call → Fault Failure → Prop} {owned : Set Nat} {origin state : Bucket}

-- One deletion of a solo run, from the bucket that the run has come to.
theorem delete_solo {bucket : Bucket} {key : String} {version : Option String} {sensitive : Bool}
    (hstate : SameObjects bucket state) {post : Except Failure Unit → Set Nat → Bucket → Prop}
    (hok : (provider.handle (.deleteObject key version) bucket).1 = .ok () →
      ∀ after, SameObjects (provider.without bucket key version) after → post (.ok ()) owned after)
    (hrejected : ∀ error failure after,
      (provider.handle (.deleteObject key version) bucket).1 = .error error →
      SameObjects bucket after → post (.error failure) owned after)
    (hfault : ∀ fault failure after, faults (.deleteObject key version) fault →
      SameObjects (if fault.effect then provider.without bucket key version else bucket) after →
      post (.error failure) owned after) :
    Verified provider.handle (solo faults).protocol
      (S3Transport.delete key (.ofOption version) sensitive) owned state post := by
  apply S3Transport.delete_rule
  · intro failure h
    rw [S3Transport.versionArgument_ofOption] at h
    cases h
  · intro given before hothers _ hversion
    rw [S3Transport.versionArgument_ofOption, Except.ok.injEq] at hversion
    subst hversion
    obtain ⟨hreply, hsame⟩ := provider.handle_delete_same (hstate.trans hothers) key version
    refine ⟨trivial, trivial, ?_, ?_⟩
    · rw [hreply]
      cases hresult : (provider.handle (.deleteObject key version) bucket).1 with
      | ok value => exact hok hresult _ hsame
      | error error =>
          rw [provider.without_rejected hresult] at hsame
          exact hrejected error _ _ hresult hsame
    · intro fault hf
      apply hfault fault _ _ hf
      split
      · exact hsame
      · exact hstate.trans hothers

theorem writeArguments_none (transport : S3Transport) :
    transport.writeArguments none =
      .ok ⟨transport.config.serverSideEncryption, transport.config.kmsKeyId, none⟩ := rfl

-- One unconditional or conditional document write of a solo run.
theorem putJson_solo {bucket : Bucket} {key : String} {value : Value} {createOnly : Bool}
    (hstate : SameObjects bucket state)
    {post : Except Failure StoredObject → Set Nat → Bucket → Prop}
    (hblocked : createOnly = true ∧ (bucket.current key).isSome = true → ∀ after,
      SameObjects bucket after → post (.error S3Transport.refusedWrite) owned after)
    (hok : ¬(createOnly = true ∧ (bucket.current key).isSome = true) → ∀ stored after,
      SameObjects (adapter.written bucket key value) after → post (.ok stored) owned after)
    (hfault : ∀ call fault failure after, call.puts key → faults call fault →
      SameObjects (if fault.effect ∧ ¬(createOnly = true ∧ (bucket.current key).isSome = true)
        then adapter.written bucket key value else bucket) after →
      post (.error failure) owned after) :
    Verified provider.handle (solo faults).protocol
      (adapter.transport.putJson key value createOnly none) owned state post := by
  apply S3Transport.putJson_rule
  · intro failure h
    rw [writeArguments_none] at h
    cases h
  · intro arguments before hothers _ _ hb
    have hbefore := hstate.trans hothers
    rw [hbefore.current] at hb
    refine ⟨hblocked hb before hbefore, fun fault hf => ?_⟩
    apply hfault _ fault _ _ ⟨_, _, _, _, _, rfl⟩ hf
    rwa [if_neg fun h => h.2 hb]
  · intro arguments before after hothers _ harguments hfree he
    have hbefore := hstate.trans hothers
    rw [hbefore.current] at hfree
    rw [writeArguments_none, Except.ok.injEq] at harguments
    have hafter : SameObjects (adapter.written bucket key value) after := by
      rw [he, ← harguments]
      exact adapter.written_same hbefore key value
    refine ⟨trivial, trivial, fun stored => hok hfree stored after hafter, fun fault hf => ?_⟩
    apply hfault _ fault _ _ ⟨_, _, _, _, _, rfl⟩ hf
    by_cases heffect : fault.effect = true
    · rw [if_pos heffect, if_pos ⟨heffect, hfree⟩]
      exact hafter
    · rw [if_neg heffect, if_neg fun h => heffect h.1]
      exact hbefore

theorem head_solo {bucket : Bucket} {key : String} {id : Nat} {object : StoredBody}
    (hstate : SameObjects bucket state) (hhead : bucket.head key = some ⟨id, some object⟩)
    {post : Except Failure HeadObject → Set Nat → Bucket → Prop}
    (hok : ∀ head after, head.versionId = provider.reportedVersion bucket id →
      SameObjects bucket after → post (.ok head) owned after)
    (hfault : ∀ fault failure after, faults (.headObject key none) fault →
      SameObjects bucket after → post (.error failure) owned after) :
    Verified provider.handle (solo faults).protocol (S3Transport.head key .null) owned state
      post := by
  rw [S3Transport.head_null]
  apply S3Transport.head_rule
  intro before hothers _
  have hbefore := hstate.trans hothers
  rw [S3Transport.headReply_current ((hbefore.head key).trans hhead)]
  refine ⟨hok _ before ?_ hbefore, fun fault hf => hfault fault _ before hf hbefore⟩
  simp only [Provider.reportedVersion, hbefore.versioned]

end S3ObjectAdapter

namespace Removal

variable {removal : Removal} {provider : Provider} {faults : S3Call → Fault Failure → Prop}
variable {owned : Set Nat} {bucket state : Bucket}

theorem latestPath_ne_blobPath (removal : Removal) : removal.latestPath ≠ removal.blobPath := by
  simp [latestPath, blobPath]

theorem latestPath_ne_referencePath (removal : Removal) :
    removal.latestPath ≠ removal.referencePath := by
  simp [latestPath, referencePath]

theorem referencePath_ne_blobPath (removal : Removal) :
    removal.referencePath ≠ removal.blobPath := by
  simp [referencePath, blobPath]

theorem evidencePath_ne_latestPath (removal : Removal) :
    removal.evidencePath ≠ removal.latestPath := by
  simp [evidencePath, latestPath]

-- A pointer that was seen is there.
theorem Finds.pointer (h : removal.Finds faults bucket) (hmoves : removal.moves = true) :
    ∃ id object, bucket.head removal.latestPath = some ⟨id, some object⟩ := by
  obtain ⟨latest, hlatest⟩ : ∃ latest, removal.latest = some latest := by
    cases hlatest : removal.latest with
    | none => simp [moves, hlatest] at hmoves
    | some latest => exact ⟨latest, rfl⟩
  have henvelope := h.latest.1 latest hlatest
  unfold S3ObjectAdapter.latestEnvelope at henvelope
  cases hdigest : removal.adapter.latestDigest bucket removal.request.resource
      removal.reference.objectId with
  | error failure => simp [hdigest, Except.bind] at henvelope
  | ok digest =>
      unfold S3ObjectAdapter.latestDigest at hdigest
      cases hdocument : removal.adapter.transport.document bucket (removal.adapter.layout.latestKey
          removal.request.resource removal.reference.objectId) with
      | error failure => simp [hdocument, Except.bind] at hdigest
      | ok value =>
          obtain ⟨stored, hcurrent⟩ := S3Transport.document_ok_current hdocument
          obtain ⟨⟨id, held⟩, hhead, rfl⟩ := Option.bind_eq_some_iff.mp hcurrent
          exact ⟨id, stored, hhead⟩

theorem restoreLatest_solo (hfinds : removal.Finds faults bucket) (hmoves : removal.moves = true)
    (hstate : SameObjects (removal.referenceGone provider bucket) state)
    {post : Except Failure Unit → Set Nat → Bucket → Prop}
    (hok : ∀ after, SameObjects (removal.pointerMoved provider bucket) after →
      post (.ok ()) owned after)
    (hcut : ∀ call fault failure after, faults call fault →
      SameObjects (removal.reach provider bucket (removal.phaseAt fault.effect call)) after →
      post (.error failure) owned after) :
    Verified provider.handle (solo faults).protocol
      (removal.adapter.restoreLatest removal.request.resource removal.reference.objectId
        removal.previous) owned state post := by
  have hkey : removal.adapter.layout.latestKey removal.request.resource
      removal.reference.objectId = removal.latestPath := rfl
  unfold S3ObjectAdapter.restoreLatest
  simp only [hkey]
  cases hprevious : removal.previous with
  | some previous =>
      have hmoved : removal.pointerMoved provider bucket = removal.adapter.written
          (removal.referenceGone provider bucket) removal.latestPath
          (latestValue previous.metadata.digest) := by
        simp [pointerMoved, hmoves, movePointer, hprevious]
      apply Verified.seq
      apply S3ObjectAdapter.putJson_solo hstate
      · exact fun h => absurd h.1 (by simp)
      · intro _ stored after hafter
        rw [← hmoved] at hafter
        exact Verified.done (hok after hafter)
      · rintro call fault failure after ⟨header, body, length, ifNoneMatch, checksum, rfl⟩ hf hafter
        apply Verified.done
        apply hcut _ fault failure after hf
        rw [← hmoved] at hafter
        cases heffect : fault.effect <;> simpa [phaseAt, reach, heffect] using hafter
  | none =>
      obtain ⟨id, object, hhead⟩ := hfinds.pointer hmoves
      have hgone : (removal.referenceGone provider bucket).head removal.latestPath =
          some ⟨id, some object⟩ := by
        rw [← hhead, Store.head, Store.head, removal.referenceGone_entries provider bucket
          removal.latestPath_ne_blobPath removal.latestPath_ne_referencePath]
      have hmoved : removal.pointerMoved provider bucket =
          provider.without (removal.referenceGone provider bucket) removal.latestPath
            (provider.reportedVersion (removal.referenceGone provider bucket) id) := by
        simp [pointerMoved, hmoves, movePointer, hprevious, hgone]
      apply Verified.seq
      apply S3ObjectAdapter.head_solo hstate hgone
      · intro head middle hversion hmiddle
        simp only [Program.onOk, hversion]
        apply S3ObjectAdapter.delete_solo hmiddle
        · intro _ after hafter
          rw [← hmoved] at hafter
          exact hok after hafter
        · intro error failure after hrejected
          rw [Provider.handle_delete_reported] at hrejected
          cases hrejected
        · intro fault failure after hf hafter
          apply hcut _ fault failure after hf
          rw [← hmoved] at hafter
          cases heffect : fault.effect <;>
            simpa [phaseAt, reach, heffect, latestPath_ne_blobPath,
              latestPath_ne_referencePath] using hafter
      · intro fault failure after hf hafter
        apply Verified.done
        apply hcut _ fault failure after hf
        simpa [phaseAt, reach] using hafter

-- The removals, from the bucket in which everything was found.
theorem removeVersion_solo (hfinds : removal.Finds faults bucket)
    (hstate : SameObjects bucket state) {post : Except Failure Unit → Set Nat → Bucket → Prop}
    (hok : ∀ after, SameObjects (removal.pointerMoved provider bucket) after →
      post (.ok ()) owned after)
    (hrejected : ∀ error failure after,
      (provider.handle (.deleteObject removal.blobPath removal.version) bucket).1 = .error error →
      SameObjects bucket after → post (.error failure) owned after)
    (hcut : ∀ call fault failure after, faults call fault →
      SameObjects (removal.reach provider bucket (removal.phaseAt fault.effect call)) after →
      post (.error failure) owned after) :
    Verified provider.handle (solo faults).protocol
      (removal.adapter.removeVersion removal.request.resource removal.reference.objectId
        removal.content.digest removal.envelope removal.latest removal.previous) owned state
      post := by
  have hblob : removal.adapter.layout.blobKey removal.request.resource removal.reference.objectId
      removal.content.digest = .ok removal.blobPath := S3Layout.blobKey_digest ..
  have hexact : removal.adapter.layout.referenceKey removal.request.resource
      removal.reference.objectId removal.content.digest = .ok removal.referencePath :=
    S3Layout.referenceKey_digest ..
  obtain ⟨stored, hentries⟩ := hfinds.entry
  have hhead : bucket.head removal.referencePath = some ⟨removal.entry, some stored⟩ := by
    rw [Store.head, hentries, List.head?_cons]
  unfold S3ObjectAdapter.removeVersion
  rw [hblob, hexact, hfinds.version]
  apply Verified.seq
  apply Verified.lift
  apply Verified.seq
  apply Verified.lift
  apply Verified.seq
  apply S3ObjectAdapter.head_solo hstate hhead
  case hfault =>
    intro fault failure after hf hafter
    apply Verified.done
    apply hcut _ fault failure after hf
    simpa [phaseAt, reach, Ne.symm removal.latestPath_ne_referencePath] using hafter
  intro head first hversion hfirst
  apply Verified.seq
  apply S3ObjectAdapter.delete_solo hfirst
  case hrejected =>
    intro error failure after hreply hafter
    exact Verified.done (hrejected error failure after hreply hafter)
  case hfault =>
    intro fault failure after hf hafter
    apply Verified.done
    apply hcut _ fault failure after hf
    cases heffect : fault.effect <;> simpa [phaseAt, reach, heffect, blobGone] using hafter
  intro _ second hsecond
  have hblobGone : SameObjects (removal.blobGone provider bucket) second := hsecond
  apply Verified.seq
  rw [hversion]
  apply S3ObjectAdapter.delete_solo hblobGone
  case hrejected =>
    intro error failure after hreply hafter
    have hreported : provider.reportedVersion bucket removal.entry =
        provider.reportedVersion (removal.blobGone provider bucket) removal.entry := by
      simp [Provider.reportedVersion]
    rw [hreported, Provider.handle_delete_reported] at hreply
    cases hreply
  case hfault =>
    intro fault failure after hf hafter
    apply Verified.done
    apply hcut _ fault failure after hf
    cases heffect : fault.effect <;>
      simpa [phaseAt, reach, heffect, referencePath_ne_blobPath, referenceGone] using hafter
  intro _ third hthird
  have hgone : SameObjects (removal.referenceGone provider bucket) third := hthird
  change Verified provider.handle (solo faults).protocol (if removal.moves = true then
    removal.adapter.restoreLatest removal.request.resource removal.reference.objectId
      removal.previous else pure ()) owned third post
  by_cases hmoves : removal.moves = true
  · rw [if_pos hmoves]
    exact restoreLatest_solo hfinds hmoves hgone hok hcut
  · rw [if_neg hmoves]
    apply Verified.done
    apply hok
    simpa [pointerMoved, hmoves] using hgone

theorem recordDeletion_solo (hstate : SameObjects (removal.pointerMoved provider bucket) state)
    {post : Except Failure Unit → Set Nat → Bucket → Prop}
    (hok : bucket.current removal.evidencePath = none → ∀ after,
      SameObjects (removal.reach provider bucket .evidence) after → post (.ok ()) owned after)
    (hrecorded : (bucket.current removal.evidencePath).isSome = true → ∀ after,
      SameObjects (removal.reach provider bucket .evidence) after →
      post (.error S3Transport.refusedWrite) owned after)
    (hcut : ∀ call fault failure after, faults call fault →
      SameObjects (removal.reach provider bucket (removal.phaseAt fault.effect call)) after →
      post (.error failure) owned after) :
    Verified provider.handle (solo faults).protocol
      (removal.adapter.recordDeletion removal.request removal.reference removal.content.digest)
      owned state post := by
  have hkey : removal.adapter.layout.deletionEvidenceKey removal.request.resource
      removal.reference.objectId removal.content.digest = .ok removal.evidencePath :=
    S3Layout.deletionEvidenceKey_digest ..
  have hcurrent : (removal.pointerMoved provider bucket).current removal.evidencePath =
      bucket.current removal.evidencePath := by
    apply Store.current_congr
    apply pointerMoved_entries
    · simp [evidencePath, blobPath]
    · simp [evidencePath, referencePath]
    · exact removal.evidencePath_ne_latestPath
  unfold S3ObjectAdapter.recordDeletion
  rw [hkey]
  apply Verified.seq
  apply Verified.lift
  apply Verified.seq
  apply S3ObjectAdapter.putJson_solo hstate
  · rintro ⟨-, hb⟩ after hafter
    have hreach : removal.reach provider bucket .evidence =
        removal.pointerMoved provider bucket := by
      simp only [reach, recordEvidence, if_pos hb]
    apply Verified.done
    apply hrecorded (hcurrent ▸ hb) after
    rwa [hreach]
  · intro hfree stored after hafter
    have hnone : ¬((removal.pointerMoved provider bucket).current removal.evidencePath).isSome =
        true := by
      simpa using hfree
    have hreach : removal.reach provider bucket .evidence = removal.adapter.written
        (removal.pointerMoved provider bucket) removal.evidencePath
        (removal.adapter.deletionValue removal.request removal.reference) := by
      simp only [reach, recordEvidence, if_neg hnone]
    apply Verified.done
    apply hok
    · rw [hcurrent] at hnone
      simpa using hnone
    · rwa [hreach]
  · rintro call fault failure after ⟨header, body, length, ifNoneMatch, checksum, rfl⟩ hf hafter
    apply Verified.done
    apply hcut _ fault failure after hf
    cases heffect : fault.effect with
    | false => simpa [phaseAt, reach, heffect, evidencePath_ne_latestPath] using hafter
    | true =>
        by_cases hb : ((removal.pointerMoved provider bucket).current
            removal.evidencePath).isSome = true
        · simpa [phaseAt, reach, recordEvidence, heffect, hb, evidencePath_ne_latestPath]
            using hafter
        · simpa [phaseAt, reach, recordEvidence, heffect, hb, evidencePath_ne_latestPath]
            using hafter

end Removal

-- In a sound bucket the envelope that was found has a reference entry and a version id.
theorem Removal.ofEnvelope {adapter : S3ObjectAdapter} {request : DeleteRequest}
    {hashed : Set Bytes} {bucket : Bucket} {reference : ObjectReference} {digest : String}
    {envelope : StoredEnvelope} (hsound : adapter.layout.Sound hashed bucket)
    (henvelope : adapter.envelopeAt bucket request.resource reference.objectId digest =
      .ok envelope) (latest previous : Option StoredEnvelope) :
    ∃ removal : Removal, removal.adapter = adapter ∧ removal.request = request ∧
      removal.reference = reference ∧ removal.content.digest = digest ∧
      removal.envelope = envelope ∧ removal.latest = latest ∧ removal.previous = previous ∧
      removal.envelope.blobVersionId = .ofOption removal.version ∧
      ∃ stored, bucket.entries removal.referencePath = [⟨removal.entry, some stored⟩] := by
  obtain ⟨content, rfl, hrecorded, -, -⟩ := S3ObjectAdapter.envelopeAt_ok hsound henvelope
  obtain ⟨version, hversion, -⟩ := (hsound.envelopeOf hrecorded).version
  obtain ⟨-, stored, hcurrent, -⟩ := hrecorded
  have honce : S3Layout.writtenOnce (.reference (adapter.layout.resourceToken request.resource)
      (adapter.layout.objectToken reference.objectId) content) := trivial
  obtain ⟨entry, hentries⟩ := hsound.head_of_current honce hcurrent
  exact ⟨⟨adapter, request, reference, content, envelope, version, entry, latest, previous⟩,
    rfl, rfl, rfl, rfl, rfl, rfl, rfl, hversion, stored, hentries⟩

section Ends

variable {adapter : S3ObjectAdapter} {provider : Provider} {request : DeleteRequest}
variable {faults : S3Call → Fault Failure → Prop} {hashed : Set Bytes} {owned : Set Nat}
variable {bucket state after : Bucket} {reference : ObjectReference} {digest : String}

-- A failure before the removals: either a read has failed or there is nothing to find.
theorem DeleteEnds.unfound
    (hreference : adapter.reference request.resource request.reference "delete" true =
      .ok reference) (hdigest : reference.digest = some digest) (failure : Failure)
    (hafter : SameObjects bucket after)
    (hcause : S3ObjectAdapter.Outages faults → S3ObjectAdapter.ReadFault faults ∨
      ∀ removal : Removal, removal.adapter = adapter → removal.request = request →
        removal.reference = reference → removal.content.digest = digest →
        ¬removal.Finds faults bucket) :
    DeleteEnds provider adapter request faults bucket (.error failure) after := by
  refine .refused failure after hafter fun houtage => (hcause houtage).imp id ?_
  rintro hnone removal rfl rfl hfinds
  have hsame := hfinds.reference
  rw [hreference, Except.ok.injEq] at hsame
  refine hnone removal rfl rfl hsame.symm ?_ hfinds
  have hfound := hfinds.digest
  rw [← hsame, hdigest, Option.some.injEq] at hfound
  exact hfound.symm

-- The removals, and the evidence of them.
theorem Removal.removes_ends {removal : Removal} (hfinds : removal.Finds faults bucket)
    (hstate : SameObjects bucket state) {post : Except Failure Unit → Set Nat → Bucket → Prop}
    (hends : ∀ result after, DeleteEnds provider removal.adapter removal.request faults bucket
      (result.map fun _ => true) after → post result owned after) :
    Verified provider.handle (solo faults).protocol
      (do
        removal.adapter.removeVersion removal.request.resource removal.reference.objectId
          removal.content.digest removal.envelope removal.latest removal.previous
        removal.adapter.recordDeletion removal.request removal.reference removal.content.digest)
      owned state post := by
  have hcut (call : S3Call) (fault : Fault Failure) (failure : Failure) (after : Bucket)
      (hf : faults call fault) (hafter : SameObjects
        (removal.reach provider bucket (removal.phaseAt fault.effect call)) after) :
      post (.error failure) owned after :=
    hends _ after (.cut removal call fault failure after rfl rfl hfinds hf hafter)
  apply Verified.seq
  apply Removal.removeVersion_solo hfinds hstate
  case hrejected =>
    intro error failure after hreply hafter
    exact Verified.done (hends _ after
      (.rejected removal failure error after rfl rfl hfinds hreply hafter))
  case hcut =>
    intro call fault failure after hf hafter
    exact Verified.done (hcut call fault failure after hf hafter)
  intro removed hremoved
  apply Removal.recordDeletion_solo hremoved
  · intro hnone after hafter
    exact hends _ after (.completed removal after rfl rfl hfinds hnone hafter)
  · intro hsome after hafter
    exact hends _ after (.recorded removal after rfl rfl hfinds hsome hafter)
  · exact hcut

-- Everything that the delete reads comes before them.
theorem deleteVersion_ends (hsound : adapter.layout.Sound hashed bucket)
    (hreference : adapter.reference request.resource request.reference "delete" true =
      .ok reference) (hdigest : reference.digest = some digest)
    {post : Except Failure Unit → Set Nat → Bucket → Prop}
    (hends : ∀ result after, DeleteEnds provider adapter request faults bucket
      (result.map fun _ => true) after → post result owned after) :
    Verified provider.handle (solo faults).protocol
      (adapter.deleteVersion request reference digest) owned bucket post := by
  unfold S3ObjectAdapter.deleteVersion
  apply Verified.seq
  apply S3ObjectAdapter.readEnvelope_solo (SameObjects.refl bucket)
  case herror =>
    intro failure after hafter hcause
    apply Verified.done
    apply hends
    refine .unfound hreference hdigest failure hafter fun _ => hcause.imp id ?_
    rintro herror removal rfl rfl rfl rfl hfinds
    rw [hfinds.envelope] at herror
    cases herror
  intro envelope first hfirst henvelope
  apply Verified.seq
  apply Verified.lift
  cases hallowed : adapter.requireDeleteAllowed envelope request.checkedAt with
  | error failure =>
      apply Verified.done
      apply hends
      refine .unfound hreference hdigest failure hfirst fun _ => Or.inr ?_
      rintro removal rfl rfl rfl rfl hfinds
      have hsame := hfinds.envelope
      rw [henvelope, Except.ok.injEq] at hsame
      rw [hsame, hfinds.allowed] at hallowed
      cases hallowed
  | ok allowed =>
  apply Verified.seq
  apply S3ObjectAdapter.tryLatest_solo hfirst
  case herror =>
    intro failure after hafter hcause
    apply Verified.done
    apply hends
    refine .unfound hreference hdigest failure hafter fun houtage => (hcause houtage).imp id ?_
    rintro herror removal rfl rfl rfl rfl hfinds
    rw [hfinds.latest.2 houtage] at herror
    cases herror
  intro latest second hsecond hlatest
  apply Verified.seq
  apply S3ObjectAdapter.newestVersion_solo hsecond
  case herror =>
    intro failure after hafter hcause
    apply Verified.done
    apply hends
    refine .unfound hreference hdigest failure hafter fun _ => hcause.imp id ?_
    rintro herror removal rfl rfl rfl rfl hfinds
    rw [hfinds.previous] at herror
    cases herror
  intro previous third hthird hprevious
  obtain ⟨removal, hadapter, hrequest, hsame, hcontent, hheld, hlast, hother, hversion, hentry⟩ :=
    Removal.ofEnvelope hsound henvelope latest previous
  subst hadapter hrequest hsame hcontent hheld hlast hother
  exact Removal.removes_ends ⟨hreference, hdigest, henvelope, hallowed, hversion, hentry, hlatest,
    hprevious⟩ hthird hends

-- Every way in which a delete that runs alone can end.
theorem delete_ends (hsound : adapter.layout.Sound hashed bucket) :
    Verified provider.handle (solo faults).protocol (adapter.delete request) owned bucket
      fun result _ after => DeleteEnds provider adapter request faults bucket result after := by
  have hrefl := SameObjects.refl bucket
  unfold S3ObjectAdapter.delete
  apply Verified.seq
  apply Verified.lift
  cases hreference : adapter.reference request.resource request.reference "delete" true with
  | error failure =>
      apply Verified.done
      refine .refused failure bucket hrefl fun _ => Or.inr ?_
      rintro removal rfl rfl hfinds
      rw [hfinds.reference] at hreference
      cases hreference
  | ok reference =>
  cases hdigest : reference.digest with
  | none =>
      simp only [Program.onOk, hdigest]
      apply Verified.done
      refine .refused _ bucket hrefl fun _ => Or.inr ?_
      rintro removal rfl rfl hfinds
      rw [hfinds.reference, Except.ok.injEq] at hreference
      rw [← hreference, hfinds.digest] at hdigest
      cases hdigest
  | some digest =>
  simp only [Program.onOk, hdigest]
  apply Verified.seq
  apply deleteVersion_ends hsound hreference hdigest
  intro result after hends
  cases result <;> exact Verified.done hends

end Ends

end MeridianS3
