import MeridianS3.Pointers
import MeridianS3.Deposit.First

namespace MeridianS3

open Effect ObjectStore Json

-- The same delete at other readings of the clock.
def DeleteRequest.retimed (request : DeleteRequest) (checkedAt deletedAt : Timestamp) :
    DeleteRequest :=
  { request with checkedAt := checkedAt, deletedAt := deletedAt }

namespace Removal

variable (removal : Removal) (provider : Provider)

def retimed (checkedAt deletedAt : Timestamp) : Removal :=
  { removal with request := removal.request.retimed checkedAt deletedAt }

-- The objects that a delete leaves when nothing fails, timestamps aside.
structure Restored (bucket final : Bucket) : Prop where
  same : ∃ deletedAt, ∀ key, final.current key = ((removal.adapter.delete
    (removal.request.retimed removal.request.checkedAt deletedAt)).run
      provider.handle bucket).2.current key
  blob : final.current removal.blobPath = none
  reference : final.current removal.referencePath = none
  pointer : removal.moves = true → match removal.previous with
    | some previous => ∃ stored, final.current removal.latestPath = some stored ∧
        stored.body =
          removal.adapter.common.canonicalJsonBytes (latestValue previous.metadata.digest)
    | none => final.current removal.latestPath = none
  evidence : (final.current removal.evidencePath).isSome = true

-- A delete that has come so far can be finished by repeating it: its reference is still
-- there, or nothing but the deletion of the reference was left to do.
def Resumable (bucket : Bucket) : DeletePhase → Prop
  | .start | .blob | .evidence => True
  | .reference => removal.moves = false ∧ (bucket.current removal.evidencePath).isSome = true
  | .pointer => (bucket.current removal.evidencePath).isSome = true

end Removal

variable {provider : Provider} {adapter : S3ObjectAdapter} {layout : S3Layout} {hashed : Set Bytes}
variable {bucket after : Bucket} {removal : Removal}

namespace Removal

variable {faults : S3Call → Fault Failure → Prop}

theorem blobPath_not_version (removal : Removal) :
    ¬(removal.adapter.layout.versionPrefix removal.request.resource
      removal.reference.objectId).toList <+: removal.blobPath.toList := by
  intro h
  have hversion := (PhysicalKey.versionPrefix_prefix_iff removal.adapter.layout
    removal.request.resource removal.reference.objectId
    (.blob removal.resource removal.object removal.content)).mp h
  obtain ⟨content, hkey⟩ := hversion
  cases hkey

-- A bucket that agrees but for the blob is one in which the delete finds the same.
theorem Finds.again (h : removal.Finds unfailing bucket) (hkeys : after.keys = bucket.keys)
    (hentries : ∀ key, key ≠ removal.blobPath → after.entries key = bucket.entries key)
    {checkedAt : Timestamp} (deletedAt : Timestamp)
    (hallowed : removal.adapter.requireDeleteAllowed removal.envelope checkedAt = .ok ()) :
    (removal.retimed checkedAt deletedAt).Finds unfailing after := by
  have hcurrent (physical : PhysicalKey)
      (hne : physical ≠ .blob removal.resource removal.object removal.content) :
      after.current (removal.adapter.layout.path physical) =
        bucket.current (removal.adapter.layout.path physical) :=
    Store.current_congr (hentries _ (by simpa [blobPath] using hne))
  have hversions (digest : String) :
      removal.adapter.envelopeAt after removal.request.resource removal.reference.objectId digest =
        removal.adapter.envelopeAt bucket removal.request.resource removal.reference.objectId
          digest :=
    S3ObjectAdapter.envelopeAt_congr (fun content => hcurrent _ (by simp)) digest
  have hpointer : removal.adapter.latestEnvelope after removal.request.resource
      removal.reference.objectId = removal.adapter.latestEnvelope bucket removal.request.resource
        removal.reference.objectId :=
    S3ObjectAdapter.latestEnvelope_congr (hcurrent (.latest removal.resource removal.object) (by simp))
      fun content => hcurrent _ (by simp)
  have hnewest : removal.adapter.newestIn after removal.request.resource
      removal.reference.objectId (some removal.content.digest) =
      removal.adapter.newestIn bucket removal.request.resource removal.reference.objectId
        (some removal.content.digest) := by
    apply S3ObjectAdapter.newestIn_congr hkeys
    intro key hlisted
    apply Store.current_congr
    apply hentries
    rintro rfl
    exact removal.blobPath_not_version hlisted
  obtain ⟨stored, hentry⟩ := h.entry
  exact {
    reference := h.reference
    digest := h.digest
    envelope := (hversions _).trans h.envelope
    allowed := hallowed
    version := h.version
    entry := ⟨stored, (hentries _ removal.referencePath_ne_blobPath).trans hentry⟩
    latest := ⟨fun envelope henvelope => hpointer.trans (h.latest.1 envelope henvelope),
      fun houtages => (congrArg missingAsNone hpointer).trans (h.latest.2 houtages)⟩
    previous := hnewest.trans h.previous }

-- What is left to do depends on the bucket that the blob has gone from.
theorem reach_evidence_same {first second : Bucket} (hversioned : second.versioned = first.versioned)
    (h : SameObjects (removal.blobGone provider first) (removal.blobGone provider second)) :
    SameObjects (removal.reach provider first .evidence)
      (removal.reach provider second .evidence) := by
  have hreported (id : Nat) : provider.reportedVersion second id =
      provider.reportedVersion first id := by
    simp only [Provider.reportedVersion, hversioned]
  have hgone : SameObjects (removal.referenceGone provider first)
      (removal.referenceGone provider second) := by
    unfold referenceGone
    rw [hreported]
    exact (provider.handle_delete_same h _ _).2
  have hmoved : SameObjects (removal.pointerMoved provider first)
      (removal.pointerMoved provider second) := by
    unfold pointerMoved
    split
    · unfold movePointer
      split
      · exact removal.adapter.written_same hgone _ _
      · rw [hgone.head]
        split
        · rename_i entry _
          have hentry : provider.reportedVersion (removal.referenceGone provider second) entry.id =
              provider.reportedVersion (removal.referenceGone provider first) entry.id := by
            simp only [Provider.reportedVersion, hgone.versioned]
          rw [hentry]
          exact (provider.handle_delete_same hgone _ _).2
        · exact hgone
    · exact hgone
  simp only [reach, recordEvidence, hmoved.current]
  split
  · exact hmoved
  · exact removal.adapter.written_same hmoved _ _

theorem blobGone_eq_delete (hnone : removal.version = none) (current : Bucket) :
    removal.blobGone provider current = current.delete removal.blobPath none := by
  rw [blobGone, hnone]
  rfl

-- A blob that has gone is deleted again without a trace.
theorem blobGone_again (hversioned : bucket.versioned = false) (hnone : removal.version = none) :
    SameObjects (removal.blobGone provider bucket)
      (removal.blobGone provider (removal.blobGone provider bucket)) := by
  rw [blobGone_eq_delete hnone, blobGone_eq_delete hnone]
  exact SameObjects.delete_again hversioned _

theorem Finds.restored (hsound : removal.adapter.layout.Sound hashed bucket)
    (hversioned : bucket.versioned = false) (h : removal.Finds unfailing bucket)
    (checkedAt deletedAt : Timestamp) {final : Bucket}
    (hfinal : SameObjects ((removal.retimed checkedAt deletedAt).reach provider bucket .evidence)
      final) : removal.Restored provider bucket final := by
  have hentries (key : String) (hkey : key ≠ removal.evidencePath) :
      final.entries key = (removal.pointerMoved provider bucket).entries key := by
    rw [hfinal.entries]
    exact (removal.retimed checkedAt deletedAt).recordEvidence_entries _ hkey
  have hgone : final.current removal.referencePath = none := by
    have hmoved : (removal.reach provider bucket .pointer).entries removal.referencePath = [] :=
      removal.reference_gone h ⟨by simp, by simp⟩
    apply Store.current_eq_none
    rw [hentries _ (by simp [referencePath, evidencePath])]
    exact hmoved
  have hblob : final.current removal.blobPath = none := by
    apply Store.current_eq_none
    rw [hentries _ (by simp [blobPath, evidencePath])]
    exact removal.pointerMoved_blob hversioned (h.unversioned_none hsound hversioned)
  have hevidence : (final.current removal.evidencePath).isSome = true := by
    rw [hfinal.current]
    exact (removal.retimed checkedAt deletedAt).recordEvidence_current _
  refine ⟨⟨deletedAt, fun key => ?_⟩, hblob, hgone, fun hmoves => ?_, hevidence⟩
  · have hsame : (removal.retimed removal.request.checkedAt deletedAt).Finds unfailing bucket :=
      h.again rfl (fun _ _ => rfl) deletedAt h.allowed
    have hrun : SameObjects
        ((removal.retimed removal.request.checkedAt deletedAt).reach provider bucket .evidence)
        ((removal.adapter.delete (removal.request.retimed removal.request.checkedAt
          deletedAt)).run provider.handle bucket).2 :=
      Finds.carried_out (hsound : (removal.retimed removal.request.checkedAt
        deletedAt).adapter.layout.Sound hashed bucket) hsame (hsame.accepted hsound hversioned)
    rw [hfinal.current, hrun.current]
    rfl
  · have hpointer : final.current removal.latestPath =
        (removal.pointerMoved provider bucket).current removal.latestPath :=
      Store.current_congr (hentries _ removal.evidencePath_ne_latestPath.symm)
    rw [hpointer, pointerMoved, if_pos hmoves]
    exact removal.movePointer_latest _ (by simpa using hversioned)

-- A delete whose reference is still there is repeated as if it had not been tried.
theorem Finds.repeated (hsound : removal.adapter.layout.Sound hashed bucket)
    (hversioned : bucket.versioned = false) (h : removal.Finds unfailing bucket)
    {phase : DeletePhase} (hphase : phase = .start ∨ phase = .blob)
    (hafter : SameObjects (removal.reach provider bucket phase) after) {checkedAt : Timestamp}
    (deletedAt : Timestamp)
    (hallowed : removal.adapter.requireDeleteAllowed removal.envelope checkedAt = .ok ()) :
    SameObjects ((removal.retimed checkedAt deletedAt).reach provider bucket .evidence)
      ((removal.adapter.delete (removal.request.retimed checkedAt deletedAt)).run
        provider.handle after).2 := by
  have hnone := h.unversioned_none hsound hversioned
  have hkeys : after.keys = bucket.keys := by
    rw [hafter.keys]
    rcases hphase with rfl | rfl
    · rfl
    · rw [reach, blobGone_eq_delete hnone]
      simp [Store.delete, hversioned, Store.discard]
  have hentries (key : String) (hkey : key ≠ removal.blobPath) :
      after.entries key = bucket.entries key := by
    rw [hafter.entries]
    rcases hphase with rfl | rfl
    · rfl
    · exact removal.blobGone_entries provider bucket hkey
  have hstill : after.versioned = false := by
    rw [hafter.versioned, removal.reach_versioned, hversioned]
  have hafterSound : (removal.retimed checkedAt deletedAt).adapter.layout.Sound hashed after :=
    (removal.reach_sound hsound h phase).same hafter
  have hagain : (removal.retimed checkedAt deletedAt).Finds unfailing after :=
    h.again hkeys hentries deletedAt hallowed
  have hrun : SameObjects ((removal.retimed checkedAt deletedAt).reach provider after .evidence)
      ((removal.adapter.delete (removal.request.retimed checkedAt deletedAt)).run
        provider.handle after).2 :=
    hagain.carried_out hafterSound (hagain.accepted hafterSound hstill)
  refine SameObjects.trans ?_ hrun
  have hgone : SameObjects (removal.blobGone provider bucket) (removal.blobGone provider after) := by
    have hblob : SameObjects (removal.blobGone provider (removal.reach provider bucket phase))
        (removal.blobGone provider after) := (provider.handle_delete_same hafter _ _).2
    rcases hphase with rfl | rfl
    · exact hblob
    · exact (blobGone_again hversioned hnone).trans hblob
  exact (removal.retimed checkedAt deletedAt).reach_evidence_same (hstill.trans hversioned.symm)
    hgone

-- Once the reference has gone the delete is refused, and changes nothing more.
theorem Finds.refused_again (hsound : removal.adapter.layout.Sound hashed bucket)
    (h : removal.Finds unfailing bucket) {phase : DeletePhase}
    (hphase : phase ≠ .start ∧ phase ≠ .blob)
    (hafter : SameObjects (removal.reach provider bucket phase) after)
    (checkedAt deletedAt : Timestamp) :
    SameObjects (removal.reach provider bucket phase)
      ((removal.adapter.delete (removal.request.retimed checkedAt deletedAt)).run
        provider.handle after).2 := by
  have hafterSound : removal.adapter.layout.Sound hashed after :=
    (removal.reach_sound hsound h phase).same hafter
  have hgone : after.entries removal.referencePath = [] := by
    rw [hafter.entries]
    exact removal.reference_gone h hphase
  have hnone (other : Removal) (hadapter : other.adapter = removal.adapter)
      (hrequest : other.request = removal.request.retimed checkedAt deletedAt) :
      ¬other.Finds unfailing after := by
    intro hfinds
    obtain ⟨stored, hentry⟩ := hfinds.entry
    have hreference := hfinds.reference
    rw [hadapter, hrequest] at hreference
    have hsame := h.reference.symm.trans hreference
    rw [Except.ok.injEq] at hsame
    have hdigest := hfinds.digest
    rw [← hsame, h.digest, Option.some.injEq, HexDigest.digest_inj] at hdigest
    have hpath : other.referencePath = removal.referencePath := by
      simp only [referencePath, resource, object, hadapter, hrequest, ← hsame, ← hdigest,
        DeleteRequest.retimed]
    rw [hpath, hgone] at hentry
    cases hentry
  have hends : DeleteEnds provider removal.adapter (removal.request.retimed checkedAt deletedAt)
      unfailing after
      ((removal.adapter.delete (removal.request.retimed checkedAt deletedAt)).run
        provider.handle after).1
      ((removal.adapter.delete (removal.request.retimed checkedAt deletedAt)).run
        provider.handle after).2 := delete_unfailing hafterSound
  refine hafter.trans ?_
  generalize (removal.adapter.delete (removal.request.retimed checkedAt deletedAt)).run
    provider.handle after = run at hends ⊢
  rcases run with ⟨result, final⟩
  cases hends with
  | refused _ _ hsame => exact hsame
  | rejected other _ _ _ hadapter hrequest hfinds =>
      exact absurd hfinds (hnone other hadapter hrequest)
  | cut other _ _ _ _ hadapter hrequest hfinds => exact absurd hfinds (hnone other hadapter hrequest)
  | recorded other _ hadapter hrequest hfinds => exact absurd hfinds (hnone other hadapter hrequest)
  | completed other _ hadapter hrequest hfinds => exact absurd hfinds (hnone other hadapter hrequest)

-- Where nothing is left to do but the deletion of the reference, it is all done.
theorem reach_evidence_of_resumable {phase : DeletePhase}
    (hphase : phase ≠ .start ∧ phase ≠ .blob) (h : removal.Resumable bucket phase) :
    removal.reach provider bucket phase = removal.reach provider bucket .evidence := by
  have hrecorded (hsome : (bucket.current removal.evidencePath).isSome = true) :
      removal.pointerMoved provider bucket = removal.reach provider bucket .evidence := by
    have hcurrent : (removal.pointerMoved provider bucket).current removal.evidencePath =
        bucket.current removal.evidencePath :=
      Store.current_congr (removal.reach_evidence_entries .pointer (Or.inr rfl))
    simp only [reach, recordEvidence, hcurrent, hsome, if_true]
  cases phase with
  | start => exact absurd rfl hphase.1
  | blob => exact absurd rfl hphase.2
  | reference =>
      rw [← hrecorded h.2]
      simp [reach, pointerMoved, h.1]
  | pointer => exact hrecorded h
  | evidence => rfl

-- A delete that stopped after the reference had gone leaves undone what was not done.
theorem Restored.resumable (hsound : removal.adapter.layout.Sound hashed bucket)
    (hfinds : removal.Finds unfailing bucket) {phase : DeletePhase} {final : Bucket}
    (hfinal : SameObjects (removal.reach provider bucket phase) final)
    (h : removal.Restored provider bucket final) : removal.Resumable bucket phase := by
  have hevidence (hphase : phase = .reference ∨ phase = .pointer) :
      (bucket.current removal.evidencePath).isSome = true := by
    have hcurrent : (removal.reach provider bucket phase).current removal.evidencePath =
        bucket.current removal.evidencePath :=
      Store.current_congr (removal.reach_evidence_entries phase hphase)
    rw [← hcurrent, ← hfinal.current]
    exact h.evidence
  cases phase with
  | start | blob | evidence => trivial
  | pointer => exact hevidence (Or.inr rfl)
  | reference =>
      refine ⟨?_, hevidence (Or.inl rfl)⟩
      cases hmoves : removal.moves with
      | false => rfl
      | true =>
          have hlatest : final.current removal.latestPath = bucket.current removal.latestPath := by
            rw [hfinal.current]
            exact Store.current_congr (removal.referenceGone_entries provider bucket
              removal.latestPath_ne_blobPath removal.latestPath_ne_referencePath)
          obtain ⟨stored, hcurrent, hbody⟩ := hfinds.points_of_moves hsound hmoves
          have hpointer := h.pointer hmoves
          rw [hlatest] at hpointer
          cases hprevious : removal.previous with
          | none =>
              rw [hprevious] at hpointer
              exact absurd (hpointer.symm.trans hcurrent) (by simp)
          | some previous =>
              rw [hprevious] at hpointer
              obtain ⟨other, hother, hnamed⟩ := hpointer
              have hnewest := hfinds.previous
              rw [hprevious] at hnewest
              obtain ⟨content, -, hdigest, hne⟩ := S3ObjectAdapter.newestIn_some hsound hnewest
              have hpoints : removal.adapter.layout.Points bucket removal.resource removal.object
                  content := ⟨other, hother, hdigest ▸ hnamed⟩
              obtain rfl := S3Layout.points_unique hpoints ⟨stored, hcurrent, hbody⟩
              exact absurd rfl hne

end Removal

namespace Deposit.First

variable {deposit : Deposit} {request : DeleteRequest} {reference : ObjectReference}
variable {fault : Fault Failure}

-- The delete of the only version can be cut off once its reference has gone.
theorem deletion_struck_reference (h : deposit.First provider hashed bucket)
    (hunversioned : bucket.versioned = false)
    (hdelete : deposit.Deleted request reference)
    (hallowed : deposit.adapter.requireDeleteAllowed
      (deposit.published provider bucket) request.checkedAt = .ok ())
    (fault : Fault Failure) :
    ∃ plan, (deposit.adapter.delete request).struck provider.handle plan
      (deposit.stored provider bucket) =
        [(.deleteObject (deposit.removed provider bucket request reference).referencePath
          (provider.reportedVersion (deposit.stored provider bucket)
            (deposit.removed provider bucket request reference).entry), fault)] := by
  have hfinds := h.removal hdelete hallowed
  have hversioned : (deposit.stored provider bucket).versioned = false :=
    h.versioned.trans hunversioned
  exact Program.exists_struck (hfinds.calls_reference (hfinds.accepted h.tidy.sound hversioned))
    fault

-- Without its reference the delete is refused, and the pointer stays.
theorem not_finished (h : deposit.First provider hashed bucket)
    (hunversioned : bucket.versioned = false)
    (hdelete : deposit.Deleted request reference)
    (hallowed : deposit.adapter.requireDeleteAllowed
      (deposit.published provider bucket) request.checkedAt = .ok ())
    (houtage : fault.error.Outage) (heffect : fault.effect = true) (checkedAt deletedAt : Timestamp)
    {plan : Plan Failure} {version : Option String}
    (hstruck : (deposit.adapter.delete request).struck provider.handle plan
      (deposit.stored provider bucket) =
        [(.deleteObject (deposit.removed provider bucket request reference).referencePath version,
          fault)]) :
    ¬(deposit.removed provider bucket request reference).Restored provider
      (deposit.stored provider bucket)
      ((deposit.adapter.delete (request.retimed checkedAt deletedAt)).run provider.handle
        ((deposit.adapter.delete request).runFaulty provider.handle plan
          (deposit.stored provider bucket)).2).2 := by
  have hfinds := h.removal hdelete hallowed
  have hversioned : (deposit.stored provider bucket).versioned = false :=
    h.versioned.trans hunversioned
  have hsound : (deposit.removed provider bucket request reference).adapter.layout.Sound hashed
      (deposit.stored provider bucket) := h.tidy.sound
  have hcut := hfinds.cut_off hsound (hfinds.accepted hsound hversioned) houtage hstruck
  have hphase : (deposit.removed provider bucket request reference).phaseAt fault.effect
      (.deleteObject (deposit.removed provider bucket request reference).referencePath version) =
        .reference := by
    simp [Removal.phaseAt, Removal.referencePath_ne_blobPath, heffect]
  rw [hphase] at hcut
  intro hrestored
  have hresumable := hrestored.resumable hsound hfinds
    (hfinds.refused_again hsound ⟨by simp, by simp⟩ hcut checkedAt deletedAt)
  have hstays := hresumable.1
  rw [removed_moves] at hstays
  cases hstays

end Deposit.First

end MeridianS3
