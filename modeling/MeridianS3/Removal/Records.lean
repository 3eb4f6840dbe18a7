import MeridianS3.Records.Newest
import MeridianS3.Removal.Theorems

namespace MeridianS3

open Effect ObjectStore Json

namespace Provider

variable (provider : Provider)

theorem without_cases (bucket : Bucket) (key : String) (version : Option String) :
    provider.without bucket key version = bucket ∨
      ∃ id : Option Nat, provider.without bucket key version = bucket.delete key id ∧
        (id = none → version = none) := by
  unfold without
  cases version with
  | none => exact Or.inr ⟨none, rfl, fun _ => rfl⟩
  | some name =>
      simp only [handle]
      split
      · exact Or.inl rfl
      · rename_i number _
        exact Or.inr ⟨some number, rfl, fun h => absurd h (by simp)⟩

theorem reportedVersion_eq_none {bucket : Bucket} {id : Nat}
    (h : provider.reportedVersion bucket id = none) : bucket.versioned = false := by
  simpa [reportedVersion] using h

variable {layout : S3Layout} {hashed : Set Bytes}

theorem without_sound {bucket : Bucket} (h : layout.Sound hashed bucket) (key : String)
    {version : Option String} (hversion : version = none → bucket.versioned = false) :
    layout.Sound hashed (provider.without bucket key version) := by
  rcases provider.without_cases bucket key version with hsame | ⟨id, hdelete, hid⟩
  · rwa [hsame]
  · rw [hdelete]
    exact h.delete key fun hnone => hversion (hid hnone)

end Provider

namespace Removal

variable {removal : Removal} {provider : Provider} {faults : S3Call → Fault Failure → Prop}
variable {hashed : Set Bytes} {bucket : Bucket}

theorem Finds.recorded (hsound : removal.adapter.layout.Sound hashed bucket)
    (h : removal.Finds faults bucket) :
    removal.adapter.layout.Recorded bucket removal.resource removal.object removal.content
      removal.envelope := by
  obtain ⟨content, hdigest, hrecorded, -, -⟩ := S3ObjectAdapter.envelopeAt_ok hsound h.envelope
  rw [HexDigest.digest_inj] at hdigest
  rwa [← hdigest] at hrecorded

theorem Finds.versioned (hsound : removal.adapter.layout.Sound hashed bucket)
    (h : removal.Finds faults bucket) : removal.version.isSome = bucket.versioned := by
  obtain ⟨name, hname, hsome⟩ := (hsound.envelopeOf (h.recorded hsound)).version
  rw [h.version] at hname
  rw [Value.ofOption_injective hname, hsome]

theorem Finds.unversioned (hsound : removal.adapter.layout.Sound hashed bucket)
    (h : removal.Finds faults bucket) (hnone : removal.version = none) :
    bucket.versioned = false := by
  rw [← h.versioned hsound, hnone]
  rfl

-- A document write keeps a bucket sound.
theorem written_latest_sound {current : Bucket} {content : HexDigest}
    (hsound : removal.adapter.layout.Sound hashed current) :
    removal.adapter.layout.Sound hashed
      (removal.adapter.written current removal.latestPath (latestValue content.digest)) := by
  unfold latestPath
  apply hsound.put
  · exact ⟨content, rfl⟩
  · exact fun h => h.elim

theorem recordEvidence_sound {current : Bucket}
    (hsound : removal.adapter.layout.Sound hashed current) :
    removal.adapter.layout.Sound hashed (removal.recordEvidence current) := by
  unfold recordEvidence
  split
  · exact hsound
  · rename_i hnone
    unfold evidencePath
    apply hsound.put
    · trivial
    · intro _
      simpa [evidencePath] using hnone

theorem blobGone_sound (hsound : removal.adapter.layout.Sound hashed bucket)
    (h : removal.Finds faults bucket) :
    removal.adapter.layout.Sound hashed (removal.blobGone provider bucket) :=
  provider.without_sound hsound _ (h.unversioned hsound)

theorem referenceGone_sound (hsound : removal.adapter.layout.Sound hashed bucket)
    (h : removal.Finds faults bucket) :
    removal.adapter.layout.Sound hashed (removal.referenceGone provider bucket) := by
  apply provider.without_sound (blobGone_sound hsound h)
  intro hnone
  simpa using provider.reportedVersion_eq_none hnone

theorem movePointer_sound {current : Bucket}
    (hsound : removal.adapter.layout.Sound hashed bucket) (h : removal.Finds faults bucket)
    (hcurrent : removal.adapter.layout.Sound hashed current) :
    removal.adapter.layout.Sound hashed (removal.movePointer provider current) := by
  unfold movePointer
  split
  · rename_i previous hprevious
    have hnewest := h.previous
    rw [hprevious] at hnewest
    obtain ⟨content, -, hdigest, -⟩ := S3ObjectAdapter.newestIn_some hsound hnewest
    rw [hdigest]
    exact written_latest_sound hcurrent
  · split
    · exact provider.without_sound hcurrent _ provider.reportedVersion_eq_none
    · exact hcurrent

theorem reach_sound (hsound : removal.adapter.layout.Sound hashed bucket)
    (h : removal.Finds faults bucket) (phase : DeletePhase) :
    removal.adapter.layout.Sound hashed (removal.reach provider bucket phase) := by
  have hgone : removal.adapter.layout.Sound hashed (removal.referenceGone provider bucket) :=
    referenceGone_sound hsound h
  have hmoved : removal.adapter.layout.Sound hashed (removal.pointerMoved provider bucket) := by
    unfold pointerMoved
    split
    · exact movePointer_sound hsound h hgone
    · exact hgone
  cases phase with
  | start => exact hsound
  | blob => exact blobGone_sound hsound h
  | reference => exact hgone
  | pointer => exact hmoved
  | evidence => exact recordEvidence_sound hmoved

end Removal

-- Once the reference has gone it stays away.
theorem Removal.reference_gone {removal : Removal} {provider : Provider}
    {faults : S3Call → Fault Failure → Prop} {bucket : Bucket} (h : removal.Finds faults bucket)
    {phase : DeletePhase} (hphase : phase ≠ .start ∧ phase ≠ .blob) :
    (removal.reach provider bucket phase).entries removal.referencePath = [] := by
  have hgone : (removal.referenceGone provider bucket).entries removal.referencePath = [] := by
    obtain ⟨stored, hentries⟩ := h.entry
    have hblob : (removal.blobGone provider bucket).entries removal.referencePath =
        [⟨removal.entry, some stored⟩] := by
      rw [removal.blobGone_entries provider bucket removal.referencePath_ne_blobPath, hentries]
    have hreported : provider.reportedVersion bucket removal.entry =
        provider.reportedVersion (removal.blobGone provider bucket) removal.entry := by
      simp [Provider.reportedVersion]
    rw [Removal.referenceGone, hreported, Provider.without_reported]
    cases hversioned : (removal.blobGone provider bucket).versioned with
    | true => simp [hblob]
    | false => simp [Store.delete_none_entries_self _ _ hversioned]
  have hmoved : (removal.pointerMoved provider bucket).entries removal.referencePath = [] := by
    unfold Removal.pointerMoved
    split
    · rw [removal.movePointer_entries provider _ removal.latestPath_ne_referencePath.symm, hgone]
    · exact hgone
  cases phase with
  | start => exact absurd rfl hphase.1
  | blob => exact absurd rfl hphase.2
  | reference => exact hgone
  | pointer => exact hmoved
  | evidence =>
      rw [← hmoved]
      apply removal.recordEvidence_entries
      simp [Removal.referencePath, Removal.evidencePath]

-- What a delete that runs alone leaves of a bucket: the removal has come to some phase.
theorem DeleteEnds.reached {provider : Provider} {adapter : S3ObjectAdapter}
    {request : DeleteRequest} {faults : S3Call → Fault Failure → Prop} {bucket after : Bucket}
    {result : Except Failure Bool}
    (h : DeleteEnds provider adapter request faults bucket result after) :
    SameObjects bucket after ∨ ∃ removal : Removal, removal.adapter = adapter ∧
      removal.request = request ∧ removal.Finds faults bucket ∧
      ∃ phase, SameObjects (removal.reach provider bucket phase) after := by
  cases h with
  | refused failure _ hsame => exact Or.inl hsame
  | rejected removal failure error _ _ _ _ _ hsame => exact Or.inl hsame
  | cut removal call fault failure _ hadapter hrequest hfinds _ hsame =>
      exact Or.inr ⟨removal, hadapter, hrequest, hfinds, _, hsame⟩
  | recorded removal _ hadapter hrequest hfinds _ hsame =>
      exact Or.inr ⟨removal, hadapter, hrequest, hfinds, _, hsame⟩
  | completed removal _ hadapter hrequest hfinds _ hsame =>
      exact Or.inr ⟨removal, hadapter, hrequest, hfinds, _, hsame⟩

theorem DeleteEnds.versioned {provider : Provider} {adapter : S3ObjectAdapter}
    {request : DeleteRequest} {faults : S3Call → Fault Failure → Prop} {bucket after : Bucket}
    {result : Except Failure Bool}
    (h : DeleteEnds provider adapter request faults bucket result after) :
    after.versioned = bucket.versioned := by
  rcases h.reached with hsame | ⟨removal, -, -, -, phase, hsame⟩
  · exact hsame.versioned
  · rw [hsame.versioned, removal.reach_versioned]

theorem DeleteEnds.sound {provider : Provider} {adapter : S3ObjectAdapter}
    {request : DeleteRequest} {faults : S3Call → Fault Failure → Prop} {hashed : Set Bytes}
    {bucket after : Bucket} {result : Except Failure Bool}
    (hsound : adapter.layout.Sound hashed bucket)
    (h : DeleteEnds provider adapter request faults bucket result after) :
    adapter.layout.Sound hashed after := by
  rcases h.reached with hsame | ⟨removal, rfl, rfl, hfinds, phase, hsame⟩
  · exact hsound.same hsame
  · exact (Removal.reach_sound hsound hfinds phase).same hsame

end MeridianS3
