import MeridianS3.Records.Newest

namespace MeridianS3

open Effect ObjectStore Json

variable {provider : Provider} {layout : S3Layout} {hashed : Set Bytes} {bucket after : Bucket}
variable {resource object content : HexDigest} {envelope : StoredEnvelope}

namespace S3Layout

theorem Legible.recorded (h : layout.Legible bucket)
    (hrecorded : layout.Recorded bucket resource object content envelope) :
    layout.legible (envelope.toDict layout.common) := by
  obtain ⟨-, stored, hcurrent, hbody⟩ := hrecorded
  rw [legible, ← hbody]
  exact h _ stored hcurrent (by simp)

theorem Legible.points (h : layout.Legible bucket)
    (hpoints : layout.Points bucket resource object content) :
    layout.legible (latestValue content.digest) := by
  obtain ⟨stored, hcurrent, hbody⟩ := hpoints
  rw [legible, ← hbody]
  exact h _ stored hcurrent (by simp)

theorem legible_empty (layout : S3Layout) (versioned : Bool) :
    layout.Legible (Store.empty versioned) := by
  intro physical stored hcurrent
  cases hcurrent

-- Keys that keep their object, have lost it, or hold a legible document.
theorem Legible.kept (h : layout.Legible bucket)
    (hkept : ∀ physical stored, after.current (layout.path physical) = some stored →
      (∀ resource object content, physical ≠ .blob resource object content) →
      (∃ other, bucket.current (layout.path other) = some stored ∧
        ∀ resource object content, other ≠ .blob resource object content) ∨
      ∃ value, stored.body = layout.common.canonicalJsonBytes value ∧ layout.legible value) :
    layout.Legible after := by
  intro physical stored hcurrent hdocument
  rcases hkept physical stored hcurrent hdocument with ⟨other, hother, hnot⟩ | ⟨value, hbody, hvalue⟩
  · exact h other stored hother hnot
  · rw [hbody]
    exact hvalue

theorem Legible.same (h : layout.Legible bucket) (hsame : SameObjects bucket after) :
    layout.Legible after := by
  intro physical stored hcurrent
  rw [hsame.current] at hcurrent
  exact h physical stored hcurrent

-- SHA-256 tells the object ids of recorded envelopes apart.
theorem Sound.objectId_eq (hsound : layout.Sound hashed bucket) (hfree : layout.CollisionFree hashed)
    {objectId : String} (hobject : ObjectCommon.encodeUtf8 objectId ∈ hashed)
    (hrecorded : layout.Recorded bucket resource (layout.objectToken objectId) content envelope) :
    envelope.metadata.objectRef.objectId = objectId :=
  ObjectCommon.encodeUtf8_injective (hfree (hsound.envelopeOf hrecorded).hashed hobject
    (hsound.envelopeOf hrecorded).object)

end S3Layout

namespace S3ObjectAdapter

variable {adapter : S3ObjectAdapter} {reference : ResourceRef} {objectId : String}

theorem Legible.envelopeAt (hlegible : adapter.layout.Legible bucket)
    (hsound : adapter.layout.Sound hashed bucket) (hfree : adapter.layout.CollisionFree hashed)
    (hobject : ObjectCommon.encodeUtf8 objectId ∈ hashed)
    (hrecorded : adapter.layout.Recorded bucket (adapter.layout.resourceToken reference)
      (adapter.layout.objectToken objectId) content envelope) :
    adapter.envelopeAt bucket reference objectId content.digest = .ok envelope :=
  envelopeAt_recorded (hlegible.recorded hrecorded) hrecorded
    (hsound.objectId_eq hfree hobject hrecorded) (hsound.envelopeOf hrecorded).digest

theorem Legible.latestEnvelope (hlegible : adapter.layout.Legible bucket)
    (hsound : adapter.layout.Sound hashed bucket) (hfree : adapter.layout.CollisionFree hashed)
    (hobject : ObjectCommon.encodeUtf8 objectId ∈ hashed)
    (hpoints : adapter.layout.Points bucket (adapter.layout.resourceToken reference)
      (adapter.layout.objectToken objectId) content)
    (hrecorded : adapter.layout.Recorded bucket (adapter.layout.resourceToken reference)
      (adapter.layout.objectToken objectId) content envelope) :
    adapter.latestEnvelope bucket reference objectId = .ok envelope :=
  latestEnvelope_recorded (hlegible.points hpoints) (hlegible.recorded hrecorded) hpoints hrecorded
    (hsound.objectId_eq hfree hobject hrecorded) (hsound.envelopeOf hrecorded).digest

-- Where there is no pointer there is no latest version.
theorem latestEnvelope_missing
    (hnone : bucket.current (adapter.layout.latestKey reference objectId) = none) :
    missingAsNone (adapter.latestEnvelope bucket reference objectId) = .ok none := by
  unfold S3ObjectAdapter.latestEnvelope latestDigest
  rw [S3Transport.document_missing hnone]
  rfl

-- A pointer that names no reference reads as no latest version.
theorem Legible.latestEnvelope_dangling (hlegible : adapter.layout.Legible bucket)
    (hpoints : adapter.layout.Points bucket (adapter.layout.resourceToken reference)
      (adapter.layout.objectToken objectId) content)
    (hnone : bucket.current (adapter.layout.path (.reference (adapter.layout.resourceToken reference)
      (adapter.layout.objectToken objectId) content)) = none) :
    missingAsNone (adapter.latestEnvelope bucket reference objectId) = .ok none := by
  have hdigest := latestDigest_points (hlegible.points hpoints) hpoints
  have hmissing : adapter.envelopeAt bucket reference objectId content.digest =
      .error S3Transport.missingDocument := by
    unfold S3ObjectAdapter.envelopeAt
    rw [S3Layout.referenceKey_digest]
    change (adapter.transport.document bucket _).bind _ = _
    rw [S3Transport.document_missing hnone]
    rfl
  rw [S3ObjectAdapter.latestEnvelope, hdigest]
  change missingAsNone (adapter.envelopeAt bucket reference objectId content.digest) = _
  rw [hmissing]
  rfl

-- Every look at the latest version comes to an answer.
theorem Legible.latestEnvelope_total (hlegible : adapter.layout.Legible bucket)
    (hsound : adapter.layout.Sound hashed bucket) (hfree : adapter.layout.CollisionFree hashed)
    (hobject : ObjectCommon.encodeUtf8 objectId ∈ hashed) :
    ∃ latest, missingAsNone (adapter.latestEnvelope bucket reference objectId) = .ok latest := by
  cases hpointer : bucket.current (adapter.layout.latestKey reference objectId) with
  | none => exact ⟨none, latestEnvelope_missing hpointer⟩
  | some pointer =>
      obtain ⟨content, hpoints⟩ := hsound.points hpointer
      cases hstored : bucket.current (adapter.layout.path (.reference
          (adapter.layout.resourceToken reference) (adapter.layout.objectToken objectId)
          content)) with
      | none => exact ⟨none, Legible.latestEnvelope_dangling hlegible hpoints hstored⟩
      | some stored =>
          obtain ⟨envelope, hrecorded, -⟩ := hsound.recorded hstored
          refine ⟨some envelope, ?_⟩
          rw [Legible.latestEnvelope hlegible hsound hfree hobject hpoints hrecorded]
          rfl

theorem scanned_legible (hread : adapter.layout.legible (envelope.toDict adapter.common))
    (hrecorded : adapter.layout.Recorded bucket resource object content envelope) :
    adapter.scanned bucket (adapter.layout.path (.reference resource object content)) =
      .ok envelope := by
  obtain ⟨hcanonical, stored, hcurrent, hbody⟩ := hrecorded
  have hdocument : adapter.transport.document bucket
      (adapter.layout.path (.reference resource object content)) =
        .ok (envelope.toDict adapter.layout.common) :=
    S3Transport.document_canonical hcurrent hbody hcanonical rfl (hbody ▸ hread)
  unfold S3ObjectAdapter.scanned
  rw [hdocument]
  exact StoredEnvelope.fromMapping_toDict adapter.layout.common envelope

-- Every scan of an object's versions comes to an end.
theorem versions_legible (hsound : adapter.layout.Sound hashed bucket)
    (hread : ∀ content envelope, adapter.layout.Recorded bucket
      (adapter.layout.resourceToken reference) (adapter.layout.objectToken objectId) content
        envelope → adapter.layout.legible (envelope.toDict adapter.common)) (count : Nat) :
    ∀ key ∈ (keysUnder bucket (adapter.layout.versionPrefix reference objectId) none).take count,
      ∃ envelope, adapter.scanned bucket key = .ok envelope := by
  intro key hmem
  obtain ⟨content, envelope, rfl, hrecorded⟩ := mem_keysUnder hsound (List.mem_of_mem_take hmem)
  exact ⟨envelope, scanned_legible (hread content envelope hrecorded) hrecorded⟩

theorem Legible.versions (hlegible : adapter.layout.Legible bucket)
    (hsound : adapter.layout.Sound hashed bucket) (count : Nat) :
    ∀ key ∈ (keysUnder bucket (adapter.layout.versionPrefix reference objectId) none).take count,
      ∃ envelope, adapter.scanned bucket key = .ok envelope :=
  versions_legible hsound (fun _ _ hrecorded => hlegible.recorded hrecorded) count

-- A scan without another version than the excluded one finds none.
theorem Legible.newestIn_none (hlegible : adapter.layout.Legible bucket)
    (hsound : adapter.layout.Sound hashed bucket) {excluded : Option String}
    (honly : ∀ content, bucket.entries (adapter.layout.path (.reference
      (adapter.layout.resourceToken reference) (adapter.layout.objectToken objectId) content)) ≠ [] →
      some content.digest = excluded) :
    adapter.newestIn bucket reference objectId excluded = .ok none := by
  obtain ⟨newest, hnewest⟩ := newestInPages_ok_iff.mpr (Legible.versions hlegible hsound _)
  cases newest with
  | none => exact hnewest
  | some newest =>
      obtain ⟨content, hrecorded, -, hne⟩ := newestIn_some hsound hnewest
      exact absurd (honly content (S3Layout.recorded_entries hrecorded)) hne

end S3ObjectAdapter

end MeridianS3
