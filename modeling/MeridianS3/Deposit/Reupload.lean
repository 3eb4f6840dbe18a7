import MeridianS3.Deposit.Versions

namespace MeridianS3

open Effect ObjectStore Json

-- A put that carries through in a bucket and whose documents can be read, whatever
-- else is hashed.
structure Deposit.Carries (deposit : Deposit) (provider : Provider) (bucket : Bucket) : Prop where
  before : deposit.adapter.layout.Tidy Set.univ provider bucket
  finds : deposit.Finds bucket
  unblocked : ¬deposit.Blocked bucket
  pointer : deposit.adapter.layout.legible (latestValue deposit.hash.digest)
  reference : deposit.adapter.layout.legible
    ((deposit.published provider bucket).toDict deposit.adapter.common)

-- The payload of a first version goes up in parts once more when another is the latest.
structure Deposit.Reuploads (first next : Deposit) (provider : Provider) (bucket : Bucket) :
    Prop where
  follows : next.Follows first
  opens : first.Carries provider bucket
  continues : next.Carries provider (first.stored provider bucket)
  finds : first.Finds (first.both next provider bucket)
  parts : first.multipart = true
  versioned : bucket.versioned = true

namespace Deposit

variable {first next deposit : Deposit} {provider : Provider} {bucket : Bucket}
variable {request : DeleteRequest} {reference : ObjectReference}

-- The bucket after the second upload.
def again (first next : Deposit) (provider : Provider) (bucket : Bucket) : Bucket :=
  first.stored provider (first.both next provider bucket)

theorem runSteps_again (first next : Deposit) (provider : Provider) (bucket : Bucket) :
    runSteps provider bucket [first.step, next.step, first.step] =
      first.again next provider bucket := rfl

theorem Carries.tidy (h : deposit.Carries provider bucket) :
    deposit.adapter.layout.Tidy Set.univ provider (deposit.stored provider bucket) := by
  unfold stored
  rw [run_step]
  exact h.finds.tidy h.before (PutRequest.hashes_univ _) h.unblocked h.pointer h.reference

namespace Reuploads

variable (h : first.Reuploads next provider bucket)

include h

theorem tidy_both : first.adapter.layout.Tidy Set.univ provider
    (first.both next provider bucket) := by
  have htidy := h.continues.tidy
  rwa [h.follows.layout] at htidy

-- The second put leaves the version of the first.
theorem kept {physical : PhysicalKey}
    (hblob : physical ≠ .blob first.resource first.object next.hash)
    (hreference : physical ≠ .reference first.resource first.object next.hash)
    (hlatest : physical ≠ .latest first.resource first.object) :
    (first.both next provider bucket).entries (first.adapter.layout.path physical) =
      (first.stored provider bucket).entries (first.adapter.layout.path physical) := by
  unfold both
  apply h.continues.finds.stored_entries provider h.continues.unblocked
  · rw [blobPath, h.follows.layout, h.follows.resource_eq, h.follows.object_eq]
    simpa using hblob
  · rw [referencePath, h.follows.layout, h.follows.resource_eq, h.follows.object_eq]
    simpa using hreference
  · rw [latestPath, h.follows.layout, h.follows.resource_eq, h.follows.object_eq]
    simpa using hlatest

theorem recorded_both : first.adapter.layout.Recorded (first.both next provider bucket)
    first.resource first.object first.hash (first.published provider bucket) :=
  S3Layout.recorded_congr
    (h.kept (by simp) (by simpa using h.follows.differs.symm) (by simp))
    (h.opens.finds.stored_recorded provider h.opens.unblocked)

theorem versioned_both : (first.both next provider bucket).versioned = true :=
  (h.continues.finds.stored_versioned provider h.continues.unblocked).trans
    ((h.opens.finds.stored_versioned provider h.opens.unblocked).trans h.versioned)

-- The upload goes through, and then the reference turns out to be there.
theorem stops : first.adapter.layout.Beside (first.blobStored (first.both next provider bucket))
    (first.again next provider bucket) := by
  have hstored : ((first.both next provider bucket).current first.referencePath).isSome = true := by
    obtain ⟨-, stored, hcurrent, -⟩ := h.recorded_both
    exact Option.isSome_iff_exists.mpr ⟨stored, hcurrent⟩
  have hbeside := (h.finds.blocks provider (Or.inr (Or.inl hstored))).2
  have hhalts : first.halts (first.both next provider bucket) = .blob := by
    rw [halts, if_neg (by simp [h.parts]), if_pos hstored]
  rw [hhalts] at hbeside
  unfold again stored
  rw [run_step]
  exact hbeside

theorem kept_again {physical : PhysicalKey}
    (hblob : physical ≠ .blob first.resource first.object first.hash)
    (horphan : ∀ resource object content, physical ≠ .orphan resource object content) :
    (first.again next provider bucket).entries (first.adapter.layout.path physical) =
      (first.both next provider bucket).entries (first.adapter.layout.path physical) :=
  (h.stops.entries physical horphan).trans
    (Store.put_entries_of_ne _ (by simpa [blobPath] using hblob) _)

theorem versioned_again : (first.again next provider bucket).versioned = true :=
  h.stops.versioned.trans ((Store.put_versioned ..).trans h.versioned_both)

theorem sound_again : first.adapter.layout.Sound Set.univ (first.again next provider bucket) :=
  (Step.ends (Deposit.step_joins (PutRequest.hashes_univ _)) h.tidy_both.sound).1

theorem minted_again : first.adapter.layout.Minted provider (first.again next provider bucket) := by
  unfold again stored
  rw [run_step]
  exact (put_unfailing first.request).minted h.tidy_both.minted

-- Two versions of the blob are stored, and the reference records the older one.
theorem blobs_again : ∃ newer older late early rest, newer ≠ older ∧
    (first.again next provider bucket).entries first.blobPath =
      ⟨newer, some late⟩ :: ⟨older, some early⟩ :: rest ∧
    (first.published provider bucket).blobVersionId =
      .ofOption (provider.reportedVersion (first.again next provider bucket) older) := by
  have hstored : (first.stored provider bucket).entries first.blobPath =
      ⟨bucket.issued, some ⟨first.header, first.content⟩⟩ :: bucket.entries first.blobPath := by
    have hsame := h.opens.finds.stored_same provider h.opens.unblocked
    have hkept : (first.pointerStored provider bucket).entries first.blobPath =
        (first.blobStored bucket).entries first.blobPath :=
      (first.adapter.written_entries_of_ne _ (by simp [blobPath, latestPath]) _).trans
        (Store.put_entries_of_ne _ (by simp [blobPath, referencePath]) _)
    rw [hsame.entries, hkept, blobStored, Store.put_entries_self, if_pos h.versioned]
  have hboth : (first.both next provider bucket).entries first.blobPath =
      (first.stored provider bucket).entries first.blobPath := by
    unfold blobPath
    exact h.kept (by simpa using h.follows.differs.symm) (by simp) (by simp)
  have hagain : (first.again next provider bucket).entries first.blobPath =
      (first.blobStored (first.both next provider bucket)).entries first.blobPath := by
    unfold blobPath
    exact h.stops.entries _ (by simp)
  have hreported : provider.reportedVersion (first.again next provider bucket) bucket.issued =
      provider.reportedVersion bucket bucket.issued := by
    rw [Provider.reportedVersion, Provider.reportedVersion, h.versioned_again, h.versioned]
  have hversion : (first.published provider bucket).blobVersionId =
      .ofOption (provider.reportedVersion bucket bucket.issued) := rfl
  have hnewer : (first.both next provider bucket).issued = bucket.issued + 6 := by
    rw [both, h.continues.finds.stored_issued provider h.continues.unblocked,
      h.opens.finds.stored_issued provider h.opens.unblocked]
  have hentries : (first.again next provider bucket).entries first.blobPath =
      ⟨(first.both next provider bucket).issued, some ⟨first.header, first.content⟩⟩ ::
        ⟨bucket.issued, some ⟨first.header, first.content⟩⟩ :: bucket.entries first.blobPath := by
    rw [hagain, blobStored, Store.put_entries_self, if_pos h.versioned_both, hboth, hstored]
  exact ⟨_, _, _, _, _, by omega, hentries, by rw [hversion, hreported]⟩

theorem reference_again (content : HexDigest) : (first.again next provider bucket).entries
    (first.adapter.layout.path (.reference first.resource first.object content)) =
      (first.both next provider bucket).entries
        (first.adapter.layout.path (.reference first.resource first.object content)) :=
  h.kept_again (by simp) (by simp)

theorem recorded_again : first.adapter.layout.Recorded (first.again next provider bucket)
    first.resource first.object first.hash (first.published provider bucket) :=
  S3Layout.recorded_congr (h.reference_again first.hash) h.recorded_both

theorem undeleted_again (hnone : bucket.current (first.adapter.layout.path
      (.deletion first.resource first.object first.hash)) = none) :
    (first.again next provider bucket).current (first.adapter.layout.path
      (.deletion first.resource first.object first.hash)) = none := by
  have hfirst : (first.stored provider bucket).entries (first.adapter.layout.path
      (.deletion first.resource first.object first.hash)) = bucket.entries
        (first.adapter.layout.path (.deletion first.resource first.object first.hash)) :=
    h.opens.finds.stored_entries provider h.opens.unblocked (by simp [blobPath])
      (by simp [referencePath]) (by simp [latestPath])
  have hboth : (first.both next provider bucket).entries (first.adapter.layout.path
      (.deletion first.resource first.object first.hash)) = (first.stored provider bucket).entries
        (first.adapter.layout.path (.deletion first.resource first.object first.hash)) :=
    h.kept (by simp) (by simp) (by simp)
  rw [Store.current_congr ((h.kept_again (by simp) (by simp)).trans (hboth.trans hfirst))]
  exact hnone

-- The delete of the version finds the envelope of the first upload.
theorem removal_again (hdelete : first.Deleted request reference)
    (hallowed : first.adapter.requireDeleteAllowed (first.published provider bucket)
      request.checkedAt = .ok ()) :
    ∃ removal : Removal, removal.adapter = first.adapter ∧ removal.request = request ∧
      removal.reference = reference ∧ removal.content = first.hash ∧
      removal.Finds unfailing (first.again next provider bucket) := by
  have henvelope : first.adapter.envelopeAt (first.again next provider bucket)
      request.resource reference.objectId first.hash.digest =
        .ok (first.published provider bucket) := by
    rw [hdelete.resource, hdelete.object]
    exact S3ObjectAdapter.envelopeAt_recorded h.opens.reference h.recorded_again rfl rfl
  have hlatest : missingAsNone (first.adapter.latestEnvelope (first.again next provider bucket)
      request.resource reference.objectId) =
        .ok (some (next.published provider (first.stored provider bucket))) := by
    have hnext := h.continues.finds.stored_latest provider h.continues.unblocked
      h.continues.pointer h.continues.reference
    rw [h.follows.adapter, h.follows.resource, h.follows.objectId] at hnext
    have hpointer : (first.again next provider bucket).current
        (first.adapter.layout.path (.latest first.resource first.object)) =
          (first.both next provider bucket).current
            (first.adapter.layout.path (.latest first.resource first.object)) :=
      Store.current_congr (h.kept_again (by simp) (by simp))
    have hreferences (content : HexDigest) : (first.again next provider bucket).current
        (first.adapter.layout.path (.reference first.resource first.object content)) =
          (first.both next provider bucket).current
            (first.adapter.layout.path (.reference first.resource first.object content)) :=
      Store.current_congr (h.reference_again content)
    have hsame : first.adapter.latestEnvelope (first.again next provider bucket)
        first.request.resource first.request.input.objectId = first.adapter.latestEnvelope
          (first.both next provider bucket) first.request.resource
            first.request.input.objectId :=
      S3ObjectAdapter.latestEnvelope_congr hpointer hreferences
    rw [hdelete.resource, hdelete.object, hsame, both, hnext]
    rfl
  obtain ⟨previous, hprevious⟩ : ∃ previous, first.adapter.newestIn
      (first.again next provider bucket) request.resource reference.objectId
        (some first.hash.digest) = .ok previous := by
    apply S3ObjectAdapter.newestInPages_ok_iff.mpr
    rw [hdelete.resource, hdelete.object]
    apply S3ObjectAdapter.versions_legible h.sound_again
    intro content envelope hrecorded
    exact h.tidy_both.legible.recorded
      (S3Layout.recorded_congr (h.reference_again content).symm hrecorded)
  exact Removal.found h.sound_again hdelete.names henvelope hallowed hlatest hprevious

end Reuploads

end Deposit

end MeridianS3
