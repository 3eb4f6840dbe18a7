import MeridianS3.Deposit.Theorems
import MeridianS3.Publication.Put

namespace MeridianS3

open Effect ObjectStore Json

variable {provider : Provider} {adapter : S3ObjectAdapter} {hashed : Set Bytes}
variable {bucket after : Bucket} {deposit : Deposit}

theorem put_unfailing (request : PutRequest) :
    PutEnds provider adapter request unfailing bucket
      ((adapter.put request).run provider.handle bucket).1
      ((adapter.put request).run provider.handle bucket).2 := by
  have hput : Verified provider.handle (solo unfailing).protocol (adapter.put request) ∅
      bucket fun result _ after =>
        PutEnds provider adapter request unfailing bucket result after :=
    put_ends unfailing_outages
  obtain ⟨-, -, hends⟩ := hput.run Discipline.rely_refl trivial
  exact hends

namespace S3ObjectAdapter

theorem intentFrom_retention {profile : Value} {request : PutRequest} {intent : PutIntent}
    (h : adapter.intentFrom profile request = .ok intent) :
    ∃ wanted, RetentionRecord.fromRequest wanted adapter.config = .ok intent.retention := by
  unfold intentFrom at h
  cases hmutability : adapter.common.effectiveImmutability profile request.input.immutability with
  | error failure => simp [hmutability, bind, Except.bind] at h
  | ok mutability =>
  cases hwanted : parseRetentionRequest adapter.common request.input.retention with
  | error failure => simp [hmutability, hwanted, bind, Except.bind] at h
  | ok wanted =>
  cases hretention : RetentionRecord.fromRequest wanted adapter.config with
  | error failure => simp [hmutability, hwanted, hretention, bind, Except.bind] at h
  | ok retention =>
  cases hcontext : frozenMapping request.input.creationContext "creationContext" with
  | error failure => simp [hmutability, hwanted, hretention, hcontext, bind, Except.bind] at h
  | ok creationContext =>
  cases hprovenance : adapter.rawProvenance request.input.provenance with
  | error failure =>
      simp [hmutability, hwanted, hretention, hcontext, hprovenance, bind, Except.bind] at h
  | ok provenance =>
  cases hraw : jsonMapping request.input.payload "payload" with
  | error failure =>
      simp [hmutability, hwanted, hretention, hcontext, hprovenance, hraw, bind, Except.bind] at h
  | ok rawPayload =>
  cases hpayload : adapter.common.payloadReferenceFromMapping rawPayload with
  | error failure =>
      simp [hmutability, hwanted, hretention, hcontext, hprovenance, hraw, hpayload, bind,
        Except.bind] at h
  | ok payload =>
      simp only [hmutability, hwanted, hretention, hcontext, hprovenance, hraw, hpayload, bind,
        Except.bind, pure, Except.pure, Except.ok.injEq] at h
      subst h
      exact ⟨wanted, hretention⟩

theorem profileAt_congr {resource : ResourceRef}
    (h : after.entries (adapter.layout.resourceKey resource) =
      bucket.entries (adapter.layout.resourceKey resource)) :
    adapter.profileAt after resource = adapter.profileAt bucket resource := by
  simp only [profileAt, S3Transport.document, Store.current_congr h]

end S3ObjectAdapter

namespace Deposit

variable (deposit provider)

-- A put touches three keys at most.
theorem reach_entries (bucket : Bucket) (phase : PutPhase) {key : String}
    (hblob : key ≠ deposit.blobPath) (hreference : key ≠ deposit.referencePath)
    (hlatest : key ≠ deposit.latestPath) :
    (deposit.reach provider bucket phase).entries key = bucket.entries key := by
  have hstored : (deposit.blobStored bucket).entries key = bucket.entries key :=
    Store.put_entries_of_ne _ hblob _
  have hreferenced : (deposit.referenceStored provider bucket).entries key =
      bucket.entries key := (Store.put_entries_of_ne _ hreference _).trans hstored
  cases phase with
  | start => rfl
  | blob => exact hstored
  | reference => exact hreferenced
  | pointer => exact (deposit.adapter.written_entries_of_ne _ hlatest _).trans hreferenced

-- The profile of the Resource is not among them.
theorem reach_profile (bucket : Bucket) (phase : PutPhase) :
    deposit.adapter.profileAt (deposit.reach provider bucket phase) deposit.request.resource =
      deposit.adapter.profileAt bucket deposit.request.resource := by
  have hkey : deposit.adapter.layout.resourceKey deposit.request.resource =
      deposit.adapter.layout.path (.registered deposit.resource) := rfl
  apply S3ObjectAdapter.profileAt_congr
  rw [hkey]
  apply deposit.reach_entries
  · simp [blobPath]
  · simp [referencePath]
  · simp [latestPath]

theorem reach_versioned (bucket : Bucket) (phase : PutPhase) :
    (deposit.reach provider bucket phase).versioned = bucket.versioned := by
  cases phase <;> rfl

-- Before its last write a put leaves the pointer.
theorem reach_latest_entries (bucket : Bucket) {phase : PutPhase} (hphase : phase ≠ .pointer) :
    (deposit.reach provider bucket phase).entries deposit.latestPath =
      bucket.entries deposit.latestPath := by
  have hstored : (deposit.blobStored bucket).entries deposit.latestPath =
      bucket.entries deposit.latestPath :=
    Store.put_entries_of_ne _ deposit.latestPath_ne_blobPath _
  cases phase with
  | start => rfl
  | blob => exact hstored
  | reference =>
      exact (Store.put_entries_of_ne _ deposit.latestPath_ne_referencePath _).trans hstored
  | pointer => exact absurd rfl hphase

theorem reach_reference_entries (bucket : Bucket) {phase : PutPhase}
    (hphase : phase = .start ∨ phase = .blob) :
    (deposit.reach provider bucket phase).entries deposit.referencePath =
      bucket.entries deposit.referencePath := by
  rcases hphase with rfl | rfl
  · rfl
  · exact Store.put_entries_of_ne _ deposit.referencePath_ne_blobPath _

theorem pointerStored_points (bucket : Bucket) :
    deposit.adapter.layout.Points (deposit.pointerStored provider bucket) deposit.resource
      deposit.object deposit.hash :=
  ⟨_, Store.put_current_self _ _ _, rfl⟩

variable {deposit provider}

theorem published_envelopeOf (hsettles : ∃ latest, deposit.adapter.Settles deposit.request bucket
      deposit.intent deposit.content deposit.chunks latest)
    (hobject : ObjectCommon.encodeUtf8 deposit.request.input.objectId ∈ hashed) :
    deposit.adapter.layout.EnvelopeOf hashed bucket.versioned deposit.object deposit.hash
      (deposit.published provider bucket) := by
  obtain ⟨latest, hsettles⟩ := hsettles
  obtain ⟨profile, -, hintent⟩ := hsettles.intends
  apply S3ObjectAdapter.newEnvelope_envelopeOf hobject
    (S3ObjectAdapter.intentFrom_retention hintent)
  simp only [Provider.reportedVersion]
  split <;> simp_all

-- From its second write on, what a put publishes is recorded.
theorem Finds.reach_recorded (hfinds : deposit.Finds bucket) {phase : PutPhase}
    (hphase : phase = .reference ∨ phase = .pointer) :
    deposit.adapter.layout.Recorded (deposit.reach provider bucket phase) deposit.resource
      deposit.object deposit.hash (deposit.published provider bucket) := by
  obtain ⟨latest, hsettles, -⟩ := hfinds.settles
  have henvelope : deposit.adapter.layout.EnvelopeOf Set.univ bucket.versioned deposit.object
      deposit.hash (deposit.published provider bucket) :=
    published_envelopeOf ⟨latest, hsettles⟩ (Set.mem_univ _)
  refine ⟨henvelope.canonical, deposit.adapter.transport.jsonObject
    ((deposit.published provider bucket).toDict deposit.adapter.common) deposit.arguments, ?_, rfl⟩
  have hstored : (deposit.referenceStored provider bucket).current deposit.referencePath =
      some (deposit.adapter.transport.jsonObject
        ((deposit.published provider bucket).toDict deposit.adapter.common) deposit.arguments) :=
    Store.put_current_self _ _ _
  rcases hphase with rfl | rfl
  · exact hstored
  · exact (Store.current_congr (deposit.adapter.written_entries_of_ne _
      deposit.latestPath_ne_referencePath.symm _)).trans hstored

-- What a put finds is determined by the bucket.
theorem Finds.unique {other : Deposit} (h : deposit.Finds bucket) (hother : other.Finds bucket)
    (hadapter : other.adapter = deposit.adapter) (hrequest : other.request = deposit.request) :
    other = deposit := by
  rcases deposit with ⟨adapter, request, intent, content, chunks, arguments⟩
  rcases other with ⟨_, _, intent', content', chunks', arguments'⟩
  simp only at hadapter hrequest
  subst hadapter hrequest
  obtain ⟨latest, hsettles, -⟩ := h.settles
  obtain ⟨latest', hsettles', -⟩ := hother.settles
  obtain ⟨hintent, hcontent, hchunks⟩ := hsettles.unique hsettles' rfl
  simp only at hintent hcontent hchunks
  subst hintent hcontent hchunks
  have harguments := h.arguments.symm.trans hother.arguments
  rw [Except.ok.injEq] at harguments
  simp only at harguments
  subst harguments
  rfl

end Deposit

-- A put that returns what is stored has nothing to write.
theorem S3ObjectAdapter.Returns.not_finds {request : PutRequest} {metadata : ObjectMetadata}
    (h : adapter.Returns request bucket metadata) (hadapter : deposit.adapter = adapter)
    (hrequest : deposit.request = request) : ¬deposit.Finds bucket := by
  subst hadapter hrequest
  intro hfinds
  obtain ⟨intent, content, chunks, latest, hsettles, hreturn⟩ := h
  obtain ⟨latest', hsettles', hnone⟩ := hfinds.settles
  obtain ⟨rfl, rfl, rfl⟩ := hsettles'.unique hsettles rfl
  obtain rfl := hsettles'.seen_unique hsettles
  have hsame : deposit.hash.digest = deposit.adapter.common.digest deposit.content := rfl
  rw [hsame, hreturn] at hnone
  cases hnone

end MeridianS3
