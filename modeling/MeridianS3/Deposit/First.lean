import MeridianS3.Deposit.Runs
import MeridianS3.Removal.Runs
import MeridianS3.Standard.Samples

namespace MeridianS3

open Effect ObjectStore Json

-- A put that carries through in a bucket, and whose documents can be read.
structure Deposit.Lands (deposit : Deposit) (provider : Provider) (hashed : Set Bytes)
    (bucket : Bucket) : Prop where
  free : deposit.adapter.layout.CollisionFree hashed
  hashes : deposit.request.Hashes hashed
  before : deposit.adapter.layout.Tidy hashed provider bucket
  finds : deposit.Finds bucket
  unblocked : ¬deposit.Blocked bucket
  pointer : deposit.adapter.layout.legible (latestValue deposit.hash.digest)
  reference : deposit.adapter.layout.legible
    ((deposit.published provider bucket).toDict deposit.adapter.common)

-- The put of the first version of an object.
structure Deposit.First (deposit : Deposit) (provider : Provider) (hashed : Set Bytes)
    (bucket : Bucket) : Prop extends deposit.Lands provider hashed bucket where
  fresh : ∀ content, bucket.entries (deposit.adapter.layout.path
    (.reference deposit.resource deposit.object content)) = []
  unpointed : bucket.entries deposit.latestPath = []
  undeleted : bucket.current (deposit.adapter.layout.path
    (.deletion deposit.resource deposit.object deposit.hash)) = none

-- A delete of the version that a put has stored.
structure Deposit.Deleted (deposit : Deposit) (request : DeleteRequest)
    (reference : ObjectReference) : Prop where
  resource : request.resource = deposit.request.resource
  names : deposit.adapter.Names request reference deposit.hash
  object : reference.objectId = deposit.request.input.objectId

namespace Deposit

variable {deposit : Deposit} {provider : Provider} {hashed : Set Bytes}
variable {bucket : Bucket} {request : DeleteRequest} {reference : ObjectReference}

-- The steps that a run without failures is made of.
def step (deposit : Deposit) : Step := ⟨deposit.adapter, .put deposit.request, []⟩

def deletion (deposit : Deposit) (request : DeleteRequest) : Step :=
  ⟨deposit.adapter, .delete request, []⟩

theorem run_step (deposit : Deposit) (bucket : Bucket) :
    (deposit.step.run provider bucket).2 =
      ((deposit.adapter.put deposit.request).run provider.handle bucket).2 := by
  simp only [Step.run, step, S3ObjectAdapter.execute]
  rw [runFaulty_map, runFaulty_nil]

theorem run_delete (adapter : S3ObjectAdapter) (request : DeleteRequest) (plan : Plan Failure)
    (bucket : Bucket) : ((⟨adapter, .delete request, plan⟩ : Step).run provider bucket).2 =
      ((adapter.delete request).runFaulty provider.handle plan bucket).2 := by
  simp only [Step.run, S3ObjectAdapter.execute]
  rw [runFaulty_map]

theorem run_deletion (deposit : Deposit) (request : DeleteRequest) (bucket : Bucket) :
    ((deposit.deletion request).run provider bucket).2 =
      ((deposit.adapter.delete request).run provider.handle bucket).2 := by
  unfold deletion
  rw [run_delete, runFaulty_nil]

theorem step_joins (hhashes : deposit.request.Hashes hashed) :
    deposit.step.Joins deposit.adapter.layout hashed := by
  refine ⟨rfl, ?_⟩
  intro request hrequest
  cases hrequest
  exact hhashes

theorem deletion_joins : (deposit.deletion request).Joins deposit.adapter.layout hashed :=
  ⟨rfl, fun _ hrequest => nomatch hrequest⟩

theorem not_blocked_empty {versioned : Bool} : ¬deposit.Blocked (Store.empty versioned) := by
  rintro (⟨-, h⟩ | h | ⟨-, h⟩) <;> cases h

-- A put finds the same where the profile and the latest version are the same.
theorem Finds.elsewhere {after : Bucket} (h : deposit.Finds bucket)
    (hprofile : after.entries (deposit.adapter.layout.resourceKey deposit.request.resource) =
      bucket.entries (deposit.adapter.layout.resourceKey deposit.request.resource))
    (hlatest : missingAsNone (deposit.adapter.latestEnvelope after deposit.request.resource
        deposit.request.input.objectId) =
      missingAsNone (deposit.adapter.latestEnvelope bucket deposit.request.resource
        deposit.request.input.objectId)) : deposit.Finds after := by
  obtain ⟨latest, hsettles, hcheck⟩ := h.settles
  obtain ⟨profile, hfound, hintent⟩ := hsettles.intends
  have hsame := (S3ObjectAdapter.profileAt_congr hprofile).trans hfound
  exact ⟨⟨latest, ⟨⟨profile, hsame, hintent⟩, hsettles.transfer, hsettles.size,
    hlatest.trans hsettles.seen, hsettles.creates⟩, hcheck⟩, h.arguments, h.fits⟩

-- The bucket that the put leaves.
def stored (deposit : Deposit) (provider : Provider) (bucket : Bucket) : Bucket :=
  (deposit.step.run provider bucket).2

theorem stored_eq (deposit : Deposit) (provider : Provider) (bucket : Bucket) :
    deposit.stored provider bucket = runSteps provider bucket [deposit.step] := rfl

theorem Finds.run_put (provider : Provider) (hfinds : deposit.Finds bucket)
    (hfree : ¬deposit.Blocked bucket) :
    (deposit.adapter.put deposit.request).run provider.handle bucket =
      (.ok deposit.metadata, deposit.stored provider bucket) := by
  rw [← (hfinds.commits hfree).1, stored, run_step]

theorem Finds.stored_same (provider : Provider) (hfinds : deposit.Finds bucket)
    (hfree : ¬deposit.Blocked bucket) :
    SameObjects (deposit.pointerStored provider bucket) (deposit.stored provider bucket) := by
  unfold stored
  rw [run_step]
  exact (hfinds.commits hfree).2

theorem Finds.stored_recorded (provider : Provider) (hfinds : deposit.Finds bucket)
    (hfree : ¬deposit.Blocked bucket) :
    deposit.adapter.layout.Recorded (deposit.stored provider bucket) deposit.resource
      deposit.object deposit.hash (deposit.published provider bucket) :=
  S3Layout.recorded_congr (by rw [(hfinds.stored_same provider hfree).entries]; rfl)
    (hfinds.reach_recorded (Or.inr rfl))

theorem Finds.stored_points (provider : Provider) (hfinds : deposit.Finds bucket)
    (hfree : ¬deposit.Blocked bucket) :
    deposit.adapter.layout.Points (deposit.stored provider bucket) deposit.resource
      deposit.object deposit.hash :=
  S3Layout.points_congr (by rw [(hfinds.stored_same provider hfree).entries])
    (deposit.pointerStored_points _ _)

theorem Finds.stored_entries (provider : Provider) (hfinds : deposit.Finds bucket)
    (hfree : ¬deposit.Blocked bucket) {key : String} (hblob : key ≠ deposit.blobPath)
    (hreference : key ≠ deposit.referencePath) (hlatest : key ≠ deposit.latestPath) :
    (deposit.stored provider bucket).entries key = bucket.entries key := by
  rw [(hfinds.stored_same provider hfree).entries]
  exact deposit.reach_entries provider bucket .pointer hblob hreference hlatest

theorem Finds.stored_profile (provider : Provider) (hfinds : deposit.Finds bucket)
    (hfree : ¬deposit.Blocked bucket) :
    deposit.adapter.profileAt (deposit.stored provider bucket) deposit.request.resource =
      deposit.adapter.profileAt bucket deposit.request.resource :=
  (S3ObjectAdapter.profileAt_congr (by rw [(hfinds.stored_same provider hfree).entries, reach])).trans
    (deposit.reach_profile provider bucket .pointer)

theorem Finds.stored_versioned (provider : Provider) (hfinds : deposit.Finds bucket)
    (hfree : ¬deposit.Blocked bucket) :
    (deposit.stored provider bucket).versioned = bucket.versioned :=
  (hfinds.stored_same provider hfree).versioned.trans
    (deposit.reach_versioned provider bucket .pointer)

-- A put issues three versions.
theorem Finds.stored_issued (provider : Provider) (hfinds : deposit.Finds bucket)
    (hfree : ¬deposit.Blocked bucket) :
    (deposit.stored provider bucket).issued = bucket.issued + 3 := by
  rw [(hfinds.stored_same provider hfree).issued]
  simp only [pointerStored, S3ObjectAdapter.written, referenceStored, blobStored, Store.put_issued]

-- The version that a put has stored is the latest one.
theorem Finds.stored_latest (provider : Provider) (hfinds : deposit.Finds bucket)
    (hfree : ¬deposit.Blocked bucket)
    (hpointer : deposit.adapter.layout.legible (latestValue deposit.hash.digest))
    (hreference : deposit.adapter.layout.legible
      ((deposit.published provider bucket).toDict deposit.adapter.common)) :
    deposit.adapter.latestEnvelope (deposit.stored provider bucket) deposit.request.resource
      deposit.request.input.objectId = .ok (deposit.published provider bucket) :=
  S3ObjectAdapter.latestEnvelope_recorded hpointer hreference (hfinds.stored_points provider hfree)
    (hfinds.stored_recorded provider hfree) rfl rfl

-- The delete of the only version of an object, with what it finds.
def removed (deposit : Deposit) (provider : Provider) (bucket : Bucket) (request : DeleteRequest)
    (reference : ObjectReference) : Removal where
  adapter := deposit.adapter
  request := request
  reference := reference
  content := deposit.hash
  envelope := deposit.published provider bucket
  version := provider.reportedVersion bucket bucket.issued
  entry := bucket.issued + 1
  latest := some (deposit.published provider bucket)
  previous := none

theorem removed_moves (deposit : Deposit) (request : DeleteRequest)
    (reference : ObjectReference) :
    (deposit.removed provider bucket request reference).moves = true := decide_eq_true rfl

namespace Lands

theorem same (h : deposit.Lands provider hashed bucket) :
    SameObjects (deposit.pointerStored provider bucket) (deposit.stored provider bucket) :=
  h.finds.stored_same provider h.unblocked

theorem versioned (h : deposit.Lands provider hashed bucket) :
    (deposit.stored provider bucket).versioned = bucket.versioned := h.same.versioned

theorem tidy (h : deposit.Lands provider hashed bucket) :
    deposit.adapter.layout.Tidy hashed provider (deposit.stored provider bucket) := by
  unfold stored
  rw [run_step]
  exact h.finds.tidy h.before h.hashes h.unblocked h.pointer h.reference

theorem recorded (h : deposit.Lands provider hashed bucket) :
    deposit.adapter.layout.Recorded (deposit.stored provider bucket) deposit.resource
      deposit.object deposit.hash (deposit.published provider bucket) :=
  h.finds.stored_recorded provider h.unblocked

theorem points (h : deposit.Lands provider hashed bucket) :
    deposit.adapter.layout.Points (deposit.stored provider bucket) deposit.resource
      deposit.object deposit.hash :=
  h.finds.stored_points provider h.unblocked

-- The keys that the put has not written are as they were.
theorem entries (h : deposit.Lands provider hashed bucket) {key : String}
    (hblob : key ≠ deposit.blobPath) (hreference : key ≠ deposit.referencePath)
    (hlatest : key ≠ deposit.latestPath) :
    (deposit.stored provider bucket).entries key = bucket.entries key :=
  h.finds.stored_entries provider h.unblocked hblob hreference hlatest

theorem registered (h : deposit.Lands provider hashed bucket) (resource : HexDigest) :
    (deposit.stored provider bucket).entries (deposit.adapter.layout.path (.registered resource)) =
      bucket.entries (deposit.adapter.layout.path (.registered resource)) := by
  apply h.entries
  · simp [blobPath]
  · simp [referencePath]
  · simp [latestPath]

theorem latest (h : deposit.Lands provider hashed bucket) :
    deposit.adapter.latestEnvelope (deposit.stored provider bucket) deposit.request.resource
      deposit.request.input.objectId = .ok (deposit.published provider bucket) :=
  h.finds.stored_latest provider h.unblocked h.pointer h.reference

end Lands

namespace First

theorem only (h : deposit.First provider hashed bucket) (content : HexDigest)
    (hstored : (deposit.stored provider bucket).entries (deposit.adapter.layout.path
      (.reference deposit.resource deposit.object content)) ≠ []) : content = deposit.hash := by
  by_contra hne
  refine hstored ((h.entries ?_ ?_ ?_).trans (h.fresh content))
  · simp [blobPath]
  · simpa [referencePath] using hne
  · simp [latestPath]

theorem unrecorded (h : deposit.First provider hashed bucket) :
    (deposit.stored provider bucket).current (deposit.adapter.layout.path
      (.deletion deposit.resource deposit.object deposit.hash)) = none := by
  rw [Store.current_congr (h.entries (by simp [blobPath]) (by simp [referencePath])
    (by simp [latestPath]))]
  exact h.undeleted

theorem reference_entries (h : deposit.First provider hashed bucket) :
    (deposit.stored provider bucket).entries deposit.referencePath =
      [⟨bucket.issued + 1, some (deposit.adapter.transport.jsonObject
        ((deposit.published provider bucket).toDict deposit.adapter.common)
        deposit.arguments)⟩] := by
  have hblob : (deposit.blobStored bucket).entries deposit.referencePath = [] :=
    (Store.put_entries_of_ne _ deposit.referencePath_ne_blobPath _).trans (h.fresh deposit.hash)
  have hreference : (deposit.referenceStored provider bucket).entries deposit.referencePath =
      [⟨bucket.issued + 1, some (deposit.adapter.transport.jsonObject
        ((deposit.published provider bucket).toDict deposit.adapter.common)
        deposit.arguments)⟩] := by
    simp only [referenceStored, Store.put_entries_self, hblob, ite_self]
    rfl
  rw [h.same.entries]
  exact (deposit.adapter.written_entries_of_ne _ deposit.latestPath_ne_referencePath.symm _).trans
    hreference

-- Its delete finds it, as the latest version and the only one.
theorem removal (h : deposit.First provider hashed bucket)
    (hdelete : deposit.Deleted request reference)
    (hallowed : deposit.adapter.requireDeleteAllowed
      (deposit.published provider bucket) request.checkedAt = .ok ()) :
    (deposit.removed provider bucket request reference).Finds unfailing
      (deposit.stored provider bucket) where
  reference := hdelete.names.1
  digest := hdelete.names.2
  envelope := by
    change deposit.adapter.envelopeAt _ request.resource reference.objectId deposit.hash.digest = _
    rw [hdelete.resource, hdelete.object]
    exact S3ObjectAdapter.Legible.envelopeAt h.tidy.legible h.tidy.sound h.free h.hashes.objectId
      h.recorded
  allowed := hallowed
  version := rfl
  entry := by
    have hpath : (deposit.removed provider bucket request reference).referencePath =
        deposit.referencePath := by
      simp only [Removal.referencePath, Removal.resource, Removal.object, removed, referencePath,
        resource, object, hdelete.resource, hdelete.object]
    rw [hpath, h.reference_entries]
    exact ⟨_, rfl⟩
  latest := by
    have hlatest : deposit.adapter.latestEnvelope (deposit.stored provider bucket)
        request.resource reference.objectId =
          .ok (deposit.published provider bucket) := by
      rw [hdelete.resource, hdelete.object]
      exact h.latest
    refine ⟨?_, fun _ => ?_⟩
    · rintro envelope henvelope
      cases henvelope
      exact hlatest
    · change missingAsNone (deposit.adapter.latestEnvelope _ request.resource
        reference.objectId) = _
      rw [hlatest]
      rfl
  previous := by
    change deposit.adapter.newestIn _ request.resource reference.objectId
      (some deposit.hash.digest) = .ok none
    rw [hdelete.resource, hdelete.object]
    apply S3ObjectAdapter.Legible.newestIn_none h.tidy.legible h.tidy.sound
    intro content hstored
    rw [h.only content hstored]

theorem removed_paths (provider : Provider) (bucket : Bucket)
    (hdelete : deposit.Deleted request reference) :
    (deposit.removed provider bucket request reference).blobPath = deposit.blobPath ∧
      (deposit.removed provider bucket request reference).referencePath = deposit.referencePath ∧
      (deposit.removed provider bucket request reference).latestPath = deposit.latestPath := by
  simp only [Removal.blobPath, Removal.referencePath, Removal.latestPath, Removal.resource,
    Removal.object, removed, blobPath, referencePath, latestPath, resource, object,
    hdelete.resource, hdelete.object, and_self]

-- That delete, cut off at the deletion of the blob.
theorem deletion_struck (h : deposit.First provider hashed bucket)
    (hdelete : deposit.Deleted request reference)
    (hallowed : deposit.adapter.requireDeleteAllowed
      (deposit.published provider bucket) request.checkedAt = .ok ())
    (fault : Fault Failure) :
    ∃ plan, (deposit.adapter.delete request).struck provider.handle plan
      (deposit.stored provider bucket) =
        [(.deleteObject (deposit.removed provider bucket request reference).blobPath
          (deposit.removed provider bucket request reference).version, fault)] :=
  Program.exists_struck (h.removal hdelete hallowed).calls_blob fault

theorem deletion_cut (h : deposit.First provider hashed bucket)
    (hunversioned : bucket.versioned = false)
    (hdelete : deposit.Deleted request reference)
    (hallowed : deposit.adapter.requireDeleteAllowed
      (deposit.published provider bucket) request.checkedAt = .ok ())
    {fault : Fault Failure} (houtage : fault.error.Outage) (heffect : fault.effect = true) :
    ∃ plan, ((deposit.adapter.delete request).runFaulty provider.handle plan
        (deposit.stored provider bucket)).2.entries deposit.blobPath = [] ∧
      ∀ key, key ≠ deposit.blobPath → ((deposit.adapter.delete request).runFaulty provider.handle
        plan (deposit.stored provider bucket)).2.entries key =
          (deposit.stored provider bucket).entries key := by
  have hfinds := h.removal hdelete hallowed
  have hversioned : (deposit.stored provider bucket).versioned = false :=
    h.versioned.trans hunversioned
  have hsound : (deposit.removed provider bucket request reference).adapter.layout.Sound hashed
      (deposit.stored provider bucket) := h.tidy.sound
  obtain ⟨plan, hstruck⟩ := h.deletion_struck hdelete hallowed fault
  have hcut := hfinds.cut_off hsound (hfinds.accepted hsound hversioned) houtage hstruck
  have hphase : (deposit.removed provider bucket request reference).phaseAt fault.effect
      (.deleteObject (deposit.removed provider bucket request reference).blobPath
        (deposit.removed provider bucket request reference).version) = .blob := by
    simp [Removal.phaseAt, heffect]
  rw [hphase] at hcut
  have hpath := (removed_paths provider bucket hdelete).1
  refine ⟨plan, ?_, fun key hkey => ?_⟩
  · rw [← hpath]
    exact (congrFun hcut.entries _).trans (Removal.blobGone_blob _ hversioned
      (by simp [removed, Provider.reportedVersion, hunversioned]))
  · rw [← hpath] at hkey
    exact (congrFun hcut.entries _).trans (Removal.blobGone_entries _ provider _ hkey)

end First

end Deposit

namespace Standard

variable {bucket after : Bucket}

-- The profile of a Resource that has not been registered.
theorem profileAt_default
    (hnone : bucket.current (adapter.layout.resourceKey resource) = none) :
    adapter.profileAt bucket resource = .ok (profile .immutable) := by
  unfold S3ObjectAdapter.profileAt
  rw [S3Transport.document_missing hnone]
  rfl

section Puts

variable {createOnly : Bool} {immutability : Value} {mutability stored : Mutability}
variable {content : String} {time : Timestamp} {latest : Option StoredEnvelope}

theorem deposit_settles (hprofile : adapter.profileAt bucket resource = .ok (profile stored))
    (hmutability : effectiveImmutability (profile stored) immutability = .ok mutability)
    (hsize : (ObjectCommon.encodeUtf8 content).length ≤ config.maxObjectBytes)
    (hlatest : missingAsNone (adapter.latestEnvelope bucket resource "channel") = .ok latest)
    (hcreates : ¬(latest.isSome ∧ createOnly)) :
    adapter.Settles (putRequest createOnly immutability content time) bucket (intent mutability)
      (ObjectCommon.encodeUtf8 content)
      ((adapter.spooled [ObjectCommon.encodeUtf8 content]).finish common) latest where
  intends := by
    refine ⟨profile stored, hprofile, ?_⟩
    unfold S3ObjectAdapter.intentFrom
    rw [show adapter.common.effectiveImmutability (profile stored)
      (putRequest createOnly immutability content time).input.immutability = _ from hmutability]
    rfl
  transfer := by
    refine ⟨[ObjectCommon.encodeUtf8 content], rfl, ?_, rfl⟩
    unfold S3ObjectAdapter.spooled
    rw [IntegritySpool.writeAll_stream]
    simp [IntegritySpool.new]
  size := hsize
  seen := hlatest
  creates := hcreates

theorem deposit_finds (hprofile : adapter.profileAt bucket resource = .ok (profile stored))
    (hmutability : effectiveImmutability (profile stored) immutability = .ok mutability)
    (hsize : (ObjectCommon.encodeUtf8 content).length < config.multipartThresholdBytes)
    (hlatest : missingAsNone (adapter.latestEnvelope bucket resource "channel") = .ok latest)
    (hcreates : ¬(latest.isSome ∧ createOnly))
    (hcheck : S3ObjectAdapter.checkExisting (putRequest createOnly immutability content time)
      (intent mutability) (common.digest (ObjectCommon.encodeUtf8 content)) latest = .ok none) :
    (deposit createOnly immutability mutability content time).Finds bucket where
  settles := ⟨latest, deposit_settles hprofile hmutability (by
    have hlimit : config.multipartThresholdBytes ≤ config.maxObjectBytes := by decide
    omega) hlatest hcreates, hcheck⟩
  arguments := rfl
  fits := fun hmultipart => absurd (of_decide_eq_true hmultipart) (Nat.not_le.mpr hsize)

-- The first put of an object finds everything as it should be.
theorem deposit_finds_new (hprofile : adapter.profileAt bucket resource = .ok (profile stored))
    (hmutability : effectiveImmutability (profile stored) immutability = .ok mutability)
    (hsize : (ObjectCommon.encodeUtf8 content).length < config.multipartThresholdBytes)
    (hnone : bucket.current (adapter.layout.latestKey resource "channel") = none) :
    (deposit createOnly immutability mutability content time).Finds bucket :=
  deposit_finds hprofile hmutability hsize (S3ObjectAdapter.latestEnvelope_missing hnone)
    (by simp) rfl

end Puts

section Steps

variable {createOnly : Bool} {immutability : Value} {mutability : Mutability}
variable {content : String} {time : Timestamp} {bytes : HexDigest}

theorem putRequest_hashes (hcontent : ObjectCommon.encodeUtf8 content ∈ hashed) :
    (putRequest createOnly immutability content time).Hashes hashed := by
  refine ⟨objectId_hashed, ?_⟩
  intro payload writes hwrites
  cases hwrites
  simpa using hcontent

end Steps

theorem deleted (createOnly : Bool) (immutability : Value) (mutability : Mutability)
    (content : String) (time deletedAt : Timestamp) :
    (deposit createOnly immutability mutability content time).Deleted
      (deleteRequest (hexdigest (ObjectCommon.encodeUtf8 content)) deletedAt)
      (objectReference (hexdigest (ObjectCommon.encodeUtf8 content))) :=
  ⟨rfl, ⟨rfl, rfl⟩, rfl⟩

-- The sample object with its first version, in a bucket without versions.
def one : Deposit := deposit false .null .immutable "version-one" 1

theorem one_first : one.First provider hashed (Store.empty false) where
  free := collisionFree
  hashes := putRequest_hashes (by simp [hashed, KNOWN_DIGESTS])
  before := .empty _ _ _ _
  unblocked := Deposit.not_blocked_empty
  fresh _ := rfl
  unpointed := rfl
  undeleted := rfl
  finds := deposit_finds_new (profileAt_default rfl) rfl (by decide) rfl
  pointer := pointer_legible _
  reference := deposit_legible _ _ _ _ _ (by decide) (by decide)

theorem one_joins : ∀ step ∈ [one.step], step.Joins adapter.layout hashed := by
  intro step hstep
  rw [List.mem_singleton] at hstep
  subst hstep
  exact Deposit.step_joins one_first.hashes

theorem one_single : one.multipart = false := by
  unfold Deposit.multipart
  decide

-- The delete of that version.
def oneRemoval : Removal :=
  one.removed provider (Store.empty false) (deleteRequest one.hash 2) (objectReference one.hash)

theorem oneRemoval_finds : oneRemoval.Finds unfailing (one.stored provider (Store.empty false)) :=
  one_first.removal (deleted false .null .immutable "version-one" 1 2) rfl

-- A version that is kept for ever.
def legalHold : Value :=
  .obj [("policy", .str "legal-hold"), ("requireEnforcement", .bool false), ("retainUntil", .null)]

def holdRecord : RetentionRecord := ⟨.null, .str "legal-hold", .bool false, .bool false, .null⟩

def held : Deposit :=
  { one with
    request := { one.request with input := { one.request.input with retention := legalHold } }
    intent := { one.intent with retention := some holdRecord } }

theorem held_finds : held.Finds (Store.empty false) where
  settles := by
    obtain ⟨latest, hsettles, -⟩ := one_first.finds.settles
    exact ⟨none, ⟨⟨profile .immutable, profileAt_default rfl, rfl⟩, hsettles.transfer,
      hsettles.size, S3ObjectAdapter.latestEnvelope_missing rfl, by simp⟩, rfl⟩
  arguments := rfl
  fits := one_first.finds.fits

theorem held_hashes : held.request.Hashes hashed :=
  ⟨one_first.hashes.objectId, one_first.hashes.2⟩

-- A connection that times out after the request has been carried out.
def lostReply : Fault Failure := ⟨⟨.sdk .readTimeout, none⟩, true⟩

theorem lostReply_outage : lostReply.error.Outage := fun _ _ => ⟨rfl, rfl⟩

-- One that cannot be made.
def lostCall : Fault Failure := ⟨⟨.sdk .endpointConnection, none⟩, false⟩

theorem lostCall_outage : lostCall.error.Outage := fun _ _ => ⟨rfl, rfl⟩

end Standard

end MeridianS3
