import MeridianS3.Deposit.Versions

namespace MeridianS3

open Effect ObjectStore Json

-- The same put at other readings of the clock.
def PutRequest.retimed (request : PutRequest) (createdAt observedAt : Timestamp) : PutRequest :=
  { request with createdAt := createdAt, observedAt := observedAt }

-- A put that runs without failures returns metadata of this digest, and the stable
-- reference resolves to what it has returned.
def S3ObjectAdapter.Resolves (adapter : S3ObjectAdapter) (provider : Provider)
    (request : PutRequest) (digest : String) (bucket : Bucket) : Prop :=
  ∃ envelope, ((adapter.put request).run provider.handle bucket).1 = .ok envelope.metadata ∧
    envelope.metadata.digest = digest ∧
    ((adapter.readEnvelope request.resource request.input.objectId none).run provider.handle
      ((adapter.put request).run provider.handle bucket).2).1 = .ok envelope

namespace Deposit

variable (deposit : Deposit) (provider : Provider)

def retimed (createdAt observedAt : Timestamp) : Deposit :=
  { deposit with request := deposit.request.retimed createdAt observedAt }

-- The documents that the put stores can be read back.
def Readable (bucket : Bucket) : Prop :=
  deposit.adapter.layout.legible (latestValue deposit.hash.digest) ∧
    deposit.adapter.layout.legible
      ((deposit.published provider bucket).toDict deposit.adapter.common)

-- A put that was cut off after having come so far can be repeated, in the bucket that
-- it has left: the writes that are left to it can still be made, or none is left.
def Resumable (bucket after : Bucket) (createdAt observedAt : Timestamp) : PutPhase → Prop
  | .start => (deposit.retimed createdAt observedAt).Readable provider after
  | .blob => deposit.multipart = true ∧
      (deposit.retimed createdAt observedAt).Readable provider after
  | .reference => deposit.adapter.layout.Points bucket deposit.resource deposit.object
      deposit.hash ∧ deposit.Readable provider bucket
  | .pointer => deposit.Readable provider bucket

end Deposit

variable {provider : Provider} {adapter : S3ObjectAdapter} {hashed : Set Bytes}
variable {bucket after : Bucket} {deposit : Deposit} {request : PutRequest}
variable {createdAt observedAt : Timestamp}

namespace S3ObjectAdapter

-- Neither the clock nor another bucket in which the put reads the same makes a difference
-- to what it settles.
theorem Settles.again {intent : PutIntent} {content : Bytes} {chunks : List String}
    {latest found : Option StoredEnvelope}
    (h : adapter.Settles request bucket intent content chunks latest)
    (hagain : request.input.createOnly = false)
    (hprofile : adapter.profileAt after request.resource =
      adapter.profileAt bucket request.resource)
    (hseen : missingAsNone (adapter.latestEnvelope after request.resource
      request.input.objectId) = .ok found) :
    adapter.Settles (request.retimed createdAt observedAt) after intent content chunks found where
  intends := by
    obtain ⟨profile, hfound, hintent⟩ := h.intends
    exact ⟨profile, hprofile.trans hfound, hintent⟩
  transfer := h.transfer
  size := h.size
  seen := hseen
  creates := fun hcreates => absurd hcreates.2 (by simp [PutRequest.retimed, hagain])

theorem Returns.again {metadata : ObjectMetadata} (h : adapter.Returns request bucket metadata)
    (hagain : request.input.createOnly = false) (hsame : SameObjects bucket after) :
    adapter.Returns (request.retimed createdAt observedAt) after metadata := by
  obtain ⟨intent, content, chunks, latest, hsettles, hreturn⟩ := h
  refine ⟨intent, content, chunks, latest, hsettles.again hagain ?_ ?_, hreturn⟩
  · exact profileAt_congr (by rw [hsame.entries])
  · rw [latestEnvelope_same hsame]
    exact hsettles.seen

-- What a put returns without writing is returned by every put that finds it so.
theorem Returns.resolves {metadata : ObjectMetadata}
    (h : adapter.Returns request bucket metadata) :
    adapter.Resolves provider request metadata.digest bucket := by
  obtain ⟨envelope, hlatest, rfl⟩ := h.latest
  obtain ⟨hresult, hsame⟩ := h.run provider
  refine ⟨envelope, hresult, rfl, ?_⟩
  rw [run_readLatest, latestEnvelope_same hsame, hlatest]

end S3ObjectAdapter

-- A put leaves a sound bucket, whatever strikes it.
theorem put_sound (hsound : adapter.layout.Sound Set.univ bucket) (request : PutRequest) :
    adapter.layout.Sound Set.univ ((adapter.put request).run provider.handle bucket).2 := by
  have halone := put_alone provider hsound request.hashes_univ []
  rw [runFaulty_nil] at halone
  exact halone.1

namespace Deposit

-- A latest version that a put has stored reads back if its documents do.
theorem readable_iff (hsound : deposit.adapter.layout.Sound Set.univ after)
    (hpoints : deposit.adapter.layout.Points after deposit.resource deposit.object deposit.hash)
    (hrecorded : deposit.adapter.layout.Recorded after deposit.resource deposit.object deposit.hash
      (deposit.published provider bucket)) :
    deposit.Readable provider bucket ↔ deposit.adapter.latestEnvelope after
      deposit.request.resource deposit.request.input.objectId =
        .ok (deposit.published provider bucket) := by
  constructor
  · rintro ⟨hpointer, hdocument⟩
    exact S3ObjectAdapter.latestEnvelope_recorded hpointer hdocument hpoints hrecorded rfl rfl
  · intro h
    exact S3ObjectAdapter.latestEnvelope_legible hsound hpoints h

-- A put that finds what it needs succeeds where nothing is in its way.
theorem Finds.resolves_iff (hsound : deposit.adapter.layout.Sound Set.univ bucket)
    (hfinds : deposit.Finds bucket) :
    deposit.adapter.Resolves provider deposit.request deposit.hash.digest bucket ↔
      ¬deposit.Blocked bucket ∧ deposit.Readable provider bucket := by
  have hends : PutEnds provider deposit.adapter deposit.request unfailing bucket
      ((deposit.adapter.put deposit.request).run provider.handle bucket).1
      ((deposit.adapter.put deposit.request).run provider.handle bucket).2 :=
    put_unfailing deposit.request
  have hafter : deposit.adapter.layout.Sound Set.univ
      ((deposit.adapter.put deposit.request).run provider.handle bucket).2 :=
    put_sound hsound deposit.request
  unfold S3ObjectAdapter.Resolves
  generalize (deposit.adapter.put deposit.request).run provider.handle bucket = run
    at hends hafter ⊢
  rcases run with ⟨result, final⟩
  cases hends with
  | refused failure _ hsame hcause =>
      rcases hcause with ⟨_, _, hfault, -⟩ | ⟨-, hnone⟩
      · exact hfault.elim
      · exact absurd hfinds (hnone deposit rfl rfl)
  | returned metadata _ hsame hreturns => exact absurd hfinds (hreturns.not_finds rfl rfl)
  | blocked other _ failure _ hadapter hrequest hother hblocked =>
      obtain rfl := hfinds.unique hother hadapter hrequest
      constructor
      · rintro ⟨envelope, hresult, -⟩
        cases hresult
      · rintro ⟨hfree, -⟩
        exact absurd hblocked hfree
  | cut _ _ _ _ _ _ _ _ _ hfault => exact hfault.elim
  | committed other _ hadapter hrequest hother hfree hsame =>
      obtain rfl := hfinds.unique hother hadapter hrequest
      have hpoints : other.adapter.layout.Points final other.resource other.object other.hash :=
        S3Layout.points_congr (congrFun hsame.entries _) (other.pointerStored_points provider bucket)
      have hrecorded : other.adapter.layout.Recorded final other.resource other.object other.hash
          (other.published provider bucket) :=
        S3Layout.recorded_congr (congrFun hsame.entries _) (hother.reach_recorded (Or.inr rfl))
      rw [readable_iff hafter hpoints hrecorded]
      constructor
      · rintro ⟨envelope, -, -, hread⟩
        rw [S3ObjectAdapter.run_readLatest] at hread
        obtain ⟨content, hcontent, henvelope, -, -⟩ :=
          S3ObjectAdapter.latestEnvelope_ok hafter hread
        obtain rfl := S3Layout.points_unique hpoints hcontent
        obtain rfl := S3Layout.recorded_unique hrecorded henvelope
        exact ⟨hfree, hread⟩
      · rintro ⟨-, hread⟩
        refine ⟨other.published provider bucket, rfl, rfl, ?_⟩
        rw [S3ObjectAdapter.run_readLatest, hread]

-- Where the version is recorded already, a put succeeds if it is the latest one.
theorem Finds.recorded_resolves_iff (hfinds : deposit.Finds bucket)
    (hagain : deposit.request.input.createOnly = false) {phase : PutPhase}
    (hphase : phase = .reference ∨ phase = .pointer)
    (hsame : SameObjects (deposit.reach provider bucket phase) after)
    (hsound : deposit.adapter.layout.Sound Set.univ after) :
    deposit.adapter.Resolves provider (deposit.request.retimed createdAt observedAt)
        deposit.hash.digest after ↔
      deposit.adapter.layout.Points after deposit.resource deposit.object deposit.hash ∧
        deposit.Readable provider bucket := by
  have hrecorded : deposit.adapter.layout.Recorded after deposit.resource deposit.object
      deposit.hash (deposit.published provider bucket) :=
    S3Layout.recorded_congr (congrFun hsame.entries _) (hfinds.reach_recorded hphase)
  have hprofile : deposit.adapter.profileAt after deposit.request.resource =
      deposit.adapter.profileAt bucket deposit.request.resource :=
    (S3ObjectAdapter.profileAt_congr (congrFun hsame.entries _)).trans
      (deposit.reach_profile provider bucket phase)
  obtain ⟨latest, hsettles, hnone⟩ := hfinds.settles
  -- What another put settles in the later bucket is what this one has settled.
  have hsettled {intent : PutIntent} {content : Bytes} {chunks : List String}
      {found : Option StoredEnvelope} (h : deposit.adapter.Settles
        (deposit.request.retimed createdAt observedAt) after intent content chunks found) :
      intent = deposit.intent ∧ content = deposit.content ∧ chunks = deposit.chunks := by
    have hother : deposit.adapter.Settles deposit.request after intent content chunks found :=
      h.again hagain rfl h.seen
    exact hsettles.unique hother hprofile
  constructor
  · rintro ⟨envelope, hresult, -, -⟩
    have hends : PutEnds provider deposit.adapter (deposit.request.retimed createdAt observedAt)
        unfailing after
        ((deposit.adapter.put (deposit.request.retimed createdAt observedAt)).run
          provider.handle after).1
        ((deposit.adapter.put (deposit.request.retimed createdAt observedAt)).run
          provider.handle after).2 := put_unfailing _
    generalize (deposit.adapter.put (deposit.request.retimed createdAt observedAt)).run
      provider.handle after = run at hends hresult
    rcases run with ⟨result, final⟩
    cases hends with
    | refused | blocked | cut => cases hresult
    | returned _ _ _ hreturns =>
        obtain ⟨intent, content, chunks, found, hfound, hcheck⟩ := hreturns
        obtain ⟨rfl, rfl, rfl⟩ := hsettled hfound
        cases found with
        | none => simp [S3ObjectAdapter.checkExisting] at hcheck
        | some found =>
        have hdigest := (S3ObjectAdapter.checkExisting_some hcheck).2
        have hlatest : deposit.adapter.latestEnvelope after deposit.request.resource
            deposit.request.input.objectId = .ok found := missingAsNone_some hfound.seen
        obtain ⟨named, hpoints, hnamed, -, hcontent⟩ :=
          S3ObjectAdapter.latestEnvelope_ok hsound hlatest
        have hhash : named = deposit.hash := by
          rw [hcontent] at hdigest
          exact HexDigest.digest_inj.mp hdigest
        subst hhash
        obtain rfl := S3Layout.recorded_unique hrecorded hnamed
        exact ⟨hpoints, (readable_iff hsound hpoints hrecorded).mpr hlatest⟩
    | committed other _ hadapter hrequest hother hfree =>
        obtain ⟨found, hfound, -⟩ := hother.settles
        rw [hadapter, hrequest] at hfound
        obtain ⟨-, hcontent, -⟩ := hsettled hfound
        have hpath : other.referencePath = deposit.referencePath := by
          simp only [referencePath, resource, object, hash, hadapter, hrequest, hcontent,
            PutRequest.retimed]
        obtain ⟨-, stored, hstored, -⟩ := hrecorded
        refine absurd (Or.inr (Or.inl ?_)) hfree
        rw [hpath]
        exact Option.isSome_of_eq_some hstored
  · rintro ⟨hpoints, hreadable⟩
    have hlatest := (readable_iff hsound hpoints hrecorded).mp hreadable
    have hreturns : deposit.adapter.Returns (deposit.request.retimed createdAt observedAt) after
        deposit.metadata := by
      refine ⟨deposit.intent, deposit.content, deposit.chunks,
        some (deposit.published provider bucket), hsettles.again hagain hprofile ?_, ?_⟩
      · rw [hlatest]
        rfl
      · exact deposit.checkExisting_published provider bucket hagain
    exact hreturns.resolves

-- Up to the upload of its blob a put leaves everything that it has read.
theorem Finds.reach_finds (hfinds : deposit.Finds bucket)
    (hagain : deposit.request.input.createOnly = false) {phase : PutPhase}
    (hphase : phase = .start ∨ phase = .blob)
    (hsame : SameObjects (deposit.reach provider bucket phase) after) :
    (deposit.retimed createdAt observedAt).Finds after := by
  have hlatest : deposit.adapter.latestEnvelope after deposit.request.resource
      deposit.request.input.objectId = deposit.adapter.latestEnvelope bucket
        deposit.request.resource deposit.request.input.objectId := by
    have hentries (physical : PhysicalKey) (hblob : deposit.adapter.layout.path physical ≠
        deposit.blobPath) : after.entries (deposit.adapter.layout.path physical) =
          bucket.entries (deposit.adapter.layout.path physical) := by
      rw [hsame.entries]
      rcases hphase with rfl | rfl
      · rfl
      · exact Store.put_entries_of_ne _ hblob _
    apply S3ObjectAdapter.latestEnvelope_congr
    · exact Store.current_congr (hentries _ (by simp [blobPath]))
    · exact fun content => Store.current_congr (hentries _ (by simp [blobPath]))
  have hprofile : deposit.adapter.profileAt after deposit.request.resource =
      deposit.adapter.profileAt bucket deposit.request.resource :=
    (S3ObjectAdapter.profileAt_congr (congrFun hsame.entries _)).trans
      (deposit.reach_profile provider bucket phase)
  obtain ⟨latest, hsettles, hnone⟩ := hfinds.settles
  have hseen : missingAsNone (deposit.adapter.latestEnvelope after deposit.request.resource
      deposit.request.input.objectId) = .ok latest := hlatest ▸ hsettles.seen
  exact ⟨⟨latest, hsettles.again hagain hprofile hseen, hnone⟩, hfinds.arguments, hfinds.fits⟩

-- What stands in the way of a put that is repeated is the blob of its first attempt.
theorem blocked_again (hfree : ¬deposit.Blocked bucket) {phase : PutPhase}
    (hphase : phase = .start ∨ phase = .blob)
    (hsame : SameObjects (deposit.reach provider bucket phase) after) :
    (deposit.retimed createdAt observedAt).Blocked after ↔
      phase = .blob ∧ deposit.multipart = false := by
  have hpaths : (deposit.retimed createdAt observedAt).Blocked after ↔
      deposit.Blocked after := Iff.rfl
  have hreference : after.current deposit.referencePath =
      bucket.current deposit.referencePath := by
    rw [hsame.current]
    exact Store.current_congr (deposit.reach_reference_entries provider bucket hphase)
  have hlatest : after.current deposit.latestPath = bucket.current deposit.latestPath := by
    rw [hsame.current]
    apply Store.current_congr (deposit.reach_latest_entries provider bucket _)
    rcases hphase with rfl | rfl <;> simp
  rw [hpaths]
  unfold Blocked at hfree ⊢
  rw [hreference, hlatest]
  rcases hphase with rfl | rfl
  · have hblob : after.current deposit.blobPath = bucket.current deposit.blobPath :=
      hsame.current _
    rw [hblob]
    simp only [reduceCtorEq, false_and, iff_false]
    exact hfree
  · have hblob : (after.current deposit.blobPath).isSome = true := by
      rw [hsame.current]
      exact Option.isSome_of_eq_some (Store.put_current_self bucket deposit.blobPath _)
    simp only [true_and]
    constructor
    · rintro (⟨hsingle, -⟩ | hothers)
      · exact hsingle
      · exact absurd (Or.inr hothers) hfree
    · exact fun hsingle => Or.inl ⟨hsingle, hblob⟩

-- Whether a put can be repeated does not depend on which call of a transfer in parts
-- has failed.
theorem Stops.resumable_iff {call : S3Call} {effect : Bool} {phase : PutPhase}
    (h : deposit.Stops call effect phase) :
    deposit.Resumable provider bucket after createdAt observedAt (deposit.phaseAt effect call) ↔
      deposit.Resumable provider bucket after createdAt observedAt phase := by
  rcases h with rfl | ⟨hcall, hmultipart, hphase⟩
  · exact Iff.rfl
  · have hat : deposit.phaseAt effect call = .start ∨ deposit.phaseAt effect call = .blob := by
      cases call <;> cases effect <;> simp_all [S3Call.multipart, phaseAt]
    rcases hphase with rfl | rfl <;> rcases hat with hat | hat <;> rw [hat] <;>
      simp [Resumable, hmultipart]

-- What repeating a put comes to that would have succeeded and was cut off.
theorem Finds.retried_iff (hfinds : deposit.Finds bucket) (hfree : ¬deposit.Blocked bucket)
    (hagain : deposit.request.input.createOnly = false) {phase : PutPhase}
    (hsame : SameObjects (deposit.reach provider bucket phase) after)
    (hsound : deposit.adapter.layout.Sound Set.univ after) :
    deposit.adapter.Resolves provider (deposit.request.retimed createdAt observedAt)
        deposit.hash.digest after ↔
      deposit.Resumable provider bucket after createdAt observedAt phase := by
  have hfresh (hphase : phase = .start ∨ phase = .blob) :
      deposit.adapter.Resolves provider (deposit.request.retimed createdAt observedAt)
          deposit.hash.digest after ↔
        ¬(phase = .blob ∧ deposit.multipart = false) ∧
          (deposit.retimed createdAt observedAt).Readable provider after := by
    have hother : (deposit.retimed createdAt observedAt).Finds after :=
      hfinds.reach_finds hagain hphase hsame
    have hblocked : (deposit.retimed createdAt observedAt).Blocked after ↔
        phase = .blob ∧ deposit.multipart = false := blocked_again hfree hphase hsame
    have hresolves : (deposit.retimed createdAt observedAt).adapter.Resolves provider
        (deposit.retimed createdAt observedAt).request
        (deposit.retimed createdAt observedAt).hash.digest after ↔
          ¬(deposit.retimed createdAt observedAt).Blocked after ∧
            (deposit.retimed createdAt observedAt).Readable provider after :=
      hother.resolves_iff hsound
    rw [← hblocked]
    exact hresolves
  cases phase with
  | start => simpa [Resumable] using hfresh (Or.inl rfl)
  | blob => simpa [Resumable] using hfresh (Or.inr rfl)
  | reference =>
      rw [hfinds.recorded_resolves_iff hagain (Or.inl rfl) hsame hsound]
      have hlatest : after.entries deposit.latestPath = bucket.entries deposit.latestPath := by
        rw [hsame.entries]
        exact deposit.reach_latest_entries provider bucket (by simp)
      exact and_congr_left' ⟨S3Layout.points_congr hlatest.symm, S3Layout.points_congr hlatest⟩
  | pointer =>
      rw [hfinds.recorded_resolves_iff hagain (Or.inr rfl) hsame hsound]
      exact and_iff_right (S3Layout.points_congr (congrFun hsame.entries _)
        (deposit.pointerStored_points provider bucket))

end Deposit

theorem put_retry_iff (versioned : Bool) (steps : List Step)
    (hkeyed : ∀ step ∈ steps, step.adapter.layout = adapter.layout)
    (hreached : bucket = runSteps provider (Store.empty versioned) steps)
    (hagain : request.input.createOnly = false) (metadata : ObjectMetadata)
    (hsucceeds : ((adapter.put request).run provider.handle bucket).1 = .ok metadata)
    (plan : Plan Failure) (call : S3Call) (fault : Fault Failure) (houtage : fault.error.Outage)
    (hstruck : (adapter.put request).struck provider.handle plan bucket = [(call, fault)])
    (failure : Failure) (hcut : (adapter.put request).runFaulty provider.handle plan bucket =
      (.error failure, after)) (createdAt observedAt : Timestamp) :
    adapter.Resolves provider (request.retimed createdAt observedAt) metadata.digest after ↔
      ∀ deposit : Deposit, deposit.adapter = adapter → deposit.request = request →
        deposit.Finds bucket → deposit.Resumable provider bucket after createdAt observedAt
          (deposit.phaseAt fault.effect call) := by
  have hsound : adapter.layout.Sound Set.univ bucket := by
    rw [hreached]
    exact runSteps_sound (fun step hstep => ⟨hkeyed step hstep, fun request _ =>
      request.hashes_univ⟩) (S3Layout.sound_empty _ _ _)
  have hafter : adapter.layout.Sound Set.univ after := by
    have halone := put_alone provider hsound request.hashes_univ plan
    rw [hcut] at halone
    exact halone.1
  have hends : PutEnds provider adapter request unfailing bucket
      ((adapter.put request).run provider.handle bucket).1
      ((adapter.put request).run provider.handle bucket).2 := put_unfailing request
  let strikes (found : S3Call) (struck : Fault Failure) : Prop :=
    found = call ∧ struck = fault
  have houtages : S3ObjectAdapter.Outages strikes := by
    rintro found struck ⟨-, rfl⟩
    exact houtage
  have hcuts : PutEnds provider adapter request strikes bucket (.error failure) after := by
    have hput : Verified provider.handle (solo strikes).protocol (adapter.put request) ∅ bucket
        fun result _ after => PutEnds provider adapter request strikes bucket result after :=
      put_ends houtages
    obtain ⟨-, -, hends⟩ := hput.runFaulty Discipline.rely_refl trivial plan
      fun found struck h => by
        rw [hstruck, List.mem_singleton, Prod.mk.injEq] at h
        exact h
    rw [hcut] at hends
    exact hends
  generalize hrun : (adapter.put request).run provider.handle bucket = run at hends hsucceeds
  rcases run with ⟨result, final⟩
  subst hsucceeds
  cases hends with
  | returned _ _ _ hreturns =>
      -- Without a write the put has left the bucket, and finds again what it has found.
      have hsame : SameObjects bucket after := by
        cases hcuts with
        | refused _ _ hsame => exact hsame
        | blocked other _ _ _ hadapter hrequest hfinds
        | cut other _ _ _ _ _ hadapter hrequest hfinds =>
            exact absurd hfinds (hreturns.not_finds hadapter hrequest)
      have hresolves : adapter.Resolves provider (request.retimed createdAt observedAt)
          metadata.digest after := (hreturns.again hagain hsame).resolves
      refine iff_of_true hresolves fun deposit hadapter hrequest hfinds => ?_
      exact absurd hfinds (hreturns.not_finds hadapter hrequest)
  | committed deposit _ hadapter hrequest hfinds hfree _ =>
      subst hadapter hrequest
      obtain ⟨phase, hstops, hsame⟩ : ∃ phase, deposit.Stops call fault.effect phase ∧
          SameObjects (deposit.reach provider bucket phase) after := by
        cases hcuts with
        | refused _ _ hsame hcause =>
            rcases hcause with ⟨found, struck, hfault, hstart⟩ | ⟨-, hnone⟩
            · obtain ⟨rfl, rfl⟩ := hfault
              exact ⟨.start, Or.inl (hstart deposit rfl rfl).symm, hsame⟩
            · exact absurd hfinds (hnone deposit rfl rfl)
        | blocked other _ _ _ hadapter hrequest hother hblocked =>
            obtain rfl := hfinds.unique hother hadapter hrequest
            exact absurd hblocked hfree
        | cut other found struck phase _ _ hadapter hrequest hother hfault hstops hsame =>
            obtain rfl := hfinds.unique hother hadapter hrequest
            obtain ⟨rfl, rfl⟩ := hfault
            exact ⟨phase, hstops, hsame⟩
      have hretried : deposit.adapter.Resolves provider
          (deposit.request.retimed createdAt observedAt) deposit.hash.digest after ↔
            deposit.Resumable provider bucket after createdAt observedAt
              (deposit.phaseAt fault.effect call) := by
        rw [hstops.resumable_iff]
        exact hfinds.retried_iff hfree hagain hsame hafter
      rw [show deposit.metadata.digest = deposit.hash.digest from rfl, hretried]
      constructor
      · intro h other hadapter hrequest hother
        obtain rfl := hfinds.unique hother hadapter hrequest
        exact h
      · exact fun h => h deposit rfl rfl hfinds

-- A put that is cut off at the request that stores its bytes.
namespace Deposit.Lands

variable {fault : Fault Failure}

theorem struck_blob (h : deposit.Lands provider hashed bucket)
    (hsingle : deposit.multipart = false) (houtage : fault.error.Outage) :
    ∃ plan call failure after, (deposit.adapter.put deposit.request).struck provider.handle plan
        bucket = [(call, fault)] ∧
      (deposit.adapter.put deposit.request).runFaulty provider.handle plan
        bucket = (.error failure, after) ∧
      deposit.phaseAt fault.effect call = (if fault.effect then .blob else .start) ∧
      SameObjects (deposit.reach provider bucket
        (if fault.effect then .blob else .start)) after := by
  obtain ⟨header, body, length, ifNoneMatch, checksum, hcall⟩ :=
    h.finds.calls_blob provider hsingle
  obtain ⟨plan, failure, after, hstruck, hcut, hsame⟩ :=
    h.finds.struck_at h.unblocked hcall not_false houtage
  rw [deposit.phaseAt_blob] at hsame
  exact ⟨plan, _, failure, after, hstruck, hcut, deposit.phaseAt_blob _, hsame⟩

-- Once the bytes are there a repetition conflicts with them.
theorem lost_blob (h : deposit.Lands provider hashed bucket)
    (hsound : deposit.adapter.layout.Sound Set.univ bucket)
    (hsingle : deposit.multipart = false) (hagain : deposit.request.input.createOnly = false)
    (houtage : fault.error.Outage) (heffect : fault.effect = true) :
    ∃ plan call failure, (deposit.adapter.put deposit.request).struck provider.handle plan
        bucket = [(call, fault)] ∧
      ((deposit.adapter.put deposit.request).runFaulty provider.handle plan
        bucket).1 = .error failure ∧
      ¬deposit.adapter.Resolves provider (deposit.request.retimed createdAt observedAt)
        deposit.hash.digest ((deposit.adapter.put deposit.request).runFaulty provider.handle plan
          bucket).2 := by
  obtain ⟨plan, call, failure, after, hstruck, hcut, -, hsame⟩ := h.struck_blob hsingle houtage
  rw [heffect] at hsame
  have hsound : deposit.adapter.layout.Sound Set.univ after := by
    have halone := put_alone provider hsound deposit.request.hashes_univ plan
    rw [hcut] at halone
    exact halone.1
  refine ⟨plan, call, failure, hstruck, by rw [hcut], ?_⟩
  rw [hcut]
  intro hresolves
  obtain ⟨hmultipart, -⟩ :=
    (h.finds.retried_iff h.unblocked hagain hsame hsound).mp hresolves
  rw [hsingle] at hmultipart
  cases hmultipart

end Deposit.Lands

theorem put_not_retried_after_blob : ∃ plan call failure,
    ((Standard.adapter.put Standard.one.request).run Standard.provider.handle
      (Store.empty false)).1 = .ok Standard.one.metadata ∧
    (Standard.adapter.put Standard.one.request).struck Standard.provider.handle plan
      (Store.empty false) = [(call, Standard.lostReply)] ∧
    ((Standard.adapter.put Standard.one.request).runFaulty Standard.provider.handle plan
      (Store.empty false)).1 = .error failure ∧
    ¬Standard.adapter.Resolves Standard.provider (Standard.one.request.retimed 2 2)
      Standard.one.metadata.digest ((Standard.adapter.put Standard.one.request).runFaulty
        Standard.provider.handle plan (Store.empty false)).2 := by
  obtain ⟨plan, call, failure, hstruck, hfails, hlost⟩ :=
    Standard.one_first.lost_blob (S3Layout.sound_empty _ _ _) Standard.one_single rfl
      Standard.lostReply_outage rfl
  exact ⟨plan, call, failure, (Standard.one_first.finds.commits Deposit.not_blocked_empty).1,
    hstruck, hfails, hlost⟩

-- The second version of an object, whose pointer has been written when the reply is lost.
theorem put_retried_after_pointer : ∃ plan call,
    call.puts Standard.late.latestPath ∧
    (Standard.adapter.put Standard.late.request).struck Standard.provider.handle plan
      (runSteps Standard.provider (Store.empty true) [Standard.registration, Standard.early.step]) =
        [(call, Standard.lostReply)] ∧
    Standard.adapter.Resolves Standard.provider (Standard.late.request.retimed 3 3)
      Standard.late.metadata.digest ((Standard.adapter.put Standard.late.request).runFaulty
        Standard.provider.handle plan (runSteps Standard.provider (Store.empty true)
          [Standard.registration, Standard.early.step])).2 := by
  have hlands : Standard.late.Lands Standard.provider Standard.hashed
      (runSteps Standard.provider (Store.empty true)
        [Standard.registration, Standard.early.step]) := by
    rw [runSteps_cons, ← Deposit.stored_eq]
    exact Standard.versions.lands
  have hkeyed : ∀ step ∈ [Standard.registration, Standard.early.step],
      step.adapter.layout = Standard.adapter.layout := by
    intro step hstep
    simp only [List.mem_cons, List.not_mem_nil, or_false] at hstep
    rcases hstep with rfl | rfl <;> rfl
  obtain ⟨call, hputs, hcall⟩ :=
    hlands.finds.calls_pointer Standard.provider hlands.unblocked
  have hsingle : ¬call.multipart := by
    obtain ⟨_, _, _, _, _, rfl⟩ := hputs
    exact not_false
  obtain ⟨plan, failure, after, hstruck, hcut, -⟩ :=
    hlands.finds.struck_at hlands.unblocked hcall hsingle Standard.lostReply_outage
  refine ⟨plan, call, hputs, hstruck, ?_⟩
  rw [show (Standard.adapter.put Standard.late.request).runFaulty Standard.provider.handle plan
    _ = _ from hcut]
  apply (put_retry_iff true _ hkeyed rfl rfl _ (hlands.finds.commits hlands.unblocked).1 plan call
    Standard.lostReply Standard.lostReply_outage hstruck failure hcut 3 3).mpr
  intro deposit hadapter hrequest hfinds
  obtain rfl := hlands.finds.unique hfinds hadapter hrequest
  rw [Deposit.phaseAt_latest hputs]
  exact ⟨hlands.pointer, hlands.reference⟩

end MeridianS3
