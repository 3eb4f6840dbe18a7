import MeridianS3.Acknowledged
import MeridianS3.Deposit.Versions

namespace MeridianS3

open Effect ObjectStore Json

variable {provider : Provider} {adapter : S3ObjectAdapter} {layout : S3Layout} {hashed : Set Bytes}
variable {bucket after : Bucket} {resource object content : HexDigest}

-- The latest version of an object is stored as an immutable one.
structure S3Layout.Immutable (layout : S3Layout) (bucket : Bucket)
    (resource object content : HexDigest) : Prop where
  points : layout.Points bucket resource object content
  stored : ∃ envelope, layout.Recorded bucket resource object content envelope ∧
    envelope.metadata.mutability = .immutable

-- A put that is create-only, or whose own intent is immutable, or of the content that is
-- the latest one, or that is refused for its size or its retention, or of a content whose
-- reference or whose blob is in its way.
def Step.Yields (content : HexDigest) (step : Step) (bucket : Bucket) : Prop :=
  ∀ request, step.operation = .put request → request.input.createOnly = true ∨
    ∀ profile intent writes,
      step.adapter.profileAt bucket request.resource = .ok profile →
      step.adapter.intentFrom profile request = .ok intent →
      request.transfer intent.payload = .ok writes →
      intent.mutability = .immutable ∨
      step.adapter.common.hexdigest writes.flatten = content ∨
      step.adapter.config.maxObjectBytes < writes.flatten.length ∨
      (step.adapter.config.multipartThresholdBytes ≤ writes.flatten.length ∧
        S3_MAX_MULTIPART_PARTS * step.adapter.config.multipartPartBytes < writes.flatten.length) ∨
      (∀ arguments, step.adapter.transport.writeArguments intent.retention ≠ .ok arguments) ∨
      (bucket.current (step.adapter.layout.path (.reference
        (step.adapter.layout.resourceToken request.resource)
        (step.adapter.layout.objectToken request.input.objectId)
        (step.adapter.common.hexdigest writes.flatten)))).isSome = true ∨
      writes.flatten.length < step.adapter.config.multipartThresholdBytes ∧
        (bucket.current (step.adapter.layout.path (.blob
          (step.adapter.layout.resourceToken request.resource)
          (step.adapter.layout.objectToken request.input.objectId)
          (step.adapter.common.hexdigest writes.flatten)))).isSome = true

namespace S3Layout.Immutable

theorem kept (h : layout.Immutable bucket resource object content)
    (hlatest : after.entries (layout.path (.latest resource object)) =
      bucket.entries (layout.path (.latest resource object)))
    (hreferences : ∀ other, bucket.entries (layout.path (.reference resource object other)) ≠ [] →
      after.entries (layout.path (.reference resource object other)) =
        bucket.entries (layout.path (.reference resource object other))) :
    layout.Immutable after resource object content where
  points := S3Layout.points_congr hlatest h.points
  stored := by
    obtain ⟨envelope, hrecorded, himmutable⟩ := h.stored
    exact ⟨envelope, S3Layout.recorded_congr
      (hreferences content (S3Layout.recorded_entries hrecorded)) hrecorded, himmutable⟩

end S3Layout.Immutable

theorem S3ObjectAdapter.checkExisting_none {request : PutRequest} {intent : PutIntent}
    {digest : String} {latest : StoredEnvelope}
    (h : checkExisting request intent digest (some latest) = .ok none) :
    request.input.createOnly = false ∧ latest.metadata.digest ≠ digest ∧
      intent.mutability ≠ .immutable := by
  simp only [checkExisting] at h
  split at h
  · cases h
  rename_i hcreate
  split at h
  · cases hsame : requireIdempotentMetadata request intent latest with
    | error failure => simp [hsame, bind, Except.bind] at h
    | ok same => simp [hsame, bind, Except.bind, pure, Except.pure] at h
  rename_i hdigest
  split at h
  · cases h
  rename_i hmutable
  exact ⟨by simpa using hcreate, hdigest, hmutable⟩

-- A put that yields does not get past its checks, or has something in its way.
theorem Deposit.Finds.blocked_of_yields {deposit : Deposit} {step : Step}
    (hsound : deposit.adapter.layout.Sound hashed bucket) (hfinds : deposit.Finds bucket)
    (hadapter : step.adapter = deposit.adapter) (hoperation : step.operation = .put deposit.request)
    (hlatest : deposit.adapter.layout.Immutable bucket deposit.resource deposit.object content)
    (hyields : step.Yields content bucket) : deposit.Blocked bucket := by
  obtain ⟨latest, hsettles, hcheck⟩ := hfinds.settles
  obtain ⟨envelope, hrecorded, -⟩ := hlatest.stored
  obtain rfl : latest = some envelope :=
    S3ObjectAdapter.latestEnvelope_seen hsound hlatest.points hrecorded hsettles.seen
  obtain ⟨hcreate, hdigest, hmutable⟩ := S3ObjectAdapter.checkExisting_none hcheck
  obtain ⟨profile, hprofile, hintent⟩ := hsettles.intends
  obtain ⟨writes, htransfer, hstream, -⟩ := hsettles.transfer
  have hflatten : writes.flatten = deposit.content := by
    rw [← hstream, S3ObjectAdapter.spooled, IntegritySpool.writeAll_stream]
    simp [IntegritySpool.new]
  rcases hyields deposit.request hoperation with hcreates | hrest
  · rw [hcreate] at hcreates
    cases hcreates
  rw [hadapter] at hrest
  rcases hrest profile deposit.intent writes hprofile hintent htransfer with
    himmutable | hsame | hlarge | ⟨hparts, hmany⟩ | hunwritable | hreference | ⟨hsmall, hblob⟩
  · exact absurd himmutable hmutable
  · exfalso
    apply hdigest
    rw [hflatten] at hsame
    rw [(hsound.envelopeOf hrecorded).digest, ← hsame]
    rfl
  · rw [hflatten] at hlarge
    exact absurd hsettles.size (Nat.not_le.mpr hlarge)
  · rw [hflatten] at hparts hmany
    exact absurd ((hfinds.fits (decide_eq_true hparts)).length_le rfl) (Nat.not_le.mpr hmany)
  · exact absurd hfinds.arguments (hunwritable _)
  · rw [hflatten] at hreference
    exact Or.inr (Or.inl hreference)
  · rw [hflatten] at hsmall hblob
    exact Or.inl ⟨decide_eq_false (Nat.not_le.mpr hsmall), hblob⟩

-- Such a put leaves the pointer.
theorem PutEnds.latest_kept {request : PutRequest} {step : Step}
    {result : Except Failure ObjectMetadata}
    (h : PutEnds provider adapter request unfailing bucket result after)
    (hsound : adapter.layout.Sound hashed bucket) (hadapter : step.adapter = adapter)
    (hoperation : step.operation = .put request)
    (hlatest : adapter.layout.Immutable bucket
      (adapter.layout.resourceToken request.resource)
      (adapter.layout.objectToken request.input.objectId) content)
    (hyields : step.Yields content bucket) :
    after.entries (adapter.layout.latestKey request.resource request.input.objectId) =
      bucket.entries (adapter.layout.latestKey request.resource request.input.objectId) := by
  cases h with
  | refused failure _ hsame => rw [hsame.entries]
  | returned metadata _ hsame => rw [hsame.entries]
  | cut _ _ _ _ _ _ _ _ _ hfault => exact hfault.elim
  | blocked deposit phase failure _ hother hrequest _ _ hphase hbeside =>
      subst hother hrequest
      exact (hbeside.entries (.latest _ _) (by simp)).trans
        (deposit.reach_latest_entries provider bucket hphase)
  | committed deposit _ hother hrequest hfinds hfree =>
      subst hother hrequest
      exact absurd (hfinds.blocked_of_yields hsound hadapter hoperation hlatest hyields) hfree

section Runs

variable {resource : ResourceRef} {objectId : String}

-- A step that puts the object, and that nothing strikes.
structure Step.Puts (step : Step) (layout : S3Layout) (resource : ResourceRef)
    (objectId : String) : Prop where
  keyed : step.adapter.layout = layout
  quiet : step.plan = []
  put : ∃ request, step.operation = .put request ∧ request.resource = resource ∧
    request.input.objectId = objectId

theorem Step.Puts.joins {step : Step} (h : step.Puts layout resource objectId) :
    step.Joins layout Set.univ := ⟨h.keyed, fun request _ => request.hashes_univ⟩

theorem Step.immutable_kept {step : Step} (hputs : step.Puts layout resource objectId)
    (hsound : layout.Sound Set.univ bucket)
    (hlatest : layout.Immutable bucket (layout.resourceToken resource)
      (layout.objectToken objectId) content) (hyields : step.Yields content bucket) :
    (step.run provider bucket).2.entries (layout.latestKey resource objectId) =
        bucket.entries (layout.latestKey resource objectId) ∧
      layout.Immutable (step.run provider bucket).2 (layout.resourceToken resource)
        (layout.objectToken objectId) content := by
  obtain ⟨request, hoperation, rfl, rfl⟩ := hputs.put
  have hends : StepEnds provider Set.univ step bucket (step.run provider bucket).2 :=
    (Step.ends hputs.joins hsound).2
  obtain ⟨rfl, hquiet, -⟩ := hputs
  have hafter : (step.run provider bucket).2 =
      ((step.adapter.put request).run provider.handle bucket).2 := by
    unfold Step.run
    simp only [hoperation, hquiet, S3ObjectAdapter.execute]
    rw [runFaulty_map, runFaulty_nil]
  have hput : PutEnds provider step.adapter request unfailing bucket
      ((step.adapter.put request).run provider.handle bucket).1
      ((step.adapter.put request).run provider.handle bucket).2 := put_unfailing request
  have hkept : (step.run provider bucket).2.entries
      (step.adapter.layout.latestKey request.resource request.input.objectId) =
        bucket.entries
          (step.adapter.layout.latestKey request.resource request.input.objectId) := by
    rw [hafter]
    exact hput.latest_kept hsound rfl hoperation hlatest hyields
  refine ⟨hkept, hlatest.kept hkept fun other hstored => ?_⟩
  cases hends with
  | read hsame => rw [hsame]
  | registered hends => exact hends.entries id
  | published _ _ hpublishes => exact hpublishes.references _ _ _ hstored
  | deleted delete _ hdelete =>
      rw [hoperation] at hdelete
      cases hdelete

theorem runSteps_immutable_kept {steps : List Step}
    (hputs : ∀ step ∈ steps, step.Puts layout resource objectId)
    (hsound : layout.Sound Set.univ bucket)
    (hlatest : layout.Immutable bucket (layout.resourceToken resource)
      (layout.objectToken objectId) content)
    (hyields : Along provider (Step.Yields content) bucket steps) :
    (runSteps provider bucket steps).entries (layout.latestKey resource objectId) =
      bucket.entries (layout.latestKey resource objectId) := by
  induction steps generalizing bucket with
  | nil => rfl
  | cons step rest ih =>
      have hstep := hputs step List.mem_cons_self
      obtain ⟨hkept, hstill⟩ : (step.run provider bucket).2.entries
          (layout.latestKey resource objectId) =
            bucket.entries (layout.latestKey resource objectId) ∧ _ :=
        step.immutable_kept hstep hsound hlatest hyields.1
      rw [runSteps_cons, ← hkept]
      exact ih (fun later hmem => hputs later (List.mem_cons_of_mem _ hmem))
        (Step.ends hstep.joins hsound).1 hstill hyields.2

-- Once the latest version is an immutable one, puts that yield leave the pointer.
theorem immutable_latest_kept (versioned : Bool) (earlier later : List Step)
    (hkeyed : ∀ step ∈ earlier, step.adapter.layout = layout)
    (hputs : ∀ step ∈ later, step.Puts layout resource objectId)
    (hlatest : layout.Immutable (runSteps provider (Store.empty versioned) earlier)
      (layout.resourceToken resource) (layout.objectToken objectId) content)
    (hyields : Along provider (Step.Yields content)
      (runSteps provider (Store.empty versioned) earlier) later) :
    (runSteps provider (Store.empty versioned) (earlier ++ later)).entries
        (layout.latestKey resource objectId) =
      (runSteps provider (Store.empty versioned) earlier).entries
        (layout.latestKey resource objectId) := by
  have hsound : layout.Sound Set.univ (runSteps provider (Store.empty versioned) earlier) :=
    runSteps_sound (fun step hstep =>
      ⟨hkeyed step hstep, fun request _ => request.hashes_univ⟩) (S3Layout.sound_empty _ _ _)
  rw [runSteps_append]
  exact runSteps_immutable_kept hputs hsound hlatest hyields

end Runs

namespace Deposit

-- The put of the later version replaces the first one, whatever that was stored as.
theorem Pair.replaced {first next : Deposit} (h : first.Pair next provider hashed bucket) :
    (first.both next provider bucket).entries
        (first.adapter.layout.latestKey first.request.resource first.request.input.objectId) ≠
      (first.stored provider bucket).entries
        (first.adapter.layout.latestKey first.request.resource first.request.input.objectId) := by
  have hboth := h.points
  have hfirst := h.opens.points
  generalize first.both next provider bucket = both at hboth ⊢
  generalize first.stored provider bucket = stored at hfirst ⊢
  intro hsame
  have hpoints : first.adapter.layout.Points stored first.resource first.object next.hash :=
    S3Layout.points_congr hsame.symm hboth
  exact h.follows.differs (S3Layout.points_unique hpoints hfirst)

theorem First.immutable {deposit : Deposit} (h : deposit.First provider hashed bucket)
    (himmutable : deposit.intent.mutability = .immutable) :
    deposit.adapter.layout.Immutable (deposit.stored provider bucket)
      (deposit.adapter.layout.resourceToken deposit.request.resource)
      (deposit.adapter.layout.objectToken deposit.request.input.objectId) deposit.hash where
  points := h.points
  stored := ⟨_, h.recorded, himmutable⟩

end Deposit

theorem fixed_immutable : Standard.fixed.adapter.layout.Immutable
    (runSteps Standard.provider (Store.empty true) Standard.fixedSteps)
    (Standard.fixed.adapter.layout.resourceToken Standard.fixed.request.resource)
    (Standard.fixed.adapter.layout.objectToken Standard.fixed.request.input.objectId)
    Standard.fixed.hash := by
  rw [Standard.runSteps_fixedSteps]
  exact Standard.fixed_versions.opens.immutable rfl

theorem create_only_put_yields :
    (runSteps Standard.provider (Store.empty true) (Standard.fixedSteps ++
      [(Standard.deposit true .null .mutable "version-two" 2).step])).entries
        (Standard.fixed.adapter.layout.latestKey Standard.fixed.request.resource
          Standard.fixed.request.input.objectId) =
      (runSteps Standard.provider (Store.empty true) Standard.fixedSteps).entries
        (Standard.fixed.adapter.layout.latestKey Standard.fixed.request.resource
          Standard.fixed.request.input.objectId) := by
  have hkeyed : ∀ step ∈ Standard.fixedSteps,
      step.adapter.layout = Standard.fixed.adapter.layout := by
    intro step hstep
    rw [Standard.fixedSteps, List.mem_pair] at hstep
    rcases hstep with rfl | rfl <;> rfl
  have hputs : ∀ step ∈ [(Standard.deposit true .null .mutable "version-two" 2).step],
      step.Puts Standard.fixed.adapter.layout Standard.fixed.request.resource
        Standard.fixed.request.input.objectId := by
    intro step hstep
    obtain rfl := List.mem_singleton.mp hstep
    exact ⟨rfl, rfl, _, rfl, rfl, rfl⟩
  have hyields : Along Standard.provider (Step.Yields Standard.fixed.hash)
      (runSteps Standard.provider (Store.empty true) Standard.fixedSteps)
      [(Standard.deposit true .null .mutable "version-two" 2).step] := by
    refine ⟨?_, trivial⟩
    rintro request ⟨⟩
    exact Or.inl rfl
  exact immutable_latest_kept true Standard.fixedSteps _ hkeyed hputs fixed_immutable hyields

-- An immutable version gives way to a mutable put of other bytes.
theorem immutable_latest_replaced :
    Standard.fixed.adapter.layout.Immutable
        (runSteps Standard.provider (Store.empty true) Standard.fixedSteps)
        (Standard.fixed.adapter.layout.resourceToken Standard.fixed.request.resource)
        (Standard.fixed.adapter.layout.objectToken Standard.fixed.request.input.objectId)
        Standard.fixed.hash ∧
      Standard.late.step.Puts Standard.fixed.adapter.layout Standard.fixed.request.resource
        Standard.fixed.request.input.objectId ∧
      (runSteps Standard.provider (Store.empty true)
          (Standard.fixedSteps ++ [Standard.late.step])).entries
          (Standard.fixed.adapter.layout.latestKey Standard.fixed.request.resource
            Standard.fixed.request.input.objectId) ≠
        (runSteps Standard.provider (Store.empty true) Standard.fixedSteps).entries
          (Standard.fixed.adapter.layout.latestKey Standard.fixed.request.resource
            Standard.fixed.request.input.objectId) := by
  refine ⟨fixed_immutable, ⟨rfl, rfl, _, rfl, rfl, rfl⟩, ?_⟩
  rw [runSteps_append, runSteps_cons, runSteps_nil, Standard.runSteps_fixedSteps,
    ← Deposit.both_eq]
  exact Standard.fixed_versions.replaced

end MeridianS3
