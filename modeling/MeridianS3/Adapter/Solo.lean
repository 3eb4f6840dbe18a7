import MeridianS3.Adapter.Rules

namespace MeridianS3

open Effect ObjectStore Json

namespace S3ObjectAdapter

variable {adapter : S3ObjectAdapter} {provider : Provider} {resource : ResourceRef}
variable {objectId : String} {faults : S3Call → Fault Failure → Prop}
variable {owned : Set Nat} {origin state : Bucket}

-- A call that reads can fail.
def ReadFault (faults : S3Call → Fault Failure → Prop) : Prop :=
  ∃ call fault, call.reads anything anything ∧ faults call fault

-- Whatever its calls raise, a program that lets every failure through returns a value
-- only if nothing has struck it.
theorem solo_value {α : Type} {program : S3M α}
    (hwithin : program.Within (S3Call.reads anything anything))
    (hsurfaces : program.Surfaces fun _ => True)
    {post : Except Failure α → Set Nat → Bucket → Prop} (hstate : SameObjects origin state)
    (hok : ∀ value after, SameObjects origin after →
      (program.run provider.handle origin).1 = .ok value → post (.ok value) owned after)
    (herror : ∀ failure after, SameObjects origin after →
      ReadFault faults ∨ (program.run provider.handle origin).1 = .error failure →
      post (.error failure) owned after) :
    Verified provider.handle (solo faults).protocol program owned state post := by
  apply solo_reading hwithin hsurfaces (fun _ _ _ _ => trivial) hstate
  · intro after hafter
    cases hrun : (program.run provider.handle origin).1 with
    | ok value => exact hok value after hafter hrun
    | error failure => exact herror failure after hafter (Or.inr hrun)
  · exact fun call fault failure after hread hfault _ hafter =>
      herror failure after hafter (Or.inl ⟨call, fault, hread, hfault⟩)

theorem readEnvelope_solo {digest : String}
    {post : Except Failure StoredEnvelope → Set Nat → Bucket → Prop}
    (hstate : SameObjects origin state)
    (hok : ∀ envelope after, SameObjects origin after →
      adapter.envelopeAt origin resource objectId digest = .ok envelope →
      post (.ok envelope) owned after)
    (herror : ∀ failure after, SameObjects origin after → ReadFault faults ∨
      adapter.envelopeAt origin resource objectId digest = .error failure →
      post (.error failure) owned after) :
    Verified provider.handle (solo faults).protocol
      (adapter.readEnvelope resource objectId (some digest)) owned state post := by
  apply solo_value (adapter.readEnvelope_within resource objectId (fun _ _ => trivial) _)
    (adapter.readEnvelope_surfaces resource objectId Failure.lasting_any _) hstate
  · intro envelope after hafter henvelope
    rw [run_readEnvelope] at henvelope
    exact hok envelope after hafter henvelope
  · intro failure after hafter hcause
    rw [run_readEnvelope] at hcause
    exact herror failure after hafter hcause

theorem newestVersion_solo {excludeDigest : Option String}
    {post : Except Failure (Option StoredEnvelope) → Set Nat → Bucket → Prop}
    (hstate : SameObjects origin state)
    (hok : ∀ newest after, SameObjects origin after →
      adapter.newestIn origin resource objectId excludeDigest = .ok newest →
      post (.ok newest) owned after)
    (herror : ∀ failure after, SameObjects origin after → ReadFault faults ∨
      adapter.newestIn origin resource objectId excludeDigest = .error failure →
      post (.error failure) owned after) :
    Verified provider.handle (solo faults).protocol
      (adapter.newestVersion resource objectId excludeDigest) owned state post := by
  apply solo_value (adapter.newestVersion_within resource objectId _)
    (adapter.newestVersion_surfaces resource objectId Failure.lasting_any _) hstate
  · intro newest after hafter hnewest
    rw [run_newestVersion] at hnewest
    exact hok newest after hafter hnewest
  · intro failure after hafter hcause
    rw [run_newestVersion] at hcause
    exact herror failure after hafter hcause

def Outages (faults : S3Call → Fault Failure → Prop) : Prop :=
  ∀ call fault, faults call fault → fault.error.Outage

-- What a look at the latest version has seen: the version there is, or nothing. Only a
-- failure that reads as a missing object makes it miss one.
def Sees (adapter : S3ObjectAdapter) (bucket : Bucket) (resource : ResourceRef)
    (objectId : String) (faults : S3Call → Fault Failure → Prop)
    (latest : Option StoredEnvelope) : Prop :=
  (∀ envelope, latest = some envelope →
    adapter.latestEnvelope bucket resource objectId = .ok envelope) ∧
  (Outages faults → missingAsNone (adapter.latestEnvelope bucket resource objectId) = .ok latest)

theorem tryLatest_solo {post : Except Failure (Option StoredEnvelope) → Set Nat → Bucket → Prop}
    (hstate : SameObjects origin state)
    (hok : ∀ latest after, SameObjects origin after →
      adapter.Sees origin resource objectId faults latest → post (.ok latest) owned after)
    (herror : ∀ failure after, SameObjects origin after → (Outages faults → ReadFault faults ∨
      missingAsNone (adapter.latestEnvelope origin resource objectId) = .error failure) →
      post (.error failure) owned after) :
    Verified provider.handle (solo faults).protocol (adapter.tryLatest resource objectId) owned
      state post := by
  by_cases houtage : Outages faults
  · have hwithin : (adapter.tryLatest resource objectId).Within
        (S3Call.reads anything anything) :=
      adapter.tryLatest_within resource objectId fun _ _ => trivial
    have hsurfaces : (adapter.tryLatest resource objectId).Surfaces Failure.Outage :=
      adapter.tryLatest_surfaces resource objectId Failure.lasting_outage
        fun _ h => h.not_notFound
    apply solo_reading hwithin hsurfaces (fun call fault _ => houtage call fault) hstate
    · intro after hafter
      rw [run_tryLatest]
      cases hlatest : missingAsNone (adapter.latestEnvelope origin resource objectId) with
      | error failure => exact herror failure after hafter fun _ => Or.inr hlatest
      | ok latest =>
          refine hok latest after hafter ⟨?_, fun _ => hlatest⟩
          rintro envelope rfl
          exact missingAsNone_some hlatest
    · exact fun call fault failure after hread hfault _ hafter =>
        herror failure after hafter fun _ => Or.inl ⟨call, fault, hread, hfault⟩
  · apply tryLatest_rule
    · intro envelope digest first second hfirst _ hdigest hsecond _ henvelope
      have hseen := hstate.trans (SameObjects.trans hfirst hsecond)
      have hlatest : adapter.latestEnvelope origin resource objectId = .ok envelope := by
        rw [adapter.latestDigest_same _ _ (hstate.trans hfirst)] at hdigest
        rw [adapter.envelopeAt_same _ _ hseen] at henvelope
        simp [latestEnvelope, hdigest, henvelope, Except.bind]
      refine hok (some envelope) second hseen ⟨?_, fun h => absurd h houtage⟩
      rintro found hfound
      cases hfound
      exact hlatest
    · intro result after hafter hnone
      cases result with
      | error failure => exact herror failure after (hstate.trans hafter) fun h => absurd h houtage
      | ok latest =>
          cases latest with
          | some envelope => exact absurd rfl (hnone envelope)
          | none =>
              exact hok none after (hstate.trans hafter) ⟨by simp, fun h => absurd h houtage⟩

end S3ObjectAdapter

-- No call fails.
abbrev unfailing : S3Call → Fault Failure → Prop := fun _ _ => False

theorem unfailing_outages : S3ObjectAdapter.Outages unfailing := fun _ _ h => h.elim

end MeridianS3
