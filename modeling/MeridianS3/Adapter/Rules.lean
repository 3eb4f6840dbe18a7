import MeridianS3.Adapter.Put
import MeridianS3.Adapter.Reading

namespace MeridianS3

open Effect ObjectStore Json

namespace S3ObjectAdapter

variable {adapter : S3ObjectAdapter} {provider : Provider}
variable {discipline : Discipline S3 Failure String ObjectHeader UInt8}
variable {owned : Set Nat} {state : Bucket} {resource : ResourceRef} {objectId : String}

theorem exactEnvelope_rule {digest : String}
    {post : Except Failure StoredEnvelope → Set Nat → Bucket → Prop}
    (hok : ∀ envelope after, discipline.others state after → discipline.invariant after →
      adapter.envelopeAt after resource objectId digest = .ok envelope →
      post (.ok envelope) owned after)
    (herror : ∀ failure after, discipline.others state after → post (.error failure) owned after) :
    Verified provider.handle discipline.protocol
      (do
        let key ← Program.lift (adapter.layout.referenceKey resource objectId digest)
        let value ← adapter.transport.readJson key
        Program.lift (adapter.checkedEnvelope objectId digest value)) owned state post := by
  have hrefl := discipline.others_same _ _ (.refl state)
  apply Verified.seq
  apply Verified.lift
  cases hkey : adapter.layout.referenceKey resource objectId digest with
  | error failure => exact Verified.done (herror failure state hrefl)
  | ok key =>
      apply Verified.seq
      apply S3Transport.readJson_rule
      intro before hothers hinv
      refine ⟨?_, fun fault _ => Verified.done (herror _ before hothers)⟩
      cases hdocument : adapter.transport.document before key with
      | error failure => exact Verified.done (herror failure before hothers)
      | ok value =>
          apply Verified.lift
          cases hchecked : adapter.checkedEnvelope objectId digest value with
          | error failure => exact herror failure before hothers
          | ok envelope =>
              apply hok envelope before hothers hinv
              simp [envelopeAt, hkey, hdocument, hchecked, Except.bind]

-- The pointer is read first and the reference that it names afterwards.
theorem tryLatest_rule {post : Except Failure (Option StoredEnvelope) → Set Nat → Bucket → Prop}
    (hsome : ∀ envelope digest first second, discipline.others state first →
      discipline.invariant first → adapter.latestDigest first resource objectId = .ok digest →
      discipline.others first second → discipline.invariant second →
      adapter.envelopeAt second resource objectId digest = .ok envelope →
      post (.ok (some envelope)) owned second)
    (hother : ∀ result after, discipline.others state after →
      (∀ envelope, result ≠ .ok (some envelope)) → post result owned after) :
    Verified provider.handle discipline.protocol (adapter.tryLatest resource objectId) owned state
      post := by
  have hfailed (failure : Failure) (after : Bucket) (hothers : discipline.others state after) :
      Verified provider.handle discipline.protocol
        (if failure.is .objectNotFound then pure none else throw failure :
          S3M (Option StoredEnvelope)) owned after post := by
    split
    · exact Verified.done (hother _ after hothers (by simp))
    · exact Verified.done (hother _ after hothers (by simp))
  apply Verified.recover
  apply Verified.map
  apply Verified.seq
  apply Verified.seq
  apply S3Transport.readJson_rule
  intro first hfirst hinv
  refine ⟨?_, fun fault _ => Verified.done (hfailed _ first hfirst)⟩
  cases hdocument : adapter.transport.document first
      (adapter.layout.latestKey resource objectId) with
  | error failure => exact Verified.done (hfailed _ first hfirst)
  | ok value =>
      apply Verified.lift
      cases hdigest : pointerDigest value with
      | error failure => exact Verified.done (hfailed _ first hfirst)
      | ok digest =>
          have hlatest : adapter.latestDigest first resource objectId = .ok digest := by
            simp [latestDigest, hdocument, hdigest, Except.bind]
          apply exactEnvelope_rule
          · intro envelope second hsecond hinvsecond henvelope
            exact Verified.done (hsome envelope digest first second hfirst hinv hlatest hsecond
              hinvsecond henvelope)
          · intro failure second hsecond
            exact hfailed failure second (discipline.others_trans _ _ _ hfirst hsecond)

-- While no profile is stored for the resource, the default profile is found.
theorem resourceProfile_rule {post : Except Failure Value → Set Nat → Bucket → Prop}
    (hok : ∀ profile after, discipline.others state after →
      ((∀ seen, discipline.others state seen →
        seen.current (adapter.layout.resourceKey resource) = none) →
        profile = adapter.common.defaultProfile) → post (.ok profile) owned after)
    (herror : ∀ failure after, discipline.others state after → post (.error failure) owned after) :
    Verified provider.handle discipline.protocol (adapter.resourceProfile resource) owned state
      post := by
  have hfailed (failure : Failure) (after : Bucket) (hothers : discipline.others state after) :
      Verified provider.handle discipline.protocol
        (if failure.is .objectNotFound then pure none else throw failure :
          S3M (Option Value)) owned after fun result held final =>
        Verified provider.handle discipline.protocol
          (Program.onOk (fun found => Program.lift (adapter.storedProfile found)) result) held final
          post := by
    split
    · exact Verified.done (hok _ after hothers fun _ => rfl)
    · exact Verified.done (herror failure after hothers)
  apply Verified.seq
  apply Verified.recover
  apply Verified.map
  apply S3Transport.readJson_rule
  intro before hothers hinv
  refine ⟨?_, fun fault _ => hfailed _ before hothers⟩
  cases hdocument : adapter.transport.document before (adapter.layout.resourceKey resource) with
  | error failure => exact hfailed failure before hothers
  | ok value =>
      apply Verified.done
      apply Verified.lift
      cases hprofile : adapter.storedProfile (some value) with
      | error failure => exact herror failure before hothers
      | ok profile =>
          apply hok profile before hothers
          intro hnone
          simp [S3Transport.document, hnone before hothers] at hdocument

theorem failing_rule {α : Type} {flag : Bool} {program : S3M α}
    {post : Except Failure α → Set Nat → Bucket → Prop}
    (h : Verified provider.handle discipline.protocol program owned state fun result held after =>
      post (result.mapError fun failure => { failure with physicalCommitPossible := some flag })
        held after) :
    Verified provider.handle discipline.protocol (failing flag program) owned state post := by
  apply Verified.recover
  apply h.mono
  intro result held after hpost
  cases result <;> exact hpost

end S3ObjectAdapter

end MeridianS3
