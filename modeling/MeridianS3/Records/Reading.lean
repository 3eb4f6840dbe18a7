import MeridianS3.Adapter.Reading
import MeridianS3.Records.Theorems

namespace MeridianS3

open Effect ObjectStore Json

namespace S3Transport

variable {transport : S3Transport} {bucket : Bucket} {key : String} {stored : StoredBody}

theorem document_missing (h : bucket.current key = none) :
    transport.document bucket key = .error missingDocument := by
  simp [document, h]

theorem document_canonical {value : Value} (hcurrent : bucket.current key = some stored)
    (hbody : stored.body = transport.common.canonicalJsonBytes value)
    (hcanonical : value.canonical = true) (hmapping : value.isMapping = true)
    (hlength : stored.body.length ≤ MAX_INTERNAL_JSON_BYTES) :
    transport.document bucket key = .ok value := by
  have hlt : ¬MAX_INTERNAL_JSON_BYTES < stored.body.length := by omega
  have hloads : transport.common.jsonLoads stored.body = .ok value := by
    rw [hbody]
    exact transport.common.loads_canonical value hcanonical
  simp only [document, hcurrent, decodeJson, if_neg hlt, hloads, hmapping, if_true]

theorem document_ok {value found : Value} (hcurrent : bucket.current key = some stored)
    (hbody : stored.body = transport.common.canonicalJsonBytes value)
    (hcanonical : value.canonical = true) (h : transport.document bucket key = .ok found) :
    found = value := by
  have hloads : transport.common.jsonLoads stored.body = .ok value := by
    rw [hbody]
    exact transport.common.loads_canonical value hcanonical
  simp only [document, hcurrent, decodeJson, hloads] at h
  split at h
  · cases h
  · split at h
    · exact (Except.ok.inj h).symm
    · cases h

theorem document_ok_current {found : Value} (h : transport.document bucket key = .ok found) :
    ∃ stored, bucket.current key = some stored := by
  cases hcurrent : bucket.current key with
  | none => simp [document_missing hcurrent] at h
  | some stored => exact ⟨stored, rfl⟩

theorem document_length {found : Value} (hcurrent : bucket.current key = some stored)
    (h : transport.document bucket key = .ok found) :
    stored.body.length ≤ MAX_INTERNAL_JSON_BYTES := by
  simp only [document, hcurrent, decodeJson] at h
  split at h
  · cases h
  · omega

-- Only a missing object reads as missing.
theorem decodeJson_found {raw : Bytes} {failure : Failure}
    (h : transport.decodeJson raw = .error failure) : failure.is .objectNotFound = false := by
  unfold decodeJson at h
  split at h
  · cases h
    rfl
  · cases hloads : transport.common.jsonLoads raw with
    | error raised =>
        rw [hloads] at h
        cases raised <;> cases h <;> rfl
    | ok value =>
        rw [hloads] at h
        dsimp only at h
        split at h
        · cases h
        · cases h
          rfl

theorem document_notFound {failure : Failure}
    (h : transport.document bucket key = .error failure)
    (hmissing : failure.is .objectNotFound = true) : bucket.current key = none := by
  cases hcurrent : bucket.current key with
  | none => rfl
  | some stored =>
      simp only [document, hcurrent] at h
      rw [decodeJson_found h] at hmissing
      cases hmissing

end S3Transport

-- A document is small enough to be read back.
def S3Layout.legible (layout : S3Layout) (value : Value) : Prop :=
  (layout.common.canonicalJsonBytes value).length ≤ MAX_INTERNAL_JSON_BYTES

-- All stored documents are.
def S3Layout.Legible (layout : S3Layout) (bucket : Bucket) : Prop :=
  ∀ physical stored, bucket.current (layout.path physical) = some stored →
    (∀ resource object content, physical ≠ .blob resource object content) →
    stored.body.length ≤ MAX_INTERNAL_JSON_BYTES

namespace S3ObjectAdapter

variable {adapter : S3ObjectAdapter} {hashed : Set Bytes} {bucket : Bucket}
variable {resource : ResourceRef} {objectId : String}

theorem pointerDigest_latestValue (digest : String) :
    pointerDigest (latestValue digest) = .ok digest := by
  simp [pointerDigest, latestValue, Value.hasExactly, Value.get?, Value.fields, List.lookup_cons,
    List.lookup_nil, storedDigest]

theorem latestKey_eq (adapter : S3ObjectAdapter) (resource : ResourceRef) (objectId : String) :
    adapter.layout.latestKey resource objectId =
      adapter.layout.path (.latest (adapter.layout.resourceToken resource)
        (adapter.layout.objectToken objectId)) := rfl

theorem latestDigest_points {content : HexDigest}
    (hlegible : adapter.layout.legible (latestValue content.digest))
    (h : adapter.layout.Points bucket (adapter.layout.resourceToken resource)
      (adapter.layout.objectToken objectId) content) :
    adapter.latestDigest bucket resource objectId = .ok content.digest := by
  obtain ⟨stored, hcurrent, hbody⟩ := h
  have hdocument : adapter.transport.document bucket (adapter.layout.latestKey resource objectId) =
      .ok (latestValue content.digest) :=
    S3Transport.document_canonical hcurrent hbody (latestValue_canonical _) rfl
      (hbody ▸ hlegible)
  rw [latestDigest, hdocument]
  exact pointerDigest_latestValue content.digest

theorem latestDigest_ok {digest : String} (hsound : adapter.layout.Sound hashed bucket)
    (h : adapter.latestDigest bucket resource objectId = .ok digest) :
    ∃ content : HexDigest, digest = content.digest ∧
      adapter.layout.Points bucket (adapter.layout.resourceToken resource)
        (adapter.layout.objectToken objectId) content := by
  unfold latestDigest at h
  cases hdocument : adapter.transport.document bucket
      (adapter.layout.latestKey resource objectId) with
  | error failure => simp [hdocument, Except.bind] at h
  | ok value =>
      obtain ⟨stored, hcurrent⟩ := S3Transport.document_ok_current hdocument
      obtain ⟨content, hpoints⟩ := hsound.points hcurrent
      obtain ⟨found, hfound, hbody⟩ := id hpoints
      have hvalue := S3Transport.document_ok hfound hbody (latestValue_canonical _) hdocument
      rw [hdocument, hvalue] at h
      change pointerDigest _ = _ at h
      rw [pointerDigest_latestValue, Except.ok.injEq] at h
      exact ⟨content, h.symm, hpoints⟩

theorem pointerDigest_found {value : Value} {failure : Failure}
    (h : pointerDigest value = .error failure) : failure.is .objectNotFound = false := by
  simp only [pointerDigest, storedDigest] at h
  split at h
  · cases h
    rfl
  · split at h
    · cases h
    · cases h
      rfl

-- Only a missing pointer reads as missing.
theorem latestDigest_notFound {failure : Failure}
    (h : adapter.latestDigest bucket resource objectId = .error failure)
    (hmissing : failure.is .objectNotFound = true) :
    bucket.current (adapter.layout.latestKey resource objectId) = none := by
  unfold latestDigest at h
  cases hdocument : adapter.transport.document bucket
      (adapter.layout.latestKey resource objectId) with
  | error found =>
      rw [hdocument] at h
      cases h
      exact S3Transport.document_notFound hdocument hmissing
  | ok value =>
      rw [hdocument] at h
      have hfound := pointerDigest_found h
      rw [hmissing] at hfound
      cases hfound

theorem checkedEnvelope_toDict (envelope : StoredEnvelope) :
    adapter.checkedEnvelope envelope.metadata.objectRef.objectId envelope.metadata.digest
      (envelope.toDict adapter.common) = .ok envelope := by
  unfold checkedEnvelope
  rw [StoredEnvelope.fromMapping_toDict]
  simp [bind, Except.bind, pure, Except.pure]

theorem envelopeAt_recorded {content : HexDigest} {envelope : StoredEnvelope}
    (hlegible : adapter.layout.legible (envelope.toDict adapter.common))
    (h : adapter.layout.Recorded bucket (adapter.layout.resourceToken resource)
      (adapter.layout.objectToken objectId) content envelope)
    (hobject : envelope.metadata.objectRef.objectId = objectId)
    (hdigest : envelope.metadata.digest = content.digest) :
    adapter.envelopeAt bucket resource objectId content.digest = .ok envelope := by
  obtain ⟨hcanonical, stored, hcurrent, hbody⟩ := h
  have hdocument : adapter.transport.document bucket (adapter.layout.path
      (.reference (adapter.layout.resourceToken resource) (adapter.layout.objectToken objectId)
        content)) = .ok (envelope.toDict adapter.common) :=
    S3Transport.document_canonical hcurrent hbody hcanonical rfl (hbody ▸ hlegible)
  unfold envelopeAt
  rw [S3Layout.referenceKey_digest]
  simp only [Except.bind]
  rw [hdocument, ← hobject, ← hdigest]
  exact checkedEnvelope_toDict envelope

theorem checkedEnvelope_ok {digest : String} {value : Value} {envelope : StoredEnvelope}
    (h : adapter.checkedEnvelope objectId digest value = .ok envelope) :
    StoredEnvelope.fromMapping adapter.common value = .ok envelope ∧
      envelope.metadata.objectRef.objectId = objectId ∧ envelope.metadata.digest = digest := by
  unfold checkedEnvelope at h
  cases hvalue : StoredEnvelope.fromMapping adapter.common value with
  | error failure => simp [hvalue, bind, Except.bind] at h
  | ok found =>
      by_cases hid : found.metadata.objectRef.objectId ≠ objectId ∨ found.metadata.digest ≠ digest
      · simp [hvalue, bind, Except.bind, hid, throw, throwThe, MonadExceptOf.throw] at h
      · simp only [hvalue, bind, Except.bind, if_neg hid, pure, Except.pure, Except.ok.injEq] at h
        subst h
        simp only [not_or, ne_eq, not_not] at hid
        exact ⟨rfl, hid⟩

-- What an exact read returns is what the reference of that content records.
theorem envelopeAt_ok {digest : String} {envelope : StoredEnvelope}
    (hsound : adapter.layout.Sound hashed bucket)
    (h : adapter.envelopeAt bucket resource objectId digest = .ok envelope) :
    ∃ content : HexDigest, digest = content.digest ∧
      adapter.layout.Recorded bucket (adapter.layout.resourceToken resource)
        (adapter.layout.objectToken objectId) content envelope ∧
      envelope.metadata.objectRef.objectId = objectId ∧ envelope.metadata.digest = digest := by
  unfold envelopeAt at h
  cases hhex : digestHex digest with
  | error failure => simp [S3Layout.referenceKey, hhex, bind, Except.bind] at h
  | ok content =>
      have hdigest := digestHex_eq_ok hhex
      subst hdigest
      rw [S3Layout.referenceKey_digest] at h
      simp only [Except.bind] at h
      split at h
      · cases h
      · rename_i value hdocument
        obtain ⟨hvalue, hobject, hdigest⟩ := checkedEnvelope_ok h
        obtain ⟨stored, hcurrent⟩ := S3Transport.document_ok_current hdocument
        obtain ⟨found, hrecorded, henvelope⟩ := hsound.recorded hcurrent
        obtain ⟨hcanonical, other, hother, hbody⟩ := id hrecorded
        have he := S3Transport.document_ok hother hbody hcanonical hdocument
        rw [he, show adapter.common = adapter.layout.common from rfl,
          StoredEnvelope.fromMapping_toDict, Except.ok.injEq] at hvalue
        subst hvalue
        exact ⟨content, rfl, hrecorded, hobject, hdigest⟩

theorem latestEnvelope_recorded {content : HexDigest} {envelope : StoredEnvelope}
    (hpointer : adapter.layout.legible (latestValue content.digest))
    (hlegible : adapter.layout.legible (envelope.toDict adapter.common))
    (hpoints : adapter.layout.Points bucket (adapter.layout.resourceToken resource)
      (adapter.layout.objectToken objectId) content)
    (hrecorded : adapter.layout.Recorded bucket (adapter.layout.resourceToken resource)
      (adapter.layout.objectToken objectId) content envelope)
    (hobject : envelope.metadata.objectRef.objectId = objectId)
    (hdigest : envelope.metadata.digest = content.digest) :
    adapter.latestEnvelope bucket resource objectId = .ok envelope := by
  rw [latestEnvelope, latestDigest_points hpointer hpoints]
  exact envelopeAt_recorded hlegible hrecorded hobject hdigest

theorem latestEnvelope_ok {envelope : StoredEnvelope} (hsound : adapter.layout.Sound hashed bucket)
    (h : adapter.latestEnvelope bucket resource objectId = .ok envelope) :
    ∃ content : HexDigest, adapter.layout.Points bucket (adapter.layout.resourceToken resource)
        (adapter.layout.objectToken objectId) content ∧
      adapter.layout.Recorded bucket (adapter.layout.resourceToken resource)
        (adapter.layout.objectToken objectId) content envelope ∧
      envelope.metadata.objectRef.objectId = objectId ∧
      envelope.metadata.digest = content.digest := by
  unfold latestEnvelope at h
  cases hdigest : adapter.latestDigest bucket resource objectId with
  | error failure => simp [hdigest, Except.bind] at h
  | ok digest =>
      rw [hdigest] at h
      obtain ⟨content, he, hpoints⟩ := latestDigest_ok hsound hdigest
      obtain ⟨other, hother, hrecorded, hobject, hmetadata⟩ := envelopeAt_ok hsound h
      rw [he] at hother hmetadata
      rw [HexDigest.digest_inj] at hother
      subst hother
      exact ⟨content, hpoints, hrecorded, hobject, hmetadata⟩

-- A latest version that is read is stored in documents that can be read back.
theorem latestEnvelope_legible {content : HexDigest} {envelope : StoredEnvelope}
    (hsound : adapter.layout.Sound hashed bucket)
    (hpoints : adapter.layout.Points bucket (adapter.layout.resourceToken resource)
      (adapter.layout.objectToken objectId) content)
    (h : adapter.latestEnvelope bucket resource objectId = .ok envelope) :
    adapter.layout.legible (latestValue content.digest) ∧
      adapter.layout.legible (envelope.toDict adapter.common) := by
  unfold latestEnvelope at h
  cases hdigest : adapter.latestDigest bucket resource objectId with
  | error failure => simp [hdigest, Except.bind] at h
  | ok digest =>
      rw [hdigest] at h
      obtain ⟨found, rfl, hfound⟩ := latestDigest_ok hsound hdigest
      obtain rfl := S3Layout.points_unique hpoints hfound
      constructor
      · obtain ⟨stored, hcurrent, hbody⟩ := hpoints
        unfold latestDigest at hdigest
        cases hdocument : adapter.transport.document bucket
            (adapter.layout.latestKey resource objectId) with
        | error failure => simp [hdocument, Except.bind] at hdigest
        | ok value =>
            have hlength := S3Transport.document_length hcurrent hdocument
            rwa [hbody] at hlength
      · have hread : adapter.envelopeAt bucket resource objectId content.digest = .ok envelope := h
        obtain ⟨other, hother, ⟨-, stored, hcurrent, hbody⟩, -, -⟩ := envelopeAt_ok hsound hread
        rw [HexDigest.digest_inj] at hother
        subst hother
        unfold envelopeAt at hread
        rw [S3Layout.referenceKey_digest] at hread
        cases hdocument : adapter.transport.document bucket (adapter.layout.path (.reference
            (adapter.layout.resourceToken resource) (adapter.layout.objectToken objectId)
            content)) with
        | error failure => simp [hdocument, Except.bind] at hread
        | ok value =>
            have hlength := S3Transport.document_length hcurrent hdocument
            rwa [hbody] at hlength

-- What is recorded does not read as missing.
theorem envelopeAt_found {content : HexDigest} {envelope : StoredEnvelope} {failure : Failure}
    (hrecorded : adapter.layout.Recorded bucket (adapter.layout.resourceToken resource)
      (adapter.layout.objectToken objectId) content envelope)
    (h : adapter.envelopeAt bucket resource objectId content.digest = .error failure) :
    failure.is .objectNotFound = false := by
  obtain ⟨hcanonical, stored, hcurrent, hbody⟩ := hrecorded
  unfold envelopeAt at h
  rw [S3Layout.referenceKey_digest] at h
  simp only [Except.bind] at h
  split at h
  · rename_i found hdocument
    cases h
    cases hmissing : failure.is .objectNotFound with
    | false => rfl
    | true =>
        have hnone := S3Transport.document_notFound hdocument hmissing
        rw [hcurrent] at hnone
        cases hnone
  · rename_i value hdocument
    have he := S3Transport.document_ok hcurrent hbody hcanonical hdocument
    subst he
    unfold checkedEnvelope at h
    rw [show adapter.layout.common = adapter.common from rfl,
      StoredEnvelope.fromMapping_toDict] at h
    simp only [bind, Except.bind] at h
    split at h
    · cases h
      rfl
    · cases h

-- Where the pointer names a recorded version, a look at the latest one finds that version.
theorem latestEnvelope_seen {content : HexDigest} {envelope : StoredEnvelope}
    {latest : Option StoredEnvelope} (hsound : adapter.layout.Sound hashed bucket)
    (hpoints : adapter.layout.Points bucket (adapter.layout.resourceToken resource)
      (adapter.layout.objectToken objectId) content)
    (hrecorded : adapter.layout.Recorded bucket (adapter.layout.resourceToken resource)
      (adapter.layout.objectToken objectId) content envelope)
    (h : missingAsNone (adapter.latestEnvelope bucket resource objectId) = .ok latest) :
    latest = some envelope := by
  cases latest with
  | some found =>
      obtain ⟨other, hother, hfound, -, -⟩ := latestEnvelope_ok hsound (missingAsNone_some h)
      obtain rfl := S3Layout.points_unique hpoints hother
      rw [S3Layout.recorded_unique hfound hrecorded]
  | none =>
      exfalso
      unfold latestEnvelope at h
      cases hdigest : adapter.latestDigest bucket resource objectId with
      | error failure =>
          rw [hdigest] at h
          simp only [Except.bind, missingAsNone] at h
          split at h
          · rename_i hmissing
            have hnone := latestDigest_notFound hdigest hmissing
            obtain ⟨stored, hcurrent, -⟩ := hpoints
            rw [latestKey_eq] at hnone
            exact absurd (hnone.symm.trans hcurrent) (by simp)
          · cases h
      | ok digest =>
          obtain ⟨other, rfl, hother⟩ := latestDigest_ok hsound hdigest
          obtain rfl := S3Layout.points_unique hpoints hother
          rw [hdigest] at h
          simp only [Except.bind, missingAsNone] at h
          split at h
          · cases h
          · rename_i failure hfailure
            rw [envelopeAt_found hrecorded hfailure] at h
            cases h

theorem envelopeAt_congr {first second : Bucket} {resource : ResourceRef} {objectId : String}
    (h : ∀ content, second.current (adapter.layout.path (.reference
        (adapter.layout.resourceToken resource) (adapter.layout.objectToken objectId) content)) =
      first.current (adapter.layout.path (.reference (adapter.layout.resourceToken resource)
        (adapter.layout.objectToken objectId) content))) (digest : String) :
    adapter.envelopeAt second resource objectId digest =
      adapter.envelopeAt first resource objectId digest := by
  unfold envelopeAt S3Layout.referenceKey
  cases digestHex digest with
  | error failure => rfl
  | ok content =>
      change (adapter.transport.document second (adapter.layout.path _)).bind _ =
        (adapter.transport.document first (adapter.layout.path _)).bind _
      simp only [S3Transport.document, h content]

-- What is read of the latest version depends on the pointer and the references.
theorem latestEnvelope_congr {first second : Bucket} {resource : ResourceRef} {objectId : String}
    (hlatest : second.current (adapter.layout.path (.latest (adapter.layout.resourceToken resource)
        (adapter.layout.objectToken objectId))) =
      first.current (adapter.layout.path (.latest (adapter.layout.resourceToken resource)
        (adapter.layout.objectToken objectId))))
    (hversions : ∀ content, second.current (adapter.layout.path (.reference
        (adapter.layout.resourceToken resource) (adapter.layout.objectToken objectId) content)) =
      first.current (adapter.layout.path (.reference (adapter.layout.resourceToken resource)
        (adapter.layout.objectToken objectId) content))) :
    adapter.latestEnvelope second resource objectId =
      adapter.latestEnvelope first resource objectId := by
  have hdigest : adapter.latestDigest second resource objectId =
      adapter.latestDigest first resource objectId := by
    simp only [latestDigest, latestKey_eq, S3Transport.document, hlatest]
  simp only [latestEnvelope, hdigest]
  congr 1
  funext digest
  exact envelopeAt_congr hversions digest

end S3ObjectAdapter

end MeridianS3
