import MeridianS3.Envelope

namespace MeridianS3

open Json

-- The fields of a record that can stand in a document.
structure RetentionRecord.Canonical (record : RetentionRecord) : Prop where
  retainUntil : record.retainUntil.canonical = true
  policy : record.policy.canonical = true
  requireEnforcement : record.requireEnforcement.canonical = true
  providerEnforced : record.providerEnforced.canonical = true
  objectLockMode : record.objectLockMode.canonical = true

namespace RetentionRecord

theorem fromRequest_canonical {request : Option RetentionRequest} {config : S3Config}
    {record : RetentionRecord} (h : fromRequest request config = .ok (some record)) :
    record.Canonical := by
  cases request with
  | none => simp [fromRequest] at h
  | some request =>
      simp only [fromRequest] at h
      split at h
      · cases h
      · cases h
        refine ⟨Value.ofOption_canonical _, Value.ofOption_canonical _, rfl, rfl, ?_⟩
        simp only
        split
        · exact Value.ofOption_canonical _
        · rfl

theorem toDict_canonical {record : RetentionRecord} (h : record.Canonical) :
    record.toDict.canonical = true := by
  have h1 : ("objectLockMode" : String) < "policy" := by decide
  have h2 : ("policy" : String) < "providerEnforced" := by decide
  have h3 : ("providerEnforced" : String) < "requireEnforcement" := by decide
  have h4 : ("requireEnforcement" : String) < "retainUntil" := by decide
  simp only [toDict, Value.canonical, Value.canonicalFields, List.all_cons, List.all_nil, h1, h2, h3,
    h4, h1.trans h2, h2.trans h3, h3.trans h4, (h1.trans h2).trans h3, (h2.trans h3).trans h4,
    ((h1.trans h2).trans h3).trans h4, h.retainUntil, h.policy, h.requireEnforcement,
    h.providerEnforced, h.objectLockMode, decide_true, Bool.and_self]

theorem fromMapping_toDict (record : RetentionRecord) :
    fromMapping record.toDict = .ok (some record) := by
  simp [fromMapping, toDict, Value.hasExactly, Value.get?, Value.fields, FIELDS,
    List.lookup_cons, List.lookup_nil]

end RetentionRecord

namespace StoredEnvelope

variable (common : ObjectCommon)

theorem toDict_canonical {envelope : StoredEnvelope}
    (hversion : envelope.blobVersionId.canonical = true)
    (hretention : ∀ record ∈ envelope.retention, record.Canonical) :
    (envelope.toDict common).canonical = true := by
  have h1 : ("blobVersionId" : String) < "formatVersion" := by decide
  have h2 : ("formatVersion" : String) < "integrity" := by decide
  have h3 : ("integrity" : String) < "metadata" := by decide
  have h4 : ("metadata" : String) < "retention" := by decide
  have hchunks : ("chunkBytes" : String) < "chunkDigests" := by decide
  have hdigests : Value.canonicalItems (envelope.chunkDigests.map .str) = true := by
    rw [Value.canonicalItems_iff]
    intro item hitem
    obtain ⟨digest, -, rfl⟩ := List.mem_map.mp hitem
    rfl
  have hrecord : ((envelope.retention.map RetentionRecord.toDict).getD .null).canonical = true := by
    cases he : envelope.retention with
    | none => rfl
    | some record => exact RetentionRecord.toDict_canonical (hretention record he)
  simp only [toDict, Value.canonical, Value.canonicalFields, List.all_cons, List.all_nil, h1, h2, h3,
    h4, h1.trans h2, h2.trans h3, h3.trans h4, (h1.trans h2).trans h3, (h2.trans h3).trans h4,
    ((h1.trans h2).trans h3).trans h4, hchunks, hdigests, hrecord, hversion,
    common.metadata_canonical, decide_true, Bool.and_self]

theorem stringItems (digests : List String) :
    digests.mapM (stringItem ∘ Value.str) = some digests := by
  induction digests with
  | nil => rfl
  | cons digest rest ih => simp [stringItem, ih]

theorem retention_toDict (retention : Option RetentionRecord) :
    RetentionRecord.fromMapping ((retention.map RetentionRecord.toDict).getD .null) =
      .ok retention := by
  cases retention with
  | none => rfl
  | some record => exact RetentionRecord.fromMapping_toDict record

-- What toDict writes is read back as the same envelope.
theorem fromMapping_toDict (envelope : StoredEnvelope) :
    fromMapping common (envelope.toDict common) = .ok envelope := by
  have hfields : (envelope.toDict common).hasExactly FIELDS = true := by
    simp [toDict, Value.hasExactly, Value.get?, Value.fields, FIELDS,
      List.lookup_cons, List.lookup_nil]
  have hintegrity : integrityFields (.obj
      [("chunkBytes", .int envelope.integrityChunkBytes),
        ("chunkDigests", .arr (envelope.chunkDigests.map .str))]) =
      .ok (envelope.integrityChunkBytes, envelope.chunkDigests) := by
    simp [integrityFields, Value.hasExactly, Value.get?, Value.fields, List.lookup_cons,
      List.lookup_nil, stringItems]
  have hretention : ¬((envelope.retention.map RetentionRecord.toDict).getD .null ≠ .null ∧
      ¬((envelope.retention.map RetentionRecord.toDict).getD .null).isMapping = true) := by
    cases envelope.retention <;> simp [RetentionRecord.toDict, Value.isMapping]
  have hshape : ¬(¬(envelope.toDict common).hasExactly FIELDS = true ∨
      Value.str ENVELOPE_VERSION ≠ .str ENVELOPE_VERSION) := by
    rw [hfields]
    simp
  have hmetadata : jsonMapping (common.metadataToDict envelope.metadata) "stored metadata" =
      .ok (common.metadataToDict envelope.metadata) := if_pos (common.metadata_mapping _)
  have hmapping : jsonMapping (.obj
      [("chunkBytes", .int envelope.integrityChunkBytes),
        ("chunkDigests", .arr (envelope.chunkDigests.map .str))]) "stored integrity" =
      .ok (.obj [("chunkBytes", .int envelope.integrityChunkBytes),
        ("chunkDigests", .arr (envelope.chunkDigests.map .str))]) := rfl
  unfold fromMapping
  rw [show (envelope.toDict common).get? "formatVersion" = some (.str ENVELOPE_VERSION) from rfl,
    show (envelope.toDict common).get? "metadata" =
      some (common.metadataToDict envelope.metadata) from rfl,
    show (envelope.toDict common).get? "blobVersionId" = some envelope.blobVersionId from rfl,
    show (envelope.toDict common).get? "retention" =
      some ((envelope.retention.map RetentionRecord.toDict).getD .null) from rfl,
    show (envelope.toDict common).get? "integrity" = some (.obj
      [("chunkBytes", .int envelope.integrityChunkBytes),
        ("chunkDigests", .arr (envelope.chunkDigests.map .str))]) from rfl]
  dsimp only
  rw [if_neg hshape, hmetadata, hmapping]
  simp only [if_neg hretention, retention_toDict]
  change (integrityFields _ >>= _) = _
  rw [hintegrity]
  change (common.parseObjectMetadata _ >>= _) = _
  rw [common.parse_toDict]
  rfl

end StoredEnvelope

theorem latestValue_canonical (digest : String) : (latestValue digest).canonical = true := by
  have h : ("digest" : String) < "formatVersion" := by decide
  simp only [latestValue, Value.canonical, Value.canonicalFields, List.all_cons, List.all_nil, h,
    decide_true, Bool.and_self]

end MeridianS3
