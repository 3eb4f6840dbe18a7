import MeridianS3.Codec.Path
import MeridianS3.Codec.Utf8
import MeridianS3.Layout

namespace MeridianS3

theorem ObjectCommon.encodeUtf8_eq (text : String) :
    encodeUtf8 text = Codec.encodeChars text.toList := by
  have hbytes : text.toUTF8 = (Codec.encodeChars text.toList).toByteArray := by
    rw [String.toUTF8_eq_toByteArray, ← String.utf8Encode_toList]
    rfl
  rw [encodeUtf8, hbytes, List.toList_data_toByteArray]

theorem ObjectCommon.encodeUtf8_append (first second : String) :
    encodeUtf8 (first ++ second) = encodeUtf8 first ++ encodeUtf8 second := by
  rw [encodeUtf8_eq, encodeUtf8_eq, encodeUtf8_eq, String.toList_append]
  exact List.flatMap_append

theorem ObjectCommon.encodeUtf8_injective {first second : String}
    (h : encodeUtf8 first = encodeUtf8 second) : first = second := by
  rw [← String.toByteArray_inj]
  apply ByteArray.ext
  exact Array.toList_inj.mp h

-- What holds of the characters of a given text can be read off the text.
theorem forall_character {holds : Char → Prop} [DecidablePred holds] {characters : List Char}
    (h : characters.all (fun character => decide (holds character)) = true) :
    ∀ character ∈ characters, holds character := by
  intro character hmem
  exact of_decide_eq_true (List.all_eq_true.mp h character hmem)

theorem HexDigest.text_length (hex : HexDigest) : hex.text.toList.length = 64 := by
  have h := hex.shape
  simp only [isHex64, Bool.and_eq_true, decide_eq_true_eq] at h
  exact h.1

theorem HexDigest.mem_text (hex : HexDigest) :
    ∀ character ∈ hex.text.toList, character ∈ HEX_DIGITS := by
  have h := hex.shape
  simp only [isHex64, Bool.and_eq_true, List.all_eq_true, decide_eq_true_eq] at h
  exact h.2

theorem HexDigest.slash_not_mem (hex : HexDigest) : '/' ∉ hex.text.toList := fun hmem =>
  absurd (hex.mem_text '/' hmem) (by decide)

theorem HexDigest.text_ne (hex : HexDigest) {word : List Char} (h : word.length ≠ 64) :
    hex.text.toList ≠ word := by
  rintro rfl
  exact h hex.text_length

theorem HexDigest.ne_text (hex : HexDigest) {word : List Char} (h : word.length ≠ 64) :
    word ≠ hex.text.toList := (hex.text_ne h).symm

theorem HexDigest.ext_text {first second : HexDigest} (h : first.text = second.text) :
    first = second := by
  cases first
  cases second
  simpa using h

theorem HexDigest.toList_inj {first second : HexDigest} :
    first.text.toList = second.text.toList ↔ first = second :=
  ⟨fun h => HexDigest.ext_text (String.toList_inj.mp h), fun h => h ▸ rfl⟩

theorem HexDigest.digest_injective {first second : HexDigest}
    (h : first.digest = second.digest) : first = second := by
  apply HexDigest.ext_text
  rw [← String.toList_inj] at h ⊢
  simpa [HexDigest.digest] using h

@[simp] theorem HexDigest.digest_inj {first second : HexDigest} :
    first.digest = second.digest ↔ first = second :=
  ⟨HexDigest.digest_injective, congrArg _⟩

@[simp] theorem digestHex_digest (hex : HexDigest) : digestHex hex.digest = .ok hex := by
  have htake : hex.digest.toList.take 7 = "sha256:".toList := by
    simp [HexDigest.digest]
  have hdrop : hex.digest.toList.drop 7 = hex.text.toList := by
    simp [HexDigest.digest]
  have hshape : isHex64 (hex.digest.toList.drop 7) = true := hdrop ▸ hex.shape
  unfold digestHex
  rw [dif_pos ⟨htake, hshape⟩]
  congr 1
  apply HexDigest.ext_text
  simp [hdrop]

theorem digestHex_eq_ok {digest : String} {hex : HexDigest} (h : digestHex digest = .ok hex) :
    digest = hex.digest := by
  unfold digestHex at h
  split at h
  · rename_i hcond
    cases h
    rw [← String.toList_inj]
    conv_lhs => rw [← List.take_append_drop 7 digest.toList, hcond.1]
    simp [HexDigest.digest]
  · cases h

-- A key that is made of a digest.
theorem digestKey_ok {digest key : String} {render : HexDigest → String}
    (h : (do
      let hexadecimal ← digestHex digest
      return render hexadecimal : Except Failure String) = .ok key) :
    ∃ content : HexDigest, digest = content.digest ∧ key = render content := by
  obtain ⟨content, hhex, hkey⟩ := bind_ok h
  exact ⟨content, digestHex_eq_ok hhex, (Except.ok.inj hkey).symm⟩

theorem zeroPadded_digits (revision : Nat) :
    ∀ character ∈ zeroPadded revision, character.isDigit = true := by
  intro character hmem
  rw [zeroPadded, List.mem_append] at hmem
  obtain hmem | hmem := hmem
  · rw [List.eq_of_mem_replicate hmem]
    rfl
  · exact Nat.isDigit_of_mem_toDigits (by decide) (by decide) hmem

theorem zeroPadded_injective {first second : Nat} (h : zeroPadded first = zeroPadded second) :
    first = second := by
  have hvalue (revision : Nat) : Nat.ofDigitChars 10 (zeroPadded revision) 0 = revision := by
    simp [zeroPadded, Nat.ofDigitChars_append]
  rw [← hvalue first, h, hvalue]

namespace PhysicalKey

-- Segments of equal length can be read off one after the other.
theorem segment_inj {first second : HexDigest} {rest other : List Char}
    (h : first.text.toList ++ rest = second.text.toList ++ other) : first = second ∧ rest = other := by
  obtain ⟨htext, hrest⟩ := List.append_inj h (by rw [first.text_length, second.text_length])
  exact ⟨HexDigest.ext_text (String.toList_inj.mp htext), hrest⟩

theorem segments_inj {first second third fourth : HexDigest} {separator rest other : List Char}
    (h : first.text.toList ++ (separator ++ (second.text.toList ++ rest)) =
      third.text.toList ++ (separator ++ (fourth.text.toList ++ other))) :
    first = third ∧ second = fourth ∧ rest = other := by
  obtain ⟨hfirst, hrest⟩ := segment_inj h
  obtain ⟨hsecond, hlast⟩ := segment_inj (List.append_cancel_left hrest)
  exact ⟨hfirst, hsecond, hlast⟩

-- The segments of a key behind its root, from the last one back.
def segments : PhysicalKey → List (List Char)
  | .blob resource object content =>
      [content.text.toList, "sha256".toList, object.text.toList, resource.text.toList,
        "objects".toList]
  | .reference resource object content =>
      [content.text.toList ++ ".json".toList, object.text.toList, resource.text.toList,
        "refs".toList]
  | .latest resource object =>
      [object.text.toList ++ ".json".toList, resource.text.toList, "latest".toList]
  | .schema token => [token.text.toList ++ ".json".toList, "schemas".toList, "registry".toList]
  | .registered resource =>
      [resource.text.toList ++ ".json".toList, "resources".toList, "registry".toList]
  | .orphan resource object content =>
      [content.text.toList ++ ".json".toList, object.text.toList, resource.text.toList,
        "orphans".toList]
  | .deletion resource object content =>
      [content.text.toList ++ ".json".toList, object.text.toList, resource.text.toList,
        "deletions".toList]
  | .migration revision => [zeroPadded revision ++ ".json".toList, "migrations".toList]

theorem toList_render (root : String) (key : PhysicalKey) :
    (key.render root).toList = Codec.path '/' root.toList key.segments := by
  cases key <;> simp [render, segments, Codec.path]

theorem slash_not_mem_segments (key : PhysicalKey) : ∀ segment ∈ key.segments, '/' ∉ segment := by
  cases key <;> simp [segments, HexDigest.slash_not_mem]
  case migration revision =>
    intro hmem
    exact absurd (zeroPadded_digits revision '/' hmem) (by decide)

-- Two kinds differ in the first segment where one of them has no digest.
theorem eq_of_segments {first second : PhysicalKey} (h : first.segments <+: second.segments) :
    first = second := by
  cases first <;> cases second <;>
    simp only [segments, List.cons_prefix_cons] at h <;>
    try (simp [HexDigest.text_ne, HexDigest.ne_text] at h; done)
  case blob.blob =>
    simp only [HexDigest.toList_inj] at h
    obtain ⟨rfl, -, rfl, rfl, -⟩ := h
    rfl
  case reference.reference | orphan.orphan | deletion.deletion =>
    simp only [List.append_cancel_right_eq, HexDigest.toList_inj] at h
    obtain ⟨rfl, rfl, rfl, -⟩ := h
    rfl
  case latest.latest =>
    simp only [List.append_cancel_right_eq, HexDigest.toList_inj] at h
    obtain ⟨rfl, rfl, -⟩ := h
    rfl
  case schema.schema | registered.registered =>
    simp only [List.append_cancel_right_eq, HexDigest.toList_inj] at h
    obtain ⟨rfl, -⟩ := h
    rfl
  case migration.migration => rw [zeroPadded_injective (List.append_cancel_right h.1)]

-- A key is read back from its end, so that its root may hold any segments whatsoever.
theorem render_roots {root other : String} {first second : PhysicalKey}
    (h : first.render root = second.render other) : root = other ∧ first = second := by
  rw [← String.toList_inj, toList_render, toList_render] at h
  have hsame : first = second := by
    obtain hshorter | hlonger :=
      Codec.path_segments first.slash_not_mem_segments second.slash_not_mem_segments h
    · exact eq_of_segments hshorter
    · exact (eq_of_segments hlonger).symm
  subst hsame
  exact ⟨String.toList_inj.mp (Codec.path_root _ h), rfl⟩

theorem render_injective (root : String) {first second : PhysicalKey}
    (h : first.render root = second.render root) : first = second := (render_roots h).2

@[simp] theorem render_inj (root : String) (first second : PhysicalKey) :
    first.render root = second.render root ↔ first = second :=
  ⟨render_injective root, congrArg _⟩

-- The scans see reference keys of their own resource, or object, and no others.
theorem referencePrefix_prefix_iff (layout : S3Layout) (resource : ResourceRef)
    (key : PhysicalKey) :
    (layout.referencePrefix resource).toList <+: (key.render layout.root).toList ↔
      ∃ object content, key = .reference (layout.resourceToken resource) object content := by
  constructor
  · rintro ⟨rest, h⟩
    cases key <;>
      simp only [S3Layout.referencePrefix, render, String.toList_append, List.append_assoc,
        List.append_cancel_left_eq] at h <;>
      try (simp at h; done)
    case reference resource object content =>
      obtain ⟨rfl, -⟩ := segment_inj h
      exact ⟨object, content, rfl⟩
  · rintro ⟨object, content, rfl⟩
    exact ⟨object.text.toList ++ ("/".toList ++ (content.text.toList ++ ".json".toList)),
      by simp [S3Layout.referencePrefix, render]⟩

theorem versionPrefix_prefix_iff (layout : S3Layout) (resource : ResourceRef) (objectId : String)
    (key : PhysicalKey) :
    (layout.versionPrefix resource objectId).toList <+: (key.render layout.root).toList ↔
      ∃ content, key =
        .reference (layout.resourceToken resource) (layout.objectToken objectId) content := by
  constructor
  · rintro ⟨rest, h⟩
    cases key <;>
      simp only [S3Layout.versionPrefix, S3Layout.referencePrefix, render, String.toList_append,
        List.append_assoc, List.append_cancel_left_eq] at h <;>
      try (simp at h; done)
    case reference resource object content =>
      obtain ⟨rfl, rfl, -⟩ := segments_inj h
      exact ⟨content, rfl⟩
  · rintro ⟨content, rfl⟩
    exact ⟨content.text.toList ++ ".json".toList,
      by simp [S3Layout.versionPrefix, S3Layout.referencePrefix, render]⟩

end PhysicalKey

namespace S3Layout

variable (layout : S3Layout) (resource : ResourceRef) (objectId : String)

@[simp] theorem blobKey_digest (hex : HexDigest) : layout.blobKey resource objectId hex.digest =
    .ok ((PhysicalKey.blob (layout.resourceToken resource) (layout.objectToken objectId) hex).render
      layout.root) := by
  simp [blobKey]

@[simp] theorem referenceKey_digest (hex : HexDigest) :
    layout.referenceKey resource objectId hex.digest =
      .ok ((PhysicalKey.reference (layout.resourceToken resource) (layout.objectToken objectId)
        hex).render layout.root) := by
  simp [referenceKey]

@[simp] theorem orphanKey_digest (hex : HexDigest) :
    layout.orphanKey resource objectId hex.digest =
      .ok ((PhysicalKey.orphan (layout.resourceToken resource) (layout.objectToken objectId)
        hex).render layout.root) := by
  simp [orphanKey]

@[simp] theorem deletionEvidenceKey_digest (hex : HexDigest) :
    layout.deletionEvidenceKey resource objectId hex.digest =
      .ok ((PhysicalKey.deletion (layout.resourceToken resource) (layout.objectToken objectId)
        hex).render layout.root) := by
  simp [deletionEvidenceKey]

end S3Layout

end MeridianS3
