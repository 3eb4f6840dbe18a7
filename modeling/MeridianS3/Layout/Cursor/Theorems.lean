import MeridianS3.Codec.Utf8
import MeridianS3.Json.Text
import MeridianS3.Layout.Cursor
import MeridianS3.Layout.Theorems
import MeridianS3.Standard.Samples

namespace MeridianS3

open Json

-- Printable ASCII that stands for itself in a JSON string.
def Plain (character : Char) : Prop :=
  32 ≤ character.toNat ∧ character.toNat ≤ 126 ∧ character ≠ '"' ∧ character ≠ '\\'

instance (character : Char) : Decidable (Plain character) :=
  inferInstanceAs (Decidable (_ ∧ _ ∧ _ ∧ _))

-- json.loads as RFC 8259 has it for an object whose members are strings and integers.
def ReadsObjects (common : ObjectCommon) : Prop :=
  ∀ fields : List (String × Value), (Value.obj fields).canonical = true →
    (∀ field ∈ fields, (∃ text, field.2 = .str text) ∨ ∃ value, field.2 = .int value) →
    common.jsonLoads (Codec.encodeChars (Text.write (.obj fields))) = .ok (.obj fields)

namespace Plain

variable {character : Char}

theorem asciiCharacter_eq (h : Plain character) : asciiCharacter character = [character] := by
  obtain ⟨hlow, hhigh, hquote, hslash⟩ := h
  have hne (control : Char) (hcontrol : control.toNat < 32) : character ≠ control := by
    rintro rfl
    omega
  unfold asciiCharacter
  rw [if_neg hquote, if_neg hslash, if_neg (hne '\n' (by decide)), if_neg (hne '\r' (by decide)),
    if_neg (hne '\t' (by decide)), if_neg (by omega), if_neg (by omega), if_pos ⟨hlow, hhigh⟩]

theorem escape_eq (h : Plain character) : Text.escape character = [character] := by
  obtain ⟨hlow, -, hquote, hslash⟩ := h
  unfold Text.escape
  rw [if_neg hquote, if_neg hslash, if_neg (by omega)]

theorem flatMap_eq {write : Char → List Char} {text : List Char}
    (hwrite : ∀ character, Plain character → write character = [character])
    (h : ∀ character ∈ text, Plain character) : text.flatMap write = text := by
  induction text with
  | nil => rfl
  | cons character text ih =>
    rw [List.flatMap_cons, hwrite character (h character (by simp)),
      ih fun other hmem => h other (by simp [hmem])]
    rfl

end Plain

namespace ListCursor

variable {suffix : String}

-- The JSON document of a cursor.
def document (suffix : String) : Value := .obj [("last", .str suffix), ("v", .int 1)]

theorem raw_eq (hplain : ∀ character ∈ suffix.toList, Plain character) :
    raw ⟨suffix⟩ = "\x7b\"last\":\"".toList ++ suffix.toList ++ "\",\"v\":1\x7d".toList := by
  have hsuffix : suffix.toList.flatMap asciiCharacter = suffix.toList :=
    Plain.flatMap_eq (fun _ => Plain.asciiCharacter_eq) hplain
  unfold raw
  rw [hsuffix]

theorem raw_eq_write (hplain : ∀ character ∈ suffix.toList, Plain character) :
    raw ⟨suffix⟩ = Text.write (document suffix) := by
  rw [raw_eq hplain]
  have hsuffix : suffix.toList.flatMap Text.escape = suffix.toList :=
    Plain.flatMap_eq (fun _ => Plain.escape_eq) hplain
  have hone : Text.writeInt 1 = ['1'] := by decide
  simp only [document, Text.write, Text.quote, hsuffix, Text.writeFields, hone]
  simp [Text.escape]

theorem length_raw (hplain : ∀ character ∈ suffix.toList, Plain character) :
    (raw ⟨suffix⟩).length = suffix.length + 17 := by
  have hopen : "\x7b\"last\":\"".toList.length = 9 := by decide
  have hclose : "\",\"v\":1\x7d".toList.length = 8 := by decide
  rw [raw_eq hplain, List.length_append, List.length_append, hopen, hclose, String.length_toList]
  omega

theorem raw_ascii (hplain : ∀ character ∈ suffix.toList, Plain character) :
    ∀ character ∈ raw ⟨suffix⟩, character.toNat < 128 := by
  have hopen : ∀ character ∈ "\x7b\"last\":\"".toList, character.toNat < 128 :=
    forall_character (by decide)
  have hclose : ∀ character ∈ "\",\"v\":1\x7d".toList, character.toNat < 128 :=
    forall_character (by decide)
  rw [raw_eq hplain]
  intro character hmem
  simp only [List.mem_append] at hmem
  obtain (hmem | hmem) | hmem := hmem
  · exact hopen character hmem
  · exact Nat.lt_of_le_of_lt (hplain character hmem).2.1 (by decide)
  · exact hclose character hmem

-- Base64 makes four characters of three bytes.
theorem length_encode (hplain : ∀ character ∈ suffix.toList, Plain character) :
    (encode ⟨suffix⟩).length = (4 * (suffix.length + 17) + 2) / 3 := by
  have hbytes : (ObjectCommon.encodeUtf8 (String.ofList (raw ⟨suffix⟩))).length =
      suffix.length + 17 := by
    rw [ObjectCommon.encodeUtf8_eq, String.toList_ofList,
      Codec.length_encodeChars_ascii (raw_ascii hplain), length_raw hplain]
  rw [encode, String.length_ofList, Codec.length_encodeUnpadded, hbytes]

theorem encode_alphabet : ∀ character ∈ (encode ⟨suffix⟩).toList, character ∈ Codec.URL_SAFE := by
  rw [encode, String.toList_ofList]
  exact Codec.mem_of_mem_encodeUnpadded (by decide) _

theorem document_canonical (suffix : String) : (document suffix).canonical = true := by
  simp only [document, Value.canonical, Value.canonicalFields_iff]
  refine ⟨?_, ?_⟩
  · simp only [List.map_cons, List.map_nil, List.pairwise_cons, List.mem_singleton, forall_eq]
    exact ⟨by decide, by simp, List.Pairwise.nil⟩
  · intro field hfield
    simp only [List.mem_cons, List.not_mem_nil, or_false] at hfield
    obtain rfl | rfl := hfield <;> rfl

theorem ofParsed_document (hlength : suffix.length ≤ 1024) (hslash : '/' ∈ suffix.toList) :
    ofParsed (document suffix) = .ok ⟨suffix⟩ := by
  have hlast : (document suffix).get? "last" = some (.str suffix) := rfl
  have hshape : ¬(¬(document suffix).isMapping ∨ ¬(document suffix).hasExactly ["last", "v"] ∨
      ¬((document suffix).get? "v").any isOne) := by
    have hmapping : (document suffix).isMapping = true := rfl
    have hfields : (document suffix).hasExactly ["last", "v"] = true := rfl
    have hversion : ((document suffix).get? "v").any isOne = true := rfl
    simp [hmapping, hfields, hversion]
  have hbounds : ¬(1024 < suffix.length ∨ '/' ∉ suffix.toList) := by
    rintro (hlong | hnone)
    · omega
    · exact hnone hslash
  simp only [ofParsed, if_neg hshape, hlast, if_neg hbounds]

variable {common : ObjectCommon}

theorem loads_raw (hreads : ReadsObjects common)
    (hplain : ∀ character ∈ suffix.toList, Plain character) :
    common.jsonLoads (ObjectCommon.encodeUtf8 (String.ofList (raw ⟨suffix⟩))) =
      .ok (document suffix) := by
  rw [ObjectCommon.encodeUtf8_eq, String.toList_ofList, raw_eq_write hplain]
  apply hreads _ (document_canonical suffix)
  intro field hfield
  simp only [List.mem_cons, List.not_mem_nil, or_false] at hfield
  obtain rfl | rfl := hfield
  · exact Or.inl ⟨suffix, rfl⟩
  · exact Or.inr ⟨1, rfl⟩

theorem decode_encode (hreads : ReadsObjects common) (hlength : suffix.length ≤ 1024)
    (hslash : '/' ∈ suffix.toList) (hplain : ∀ character ∈ suffix.toList, Plain character) :
    decode common (encode ⟨suffix⟩) = .ok ⟨suffix⟩ := by
  have hencoded := length_encode hplain
  -- What encode wrote passes decode's own bound on the text.
  have hbound : ¬(encode ⟨suffix⟩ = "" ∨ 2048 < (encode ⟨suffix⟩).length) := by
    rintro (hempty | hlong)
    · rw [hempty, String.length_empty] at hencoded
      omega
    · omega
  have htext : (encode ⟨suffix⟩).toList = Codec.encodeUnpadded Codec.URL_SAFE
      (ObjectCommon.encodeUtf8 (String.ofList (raw ⟨suffix⟩))) := String.toList_ofList
  unfold decode document?
  rw [if_neg hbound, ← String.length_toList, htext]
  simp only [Codec.decodePadded_encodeUnpadded Codec.reads_urlSafe,
    loads_raw hreads hplain, ofParsed_document hlength hslash]

end ListCursor

theorem Plain.of_hex {character : Char} (h : character ∈ HEX_DIGITS) : Plain character :=
  forall_character (by decide) character h

-- What stands behind a resource's prefix in one of its reference keys.
def referenceSuffix (object content : HexDigest) : String :=
  object.text ++ "/" ++ content.text ++ ".json"

theorem toList_referenceSuffix (object content : HexDigest) :
    (referenceSuffix object content).toList =
      object.text.toList ++ ("/".toList ++ (content.text.toList ++ ".json".toList)) := by
  simp only [referenceSuffix, String.toList_append, List.append_assoc]

theorem length_referenceSuffix (object content : HexDigest) :
    (referenceSuffix object content).length = 134 := by
  rw [← String.length_toList, toList_referenceSuffix]
  simp only [List.length_append, HexDigest.text_length]
  decide

theorem slash_mem_referenceSuffix (object content : HexDigest) :
    '/' ∈ (referenceSuffix object content).toList := by
  rw [toList_referenceSuffix]
  simp

theorem plain_referenceSuffix (object content : HexDigest) :
    ∀ character ∈ (referenceSuffix object content).toList, Plain character := by
  rw [toList_referenceSuffix]
  intro character hmem
  simp only [List.mem_append] at hmem
  obtain hmem | hmem | hmem | hmem := hmem
  · exact Plain.of_hex (object.mem_text character hmem)
  · exact forall_character (by decide) _ hmem
  · exact Plain.of_hex (content.mem_text character hmem)
  · exact forall_character (by decide) _ hmem

namespace S3Layout

variable (layout : S3Layout) (resource : ResourceRef)

theorem reference_render (object content : HexDigest) :
    (PhysicalKey.reference (layout.resourceToken resource) object content).render layout.root =
      layout.referencePrefix resource ++ referenceSuffix object content := by
  simp [PhysicalKey.render, referencePrefix, referenceSuffix, String.append_assoc]

theorem cursorForKey_append (suffix : String) :
    layout.cursorForKey resource (layout.referencePrefix resource ++ suffix) =
      .ok (ListCursor.encode ⟨suffix⟩) := by
  have hstarts : (layout.referencePrefix resource).toList.isPrefixOf
      ((layout.referencePrefix resource).toList ++ suffix.toList) = true := by
    rw [List.isPrefixOf_iff_prefix]
    exact List.prefix_append _ _
  simp only [cursorForKey, String.toList_append, hstarts, if_true, List.drop_left,
    String.ofList_toList]

theorem startAfter_encode {suffix : String}
    (h : ListCursor.decode layout.common (ListCursor.encode ⟨suffix⟩) = .ok ⟨suffix⟩) :
    layout.startAfter resource (some (ListCursor.encode ⟨suffix⟩)) =
      .ok (some (layout.referencePrefix resource ++ suffix)) := by
  simp only [startAfter, h]
  rfl

end S3Layout

-- A cursor is read back as it was written, from text of the alphabet that decode admits,
-- so that a listing goes on right after the key where it stopped.
theorem cursors_round_trip {common : ObjectCommon} (hreads : ReadsObjects common) :
    (∀ suffix : String, suffix.length ≤ 1024 → '/' ∈ suffix.toList →
      (∀ character ∈ suffix.toList, Plain character) →
      ListCursor.decode common (ListCursor.encode ⟨suffix⟩) = .ok ⟨suffix⟩ ∧
      (ListCursor.encode ⟨suffix⟩).length ≤ 2048 ∧
      ∀ character ∈ (ListCursor.encode ⟨suffix⟩).toList, character ∈ Codec.URL_SAFE) ∧
    ∀ (config : S3Config) (resource : ResourceRef) (objectId digest key : String),
      (S3Layout.ofConfig common config).referenceKey resource objectId digest = .ok key →
      (∃ suffix, key = (S3Layout.ofConfig common config).referencePrefix resource ++ suffix ∧
        suffix.length ≤ 1024 ∧ '/' ∈ suffix.toList ∧
        ∀ character ∈ suffix.toList, Plain character) ∧
      ∃ cursor, (S3Layout.ofConfig common config).cursorForKey resource key = .ok cursor ∧
        (S3Layout.ofConfig common config).startAfter resource (some cursor) = .ok (some key) := by
  constructor
  · intro suffix hlength hslash hplain
    have hencoded := ListCursor.length_encode hplain
    exact ⟨ListCursor.decode_encode hreads hlength hslash hplain, by omega,
      ListCursor.encode_alphabet⟩
  · intro config resource objectId digest key hkey
    generalize hlayout : S3Layout.ofConfig common config = layout at hkey ⊢
    have hcommon : layout.common = common := by rw [← hlayout]; rfl
    obtain ⟨content, -, rfl⟩ := digestKey_ok hkey
    have hlength := length_referenceSuffix (layout.objectToken objectId) content
    have hslash := slash_mem_referenceSuffix (layout.objectToken objectId) content
    have hplain := plain_referenceSuffix (layout.objectToken objectId) content
    rw [S3Layout.reference_render]
    refine ⟨⟨_, rfl, by omega, hslash, hplain⟩, _, layout.cursorForKey_append resource _, ?_⟩
    apply layout.startAfter_encode resource
    rw [hcommon]
    exact ListCursor.decode_encode hreads (by omega) hslash hplain

namespace Standard

theorem reads_objects : ReadsObjects common := fun fields _ _ => loads_canonical (.obj fields)

-- The cursor of the repository's own tests, and one for a key of the sample adapter.
theorem cursor_resumes :
    ListCursor.decode common (ListCursor.encode ⟨"abc/def.json"⟩) = .ok ⟨"abc/def.json"⟩ ∧
    ∃ key cursor, (S3Layout.ofConfig common config).referenceKey resource "channel"
        (common.hexdigest []).digest = .ok key ∧
      (S3Layout.ofConfig common config).cursorForKey resource key = .ok cursor ∧
      (S3Layout.ofConfig common config).startAfter resource (some cursor) = .ok (some key) := by
  obtain ⟨hround, hkeys⟩ := cursors_round_trip reads_objects
  refine ⟨(hround "abc/def.json" (by decide) (by decide) (forall_character (by decide))).1, ?_⟩
  have hkey := (S3Layout.ofConfig common config).referenceKey_digest resource "channel"
    (common.hexdigest [])
  obtain ⟨-, cursor, hcursor, hafter⟩ := hkeys config resource "channel" _ _ hkey
  exact ⟨_, cursor, hkey, hcursor, hafter⟩

end Standard

end MeridianS3
