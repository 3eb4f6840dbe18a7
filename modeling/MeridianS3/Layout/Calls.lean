import MeridianS3.Config.Validation
import MeridianS3.Layout.Theorems
import MeridianS3.Standard.Samples

namespace MeridianS3

-- A call of one of the layout's key functions, with its arguments.
inductive KeyCall where
  | blob (resource : ResourceRef) (objectId digest : String)
  | reference (resource : ResourceRef) (objectId digest : String)
  | latest (resource : ResourceRef) (objectId : String)
  | schema («namespace» name version : String)
  | registered (resource : ResourceRef)
  | orphan (resource : ResourceRef) (objectId digest : String)
  | deletionEvidence (resource : ResourceRef) (objectId digest : String)
  | migration (revision : Nat)
deriving DecidableEq

-- A namespace or a name of Core.
def IsIdentifier (text : String) : Prop := ':' ∉ text.toList ∧ '@' ∉ text.toList

namespace KeyCall

def key (layout : S3Layout) : KeyCall → Except Failure String
  | .blob resource objectId digest => layout.blobKey resource objectId digest
  | .reference resource objectId digest => layout.referenceKey resource objectId digest
  | .latest resource objectId => .ok (layout.latestKey resource objectId)
  | .schema «namespace» name version => .ok (layout.schemaKey «namespace» name version)
  | .registered resource => .ok (layout.resourceKey resource)
  | .orphan resource objectId digest => layout.orphanKey resource objectId digest
  | .deletionEvidence resource objectId digest =>
      layout.deletionEvidenceKey resource objectId digest
  | .migration revision => .ok (layout.migrationKey revision)

def isMigration : KeyCall → Bool
  | .migration _ => true
  | _ => false

-- The call names one of these Resources, and its tokens are digests of these bytes.
def Among (common : ObjectCommon) (hashed : Set Bytes) (resources : Set ResourceRef) :
    KeyCall → Prop
  | .blob ref objectId _ | .reference ref objectId _ | .latest ref objectId
  | .orphan ref objectId _ | .deletionEvidence ref objectId _ =>
      (ref ∈ resources ∧ ObjectCommon.encodeUtf8 (common.resourceString ref) ∈ hashed) ∧
        ObjectCommon.encodeUtf8 objectId ∈ hashed
  | .registered ref =>
      ref ∈ resources ∧ ObjectCommon.encodeUtf8 (common.resourceString ref) ∈ hashed
  | .schema «namespace» name version =>
      (IsIdentifier «namespace» ∧ IsIdentifier name) ∧
        ObjectCommon.encodeUtf8 («namespace» ++ ":" ++ name ++ "@" ++ version) ∈ hashed
  | .migration _ => True

-- The call that a physical key answers.
inductive Names (layout : S3Layout) : PhysicalKey → KeyCall → Prop where
  | blob (ref : ResourceRef) (objectId : String) (content : HexDigest) :
      Names layout (.blob (layout.resourceToken ref) (layout.objectToken objectId) content)
        (.blob ref objectId content.digest)
  | reference (ref : ResourceRef) (objectId : String) (content : HexDigest) :
      Names layout (.reference (layout.resourceToken ref) (layout.objectToken objectId) content)
        (.reference ref objectId content.digest)
  | latest (ref : ResourceRef) (objectId : String) :
      Names layout (.latest (layout.resourceToken ref) (layout.objectToken objectId))
        (.latest ref objectId)
  | schema («namespace» name version : String) :
      Names layout (.schema (layout.token («namespace» ++ ":" ++ name ++ "@" ++ version)))
        (.schema «namespace» name version)
  | registered (ref : ResourceRef) :
      Names layout (.registered (layout.resourceToken ref)) (.registered ref)
  | orphan (ref : ResourceRef) (objectId : String) (content : HexDigest) :
      Names layout (.orphan (layout.resourceToken ref) (layout.objectToken objectId) content)
        (.orphan ref objectId content.digest)
  | deletion (ref : ResourceRef) (objectId : String) (content : HexDigest) :
      Names layout (.deletion (layout.resourceToken ref) (layout.objectToken objectId) content)
        (.deletionEvidence ref objectId content.digest)
  | migration (revision : Nat) : Names layout (.migration revision) (.migration revision)

theorem key_ok {layout : S3Layout} {call : KeyCall} {key : String}
    (h : call.key layout = .ok key) :
    ∃ physical, Names layout physical call ∧ key = physical.render layout.root := by
  cases call with
  | blob ref objectId digest =>
    obtain ⟨content, rfl, rfl⟩ := digestKey_ok h
    exact ⟨_, .blob ref objectId content, rfl⟩
  | reference ref objectId digest =>
    obtain ⟨content, rfl, rfl⟩ := digestKey_ok h
    exact ⟨_, .reference ref objectId content, rfl⟩
  | latest ref objectId => exact ⟨_, .latest ref objectId, (Except.ok.inj h).symm⟩
  | schema «namespace» name version =>
    exact ⟨_, .schema «namespace» name version, (Except.ok.inj h).symm⟩
  | registered ref => exact ⟨_, .registered ref, (Except.ok.inj h).symm⟩
  | orphan ref objectId digest =>
    obtain ⟨content, rfl, rfl⟩ := digestKey_ok h
    exact ⟨_, .orphan ref objectId content, rfl⟩
  | deletionEvidence ref objectId digest =>
    obtain ⟨content, rfl, rfl⟩ := digestKey_ok h
    exact ⟨_, .deletion ref objectId content, rfl⟩
  | migration revision => exact ⟨_, .migration revision, (Except.ok.inj h).symm⟩

section Arguments

variable {common : ObjectCommon} {hashed : Set Bytes} {resources : Set ResourceRef}
variable {first second : S3Layout}

-- The first colon ends the namespace, and the first at sign behind it ends the name.
theorem qualified_inj {«namespace» name version space title edition : String}
    (hfirst : IsIdentifier «namespace» ∧ IsIdentifier name)
    (hsecond : IsIdentifier space ∧ IsIdentifier title)
    (h : «namespace» ++ ":" ++ name ++ "@" ++ version = space ++ ":" ++ title ++ "@" ++ edition) :
    «namespace» = space ∧ name = title ∧ version = edition := by
  have hlist : «namespace».toList ++ ':' :: (name.toList ++ '@' :: version.toList) =
      space.toList ++ ':' :: (title.toList ++ '@' :: edition.toList) := by
    rw [← String.toList_inj] at h
    simpa [String.toList_append] using h
  obtain ⟨hspace, hrest⟩ := Codec.separator_append_inj hfirst.1.1 hsecond.1.1 hlist
  obtain ⟨htitle, hedition⟩ := Codec.separator_append_inj hfirst.2.2 hsecond.2.2 hrest
  exact ⟨String.toList_inj.mp hspace, String.toList_inj.mp htitle, String.toList_inj.mp hedition⟩

variable (hfree : Set.InjOn common.hexdigest hashed)
variable (hnames : Set.InjOn common.resourceString resources)
variable (hfirst : first.common = common) (hsecond : second.common = common)

include hfree hfirst hsecond

theorem token_inj {text other : String} (htext : ObjectCommon.encodeUtf8 text ∈ hashed)
    (hother : ObjectCommon.encodeUtf8 other ∈ hashed) (h : first.token text = second.token other) :
    text = other := by
  rw [S3Layout.token, S3Layout.token, hfirst, hsecond] at h
  exact ObjectCommon.encodeUtf8_injective (hfree htext hother h)

include hnames

theorem resourceToken_inj {ref other : ResourceRef}
    (href : ref ∈ resources ∧ ObjectCommon.encodeUtf8 (common.resourceString ref) ∈ hashed)
    (hother : other ∈ resources ∧ ObjectCommon.encodeUtf8 (common.resourceString other) ∈ hashed)
    (h : first.resourceToken ref = second.resourceToken other) : ref = other := by
  rw [S3Layout.resourceToken, S3Layout.resourceToken, hfirst, hsecond] at h
  exact hnames href.1 hother.1 (token_inj hfree hfirst hsecond href.2 hother.2 h)

-- One physical key answers one call.
theorem Names.inj {physical other : PhysicalKey} {call again : KeyCall}
    (hcall : Names first physical call) (hagain : Names second other again)
    (hamong : call.Among common hashed resources)
    (hagainAmong : again.Among common hashed resources) (h : physical = other) : call = again := by
  cases hcall <;> cases hagain <;> try (cases h; done)
  case blob.blob | reference.reference | orphan.orphan | deletion.deletion =>
    injection h with hresource hobject hcontent
    obtain rfl := resourceToken_inj hfree hnames hfirst hsecond hamong.1 hagainAmong.1 hresource
    obtain rfl := token_inj hfree hfirst hsecond hamong.2 hagainAmong.2 hobject
    rw [hcontent]
  case latest.latest =>
    injection h with hresource hobject
    obtain rfl := resourceToken_inj hfree hnames hfirst hsecond hamong.1 hagainAmong.1 hresource
    obtain rfl := token_inj hfree hfirst hsecond hamong.2 hagainAmong.2 hobject
    rfl
  case schema.schema =>
    injection h with htoken
    have htext := token_inj hfree hfirst hsecond hamong.2 hagainAmong.2 htoken
    obtain ⟨rfl, rfl, rfl⟩ := qualified_inj hamong.1 hagainAmong.1 htext
    rfl
  case registered.registered =>
    injection h with hresource
    rw [resourceToken_inj hfree hnames hfirst hsecond hamong hagainAmong hresource]
  case migration.migration =>
    injection h with hrevision
    rw [hrevision]

theorem key_inj {call again : KeyCall} {key : String}
    (hamong : call.Among common hashed resources)
    (hagainAmong : again.Among common hashed resources) (h : call.key first = .ok key)
    (hagain : again.key second = .ok key) : first.root = second.root ∧ call = again := by
  obtain ⟨physical, hcall, rfl⟩ := key_ok h
  obtain ⟨other, hother, hkey⟩ := key_ok hagain
  obtain ⟨hroot, hsame⟩ := PhysicalKey.render_roots hkey
  exact ⟨hroot, hcall.inj hfree hnames hfirst hsecond hother hamong hagainAmong hsame⟩

omit hsecond in
-- A scan of a resource's prefix, or of one object's, sees its own reference keys only.
theorem reference_of_prefix {call : KeyCall} {key : String} {ref : ResourceRef}
    (hamong : call.Among common hashed resources)
    (href : ref ∈ resources ∧ ObjectCommon.encodeUtf8 (common.resourceString ref) ∈ hashed)
    (h : call.key first = .ok key)
    (hstarts : (first.referencePrefix ref).toList <+: key.toList) :
    ∃ objectId digest, call = .reference ref objectId digest := by
  obtain ⟨physical, hcall, rfl⟩ := key_ok h
  obtain ⟨object, content, rfl⟩ :=
    (PhysicalKey.referencePrefix_prefix_iff first ref physical).mp hstarts
  generalize hphysical : PhysicalKey.reference (first.resourceToken ref) object content =
    physical at hcall
  cases hcall <;> try (cases hphysical)
  case reference own objectId content =>
    injection hphysical with hresource
    obtain rfl := resourceToken_inj hfree hnames hfirst hfirst href hamong.1 hresource
    exact ⟨objectId, content.digest, rfl⟩

omit hsecond in
theorem reference_of_version {call : KeyCall} {key : String} {ref : ResourceRef} {objectId : String}
    (hamong : call.Among common hashed resources)
    (href : ref ∈ resources ∧ ObjectCommon.encodeUtf8 (common.resourceString ref) ∈ hashed)
    (hobject : ObjectCommon.encodeUtf8 objectId ∈ hashed) (h : call.key first = .ok key)
    (hstarts : (first.versionPrefix ref objectId).toList <+: key.toList) :
    ∃ digest, call = .reference ref objectId digest := by
  obtain ⟨physical, hcall, rfl⟩ := key_ok h
  obtain ⟨content, rfl⟩ :=
    (PhysicalKey.versionPrefix_prefix_iff first ref objectId physical).mp hstarts
  generalize hphysical : PhysicalKey.reference (first.resourceToken ref)
    (first.objectToken objectId) content = physical at hcall
  cases hcall <;> try (cases hphysical)
  case reference own other content =>
    injection hphysical with hresource hobjects
    obtain rfl := resourceToken_inj hfree hnames hfirst hfirst href hamong.1 hresource
    obtain rfl := token_inj hfree hfirst hfirst hobject hamong.2 hobjects
    exact ⟨content.digest, rfl⟩

end Arguments

end KeyCall

namespace PhysicalKey

theorem segments_ascii (key : PhysicalKey) :
    ∀ segment ∈ key.segments, ∀ character ∈ segment, character.toNat < 128 := by
  have hdigit : ∀ character ∈ HEX_DIGITS, character.toNat < 128 := forall_character (by decide)
  have hhex (hex : HexDigest) : ∀ character ∈ hex.text.toList, character.toNat < 128 :=
    fun character hmem => hdigit character (hex.mem_text character hmem)
  have hdigits (revision : Nat) : ∀ character ∈ zeroPadded revision, character.toNat < 128 := by
    intro character hmem
    have hdecimal := zeroPadded_digits revision character hmem
    rw [Char.isDigit, Bool.and_eq_true, decide_eq_true_eq, decide_eq_true_eq] at hdecimal
    exact Nat.lt_of_le_of_lt hdecimal.2 (by decide)
  have hjson : ∀ character ∈ ".json".toList, character.toNat < 128 := forall_character (by decide)
  have hfile {text : List Char} (htext : ∀ character ∈ text, character.toNat < 128) :
      ∀ character ∈ text ++ ".json".toList, character.toNat < 128 := by
    intro character hmem
    obtain hmem | hmem := List.mem_append.mp hmem
    · exact htext character hmem
    · exact hjson character hmem
  cases key <;>
    simp only [segments, List.mem_cons, List.not_mem_nil, or_false, forall_eq_or_imp, forall_eq]
  case blob =>
    exact ⟨hhex _, forall_character (by decide), hhex _, hhex _, forall_character (by decide)⟩
  case reference | orphan | deletion =>
    exact ⟨hfile (hhex _), hhex _, hhex _, forall_character (by decide)⟩
  case latest => exact ⟨hfile (hhex _), hhex _, forall_character (by decide)⟩
  case schema | registered =>
    exact ⟨hfile (hhex _), forall_character (by decide), forall_character (by decide)⟩
  case migration => exact ⟨hfile (hdigits _), forall_character (by decide)⟩

theorem length_encode_render (root : String) (key : PhysicalKey) :
    (ObjectCommon.encodeUtf8 (key.render root)).length =
      (ObjectCommon.encodeUtf8 root).length +
        (key.segments.map fun segment => segment.length + 1).sum := by
  have hascii : ∀ character ∈ Codec.path '/' [] key.segments, character.toNat < 128 := by
    intro character hmem
    obtain hmem | rfl | ⟨segment, hsegment, hmem⟩ := Codec.mem_path hmem
    · cases hmem
    · decide
    · exact key.segments_ascii segment hsegment character hmem
  have hunder : (key.render root).toList = root.toList ++ Codec.path '/' [] key.segments := by
    rw [toList_render, ← Codec.path_append, List.append_nil]
  rw [ObjectCommon.encodeUtf8_eq, ObjectCommon.encodeUtf8_eq, hunder, Codec.encodeChars,
    List.flatMap_append, List.length_append]
  congr 1
  rw [← Codec.encodeChars, Codec.length_encodeChars_ascii hascii, Codec.length_path]
  exact Nat.zero_add _

-- The longest kinds are the deletions and the blobs.
theorem length_segments {key : PhysicalKey} (h : ∀ revision, key ≠ .migration revision) :
    (key.segments.map fun segment => segment.length + 1).sum ≤ 210 := by
  cases key with
  | migration revision => exact absurd rfl (h revision)
  | _ => simp [segments, HexDigest.text_length]

end PhysicalKey

namespace S3Config

theorem namespaceRoot_inj {first second : S3Config}
    (h : first.namespaceRoot = second.namespaceRoot) : first.keyPrefix = second.keyPrefix := by
  have hslash (text : String) : text ++ "/" ≠ "" := by
    intro hempty
    have hlist := congrArg String.toList hempty
    simp at hlist
  unfold namespaceRoot at h
  by_cases hfirst : first.keyPrefix = ""
  · by_cases hsecond : second.keyPrefix = ""
    · rw [hfirst, hsecond]
    · rw [if_pos hfirst, if_neg hsecond] at h
      exact absurd h.symm (hslash _)
  · by_cases hsecond : second.keyPrefix = ""
    · rw [if_neg hfirst, if_pos hsecond] at h
      exact absurd h (hslash _)
    · rw [if_neg hfirst, if_neg hsecond, ← String.toList_inj, String.toList_append,
        String.toList_append] at h
      exact String.toList_inj.mp (List.append_cancel_right h)

theorem length_namespaceRoot (config : S3Config) :
    (ObjectCommon.encodeUtf8 config.namespaceRoot).length ≤
      (ObjectCommon.encodeUtf8 config.keyPrefix).length + 1 := by
  unfold namespaceRoot
  split
  · exact Nat.zero_le _
  · rw [ObjectCommon.encodeUtf8_append, List.length_append]
    rfl

end S3Config

namespace S3Layout

variable {common : ObjectCommon} {first second : S3Config}

theorem ofConfig_root_inj (h : (ofConfig common first).root = (ofConfig common second).root) :
    first.keyPrefix = second.keyPrefix := by
  apply S3Config.namespaceRoot_inj
  change first.namespaceRoot ++ "_meridian/object/v1" = second.namespaceRoot ++ _ at h
  rw [← String.toList_inj, String.toList_append, String.toList_append] at h
  exact String.toList_inj.mp (List.append_cancel_right h)

theorem length_root (config : S3Config) :
    (ObjectCommon.encodeUtf8 (ofConfig common config).root).length ≤
      (ObjectCommon.encodeUtf8 config.keyPrefix).length + 20 := by
  have hroot := config.length_namespaceRoot
  have hname : (ObjectCommon.encodeUtf8 "_meridian/object/v1").length = 19 := by decide
  change (ObjectCommon.encodeUtf8 (config.namespaceRoot ++ "_meridian/object/v1")).length ≤ _
  rw [ObjectCommon.encodeUtf8_append, List.length_append, hname]
  omega

end S3Layout

theorem KeyCall.length_key {common : ObjectCommon} {config : S3Config} {call : KeyCall}
    {key : String} (hshort : (ObjectCommon.encodeUtf8 config.keyPrefix).length ≤ 768)
    (hkind : call.isMigration = false) (h : call.key (S3Layout.ofConfig common config) = .ok key) :
    (ObjectCommon.encodeUtf8 key).length ≤ 1024 := by
  obtain ⟨physical, hnames, rfl⟩ := key_ok h
  have hother : ∀ revision, physical ≠ .migration revision := by
    rintro revision rfl
    cases hnames
    cases hkind
  have hroot : (ObjectCommon.encodeUtf8 (S3Layout.ofConfig common config).root).length ≤
      (ObjectCommon.encodeUtf8 config.keyPrefix).length + 20 := S3Layout.length_root config
  have hsegments := PhysicalKey.length_segments hother
  rw [PhysicalKey.length_encode_render]
  omega

-- Keys are told apart across configurations, whatever segments their prefixes have, and
-- within one the scans see their own reference keys only. All but the migrations' are
-- within the bound of the store.
theorem keys_unambiguous {common : ObjectCommon} {hashed : Set Bytes} {resources : Set ResourceRef}
    (hfree : Set.InjOn common.hexdigest hashed)
    (hnames : Set.InjOn common.resourceString resources) :
    (∀ (first second : S3Config) (call again : KeyCall) (key : String),
      call.Among common hashed resources → again.Among common hashed resources →
      call.key (S3Layout.ofConfig common first) = .ok key →
      again.key (S3Layout.ofConfig common second) = .ok key →
      first.keyPrefix = second.keyPrefix ∧ call = again) ∧
    (∀ (config : S3Config) (call : KeyCall) (key : String) (ref : ResourceRef),
      call.Among common hashed resources → ref ∈ resources →
      ObjectCommon.encodeUtf8 (common.resourceString ref) ∈ hashed →
      call.key (S3Layout.ofConfig common config) = .ok key →
      ((S3Layout.ofConfig common config).referencePrefix ref).toList <+: key.toList →
      ∃ objectId digest, call = .reference ref objectId digest) ∧
    (∀ (config : S3Config) (call : KeyCall) (key : String) (ref : ResourceRef) (objectId : String),
      call.Among common hashed resources → ref ∈ resources →
      ObjectCommon.encodeUtf8 (common.resourceString ref) ∈ hashed →
      ObjectCommon.encodeUtf8 objectId ∈ hashed →
      call.key (S3Layout.ofConfig common config) = .ok key →
      ((S3Layout.ofConfig common config).versionPrefix ref objectId).toList <+: key.toList →
      ∃ digest, call = .reference ref objectId digest) ∧
    ∀ (urlsplit : String → Except Failure SplitResult) (raw config : S3Config)
      (call : KeyCall) (key : String), raw.postInit urlsplit = .ok config →
      call.isMigration = false → call.key (S3Layout.ofConfig common config) = .ok key →
      (ObjectCommon.encodeUtf8 key).length ≤ 1024 := by
  refine ⟨?_, ?_, ?_, ?_⟩
  · intro first second call again key hcall hagain hkey hsame
    obtain ⟨hroot, heq⟩ := KeyCall.key_inj hfree hnames rfl rfl hcall hagain hkey hsame
    exact ⟨S3Layout.ofConfig_root_inj hroot, heq⟩
  · intro config call key ref hcall href hstring hkey hstarts
    exact KeyCall.reference_of_prefix hfree hnames rfl hcall ⟨href, hstring⟩ hkey hstarts
  · intro config call key ref objectId hcall href hstring hobject hkey hstarts
    exact KeyCall.reference_of_version hfree hnames rfl hcall ⟨href, hstring⟩ hobject hkey hstarts
  · intro urlsplit raw config call key haccepted hkind hkey
    exact KeyCall.length_key (S3Config.postInit_prefix haccepted) hkind hkey

namespace Standard

-- A binding whose prefix goes on with the other's own segments.
def nested : S3Config := { config with keyPrefix := "tests/_meridian/object/v1/latest" }

theorem nested_keys_apart :
    (S3Layout.ofConfig common nested).latestKey resource "channel" ≠
      (S3Layout.ofConfig common config).latestKey resource "channel" ∧
    (ObjectCommon.encodeUtf8
      ((S3Layout.ofConfig common config).latestKey resource "channel")).length ≤ 1024 := by
  obtain ⟨hunique, -, -, hlength⟩ :=
    keys_unambiguous collisionFree (Set.injOn_singleton common.resourceString resource)
  have hamong : (KeyCall.latest resource "channel").Among common hashed {resource} := by
    refine ⟨⟨rfl, ?_⟩, objectId_hashed⟩
    change ObjectCommon.encodeUtf8 "object:mutable.objects" ∈ hashed
    simp [hashed, KNOWN_DIGESTS]
  refine ⟨?_, hlength noSplit config config (.latest resource "channel") _ config_accepted rfl rfl⟩
  intro hsame
  obtain ⟨hsame, -⟩ := hunique nested config (.latest resource "channel")
    (.latest resource "channel") _ hamong hamong rfl (congrArg Except.ok hsame.symm)
  exact absurd hsame (by decide)

end Standard

end MeridianS3
