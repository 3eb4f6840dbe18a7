import MeridianS3.Codec.Path
import MeridianS3.Layout.Theorems
import MeridianS3.Runtime.Factory
import Mathlib.Data.List.Dedup

namespace MeridianS3

open Json

variable {Client Manifest : Type}

namespace S3Config

variable {urlsplit : String → Except Failure SplitResult} {config raw : S3Config}

theorem acceptedPrefix_plain {keyPrefix : String} (h : acceptedPrefix config = .ok keyPrefix) :
    keyPrefix.toList.any isControl = false := by
  unfold acceptedPrefix at h
  dsimp only at h
  split at h
  · cases h
  · rename_i hbounded
    split at h
    · cases h
    · rw [← Except.ok.inj h]
      exact Bool.eq_false_iff.mpr fun hcontrol => hbounded (.inr hcontrol)

-- An accepted configuration has no control characters in its bucket and its prefix.
theorem postInit_plain (h : raw.postInit urlsplit = .ok config) :
    (∀ character ∈ config.bucket.toList, isControl character = false) ∧
      ∀ character ∈ config.keyPrefix.toList, isControl character = false := by
  obtain ⟨bucket, hbucket, h⟩ := bind_ok h
  obtain ⟨keyPrefix, hprefix, h⟩ := bind_ok h
  obtain ⟨_, _, h⟩ := bind_ok h
  obtain ⟨_, _, h⟩ := bind_ok h
  obtain ⟨_, _, h⟩ := bind_ok h
  obtain ⟨objectLockMode, _, h⟩ := bind_ok h
  obtain ⟨_, _, h⟩ := bind_ok h
  obtain rfl := Except.ok.inj h
  obtain ⟨found, hfound, hbucket⟩ := bind_ok hbucket
  obtain ⟨rfl, hbounded⟩ := boundedString_ok hfound
  obtain ⟨-, hbucket⟩ := guard_passed hbucket
  obtain rfl := Except.ok.inj hbucket
  have hplain := acceptedPrefix_plain hprefix
  simp only [List.any_eq_false, Bool.not_eq_true] at hplain
  have hnamed := hbounded.2.2
  simp only [List.any_eq_false, Bool.not_eq_true] at hnamed
  exact ⟨hnamed, hplain⟩

end S3Config

theorem mem_of_mapM {α β : Type} {f : α → Except Failure β} {items : List α} {values : List β}
    (h : items.mapM f = .ok values) {value : β} (hmem : value ∈ values) :
    ∃ item ∈ items, f item = .ok value := by
  induction items generalizing values with
  | nil =>
      obtain rfl := Except.ok.inj h
      cases hmem
  | cons item rest ih =>
      rw [List.mapM_cons] at h
      obtain ⟨first, hfirst, h⟩ := bind_ok h
      obtain ⟨others, hothers, h⟩ := bind_ok h
      obtain rfl := Except.ok.inj h
      rcases List.mem_cons.mp hmem with rfl | hmem
      · exact ⟨item, List.mem_cons_self, hfirst⟩
      · obtain ⟨found, hfound, hvalue⟩ := ih hothers hmem
        exact ⟨found, List.mem_cons_of_mem _ hfound, hvalue⟩

namespace Standard

def openRuntime : S3AdapterRuntime Unit CapabilityManifest :=
  { boundRuntime with transport := some (), isOpen := true }

-- The same in another prefix of the bucket.
def movedRuntime : S3AdapterRuntime Unit CapabilityManifest :=
  { openRuntime with config := { boundConfig with keyPrefix := "others" } }

theorem moved_accepted :
    movedRuntime.config.postInit splitOrigin = .ok movedRuntime.config := by decide

def physical (name : String) : S3AdapterRuntime.PhysicalResource :=
  ⟨⟨"object", "mutable", name⟩, "sha256:resource", none, "object"⟩

def jsonDigest (value : Value) : String := common.digest (canonicalJsonBytes value)

end Standard

namespace S3AdapterRuntime

variable (runtime : S3AdapterRuntime Client Manifest) {around : Surroundings Client Manifest}
  {sha256Fingerprint : Value → String}

-- str(resource_ref)
def physicalName (resource : PhysicalResource) : String :=
  runtime.common.resourceString resource.resourceRef

-- What is hashed into the opaque name of a Resource.
def physicalText (name : String) : Bytes :=
  ObjectCommon.encodeUtf8
    (runtime.config.bucket ++ "\x00" ++ runtime.config.keyPrefix ++ "\x00" ++ name)

variable {runtime}

-- The order in which the Resources are asked for does not show in the verification.
theorem physical_permuted {first second : List PhysicalResource} (hperm : first.Perm second)
    (hnames : ∀ resource ∈ first, ∀ other ∈ first,
      runtime.physicalName resource = runtime.physicalName other → resource = other) :
    runtime.verifyPhysical around sha256Fingerprint first =
      runtime.verifyPhysical around sha256Fingerprint second := by
  have hsorted (resources : List PhysicalResource) :
      (resources.mergeSort fun first second => decide
        (runtime.common.resourceString first.resourceRef ≤
          runtime.common.resourceString second.resourceRef)).Pairwise fun first second =>
            runtime.physicalName first ≤ runtime.physicalName second := by
    apply (List.pairwise_mergeSort ?_ ?_ resources).imp
    · intro first second h
      exact of_decide_eq_true h
    · intro first second third hfirst hsecond
      exact decide_eq_true
        (le_trans (of_decide_eq_true hfirst) (of_decide_eq_true hsecond))
    · intro first second
      rw [Bool.or_eq_true, decide_eq_true_eq, decide_eq_true_eq]
      exact le_total _ _
  have hsame : (first.mergeSort fun first second => decide
      (runtime.common.resourceString first.resourceRef ≤
        runtime.common.resourceString second.resourceRef)) =
      second.mergeSort fun first second => decide
        (runtime.common.resourceString first.resourceRef ≤
          runtime.common.resourceString second.resourceRef) := by
    apply List.Perm.eq_of_pairwise _ (hsorted first) (hsorted second)
    · exact (List.mergeSort_perm ..).trans (hperm.trans (List.mergeSort_perm ..).symm)
    · intro resource other hresource hother hle hge
      exact hnames resource (List.mem_mergeSort.mp hresource) other
        (hperm.mem_iff.mpr (List.mem_mergeSort.mp hother)) (le_antisymm hle hge)
  unfold verifyPhysical
  rw [hsame, hperm.length_eq]

theorem physical_swapped :
    Standard.openRuntime.verifyPhysical (Standard.surroundings (.ok ())) Standard.jsonDigest
        [Standard.physical "objects", Standard.physical "drafts"] =
      Standard.openRuntime.verifyPhysical (Standard.surroundings (.ok ())) Standard.jsonDigest
        [Standard.physical "drafts", Standard.physical "objects"] := by
  apply physical_permuted (List.Perm.swap ..)
  have hne : Standard.openRuntime.physicalName (Standard.physical "objects") ≠
      Standard.openRuntime.physicalName (Standard.physical "drafts") := by decide
  intro resource hresource other hother hsame
  simp only [List.mem_cons, List.not_mem_nil, or_false] at hresource hother
  rcases hresource with rfl | rfl <;> rcases hother with rfl | rfl
  · rfl
  · exact absurd hsame hne
  · exact absurd hsame.symm hne
  · rfl

section Mapped

variable {resources : List PhysicalResource} {verification : PhysicalVerification}

-- The opaque name of a Resource.
def physicalEntry (runtime : S3AdapterRuntime Client Manifest) (resource : PhysicalResource) :
    String × String :=
  (runtime.physicalName resource, "s3:sha256:" ++
    (runtime.common.hexdigest (runtime.physicalText (runtime.physicalName resource))).text)

theorem physicalMapping_entry {resource : PhysicalResource} {mapped : (String × String) × Value}
    (h : runtime.physicalMapping resource = .ok mapped) :
    mapped.1 = runtime.physicalEntry resource := by
  unfold physicalMapping at h
  split at h
  · cases h
  · rw [← Except.ok.inj h]
    rfl

theorem mem_mappings
    (h : runtime.verifyPhysical around sha256Fingerprint resources = .ok verification)
    {entry : String × String} (hentry : entry ∈ verification.mappings) :
    ∃ resource ∈ resources, entry = runtime.physicalEntry resource := by
  obtain ⟨_, _, h⟩ := bind_ok h
  obtain ⟨_, _, h⟩ := bind_ok h
  obtain ⟨mapped, hmapped, h⟩ := bind_ok h
  obtain rfl := Except.ok.inj h
  obtain ⟨pair, hpair, rfl⟩ := List.mem_map.mp (List.mem_dedup.mp hentry)
  obtain ⟨resource, hresource, hok⟩ := mem_of_mapM hmapped hpair
  exact ⟨resource, List.mem_mergeSort.mp hresource, physicalMapping_entry hok⟩

theorem physicalText_inj {first second : S3AdapterRuntime Client Manifest}
    {urlsplit : String → Except Failure SplitResult} {raw other : S3Config}
    (hfirst : raw.postInit urlsplit = .ok first.config)
    (hsecond : other.postInit urlsplit = .ok second.config) {name title : String}
    (h : first.physicalText name = second.physicalText title) :
    first.config.bucket = second.config.bucket ∧
      first.config.keyPrefix = second.config.keyPrefix ∧ name = title := by
  obtain ⟨hbucket, hprefix⟩ := S3Config.postInit_plain hfirst
  obtain ⟨hother, hlater⟩ := S3Config.postInit_plain hsecond
  have hseparates {text : List Char}
      (hplain : ∀ character ∈ text, S3Config.isControl character = false) : '\x00' ∉ text := by
    intro hmem
    exact absurd (hplain _ hmem) (by decide)
  have hlist : first.config.bucket.toList ++ '\x00' ::
      (first.config.keyPrefix.toList ++ '\x00' :: name.toList) =
        second.config.bucket.toList ++ '\x00' ::
          (second.config.keyPrefix.toList ++ '\x00' :: title.toList) := by
    have htext := congrArg String.toList (ObjectCommon.encodeUtf8_injective h)
    simpa [String.toList_append] using htext
  obtain ⟨hsame, hrest⟩ :=
    Codec.separator_append_inj (hseparates hbucket) (hseparates hother) hlist
  obtain ⟨hagain, hname⟩ :=
    Codec.separator_append_inj (hseparates hprefix) (hseparates hlater) hrest
  exact ⟨String.toList_inj.mp hsame, String.toList_inj.mp hagain, String.toList_inj.mp hname⟩

-- The texts that two verifications hash.
def PhysicalTexts (first second : S3AdapterRuntime Client Manifest)
    (resources others : List PhysicalResource) : Set Bytes :=
  {text | (∃ resource ∈ resources, text = first.physicalText (first.physicalName resource)) ∨
    ∃ resource ∈ others, text = second.physicalText (second.physicalName resource)}

-- Two verifications, of one binding or of two, give the same opaque name only to the same
-- Resource in the same place.
theorem physical_unambiguous {first second : S3AdapterRuntime Client Manifest}
    {urlsplit : String → Except Failure SplitResult} {raw other : S3Config}
    (hcommon : second.common = first.common)
    (hfirst : raw.postInit urlsplit = .ok first.config)
    (hsecond : other.postInit urlsplit = .ok second.config) {others : List PhysicalResource}
    {again : PhysicalVerification}
    (hfree : Set.InjOn first.common.hexdigest (PhysicalTexts first second resources others))
    (hverified : first.verifyPhysical around sha256Fingerprint resources = .ok verification)
    (hagain : second.verifyPhysical around sha256Fingerprint others = .ok again)
    {entry later : String × String} (hentry : entry ∈ verification.mappings)
    (hlater : later ∈ again.mappings) :
    entry.2 = later.2 ↔ first.config.bucket = second.config.bucket ∧
      first.config.keyPrefix = second.config.keyPrefix ∧ entry.1 = later.1 := by
  obtain ⟨resource, hresource, rfl⟩ := mem_mappings hverified hentry
  obtain ⟨found, hfound, rfl⟩ := mem_mappings hagain hlater
  dsimp only [physicalEntry]
  rw [hcommon]
  constructor
  · intro hsame
    have hlist := congrArg String.toList hsame
    rw [String.toList_append, String.toList_append] at hlist
    have htext := HexDigest.ext_text (String.toList_inj.mp (List.append_cancel_left hlist))
    exact physicalText_inj hfirst hsecond
      (hfree (.inl ⟨resource, hresource, rfl⟩) (.inr ⟨found, hfound, rfl⟩) htext)
  · rintro ⟨hbucket, hprefix, hname⟩
    rw [hname, physicalText, physicalText, hbucket, hprefix]

theorem bindings_named_apart :
    (Standard.openRuntime.physicalEntry (Standard.physical "objects")).2 ≠
      (Standard.movedRuntime.physicalEntry (Standard.physical "objects")).2 := by
  intro hsame
  obtain ⟨verification, hverified, hentry⟩ : ∃ verification,
      Standard.openRuntime.verifyPhysical (Standard.surroundings (.ok ())) Standard.jsonDigest
        [Standard.physical "objects"] = .ok verification ∧
      Standard.openRuntime.physicalEntry (Standard.physical "objects") ∈
        verification.mappings := by
    unfold verifyPhysical
    rw [List.mergeSort_singleton]
    refine ⟨_, rfl, ?_⟩
    exact List.mem_dedup.mpr (List.mem_singleton.mpr rfl)
  obtain ⟨again, hagain, hlater⟩ : ∃ verification,
      Standard.movedRuntime.verifyPhysical (Standard.surroundings (.ok ())) Standard.jsonDigest
        [Standard.physical "objects"] = .ok verification ∧
      Standard.movedRuntime.physicalEntry (Standard.physical "objects") ∈
        verification.mappings := by
    unfold verifyPhysical
    rw [List.mergeSort_singleton]
    refine ⟨_, rfl, ?_⟩
    exact List.mem_dedup.mpr (List.mem_singleton.mpr rfl)
  have hne : Standard.hexdigest (Standard.openRuntime.physicalText
        (Standard.openRuntime.physicalName (Standard.physical "objects"))) ≠
      Standard.hexdigest (Standard.movedRuntime.physicalText
        (Standard.movedRuntime.physicalName (Standard.physical "objects"))) := by
    decide +kernel
  have hfree : Set.InjOn Standard.hexdigest (PhysicalTexts Standard.openRuntime
      Standard.movedRuntime [Standard.physical "objects"] [Standard.physical "objects"]) := by
    rintro text (⟨resource, hresource, rfl⟩ | ⟨resource, hresource, rfl⟩) other
      (⟨found, hfound, rfl⟩ | ⟨found, hfound, rfl⟩) heq
    all_goals
      obtain rfl := List.mem_singleton.mp hresource
      obtain rfl := List.mem_singleton.mp hfound
    · rfl
    · exact absurd heq hne
    · exact absurd heq.symm hne
    · rfl
  have hbound : Standard.boundConfig.postInit Standard.splitOrigin =
      .ok Standard.openRuntime.config :=
    (S3AdapterFactory.create_ok Standard.factory_creates).accepted
  have hcommon : Standard.movedRuntime.common = Standard.openRuntime.common := rfl
  have hplace := (physical_unambiguous hcommon hbound Standard.moved_accepted hfree hverified
    hagain hentry hlater).mp hsame
  exact absurd hplace.2.1 (by decide)

end Mapped

end S3AdapterRuntime

end MeridianS3
