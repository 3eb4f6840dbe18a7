import MeridianS3.ObjectStore.Alike
import MeridianS3.Removal.Frame

namespace MeridianS3

open Effect ObjectStore Json

-- The calls that stay with some keys. A listing does where every key under its prefix is
-- one of these.
def S3Call.inside (keys : String → Prop) : S3Call → Prop
  | .headBucket => True
  | .headObject key _ | .getObject key _ _ | .putObject key .. | .deleteObject key _
  | .createMultipartUpload key .. | .uploadPart key .. | .completeMultipartUpload key ..
  | .abortMultipartUpload key _ => keys key
  | .listObjectsV2 keyPrefix _ _ => ∀ key : String, keyPrefix.toList <+: key.toList → keys key

-- What a call can come to, whatever is stored: a listing has keys under its prefix.
def Listing : (call : S3Call) → Except Failure call.Reply → Prop
  | .listObjectsV2 keyPrefix _ _, outcome =>
      ∀ reply : ListReply, outcome = .ok reply → ∀ key ∈ reply.contents,
        keyPrefix.toList <+: key.toList
  | .headBucket, _ | .headObject .., _ | .getObject .., _ | .putObject .., _ | .deleteObject .., _
  | .createMultipartUpload .., _ | .uploadPart .., _ | .completeMultipartUpload .., _
  | .abortMultipartUpload .., _ => True

theorem Listing.error (call : S3Call) (failure : Failure) : Listing call (.error failure) := by
  cases call with
  | listObjectsV2 => exact fun _ h => nomatch h
  | headBucket | headObject | getObject | putObject | deleteObject | createMultipartUpload
  | uploadPart | completeMultipartUpload | abortMultipartUpload => trivial

section Inside

variable {keys listings : String → Prop}

theorem S3Call.writes_inside {key : String} {call : S3Call} (h : call.writes key)
    (hkey : keys key) : call.inside keys := by
  cases call <;> first | exact h ▸ hkey | exact absurd h id

theorem S3Call.inside_mono {weaker : String → Prop} {call : S3Call} (h : call.inside keys)
    (himp : ∀ key, keys key → weaker key) : call.inside weaker := by
  cases call with
  | headBucket => trivial
  | listObjectsV2 => exact fun key hunder => himp key (h key hunder)
  | headObject | getObject | putObject | deleteObject | createMultipartUpload | uploadPart
  | completeMultipartUpload | abortMultipartUpload => exact himp _ h

theorem S3Call.looks_inside {call : S3Call} (h : call.looks keys) : call.inside keys := by
  cases call <;> first | exact h | exact absurd h id

theorem S3Call.reads_inside {call : S3Call} (h : call.reads keys fun _ => False) :
    call.inside keys := by
  cases call <;> first | exact h | exact absurd h id

end Inside

namespace Provider

variable {provider : Provider} {keys : String → Prop}

theorem handle_listing {kind : S3Call → Prop} : provider.handle.Answers kind Listing := by
  intro call _ bucket
  cases call with
  | listObjectsV2 keyPrefix maxKeys startAfter =>
      intro reply hreply key hkey
      cases hreply
      have hlisted := List.mem_of_mem_take hkey
      rw [Store.mem_listed] at hlisted
      exact List.isPrefixOf_iff_prefix.mp hlisted.2.1
  | headBucket | headObject | getObject | putObject | deleteObject | createMultipartUpload
  | uploadPart | completeMultipartUpload | abortMultipartUpload => trivial

-- A session of the call's key is seen in both buckets or in none.
theorem session_alike {first second : Bucket} (halike : Store.AlikeOn keys first second)
    {key : String} (hkey : keys key) (upload : Nat) :
    (∃ session, first.sessions upload = some session ∧ second.sessions upload = some session ∧
      session.key = key) ∨
    (∀ session, first.sessions upload = some session → session.key ≠ key) ∧
      ∀ session, second.sessions upload = some session → session.key ≠ key := by
  by_cases hfound : ∃ session, first.sessions upload = some session ∧ session.key = key
  · obtain ⟨session, hfirst, rfl⟩ := hfound
    exact .inl ⟨session, hfirst, (halike.sessions upload session hkey).mpr hfirst, rfl⟩
  · refine .inr ⟨fun session hfirst hsame => hfound ⟨session, hfirst, hsame⟩,
      fun session hsecond hsame => hfound ⟨session, ?_, hsame⟩⟩
    exact (halike.sessions upload session (hsame ▸ hkey)).mp hsecond

-- What a call on an upload comes to where the upload is not one of its key.
theorem handle_foreign_upload {bucket : Bucket} {key uploadId : String} {upload : Nat}
    (hnumber : provider.uploadNumber uploadId = some upload)
    (h : ∀ session, bucket.sessions upload = some session → session.key ≠ key) :
    (∀ number body checksum, provider.handle (.uploadPart key uploadId number body checksum) bucket =
      (.error (.client "NoSuchUpload" "404"), bucket)) ∧
    (∀ parts, provider.handle (.completeMultipartUpload key uploadId parts) bucket =
      (.error (.client "NoSuchUpload" "404"), bucket)) ∧
    provider.handle (.abortMultipartUpload key uploadId) bucket =
      (.error (.client "NoSuchUpload" "404"), bucket) := by
  simp only [handle, hnumber]
  cases hsession : bucket.sessions upload with
  | none => exact ⟨fun _ _ _ => rfl, fun _ => rfl, rfl⟩
  | some session => simp only [if_pos (h session hsession), implies_true, and_self]

theorem handle_inside {first second : Bucket} (halike : Store.AlikeOn keys first second)
    {call : S3Call} (hcall : call.inside keys) :
    (provider.handle call second).1 = (provider.handle call first).1 ∧
      Store.AlikeOn keys (provider.handle call first).2 (provider.handle call second).2 := by
  have hreported : provider.reportedVersion second = provider.reportedVersion first := by
    funext number
    simp only [reportedVersion, halike.versioned]
  cases call with
  | headBucket => exact ⟨rfl, halike⟩
  | headObject key versionId =>
      have hagree : AgreeOn keys first second := ⟨halike.versioned, halike.entries⟩
      exact ⟨(handle_looks provider).outcome (.headObject key versionId) hcall first second hagree,
        halike⟩
  | getObject key versionId range =>
      have hagree : AgreeOn keys first second := ⟨halike.versioned, halike.entries⟩
      exact ⟨(handle_looks provider).outcome (.getObject key versionId range) hcall first second
        hagree, halike⟩
  | putObject key header body contentLength ifNoneMatch checksum =>
      simp only [handle, halike.current hcall, halike.issued, hreported]
      split
      · exact ⟨rfl, halike⟩
      · split
        · exact ⟨rfl, halike⟩
        · exact ⟨rfl, halike.put hcall _⟩
  | deleteObject key versionId =>
      simp only [handle, halike.versioned]
      split
      · exact ⟨rfl, halike.delete hcall none⟩
      · split
        · exact ⟨rfl, halike⟩
        · exact ⟨rfl, halike.delete hcall (some _)⟩
  | listObjectsV2 keyPrefix maxKeys startAfter =>
      have hlisted := halike.listed (fun key hselected => hcall key
        (List.isPrefixOf_iff_prefix.mp hselected)) startAfter
      simp only [handle, Store.list, hlisted]
      exact ⟨trivial, halike⟩
  | createMultipartUpload key header checksums =>
      exact ⟨by simp only [handle, halike.opened], halike.openSession _ _⟩
  | uploadPart key uploadId number body checksum =>
      cases hnumber : provider.uploadNumber uploadId with
      | none =>
          simp only [handle, hnumber]
          exact ⟨trivial, halike⟩
      | some upload =>
          obtain ⟨session, hfirst, hsecond, hkey⟩ | ⟨hfirst, hsecond⟩ :=
            session_alike halike hcall upload
          · simp only [handle, hnumber, hfirst, hsecond, hkey, ne_eq, not_true_eq_false, if_false]
            exact ⟨trivial, halike.addPart upload number body⟩
          · rw [(handle_foreign_upload hnumber hfirst).1, (handle_foreign_upload hnumber hsecond).1]
            exact ⟨rfl, halike⟩
  | completeMultipartUpload key uploadId parts =>
      cases hnumber : provider.uploadNumber uploadId with
      | none =>
          simp only [handle, hnumber]
          exact ⟨trivial, halike⟩
      | some upload =>
          obtain ⟨session, hfirst, hsecond, hkey⟩ | ⟨hfirst, hsecond⟩ :=
            session_alike halike hcall upload
          · simp only [handle, hnumber, hfirst, hsecond, hkey, ne_eq, not_true_eq_false, if_false]
            split
            · exact ⟨rfl, halike⟩
            · rw [hreported, halike.issued]
              exact ⟨rfl, (halike.closeSession upload).put hcall _⟩
          · rw [(handle_foreign_upload hnumber hfirst).2.1,
              (handle_foreign_upload hnumber hsecond).2.1]
            exact ⟨rfl, halike⟩
  | abortMultipartUpload key uploadId =>
      cases hnumber : provider.uploadNumber uploadId with
      | none =>
          simp only [handle, hnumber]
          exact ⟨trivial, halike⟩
      | some upload =>
          obtain ⟨session, hfirst, hsecond, hkey⟩ | ⟨hfirst, hsecond⟩ :=
            session_alike halike hcall upload
          · simp only [handle, hnumber, hfirst, hsecond, hkey, ne_eq, not_true_eq_false, if_false]
            exact ⟨trivial, halike.closeSession upload⟩
          · rw [(handle_foreign_upload hnumber hfirst).2.2,
              (handle_foreign_upload hnumber hsecond).2.2]
            exact ⟨rfl, halike⟩

-- A call that stays away from some keys passes by them.
theorem handle_passed {others : String → Prop} (hothers : ∀ key, others key → ¬keys key)
    {call : S3Call} (hcall : call.inside others) (bucket : Bucket) :
    Store.Passed keys bucket (provider.handle call bucket).2 := by
  cases call with
  | headBucket | headObject | getObject | listObjectsV2 => exact .refl bucket
  | putObject key header body contentLength ifNoneMatch checksum =>
      simp only [handle]
      split
      · exact .refl bucket
      · split
        · exact .refl bucket
        · exact .put bucket (hothers key hcall) _
  | deleteObject key versionId =>
      rcases provider.handle_delete_cases bucket key versionId with ⟨id, h⟩ | ⟨error, h⟩
      · rw [h]
        exact .delete bucket (hothers key hcall) id
      · rw [h]
        exact .refl bucket
  | createMultipartUpload key header checksums => exact .openSession bucket (hothers key hcall) _
  | uploadPart key uploadId number body checksum =>
      simp only [handle]
      split
      · exact .refl bucket
      · split
        · exact .refl bucket
        · rename_i session hsession
          split
          · exact .refl bucket
          · rename_i hkey
            exact .addPart bucket (hothers key hcall) hsession (not_not.mp hkey) _ _
  | completeMultipartUpload key uploadId parts =>
      simp only [handle]
      split
      · exact .refl bucket
      · split
        · exact .refl bucket
        · rename_i session hsession
          split
          · exact .refl bucket
          · rename_i hkey
            split
            · exact .refl bucket
            · exact (Store.Passed.closeSession bucket (hothers key hcall) hsession
                (not_not.mp hkey)).trans (.put _ (hothers key hcall) _)
  | abortMultipartUpload key uploadId =>
      simp only [handle]
      split
      · exact .refl bucket
      · split
        · exact .refl bucket
        · rename_i session hsession
          split
          · exact .refl bucket
          · rename_i hkey
            exact .closeSession bucket (hothers key hcall) hsession (not_not.mp hkey)

end Provider

-- The Resource whose keys a key is one of, by its token.
def PhysicalKey.resource? : PhysicalKey → Option HexDigest
  | .blob resource .. | .reference resource .. | .latest resource _ | .registered resource
  | .orphan resource .. | .deletion resource .. => some resource
  | .schema _ | .migration _ => none

namespace S3Layout

variable (layout : S3Layout)

def OBJECT_FAMILIES : List String := ["/objects/", "/refs/", "/latest/", "/orphans/", "/deletions/"]

-- The keys of a Resource: its registration, and everything under its token, whether it is
-- a key of the layout or not.
def Belongs (resource : ResourceRef) (key : String) : Prop :=
  key = layout.resourceKey resource ∨ ∃ family ∈ OBJECT_FAMILIES,
    (layout.root ++ family ++ (layout.resourceToken resource).text ++ "/").toList <+: key.toList

def Schemas (key : String) : Prop := (layout.root ++ "/registry/schemas/").toList <+: key.toList

def Migrations (key : String) : Prop := (layout.root ++ "/migrations/").toList <+: key.toList

-- Every key of the binding.
def Under (key : String) : Prop := (layout.root ++ "/").toList <+: key.toList

-- Neither root is in the other's.
structure Apart (first second : S3Layout) : Prop where
  before : ¬(first.root ++ "/").toList <+: (second.root ++ "/").toList
  after : ¬(second.root ++ "/").toList <+: (first.root ++ "/").toList

variable {layout} {resource other : ResourceRef} {key : String}

theorem Apart.not_under {first second : S3Layout} (h : first.Apart second) (hfirst : first.Under key) :
    ¬second.Under key := by
  intro hsecond
  obtain hle | hle := List.prefix_or_prefix_of_prefix hfirst hsecond
  · exact h.before hle
  · exact h.after hle

theorem belongs_path {physical : PhysicalKey}
    (h : physical.resource? = some (layout.resourceToken resource)) :
    layout.Belongs resource (layout.path physical) := by
  cases physical with
  | registered token => exact .inl (congrArg _ (congrArg _ (Option.some.inj h)))
  | blob token object content =>
      obtain rfl := Option.some.inj h
      refine .inr ⟨"/objects/", by decide, ?_⟩
      exact ⟨(object.text ++ "/sha256/" ++ content.text).toList,
        by simp [path, PhysicalKey.render]⟩
  | reference token object content =>
      obtain rfl := Option.some.inj h
      refine .inr ⟨"/refs/", by decide, ?_⟩
      exact ⟨(object.text ++ "/" ++ content.text ++ ".json").toList,
        by simp [path, PhysicalKey.render]⟩
  | latest token object =>
      obtain rfl := Option.some.inj h
      refine .inr ⟨"/latest/", by decide, ?_⟩
      exact ⟨(object.text ++ ".json").toList, by simp [path, PhysicalKey.render]⟩
  | orphan token object content =>
      obtain rfl := Option.some.inj h
      refine .inr ⟨"/orphans/", by decide, ?_⟩
      exact ⟨(object.text ++ "/" ++ content.text ++ ".json").toList,
        by simp [path, PhysicalKey.render]⟩
  | deletion token object content =>
      obtain rfl := Option.some.inj h
      refine .inr ⟨"/deletions/", by decide, ?_⟩
      exact ⟨(object.text ++ "/" ++ content.text ++ ".json").toList,
        by simp [path, PhysicalKey.render]⟩
  | schema | migration => cases h

theorem belongs_reference (h : (layout.referencePrefix resource).toList <+: key.toList) :
    layout.Belongs resource key := .inr ⟨"/refs/", by decide, h⟩

theorem belongs_version {objectId : String}
    (h : (layout.versionPrefix resource objectId).toList <+: key.toList) :
    layout.Belongs resource key := by
  apply belongs_reference
  refine List.IsPrefix.trans ?_ h
  exact ⟨((layout.objectToken objectId).text ++ "/").toList,
    by simp [versionPrefix, String.append_assoc]⟩

-- The families of keys under the root. None is the beginning of another.
def FAMILIES : List String :=
  "/registry/resources/" :: "/registry/schemas/" :: "/migrations/" :: OBJECT_FAMILIES

theorem mem_families {family : String} (h : family ∈ "/registry/resources/" :: OBJECT_FAMILIES) :
    family ∈ FAMILIES := by
  rw [List.mem_cons] at h
  obtain rfl | h := h
  · exact List.mem_cons_self
  · exact List.mem_cons_of_mem _ (List.mem_cons_of_mem _ (List.mem_cons_of_mem _ h))

theorem families_apart {first second : String} (hfirst : first ∈ FAMILIES)
    (hsecond : second ∈ FAMILIES) {rest others : List Char}
    (h : first.toList ++ rest = second.toList ++ others) : first = second := by
  have hapart : ∀ first ∈ FAMILIES, ∀ second ∈ FAMILIES,
      first.toList <+: second.toList → first = second := by decide
  obtain hle | hle := List.prefix_or_prefix_of_prefix ⟨rest, rfl⟩ ⟨others, h.symm⟩
  · exact hapart first hfirst second hsecond hle
  · exact (hapart second hsecond first hfirst hle).symm

theorem Belongs.split (h : layout.Belongs resource key) :
    ∃ family ∈ "/registry/resources/" :: OBJECT_FAMILIES, ∃ rest, key.toList =
      layout.root.toList ++ (family.toList ++
        ((layout.resourceToken resource).text.toList ++ rest)) := by
  obtain rfl | ⟨family, hfamily, rest, hrest⟩ := h
  · exact ⟨_, List.mem_cons_self, ".json".toList, by simp [resourceKey, PhysicalKey.render]⟩
  · refine ⟨family, List.mem_cons_of_mem _ hfamily, '/' :: rest, ?_⟩
    rw [← hrest]
    simp

theorem Belongs.unique (h : layout.Belongs resource key) (hother : layout.Belongs other key) :
    layout.resourceToken other = layout.resourceToken resource := by
  obtain ⟨family, hfamily, rest, hkey⟩ := h.split
  obtain ⟨second, hsecond, others, hsame⟩ := hother.split
  rw [hkey, List.append_cancel_left_eq] at hsame
  obtain rfl := families_apart (mem_families hfamily) (mem_families hsecond) hsame
  rw [List.append_cancel_left_eq] at hsame
  exact (PhysicalKey.segment_inj hsame).1.symm

theorem Belongs.apart (h : layout.Belongs resource key) {shared : String}
    (hshared : shared ∈ FAMILIES) (hne : shared ∉ "/registry/resources/" :: OBJECT_FAMILIES) :
    ¬(layout.root ++ shared).toList <+: key.toList := by
  obtain ⟨family, hfamily, rest, hkey⟩ := h.split
  rintro ⟨others, hothers⟩
  rw [hkey, String.toList_append, List.append_assoc, List.append_cancel_left_eq] at hothers
  exact hne (families_apart hshared (mem_families hfamily) hothers ▸ hfamily)

theorem Belongs.not_schemas (h : layout.Belongs resource key) : ¬layout.Schemas key :=
  h.apart (by decide) (by decide)

theorem under_family {family : String} (hfamily : family ∈ FAMILIES)
    (h : (layout.root ++ family).toList <+: key.toList) : layout.Under key := by
  have hslash : ∀ family ∈ FAMILIES, ['/'] <+: family.toList := by decide
  obtain ⟨rest, hrest⟩ := hslash family hfamily
  refine List.IsPrefix.trans ⟨rest, ?_⟩ h
  rw [String.toList_append, String.toList_append, ← hrest, List.append_assoc]
  rfl

theorem Belongs.under (h : layout.Belongs resource key) : layout.Under key := by
  obtain ⟨family, hfamily, rest, hkey⟩ := h.split
  exact under_family (mem_families hfamily) ⟨(layout.resourceToken resource).text.toList ++ rest,
    by rw [hkey, String.toList_append, List.append_assoc]⟩

end S3Layout

end MeridianS3
