import MeridianS3.Effect.Confined
import MeridianS3.ObjectStore.Discipline
import MeridianS3.Provider

namespace MeridianS3

open Effect ObjectStore

-- The calls that read, with the keys and the listings that they are about.
def S3Call.reads (keys listings : String → Prop) : S3Call → Prop
  | .getObject key _ _ => keys key
  | .listObjectsV2 keyPrefix _ _ => listings keyPrefix
  | _ => False

-- The calls that leave a bucket as it is.
def S3Call.observes : S3Call → Prop
  | .headBucket | .headObject .. | .getObject .. | .listObjectsV2 .. => True
  | _ => False

-- The calls that write under a key.
def S3Call.writes (key : String) : S3Call → Prop
  | .putObject target .. | .deleteObject target _ | .createMultipartUpload target ..
  | .uploadPart target .. | .completeMultipartUpload target .. | .abortMultipartUpload target _ =>
      target = key
  | _ => False

theorem S3Call.writes_unique {first second : String} {call : S3Call} (h : call.writes first)
    (hsecond : call.writes second) : first = second := by
  cases call <;> first | exact h.symm.trans hsecond | cases h

theorem S3Call.reads_silent {keys listings : String → Prop} {call : S3Call}
    (h : call.reads keys listings) (key : String) : ¬call.writes key := by
  cases call <;> first | exact id | exact absurd h id

-- The calls that look at what is stored under some keys.
def S3Call.looks (keys : String → Prop) : S3Call → Prop
  | .headObject key _ | .getObject key _ _ => keys key
  | _ => False

theorem S3Call.reads_looks {keys : String → Prop} (call : S3Call)
    (h : call.reads keys fun _ => False) : call.looks keys := by
  cases call <;> first | exact h | exact absurd h id

def anything : String → Prop := fun _ => True

theorem S3Call.reads_anything {keys listings : String → Prop} (call : S3Call)
    (h : call.reads keys listings) : call.reads anything anything := by
  cases call <;> trivial

theorem S3Call.reads_observes {keys listings : String → Prop} (call : S3Call)
    (h : call.reads keys listings) : call.observes := by
  cases call <;> trivial

namespace Provider

variable (provider : Provider)

-- The object under a key at a recorded version id.
def fetch (bucket : Bucket) (key : String) (versionId : Option String) : Option StoredBody :=
  match versionId with
  | none => bucket.current key
  | some name =>
      if bucket.versioned then (provider.versionNumber name).bind (bucket.version key) else none

theorem lookup_current (missing : String) {bucket : Bucket} {key : String} {object : StoredBody}
    (h : bucket.current key = some object) :
    ∃ id, bucket.head key = some ⟨id, some object⟩ ∧
      provider.lookup bucket key none missing = .ok (id, object) := by
  simp only [Store.current, Option.bind_eq_some_iff] at h
  obtain ⟨⟨id, held⟩, hhead, hobject⟩ := h
  subst hobject
  exact ⟨id, hhead, by simp [lookup, hhead]⟩

theorem lookup_missing {bucket : Bucket} {key missing : String} (h : bucket.current key = none) :
    provider.lookup bucket key none missing = .error (.client missing "404") := by
  unfold Store.current at h
  unfold lookup
  cases hhead : bucket.head key with
  | none => rfl
  | some entry =>
      rcases entry with ⟨id, object⟩
      cases object with
      | none => rfl
      | some object => simp [hhead] at h

theorem lookup_of_fetch (missing : String) {bucket : Bucket} {key : String}
    {versionId : Option String} {object : StoredBody}
    (h : provider.fetch bucket key versionId = some object) :
    ∃ id, provider.lookup bucket key versionId missing = .ok (id, object) := by
  cases versionId with
  | none =>
      obtain ⟨id, -, hlookup⟩ := provider.lookup_current missing h
      exact ⟨id, hlookup⟩
  | some name =>
      simp only [fetch] at h
      split at h
      · rename_i hversioned
        simp only [Option.bind_eq_some_iff] at h
        obtain ⟨number, hnumber, hversion⟩ := h
        simp only [Store.version, Option.bind_eq_some_iff] at hversion
        obtain ⟨⟨id, held⟩, hfind, hobject⟩ := hversion
        subst hobject
        exact ⟨id, by simp [lookup, hversioned, hnumber, hfind]⟩
      · cases h

theorem fetch_congr {first second : Bucket} {key : String} {versionId : Option String}
    (hversioned : second.versioned = first.versioned)
    (hentries : second.entries key = first.entries key) :
    provider.fetch second key versionId = provider.fetch first key versionId := by
  cases versionId with
  | none => exact Store.current_congr hentries
  | some name =>
      have hversion : second.version key = first.version key := by
        funext id
        simp only [Store.version, hentries]
      simp only [fetch, hversioned, hversion]

-- A version that a put has just stored is found under the version id it reports.
theorem fetch_put_reported (bucket : Bucket) (key : String) (object : StoredBody) :
    provider.fetch (bucket.put key object) key (provider.reportedVersion bucket bucket.issued) =
      some object := by
  unfold reportedVersion
  split
  · rename_i hversioned
    have hnumber : provider.versionNumber (provider.versionName bucket.issued) =
        some bucket.issued := (provider.versionNumber_iff _ _).mpr rfl
    simp [fetch, hversioned, hnumber, Store.version]
  · simp [fetch]

-- What was found under a version id is found there after another put, or has been
-- replaced by it.
theorem fetch_put {bucket : Bucket} {key : String} {versionId : Option String}
    {object : StoredBody} (h : provider.fetch bucket key versionId = some object)
    (new : StoredBody) :
    ∃ found, provider.fetch (bucket.put key new) key versionId = some found ∧
      (found = object ∨ found = new) := by
  cases versionId with
  | none => exact ⟨new, by simp [fetch], Or.inr rfl⟩
  | some name =>
      simp only [fetch] at h
      split at h
      · rename_i hversioned
        simp only [Option.bind_eq_some_iff] at h
        obtain ⟨number, hnumber, hversion⟩ := h
        refine ⟨object, ?_, Or.inl rfl⟩
        simp [fetch, hversioned, hnumber, Store.version_put _ _ hversion]
      · cases h

theorem mem_of_fetch {bucket : Bucket} {key : String} {versionId : Option String}
    {object : StoredBody} (h : provider.fetch bucket key versionId = some object) :
    ∃ entry ∈ bucket.entries key, entry.object = some object := by
  cases versionId with
  | none => exact Store.mem_of_current bucket key h
  | some name =>
      simp only [fetch] at h
      split at h
      · simp only [Option.bind_eq_some_iff] at h
        obtain ⟨number, -, hversion⟩ := h
        exact Store.mem_of_version bucket key hversion
      · cases h

theorem handle_observes : provider.handle.Reads S3Call.observes := by
  intro call h bucket
  cases call with
  | headBucket | headObject | getObject | listObjectsV2 => rfl
  | putObject | deleteObject | createMultipartUpload | uploadPart | completeMultipartUpload
  | abortMultipartUpload => exact absurd h id

theorem handle_reads : provider.handle.Reads (S3Call.reads anything anything) :=
  fun call h => provider.handle_observes call (call.reads_observes h)

-- Buckets that agree on some keys and listings answer the reads of these alike.
theorem handle_alike {keys listings : String → Prop} {first second : Bucket}
    (hversioned : second.versioned = first.versioned)
    (hkeys : ∀ key, keys key → second.entries key = first.entries key)
    (hlistings : ∀ keyPrefix, listings keyPrefix → ∀ startAfter,
      second.listed (fun key => keyPrefix.toList.isPrefixOf key.toList) startAfter =
        first.listed (fun key => keyPrefix.toList.isPrefixOf key.toList) startAfter)
    (call : S3Call) (h : call.reads keys listings) :
    (provider.handle call second).1 = (provider.handle call first).1 := by
  have hlookup (key : String) (hkey : keys key) (versionId : Option String) (missing : String) :
      provider.lookup second key versionId missing = provider.lookup first key versionId missing := by
    cases versionId with
    | none => simp only [lookup, Store.head, hkeys key hkey]
    | some name => simp only [lookup, hkeys key hkey, hversioned]
  cases call with
  | getObject key versionId range => simp only [handle, hlookup key h]
  | listObjectsV2 keyPrefix maxKeys startAfter =>
      simp only [handle, Store.list, hlistings keyPrefix h startAfter]
  | headBucket | headObject | putObject | deleteObject | createMultipartUpload | uploadPart
  | completeMultipartUpload | abortMultipartUpload => exact absurd h id

theorem handle_same {first second : Bucket} (hsame : SameObjects first second) (call : S3Call)
    (h : call.reads anything anything) :
    (provider.handle call second).1 = (provider.handle call first).1 :=
  provider.handle_alike hsame.versioned (fun key _ => by rw [hsame.entries])
    (fun _ _ _ => hsame.listed _ _) call h

-- Two buckets that hold the same under some keys.
structure AgreeOn (keys : String → Prop) (first second : Bucket) : Prop where
  versioned : second.versioned = first.versioned
  entries : ∀ key, keys key → second.entries key = first.entries key

theorem handle_looks {keys : String → Prop} :
    provider.handle.Simulates (S3Call.looks keys) (AgreeOn keys) := by
  have hlookup (key : String) (hkey : keys key) {first second : Bucket}
      (hagree : AgreeOn keys first second) (versionId : Option String) (missing : String) :
      provider.lookup second key versionId missing = provider.lookup first key versionId missing := by
    cases versionId with
    | none => simp only [lookup, Store.head, hagree.entries key hkey]
    | some name => simp only [lookup, hagree.entries key hkey, hagree.versioned]
  constructor
  · intro call h first second hagree
    cases call with
    | headObject key versionId =>
        simp only [handle, hlookup key h hagree, reportedVersion, hagree.versioned]
    | getObject key versionId range => simp only [handle, hlookup key h hagree]
    | headBucket | listObjectsV2 | putObject | deleteObject | createMultipartUpload | uploadPart
    | completeMultipartUpload | abortMultipartUpload => exact absurd h id
  · intro call h first second hagree
    cases call with
    | headObject | getObject => exact hagree
    | headBucket | listObjectsV2 | putObject | deleteObject | createMultipartUpload | uploadPart
    | completeMultipartUpload | abortMultipartUpload => exact absurd h id

theorem AgreeOn.refl {keys : String → Prop} (bucket : Bucket) : AgreeOn keys bucket bucket :=
  ⟨rfl, fun _ _ => rfl⟩

theorem AgreeOn.trans {keys : String → Prop} {first second third : Bucket}
    (h : AgreeOn keys first second) (hnext : AgreeOn keys second third) :
    AgreeOn keys first third :=
  ⟨hnext.versioned.trans h.versioned,
    fun key hkey => (hnext.entries key hkey).trans (h.entries key hkey)⟩

theorem AgreeOn.mono {keys fewer : String → Prop} {first second : Bucket}
    (h : AgreeOn keys first second) (himp : ∀ key, fewer key → keys key) :
    AgreeOn fewer first second :=
  ⟨h.versioned, fun key hkey => h.entries key (himp key hkey)⟩

theorem AgreeOn.same {keys : String → Prop} {first second : Bucket}
    (h : SameObjects first second) : AgreeOn keys first second :=
  ⟨h.versioned, fun _ _ => by rw [h.entries]⟩

section Put

variable {key : String} {header : ObjectHeader} {body : Bytes} {createOnly : Bool}
  {checksum : Option String}

theorem handle_put_blocked {bucket : Bucket} (hcreate : createOnly = true)
    (hcurrent : (bucket.current key).isSome = true) :
    provider.handle (.putObject key header body body.length createOnly checksum) bucket =
      (.error (.client "PreconditionFailed" "412"), bucket) := by
  simp [handle, hcreate, hcurrent]

theorem handle_put_written {bucket : Bucket}
    (h : ¬(createOnly = true ∧ (bucket.current key).isSome = true)) :
    provider.handle (.putObject key header body body.length createOnly checksum) bucket =
      (.ok ⟨provider.reportedVersion bucket bucket.issued, some (provider.etag body)⟩,
        bucket.put key ⟨header, body⟩) := by
  simp [handle, h]

theorem handle_put_opened (bucket : Bucket) (length : Nat) :
    (provider.handle (.putObject key header body length createOnly checksum) bucket).2.opened =
      bucket.opened := by
  simp only [handle]
  split
  · rfl
  · split <;> rfl

theorem handle_put_sessions (bucket : Bucket) (length : Nat) :
    (provider.handle (.putObject key header body length createOnly checksum) bucket).2.sessions =
      bucket.sessions := by
  simp only [handle]
  split
  · rfl
  · split <;> rfl

end Put

-- A deletion removes what it names or is refused.
theorem handle_delete_cases (bucket : Bucket) (key : String) (versionId : Option String) :
    (∃ id, provider.handle (.deleteObject key versionId) bucket = (.ok (), bucket.delete key id)) ∨
      ∃ error, provider.handle (.deleteObject key versionId) bucket = (.error error, bucket) := by
  cases versionId with
  | none => exact Or.inl ⟨none, rfl⟩
  | some name =>
      simp only [handle]
      split
      · exact Or.inr ⟨_, rfl⟩
      · rename_i number _
        exact Or.inl ⟨some number, rfl⟩

@[simp] theorem handle_delete_opened (bucket : Bucket) (key : String) (versionId : Option String) :
    (provider.handle (.deleteObject key versionId) bucket).2.opened = bucket.opened := by
  rcases provider.handle_delete_cases bucket key versionId with ⟨id, h⟩ | ⟨error, h⟩ <;> simp [h]

@[simp] theorem handle_delete_sessions (bucket : Bucket) (key : String)
    (versionId : Option String) :
    (provider.handle (.deleteObject key versionId) bucket).2.sessions = bucket.sessions := by
  rcases provider.handle_delete_cases bucket key versionId with ⟨id, h⟩ | ⟨error, h⟩ <;> simp [h]

-- A call leaves the keys alone that it does not write under.
theorem handle_unwritten (call : S3Call) (bucket : Bucket) :
    AgreeOn (fun key => ¬call.writes key) bucket (provider.handle call bucket).2 := by
  cases call with
  | headBucket | headObject | getObject | listObjectsV2 => exact .refl _
  | putObject target header body contentLength ifNoneMatch checksum =>
      simp only [handle]
      split
      · exact .refl _
      · split
        · exact .refl _
        · exact ⟨rfl, fun key hkey => Store.put_entries_of_ne _ (Ne.symm hkey) _⟩
  | deleteObject target versionId =>
      rcases provider.handle_delete_cases bucket target versionId with
        ⟨id, hdeleted⟩ | ⟨error, hrefused⟩
      · rw [hdeleted]
        exact ⟨Store.delete_versioned .., fun key hkey =>
          Store.delete_entries_of_ne _ (Ne.symm hkey) _⟩
      · rw [hrefused]
        exact .refl _
  | createMultipartUpload => exact .same (.openSession _ _ _)
  | uploadPart target uploadId number body checksum =>
      simp only [handle]
      split
      · exact .refl _
      · split
        · exact .refl _
        · split
          · exact .refl _
          · exact .same (.addPart _ _ _ _)
  | completeMultipartUpload target uploadId parts =>
      simp only [handle]
      split
      · exact .refl _
      · split
        · exact .refl _
        · split
          · exact .refl _
          · split
            · exact .refl _
            · exact (AgreeOn.same (.closeSession _ _)).trans
                ⟨rfl, fun key hkey => Store.put_entries_of_ne _ (Ne.symm hkey) _⟩
  | abortMultipartUpload target uploadId =>
      simp only [handle]
      split
      · exact .refl _
      · split
        · exact .refl _
        · split
          · exact .refl _
          · exact .same (.closeSession _ _)

-- A version id that the provider has reported is accepted back.
theorem handle_delete_reported (bucket : Bucket) (key : String) (id : Nat) :
    provider.handle (.deleteObject key (provider.reportedVersion bucket id)) bucket =
      (.ok (), bucket.delete key (if bucket.versioned then some id else none)) := by
  have hnumber : provider.versionNumber (provider.versionName id) = some id :=
    (provider.versionNumber_iff _ _).mpr rfl
  cases hversioned : bucket.versioned with
  | false =>
      have hname : provider.reportedVersion bucket id = none := by simp [reportedVersion, hversioned]
      rw [hname]
      rfl
  | true =>
      have hname : provider.reportedVersion bucket id = some (provider.versionName id) := by
        simp [reportedVersion, hversioned]
      rw [hname]
      simp only [handle, hversioned, if_true, hnumber]

end Provider

section Solo

variable {provider : Provider} {α : Type} {faults : S3Call → Fault Failure → Prop}
  {owned : Set Nat} {origin state : Bucket}

-- Reading alone: the result of a run, or the failure that a call has met.
theorem solo_reading {keys listings : String → Prop} {raised : Failure → Prop}
    {program : S3M α}
    (hwithin : program.Within (S3Call.reads keys listings))
    (hsurfaces : program.Surfaces raised)
    (hfaults : ∀ call fault, call.reads keys listings → faults call fault → raised fault.error)
    {post : Except Failure α → Set Nat → Bucket → Prop} (hstate : SameObjects origin state)
    (hok : ∀ after, SameObjects origin after →
      post (program.run provider.handle origin).1 owned after)
    (herror : ∀ call fault failure after, call.reads keys listings → faults call fault →
      raised failure → SameObjects origin after → post (.error failure) owned after) :
    Verified provider.handle (solo faults).protocol program owned state post := by
  have hany := hwithin.mono fun call h => call.reads_anything h
  have hrun : (program.run provider.handle state).1 = (program.run provider.handle origin).1 :=
    hany.run_congr provider.handle_reads fun call h => provider.handle_same hstate call h
  have hreads : provider.handle.Reads (S3Call.reads keys listings) := fun call h =>
    provider.handle_reads call (call.reads_anything h)
  apply Verified.reading hwithin hreads hsurfaces state (Discipline.guarantee_refl owned)
    (Discipline.rely_trans owned)
  · intro before hrely call h
    exact provider.handle_same hrely.1 call (call.reads_anything h)
  · exact hfaults
  · exact Discipline.rely_refl owned state
  · intro after hrely
    rw [hrun]
    exact hok after (hstate.trans hrely.1)
  · intro call fault failure after hkind hfault hraised hrely
    exact herror call fault failure after hkind hfault hraised (hstate.trans hrely.1)

end Solo

end MeridianS3
