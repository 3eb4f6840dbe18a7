import MeridianS3.Envelope.Theorems
import MeridianS3.Records

namespace MeridianS3

open Effect ObjectStore Json

namespace S3Layout

variable {layout : S3Layout} {provider : Provider} {hashed : Set Bytes} {bucket : Bucket}
variable {resource object content : HexDigest}

theorem sound_empty (layout : S3Layout) (hashed : Set Bytes) (versioned : Bool) :
    layout.Sound hashed (Store.empty versioned) :=
  ⟨fun _ h => absurd rfl h, fun _ _ h => absurd h List.not_mem_nil,
    fun _ _ h => absurd h List.not_mem_nil, fun _ _ => Nat.zero_le 1⟩

theorem Sound.same {after : Bucket} (h : layout.Sound hashed bucket)
    (hsame : SameObjects bucket after) : layout.Sound hashed after := by
  constructor
  · intro key
    rw [hsame.entries]
    exact h.keys key
  · intro key
    rw [hsame.entries]
    exact h.present key
  · intro physical
    rw [hsame.entries, hsame.versioned]
    exact h.proper physical
  · intro physical
    rw [hsame.entries]
    exact h.once physical

-- A key holds no delete markers, so it has a current object unless it has no entries.
theorem Sound.current_eq_none_iff (h : layout.Sound hashed bucket) (key : String) :
    bucket.current key = none ↔ bucket.entries key = [] := by
  constructor
  · intro hnone
    cases hentries : bucket.entries key with
    | nil => rfl
    | cons entry rest =>
        have hpresent := h.present key entry (by simp [hentries])
        simp [Store.current, Store.head, hentries, hpresent] at hnone
  · exact Store.current_eq_none bucket key

theorem Sound.current_isSome_iff (h : layout.Sound hashed bucket) (key : String) :
    (bucket.current key).isSome = true ↔ bucket.entries key ≠ [] := by
  rw [← Option.ne_none_iff_isSome, ne_eq, h.current_eq_none_iff]

theorem Sound.head_of_current (h : layout.Sound hashed bucket) {physical : PhysicalKey}
    (honce : writtenOnce physical) {stored : StoredBody}
    (hcurrent : bucket.current (layout.path physical) = some stored) :
    ∃ id, bucket.entries (layout.path physical) = [⟨id, some stored⟩] := by
  have hlength := h.once physical honce
  cases hentries : bucket.entries (layout.path physical) with
  | nil => simp [Store.current_eq_none _ _ hentries] at hcurrent
  | cons entry rest =>
      rw [hentries, List.length_cons] at hlength
      have hrest : rest = [] := List.length_eq_zero_iff.mp (by omega)
      rcases entry with ⟨id, held⟩
      have hheld : held = some stored := by
        simpa [Store.current, Store.head, hentries] using hcurrent
      exact ⟨id, by rw [hrest, hheld]⟩

theorem Sound.proper_current (h : layout.Sound hashed bucket) {physical : PhysicalKey}
    {stored : StoredBody} (hcurrent : bucket.current (layout.path physical) = some stored) :
    layout.Proper hashed bucket.versioned physical stored := by
  obtain ⟨entry, hentry, hobject⟩ := Store.mem_of_current _ _ hcurrent
  exact h.proper physical entry hentry stored hobject

theorem Sound.put (h : layout.Sound hashed bucket) {physical : PhysicalKey} {stored : StoredBody}
    (hproper : layout.Proper hashed bucket.versioned physical stored)
    (honce : writtenOnce physical → bucket.current (layout.path physical) = none) :
    layout.Sound hashed (bucket.put (layout.path physical) stored) := by
  have hmem : ∀ entry ∈ (bucket.put (layout.path physical) stored).entries (layout.path physical),
      entry.object = some stored ∨ entry ∈ bucket.entries (layout.path physical) := by
    intro entry hentry
    rw [Store.put_entries_self] at hentry
    rcases List.mem_cons.mp hentry with rfl | hold
    · exact Or.inl rfl
    · split at hold
      · exact Or.inr hold
      · cases hold
  constructor
  · intro key hkey
    by_cases he : key = layout.path physical
    · exact ⟨physical, he⟩
    · rw [Store.put_entries_of_ne _ he] at hkey
      exact h.keys key hkey
  · intro key entry hentry
    by_cases he : key = layout.path physical
    · subst he
      rcases hmem entry hentry with hnew | hold
      · simp [hnew]
      · exact h.present _ entry hold
    · rw [Store.put_entries_of_ne _ he] at hentry
      exact h.present key entry hentry
  · intro other entry hentry found hfound
    by_cases he : other = physical
    · subst he
      rcases hmem entry hentry with hnew | hold
      · rw [hnew, Option.some.injEq] at hfound
        exact hfound ▸ hproper
      · exact h.proper _ entry hold found hfound
    · have hne : layout.path other ≠ layout.path physical := by simpa using he
      rw [Store.put_entries_of_ne _ hne] at hentry
      exact h.proper other entry hentry found hfound
  · intro other hother
    by_cases he : other = physical
    · subst he
      rw [Store.put_entries_self, (h.current_eq_none_iff _).mp (honce hother)]
      simp
    · have hne : layout.path other ≠ layout.path physical := by simpa using he
      rw [Store.put_entries_of_ne _ hne]
      exact h.once other hother

theorem Sound.delete (h : layout.Sound hashed bucket) (key : String) {id : Option Nat}
    (hid : id = none → bucket.versioned = false) : layout.Sound hashed (bucket.delete key id) := by
  have hsub (other : String) : ((bucket.delete key id).entries other).Sublist
      (bucket.entries other) := by
    by_cases he : other = key
    · subst he
      cases id with
      | some id =>
          rw [Store.delete_some_entries_self]
          exact List.filter_sublist
      | none =>
          rw [Store.delete_none_entries_self _ _ (hid rfl)]
          exact List.nil_sublist _
    · rw [Store.delete_entries_of_ne _ he]
  constructor
  · intro other hother
    apply h.keys
    intro hnil
    have hempty := hsub other
    rw [hnil, List.sublist_nil] at hempty
    exact hother hempty
  · exact fun other entry hentry => h.present other entry ((hsub other).subset hentry)
  · intro physical entry hentry stored hstored
    rw [Store.delete_versioned]
    exact h.proper physical entry ((hsub _).subset hentry) stored hstored
  · exact fun physical honce => ((hsub _).length_le).trans (h.once physical honce)

-- A reference document determines the envelope that it records.
theorem recorded_unique {first second : StoredEnvelope}
    (hfirst : layout.Recorded bucket resource object content first)
    (hsecond : layout.Recorded bucket resource object content second) : first = second := by
  obtain ⟨hcanonical, stored, hcurrent, hbody⟩ := hfirst
  obtain ⟨hcanonical', stored', hcurrent', hbody'⟩ := hsecond
  rw [hcurrent, Option.some.injEq] at hcurrent'
  subst hcurrent'
  have hloads := layout.common.loads_canonical _ hcanonical
  rw [← hbody, hbody', layout.common.loads_canonical _ hcanonical', Except.ok.injEq] at hloads
  have hread := StoredEnvelope.fromMapping_toDict layout.common first
  rw [← hloads, StoredEnvelope.fromMapping_toDict, Except.ok.injEq] at hread
  exact hread.symm

theorem Sound.recorded (h : layout.Sound hashed bucket) {stored : StoredBody}
    (hcurrent : bucket.current (layout.path (.reference resource object content)) = some stored) :
    ∃ envelope, layout.Recorded bucket resource object content envelope ∧
      layout.EnvelopeOf hashed bucket.versioned object content envelope := by
  obtain ⟨envelope, henvelope, hbody⟩ := h.proper_current hcurrent
  exact ⟨envelope, ⟨henvelope.canonical, stored, hcurrent, hbody⟩, henvelope⟩

theorem Sound.envelopeOf (h : layout.Sound hashed bucket) {envelope : StoredEnvelope}
    (hrecorded : layout.Recorded bucket resource object content envelope) :
    layout.EnvelopeOf hashed bucket.versioned object content envelope := by
  obtain ⟨-, stored, hcurrent, -⟩ := id hrecorded
  obtain ⟨found, hfound, henvelope⟩ := h.recorded hcurrent
  rwa [recorded_unique hrecorded hfound]

theorem recorded_congr {first second : Bucket} {envelope : StoredEnvelope}
    (hentries : second.entries (layout.path (.reference resource object content)) =
      first.entries (layout.path (.reference resource object content)))
    (h : layout.Recorded first resource object content envelope) :
    layout.Recorded second resource object content envelope := by
  obtain ⟨hcanonical, stored, hcurrent, hbody⟩ := h
  exact ⟨hcanonical, stored, (Store.current_congr hentries).trans hcurrent, hbody⟩

theorem recorded_entries {envelope : StoredEnvelope}
    (h : layout.Recorded bucket resource object content envelope) :
    bucket.entries (layout.path (.reference resource object content)) ≠ [] := by
  obtain ⟨-, stored, hcurrent, -⟩ := h
  intro hnil
  simp [Store.current_eq_none _ _ hnil] at hcurrent

theorem points_unique {first second : HexDigest} (hfirst : layout.Points bucket resource object first)
    (hsecond : layout.Points bucket resource object second) : first = second := by
  obtain ⟨stored, hcurrent, hbody⟩ := hfirst
  obtain ⟨stored', hcurrent', hbody'⟩ := hsecond
  rw [hcurrent, Option.some.injEq] at hcurrent'
  subst hcurrent'
  have hloads := layout.common.loads_canonical _ (latestValue_canonical first.digest)
  rw [← hbody, hbody', layout.common.loads_canonical _ (latestValue_canonical second.digest),
    Except.ok.injEq] at hloads
  have hdigest : second.digest = first.digest := by simpa [latestValue] using hloads
  exact (HexDigest.digest_injective hdigest).symm

theorem points_congr {first second : Bucket}
    (hentries : second.entries (layout.path (.latest resource object)) =
      first.entries (layout.path (.latest resource object)))
    (h : layout.Points first resource object content) :
    layout.Points second resource object content := by
  obtain ⟨stored, hcurrent, hbody⟩ := h
  exact ⟨stored, (Store.current_congr hentries).trans hcurrent, hbody⟩

theorem Sound.points (h : layout.Sound hashed bucket) {stored : StoredBody}
    (hcurrent : bucket.current (layout.path (.latest resource object)) = some stored) :
    ∃ content, layout.Points bucket resource object content := by
  obtain ⟨content, hbody⟩ := h.proper_current hcurrent
  exact ⟨content, stored, hcurrent, hbody⟩

-- Bytes found under a blob key hash to the content of the key.
theorem Sound.blob (h : layout.Sound hashed bucket) {name : Option String} {stored : StoredBody}
    (hfetch : provider.fetch bucket (layout.path (.blob resource object content)) name =
      some stored) :
    stored.body ∈ hashed ∧ layout.common.hexdigest stored.body = content ∧
      stored.header.metadata = blobHeader content := by
  obtain ⟨entry, hentry, hobject⟩ := provider.mem_of_fetch hfetch
  exact h.proper _ entry hentry stored hobject

end S3Layout

end MeridianS3
