import MeridianS3.Records.Theorems

namespace MeridianS3

open Effect ObjectStore Json

-- What puts do to a bucket. References are written once and for all, and only for
-- blobs that are stored. Blobs keep their bytes. Pointers move to stored references,
-- and a sealed pointer, once written, does not move.
structure Publishes (provider : Provider) (layout : S3Layout) (hashed : Set Bytes)
    (sealed : HexDigest → HexDigest → Prop) (before after : Bucket) : Prop where
  versioned : after.versioned = before.versioned
  registered : ∀ resource, after.entries (layout.path (.registered resource)) =
    before.entries (layout.path (.registered resource))
  references : ∀ resource object content,
    before.entries (layout.path (.reference resource object content)) ≠ [] →
    after.entries (layout.path (.reference resource object content)) =
      before.entries (layout.path (.reference resource object content))
  blobs : layout.CollisionFree hashed → ∀ resource object content name stored,
    provider.fetch before (layout.path (.blob resource object content)) name = some stored →
    ∃ found, provider.fetch after (layout.path (.blob resource object content)) name =
      some found ∧ found.body = stored.body
  backed : layout.CollisionFree hashed → ∀ resource object content,
    before.entries (layout.path (.reference resource object content)) = [] →
    layout.Backed provider after resource object content
  latest : ∀ resource object,
    after.entries (layout.path (.latest resource object)) =
      before.entries (layout.path (.latest resource object)) ∨
    (sealed resource object → before.entries (layout.path (.latest resource object)) = []) ∧
      ∃ content, layout.Points after resource object content ∧
        after.entries (layout.path (.reference resource object content)) ≠ []

namespace Publishes

variable {provider : Provider} {layout : S3Layout} {hashed : Set Bytes}
variable {sealed : HexDigest → HexDigest → Prop} {first second third before : Bucket}

theorem same (h : SameObjects first second) :
    Publishes provider layout hashed sealed first second where
  versioned := h.versioned
  registered _ := by rw [h.entries]
  references _ _ _ _ := by rw [h.entries]
  blobs _ _ _ _ _ stored hfetch :=
    ⟨stored, (provider.fetch_congr h.versioned (by rw [h.entries])).trans hfetch, rfl⟩
  backed _ resource object content hempty envelope hrecorded := by
    rw [← h.entries] at hempty
    exact absurd hempty (S3Layout.recorded_entries hrecorded)
  latest _ _ := Or.inl (by rw [h.entries])

theorem backed_kept (h : Publishes provider layout hashed sealed first second)
    (hfree : layout.CollisionFree hashed) {resource object content : HexDigest}
    (hbacked : layout.Backed provider first resource object content) :
    layout.Backed provider second resource object content := by
  by_cases hempty : first.entries (layout.path (.reference resource object content)) = []
  · exact h.backed hfree resource object content hempty
  · intro envelope hrecorded
    have hbefore : layout.Recorded first resource object content envelope :=
      S3Layout.recorded_congr (h.references _ _ _ hempty).symm hrecorded
    obtain ⟨name, stored, hname, hfetch, hlength⟩ := hbacked envelope hbefore
    obtain ⟨found, hfound, hbody⟩ := h.blobs hfree _ _ _ _ _ hfetch
    exact ⟨name, found, hname, hfound, by rw [hbody, hlength]⟩

theorem references_kept (h : Publishes provider layout hashed sealed first second)
    {resource object content : HexDigest}
    (hstored : first.entries (layout.path (.reference resource object content)) ≠ []) :
    second.entries (layout.path (.reference resource object content)) ≠ [] := by
  rw [h.references _ _ _ hstored]
  exact hstored

theorem trans (h : Publishes provider layout hashed sealed first second)
    (hnext : Publishes provider layout hashed sealed second third) :
    Publishes provider layout hashed sealed first third := by
  constructor
  · exact hnext.versioned.trans h.versioned
  · exact fun resource => (hnext.registered resource).trans (h.registered resource)
  · intro resource object content hstored
    rw [hnext.references _ _ _ (h.references_kept hstored), h.references _ _ _ hstored]
  · intro hfree resource object content name stored hfetch
    obtain ⟨found, hfound, hbody⟩ := h.blobs hfree _ _ _ _ _ hfetch
    obtain ⟨last, hlast, hlastbody⟩ := hnext.blobs hfree _ _ _ _ _ hfound
    exact ⟨last, hlast, hlastbody.trans hbody⟩
  · intro hfree resource object content hempty
    exact hnext.backed_kept hfree (h.backed hfree _ _ _ hempty)
  · intro resource object
    rcases hnext.latest resource object with hsame | ⟨hsealed, hpoints⟩
    · rcases h.latest resource object with hfirst | ⟨hsealed, content, hpoints, hstored⟩
      · exact Or.inl (hsame.trans hfirst)
      · exact Or.inr ⟨hsealed, content, S3Layout.points_congr hsame hpoints,
          hnext.references_kept hstored⟩
    · refine Or.inr ⟨fun hs => ?_, hpoints⟩
      rcases h.latest resource object with hfirst | ⟨hempty, -⟩
      · rw [← hfirst]
        exact hsealed hs
      · exact hempty hs

-- One write of a put: what it must satisfy for each kind of key.
theorem put (hsound : layout.Sound hashed before) {physical : PhysicalKey} {stored : StoredBody}
    (hproper : layout.Proper hashed before.versioned physical stored)
    (honce : S3Layout.writtenOnce physical → before.current (layout.path physical) = none)
    (hregistered : ∀ resource, physical ≠ .registered resource)
    (hreference : ∀ resource object content, physical = .reference resource object content →
      layout.CollisionFree hashed →
      ∃ (envelope : StoredEnvelope) (name : Option String) (blob : StoredBody),
        stored.body = layout.common.canonicalJsonBytes (envelope.toDict layout.common) ∧
        (envelope.toDict layout.common).canonical = true ∧
        envelope.blobVersionId = .ofOption name ∧
        provider.fetch before (layout.path (.blob resource object content)) name = some blob ∧
        blob.body.length = envelope.metadata.byteLength)
    (hlatest : ∀ resource object, physical = .latest resource object →
      (sealed resource object → before.entries (layout.path physical) = []) ∧
      ∃ content : HexDigest,
        stored.body = layout.common.canonicalJsonBytes (latestValue content.digest) ∧
        before.entries (layout.path (.reference resource object content)) ≠ []) :
    Publishes provider layout hashed sealed before (before.put (layout.path physical) stored) := by
  have hother (key : PhysicalKey) (hne : key ≠ physical) :
      (before.put (layout.path physical) stored).entries (layout.path key) =
        before.entries (layout.path key) :=
    Store.put_entries_of_ne _ (by simpa using hne) _
  constructor
  · rfl
  · exact fun resource => hother _ (Ne.symm (hregistered resource))
  · intro resource object content hstored
    apply hother
    intro he
    subst he
    exact hstored ((hsound.current_eq_none_iff _).mp (honce trivial))
  · intro hfree resource object content name blob hfetch
    by_cases he : (PhysicalKey.blob resource object content) = physical
    · subst he
      obtain ⟨hhashed, hdigest, -⟩ := hproper
      obtain ⟨hblob, hblobdigest, -⟩ := hsound.blob hfetch
      obtain ⟨found, hfound, hwhich⟩ := provider.fetch_put hfetch stored
      refine ⟨found, hfound, ?_⟩
      rcases hwhich with rfl | rfl
      · rfl
      · exact hfree hhashed hblob (hdigest.trans hblobdigest.symm)
    · exact ⟨blob, (provider.fetch_congr (Store.put_versioned ..) (hother _ he)).trans hfetch, rfl⟩
  · intro hfree resource object content hempty found hfound
    by_cases he : (PhysicalKey.reference resource object content) = physical
    · subst he
      obtain ⟨envelope, name, blob, hbody, hcanonical, hname, hfetch, hlength⟩ :=
        hreference _ _ _ rfl hfree
      have hrecorded : layout.Recorded
          (before.put (layout.path (.reference resource object content)) stored)
          resource object content envelope :=
        ⟨hcanonical, stored, Store.put_current_self .., hbody⟩
      rw [S3Layout.recorded_unique hfound hrecorded]
      exact ⟨name, blob, hname,
        (provider.fetch_congr (Store.put_versioned ..) (hother _ (by simp))).trans hfetch, hlength⟩
    · refine absurd ?_ (S3Layout.recorded_entries hfound)
      rw [hother _ he, hempty]
  · intro resource object
    by_cases he : (PhysicalKey.latest resource object) = physical
    · subst he
      obtain ⟨hsealed, content, hbody, hstored⟩ := hlatest _ _ rfl
      refine Or.inr ⟨hsealed, content, ⟨stored, Store.put_current_self .., hbody⟩, ?_⟩
      rwa [hother _ (by simp)]
    · exact Or.inl (hother _ he)

end Publishes

-- The company that a put has: whatever the others do in between, they publish at most.
structure Company (provider : Provider) (layout : S3Layout) (hashed : Set Bytes)
    (sealed : HexDigest → HexDigest → Prop) where
  others : Bucket → Bucket → Prop
  same : ∀ before after, SameObjects before after → others before after
  trans : ∀ first second third, others first second → others second third → others first third
  publishes : ∀ before after, others before after →
    Publishes provider layout hashed sealed before after

namespace Company

variable (provider : Provider) (layout : S3Layout) (hashed : Set Bytes)
variable (sealed : HexDigest → HexDigest → Prop)

-- Other puts.
def puts : Company provider layout hashed sealed where
  others := Publishes provider layout hashed sealed
  same _ _ := Publishes.same
  trans _ _ _ := Publishes.trans
  publishes _ _ h := h

-- Nobody.
def nobody : Company provider layout hashed sealed where
  others := SameObjects
  same _ _ h := h
  trans _ _ _ h hnext := h.trans hnext
  publishes _ _ := Publishes.same

end Company

-- A put among the others: it relies on what they keep to, and publishes itself.
def publication {provider : Provider} {layout : S3Layout} {hashed : Set Bytes}
    {sealed : HexDigest → HexDigest → Prop} (company : Company provider layout hashed sealed) :
    Discipline S3 Failure String ObjectHeader UInt8 where
  faults _ _ := True
  invariant := layout.Sound hashed
  others := company.others
  own := Publishes provider layout hashed sealed
  invariant_same _ _ hsame hsound := hsound.same hsame
  others_same := company.same
  others_trans := company.trans
  own_same _ _ := Publishes.same

end MeridianS3
