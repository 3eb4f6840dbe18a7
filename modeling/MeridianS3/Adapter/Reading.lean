import MeridianS3.Adapter.Core
import MeridianS3.Transport.Theorems

namespace MeridianS3

open Effect ObjectStore Json

def missingAsNone {α : Type} : Except Failure α → Except Failure (Option α)
  | .ok value => .ok (some value)
  | .error failure => if failure.is .objectNotFound then .ok none else .error failure

theorem missingAsNone_some {α : Type} {result : Except Failure α} {value : α}
    (h : missingAsNone result = .ok (some value)) : result = .ok value := by
  cases result with
  | ok found => simpa [missingAsNone] using h
  | error failure =>
      simp only [missingAsNone] at h
      split at h <;> cases h

namespace S3ObjectAdapter

variable (adapter : S3ObjectAdapter) (provider : Provider)

-- What the reads of an adapter come to in a bucket that does not change.
def latestDigest (bucket : Bucket) (resource : ResourceRef) (objectId : String) :
    Except Failure String :=
  (adapter.transport.document bucket (adapter.layout.latestKey resource objectId)).bind pointerDigest

def envelopeAt (bucket : Bucket) (resource : ResourceRef) (objectId digest : String) :
    Except Failure StoredEnvelope :=
  (adapter.layout.referenceKey resource objectId digest).bind fun key =>
    (adapter.transport.document bucket key).bind (adapter.checkedEnvelope objectId digest)

def latestEnvelope (bucket : Bucket) (resource : ResourceRef) (objectId : String) :
    Except Failure StoredEnvelope :=
  (adapter.latestDigest bucket resource objectId).bind (adapter.envelopeAt bucket resource objectId)

def newestInPage (bucket : Bucket) (excludeDigest : Option String) :
    List String → Option StoredEnvelope → Except Failure (Option StoredEnvelope)
  | [], selected => .ok selected
  | key :: rest, selected =>
      ((adapter.transport.document bucket key).bind
        (StoredEnvelope.fromMapping adapter.common)).bind fun envelope =>
          if some envelope.metadata.digest = excludeDigest then
            newestInPage bucket excludeDigest rest selected
          else if selected.all fun held => adapter.common.newer envelope.metadata held.metadata then
            newestInPage bucket excludeDigest rest (some envelope)
          else newestInPage bucket excludeDigest rest selected

def pageAt (bucket : Bucket) (keyPrefix : String) (startAfter : Option String) : Store.Page String :=
  bucket.list (fun key => keyPrefix.toList.isPrefixOf key.toList) 1000 startAfter

def newestInPages (bucket : Bucket) (keyPrefix : String) (excludeDigest : Option String) :
    Nat → Option String → Option StoredEnvelope → Except Failure (Option StoredEnvelope)
  | 0, _, selected => .ok selected
  | pages + 1, startAfter, selected =>
      (adapter.newestInPage bucket excludeDigest (pageAt bucket keyPrefix startAfter).keys
        selected).bind fun selected =>
          match (pageAt bucket keyPrefix startAfter).truncated,
            (pageAt bucket keyPrefix startAfter).keys.getLast? with
          | true, some last =>
              newestInPages bucket keyPrefix excludeDigest pages (some last) selected
          | _, _ => .ok selected

def newestIn (bucket : Bucket) (resource : ResourceRef) (objectId : String)
    (excludeDigest : Option String) : Except Failure (Option StoredEnvelope) :=
  adapter.newestInPages bucket (adapter.layout.versionPrefix resource objectId) excludeDigest
    MAX_INTERNAL_LIST_PAGES none none

variable (resource : ResourceRef) (objectId : String) (bucket : Bucket)

@[simp] theorem run_selectedDigest :
    (adapter.selectedDigest resource objectId none).run provider.handle bucket =
      (adapter.latestDigest bucket resource objectId, bucket) := by
  unfold selectedDigest latestDigest
  rw [Program.run_bind, S3Transport.run_readJson]
  cases adapter.transport.document bucket (adapter.layout.latestKey resource objectId) <;> rfl

theorem run_exactEnvelope (digest : String) :
    (do
      let key ← Program.lift (adapter.layout.referenceKey resource objectId digest)
      let value ← adapter.transport.readJson key
      Program.lift (adapter.checkedEnvelope objectId digest value) : S3M StoredEnvelope).run
        provider.handle bucket = (adapter.envelopeAt bucket resource objectId digest, bucket) := by
  unfold envelopeAt
  rw [Program.run_bind, Program.run_lift]
  cases adapter.layout.referenceKey resource objectId digest with
  | error failure => rfl
  | ok key =>
      change ((adapter.transport.readJson key >>= fun value =>
        Program.lift (adapter.checkedEnvelope objectId digest value)).run provider.handle bucket) = _
      rw [Program.run_bind, S3Transport.run_readJson]
      simp only [Except.bind]
      cases adapter.transport.document bucket key <;> rfl

@[simp] theorem run_readEnvelope (digest : String) :
    (adapter.readEnvelope resource objectId (some digest)).run provider.handle bucket =
      (adapter.envelopeAt bucket resource objectId digest, bucket) :=
  adapter.run_exactEnvelope provider resource objectId bucket digest

@[simp] theorem run_readLatest :
    (adapter.readEnvelope resource objectId none).run provider.handle bucket =
      (adapter.latestEnvelope bucket resource objectId, bucket) := by
  unfold readEnvelope latestEnvelope
  rw [Program.run_bind, run_selectedDigest]
  cases adapter.latestDigest bucket resource objectId with
  | error failure => rfl
  | ok digest => exact adapter.run_exactEnvelope provider resource objectId bucket digest

@[simp] theorem run_tryLatest :
    (adapter.tryLatest resource objectId).run provider.handle bucket =
      (missingAsNone (adapter.latestEnvelope bucket resource objectId), bucket) := by
  unfold tryLatest
  rw [Program.run_tryCatch, Program.map_eq, Program.run_andThen, run_readLatest]
  cases adapter.latestEnvelope bucket resource objectId with
  | ok envelope => rfl
  | error failure =>
      simp only [Program.onOk, Program.run_done, Program.onError, missingAsNone]
      split <;> rfl

theorem run_newestOfPage (excludeDigest : Option String) (keys : List String)
    (selected : Option StoredEnvelope) :
    (adapter.newestOfPage excludeDigest keys selected).run provider.handle bucket =
      (adapter.newestInPage bucket excludeDigest keys selected, bucket) := by
  induction keys generalizing selected with
  | nil => rfl
  | cons key rest ih =>
      rw [newestOfPage, newestInPage, Program.run_bind, S3Transport.run_readJson]
      cases adapter.transport.document bucket key with
      | error failure => rfl
      | ok value =>
          simp only [Program.onOk, Except.bind]
          rw [Program.run_bind, Program.run_lift]
          cases StoredEnvelope.fromMapping adapter.common value with
          | error failure => rfl
          | ok envelope =>
              simp only [Program.onOk]
              split
              · exact ih selected
              · split
                · exact ih (some envelope)
                · exact ih selected

theorem run_listPage (keyPrefix : String) (startAfter : Option String) :
    (S3Transport.listKeys keyPrefix 1000 startAfter).run provider.handle bucket =
      (.ok ⟨(pageAt bucket keyPrefix startAfter).keys,
        (pageAt bucket keyPrefix startAfter).truncated⟩, bucket) := rfl

theorem run_newestOfPages (keyPrefix : String) (excludeDigest : Option String) (pages : Nat)
    (startAfter : Option String) (selected : Option StoredEnvelope) :
    (adapter.newestOfPages keyPrefix excludeDigest pages startAfter selected).run provider.handle
      bucket =
      (adapter.newestInPages bucket keyPrefix excludeDigest pages startAfter selected, bucket) := by
  induction pages generalizing startAfter selected with
  | zero => rfl
  | succ pages ih =>
      rw [newestOfPages, newestInPages, Program.run_bind, run_listPage]
      simp only [Program.onOk]
      rw [Program.run_bind, run_newestOfPage]
      cases adapter.newestInPage bucket excludeDigest (pageAt bucket keyPrefix startAfter).keys
          selected with
      | error failure => rfl
      | ok next =>
          simp only [Program.onOk, Except.bind]
          cases (pageAt bucket keyPrefix startAfter).truncated with
          | false => rfl
          | true =>
              cases (pageAt bucket keyPrefix startAfter).keys.getLast? with
              | none => rfl
              | some last => exact ih _ _

@[simp] theorem run_newestVersion (excludeDigest : Option String) :
    (adapter.newestVersion resource objectId excludeDigest).run provider.handle bucket =
      (adapter.newestIn bucket resource objectId excludeDigest, bucket) :=
  adapter.run_newestOfPages provider bucket _ excludeDigest _ _ _

theorem run_resourceProfile :
    (adapter.resourceProfile resource).run provider.handle bucket =
      (((missingAsNone (adapter.transport.document bucket
        (adapter.layout.resourceKey resource))).bind adapter.storedProfile), bucket) := by
  unfold resourceProfile
  rw [Program.run_bind, Program.run_tryCatch, Program.map_eq, Program.run_andThen,
    S3Transport.run_readJson]
  cases adapter.transport.document bucket (adapter.layout.resourceKey resource) with
  | ok value => rfl
  | error failure =>
      simp only [Program.onOk, Program.run_done, Program.onError, missingAsNone]
      cases failure.is .objectNotFound <;> rfl

theorem latestDigest_same {first second : Bucket} (h : SameObjects first second) :
    adapter.latestDigest second resource objectId = adapter.latestDigest first resource objectId := by
  simp only [latestDigest, S3Transport.document, h.current]

theorem envelopeAt_same {first second : Bucket} (h : SameObjects first second) (digest : String) :
    adapter.envelopeAt second resource objectId digest =
      adapter.envelopeAt first resource objectId digest := by
  simp only [envelopeAt, S3Transport.document, h.current]

section Kinds

variable {keys listings : String → Prop} {raised : Failure → Prop}

-- The keys under which the versions of an object id are looked up.
def objectKey (key : String) : Prop :=
  key = adapter.layout.latestKey resource objectId ∨
    ∃ digest, adapter.layout.referenceKey resource objectId digest = .ok key

theorem readEnvelope_within (hkeys : ∀ key, adapter.objectKey resource objectId key → keys key)
    (digest : Option String) :
    (adapter.readEnvelope resource objectId digest).Within (S3Call.reads keys listings) := by
  have hselected : (adapter.selectedDigest resource objectId digest).Within
      (S3Call.reads keys listings) := by
    cases digest with
    | some digest => trivial
    | none =>
        exact Program.Within.bind (S3Transport.readJson_within _ (hkeys _ (Or.inl rfl)))
          fun _ => trivial
  apply Program.Within.bind hselected
  intro selected
  apply Program.Within.lift_bind
  intro key hkey
  exact Program.Within.bind (S3Transport.readJson_within _ (hkeys _ (Or.inr ⟨selected, hkey⟩)))
    fun _ => trivial

theorem readEnvelope_surfaces (hlasting : Failure.Lasting raised) (digest : Option String) :
    (adapter.readEnvelope resource objectId digest).Surfaces raised := by
  have hselected : (adapter.selectedDigest resource objectId digest).Surfaces raised := by
    cases digest with
    | some digest => trivial
    | none =>
        exact Program.Surfaces.bind (S3Transport.readJson_surfaces _ hlasting _) fun _ => trivial
  apply Program.Surfaces.bind hselected
  intro selected
  apply Program.Surfaces.bind (.ofLift _)
  intro key
  exact Program.Surfaces.bind (S3Transport.readJson_surfaces _ hlasting _) fun _ => trivial

theorem tryLatest_within (hkeys : ∀ key, adapter.objectKey resource objectId key → keys key) :
    (adapter.tryLatest resource objectId).Within (S3Call.reads keys listings) := by
  apply Program.Within.recover ((adapter.readEnvelope_within resource objectId hkeys none).map some)
  intro failure
  split <;> trivial

theorem tryLatest_surfaces (hlasting : Failure.Lasting raised)
    (hfound : ∀ failure, raised failure → failure.is .objectNotFound = false) :
    (adapter.tryLatest resource objectId).Surfaces raised := by
  apply Program.Surfaces.recover
    ((adapter.readEnvelope_surfaces resource objectId hlasting none).map some)
  · intro failure
    split <;> trivial
  · intro failure hraised
    rw [hfound failure hraised]
    exact ⟨failure, hraised, rfl⟩

theorem resourceProfile_within (hkey : keys (adapter.layout.resourceKey resource)) :
    (adapter.resourceProfile resource).Within (S3Call.reads keys listings) := by
  apply Program.Within.bind
  · apply Program.Within.recover ((S3Transport.readJson_within _ hkey).map some)
    intro failure
    split <;> trivial
  · intro found
    trivial

theorem resourceProfile_surfaces (hlasting : Failure.Lasting raised)
    (hfound : ∀ failure, raised failure → failure.is .objectNotFound = false) :
    (adapter.resourceProfile resource).Surfaces raised := by
  apply Program.Surfaces.bind
  · apply Program.Surfaces.recover ((S3Transport.readJson_surfaces _ hlasting _).map some)
    · intro failure
      split <;> trivial
    · intro failure hraised
      rw [hfound failure hraised]
      exact ⟨failure, hraised, rfl⟩
  · intro found
    trivial

theorem newestOfPage_within (excludeDigest : Option String) (page : List String)
    (selected : Option StoredEnvelope) :
    (adapter.newestOfPage excludeDigest page selected).Within
      (S3Call.reads anything listings) := by
  induction page generalizing selected with
  | nil => trivial
  | cons key rest ih =>
      apply Program.Within.bind (S3Transport.readJson_within _ trivial)
      intro value
      apply Program.Within.bind (.ofLift _)
      intro envelope
      split
      · exact ih selected
      · split
        · exact ih (some envelope)
        · exact ih selected

theorem newestOfPage_surfaces (hlasting : Failure.Lasting raised) (excludeDigest : Option String)
    (page : List String)
    (selected : Option StoredEnvelope) :
    (adapter.newestOfPage excludeDigest page selected).Surfaces raised := by
  induction page generalizing selected with
  | nil => trivial
  | cons key rest ih =>
      apply Program.Surfaces.bind (S3Transport.readJson_surfaces _ hlasting _)
      intro value
      apply Program.Surfaces.bind (.ofLift _)
      intro envelope
      split
      · exact ih selected
      · split
        · exact ih (some envelope)
        · exact ih selected

theorem newestOfPages_within (keyPrefix : String) (hunder : listings keyPrefix)
    (excludeDigest : Option String) (pages : Nat) (startAfter : Option String)
    (selected : Option StoredEnvelope) :
    (adapter.newestOfPages keyPrefix excludeDigest pages startAfter selected).Within
      (S3Call.reads anything listings) := by
  induction pages generalizing startAfter selected with
  | zero => trivial
  | succ pages ih =>
      apply Program.Within.bind (S3Transport.listKeys_within hunder _ _)
      intro page
      apply Program.Within.bind (adapter.newestOfPage_within excludeDigest page.keys selected)
      intro next
      split
      · exact ih _ _
      · trivial

theorem newestOfPages_surfaces (hlasting : Failure.Lasting raised) (keyPrefix : String)
    (excludeDigest : Option String) (pages : Nat)
    (startAfter : Option String) (selected : Option StoredEnvelope) :
    (adapter.newestOfPages keyPrefix excludeDigest pages startAfter selected).Surfaces
      raised := by
  induction pages generalizing startAfter selected with
  | zero => trivial
  | succ pages ih =>
      apply Program.Surfaces.bind (S3Transport.listKeys_surfaces hlasting _ _ _)
      intro page
      apply Program.Surfaces.bind
        (adapter.newestOfPage_surfaces hlasting excludeDigest page.keys selected)
      intro next
      split
      · exact ih _ _
      · trivial

theorem newestVersion_within (excludeDigest : Option String) :
    (adapter.newestVersion resource objectId excludeDigest).Within
      (S3Call.reads anything anything) :=
  adapter.newestOfPages_within _ trivial excludeDigest _ _ _

theorem newestVersion_surfaces (hlasting : Failure.Lasting raised) (excludeDigest : Option String) :
    (adapter.newestVersion resource objectId excludeDigest).Surfaces raised :=
  adapter.newestOfPages_surfaces hlasting _ excludeDigest _ _ _

end Kinds

end S3ObjectAdapter

end MeridianS3
