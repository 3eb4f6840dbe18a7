import MeridianS3.Deposit.Versions

namespace MeridianS3

open Effect ObjectStore Json

-- The calls that write under no other keys.
def S3Call.spares (keys : String → Prop) (call : S3Call) : Prop :=
  ∀ key, call.writes key → keys key

variable {keys : String → Prop} {key : String}

theorem reads_spares {listings : String → Prop} {other : String → Prop} {α : Type}
    {program : S3M α} (h : program.Within (S3Call.reads other listings)) :
    program.Within (S3Call.spares keys) :=
  h.mono fun _ hreads key hwrites => absurd hwrites (S3Call.reads_silent hreads key)

section Runs

variable {provider : Provider} {α : Type} {program : S3M α}

-- A run leaves alone what none of its calls can write under.
theorem spares_run (h : program.Within (S3Call.spares keys)) (plan : Plan Failure)
    (bucket : Bucket) : Provider.AgreeOn (fun key => ¬keys key) bucket
      (program.runFaulty provider.handle plan bucket).2 := by
  have hconfined : program.Confined (S3Call.spares keys) (fun _ _ => True) fun _ => True :=
    h.confined
  have hkept (call : S3Call) (hspares : call.spares keys) (state : Bucket) :
      Provider.AgreeOn (fun key => ¬keys key) state (provider.handle call state).2 :=
    (provider.handle_unwritten call state).mono fun key hkey hwrites => hkey (hspares key hwrites)
  exact (hconfined.runFaulty_kept (fun _ _ _ => trivial) .refl (fun _ _ _ => .trans) hkept
    (fun _ _ _ => trivial) bucket).1

-- A run that looks at some keys comes to the same in two buckets that agree on these.
theorem looks_run {post : Except Failure α → Prop}
    (h : program.Confined (S3Call.looks keys) (fun _ _ => True) post) {first second : Bucket}
    (hagree : Provider.AgreeOn keys first second) (plan : Plan Failure) :
    (program.runFaulty provider.handle plan second).1 =
      (program.runFaulty provider.handle plan first).1 :=
  (h.runFaulty_alike (fun _ _ _ => trivial) provider.handle_looks (fun _ _ _ => trivial) hagree).1

end Runs

namespace S3Transport

variable {transport : S3Transport}

theorem head_looks (h : keys key) (versionId : Value) :
    (head key versionId).Within (S3Call.looks keys) := by
  apply Program.Within.bind
  · apply normalized_within
    apply Program.Within.bind (.ofLift _)
    exact fun _ => .perform h
  · exact fun _ => trivial

theorem head_spares (key : String) (versionId : Value) :
    (head key versionId).Within (S3Call.spares keys) := by
  apply Program.Within.bind
  · apply normalized_within
    apply Program.Within.bind (.ofLift _)
    exact fun _ => .perform fun _ hwrites => absurd hwrites id
  · exact fun _ => trivial

theorem delete_spares (h : keys key) (versionId : Value) (retentionSensitive : Bool) :
    (delete key versionId retentionSensitive).Within (S3Call.spares keys) := by
  apply normalized_within
  apply Program.Within.bind (.ofLift _)
  intro version
  apply Program.Within.perform
  rintro _ rfl
  exact h

theorem putJson_spares (h : keys key) (value : Value) (createOnly : Bool)
    (retention : Option RetentionRecord) :
    (transport.putJson key value createOnly retention).Within (S3Call.spares keys) := by
  apply Program.Within.bind (.ofLift _)
  intro arguments
  apply Program.Within.bind
  · apply normalized_within
    apply Program.Within.perform
    rintro _ rfl
    exact h
  · exact fun _ => trivial

end S3Transport

namespace S3ObjectAdapter

variable (adapter : S3ObjectAdapter)

-- The keys that belong to a version of an object.
def versionKeys (resource : ResourceRef) (objectId : String) (content : HexDigest)
    (key : String) : Prop :=
  key = adapter.layout.path (.blob (adapter.layout.resourceToken resource)
      (adapter.layout.objectToken objectId) content) ∨
    key = adapter.layout.path (.reference (adapter.layout.resourceToken resource)
      (adapter.layout.objectToken objectId) content)

-- The keys that the delete of a version may write under: its own, the object's pointer
-- and the evidence.
def deletes (resource : ResourceRef) (objectId digest key : String) : Prop :=
  ∃ content : HexDigest, digest = content.digest ∧
    (adapter.versionKeys resource objectId content key ∨
      key = adapter.layout.latestKey resource objectId ∨
      key = adapter.layout.path (.deletion (adapter.layout.resourceToken resource)
        (adapter.layout.objectToken objectId) content))

section Writes

variable {adapter} {resource : ResourceRef} {objectId digest : String}

theorem restoreLatest_spares (h : keys (adapter.layout.latestKey resource objectId))
    (previous : Option StoredEnvelope) :
    (adapter.restoreLatest resource objectId previous).Within (S3Call.spares keys) := by
  cases previous with
  | some previous =>
      exact Program.Within.bind (S3Transport.putJson_spares h _ _ _) fun _ => trivial
  | none =>
      apply Program.Within.bind (S3Transport.head_spares _ _)
      exact fun latestHead => S3Transport.delete_spares h _ _

theorem removeVersion_spares (envelope : StoredEnvelope) (latest previous : Option StoredEnvelope) :
    (adapter.removeVersion resource objectId digest envelope latest previous).Within
      (S3Call.spares (adapter.deletes resource objectId digest)) := by
  apply Program.Within.lift_bind
  intro blobKey hblob
  apply Program.Within.lift_bind
  intro exactKey hexact
  obtain ⟨content, rfl, rfl⟩ := digestKey_ok hblob
  rw [S3Layout.referenceKey_digest, Except.ok.injEq] at hexact
  subst hexact
  apply Program.Within.bind (S3Transport.head_spares _ _)
  intro exactHead
  apply Program.Within.bind
    (S3Transport.delete_spares ⟨content, rfl, Or.inl (Or.inl rfl)⟩ _ _)
  intro _
  apply Program.Within.bind
    (S3Transport.delete_spares ⟨content, rfl, Or.inl (Or.inr rfl)⟩ _ _)
  intro _
  split
  · exact restoreLatest_spares ⟨content, rfl, Or.inr (Or.inl rfl)⟩ previous
  · trivial

theorem deleteVersion_spares (request : DeleteRequest) (reference : ObjectReference)
    (digest : String) : (adapter.deleteVersion request reference digest).Within
      (S3Call.spares (adapter.deletes request.resource reference.objectId digest)) := by
  have hread (digest : Option String) :
      (adapter.readEnvelope request.resource reference.objectId digest).Within
        (S3Call.reads anything anything) := adapter.readEnvelope_within _ _ (fun _ _ => trivial) _
  have hlatest : (adapter.tryLatest request.resource reference.objectId).Within
      (S3Call.reads anything anything) := adapter.tryLatest_within _ _ fun _ _ => trivial
  apply Program.Within.bind (reads_spares (hread _))
  intro envelope
  apply Program.Within.bind (.ofLift _)
  intro _
  apply Program.Within.bind (reads_spares hlatest)
  intro latest
  apply Program.Within.bind (reads_spares (adapter.newestVersion_within _ _ _))
  intro previous
  apply Program.Within.bind (removeVersion_spares envelope latest previous)
  intro _
  apply Program.Within.lift_bind
  intro key hkey
  obtain ⟨content, rfl, rfl⟩ := digestKey_ok hkey
  exact Program.Within.bind
    (S3Transport.putJson_spares ⟨content, rfl, Or.inr (Or.inr rfl)⟩ _ _ _) fun _ => trivial

theorem delete_spares (request : DeleteRequest) : (adapter.delete request).Within
    (S3Call.spares fun key => ∃ reference digest, adapter.reference request.resource
        request.reference "delete" true = .ok reference ∧ reference.digest = some digest ∧
      adapter.deletes request.resource reference.objectId digest key) := by
  apply Program.Within.lift_bind
  intro reference hreference
  split
  · trivial
  · rename_i digest hdigest
    have hversion : (adapter.deleteVersion request reference digest).Within
        (S3Call.spares (adapter.deletes request.resource reference.objectId digest)) :=
      deleteVersion_spares request reference digest
    exact Program.Within.bind (hversion.mono fun _ hspares key hwrites =>
      ⟨reference, digest, hreference, hdigest, hspares key hwrites⟩) fun _ => trivial

end Writes

section Reads

variable {adapter} {resource : ResourceRef} {objectId : String} {digest : Option String}

-- The keys that a read by reference looks at.
def looksAt (adapter : S3ObjectAdapter) (resource : ResourceRef) (objectId : String)
    (digest : Option String) (key : String) : Prop :=
  digest = none ∧ key = adapter.layout.latestKey resource objectId ∨
    ∃ content : HexDigest, (∀ exact ∈ digest, exact = content.digest) ∧
      adapter.versionKeys resource objectId content key

theorem readEnvelope_looks
    (hkeys : ∀ key, adapter.looksAt resource objectId digest key → keys key) :
    (adapter.readEnvelope resource objectId digest).Confined (S3Call.looks keys)
      (fun _ _ => True) fun result => ∀ envelope, result = .ok envelope →
        envelope.metadata.objectRef.objectId = objectId ∧
          ∀ exact ∈ digest, envelope.metadata.digest = exact := by
  have hselected : (adapter.selectedDigest resource objectId digest).Confined (S3Call.looks keys)
      (fun _ _ => True) fun result =>
        ∀ selected, result = .ok selected → ∀ exact ∈ digest, exact = selected := by
    cases digest with
    | some digest =>
        rintro selected hselected exact' hexact
        cases hselected
        exact (Option.some.inj hexact).symm
    | none =>
        have hread : (adapter.transport.readJson
            (adapter.layout.latestKey resource objectId)).Within (S3Call.looks keys) :=
          (S3Transport.readJson_within _ (hkeys _ (Or.inl ⟨rfl, rfl⟩))).mono S3Call.reads_looks
        apply (hread.bind fun _ => Program.Within.ofLift _).confined.mono
        intro _ _ _ _ _ hnone
        cases hnone
  apply hselected.bind _ fun _ _ _ h => nomatch h
  intro selected hexact
  apply Program.Confined.lift_bind _ fun _ _ _ h => nomatch h
  intro key hkey
  obtain ⟨content, rfl, rfl⟩ := digestKey_ok hkey
  have hread : (adapter.transport.readJson (adapter.layout.path (.reference
      (adapter.layout.resourceToken resource) (adapter.layout.objectToken objectId)
      content))).Confined (S3Call.looks keys) (fun _ _ => True) fun _ => True :=
    ((S3Transport.readJson_within _ (hkeys _ (Or.inr ⟨content, hexact _ rfl, Or.inr rfl⟩))).mono
      S3Call.reads_looks).confined
  apply hread.bind _ fun _ _ _ h => nomatch h
  intro value _
  apply Program.Confined.lift
  intro envelope henvelope
  obtain ⟨-, hobject, hdigest⟩ := checkedEnvelope_ok henvelope
  exact ⟨hobject, fun exact' h => hdigest.trans (hexact _ rfl exact' h).symm⟩

-- The keys that a read by reference looks at, whatever its reference is.
def statKeys (adapter : S3ObjectAdapter) (request : ReferenceRequest) (key : String) : Prop :=
  ∃ reference, adapter.reference request.resource request.reference request.method false =
      .ok reference ∧
    adapter.looksAt request.resource reference.objectId reference.digest key

theorem stat_looks (request : ReferenceRequest) : (adapter.stat request).Confined
    (S3Call.looks (adapter.statKeys request)) (fun _ _ => True) fun _ => True := by
  apply Program.Confined.lift_bind _ fun _ _ => trivial
  intro reference hreference
  apply (readEnvelope_looks fun key hlooks => ⟨reference, hreference, hlooks⟩).bind _
    fun _ _ => trivial
  intro envelope hidentity
  obtain ⟨hobject, hdigest⟩ := hidentity envelope rfl
  apply Program.Confined.lift_bind _ fun _ _ => trivial
  intro blobKey hkey
  rw [hobject] at hkey
  obtain ⟨content, hcontent, rfl⟩ := digestKey_ok hkey
  have hexact : ∀ exact ∈ reference.digest, exact = content.digest :=
    fun exact' h => (hdigest exact' h).symm.trans hcontent
  apply (S3Transport.head_looks ⟨reference, hreference, Or.inr ⟨content, hexact, Or.inl rfl⟩⟩
    _).confined.bind _ fun _ _ => trivial
  intro head _
  exact Program.Within.confined (.bind (.ofLift _) fun _ => trivial)

theorem get_looks (resource : ResourceRef) (reference : Value) :
    (adapter.get resource reference).Confined
      (S3Call.looks (adapter.statKeys ⟨resource, reference, "get"⟩)) (fun _ _ => True)
      fun _ => True := by
  apply (stat_looks _).bind _ fun _ _ => trivial
  intro envelope _
  exact Program.Within.confined (.bind (.ofLift _) fun _ => trivial)

theorem readRange_looks (request : RangeRequest) : (adapter.readRange request).Confined
    (S3Call.looks (adapter.statKeys ⟨request.resource, request.reference, "read_range"⟩))
    (fun _ _ => True) fun _ => True := by
  apply (stat_looks _).bind _ fun _ _ => trivial
  intro envelope _
  apply Program.Within.confined
  apply Program.Within.bind (.ofLift _)
  intro rawRange
  apply Program.Within.bind (.ofLift _)
  intro resolved
  dsimp only
  split
  · trivial
  · split
    · trivial
    · exact Program.Within.bind (.ofLift _) fun _ => trivial

end Reads

-- What a delete is not about: another version, or the pointer of another object.
def Elsewhere (request : DeleteRequest) (resource : ResourceRef) (objectId : String)
    (digest : Option String) : Prop :=
  ∀ reference, adapter.reference request.resource request.reference "delete" true = .ok reference →
    match digest with
    | some digest => (resource, objectId, some digest) ≠
        (request.resource, reference.objectId, reference.digest)
    | none => (resource, objectId) ≠ (request.resource, reference.objectId)

end S3ObjectAdapter

-- Resources and object ids that SHA-256 tells apart.
structure S3Layout.TokensApart (layout : S3Layout) (resources : Set ResourceRef)
    (objects : Set String) : Prop where
  resource : Set.InjOn layout.resourceToken resources
  object : Set.InjOn layout.objectToken objects

section Frame

variable {provider : Provider} {adapter : S3ObjectAdapter} {request : DeleteRequest}
variable {resources : Set ResourceRef} {objects : Set String}

-- A delete between Resources and objects that have tokens of their own.
structure DeleteRequest.Among (request : DeleteRequest) (adapter : S3ObjectAdapter)
    (resources : Set ResourceRef) (objects : Set String) : Prop where
  apart : adapter.layout.TokensApart resources objects
  resource : request.resource ∈ resources
  object : ∀ reference, adapter.reference request.resource request.reference "delete" true =
    .ok reference → reference.objectId ∈ objects

-- The keys that are looked at elsewhere are none that the delete writes under.
theorem S3ObjectAdapter.Elsewhere.not_deleted {resource : ResourceRef} {objectId : String}
    {digest : Option String} (hamong : request.Among adapter resources objects)
    (hresource : resource ∈ resources) (hobject : objectId ∈ objects)
    (helsewhere : adapter.Elsewhere request resource objectId digest) {key : String}
    (hlooks : adapter.looksAt resource objectId digest key) :
    ¬∃ reference exact, adapter.reference request.resource request.reference "delete" true =
        .ok reference ∧ reference.digest = some exact ∧
      adapter.deletes request.resource reference.objectId exact key := by
  rintro ⟨reference, _, hreference, hexact, content, rfl, hdeletes⟩
  have hother := helsewhere reference hreference
  have hsame (hresources : adapter.layout.resourceToken resource =
        adapter.layout.resourceToken request.resource)
      (hobjects : adapter.layout.objectToken objectId =
        adapter.layout.objectToken reference.objectId) :
      resource = request.resource ∧ objectId = reference.objectId :=
    ⟨hamong.apart.resource hresource hamong.resource hresources,
      hamong.apart.object hobject (hamong.object reference hreference) hobjects⟩
  rcases hlooks with ⟨rfl, rfl⟩ | ⟨other, hdigest, hversion⟩
  · have htokens : adapter.layout.resourceToken resource =
          adapter.layout.resourceToken request.resource ∧
        adapter.layout.objectToken objectId = adapter.layout.objectToken reference.objectId := by
      simpa [S3ObjectAdapter.versionKeys, S3Layout.latestKey] using hdeletes
    obtain ⟨rfl, rfl⟩ := hsame htokens.1 htokens.2
    exact hother rfl
  · have htokens : adapter.layout.resourceToken resource =
          adapter.layout.resourceToken request.resource ∧
        adapter.layout.objectToken objectId = adapter.layout.objectToken reference.objectId ∧
        other = content := by
      rcases hversion with rfl | rfl <;>
        simpa [S3ObjectAdapter.versionKeys, S3Layout.latestKey] using hdeletes
    obtain ⟨rfl, rfl⟩ := hsame htokens.1 htokens.2.1
    obtain rfl := htokens.2.2
    cases digest with
    | none => exact hother rfl
    | some exact' =>
        obtain rfl := hdigest exact' rfl
        exact hother (by rw [hexact])

theorem S3ObjectAdapter.Elsewhere.agrees {resource : ResourceRef} {objectId : String}
    {digest : Option String} (hamong : request.Among adapter resources objects)
    (hresource : resource ∈ resources) (hobject : objectId ∈ objects)
    (helsewhere : adapter.Elsewhere request resource objectId digest) (plan : Plan Failure)
    (bucket : Bucket) : Provider.AgreeOn (adapter.looksAt resource objectId digest) bucket
      ((adapter.delete request).runFaulty provider.handle plan bucket).2 :=
  (spares_run (S3ObjectAdapter.delete_spares request) plan bucket).mono fun _ hlooks =>
    helsewhere.not_deleted hamong hresource hobject hlooks

-- A read by reference of another version, or of another object.
def S3ObjectAdapter.ReadsElsewhere (adapter : S3ObjectAdapter) (request : DeleteRequest)
    (resources : Set ResourceRef) (objects : Set String) (read : ReferenceRequest) : Prop :=
  read.resource ∈ resources ∧ ∀ found, adapter.reference read.resource read.reference read.method
      false = .ok found →
    found.objectId ∈ objects ∧ adapter.Elsewhere request read.resource found.objectId found.digest

-- What a delete leaves as it is.
structure DeleteSpares (provider : Provider) (adapter : S3ObjectAdapter) (request : DeleteRequest)
    (resources : Set ResourceRef) (objects : Set String) (bucket after : Bucket) : Prop where
  version : ∀ resource ∈ resources, ∀ objectId ∈ objects, ∀ content : HexDigest,
    adapter.Elsewhere request resource objectId (some content.digest) →
    ∀ key, adapter.versionKeys resource objectId content key →
      after.entries key = bucket.entries key
  pointer : ∀ resource ∈ resources, ∀ objectId ∈ objects,
    adapter.Elsewhere request resource objectId none →
      after.entries (adapter.layout.latestKey resource objectId) =
        bucket.entries (adapter.layout.latestKey resource objectId)
  stat : ∀ read : ReferenceRequest, adapter.ReadsElsewhere request resources objects read →
    ((adapter.stat read).run provider.handle after).1 =
      ((adapter.stat read).run provider.handle bucket).1
  get : ∀ resource reference,
    adapter.ReadsElsewhere request resources objects ⟨resource, reference, "get"⟩ →
      ((adapter.get resource reference).run provider.handle after).1 =
        ((adapter.get resource reference).run provider.handle bucket).1
  readRange : ∀ read : RangeRequest, adapter.ReadsElsewhere request resources objects
      ⟨read.resource, read.reference, "read_range"⟩ →
    ((adapter.readRange read).run provider.handle after).1 =
      ((adapter.readRange read).run provider.handle bucket).1

theorem S3ObjectAdapter.ReadsElsewhere.agrees {read : ReferenceRequest}
    (hamong : request.Among adapter resources objects)
    (h : adapter.ReadsElsewhere request resources objects read) (plan : Plan Failure)
    (bucket : Bucket) : Provider.AgreeOn (adapter.statKeys read) bucket
      ((adapter.delete request).runFaulty provider.handle plan bucket).2 := by
  refine (spares_run (S3ObjectAdapter.delete_spares request) plan bucket).mono ?_
  rintro key ⟨found, hfound, hlooks⟩
  obtain ⟨hobject, helsewhere⟩ := h.2 found hfound
  exact helsewhere.not_deleted hamong h.1 hobject hlooks

-- Wherever it is cut off, a delete touches nothing but its version, the pointer of the
-- object and the evidence.
theorem delete_touches_only (hamong : request.Among adapter resources objects)
    (plan : Plan Failure) (bucket : Bucket) :
    DeleteSpares provider adapter request resources objects bucket
      ((adapter.delete request).runFaulty provider.handle plan bucket).2 where
  version resource hresource objectId hobject content helsewhere key hkey :=
    (helsewhere.agrees hamong hresource hobject plan bucket).entries key
      (Or.inr ⟨content, fun _ h => (Option.some.inj h).symm, hkey⟩)
  pointer resource hresource objectId hobject helsewhere :=
    (helsewhere.agrees hamong hresource hobject plan bucket).entries _ (Or.inl ⟨rfl, rfl⟩)
  stat read helsewhere := by
    rw [← runFaulty_nil, ← runFaulty_nil]
    exact looks_run (S3ObjectAdapter.stat_looks read) (helsewhere.agrees hamong plan bucket) []
  get resource reference helsewhere := by
    rw [← runFaulty_nil, ← runFaulty_nil]
    exact looks_run (S3ObjectAdapter.get_looks resource reference)
      (helsewhere.agrees hamong plan bucket) []
  readRange read helsewhere := by
    rw [← runFaulty_nil, ← runFaulty_nil]
    exact looks_run (S3ObjectAdapter.readRange_looks read) (helsewhere.agrees hamong plan bucket) []

end Frame

namespace Standard

theorem late_among :
    (deleteRequest late.hash 4).Among adapter {resource} {"channel"} where
  apart := ⟨Set.injOn_singleton .., Set.injOn_singleton ..⟩
  resource := Set.mem_singleton resource
  object reference hreference := by
    obtain rfl : objectReference late.hash = reference :=
      Except.ok.inj (late_deleted.names.1.symm.trans hreference)
    exact Set.mem_singleton "channel"

-- Both versions are put. The delete of the later one is cut off when it has removed the blob.
theorem late_delete_spares :
    DeleteSpares provider adapter (deleteRequest late.hash 4) {resource} {"channel"}
      (runSteps provider (Store.empty true) [registration, early.step, late.step])
      ((adapter.delete (deleteRequest late.hash 4)).runFaulty provider.handle
        (List.replicate 7 none ++ [some lostReply])
        (runSteps provider (Store.empty true) [registration, early.step, late.step])).2 :=
  delete_touches_only late_among _ _

end Standard

end MeridianS3
