import MeridianS3.Adapter.Migration
import MeridianS3.Effect.Crowd
import MeridianS3.Isolation
import MeridianS3.Deposit.First
import MeridianS3.Transport.Commits

namespace MeridianS3

open Effect ObjectStore Json

namespace S3Transport

variable {transport : S3Transport} {keys : String → Prop} {key : String}

theorem readJson_inside (h : keys key) : (transport.readJson key).Within (S3Call.inside keys) :=
  (transport.readJson_within h).mono fun _ => S3Call.reads_inside

theorem head_inside (h : keys key) (versionId : Value) :
    (head key versionId).Within (S3Call.inside keys) :=
  (head_looks h versionId).mono fun _ => S3Call.looks_inside

theorem putJson_inside (h : keys key) (value : Value) (createOnly : Bool)
    (retention : Option RetentionRecord) :
    (transport.putJson key value createOnly retention).Within (S3Call.inside keys) := by
  apply Program.Within.bind (.ofLift _)
  intro arguments
  apply Program.Within.bind
  · exact normalized_within (Program.Within.perform h)
  · exact fun _ => trivial

theorem delete_inside (h : keys key) (versionId : Value) (retentionSensitive : Bool) :
    (delete key versionId retentionSensitive).Within (S3Call.inside keys) := by
  apply normalized_within
  apply Program.Within.bind (.ofLift _)
  exact fun _ => .perform h

theorem putFile_inside (h : keys key) (stream : Bytes) (length : Nat) (digest contentType : String)
    (metadata : List (String × String)) (retention : Option RetentionRecord) (createOnly : Bool) :
    (transport.putFile key stream length digest contentType metadata retention createOnly).Within
      (S3Call.inside keys) := by
  have hverify (stored : StoredObject) :
      (transport.verifyDigest key digest length stored.versionId).Within (S3Call.inside keys) :=
    (transport.verifyDigest_within h digest length stored.versionId).mono
      fun _ => S3Call.reads_inside
  unfold putFile
  dsimp only
  split
  · trivial
  · apply Program.Within.bind (.ofLift _)
    intro arguments
    apply Program.Within.bind
    · apply normalized_within
      exact (storeFile_writes _).mono fun _ hwrites => S3Call.writes_inside hwrites h
    · intro stored
      split
      · exact Program.Within.bind (hverify stored) fun _ => trivial
      · trivial

theorem register_inside (h : keys key) (document : Value) (message : String) :
    (transport.register key document message).Within (S3Call.inside keys) := by
  apply Program.Within.recover
  · exact Program.Within.bind (putJson_inside h document true none) fun _ => trivial
  · intro failure
    split
    · apply Program.Within.bind (readJson_inside h)
      intro stored
      dsimp only
      split <;> trivial
    · trivial

-- The keys of a page are under its prefix.
theorem listKeys_inside {keyPrefix : String}
    (h : ∀ key : String, keyPrefix.toList <+: key.toList → keys key) (maxKeys : Nat)
    (startAfter : Option String) :
    (listKeys keyPrefix maxKeys startAfter).Confined (S3Call.inside keys) Listing
      fun result => ∀ page, result = .ok page → ∀ key ∈ page.keys, keys key := by
  have hperform : (normalized "list" false (Program.perform (S := S3)
      (.listObjectsV2 keyPrefix maxKeys startAfter))).Confined (S3Call.inside keys) Listing
      fun result => ∀ reply : ListReply, result = .ok reply → ∀ key ∈ reply.contents, keys key := by
    apply (Program.Confined.perform h).recover
    · exact fun reply hlisting found hfound key hmem => h key (hlisting found hfound key hmem)
    · exact fun _ _ _ hthrown => nomatch hthrown
  apply hperform.bind
  · intro reply hreply page hpage
    cases hpage
    exact hreply reply rfl
  · exact fun _ _ _ h => nomatch h

end S3Transport

namespace S3ObjectAdapter

variable {adapter : S3ObjectAdapter} {resource : ResourceRef} {objectId : String}

theorem objectKey_belongs {key : String} (h : adapter.objectKey resource objectId key) :
    adapter.layout.Belongs resource key := by
  obtain rfl | ⟨digest, hkey⟩ := h
  · exact S3Layout.belongs_path (rfl : (PhysicalKey.latest _ _).resource? = _)
  · obtain ⟨content, -, rfl⟩ := digestKey_ok hkey
    exact S3Layout.belongs_path (rfl : (PhysicalKey.reference _ _ _).resource? = _)

theorem readEnvelope_inside (digest : Option String) :
    (adapter.readEnvelope resource objectId digest).Within
      (S3Call.inside (adapter.layout.Belongs resource)) :=
  (adapter.readEnvelope_within resource objectId (fun _ => objectKey_belongs) digest).mono
    fun _ => S3Call.reads_inside

theorem tryLatest_inside : (adapter.tryLatest resource objectId).Within
    (S3Call.inside (adapter.layout.Belongs resource)) :=
  (adapter.tryLatest_within resource objectId fun _ => objectKey_belongs).mono
    fun _ => S3Call.reads_inside

theorem createResource_inside (request : ResourceRequest) :
    (adapter.createResource request).Within (S3Call.inside
      (adapter.layout.Belongs ⟨"object", request.namespace, request.name⟩)) := by
  apply Program.Within.bind (.ofLift _)
  intro profile
  exact Program.Within.bind (S3Transport.register_inside (.inl rfl) _ _) fun _ => trivial

theorem putIntent_inside (request : PutRequest) : (adapter.putIntent request).Within
    (S3Call.inside (adapter.layout.Belongs request.resource)) := by
  have hprofile : (adapter.resourceProfile request.resource).Within
      (S3Call.inside (adapter.layout.Belongs request.resource)) :=
    (adapter.resourceProfile_within request.resource (.inl rfl)).mono
      fun _ => S3Call.reads_inside
  apply Program.Within.bind hprofile
  intro profile
  apply Program.Within.bind (.ofLift _)
  intro mutability
  apply Program.Within.bind (.ofLift _)
  intro wanted
  apply Program.Within.bind (.ofLift _)
  intro retention
  apply Program.Within.bind (.ofLift _)
  intro creationContext
  apply Program.Within.bind (.ofLift _)
  intro provenance
  apply Program.Within.bind tryLatest_inside
  intro existing
  dsimp only
  split
  · trivial
  · apply Program.Within.bind (.ofLift _)
    intro raw
    exact Program.Within.bind (.ofLift _) fun _ => trivial

theorem putUpload_inside (request : PutRequest) (intent : PutIntent) :
    (adapter.putUpload request intent).Within
      (S3Call.inside (adapter.layout.Belongs request.resource)) := by
  apply Program.Within.bind (.ofLift _)
  intro writes
  dsimp only
  split
  · trivial
  · apply Program.Within.bind tryLatest_inside
    intro latest
    apply Program.Within.bind (.ofLift _)
    intro existing
    cases existing with
    | some metadata => trivial
    | none =>
        apply Program.Within.bind
        · apply Program.Within.lift_bind
          intro key hkey
          obtain ⟨content, -, rfl⟩ := digestKey_ok hkey
          exact S3Transport.putFile_inside
            (S3Layout.belongs_path (rfl : (PhysicalKey.blob _ _ _).resource? = _)) _ _ _ _ _ _ _
        · intro stored
          trivial

theorem publishReference_inside (request : PutRequest) (intent : PutIntent)
    (identity : PayloadIdentity) (chunks : List String) (stored : StoredObject) :
    (adapter.publishReference request intent identity chunks stored).Within
      (S3Call.inside (adapter.layout.Belongs request.resource)) := by
  apply Program.Within.lift_bind
  intro key hkey
  exact Program.Within.bind
    (S3Transport.putJson_inside (objectKey_belongs (Or.inr ⟨_, hkey⟩)) _ _ _) fun _ => trivial

theorem publishLatest_inside (request : PutRequest) (intent : PutIntent) (digest : String) :
    (adapter.publishLatest request intent digest).Within
      (S3Call.inside (adapter.layout.Belongs request.resource)) := by
  have horphan : (adapter.recordOrphan request.resource request.input.objectId digest
      "latest-conflict" request.observedAt).Within
        (S3Call.inside (adapter.layout.Belongs request.resource)) := by
    apply Program.Within.lift_bind
    intro key hkey
    obtain ⟨content, -, rfl⟩ := digestKey_ok hkey
    apply Program.Within.recover
    · exact Program.Within.bind (S3Transport.putJson_inside
        (S3Layout.belongs_path (rfl : (PhysicalKey.orphan _ _ _).resource? = _)) _ _ _) fun _ => trivial
    · intro failure
      split <;> trivial
  apply Program.Within.recover
  · exact Program.Within.bind
      (S3Transport.putJson_inside (objectKey_belongs (Or.inl rfl)) _ _ _) fun _ => trivial
  · intro failure
    split
    · apply Program.Within.bind tryLatest_inside
      intro winner
      dsimp only
      split
      · exact Program.Within.bind horphan fun _ => trivial
      · trivial
    · trivial

theorem failing_inside {α : Type} {kind : S3Call → Prop} {flag : Bool} {program : S3M α}
    (h : program.Within kind) : (failing flag program).Within kind :=
  Program.Within.recover h fun _ => trivial

theorem put_inside (request : PutRequest) : (adapter.put request).Within
    (S3Call.inside (adapter.layout.Belongs request.resource)) := by
  apply Program.Within.bind (putIntent_inside request)
  intro intent
  apply Program.Within.bind (failing_inside (putUpload_inside request intent))
  intro progress
  cases progress with
  | idempotent metadata => trivial
  | uploaded identity chunks stored =>
      apply failing_inside
      apply Program.Within.bind (publishReference_inside request intent identity chunks stored)
      intro _
      exact Program.Within.bind (publishLatest_inside request intent _) fun _ => trivial

theorem stat_inside (request : ReferenceRequest) : (adapter.stat request).Within
    (S3Call.inside (adapter.layout.Belongs request.resource)) := by
  apply Program.Within.bind (.ofLift _)
  intro reference
  apply Program.Within.bind (readEnvelope_inside _)
  intro envelope
  apply Program.Within.lift_bind
  intro key hkey
  obtain ⟨content, -, rfl⟩ := digestKey_ok hkey
  apply Program.Within.bind
    (S3Transport.head_inside (S3Layout.belongs_path (rfl : (PhysicalKey.blob _ _ _).resource? = _)) _)
  intro head
  exact Program.Within.bind (.ofLift _) fun _ => trivial

theorem get_inside (resource : ResourceRef) (reference : Value) :
    (adapter.get resource reference).Within (S3Call.inside (adapter.layout.Belongs resource)) := by
  have hstat : (adapter.stat ⟨resource, reference, "get"⟩).Within
      (S3Call.inside (adapter.layout.Belongs resource)) :=
    stat_inside ⟨resource, reference, "get"⟩
  apply Program.Within.bind hstat
  intro envelope
  exact Program.Within.bind (.ofLift _) fun _ => trivial

theorem readRange_inside (request : RangeRequest) : (adapter.readRange request).Within
    (S3Call.inside (adapter.layout.Belongs request.resource)) := by
  have hstat : (adapter.stat ⟨request.resource, request.reference, "read_range"⟩).Within
      (S3Call.inside (adapter.layout.Belongs request.resource)) :=
    stat_inside ⟨request.resource, request.reference, "read_range"⟩
  apply Program.Within.bind hstat
  intro envelope
  apply Program.Within.bind (.ofLift _)
  intro rawRange
  apply Program.Within.bind (.ofLift _)
  intro resolved
  dsimp only
  split
  · trivial
  · split
    · trivial
    · exact Program.Within.bind (.ofLift _) fun _ => trivial

section Listings

variable {keys : String → Prop}

theorem newestOfPage_inside (excludeDigest : Option String) {page : List String}
    (hpage : ∀ key ∈ page, keys key) (selected : Option StoredEnvelope) :
    (adapter.newestOfPage excludeDigest page selected).Within (S3Call.inside keys) := by
  induction page generalizing selected with
  | nil => trivial
  | cons key rest ih =>
      have hrest := fun key hmem => hpage key (List.mem_cons_of_mem _ hmem)
      apply Program.Within.bind (S3Transport.readJson_inside (hpage key List.mem_cons_self))
      intro value
      apply Program.Within.bind (.ofLift _)
      intro envelope
      split
      · exact ih hrest selected
      · split
        · exact ih hrest (some envelope)
        · exact ih hrest selected

theorem newestOfPages_inside {keyPrefix : String}
    (hunder : ∀ key : String, keyPrefix.toList <+: key.toList → keys key)
    (excludeDigest : Option String) (pages : Nat) (startAfter : Option String)
    (selected : Option StoredEnvelope) :
    (adapter.newestOfPages keyPrefix excludeDigest pages startAfter selected).Confined
      (S3Call.inside keys) Listing fun _ => True := by
  induction pages generalizing startAfter selected with
  | zero => trivial
  | succ pages ih =>
      apply (S3Transport.listKeys_inside hunder _ _).bind _ fun _ _ => trivial
      intro page hpage
      apply (newestOfPage_inside excludeDigest (hpage page rfl) selected).confined.bind _
        fun _ _ => trivial
      intro next _
      split
      · exact ih _ _
      · trivial

theorem listPage_inside (namePrefix : String) (limit : Nat) {page : List String}
    (hpage : ∀ key ∈ page, keys key) (progress : ListProgress) :
    (adapter.listPage namePrefix limit page progress).Within (S3Call.inside keys) := by
  induction page generalizing progress with
  | nil => trivial
  | cons key rest ih =>
      unfold listPage
      split
      · trivial
      · apply Program.Within.bind (S3Transport.readJson_inside (hpage key List.mem_cons_self))
        intro value
        apply Program.Within.bind (.ofLift _)
        intro envelope
        exact ih (fun key hmem => hpage key (List.mem_cons_of_mem _ hmem)) _

theorem listPages_inside {keyPrefix : String}
    (hunder : ∀ key : String, keyPrefix.toList <+: key.toList → keys key) (namePrefix : String)
    (limit pages : Nat) (startAfter : Option String) (progress : ListProgress) (more : Bool) :
    (adapter.listPages keyPrefix namePrefix limit pages startAfter progress more).Confined
      (S3Call.inside keys) Listing fun _ => True := by
  induction pages generalizing startAfter progress more with
  | zero => trivial
  | succ pages ih =>
      apply (S3Transport.listKeys_inside hunder _ _).bind _ fun _ _ => trivial
      intro page hpage
      split
      · trivial
      · apply (listPage_inside namePrefix limit (hpage page rfl) progress).confined.bind _
          fun _ _ => trivial
        intro scanned _
        dsimp only
        split
        · trivial
        · split
          · trivial
          · exact ih _ _ _

end Listings

theorem list_inside (request : ListRequest) : (adapter.list request).Confined
    (S3Call.inside (adapter.layout.Belongs request.resource)) Listing fun _ => True := by
  apply Program.Confined.lift_bind _ fun _ _ => trivial
  intro startAfter _
  apply (listPages_inside (fun _ => S3Layout.belongs_reference) _ _ _ _ _ _).bind _
    fun _ _ => trivial
  intro scanned _
  dsimp only
  split
  · exact Program.Within.confined (.bind (.ofLift _) fun _ => trivial)
  · trivial

theorem removeVersion_inside {digest : String} (envelope : StoredEnvelope)
    (latest previous : Option StoredEnvelope) :
    (adapter.removeVersion resource objectId digest envelope latest previous).Within
      (S3Call.inside (adapter.layout.Belongs resource)) := by
  have hlatest : adapter.layout.Belongs resource (adapter.layout.latestKey resource objectId) :=
    objectKey_belongs (Or.inl rfl)
  apply Program.Within.lift_bind
  intro blobKey hblob
  apply Program.Within.lift_bind
  intro exactKey hexact
  obtain ⟨content, rfl, rfl⟩ := digestKey_ok hblob
  have hreference : adapter.layout.Belongs resource exactKey := objectKey_belongs (Or.inr ⟨_, hexact⟩)
  apply Program.Within.bind (S3Transport.head_inside hreference _)
  intro exactHead
  apply Program.Within.bind (S3Transport.delete_inside
    (S3Layout.belongs_path (rfl : (PhysicalKey.blob _ _ _).resource? = _)) _ _)
  intro _
  apply Program.Within.bind (S3Transport.delete_inside hreference _ _)
  intro _
  split
  · cases previous with
    | some previous =>
        exact Program.Within.bind (S3Transport.putJson_inside hlatest _ _ _) fun _ => trivial
    | none =>
        apply Program.Within.bind (S3Transport.head_inside hlatest _)
        exact fun latestHead => S3Transport.delete_inside hlatest _ _
  · trivial

theorem delete_inside (request : DeleteRequest) : (adapter.delete request).Confined
    (S3Call.inside (adapter.layout.Belongs request.resource)) Listing fun _ => True := by
  apply Program.Confined.lift_bind _ fun _ _ => trivial
  intro reference _
  split
  · trivial
  · rename_i digest _
    have hversion : (adapter.deleteVersion request reference digest).Confined
        (S3Call.inside (adapter.layout.Belongs request.resource)) Listing fun _ => True := by
      apply (readEnvelope_inside _).confined.bind _ fun _ _ => trivial
      intro envelope _
      apply Program.Confined.lift_bind _ fun _ _ => trivial
      intro _ _
      apply tryLatest_inside.confined.bind _ fun _ _ => trivial
      intro latest _
      apply (newestOfPages_inside (fun _ => S3Layout.belongs_version) _ _ _ _).bind _
        fun _ _ => trivial
      intro previous _
      apply (removeVersion_inside envelope latest previous).confined.bind _ fun _ _ => trivial
      intro _ _
      apply Program.Confined.lift_bind _ fun _ _ => trivial
      intro key hkey
      obtain ⟨content, -, rfl⟩ := digestKey_ok hkey
      exact Program.Within.confined (.bind (S3Transport.putJson_inside
        (S3Layout.belongs_path (rfl : (PhysicalKey.deletion _ _ _).resource? = _)) _ _ _)
        fun _ => trivial)
    exact hversion.bind (fun _ _ => trivial) fun _ _ => trivial

theorem publishSchema_inside (request : SchemaRequest) : (adapter.publishSchema request).Within
    (S3Call.inside adapter.layout.Schemas) := by
  apply Program.Within.bind
  · apply S3Transport.register_inside
    exact ⟨((adapter.layout.token (request.namespace ++ ":" ++ request.name ++ "@" ++
      request.version)).text ++ ".json").toList, by simp [S3Layout.schemaKey, PhysicalKey.render]⟩
  · exact fun _ => trivial

end S3ObjectAdapter

-- The Resource that an operation is about. A schema belongs to none.
def Operation.target : Operation → Option ResourceRef
  | .publishSchema _ => none
  | .createResource request => some ⟨"object", request.namespace, request.name⟩
  | .put request => some request.resource
  | .get resource _ | .stat resource _ => some resource
  | .readRange request => some request.resource
  | .list request => some request.resource
  | .delete request => some request.resource

-- The keys that belong to a Resource, or else the schemas.
def S3Layout.Territory (layout : S3Layout) : Option ResourceRef → String → Prop
  | some resource => layout.Belongs resource
  | none => layout.Schemas

theorem S3ObjectAdapter.execute_confined (adapter : S3ObjectAdapter) (operation : Operation) :
    (adapter.execute operation).Confined
      (S3Call.inside (adapter.layout.Territory operation.target)) Listing fun _ => True := by
  cases operation with
  | publishSchema request => exact ((publishSchema_inside request).map _).confined
  | createResource request => exact ((createResource_inside request).map _).confined
  | put request => exact ((put_inside request).map _).confined
  | get resource reference => exact ((get_inside resource reference).map _).confined
  | stat resource reference => exact ((stat_inside ⟨resource, reference, "stat"⟩).map _).confined
  | readRange request => exact ((readRange_inside request).map _).confined
  | list request => exact (list_inside request).map (fun _ _ => trivial) fun _ _ => trivial
  | delete request => exact (delete_inside request).map (fun _ _ => trivial) fun _ _ => trivial

theorem S3MigrationHooks.apply_inside (hooks : S3MigrationHooks) (plan : S3MigrationPlan) :
    (hooks.apply plan).Within (S3Call.inside hooks.layout.Migrations) := by
  apply Program.Within.bind
  · exact normalized_within (.perform trivial)
  · intro _
    apply Program.Within.bind
    · apply S3Transport.register_inside
      exact ⟨(String.ofList (zeroPadded plan.targetRevision) ++ ".json").toList,
        by simp [S3Layout.migrationKey, PhysicalKey.render]⟩
    · exact fun _ => trivial

-- Who makes calls on a bucket.
inductive Caller where
  | operation (adapter : S3ObjectAdapter) (operation : Operation)
  | migration (hooks : S3MigrationHooks) (plan : S3MigrationPlan)

namespace Caller

def program : Caller → S3M (Outcome ⊕ S3MigrationResult)
  | .operation adapter asked => Sum.inl <$> adapter.execute asked
  | .migration hooks plan => Sum.inr <$> hooks.apply plan

def layout : Caller → S3Layout
  | .operation adapter _ => adapter.layout
  | .migration hooks _ => hooks.layout

def target : Caller → Option ResourceRef
  | .operation _ asked => asked.target
  | .migration .. => none

-- The keys that a caller has to do with.
def Territory : Caller → String → Prop
  | .operation adapter asked => adapter.layout.Territory asked.target
  | .migration hooks _ => hooks.layout.Migrations

variable {caller : Caller} {key : String}

theorem confined (caller : Caller) : caller.program.Confined (S3Call.inside caller.Territory)
    Listing fun _ => True := by
  cases caller with
  | operation adapter operation =>
      have hexecute := adapter.execute_confined operation
      exact hexecute.map (fun _ _ => trivial) fun _ _ => trivial
  | migration hooks plan =>
      have hmap : (Sum.inr <$> hooks.apply plan : S3M (Outcome ⊕ S3MigrationResult)).Within
          (S3Call.inside hooks.layout.Migrations) := (hooks.apply_inside plan).map _
      exact hmap.confined

theorem under_territory (h : caller.Territory key) : caller.layout.Under key := by
  cases caller with
  | operation adapter operation =>
      change adapter.layout.Territory operation.target key at h
      cases htarget : operation.target with
      | some target =>
          rw [htarget] at h
          exact S3Layout.Belongs.under h
      | none =>
          rw [htarget] at h
          exact S3Layout.under_family (by decide) h
  | migration hooks plan =>
      change hooks.layout.Migrations key at h
      exact S3Layout.under_family (by decide) h

theorem territory_target {layout : S3Layout} (hlayout : caller.layout = layout)
    {resource : ResourceRef} (htarget : caller.target = some resource) (h : caller.Territory key) :
    layout.Belongs resource key := by
  subst hlayout
  cases caller with
  | operation adapter operation =>
      change operation.target = some resource at htarget
      change adapter.layout.Territory operation.target key at h
      rw [htarget] at h
      exact h
  | migration hooks plan => cases htarget

-- Who has to do with a key of a Resource is asked for something about it.
theorem territory_belongs {layout : S3Layout} (hlayout : caller.layout = layout)
    {resource : ResourceRef} (hkey : layout.Belongs resource key) (h : caller.Territory key) :
    ∃ target, caller.target = some target ∧
      layout.resourceToken target = layout.resourceToken resource := by
  subst hlayout
  cases caller with
  | operation adapter operation =>
      change adapter.layout.Territory operation.target key at h
      cases htarget : operation.target with
      | some target =>
          rw [htarget] at h
          exact ⟨target, htarget, hkey.unique h⟩
      | none =>
          rw [htarget] at h
          exact absurd h hkey.not_schemas
  | migration hooks plan =>
      change hooks.layout.Migrations key at h
      exact absurd h (hkey.apart (by decide) (by decide))

end Caller

def callersSystem (bucket : Bucket) (callers : List Caller) :
    System S3 Failure (Outcome ⊕ S3MigrationResult) Bucket :=
  ⟨bucket, callers.map Caller.program⟩

-- The calls of the callers, each by its place.
def callerKinds (callers : List Caller) (client : Nat) (call : S3Call) : Prop :=
  ∃ caller, callers[client]? = some caller ∧ call.inside caller.Territory

namespace Standard

def putter : Caller := .operation adapter (.put one.request)

def otherResource : ResourceRef := ⟨"object", "other", "objects"⟩

theorem otherResource_token :
    adapter.layout.resourceToken otherResource ≠ adapter.layout.resourceToken resource := by
  decide +kernel

def registrar : Caller :=
  .operation adapter (.createResource { resourceRequest .mutable with «namespace» := "other" })

def lister : Caller := .operation adapter (.list
  { resource := otherResource, namePrefix := "", limit := 10, cursor := none })

-- The same registration, in another binding of the bucket.
def neighbour : Caller :=
  .operation { adapter with config := { config with keyPrefix := "elsewhere" } }
    (.createResource (resourceRequest .mutable))

def turns : Schedule Failure :=
  [(0, none), (1, none), (2, none), (0, none), (1, none), (0, some lostReply)]

end Standard

section Callers

variable {callers own others : List Caller} {layout : S3Layout} {resource : ResourceRef}

theorem callers_confined (bucket : Bucket) :
    (callersSystem bucket callers).Confined (callerKinds callers) Listing := by
  intro client program hprogram
  change (callers.map Caller.program)[client]? = some program at hprogram
  rw [List.getElem?_map, Option.map_eq_some_iff] at hprogram
  obtain ⟨caller, hcaller, rfl⟩ := hprogram
  exact caller.confined.widen fun call hcall => ⟨caller, hcaller, hcall⟩

theorem callers_simulate (provider : Provider) {keys : String → Prop} {client : Nat}
    (hkeys : ∀ caller, callers[client]? = some caller → ∀ key, caller.Territory key → keys key) :
    provider.handle.Simulates (callerKinds callers client) (Store.AlikeOn keys) := by
  have hinside (call : S3Call) (hcall : callerKinds callers client call) : call.inside keys := by
    obtain ⟨caller, hcaller, hcall⟩ := hcall
    exact S3Call.inside_mono hcall (hkeys caller hcaller)
  constructor
  · intro call hcall first second halike
    exact (Provider.handle_inside halike (hinside call hcall)).1
  · intro call hcall first second halike
    exact (Provider.handle_inside halike (hinside call hcall)).2

-- Callers in a crowd that has nothing to do with their keys come to what they come to
-- alone, where some numbers are left out.
theorem callers_isolated (provider : Provider) {keys : String → Prop}
    (hown : ∀ caller ∈ own, ∀ key, caller.Territory key → keys key)
    (hothers : ∀ caller ∈ others, ∀ key, caller.Territory key → ¬keys key) (bucket : Bucket)
    (schedule : Schedule Failure) :
    ∃ moves, List.Forall₂ (Reduces own.length Store.Skips) schedule moves ∧
      ((callersSystem bucket own).runMoves provider.handle moves).Mirrors (Store.AlikeOn keys)
        own.length ((callersSystem bucket (own ++ others)).runSchedule provider.handle schedule) := by
  have hstart : (callersSystem bucket own).Mirrors (Store.AlikeOn keys) own.length
      (callersSystem bucket (own ++ others)) := by
    refine ⟨?_, .refl bucket⟩
    simp only [callersSystem, List.map_append]
    exact List.take_left' (List.length_map _)
  apply hstart.reduced (callers_confined bucket) (fun _ => provider.handle_listing) Store.skips_id
  · intro client hlt
    apply callers_simulate
    intro caller hcaller
    rw [List.getElem?_append_left hlt] at hcaller
    exact hown caller (List.mem_of_getElem? hcaller)
  · rintro client hle call ⟨caller, hcaller, hcall⟩ first second halike
    rw [List.getElem?_append_right hle] at hcaller
    have hpassed := provider.handle_passed (hothers caller (List.mem_of_getElem? hcaller)) hcall second
    exact ⟨_, ⟨_, _, rfl⟩, halike.skipped hpassed⟩
  · exact fun _ _ fault _ call => Listing.error call fault.error

theorem resources_isolated (provider : Provider)
    (hlayout : ∀ caller ∈ own ++ others, caller.layout = layout)
    (hown : ∀ caller ∈ own, caller.target = some resource)
    (hothers : ∀ caller ∈ others, ∀ target, caller.target = some target →
      layout.resourceToken target ≠ layout.resourceToken resource)
    (bucket : Bucket) (schedule : Schedule Failure) :
    ∃ moves, List.Forall₂ (Reduces own.length Store.Skips) schedule moves ∧
      ((callersSystem bucket own).runMoves provider.handle moves).Mirrors
        (Store.AlikeOn (layout.Belongs resource)) own.length
        ((callersSystem bucket (own ++ others)).runSchedule provider.handle schedule) := by
  apply callers_isolated provider
  · intro caller hcaller key hkey
    have hsame := hlayout caller (List.mem_append_left _ hcaller)
    exact Caller.territory_target hsame (hown caller hcaller) hkey
  · intro caller hcaller key hterritory hkey
    have hsame := hlayout caller (List.mem_append_right _ hcaller)
    obtain ⟨target, htarget, htoken⟩ := Caller.territory_belongs hsame hkey hterritory
    exact hothers caller hcaller target htarget htoken

-- A put, with the registration of another Resource and a listing of it in between.
theorem put_isolated : ∃ moves,
    List.Forall₂ (Reduces [Standard.putter].length Store.Skips) Standard.turns moves ∧
    ((callersSystem (Store.empty true) [Standard.putter]).runMoves Standard.provider.handle
      moves).Mirrors (Store.AlikeOn (Standard.adapter.layout.Belongs Standard.resource))
      [Standard.putter].length
      ((callersSystem (Store.empty true) ([Standard.putter] ++ [Standard.registrar, Standard.lister])
        ).runSchedule Standard.provider.handle Standard.turns) := by
  refine resources_isolated Standard.provider ?_ ?_ ?_ (Store.empty true) Standard.turns
  · intro caller hcaller
    simp only [List.cons_append, List.nil_append, List.mem_cons, List.not_mem_nil, or_false]
      at hcaller
    obtain rfl | rfl | rfl := hcaller <;> rfl
  · intro caller hcaller
    obtain rfl := List.mem_singleton.mp hcaller
    rfl
  · intro caller hcaller target htarget
    have hother : target = Standard.otherResource := by
      simp only [List.mem_cons, List.not_mem_nil, or_false] at hcaller
      obtain rfl | rfl := hcaller <;> exact (Option.some.inj htarget).symm
    subst hother
    exact Standard.otherResource_token

theorem bindings_isolated (provider : Provider)
    (hown : ∀ caller ∈ own, caller.layout = layout)
    (hothers : ∀ caller ∈ others, caller.layout.Apart layout) (bucket : Bucket)
    (schedule : Schedule Failure) :
    ∃ moves, List.Forall₂ (Reduces own.length Store.Skips) schedule moves ∧
      ((callersSystem bucket own).runMoves provider.handle moves).Mirrors
        (Store.AlikeOn layout.Under) own.length
        ((callersSystem bucket (own ++ others)).runSchedule provider.handle schedule) := by
  apply callers_isolated provider
  · intro caller hcaller key hkey
    exact hown caller hcaller ▸ Caller.under_territory hkey
  · intro caller hcaller key hterritory hkey
    exact (hothers caller hcaller).not_under (Caller.under_territory hterritory) hkey

-- The same Resource, registered in another binding while it is put to in this one.
theorem put_isolated_binding : ∃ moves,
    List.Forall₂ (Reduces [Standard.putter].length Store.Skips) Standard.turns moves ∧
    ((callersSystem (Store.empty true) [Standard.putter]).runMoves Standard.provider.handle
      moves).Mirrors (Store.AlikeOn Standard.adapter.layout.Under) [Standard.putter].length
      ((callersSystem (Store.empty true) ([Standard.putter] ++ [Standard.neighbour])).runSchedule
        Standard.provider.handle Standard.turns) := by
  refine bindings_isolated Standard.provider ?_ ?_ (Store.empty true) Standard.turns
  · intro caller hcaller
    obtain rfl := List.mem_singleton.mp hcaller
    rfl
  · intro caller hcaller
    obtain rfl := List.mem_singleton.mp hcaller
    exact ⟨by decide +kernel, by decide +kernel⟩

end Callers

end MeridianS3
