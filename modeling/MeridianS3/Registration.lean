import MeridianS3.Adapter.Migration
import MeridianS3.ObjectStore.Claims
import MeridianS3.Effect.Advance
import MeridianS3.Removal
import MeridianS3.Standard.Samples
import MeridianS3.Transport.Theorems

namespace MeridianS3

open Effect ObjectStore Json

-- The operations that keep a registry document, each by the client that runs it.
inductive Registration where
  | publishSchema (adapter : S3ObjectAdapter) (request : SchemaRequest)
  | createResource (adapter : S3ObjectAdapter) (request : ResourceRequest)
  | apply (hooks : S3MigrationHooks) (plan : S3MigrationPlan)

namespace Registration

def transport : Registration → S3Transport
  | .publishSchema adapter _ | .createResource adapter _ => adapter.transport
  | .apply hooks _ => hooks.transport

-- The flag that the operation reports: created, or applied.
def run : Registration → S3M Bool
  | .publishSchema adapter request => SchemaResult.created <$> adapter.publishSchema request
  | .createResource adapter request => ResourceResult.created <$> adapter.createResource request
  | .apply hooks plan => S3MigrationResult.applied <$> hooks.apply plan

def key : Registration → String
  | .publishSchema adapter request =>
      adapter.layout.schemaKey request.namespace request.name request.version
  | .createResource adapter request =>
      adapter.layout.resourceKey ⟨"object", request.namespace, request.name⟩
  | .apply hooks plan => hooks.layout.migrationKey plan.targetRevision

-- The document that the operation was given.
def document : Registration → Except Failure Value
  | .publishSchema _ request => .ok (S3ObjectAdapter.schemaValue request)
  | .createResource adapter request =>
      (adapter.common.parseObjectProfile request.profile).map
        (adapter.resourceValue request ⟨"object", request.namespace, request.name⟩)
  | .apply hooks plan => .ok (hooks.recordValue plan)

-- What a client knows when its operation has returned.
def Registered (registration : Registration) (result : Except Failure Bool) (claimed : Set String)
    (after : Bucket) : Prop :=
  ∀ created, result = .ok created →
    (created = true → registration.key ∈ claimed) ∧
    ∃ document stored, registration.document = .ok document ∧
      after.current registration.key = some stored ∧
      registration.transport.common.jsonLoads stored.body = .ok document

end Registration

variable {provider : Provider} {claimed : Set String} {state : Bucket}

section Rules

variable {transport : S3Transport} {key : String}

theorem S3Transport.readJson_claiming {post : Except Failure Value → Set String → Bucket → Prop}
    (h : ∀ before, Grows state before → post (transport.document before key) claimed before ∧
      ∀ failure, post (.error failure) claimed before) :
    Verified provider.handle (claiming S3 Failure String ObjectHeader UInt8)
      (transport.readJson key) claimed state post := by
  rw [readJson_eq]
  apply Verified.mapResult
  apply claiming_read
  · exact fun _ => rfl
  · intro before hgrows
    rw [decodeReply_handle]
    exact ⟨(h before hgrows).1, fun fault => (h before hgrows).2 _⟩

-- A conditional write of a document, and what the caller can tell by its outcome.
theorem S3Transport.putJson_claiming {document : Value}
    {post : Except Failure StoredObject → Set String → Bucket → Prop}
    (herror : ∀ failure owned after, post (.error failure) owned after)
    (hok : ∀ stored after object, after.current key = some object →
      object.body = transport.common.canonicalJsonBytes document →
        post (.ok stored) (insert key claimed) after) :
    Verified provider.handle (claiming S3 Failure String ObjectHeader UInt8)
      (transport.putJson key document true none) claimed state post := by
  unfold putJson
  apply Verified.seq
  apply Verified.lift
  cases transport.writeArguments none with
  | error failure => exact Verified.done (herror _ _ _)
  | ok arguments =>
      apply Verified.seq
      apply Verified.recover
      apply claiming_create
      intro before hgrows
      by_cases hblocked : true = true ∧ (before.current key).isSome = true
      · left
        rw [handle_jsonCall_blocked hblocked]
        exact ⟨rfl, Verified.done (Verified.done (herror _ _ _)),
          fun fault => Verified.done (Verified.done (herror _ _ _))⟩
      · right
        rw [handle_jsonCall_written hblocked]
        have hfree : before.current key = none := by simpa using hblocked
        refine ⟨hfree, ⟨_, rfl⟩, ?_, fun fault => ?_⟩
        · exact Verified.done (Verified.done (hok _ _ _ (Store.put_current_self _ _ _) rfl))
        · split <;> exact Verified.done (Verified.done (herror _ _ _))

theorem S3Transport.document_loads {bucket : Bucket} {document : Value}
    (h : transport.document bucket key = .ok document) :
    ∃ stored, bucket.current key = some stored ∧
      transport.common.jsonLoads stored.body = .ok document := by
  unfold S3Transport.document at h
  cases hcurrent : bucket.current key with
  | none => simp [hcurrent] at h
  | some stored =>
      refine ⟨stored, rfl, ?_⟩
      rw [hcurrent] at h
      simp only [decodeJson] at h
      split at h
      · cases h
      · cases hloads : transport.common.jsonLoads stored.body with
        | error raised => cases raised <;> simp [hloads] at h
        | ok value =>
            rw [hloads] at h
            simp only at h
            split at h
            · rw [Except.ok.injEq] at h
              rw [h]
            · cases h

-- The protocol that the three operations share.
theorem S3Transport.register_claiming {document : Value} {message : String}
    (hloads : transport.common.jsonLoads (transport.common.canonicalJsonBytes document) =
      .ok document) :
    Verified provider.handle (claiming S3 Failure String ObjectHeader UInt8)
      (transport.register key document message) claimed state fun result owned after =>
        ∀ created, result = .ok created → (created = true → key ∈ owned) ∧
          ∃ stored, after.current key = some stored ∧
            transport.common.jsonLoads stored.body = .ok document := by
  unfold register
  apply Verified.recover
  apply Verified.seq
  apply putJson_claiming
  · intro failure owned after
    apply Verified.done
    dsimp only [Program.onError]
    split
    · -- The document that is there is read and compared.
      apply Verified.seq
      apply readJson_claiming
      intro before hgrows
      refine ⟨?_, fun failure => Verified.done (by simp)⟩
      cases hdocument : transport.document before key with
      | error failure => exact Verified.done (by simp)
      | ok found =>
          dsimp only [Program.onOk]
          split
          · exact Verified.done (by simp)
          · rename_i hsame
            apply Verified.done
            simp only [Except.ok.injEq, forall_eq', Bool.false_eq_true, false_implies, true_and]
            rw [not_not] at hsame
            exact document_loads (hsame ▸ hdocument)
    · exact Verified.done (by simp)
  · intro stored after object hcurrent hbody
    apply Verified.done
    apply Verified.done
    simp only [Except.ok.injEq, forall_eq', true_implies]
    exact ⟨Set.mem_insert _ _, object, hcurrent, by rw [hbody]; exact hloads⟩

end Rules

-- Where nothing is stored the document is written.
theorem S3Transport.run_register_new {transport : S3Transport} {bucket : Bucket} {key : String}
    (hfree : bucket.current key = none) (document : Value) (message : String) :
    (transport.register key document message).run provider.handle bucket =
      (.ok true, bucket.put key (transport.jsonObject document
        ⟨transport.config.serverSideEncryption, transport.config.kmsKeyId, none⟩)) := by
  let arguments : WriteArguments :=
    ⟨transport.config.serverSideEncryption, transport.config.kmsKeyId, none⟩
  let call : S3M PutReply :=
    Program.perform (S := S3) (transport.jsonCall key document true none arguments)
  let reply : PutReply := ⟨provider.reportedVersion bucket bucket.issued,
    some (provider.etag (transport.common.canonicalJsonBytes document))⟩
  have hcall : (normalized "metadata.put" false call).run provider.handle bucket =
      (.ok reply, bucket.put key (transport.jsonObject document arguments)) := by
    have hwritten : call.run provider.handle bucket =
        (.ok reply, bucket.put key (transport.jsonObject document arguments)) :=
      handle_jsonCall_written (by simp [hfree])
    rw [run_normalized, hwritten]
    rfl
  have hput : (transport.putJson key document true none).run provider.handle bucket =
      (.ok ⟨reply.versionId, reply.etag, none⟩,
        bucket.put key (transport.jsonObject document arguments)) := by
    unfold putJson
    rw [Program.run_bind_ok _ _ _ _ _ arguments rfl]
    exact Program.run_bind_ok _ _ _ _ _ reply hcall
  unfold register
  rw [Program.run_tryCatch, Program.run_bind_ok _ _ _ _ _ _ hput]
  rfl

theorem S3ObjectAdapter.run_createResource_new {adapter : S3ObjectAdapter} {bucket : Bucket}
    {request : ResourceRequest} {profile : Value}
    (hprofile : adapter.common.parseObjectProfile request.profile = .ok profile)
    (hfree : bucket.current (adapter.layout.resourceKey
      ⟨"object", request.namespace, request.name⟩) = none) :
    (adapter.createResource request).run provider.handle bucket =
      (.ok ⟨⟨"object", request.namespace, request.name⟩, profile, true⟩,
        adapter.written bucket (adapter.layout.resourceKey
          ⟨"object", request.namespace, request.name⟩)
          (adapter.resourceValue request ⟨"object", request.namespace, request.name⟩ profile)) := by
  unfold createResource
  rw [hprofile, Program.run_bind_ok _ _ _ _ _ profile rfl,
    Program.run_bind_ok _ _ _ _ _ _ (S3Transport.run_register_new hfree _ _)]
  rfl

theorem Registration.run_new {adapter : S3ObjectAdapter} {bucket : Bucket}
    {request : ResourceRequest} {profile : Value} (provider : Provider)
    (hprofile : adapter.common.parseObjectProfile request.profile = .ok profile)
    (hfree : bucket.current (Registration.createResource adapter request).key = none) :
    ((Registration.createResource adapter request).run.run provider.handle bucket).1 =
      .ok true := by
  change ((ResourceResult.created <$> adapter.createResource request : S3M Bool).run
    provider.handle bucket).1 = .ok true
  rw [Program.map_eq, Program.run_andThen,
    S3ObjectAdapter.run_createResource_new hprofile hfree]
  rfl

-- The canonical text of the document is read back as the document.
def Registration.Loads (registration : Registration) : Prop :=
  ∀ document, registration.document = .ok document →
    registration.transport.common.jsonLoads
      (registration.transport.common.canonicalJsonBytes document) = .ok document

theorem Registration.run_claiming (registration : Registration) (hloads : registration.Loads) :
    Verified provider.handle (claiming S3 Failure String ObjectHeader UInt8) registration.run
      claimed state registration.Registered := by
  cases registration with
  | publishSchema adapter request =>
      apply Verified.map
      apply Verified.seq
      apply (S3Transport.register_claiming (hloads _ rfl)).mono
      intro result owned after hregistered
      cases result with
      | error failure => exact Verified.done fun created h => by cases h
      | ok created =>
          apply Verified.done
          rintro _ ⟨⟩
          obtain ⟨hclaimed, stored, hcurrent, hstored⟩ := hregistered created rfl
          exact ⟨hclaimed, _, stored, rfl, hcurrent, hstored⟩
  | createResource adapter request =>
      apply Verified.map
      apply Verified.seq
      apply Verified.lift
      cases hprofile : adapter.common.parseObjectProfile request.profile with
      | error failure => exact Verified.done fun created h => by cases h
      | ok profile =>
          have hdocument : (Registration.createResource adapter request).document =
              .ok (adapter.resourceValue request ⟨"object", request.namespace, request.name⟩
                profile) := by
            simp only [document, hprofile]
            rfl
          apply Verified.seq
          apply (S3Transport.register_claiming (hloads _ hdocument)).mono
          intro result owned after hregistered
          cases result with
          | error failure => exact Verified.done fun created h => by cases h
          | ok created =>
              apply Verified.done
              rintro _ ⟨⟩
              obtain ⟨hclaimed, stored, hcurrent, hstored⟩ := hregistered created rfl
              exact ⟨hclaimed, _, stored, hdocument, hcurrent, hstored⟩
  | apply hooks plan =>
      apply Verified.map
      apply Verified.seq
      apply Verified.recover
      apply claiming_read
      · exact fun _ => rfl
      · intro before hgrows
        refine ⟨?_, fun fault => Verified.done (Verified.done fun created h => by cases h)⟩
        apply Verified.done
        apply Verified.seq
        apply (S3Transport.register_claiming (hloads _ rfl)).mono
        intro result owned after hregistered
        cases result with
        | error failure => exact Verified.done fun created h => by cases h
        | ok applied =>
            apply Verified.done
            rintro _ ⟨⟩
            obtain ⟨hclaimed, stored, hcurrent, hstored⟩ := hregistered applied rfl
            exact ⟨hclaimed, _, stored, rfl, hcurrent, hstored⟩

def registrySystem (bucket : Bucket) (registrations : List Registration) :
    System S3 Failure Bool Bucket := ⟨bucket, registrations.map Registration.run⟩

section System

variable {bucket : Bucket} {registrations : List Registration}

def registryPost (registrations : List Registration) (client : Nat) (result : Except Failure Bool)
    (claimed : Set String) (after : Bucket) : Prop :=
  ∀ registration, registrations[client]? = some registration →
    registration.Registered result claimed after

theorem registry_start (hloads : ∀ registration ∈ registrations, registration.Loads) :
    (registrySystem bucket registrations).Coherent provider.handle
      (claiming S3 Failure String ObjectHeader UInt8) Disjoint ownsKeys
      (registryPost registrations) fun _ => ∅ := by
  apply System.coherent_start claiming_composes
  · trivial
  · exact fun _ _ _ h => absurd h (Set.notMem_empty _)
  · exact fun _ _ _ _ _ => Set.disjoint_empty _
  · intro client hlt
    have hlength : client < registrations.length := by simpa [registrySystem] using hlt
    have hclient : (registrySystem bucket registrations).clients[client] =
        registrations[client].run := by
      simp [registrySystem]
    rw [hclient]
    apply (registrations[client].run_claiming (hloads _ (List.getElem_mem hlength))).mono
    intro result claimed after hregistered registration hget
    rw [List.getElem?_eq_getElem hlength, Option.some.injEq] at hget
    exact hget ▸ hregistered

theorem registry_reached (hloads : ∀ registration ∈ registrations, registration.Loads)
    (schedule : Schedule Failure) :
    ∃ owned, ((registrySystem bucket registrations).runSchedule provider.handle schedule).Coherent
      provider.handle (claiming S3 Failure String ObjectHeader UInt8) Disjoint ownsKeys
      (registryPost registrations) owned :=
  (registry_start hloads).runSchedule claiming_composes schedule fun _ _ _ _ _ => trivial

theorem registry_agrees (common : ObjectCommon)
    (hcommon : ∀ registration ∈ registrations, registration.transport.common = common)
    (hloads : ∀ registration ∈ registrations, registration.Loads)
    (first second : Schedule Failure) :
    let reached := (registrySystem bucket registrations).runSchedule provider.handle first
    let later := (registrySystem bucket registrations).runSchedule provider.handle (first ++ second)
    (∀ key stored, reached.state.current key = some stored →
      later.state.current key = some stored) ∧
    (∀ (one other : Nat) (registration rival : Registration),
      registrations[one]? = some registration → registrations[other]? = some rival →
      registration.key = rival.key → reached.clients[one]? = some (.done (.ok true)) →
      reached.clients[other]? = some (.done (.ok true)) → one = other) ∧
    (∀ (client : Nat) (registration : Registration) (created : Bool),
      registrations[client]? = some registration →
      reached.clients[client]? = some (.done (.ok created)) →
      ∃ document stored, registration.document = .ok document ∧
        reached.state.current registration.key = some stored ∧
        common.jsonLoads stored.body = .ok document) ∧
    ∀ (one other : Nat) (registration rival : Registration) (created found : Bool),
      registrations[one]? = some registration → registrations[other]? = some rival →
      registration.key = rival.key → reached.clients[one]? = some (.done (.ok created)) →
      reached.clients[other]? = some (.done (.ok found)) →
      registration.document = rival.document := by
  intro reached later
  obtain ⟨owned, hcoherent⟩ : ∃ owned, reached.Coherent provider.handle
      (claiming S3 Failure String ObjectHeader UInt8) Disjoint ownsKeys
      (registryPost registrations) owned := registry_reached hloads first
  -- Each client that has returned found its document, and claimed the key if it created it.
  have hreturned (client : Nat) (registration : Registration) (created : Bool)
      (hclient : registrations[client]? = some registration)
      (hdone : reached.clients[client]? = some (.done (.ok created))) :
      (created = true → registration.key ∈ owned client) ∧
        ∃ document stored, registration.document = .ok document ∧
          reached.state.current registration.key = some stored ∧
          common.jsonLoads stored.body = .ok document := by
    obtain ⟨seen, hgrows, hpost⟩ := hcoherent.finished client (.ok created) hdone
    obtain ⟨hclaimed, document, stored, hdocument, hcurrent, hstored⟩ :=
      hpost registration hclient created rfl
    rw [hcommon registration (List.mem_of_getElem? hclient)] at hstored
    exact ⟨hclaimed, document, stored, hdocument, hgrows _ _ hcurrent, hstored⟩
  refine ⟨?_, ?_, ?_, ?_⟩
  · have hgrows : Grows reached.state (reached.runSchedule provider.handle second).state :=
      hcoherent.runSchedule_related claiming_composes Grows Grows.refl
        (fun _ _ _ h hnext => h.trans hnext) (fun _ _ _ _ h => h.1) second
        fun _ _ _ _ _ => trivial
    intro key stored hstored
    rw [show later = reached.runSchedule provider.handle second from System.runSchedule_append ..]
    exact hgrows key stored hstored
  · intro one other registration rival hone hother hkey hcreated hrival
    by_contra hne
    have hclaimed := (hreturned one registration true hone hcreated).1 rfl
    have hclaims := (hreturned other rival true hother hrival).1 rfl
    have hlength (client : Nat) (hdone : reached.clients[client]? = some (.done (.ok true))) :
        client < reached.clients.length := (List.getElem?_eq_some_iff.mp hdone).1
    have hapart := hcoherent.apart one other (hlength one hcreated) (hlength other hrival) hne
    rw [← hkey] at hclaims
    exact Set.disjoint_left.mp hapart hclaimed hclaims
  · exact fun client registration created hclient hdone =>
      (hreturned client registration created hclient hdone).2
  · intro one other registration rival created found hone hother hkey hcreated hrival
    obtain ⟨-, document, stored, hdocument, hcurrent, hstored⟩ :=
      hreturned one registration created hone hcreated
    obtain ⟨-, given, held, hgiven, hheld, hloaded⟩ := hreturned other rival found hother hrival
    rw [← hkey, hcurrent, Option.some.injEq] at hheld
    subst hheld
    rw [hstored, Except.ok.injEq] at hloaded
    rw [hdocument, hgiven, hloaded]

end System

-- Two clients with different definitions, of which the first runs to its end.
def Standard.rivals : List Registration :=
  [.createResource adapter (resourceRequest .mutable),
    .createResource adapter (resourceRequest .immutable)]

theorem Standard.rivals_load : ∀ registration ∈ rivals, registration.Loads := by
  have hloads (mutability : Mutability) :
      (Registration.createResource adapter (resourceRequest mutability)).Loads :=
    fun document _ => loads_canonical document
  exact List.forall_mem_cons.mpr ⟨hloads .mutable, List.forall_mem_singleton.mpr
    (hloads .immutable)⟩

theorem first_client_registers : ∃ schedule document stored,
    ((registrySystem (Store.empty false) Standard.rivals).runSchedule Standard.provider.handle
      schedule).clients[0]? = some (.done (.ok true)) ∧
    (Registration.createResource Standard.adapter
      (Standard.resourceRequest .mutable)).document = .ok document ∧
    ((registrySystem (Store.empty false) Standard.rivals).runSchedule Standard.provider.handle
      schedule).state.current (Registration.createResource Standard.adapter
        (Standard.resourceRequest .mutable)).key = some stored ∧
    Standard.common.jsonLoads stored.body = .ok document := by
  have hcreated : ((Registration.createResource Standard.adapter
      (Standard.resourceRequest .mutable)).run.run Standard.provider.handle
        (Store.empty false)).1 = .ok true := Registration.run_new Standard.provider rfl rfl
  have hadvance := Program.advances_run Standard.provider.handle (Registration.createResource
    Standard.adapter (Standard.resourceRequest .mutable)).run (Store.empty false)
  rw [hcreated] at hadvance
  have hclient : (registrySystem (Store.empty false) Standard.rivals).clients[0]? =
      some (Registration.createResource Standard.adapter
        (Standard.resourceRequest .mutable)).run := rfl
  obtain ⟨schedule, hschedule, -⟩ := System.advance hadvance hclient
  have hdone : ((registrySystem (Store.empty false) Standard.rivals).runSchedule
      Standard.provider.handle schedule).clients[0]? = some (.done (.ok true)) := by
    rw [hschedule]
    rfl
  obtain ⟨document, stored, hdocument, hcurrent, hstored⟩ :=
    (registry_agrees Standard.common (List.forall_mem_cons.mpr ⟨rfl,
      List.forall_mem_singleton.mpr rfl⟩) Standard.rivals_load schedule []).2.2.1 0
      (.createResource Standard.adapter (Standard.resourceRequest .mutable)) true rfl hdone
  exact ⟨schedule, document, stored, hdone, hdocument, hcurrent, hstored⟩

end MeridianS3
