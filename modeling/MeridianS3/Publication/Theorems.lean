import MeridianS3.Deposit.Versions
import MeridianS3.Effect.Advance

namespace MeridianS3

open Effect ObjectStore Json

-- One client of a bucket, with the put that it makes.
structure PutClient where
  adapter : S3ObjectAdapter
  request : PutRequest

def putSystem (versioned : Bool) (clients : List PutClient) :
    System S3 Failure ObjectMetadata Bucket :=
  ⟨Store.empty versioned, clients.map fun client => client.adapter.put client.request⟩

variable {provider : Provider} {layout : S3Layout} {hashed : Set Bytes}
variable {sealed : HexDigest → HexDigest → Prop} {versioned : Bool} {clients : List PutClient}

-- What holds when the put of a client has returned.
def putPost (provider : Provider) (hashed : Set Bytes) (sealed : HexDigest → HexDigest → Prop)
    (clients : List PutClient) (client : Nat) (result : Except Failure ObjectMetadata)
    (_ : Set Nat) (after : Bucket) : Prop :=
  ∀ metadata, result = .ok metadata → ∀ putter, clients[client]? = some putter →
    ∃ content seen, S3ObjectAdapter.Committed
      (Company.puts provider putter.adapter.layout hashed sealed) putter.request metadata content
      seen after

theorem publication_composes (provider : Provider) (layout : S3Layout) (hashed : Set Bytes)
    (sealed : HexDigest → HexDigest → Prop) :
    (publication (Company.puts provider layout hashed sealed)).protocol.Composes Disjoint
      ownsUploads :=
  Discipline.composes fun _ _ h => h

-- A client that takes part: it uses the layout, the bytes that it hashes are kept
-- account of, and it writes a sealed pointer only while there is none.
structure PutClient.Joins (client : PutClient) (layout : S3Layout) (hashed : Set Bytes)
    (sealed : HexDigest → HexDigest → Prop) : Prop where
  keyed : client.adapter.layout = layout
  hashes : client.request.Hashes hashed
  once : sealed (layout.resourceToken client.request.resource)
      (layout.objectToken client.request.input.objectId) →
    client.request.input.createOnly = true ∨
    client.adapter.common.effectiveImmutability client.adapter.common.defaultProfile
      client.request.input.immutability = .ok .immutable

theorem puts_start (hjoins : ∀ client ∈ clients, client.Joins layout hashed sealed) :
    (putSystem versioned clients).Coherent provider.handle
      (publication (Company.puts provider layout hashed sealed)).protocol Disjoint ownsUploads
      (putPost provider hashed sealed clients) fun _ => ∅ := by
  apply System.coherent_start (publication_composes provider layout hashed sealed)
  · exact S3Layout.sound_empty layout hashed versioned
  · exact fun _ _ _ h => absurd h (Set.notMem_empty _)
  · exact fun _ _ _ _ _ => Set.disjoint_empty _
  · intro client hlt
    have hlength : client < clients.length := by simpa [putSystem] using hlt
    have hjoin := hjoins _ (List.getElem_mem hlength)
    have hclient : (putSystem versioned clients).clients[client] =
        clients[client].adapter.put clients[client].request := by
      simp [putSystem]
    have hput : Verified provider.handle
        (publication (Company.puts provider layout hashed sealed)).protocol
        (clients[client].adapter.put clients[client].request) ∅ (Store.empty versioned)
        fun result _ after => ∀ metadata, result = .ok metadata → ∃ content seen,
          S3ObjectAdapter.Committed
            (Company.puts provider clients[client].adapter.layout hashed sealed)
            clients[client].request metadata content seen after := by
      obtain ⟨rfl, hhashes, hsealed⟩ := hjoin
      apply S3ObjectAdapter.put_rule hhashes
      intro hs
      exact (hsealed hs).imp id fun himmutable => ⟨himmutable, rfl⟩
    rw [hclient]
    apply hput.mono
    intro result owned after hpost metadata hmetadata putter hputter
    rw [List.getElem?_eq_getElem hlength, Option.some.injEq] at hputter
    exact hputter ▸ hpost metadata hmetadata

-- The bucket between any two points of a schedule.
theorem puts_publish (hjoins : ∀ client ∈ clients, client.Joins layout hashed sealed)
    (first second : Schedule Failure) :
    Publishes provider layout hashed sealed
      ((putSystem versioned clients).runSchedule provider.handle first).state
      ((putSystem versioned clients).runSchedule provider.handle (first ++ second)).state := by
  obtain ⟨owned, hcoherent⟩ := (puts_start hjoins).runSchedule
    (publication_composes provider layout hashed sealed) first fun _ _ _ _ _ => trivial
  rw [System.runSchedule_append]
  exact hcoherent.runSchedule_related (publication_composes provider layout hashed sealed)
    (Publishes provider layout hashed sealed) (fun _ => .same (.refl _))
    (fun _ _ _ => Publishes.trans) (fun _ _ _ _ hguar => hguar.1) second
    fun _ _ _ _ _ => trivial

theorem puts_sound (hjoins : ∀ client ∈ clients, client.Joins layout hashed sealed)
    (schedule : Schedule Failure) :
    layout.Sound hashed
      ((putSystem versioned clients).runSchedule provider.handle schedule).state := by
  obtain ⟨owned, hcoherent⟩ := (puts_start hjoins).runSchedule
    (publication_composes provider layout hashed sealed) schedule fun _ _ _ _ _ => trivial
  exact hcoherent.invariant

-- A put that has returned metadata had its digest in the pointer at some moment.
theorem puts_committed (hjoins : ∀ client ∈ clients, client.Joins layout hashed sealed)
    (schedule : Schedule Failure) {client : Nat} {putter : PutClient} {metadata : ObjectMetadata}
    (hputter : clients[client]? = some putter)
    (hdone : ((putSystem versioned clients).runSchedule provider.handle schedule).clients[client]? =
      some (.done (.ok metadata))) :
    ∃ content seen, S3ObjectAdapter.Committed
      (Company.puts provider putter.adapter.layout hashed sealed) putter.request metadata content
      seen ((putSystem versioned clients).runSchedule provider.handle schedule).state := by
  obtain ⟨owned, hcoherent⟩ := (puts_start hjoins).runSchedule
    (publication_composes provider layout hashed sealed) schedule fun _ _ _ _ _ => trivial
  obtain ⟨before, hbefore, hpost⟩ := hcoherent.finished client (.ok metadata) hdone
  obtain ⟨content, seen, hcommitted⟩ := hpost metadata rfl putter hputter
  refine ⟨content, seen, hcommitted.later ?_⟩
  rw [(hjoins putter (List.mem_of_getElem? hputter)).keyed]
  exact hbefore.1

namespace S3Layout

-- The pointer of an object names a content whose reference document carries the object
-- id and the digest, and whose blob is stored whole where the document says.
structure Published (layout : S3Layout) (provider : Provider) (bucket : Bucket)
    (resource : ResourceRef) (objectId : String) (content : HexDigest) : Prop where
  points : layout.Points bucket (layout.resourceToken resource) (layout.objectToken objectId) content
  reference : ∃ envelope,
    layout.Recorded bucket (layout.resourceToken resource) (layout.objectToken objectId) content
      envelope ∧
    envelope.metadata.objectRef.objectId = objectId ∧ envelope.metadata.digest = content.digest ∧
    ∃ (name : Option String) (blob : StoredBody), envelope.blobVersionId = .ofOption name ∧
      provider.fetch bucket (layout.path (.blob (layout.resourceToken resource)
        (layout.objectToken objectId) content)) name = some blob ∧
      blob.body.length = envelope.metadata.byteLength ∧
      layout.common.hexdigest blob.body = content

theorem Sound.published {bucket : Bucket} (hsound : layout.Sound hashed bucket)
    (hfree : layout.CollisionFree hashed) (hbacked : ∀ resource object content,
      layout.Backed provider bucket resource object content)
    (hresolved : layout.Resolved bucket) {resource : ResourceRef} {objectId : String}
    (hobject : ObjectCommon.encodeUtf8 objectId ∈ hashed) {pointer : StoredBody}
    (hpointer : bucket.current (layout.latestKey resource objectId) = some pointer) :
    ∃ content, layout.Published provider bucket resource objectId content := by
  obtain ⟨content, hpoints⟩ := hsound.points hpointer
  have hstored := hresolved _ _ _ hpoints
  obtain ⟨stored, hcurrent⟩ := Option.isSome_iff_exists.mp
    ((hsound.current_isSome_iff _).mpr hstored)
  obtain ⟨envelope, hrecorded, henvelope⟩ := hsound.recorded hcurrent
  obtain ⟨name, blob, hname, hfetch, hlength⟩ := hbacked _ _ _ envelope hrecorded
  refine ⟨content, hpoints, envelope, hrecorded, ?_, henvelope.digest, name, blob, hname, hfetch,
    hlength, (hsound.blob hfetch).2.1⟩
  have hbytes := hfree henvelope.hashed hobject henvelope.object
  exact ObjectCommon.encodeUtf8_injective hbytes

end S3Layout

-- From an empty bucket every pointer resolves and every reference is backed.
theorem Publishes.from_empty {after : Bucket}
    (h : Publishes provider layout hashed sealed (Store.empty versioned) after) :
    layout.Resolved after ∧ (layout.CollisionFree hashed → ∀ resource object content,
      layout.Backed provider after resource object content) := by
  refine ⟨fun resource object content hpoints => ?_, fun hfree resource object content =>
    h.backed hfree resource object content rfl⟩
  rcases h.latest resource object with hempty | ⟨-, other, hother, hstored⟩
  · obtain ⟨stored, hcurrent, -⟩ := hpoints
    rw [Store.current_eq_none _ _ hempty] at hcurrent
    cases hcurrent
  · rwa [S3Layout.points_unique hpoints hother]

-- A sealed pointer stays where a put has seen it.
theorem Publishes.points_kept {before after : Bucket} {resource object content : HexDigest}
    (h : Publishes provider layout hashed sealed before after) (hsealed : sealed resource object)
    (hpoints : layout.Points before resource object content) :
    after.entries (layout.path (.latest resource object)) =
      before.entries (layout.path (.latest resource object)) := by
  rcases h.latest resource object with hsame | ⟨hempty, -⟩
  · exact hsame
  · obtain ⟨stored, hcurrent, -⟩ := hpoints
    rw [Store.current_eq_none _ _ (hempty hsealed)] at hcurrent
    cases hcurrent

namespace Standard

variable {between : Bucket}

-- Another put of the sample object, with other bytes.
def rival : Deposit := deposit false .null .immutable "version-two" 2

def contenders : List PutClient := [⟨one.adapter, one.request⟩, ⟨rival.adapter, rival.request⟩]

theorem rival_finds : rival.Finds (Store.empty false) :=
  deposit_finds_new (profileAt_default rfl) rfl (by decide) rfl

-- The keys that are empty while the rival has stored its blob and its reference document.
theorem rival_current
    (h : SameObjects (rival.referenceStored Standard.provider (Store.empty false)) between)
    {physical : PhysicalKey} (hblob : physical ≠ .blob rival.resource rival.object rival.hash)
    (hreference : physical ≠ .reference rival.resource rival.object rival.hash) :
    between.current (adapter.layout.path physical) = none := by
  rw [h.current]
  refine (Deposit.referenceStored_current ?_ ?_).trans rfl
  · change adapter.layout.path physical ≠
      adapter.layout.path (.blob rival.resource rival.object rival.hash)
    simpa using hblob
  · change adapter.layout.path physical ≠
      adapter.layout.path (.reference rival.resource rival.object rival.hash)
    simpa using hreference

-- The sample put goes through there.
theorem one_amid
    (h : SameObjects (rival.referenceStored Standard.provider (Store.empty false)) between) :
    one.Finds between ∧ ¬one.Blocked between := by
  have hne : one.hash ≠ rival.hash := fun hsame => hash_ne hsame.symm
  have hlatest : between.current (adapter.layout.latestKey resource "channel") = none := by
    rw [S3ObjectAdapter.latestKey_eq]
    exact rival_current h (by simp) (by simp)
  have hblob : between.current
      (adapter.layout.path (.blob one.resource one.object one.hash)) = none :=
    rival_current h (by simpa using fun _ _ => hne) (by simp)
  have hreference : between.current
      (adapter.layout.path (.reference one.resource one.object one.hash)) = none :=
    rival_current h (by simp) (by simpa using fun _ _ => hne)
  refine ⟨deposit_finds_new (profileAt_default ?_) rfl (by decide) hlatest, ?_⟩
  · exact rival_current h (by simp) (by simp)
  · rintro (⟨-, hsome⟩ | hsome | ⟨-, hsome⟩)
    · exact absurd hsome (by rw [show between.current one.blobPath = none from hblob]; simp)
    · have hnone : between.current one.referencePath = none := hreference
      exact absurd hsome (by rw [hnone]; simp)
    · exact absurd hsome (by rw [show between.current one.latestPath = none from hlatest]; simp)

theorem contenders_joins : ∀ client ∈ contenders,
    client.Joins adapter.layout Standard.hashed fun _ _ => True := by
  intro client hclient
  simp only [contenders, List.mem_cons, List.not_mem_nil, or_false] at hclient
  rcases hclient with rfl | rfl
  · exact ⟨rfl, one_first.hashes, fun _ => Or.inr rfl⟩
  · exact ⟨rfl, putRequest_hashes (by simp [Standard.hashed, KNOWN_DIGESTS]), fun _ => Or.inr rfl⟩

-- The rival is about to write its pointer when the other put comes in between, and then
-- loses the reply to its write.
theorem contenders_race : ∃ first second ended,
    (1, none) ∈ first ∧ (1, some lostReply) ∈ second ∧
    ((putSystem false contenders).runSchedule Standard.provider.handle first).clients[0]? =
      some (.done (.ok one.metadata)) ∧
    ((putSystem false contenders).runSchedule Standard.provider.handle
      (first ++ second)).clients = [.done (.ok one.metadata), .done ended] ∧
    adapter.layout.Points
      ((putSystem false contenders).runSchedule Standard.provider.handle (first ++ second)).state
      one.resource one.object one.hash := by
  obtain ⟨call, next, between, -, hadvances, hbetween⟩ :=
    rival_finds.reaches_pointer Standard.provider Deposit.not_blocked_empty
  obtain ⟨hfinds, hfree⟩ := one_amid hbetween
  have hcommits : ((one.adapter.put one.request).run Standard.provider.handle between).1 =
        .ok one.metadata ∧ SameObjects (one.pointerStored Standard.provider between)
          ((one.adapter.put one.request).run Standard.provider.handle between).2 :=
    hfinds.commits hfree
  have hrival : (putSystem false contenders).clients[1]? =
      some (rival.adapter.put rival.request) := rfl
  obtain ⟨opening, middle, hfirst, hopening, hopens, -⟩ :=
    System.overtakes Nat.one_ne_zero hadvances hrival
      (show (putSystem false contenders).clients[0]? = some (one.adapter.put one.request) from rfl)
  have hlost : ((putSystem false contenders).runSchedule Standard.provider.handle
      (opening ++ middle)).clients[1]? = some (.call call next) := by
    rw [hfirst]
    rfl
  obtain ⟨closing, ended, hclosing⟩ := System.struck_out hlost lostReply
  refine ⟨opening ++ middle, (1, some lostReply) :: closing, ended, ?_, List.mem_cons_self,
    ?_, ?_, ?_⟩
  · -- The rival has made calls, or its reference document would not be there.
    cases opening with
    | nil =>
        have hempty : Store.empty false = between := congrArg System.state hopening
        have hstored := hbetween.current rival.referencePath
        rw [← hempty, Deposit.referenceStored, Store.put_current_self] at hstored
        cases hstored
    | cons turn rest =>
        rw [← hopens turn List.mem_cons_self]
        exact List.mem_cons_self
  · rw [hfirst, ← hcommits.1]
    rfl
  · rw [System.runSchedule_append, hclosing, hfirst, ← hcommits.1]
    rfl
  · have hpoints : adapter.layout.Points ((putSystem false contenders).runSchedule
        Standard.provider.handle (opening ++ middle)).state one.resource one.object one.hash := by
      rw [hfirst]
      exact S3Layout.points_congr (by rw [hcommits.2.entries])
        (one.pointerStored_points Standard.provider between)
    have hpublishes : Publishes Standard.provider adapter.layout Standard.hashed (fun _ _ => True)
        ((putSystem false contenders).runSchedule Standard.provider.handle
          (opening ++ middle)).state
        ((putSystem false contenders).runSchedule Standard.provider.handle
          (opening ++ middle ++ (1, some lostReply) :: closing)).state :=
      puts_publish contenders_joins _ _
    exact S3Layout.points_congr (hpublishes.points_kept trivial hpoints) hpoints

end Standard

theorem latest_published (hlayout : ∀ client ∈ clients, client.adapter.layout = layout)
    (hhashes : ∀ client ∈ clients, client.request.Hashes hashed)
    (hfree : layout.CollisionFree hashed) (schedule : Schedule Failure) (resource : ResourceRef)
    (objectId : String) (hobject : ObjectCommon.encodeUtf8 objectId ∈ hashed)
    (pointer : StoredBody)
    (hpointer : ((putSystem versioned clients).runSchedule provider.handle schedule).state.current
      (layout.latestKey resource objectId) = some pointer) :
    ∃ content, layout.Published provider
      ((putSystem versioned clients).runSchedule provider.handle schedule).state resource objectId
      content := by
  have hjoins : ∀ client ∈ clients, client.Joins layout hashed fun _ _ => False :=
    fun client hmem => ⟨hlayout client hmem, hhashes client hmem, fun h => h.elim⟩
  have hpublishes : Publishes provider layout hashed (fun _ _ => False) (Store.empty versioned)
      ((putSystem versioned clients).runSchedule provider.handle schedule).state :=
    puts_publish hjoins [] schedule
  obtain ⟨hresolved, hbacked⟩ := hpublishes.from_empty
  exact (puts_sound hjoins schedule).published hfree (hbacked hfree) hresolved hobject hpointer

theorem rival_put_published : ∃ schedule content ended,
    (1, some Standard.lostReply) ∈ schedule ∧
    ((putSystem false Standard.contenders).runSchedule Standard.provider.handle
      schedule).clients = [.done (.ok Standard.one.metadata), .done ended] ∧
    Standard.adapter.layout.Published Standard.provider
      ((putSystem false Standard.contenders).runSchedule Standard.provider.handle schedule).state
      Standard.resource "channel" content := by
  obtain ⟨first, second, ended, -, hstruck, -, hclients, pointer, hpointer, -⟩ :=
    Standard.contenders_race
  obtain ⟨content, hcontent⟩ := latest_published
    (fun client hclient => (Standard.contenders_joins client hclient).keyed)
    (fun client hclient => (Standard.contenders_joins client hclient).hashes)
    Standard.collisionFree (first ++ second) Standard.resource "channel" Standard.objectId_hashed
    pointer hpointer
  exact ⟨first ++ second, content, ended, List.mem_append_right _ hstruck, hclients, hcontent⟩

theorem puts_agree (resource : ResourceRef) (objectId : String)
    (hlayout : ∀ client ∈ clients, client.adapter.layout = layout)
    (hobject : ∀ client ∈ clients, client.request.resource = resource ∧
      client.request.input.objectId = objectId)
    (honce : ∀ client ∈ clients, client.request.input.createOnly = true ∨
      client.adapter.common.effectiveImmutability client.adapter.common.defaultProfile
        client.request.input.immutability = .ok .immutable)
    (first second : Schedule Failure) :
    (∀ (client : Nat) (metadata : ObjectMetadata),
      ((putSystem versioned clients).runSchedule provider.handle first).clients[client]? =
        some (.done (.ok metadata)) →
      ∃ pointer, ((putSystem versioned clients).runSchedule provider.handle first).state.current
          (layout.latestKey resource objectId) = some pointer ∧
        pointer.body = layout.common.canonicalJsonBytes (latestValue metadata.digest)) ∧
    (∀ (one other : Nat) (metadata found : ObjectMetadata),
      ((putSystem versioned clients).runSchedule provider.handle first).clients[one]? =
        some (.done (.ok metadata)) →
      ((putSystem versioned clients).runSchedule provider.handle first).clients[other]? =
        some (.done (.ok found)) → metadata.digest = found.digest) ∧
    ∀ pointer, ((putSystem versioned clients).runSchedule provider.handle first).state.current
        (layout.latestKey resource objectId) = some pointer →
      ((putSystem versioned clients).runSchedule provider.handle (first ++ second)).state.current
        (layout.latestKey resource objectId) = some pointer := by
  have hjoins : ∀ client ∈ clients, client.Joins layout Set.univ fun _ _ => True :=
    fun client hmem => ⟨hlayout client hmem, ⟨trivial, fun _ _ _ => trivial⟩,
      fun _ => honce client hmem⟩
  -- Each put that has returned left the pointer at its own digest.
  have hpoints (client : Nat) (metadata : ObjectMetadata)
      (hdone : ((putSystem versioned clients).runSchedule provider.handle first).clients[client]? =
        some (.done (.ok metadata))) :
      ∃ content : HexDigest, metadata.digest = content.digest ∧ layout.Points
        ((putSystem versioned clients).runSchedule provider.handle first).state
        (layout.resourceToken resource) (layout.objectToken objectId) content := by
    have hlength : client < clients.length := by
      obtain ⟨hlt, -⟩ := List.getElem?_eq_some_iff.mp hdone
      rw [System.runSchedule_length] at hlt
      simpa [putSystem] using hlt
    have hmem := List.getElem_mem hlength
    obtain ⟨content, seen, hcommitted⟩ :=
      puts_committed hjoins first (List.getElem?_eq_getElem hlength) hdone
    obtain ⟨hsince, hseen, hdigest, -⟩ := hcommitted
    rw [hlayout _ hmem] at hsince hseen
    rw [(hobject _ hmem).1, (hobject _ hmem).2] at hseen
    exact ⟨content, hdigest, S3Layout.points_congr (hsince.points_kept trivial hseen) hseen⟩
  refine ⟨?_, ?_, ?_⟩
  · intro client metadata hdone
    obtain ⟨content, hdigest, pointer, hcurrent, hbody⟩ := hpoints client metadata hdone
    exact ⟨pointer, hcurrent, by rw [hbody, hdigest]⟩
  · intro one other metadata found hone hother
    obtain ⟨content, hdigest, hseen⟩ := hpoints one metadata hone
    obtain ⟨held, hheld, hlast⟩ := hpoints other found hother
    rw [hdigest, hheld, S3Layout.points_unique hseen hlast]
  · intro pointer hcurrent
    obtain ⟨content, hseen⟩ := (puts_sound hjoins first).points hcurrent
    have hkept := (puts_publish hjoins first second).points_kept trivial hseen
    exact (Store.current_congr hkept).trans hcurrent

theorem rival_puts_agree : ∃ first second pointer ended,
    (1, none) ∈ first ∧ (1, some Standard.lostReply) ∈ second ∧
    ((putSystem false Standard.contenders).runSchedule Standard.provider.handle
      first).clients[0]? = some (.done (.ok Standard.one.metadata)) ∧
    ((putSystem false Standard.contenders).runSchedule Standard.provider.handle
      (first ++ second)).clients[1]? = some (.done ended) ∧
    ((putSystem false Standard.contenders).runSchedule Standard.provider.handle
      (first ++ second)).state.current
        (Standard.adapter.layout.latestKey Standard.resource "channel") = some pointer ∧
    pointer.body =
      Standard.common.canonicalJsonBytes (latestValue Standard.one.metadata.digest) := by
  obtain ⟨first, second, ended, hcalls, hstruck, hdone, hclients, -⟩ := Standard.contenders_race
  have hkeyed : ∀ client ∈ Standard.contenders,
      client.adapter.layout = Standard.adapter.layout :=
    fun client hclient => (Standard.contenders_joins client hclient).keyed
  have hsame : ∀ client ∈ Standard.contenders, client.request.resource = Standard.resource ∧
      client.request.input.objectId = "channel" := by
    intro client hclient
    simp only [Standard.contenders, List.mem_cons, List.not_mem_nil, or_false] at hclient
    rcases hclient with rfl | rfl <;> exact ⟨rfl, rfl⟩
  obtain ⟨hacknowledged, -, hkept⟩ := puts_agree Standard.resource "channel" hkeyed hsame
    (fun client hclient => (Standard.contenders_joins client hclient).once trivial) first second
  obtain ⟨pointer, hpointer, hbody⟩ := hacknowledged 0 Standard.one.metadata hdone
  exact ⟨first, second, pointer, ended, hcalls, hstruck, hdone, by rw [hclients]; rfl,
    hkept pointer hpointer, hbody⟩

end MeridianS3
