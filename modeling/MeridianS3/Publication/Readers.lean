import MeridianS3.Acknowledged
import MeridianS3.Effect.Settled
import MeridianS3.Isolation.Theorems
import MeridianS3.Publication.Theorems
import MeridianS3.Steps

namespace MeridianS3

open Effect ObjectStore Json

-- A bucket in which every pointer leads to a reference and every reference to a blob.
structure S3Layout.Consistent (layout : S3Layout) (provider : Provider) (hashed : Set Bytes)
    (bucket : Bucket) : Prop where
  sound : layout.Sound hashed bucket
  resolved : layout.Resolved bucket
  backed : ∀ resource object content, layout.Backed provider bucket resource object content

variable {provider : Provider} {layout : S3Layout} {hashed : Set Bytes}
variable {sealed : HexDigest → HexDigest → Prop} {origin : Bucket}

theorem S3Layout.consistent_empty (layout : S3Layout) (provider : Provider) (hashed : Set Bytes)
    (versioned : Bool) : layout.Consistent provider hashed (Store.empty versioned) where
  sound := S3Layout.sound_empty layout hashed versioned
  resolved := fun _ _ _ ⟨_, hcurrent, _⟩ => nomatch hcurrent
  backed := fun _ _ _ _ hrecorded => absurd rfl (S3Layout.recorded_entries hrecorded)

-- What puts may have made of a bucket since.
structure Since (provider : Provider) (layout : S3Layout) (hashed : Set Bytes)
    (origin after : Bucket) : Prop where
  publishes : Publishes provider layout hashed (fun _ _ => False) origin after
  sound : layout.Sound hashed after

namespace Since

theorem refl (hsound : layout.Sound hashed origin) : Since provider layout hashed origin origin :=
  ⟨.same (.refl _), hsound⟩

variable {after : Bucket} {resource object content : HexDigest}

theorem reference (h : Since provider layout hashed origin after)
    (hstored : origin.entries (layout.path (.reference resource object content)) ≠ []) :
    after.current (layout.path (.reference resource object content)) =
      origin.current (layout.path (.reference resource object content)) :=
  Store.current_congr (h.publishes.references resource object content hstored)

-- A blob that was recorded is still there, as long as it was and as it was named.
theorem blob (h : Since provider layout hashed origin after) (hfree : layout.CollisionFree hashed)
    (hconsistent : layout.Consistent provider hashed origin) {envelope : StoredEnvelope}
    (hrecorded : layout.Recorded origin resource object content envelope) :
    ∃ (name : Option String) (blob : StoredBody), envelope.blobVersionId = .ofOption name ∧
      provider.fetch after (layout.path (.blob resource object content)) name = some blob ∧
      blob.body.length = envelope.metadata.byteLength ∧
      blob.header.metadata = blobHeader content := by
  have hkept := S3Layout.recorded_congr (h.publishes.references resource object content
    (S3Layout.recorded_entries hrecorded)) hrecorded
  obtain ⟨name, blob, hname, hfetch, hlength⟩ :=
    h.publishes.backed_kept hfree (hconsistent.backed _ _ _) envelope hkept
  exact ⟨name, blob, hname, hfetch, hlength, (h.sound.blob hfetch).2.2⟩

end Since

section Reading

variable {later : Bucket → Prop} {transport : S3Transport} {key : String}

theorem S3Transport.readJson_settledFrom :
    (transport.readJson key).SettledFrom provider.handle later origin
      (transport.document origin key) := by
  rw [S3Transport.readJson_eq, ← transport.decodeReply_handle provider origin key]
  rfl

theorem S3Transport.readJson_settled
    (hkept : ∀ state, later state → state.current key = origin.current key) :
    (transport.readJson key).Settled provider.handle later (transport.document origin key) := by
  rw [S3Transport.readJson_eq]
  intro state hlater
  change transport.decodeReply (provider.handle (.getObject key none none) state).1 = _
  rw [transport.decodeReply_handle, S3Transport.document, S3Transport.document, hkept state hlater]

-- A head whose reply says nothing that has not been settled.
theorem S3Transport.head_settled {α : Type} {name : Option String} {next : HeadObject → S3M α}
    {result : Except Failure α}
    (h : ∀ state, later state → ∃ blob, provider.fetch state key name = some blob ∧
      ∀ version, (next ⟨blob.body.length, blob.header.contentType, blob.header.metadata,
        version⟩).Settled provider.handle later result) :
    (S3Transport.head key (.ofOption name) >>= next).Settled provider.handle later result := by
  rw [S3Transport.head_eq]
  apply Program.Settled.once
  intro state hlater
  obtain ⟨blob, hfetch, hnext⟩ := h state hlater
  obtain ⟨version, hrun⟩ := S3Transport.run_head_fetch provider hfetch
  have hreply := congrArg Prod.fst hrun
  rw [S3Transport.head_eq, Program.run_andThen, Program.run_perform, Program.run_done] at hreply
  dsimp only at hreply
  rw [hreply]
  exact hnext version

end Reading

namespace S3ObjectAdapter

variable {adapter : S3ObjectAdapter} {resource : ResourceRef} {objectId : String}
  {later : Bucket → Prop}

-- An envelope that is read by its digest where it will not change.
theorem exactEnvelope_settled {digest : String}
    (hkept : ∀ key, adapter.layout.referenceKey resource objectId digest = .ok key →
      ∀ state, later state → state.current key = origin.current key) :
    (do
      let key ← Program.lift (adapter.layout.referenceKey resource objectId digest)
      let value ← adapter.transport.readJson key
      Program.lift (adapter.checkedEnvelope objectId digest value) : S3M StoredEnvelope).Settled
        provider.handle later (adapter.envelopeAt origin resource objectId digest) := by
  unfold envelopeAt
  cases hkey : adapter.layout.referenceKey resource objectId digest with
  | error failure => rfl
  | ok key =>
      have hread : (adapter.transport.readJson key).Settled provider.handle later
          (adapter.transport.document origin key) :=
        S3Transport.readJson_settled (hkept key hkey)
      change ((adapter.transport.readJson key) >>= _).Settled _ _
        ((adapter.transport.document origin key).bind _)
      cases hdocument : adapter.transport.document origin key with
      | error failure =>
          rw [hdocument] at hread
          exact hread.andThen rfl
      | ok value =>
          rw [hdocument] at hread
          exact hread.bind rfl

theorem exactEnvelope_settledFrom {digest : String} (horigin : later origin) :
    (do
      let key ← Program.lift (adapter.layout.referenceKey resource objectId digest)
      let value ← adapter.transport.readJson key
      Program.lift (adapter.checkedEnvelope objectId digest value) : S3M StoredEnvelope).SettledFrom
        provider.handle later origin (adapter.envelopeAt origin resource objectId digest) := by
  unfold envelopeAt
  cases hkey : adapter.layout.referenceKey resource objectId digest with
  | error failure => rfl
  | ok key =>
      have hread : (adapter.transport.readJson key).SettledFrom provider.handle later origin
          (adapter.transport.document origin key) := S3Transport.readJson_settledFrom
      change ((adapter.transport.readJson key) >>= _).SettledFrom _ _ _
        ((adapter.transport.document origin key).bind _)
      cases hdocument : adapter.transport.document origin key with
      | error failure =>
          rw [hdocument] at hread
          exact hread.bind_error horigin
      | ok value =>
          rw [hdocument] at hread
          exact hread.bind rfl horigin

-- An envelope that has been read is on record.
theorem readEnvelope_recorded (hsound : adapter.layout.Sound hashed origin) {digest : Option String}
    {envelope : StoredEnvelope}
    (h : ((adapter.readEnvelope resource objectId digest).run provider.handle origin).1 =
      .ok envelope) :
    ∃ content : HexDigest, adapter.layout.Recorded origin (adapter.layout.resourceToken resource)
        (adapter.layout.objectToken objectId) content envelope ∧
      envelope.metadata.objectRef.objectId = objectId ∧
      envelope.metadata.digest = content.digest := by
  cases digest with
  | some digest =>
      rw [run_readEnvelope] at h
      obtain ⟨content, rfl, hrecorded, hobject, hdigest⟩ := envelopeAt_ok hsound h
      exact ⟨content, hrecorded, hobject, hdigest⟩
  | none =>
      rw [run_readLatest] at h
      obtain ⟨content, -, hrecorded, hobject, hdigest⟩ := latestEnvelope_ok hsound h
      exact ⟨content, hrecorded, hobject, hdigest⟩

theorem selectedDigest_settledFrom (horigin : later origin) :
    (adapter.selectedDigest resource objectId none).SettledFrom provider.handle later origin
      (adapter.latestDigest origin resource objectId) := by
  have hread : (adapter.transport.readJson
      (adapter.layout.latestKey resource objectId)).SettledFrom provider.handle later origin
      (adapter.transport.document origin (adapter.layout.latestKey resource objectId)) :=
    S3Transport.readJson_settledFrom
  unfold latestDigest selectedDigest
  cases hdocument : adapter.transport.document origin
      (adapter.layout.latestKey resource objectId) with
  | error failure =>
      rw [hdocument] at hread
      exact hread.bind_error horigin
  | ok value =>
      rw [hdocument] at hread
      exact hread.bind rfl horigin

theorem readEnvelope_settledFrom (hconsistent : adapter.layout.Consistent provider hashed origin)
    (digest : Option String) :
    (adapter.readEnvelope resource objectId digest).SettledFrom provider.handle
      (Since provider adapter.layout hashed origin) origin
      ((adapter.readEnvelope resource objectId digest).run provider.handle origin).1 := by
  have horigin : Since provider adapter.layout hashed origin origin := .refl hconsistent.sound
  cases digest with
  | some digest =>
      rw [run_readEnvelope]
      exact exactEnvelope_settledFrom horigin
  | none =>
      rw [run_readLatest]
      have hpointer : (adapter.selectedDigest resource objectId none).SettledFrom provider.handle
          (Since provider adapter.layout hashed origin) origin
          (adapter.latestDigest origin resource objectId) := selectedDigest_settledFrom horigin
      unfold latestEnvelope
      cases hlatest : adapter.latestDigest origin resource objectId with
      | error failure =>
          rw [hlatest] at hpointer
          exact hpointer.bind_error horigin
      | ok digest =>
          rw [hlatest] at hpointer
          refine hpointer.bind (exactEnvelope_settled ?_) horigin
          intro key hkey state hlater
          -- The reference that the pointer names is there, and will not be written again.
          obtain ⟨content, rfl, hpoints⟩ := latestDigest_ok hconsistent.sound hlatest
          rw [S3Layout.referenceKey_digest, Except.ok.injEq] at hkey
          subst hkey
          exact hlater.reference (hconsistent.resolved _ _ _ hpoints)

-- What a head that verifies an envelope is asked for does not depend on when it is asked.
theorem verifiedHead_settled (hfree : adapter.layout.CollisionFree hashed)
    (hconsistent : adapter.layout.Consistent provider hashed origin) {content : HexDigest}
    {envelope : StoredEnvelope}
    (hrecorded : adapter.layout.Recorded origin (adapter.layout.resourceToken resource)
      (adapter.layout.objectToken objectId) content envelope)
    (hobject : envelope.metadata.objectRef.objectId = objectId)
    (hdigest : envelope.metadata.digest = content.digest) :
    (do
      let blobKey ← Program.lift (adapter.layout.blobKey resource
        envelope.metadata.objectRef.objectId envelope.metadata.digest)
      let head ← S3Transport.head blobKey envelope.blobVersionId
      Program.lift (verifyHead envelope head)
      return envelope : S3M StoredEnvelope).Settled provider.handle
        (Since provider adapter.layout hashed origin) (.ok envelope) := by
  rw [hobject, hdigest, S3Layout.blobKey_digest]
  obtain ⟨name, -, hname, -⟩ :=
    Since.blob (.refl hconsistent.sound) hfree hconsistent hrecorded
  rw [hname]
  change (S3Transport.head _ (.ofOption name) >>= _).Settled _ _ _
  apply S3Transport.head_settled
  intro state hlater
  obtain ⟨other, blob, hother, hfetch, hlength, hheader⟩ := hlater.blob hfree hconsistent hrecorded
  obtain rfl : other = name := Json.Value.ofOption_injective (hother.symm.trans hname)
  refine ⟨blob, hfetch, fun version => ?_⟩
  have hverified : verifyHead envelope ⟨blob.body.length, blob.header.contentType,
      blob.header.metadata, version⟩ = .ok () := by
    simp [verifyHead, hlength, hheader, hdigest, S3Transport.removeSha256Prefix_digest, blobHeader]
  rw [hverified]
  rfl

theorem stat_settledFrom (hfree : adapter.layout.CollisionFree hashed)
    (hconsistent : adapter.layout.Consistent provider hashed origin) (request : ReferenceRequest) :
    ∃ result, (adapter.stat request).SettledFrom provider.handle
      (Since provider adapter.layout hashed origin) origin result := by
  have horigin : Since provider adapter.layout hashed origin origin := .refl hconsistent.sound
  unfold stat
  cases hreference : adapter.reference request.resource request.reference request.method false with
  | error failure => exact ⟨.error failure, rfl⟩
  | ok reference =>
      have hread : (adapter.readEnvelope request.resource reference.objectId
          reference.digest).SettledFrom provider.handle
          (Since provider adapter.layout hashed origin) origin _ :=
        readEnvelope_settledFrom hconsistent reference.digest
      change ∃ result, (adapter.readEnvelope request.resource reference.objectId
        reference.digest >>= _).SettledFrom _ _ _ result
      cases hrun : ((adapter.readEnvelope request.resource reference.objectId
          reference.digest).run provider.handle origin).1 with
      | error failure =>
          rw [hrun] at hread
          exact ⟨.error failure, hread.bind_error horigin⟩
      | ok envelope =>
          rw [hrun] at hread
          obtain ⟨content, hrecorded, hobject, hdigest⟩ :=
            readEnvelope_recorded hconsistent.sound hrun
          exact ⟨.ok envelope, hread.bind
            (verifiedHead_settled hfree hconsistent hrecorded hobject hdigest) horigin⟩

-- The operations that look a version up, and nothing else.
def looksUp : Operation → Prop
  | .get .. | .stat .. | .readRange .. => True
  | .publishSchema _ | .createResource _ | .put _ | .list _ | .delete _ => False

theorem execute_settledFrom (hfree : adapter.layout.CollisionFree hashed)
    (hconsistent : adapter.layout.Consistent provider hashed origin) {operation : Operation}
    (hlooks : looksUp operation) :
    ∃ result, (adapter.execute operation).SettledFrom provider.handle
      (Since provider adapter.layout hashed origin) origin result := by
  have horigin : Since provider adapter.layout hashed origin origin := .refl hconsistent.sound
  cases operation with
  | stat resource reference =>
      obtain ⟨result, hstat⟩ := stat_settledFrom hfree hconsistent ⟨resource, reference, "stat"⟩
      exact ⟨_, hstat.map horigin⟩
  | get resource reference =>
      obtain ⟨result, hstat⟩ := stat_settledFrom hfree hconsistent ⟨resource, reference, "get"⟩
      have hget : ∃ ended, (adapter.get resource reference).SettledFrom provider.handle
          (Since provider adapter.layout hashed origin) origin ended := by
        refine hstat.bind_quiet ?_ horigin
        intro envelope
        exact Program.Within.bind (.ofLift _) fun _ => trivial
      obtain ⟨ended, hended⟩ := hget
      exact ⟨_, hended.map horigin⟩
  | readRange request =>
      obtain ⟨result, hstat⟩ := stat_settledFrom hfree hconsistent
        ⟨request.resource, request.reference, "read_range"⟩
      have hrange : ∃ ended, (adapter.readRange request).SettledFrom provider.handle
          (Since provider adapter.layout hashed origin) origin ended := by
        refine hstat.bind_quiet ?_ horigin
        intro envelope
        apply Program.Within.bind (.ofLift _)
        intro rawRange
        apply Program.Within.bind (.ofLift _)
        intro resolved
        dsimp only
        split
        · trivial
        · split
          · trivial
          · exact Program.Within.bind (.ofLift _) fun _ => trivial
      obtain ⟨ended, hended⟩ := hrange
      exact ⟨_, hended.map horigin⟩
  | publishSchema | createResource | put | list | delete => exact absurd hlooks id

theorem execute_observes {operation : Operation} (hlooks : looksUp operation) :
    (adapter.execute operation).Within S3Call.observes := by
  cases operation with
  | stat resource reference => exact (stat_within adapter _).map _
  | get resource reference => exact (get_within adapter _ _).map _
  | readRange request => exact (readRange_within adapter request).map _
  | publishSchema | createResource | put | list | delete => exact absurd hlooks id

end S3ObjectAdapter

-- A put whose bytes are kept account of, or an operation that reads.
def Caller.Serves (layout : S3Layout) (hashed : Set Bytes) : Caller → Prop
  | .operation adapter (.put request) => adapter.layout = layout ∧ request.Hashes hashed
  | .operation _ (.get ..) | .operation _ (.stat ..) | .operation _ (.readRange _)
  | .operation _ (.list _) => True
  | .operation _ (.publishSchema _) | .operation _ (.createResource _)
  | .operation _ (.delete _) | .migration .. => False

-- A put that carries through, as a caller's.
def Deposit.caller (deposit : Deposit) : Caller :=
  .operation deposit.adapter (.put deposit.request)

theorem Deposit.Finds.run_caller {deposit : Deposit} {bucket : Bucket} (provider : Provider)
    (hfinds : deposit.Finds bucket) (hfree : ¬deposit.Blocked bucket) :
    deposit.caller.program.run provider.handle bucket =
      (.ok (.inl (.put deposit.metadata)), deposit.stored provider bucket) := by
  have hprogram : deposit.caller.program =
      Sum.inl <$> Outcome.put <$> deposit.adapter.put deposit.request := rfl
  rw [hprogram, Program.run_map, Program.run_map, hfinds.run_put provider hfree]
  simp only [Except.map]

namespace Standard

def statRequest : Operation := .stat resource (common.referenceToDict stableReference)

def reader : Caller := .operation adapter statRequest

end Standard

section Serving

variable {callers : List Caller} {bucket : Bucket}

theorem Caller.Serves.verified {caller : Caller} (h : caller.Serves layout hashed)
    (owned : Set Nat) :
    Verified provider.handle
      (publication (Company.puts provider layout hashed fun _ _ => False)).protocol
      caller.program owned bucket fun _ _ _ => True := by
  have hobserved {program : S3M Outcome} (hwithin : program.Within S3Call.observes) :
      Verified provider.handle
        (publication (Company.puts provider layout hashed fun _ _ => False)).protocol
        (Sum.inl <$> program : S3M (Outcome ⊕ S3MigrationResult)) owned bucket fun _ _ _ => True :=
    Discipline.observe (hwithin.map _) provider.handle_observes fun _ _ _ => trivial
  cases caller with
  | migration hooks plan => exact absurd h id
  | operation adapter operation =>
      cases operation with
      | put request =>
          obtain ⟨rfl, hhashes⟩ := h
          have hput : Verified provider.handle
              (publication (Company.puts provider adapter.layout hashed fun _ _ => False)).protocol
              (adapter.put request) owned bucket fun _ _ _ => True :=
            (S3ObjectAdapter.put_rule hhashes fun hsealed => hsealed.elim).mono
              fun _ _ _ _ => trivial
          exact Verified.map (Verified.map hput)
      | get resource reference => exact hobserved ((get_within adapter _ _).map _)
      | stat resource reference => exact hobserved ((stat_within adapter _).map _)
      | readRange request => exact hobserved ((readRange_within adapter request).map _)
      | list request => exact hobserved ((list_within adapter request).map _)
      | publishSchema | createResource | delete => exact absurd h id

theorem S3Layout.Consistent.kept {after : Bucket} (h : layout.Consistent provider hashed bucket)
    (hfree : layout.CollisionFree hashed) (hsince : Since provider layout hashed bucket after) :
    layout.Consistent provider hashed after where
  sound := hsince.sound
  resolved resource object content hpoints := by
    rcases hsince.publishes.latest resource object with hsame | ⟨-, found, hfound, hstored⟩
    · exact hsince.publishes.references_kept
        (h.resolved resource object content (S3Layout.points_congr hsame.symm hpoints))
    · exact S3Layout.points_unique hpoints hfound ▸ hstored
  backed resource object content := hsince.publishes.backed_kept hfree (h.backed _ _ _)

end Serving

-- Clients that put and read, in a bucket that was made so.
structure Serving {α : Type} (provider : Provider) (layout : S3Layout) (hashed : Set Bytes)
    (system : System S3 Failure α Bucket) : Prop where
  sound : layout.Sound hashed system.state
  verified : ∀ program ∈ system.clients, Verified provider.handle
    (publication (Company.puts provider layout hashed fun _ _ => False)).protocol program ∅
    system.state fun _ _ _ => True

namespace Serving

variable {α : Type} {system : System S3 Failure α Bucket}

theorem start (h : Serving provider layout hashed system) :
    system.Coherent provider.handle
      (publication (Company.puts provider layout hashed fun _ _ => False)).protocol Disjoint
      ownsUploads (fun _ _ _ _ => True) fun _ => ∅ := by
  apply System.coherent_start (publication_composes provider layout hashed _)
  · exact h.sound
  · exact fun _ _ _ h => absurd h (Set.notMem_empty _)
  · exact fun _ _ _ _ _ => Set.disjoint_empty _
  · exact fun client hlt => h.verified _ (List.getElem_mem hlt)

-- The bucket at some point of a schedule.
theorem since (h : Serving provider layout hashed system) (schedule : Schedule Failure) :
    Since provider layout hashed system.state
      (system.runSchedule provider.handle schedule).state := by
  have hrules := publication_composes provider layout hashed fun _ _ => False
  obtain ⟨owned, hcoherent⟩ := h.start.runSchedule hrules schedule fun _ _ _ _ _ => trivial
  refine ⟨?_, hcoherent.invariant⟩
  exact h.start.runSchedule_related hrules (Publishes provider layout hashed fun _ _ => False)
    (fun _ => .same (.refl _)) (fun _ _ _ => Publishes.trans) (fun _ _ _ _ hguar => hguar.1)
    schedule fun _ _ _ _ _ => trivial

-- The states before the turns of a client go on from the start, each to the next and all
-- to the end.
theorem turns (h : Serving provider layout hashed system) (client : Nat)
    (schedule : Schedule Failure) :
    (∀ turn ∈ system.turnsOf provider.handle client schedule,
      Since provider layout hashed system.state turn.1 ∧
        Since provider layout hashed turn.1
          (system.runSchedule provider.handle schedule).state) ∧
    (system.turnsOf provider.handle client schedule).Pairwise fun first second =>
      Since provider layout hashed first.1 second.1 := by
  have hfaults : ∀ turn ∈ schedule, ∀ call,
      Allowed (publication (Company.puts provider layout hashed fun _ _ => False)).faults call
        turn.2 := fun _ _ _ _ _ => trivial
  obtain ⟨hstates, hpairs⟩ := h.start.turnsOf_related
    (publication_composes provider layout hashed fun _ _ => False)
    (Publishes provider layout hashed fun _ _ => False)
    (fun _ => .same (.refl _)) (fun _ _ _ => Publishes.trans) (fun _ _ _ _ hguar => hguar.1) hfaults
  refine ⟨?_, hpairs.imp_of_mem ?_⟩
  · intro turn hmem
    obtain ⟨hbefore, hsound, hafter⟩ := hstates turn hmem
    exact ⟨⟨hbefore, hsound⟩, hafter, (h.since schedule).sound⟩
  · exact fun _ hsecond hrelated => ⟨hrelated, (hstates _ hsecond).2.1⟩

-- All of them go on from the first.
theorem first_turn (h : Serving provider layout hashed system) (client : Nat)
    (schedule : Schedule Failure) :
    ∀ turn ∈ system.turnsOf provider.handle client schedule,
      Since provider layout hashed (system.runSchedule provider.handle
        (schedule.takeWhile fun turn => turn.1 ≠ client)).state turn.1 := by
  obtain ⟨hstates, hpairs⟩ := h.turns client schedule
  have hhead : ∀ turn ∈ (system.turnsOf provider.handle client schedule).head?,
      turn.1 = (system.runSchedule provider.handle
        (schedule.takeWhile fun turn => turn.1 ≠ client)).state := System.turnsOf_head
  intro turn hmem
  cases hturns : system.turnsOf provider.handle client schedule with
  | nil =>
      rw [hturns] at hmem
      exact absurd hmem List.not_mem_nil
  | cons first rest =>
      rw [← hhead first (by rw [hturns]; rfl)]
      have hfirst := (hstates first (by rw [hturns]; exact List.mem_cons_self)).1.sound
      rw [hturns] at hmem hpairs
      obtain rfl | hmem := List.mem_cons.mp hmem
      · exact .refl hfirst
      · exact (List.pairwise_cons.mp hpairs).1 turn hmem

end Serving

section Atomic

variable {callers : List Caller} {bucket : Bucket}

theorem callers_serving (provider : Provider) (hsound : layout.Sound hashed bucket)
    (hserves : ∀ caller ∈ callers, caller.Serves layout hashed) :
    Serving provider layout hashed (callersSystem bucket callers) where
  sound := hsound
  verified program hmem := by
    obtain ⟨caller, hcaller, rfl⟩ := List.mem_map.mp hmem
    exact (hserves caller hcaller).verified ∅

namespace Standard

-- An empty Resource.
theorem base_consistent (versioned : Bool) :
    adapter.layout.Consistent Standard.provider Standard.hashed (base versioned) where
  sound := base_tidy.sound
  resolved := by
    rintro resource object content ⟨stored, hcurrent, -⟩
    rw [base_current (by simp)] at hcurrent
    cases hcurrent
  backed _ _ _ _ hrecorded :=
    absurd (base_entries versioned (by simp)) (S3Layout.recorded_entries hrecorded)

-- Two puts of the same object, and a stat of it.
def writer : Caller := early.caller

def overwriter : Caller := late.caller

def overwriting : List Caller := [writer, reader, overwriter]

theorem overwriting_serves :
    ∀ caller ∈ overwriting, caller.Serves adapter.layout Standard.hashed := by
  intro caller hcaller
  simp only [overwriting, List.mem_cons, List.not_mem_nil, or_false] at hcaller
  rcases hcaller with rfl | rfl | rfl
  · exact ⟨rfl, early_first.hashes⟩
  · trivial
  · exact ⟨rfl, versions.lands.hashes⟩

theorem run_writer : writer.program.run Standard.provider.handle (base true) =
    (.ok (.inl (.put early.metadata)), early.stored Standard.provider (base true)) :=
  early_first.finds.run_caller Standard.provider early_first.unblocked

theorem statRequest_reference : adapter.reference resource
    (common.referenceToDict stableReference) "stat" false = .ok stableReference := rfl

theorem reader_program : reader.program =
    Sum.inl <$> (fun envelope => Outcome.stat envelope.metadata) <$>
      adapter.stat ⟨resource, common.referenceToDict stableReference, "stat"⟩ := rfl

-- It begins with the pointer.
theorem reader_calls : ∃ request next, reader.program = .call request next ∧
    S3Call.observes request := by
  obtain ⟨request, next, hcall⟩ : ∃ request next, reader.program = .call request next := by
    rw [reader_program]
    unfold S3ObjectAdapter.stat
    rw [statRequest_reference]
    exact ⟨_, _, rfl⟩
  have hwithin : reader.program.Within S3Call.observes := by
    rw [reader_program]
    exact ((stat_within adapter _).map _).map _
  rw [hcall] at hwithin
  exact ⟨request, next, hcall, hwithin.1⟩

theorem run_overwriter : (overwriter.program.run Standard.provider.handle
    (early.stored Standard.provider (base true))).1 = .ok (.inl (.put late.metadata)) :=
  congrArg Prod.fst (versions.lands.finds.run_caller Standard.provider versions.lands.unblocked)

theorem overwriting_clients (bucket : Bucket) : callersSystem bucket overwriting =
    ⟨bucket, [writer.program, reader.program, overwriter.program]⟩ := by
  simp only [callersSystem, overwriting, List.map_cons, List.map_nil]

theorem overwriting_runs : ∃ opening middle closing ended,
    (∀ turn ∈ opening, turn = (0, none)) ∧ (∀ turn ∈ middle, turn = (2, none)) ∧
    (∀ turn ∈ closing, turn = (1, none)) ∧
    ((callersSystem (base true) overwriting).runSchedule Standard.provider.handle
      opening).state = early.stored Standard.provider (base true) ∧
    ((callersSystem (base true) overwriting).runSchedule Standard.provider.handle
      (opening ++ (1, none) :: (middle ++ closing))).clients =
        [.done (.ok (.inl (.put early.metadata))), .done ended,
          .done (.ok (.inl (.put late.metadata)))] := by
  obtain ⟨request, next, hreader, hobserves⟩ := reader_calls
  have hruns := System.crosses Standard.provider.handle writer.program overwriter.program next
    (base true)
  rw [← hreader, run_writer, ← overwriting_clients] at hruns
  dsimp only at hruns
  rwa [Standard.provider.handle_observes request hobserves, run_overwriter] at hruns

theorem overwriting_stat : (adapter.execute statRequest).run Standard.provider.handle
    (early.stored Standard.provider (base true)) =
      (.ok (.stat early.metadata), early.stored Standard.provider (base true)) := by
  have hconsistent : adapter.layout.Consistent Standard.provider Standard.hashed
      (early.stored Standard.provider (base true)) := by
    obtain ⟨opening, _, _, _, -, -, -, hopening, -⟩ := overwriting_runs
    have hserving : Serving Standard.provider adapter.layout Standard.hashed
        (callersSystem (base true) overwriting) :=
      callers_serving Standard.provider base_tidy.sound overwriting_serves
    have hsince := hserving.since opening
    rw [hopening, overwriting_clients] at hsince
    dsimp only at hsince
    exact (base_consistent true).kept Standard.collisionFree hsince
  have hrecorded := early_first.recorded
  rw [show early.adapter = adapter from rfl] at hrecorded
  obtain ⟨name, blob, hname, hfetch, hlength⟩ := hconsistent.backed early.resource early.object
    early.hash (early.published Standard.provider (base true)) hrecorded
  have hstat : (adapter.stat ⟨resource, common.referenceToDict stableReference, "stat"⟩).run
      Standard.provider.handle (early.stored Standard.provider (base true)) =
        (.ok (early.published Standard.provider (base true)),
          early.stored Standard.provider (base true)) :=
    run_stat statRequest_reference rfl early_first.latest rfl rfl hname hfetch hlength
      (hconsistent.sound.blob hfetch).2.2
  have hprogram : adapter.execute statRequest =
      (fun envelope => Outcome.stat envelope.metadata) <$>
        adapter.stat ⟨resource, common.referenceToDict stableReference, "stat"⟩ := rfl
  rw [hprogram, Program.run_map, hstat]
  simp only [Except.map]
  rfl

end Standard

theorem lookup_atomic (hfree : layout.CollisionFree hashed)
    (hconsistent : layout.Consistent provider hashed bucket)
    (hserves : ∀ caller ∈ callers, caller.Serves layout hashed) {client : Nat}
    {adapter : S3ObjectAdapter} {operation : Operation} (hkeyed : adapter.layout = layout)
    (hlooks : S3ObjectAdapter.looksUp operation)
    (hclient : callers[client]? = some (.operation adapter operation)) (schedule : Schedule Failure)
    (hunstruck : ∀ turn ∈ schedule, turn.1 = client → turn.2 = none)
    (result : Except Failure (Outcome ⊕ S3MigrationResult))
    (hdone : ((callersSystem bucket callers).runSchedule provider.handle
      schedule).clients[client]? = some (.done result)) :
    result = ((adapter.execute operation).run provider.handle
      ((callersSystem bucket callers).runSchedule provider.handle
        (schedule.takeWhile fun turn => turn.1 ≠ client)).state).1.map Sum.inl := by
  subst hkeyed
  have hstart : (callersSystem bucket callers).clients[client]? =
      some (Sum.inl <$> adapter.execute operation) := by
    change (callers.map Caller.program)[client]? = _
    rw [List.getElem?_map, hclient]
    rfl
  have hserving := callers_serving provider hconsistent.sound hserves
  have horigin := hconsistent.kept hfree
    (hserving.since (schedule.takeWhile fun turn => turn.1 ≠ client))
  obtain ⟨ended, hsettled⟩ := S3ObjectAdapter.execute_settledFrom hfree horigin hlooks
  have hrun := hsettled.run (S3ObjectAdapter.execute_observes hlooks) provider.handle_observes
    (.refl horigin.sound)
  obtain ⟨seen, rest, hrest, hamid, hbegins⟩ := System.client_amid provider.handle schedule hstart
  obtain rfl : Program.done result = rest := Option.some.inj (hdone.symm.trans hrest)
  rw [hrun]
  refine (hsettled.map (.refl horigin.sound)).amid hamid ?_ ?_
  · intro turn hmem
    have hturn := hbegins.subset hmem
    exact ⟨System.turnsOf_unstruck hunstruck turn hturn,
      hserving.first_turn client schedule turn hturn⟩
  · intro turn hmem
    refine System.turnsOf_head turn ?_
    obtain ⟨others, hothers⟩ := hbegins
    rw [← hothers]
    cases seen with
    | nil => exact absurd hmem (by simp)
    | cons first others => exact hmem

-- A put of another version between the calls of a stat: it gives what it would have given
-- before.
theorem stat_across_put : ∃ opening middle closing,
    (∀ turn ∈ opening, turn = (0, none)) ∧ (∀ turn ∈ middle, turn = (2, none)) ∧
    (∀ turn ∈ closing, turn = (1, none)) ∧
    ((callersSystem (Standard.base true) Standard.overwriting).runSchedule
      Standard.provider.handle (opening ++ (1, none) :: (middle ++ closing))).clients =
        [.done (.ok (.inl (.put Standard.early.metadata))),
          .done (.ok (.inl (.stat Standard.early.metadata))),
          .done (.ok (.inl (.put Standard.late.metadata)))] := by
  obtain ⟨opening, middle, closing, ended, hopens, hmiddle, hcloses, hbefore, hclients⟩ :=
    Standard.overwriting_runs
  have hdone : ((callersSystem (Standard.base true) Standard.overwriting).runSchedule
      Standard.provider.handle (opening ++ (1, none) :: (middle ++ closing))).clients[1]? =
        some (.done ended) := by
    rw [hclients]
    rfl
  have hlooks : S3ObjectAdapter.looksUp Standard.statRequest := trivial
  have hfirst : (opening ++ (1, none) :: (middle ++ closing)).takeWhile (fun turn => turn.1 ≠ 1) =
      opening := by
    rw [List.takeWhile_append_of_pos fun turn hturn => by rw [hopens turn hturn]; rfl]
    rw [List.takeWhile_cons_of_neg (by simp), List.append_nil]
  have hunstruck : ∀ turn ∈ opening ++ (1, none) :: (middle ++ closing), turn.1 = 1 →
      turn.2 = none := by
    intro turn hturn _
    simp only [List.mem_append, List.mem_cons] at hturn
    rcases hturn with hturn | rfl | hturn | hturn
    · rw [hopens turn hturn]
    · rfl
    · rw [hmiddle turn hturn]
    · rw [hcloses turn hturn]
  have hatomic := lookup_atomic Standard.collisionFree (Standard.base_consistent true)
    Standard.overwriting_serves rfl hlooks rfl _ hunstruck ended hdone
  rw [hfirst, hbefore, Standard.overwriting_stat] at hatomic
  refine ⟨opening, middle, closing, hopens, hmiddle, hcloses, ?_⟩
  rw [hclients, hatomic]
  rfl

end Atomic

end MeridianS3
