import MeridianS3.Effect.Trace
import MeridianS3.Minted
import MeridianS3.Records.Legible

namespace MeridianS3

open Effect ObjectStore Json

namespace S3ObjectAdapter

variable (adapter : S3ObjectAdapter) (bucket : Bucket) (request : DeleteRequest)

-- The version that a delete is for.
def Names (reference : ObjectReference) (content : HexDigest) : Prop :=
  adapter.reference request.resource request.reference "delete" true = .ok reference ∧
    reference.digest = some content.digest

-- Its reference is stored, and its retention permits the deletion.
def Permits (objectId : String) (content : HexDigest) : Prop :=
  ∃ envelope, adapter.layout.Recorded bucket (adapter.layout.resourceToken request.resource)
      (adapter.layout.objectToken objectId) content envelope ∧
    adapter.requireDeleteAllowed envelope request.checkedAt = .ok ()

end S3ObjectAdapter

variable {provider : Provider} {adapter : S3ObjectAdapter} {hashed : Set Bytes}
variable {bucket after : Bucket} {request : DeleteRequest} {removal : Removal}

namespace S3ObjectAdapter

theorem delete_surfaces (adapter : S3ObjectAdapter) (request : DeleteRequest) :
    (adapter.delete request).Surfaces Failure.Outage := by
  have hlasting := Failure.lasting_outage
  have hremove (resource : ResourceRef) (objectId digest : String) (envelope : StoredEnvelope)
      (latest previous : Option StoredEnvelope) :
      (adapter.removeVersion resource objectId digest envelope latest previous).Surfaces
        Failure.Outage := by
    apply Program.Surfaces.bind (.ofLift _)
    intro blobKey
    apply Program.Surfaces.bind (.ofLift _)
    intro exactKey
    apply Program.Surfaces.bind (S3Transport.head_surfaces hlasting _ none)
    intro exactHead
    apply Program.Surfaces.bind (S3Transport.delete_surfaces hlasting _ _ _)
    intro _
    apply Program.Surfaces.bind (S3Transport.delete_surfaces hlasting _ _ _)
    intro _
    split
    · unfold restoreLatest
      split
      · exact Program.Surfaces.bind (S3Transport.putJson_surfaces _ hlasting _ _ _ _) fun _ => trivial
      · apply Program.Surfaces.bind (S3Transport.head_surfaces hlasting _ none)
        exact fun latestHead => S3Transport.delete_surfaces hlasting _ _ _
    · trivial
  have hversion (reference : ObjectReference) (digest : String) :
      (adapter.deleteVersion request reference digest).Surfaces Failure.Outage := by
    apply Program.Surfaces.bind (adapter.readEnvelope_surfaces _ _ hlasting _)
    intro envelope
    apply Program.Surfaces.bind (.ofLift _)
    intro _
    apply Program.Surfaces.bind
      (adapter.tryLatest_surfaces _ _ hlasting fun _ h => h.not_notFound)
    intro latest
    apply Program.Surfaces.bind (adapter.newestVersion_surfaces _ _ hlasting _)
    intro previous
    apply Program.Surfaces.bind (hremove _ _ _ _ _ _)
    intro _
    apply Program.Surfaces.bind (.ofLift _)
    intro key
    exact Program.Surfaces.bind (S3Transport.putJson_surfaces _ hlasting _ _ _ _) fun _ => trivial
  apply Program.Surfaces.bind (.ofLift _)
  intro reference
  split
  · trivial
  · exact Program.Surfaces.bind (hversion _ _) fun _ => trivial

end S3ObjectAdapter

theorem delete_unfailing {request : DeleteRequest} (hsound : adapter.layout.Sound hashed bucket) :
    DeleteEnds provider adapter request unfailing bucket
      ((adapter.delete request).run provider.handle bucket).1
      ((adapter.delete request).run provider.handle bucket).2 := by
  have hdelete : Verified provider.handle (solo unfailing).protocol (adapter.delete request) ∅
      bucket fun result _ after =>
        DeleteEnds provider adapter request unfailing bucket result after := delete_ends hsound
  obtain ⟨-, -, hends⟩ := hdelete.run Discipline.rely_refl trivial
  exact hends

namespace Removal

variable {faults : S3Call → Fault Failure → Prop}

-- What a delete finds is determined by the bucket.
theorem Finds.unique {other : Removal} (houtages : S3ObjectAdapter.Outages faults)
    (h : removal.Finds unfailing bucket) (hother : other.Finds faults bucket)
    (hadapter : other.adapter = removal.adapter) (hrequest : other.request = removal.request) :
    other = removal := by
  rcases removal with ⟨adapter, request, reference, content, envelope, version, entry, latest,
    previous⟩
  rcases other with ⟨_, _, reference', content', envelope', version', entry', latest', previous'⟩
  simp only at hadapter hrequest
  subst hadapter hrequest
  have hreference := h.reference.symm.trans hother.reference
  simp only [Except.ok.injEq] at hreference
  subst hreference
  have hcontent := h.digest.symm.trans hother.digest
  simp only [Option.some.injEq, HexDigest.digest_inj] at hcontent
  subst hcontent
  have henvelope := h.envelope.symm.trans hother.envelope
  simp only [Except.ok.injEq] at henvelope
  subst henvelope
  have hversion := h.version.symm.trans hother.version
  simp only at hversion
  have hsame := Value.ofOption_injective hversion
  subst hsame
  obtain ⟨stored, hentries⟩ := h.entry
  obtain ⟨stored', hentries'⟩ := hother.entry
  have hentry := hentries.symm.trans hentries'
  simp only [List.cons.injEq, Entry.mk.injEq, and_true] at hentry
  obtain ⟨rfl, -⟩ := hentry
  have hlatest := (h.latest.2 unfailing_outages).symm.trans (hother.latest.2 houtages)
  simp only [Except.ok.injEq] at hlatest
  subst hlatest
  have hprevious := h.previous.symm.trans hother.previous
  simp only [Except.ok.injEq] at hprevious
  subst hprevious
  rfl

theorem Finds.unversioned_none (hsound : removal.adapter.layout.Sound hashed bucket)
    (hversioned : bucket.versioned = false) (h : removal.Finds faults bucket) :
    removal.version = none := by
  have hversion := h.versioned hsound
  rw [hversioned] at hversion
  simpa using hversion

theorem Finds.accepted (hsound : removal.adapter.layout.Sound hashed bucket)
    (hversioned : bucket.versioned = false) (h : removal.Finds faults bucket) (error : Failure) :
    (provider.handle (.deleteObject removal.blobPath removal.version) bucket).1 ≠ .error error := by
  rw [h.unversioned_none hsound hversioned]
  simp [Provider.handle]

-- A version id that the provider has reported is one that it accepts.
theorem Finds.accepted_minted (hsound : removal.adapter.layout.Sound hashed bucket)
    (hminted : removal.adapter.layout.Minted provider bucket)
    (h : removal.Finds unfailing bucket) (error : Failure) :
    (provider.handle (.deleteObject removal.blobPath removal.version) bucket).1 ≠
      .error error := by
  obtain ⟨id, hid⟩ := hminted _ _ _ _ (h.recorded hsound)
  have hversion : removal.version = provider.reportedVersion bucket id := by
    have hboth := h.version.symm.trans hid
    cases hname : removal.version <;> cases hother : provider.reportedVersion bucket id <;>
      simp_all [Value.ofOption]
  rw [hversion]
  unfold Provider.reportedVersion
  cases hversioned : bucket.versioned with
  | false => simp [Provider.handle]
  | true => simp [Provider.handle, hversioned, (provider.versionNumber_iff _ _).mpr rfl]

-- Whatever a delete names that has found its version, is the version that it has found.
theorem Finds.named (h : removal.Finds unfailing bucket)
    {reference : ObjectReference} {content : HexDigest}
    (hnames : removal.adapter.Names removal.request reference content) :
    removal.reference = reference ∧ removal.content = content := by
  have hreference := h.reference.symm.trans hnames.1
  rw [Except.ok.injEq] at hreference
  subst hreference
  have hdigest := h.digest.symm.trans hnames.2
  rw [Option.some.injEq, HexDigest.digest_inj] at hdigest
  exact ⟨rfl, hdigest⟩

-- What a delete has read makes up a removal.
theorem found {reference : ObjectReference} {content : HexDigest}
    {envelope : StoredEnvelope} {latest previous : Option StoredEnvelope}
    (hsound : adapter.layout.Sound hashed bucket)
    (hnames : adapter.Names request reference content)
    (henvelope : adapter.envelopeAt bucket request.resource reference.objectId content.digest =
      .ok envelope)
    (hallowed : adapter.requireDeleteAllowed envelope request.checkedAt = .ok ())
    (hlatest : missingAsNone (adapter.latestEnvelope bucket request.resource
      reference.objectId) = .ok latest)
    (hprevious : adapter.newestIn bucket request.resource reference.objectId
      (some content.digest) = .ok previous) :
    ∃ removal : Removal, removal.adapter = adapter ∧ removal.request = request ∧
      removal.reference = reference ∧ removal.content = content ∧
      removal.Finds unfailing bucket := by
  obtain ⟨removal, rfl, rfl, rfl, hcontent, rfl, rfl, rfl, hversion, hentry⟩ :=
    ofEnvelope hsound henvelope latest previous
  rw [HexDigest.digest_inj] at hcontent
  subst hcontent
  refine ⟨removal, rfl, rfl, rfl, rfl, ⟨hnames.1, hnames.2, henvelope, hallowed, hversion, hentry,
    ⟨?_, fun _ => hlatest⟩, hprevious⟩⟩
  intro found hfound
  exact missingAsNone_some (hfound ▸ hlatest)

-- A delete that nothing strikes goes all the way.
theorem Finds.carried_out (hsound : removal.adapter.layout.Sound hashed bucket)
    (h : removal.Finds unfailing bucket)
    (haccepted : ∀ error, (provider.handle
      (.deleteObject removal.blobPath removal.version) bucket).1 ≠ .error error) :
    SameObjects (removal.reach provider bucket .evidence)
      ((removal.adapter.delete removal.request).run provider.handle bucket).2 := by
  have hends : DeleteEnds provider removal.adapter removal.request unfailing bucket
      ((removal.adapter.delete removal.request).run provider.handle bucket).1
      ((removal.adapter.delete removal.request).run provider.handle bucket).2 :=
    delete_unfailing hsound
  generalize (removal.adapter.delete removal.request).run provider.handle bucket = run at hends ⊢
  rcases run with ⟨result, after⟩
  cases hends with
  | refused failure _ _ hcause =>
      rcases hcause unfailing_outages with ⟨_, _, -, hfault⟩ | hnone
      · exact hfault.elim
      · exact absurd h (hnone removal rfl rfl)
  | rejected other failure error _ hadapter hrequest hfinds hrejects =>
      obtain rfl := h.unique unfailing_outages hfinds hadapter hrequest
      exact absurd hrejects (haccepted error)
  | cut _ _ _ _ _ _ _ _ hfault => exact hfault.elim
  | recorded other _ hadapter hrequest hfinds _ hsame
  | completed other _ hadapter hrequest hfinds _ hsame =>
      obtain rfl := h.unique unfailing_outages hfinds hadapter hrequest
      exact hsame

theorem Finds.weaken (h : removal.Finds unfailing bucket) : removal.Finds faults bucket :=
  { h with latest := ⟨h.latest.1, fun _ => h.latest.2 unfailing_outages⟩ }

-- A delete that a single failure strikes stops at the phase that the call belongs to.
theorem Finds.cut_off (hsound : removal.adapter.layout.Sound hashed bucket)
    (h : removal.Finds unfailing bucket)
    (haccepted : ∀ error, (provider.handle
      (.deleteObject removal.blobPath removal.version) bucket).1 ≠ .error error)
    {plan : Plan Failure} {call : S3Call} {fault : Fault Failure} (houtage : fault.error.Outage)
    (hstruck : (removal.adapter.delete removal.request).struck provider.handle plan bucket =
      [(call, fault)]) :
    SameObjects (removal.reach provider bucket (removal.phaseAt fault.effect call))
      ((removal.adapter.delete removal.request).runFaulty provider.handle plan bucket).2 := by
  have hends : DeleteEnds provider removal.adapter removal.request
      (fun call fault => (call, fault) ∈
        (removal.adapter.delete removal.request).struck provider.handle plan bucket) bucket
      ((removal.adapter.delete removal.request).runFaulty provider.handle plan bucket).1
      ((removal.adapter.delete removal.request).runFaulty provider.handle plan bucket).2 :=
    delete_alone hsound plan
  have hraised : ∃ error : Failure, error.Outage ∧
      ((removal.adapter.delete removal.request).runFaulty provider.handle plan bucket).1 =
        .error error := by
    apply (removal.adapter.delete_surfaces removal.request).runFaulty_struck
    · intro request struck hmem
      rw [hstruck, List.mem_singleton] at hmem
      cases hmem
      exact houtage
    · simp [hstruck]
  have houtages : S3ObjectAdapter.Outages fun call fault => (call, fault) ∈
      (removal.adapter.delete removal.request).struck provider.handle plan bucket := by
    intro _ _ hmem
    rw [hstruck, List.mem_singleton] at hmem
    cases hmem
    exact houtage
  generalize (removal.adapter.delete removal.request).runFaulty provider.handle plan bucket = run
    at hends hraised ⊢
  rcases run with ⟨result, after⟩
  cases hends with
  | refused failure _ hsame hcause =>
      rcases hcause houtages with ⟨struck, _, hreads, hmem⟩ | hnone
      · rw [hstruck, List.mem_singleton] at hmem
        cases hmem
        have hstart : removal.phaseAt fault.effect call = .start := by
          cases call <;> first | rfl | exact absurd hreads id
        rw [hstart]
        exact hsame
      · exact absurd h.weaken (hnone removal rfl rfl)
  | rejected other failure error _ hadapter hrequest hfinds hrejects =>
      obtain rfl := h.unique houtages hfinds hadapter hrequest
      exact absurd hrejects (haccepted error)
  | cut other struck found failure _ hadapter hrequest hfinds hfault hsame =>
      obtain rfl := h.unique houtages hfinds hadapter hrequest
      rw [hstruck, List.mem_singleton] at hfault
      cases hfault
      exact hsame
  | recorded =>
      obtain ⟨error, herror, hresult⟩ := hraised
      cases hresult
      have hconflict := herror.not_conflict
      rw [S3Transport.refusedWrite, preconditionFailed_is] at hconflict
      cases hconflict
  | completed =>
      obtain ⟨error, -, hresult⟩ := hraised
      cases hresult

-- What a delete has come to, repeated or not, it has come to at the last clock reading.
theorem reach_evidence_entries (phase : DeletePhase) (hphase : phase = .reference ∨ phase = .pointer) :
    (removal.reach provider bucket phase).entries removal.evidencePath =
      bucket.entries removal.evidencePath := by
  rcases hphase with rfl | rfl
  · apply removal.referenceGone_entries provider bucket
    · simp [evidencePath, blobPath]
    · simp [evidencePath, referencePath]
  · apply removal.pointerMoved_entries provider bucket
    · simp [evidencePath, blobPath]
    · simp [evidencePath, referencePath]
    · exact removal.evidencePath_ne_latestPath

theorem recordEvidence_current (removal : Removal) (current : Bucket) :
    ((removal.recordEvidence current).current removal.evidencePath).isSome = true := by
  unfold recordEvidence
  split
  · assumption
  · simp [S3ObjectAdapter.written]

theorem blobGone_blob (removal : Removal) (hversioned : bucket.versioned = false)
    (hnone : removal.version = none) :
    (removal.blobGone provider bucket).entries removal.blobPath = [] := by
  rw [blobGone, hnone]
  exact Store.delete_none_entries_self _ _ hversioned

-- What comes after the removal of the blob leaves its key alone.
theorem pointerMoved_blobPath (removal : Removal) :
    (removal.pointerMoved provider bucket).entries removal.blobPath =
      (removal.blobGone provider bucket).entries removal.blobPath := by
  have hreference : (removal.referenceGone provider bucket).entries removal.blobPath =
      (removal.blobGone provider bucket).entries removal.blobPath :=
    provider.without_entries_of_ne _ removal.referencePath_ne_blobPath.symm _
  unfold pointerMoved
  split
  · rw [removal.movePointer_entries provider _ removal.latestPath_ne_blobPath.symm, hreference]
  · exact hreference

theorem pointerMoved_blob (removal : Removal) (hversioned : bucket.versioned = false)
    (hnone : removal.version = none) :
    (removal.pointerMoved provider bucket).entries removal.blobPath = [] := by
  rw [removal.pointerMoved_blobPath]
  exact removal.blobGone_blob hversioned hnone

-- Where the pointer stands once it has been moved in a bucket without versions.
theorem movePointer_latest (removal : Removal) (current : Bucket)
    (hversioned : current.versioned = false) :
    match removal.previous with
    | some previous => ∃ stored,
        (removal.movePointer provider current).current removal.latestPath = some stored ∧
          stored.body =
            removal.adapter.common.canonicalJsonBytes (latestValue previous.metadata.digest)
    | none => (removal.movePointer provider current).current removal.latestPath = none := by
  unfold movePointer
  cases removal.previous with
  | some previous => exact ⟨_, Store.put_current_self .., rfl⟩
  | none =>
      simp only
      cases hhead : current.head removal.latestPath with
      | none => simp [Store.current, hhead]
      | some entry =>
          apply Store.current_eq_none
          simp only [Provider.without_reported, hversioned, Bool.false_eq_true, if_false]
          exact Store.delete_none_entries_self _ _ hversioned

-- A delete that finds its version, and no evidence, returns.
theorem Finds.completes (hsound : removal.adapter.layout.Sound hashed bucket)
    (h : removal.Finds unfailing bucket)
    (haccepted : ∀ error, (provider.handle
      (.deleteObject removal.blobPath removal.version) bucket).1 ≠ .error error)
    (hevidence : bucket.current removal.evidencePath = none) :
    ((removal.adapter.delete removal.request).run provider.handle bucket).1 = .ok true := by
  have hends : DeleteEnds provider removal.adapter removal.request unfailing bucket
      ((removal.adapter.delete removal.request).run provider.handle bucket).1
      ((removal.adapter.delete removal.request).run provider.handle bucket).2 :=
    delete_unfailing hsound
  generalize (removal.adapter.delete removal.request).run provider.handle bucket = run at hends ⊢
  rcases run with ⟨result, after⟩
  cases hends with
  | refused failure _ _ hcause =>
      rcases hcause unfailing_outages with ⟨_, _, -, hfault⟩ | hnone
      · exact hfault.elim
      · exact absurd h (hnone removal rfl rfl)
  | rejected other failure error _ hadapter hrequest hfinds hrejects =>
      obtain rfl := h.unique unfailing_outages hfinds hadapter hrequest
      exact absurd hrejects (haccepted error)
  | cut _ _ _ _ _ _ _ _ hfault => exact hfault.elim
  | recorded other _ hadapter hrequest hfinds hrecorded =>
      obtain rfl := h.unique unfailing_outages hfinds hadapter hrequest
      rw [hevidence] at hrecorded
      cases hrecorded
  | completed => rfl

-- Every legible version whose retention permits it is found by its delete.
theorem found_legible {adapter : S3ObjectAdapter} {request : DeleteRequest}
    {reference : ObjectReference} {content : HexDigest}
    (hlegible : adapter.layout.Legible bucket) (hsound : adapter.layout.Sound hashed bucket)
    (hfree : adapter.layout.CollisionFree hashed)
    (hobject : ObjectCommon.encodeUtf8 reference.objectId ∈ hashed)
    (hnames : adapter.Names request reference content)
    (hpermits : adapter.Permits bucket request reference.objectId content) :
    ∃ removal : Removal, removal.adapter = adapter ∧ removal.request = request ∧
      removal.reference = reference ∧ removal.content = content ∧
      removal.Finds unfailing bucket := by
  obtain ⟨envelope, hrecorded, hallowed⟩ := id hpermits
  have henvelope : adapter.envelopeAt bucket request.resource reference.objectId content.digest =
      .ok envelope := S3ObjectAdapter.Legible.envelopeAt hlegible hsound hfree hobject hrecorded
  obtain ⟨latest, hlatest⟩ := S3ObjectAdapter.Legible.latestEnvelope_total hlegible hsound hfree
    hobject
  obtain ⟨previous, hprevious⟩ := S3ObjectAdapter.newestInPages_ok_iff.mpr
    (S3ObjectAdapter.Legible.versions hlegible hsound _)
  exact Removal.found hsound hnames henvelope hallowed hlatest hprevious

-- Undisturbed, a delete sees the pointer wherever it names the version that goes.
theorem Finds.moves_of_points (houtage : S3ObjectAdapter.Outages faults)
    (hsound : removal.adapter.layout.Sound hashed bucket) (h : removal.Finds faults bucket)
    (hpoints : removal.adapter.layout.Points bucket removal.resource removal.object
      removal.content) : removal.moves = true := by
  have hlatest : removal.latest = some removal.envelope :=
    S3ObjectAdapter.latestEnvelope_seen hsound hpoints (h.recorded hsound) (h.latest.2 houtage)
  obtain ⟨content, -, -, -, hdigest⟩ := S3ObjectAdapter.envelopeAt_ok hsound h.envelope
  simp [moves, hlatest, hdigest]

-- What was seen at the pointer is what it names.
theorem Finds.points_of_moves (hsound : removal.adapter.layout.Sound hashed bucket)
    (h : removal.Finds faults bucket)
    (hmoves : removal.moves = true) :
    removal.adapter.layout.Points bucket removal.resource removal.object removal.content := by
  cases hlatest : removal.latest with
  | none => simp [moves, hlatest] at hmoves
  | some latest =>
      obtain ⟨content, hpoints, -, -, hdigest⟩ :=
        S3ObjectAdapter.latestEnvelope_ok hsound (h.latest.1 latest hlatest)
      have hcontent : latest.metadata.digest = removal.content.digest := by
        simpa [moves, hlatest] using hmoves
      rw [hdigest, HexDigest.digest_inj] at hcontent
      subst hcontent
      exact hpoints

-- A delete that leaves the pointer where it is leaves a bucket that can be read.
theorem Finds.tidy_kept (htidy : removal.adapter.layout.Tidy hashed provider bucket)
    (h : removal.Finds unfailing bucket) (hmoves : removal.moves = false)
    (hevidence : removal.adapter.layout.legible
      (removal.adapter.deletionValue removal.request removal.reference)) :
    removal.adapter.layout.Tidy hashed provider (removal.reach provider bucket .evidence) where
  sound := reach_sound htidy.sound h .evidence
  minted := htidy.minted.kept (removal.reach_versioned provider bucket .evidence)
    fun resource object content => by
      by_cases hown : removal.adapter.layout.path (.reference resource object content) =
          removal.referencePath
      · right
        rw [hown]
        exact removal.reference_gone h ⟨by simp, by simp⟩
      · left
        apply removal.reach_entries provider bucket .evidence _ hown
        · simp [latestPath]
        · simp [evidencePath]
        · simp [blobPath]
  legible := by
    have hpointer : removal.pointerMoved provider bucket =
        removal.referenceGone provider bucket := by
      rw [pointerMoved, if_neg (by simp [hmoves])]
    apply htidy.legible.kept
    intro physical stored hcurrent hdocument
    by_cases hown : removal.adapter.layout.path physical = removal.referencePath
    · rw [hown, Store.current_eq_none _ _ (removal.reference_gone h ⟨by simp, by simp⟩)] at hcurrent
      cases hcurrent
    have hblob : removal.adapter.layout.path physical ≠ removal.blobPath := by
      simpa [blobPath] using hdocument removal.resource removal.object removal.content
    have hkept : (removal.pointerMoved provider bucket).entries
        (removal.adapter.layout.path physical) =
          bucket.entries (removal.adapter.layout.path physical) := by
      rw [hpointer]
      exact removal.referenceGone_entries provider bucket hblob hown
    by_cases hwritten : removal.adapter.layout.path physical = removal.evidencePath ∧
        (removal.pointerMoved provider bucket).current removal.evidencePath = none
    · right
      obtain ⟨hpath, hnone⟩ := hwritten
      rw [hpath, reach, recordEvidence, if_neg (by simp [hnone])] at hcurrent
      have hstored := hcurrent.symm.trans (Store.put_current_self ..)
      rw [Option.some.injEq] at hstored
      exact ⟨_, by rw [hstored]; rfl, hevidence⟩
    · left
      refine ⟨physical, ?_, hdocument⟩
      rw [← hcurrent, ← Store.current_congr hkept]
      apply Store.current_congr
      rw [reach, recordEvidence]
      split
      · rfl
      · rename_i hnone
        refine (removal.adapter.written_entries_of_ne _ (fun hpath => hwritten ⟨hpath, ?_⟩) _).symm
        simpa using hnone

section Calls

-- What a delete does before it removes anything leaves the bucket.
theorem Finds.trace_removeVersion (h : removal.Finds unfailing bucket) {call : S3Call}
    (hcall : call ∈ (removal.adapter.removeVersion removal.request.resource
      removal.reference.objectId removal.content.digest removal.envelope removal.latest
      removal.previous).trace provider.handle bucket) :
    call ∈ (removal.adapter.delete removal.request).trace provider.handle bucket := by
  have hread : (removal.adapter.readEnvelope removal.request.resource removal.reference.objectId
      (some removal.content.digest)).run provider.handle bucket =
        (.ok removal.envelope, bucket) := by
    rw [S3ObjectAdapter.run_readEnvelope, h.envelope]
  have hlatest : (removal.adapter.tryLatest removal.request.resource
      removal.reference.objectId).run provider.handle bucket = (.ok removal.latest, bucket) := by
    rw [S3ObjectAdapter.run_tryLatest, h.latest.2 unfailing_outages]
  have hprevious : (removal.adapter.newestVersion removal.request.resource
      removal.reference.objectId (some removal.content.digest)).run provider.handle bucket =
        (.ok removal.previous, bucket) := by
    rw [S3ObjectAdapter.run_newestVersion, h.previous]
  unfold S3ObjectAdapter.delete
  rw [h.reference]
  apply Program.mem_trace_bind (Program.run_lift _ _ _)
  simp only [h.digest]
  apply Program.mem_trace_bind_first
  unfold S3ObjectAdapter.deleteVersion
  apply Program.mem_trace_bind hread
  rw [h.allowed]
  apply Program.mem_trace_bind (Program.run_lift _ _ _)
  apply Program.mem_trace_bind hlatest
  apply Program.mem_trace_bind hprevious
  exact Program.mem_trace_bind_first hcall

theorem trace_delete (key : String) (version : Option String) (sensitive : Bool)
    (state : Bucket) :
    S3Call.deleteObject key version ∈
      (S3Transport.delete key (.ofOption version) sensitive).trace provider.handle state := by
  unfold S3Transport.delete normalized
  rw [Program.trace_tryCatch]
  apply List.mem_append_left
  cases version <;> exact List.mem_singleton_self _

theorem run_delete {key : String} {version : Option String} {sensitive : Bool} {state : Bucket}
    (haccepted : ∀ error, (provider.handle (.deleteObject key version) state).1 ≠ .error error) :
    (S3Transport.delete key (.ofOption version) sensitive).run provider.handle state =
      (.ok (), provider.without state key version) := by
  have hreply : provider.handle (.deleteObject key version) state =
      (.ok (), provider.without state key version) := by
    cases hresult : (provider.handle (.deleteObject key version) state).1 with
    | error error => exact absurd hresult (haccepted error)
    | ok value => exact Prod.ext hresult rfl
  have hargument : versionArgument (.ofOption version) = .ok version := by
    cases version <;> rfl
  unfold S3Transport.delete
  rw [run_normalized, hargument, Program.run_bind_ok _ _ _ _ _ version rfl, Program.run_perform,
    hreply]
  rfl

theorem Finds.calls_blob (h : removal.Finds unfailing bucket) :
    S3Call.deleteObject removal.blobPath removal.version ∈
      (removal.adapter.delete removal.request).trace provider.handle bucket := by
  obtain ⟨stored, hentries⟩ := h.entry
  have hhead : bucket.head removal.referencePath = some ⟨removal.entry, some stored⟩ := by
    rw [Store.head, hentries]
    rfl
  apply h.trace_removeVersion
  unfold S3ObjectAdapter.removeVersion
  rw [S3Layout.blobKey_digest, S3Layout.referenceKey_digest, h.version]
  apply Program.mem_trace_bind (Program.run_lift _ _ _)
  apply Program.mem_trace_bind (Program.run_lift _ _ _)
  apply Program.mem_trace_bind (S3Transport.run_head_current provider hhead)
  apply Program.mem_trace_bind_first
  exact trace_delete _ _ _ _

theorem Finds.calls_reference (h : removal.Finds unfailing bucket)
    (haccepted : ∀ error, (provider.handle (.deleteObject removal.blobPath removal.version)
      bucket).1 ≠ .error error) :
    S3Call.deleteObject removal.referencePath (provider.reportedVersion bucket removal.entry) ∈
      (removal.adapter.delete removal.request).trace provider.handle bucket := by
  obtain ⟨stored, hentries⟩ := h.entry
  have hhead : bucket.head removal.referencePath = some ⟨removal.entry, some stored⟩ := by
    rw [Store.head, hentries]
    rfl
  apply h.trace_removeVersion
  unfold S3ObjectAdapter.removeVersion
  rw [S3Layout.blobKey_digest, S3Layout.referenceKey_digest, h.version]
  apply Program.mem_trace_bind (Program.run_lift _ _ _)
  apply Program.mem_trace_bind (Program.run_lift _ _ _)
  apply Program.mem_trace_bind (S3Transport.run_head_current provider hhead)
  apply Program.mem_trace_bind (run_delete haccepted)
  apply Program.mem_trace_bind_first
  exact trace_delete _ _ _ _

end Calls

end Removal

end MeridianS3
