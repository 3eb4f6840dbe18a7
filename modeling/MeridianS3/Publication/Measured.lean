import MeridianS3.Deposit.Records
import MeridianS3.Effect.Settled
import MeridianS3.Isolation.Theorems
import MeridianS3.Publication.Enforcement
import MeridianS3.Steps

namespace Effect.Program

variable {S : Signature} {ε α : Type} {kind : S.Call → Prop}
  {possible : (request : S.Call) → Except ε (S.Reply request) → Prop}

-- What the paths of a program can end with, a confined run of it ends with.
theorem Within.confined_path {program : Program S ε α} {post : Except ε α → Prop}
    (h : program.Within kind)
    (hpath : ∀ (events : List (Event S ε)) (result : Except ε α), program.Path events result →
      post result) : program.Confined kind possible post := by
  induction program with
  | done result => exact hpath [] result (.done result)
  | call request next ih =>
      refine ⟨h.1, fun outcome _ => ih outcome (h.2 outcome) ?_⟩
      exact fun events result path => hpath _ result (.call path)

end Effect.Program

namespace ObjectStore.Store

variable {κ μ β : Type} [LinearOrder κ]

theorem mem_put_entries {store : Store κ μ β} {key other : κ} {object : Object μ β}
    {entry : Entry μ β} (h : entry ∈ (store.put key object).entries other) :
    other = key ∧ entry.object = some object ∨ entry ∈ store.entries other := by
  by_cases hsame : other = key
  · subst hsame
    rw [put_entries_self, List.mem_cons] at h
    rcases h with rfl | h
    · exact Or.inl ⟨rfl, rfl⟩
    · split at h
      · exact Or.inr h
      · cases h
  · rw [put_entries_of_ne _ hsame] at h
    exact Or.inr h

end ObjectStore.Store

namespace MeridianS3

open Effect ObjectStore Json

-- An envelope under the reference key of an object and a content, and the bytes that it
-- describes.
structure StoredEnvelope.Measures (common : ObjectCommon) (object content : HexDigest)
    (envelope : StoredEnvelope) (payload : Bytes) : Prop where
  token : common.hexdigest (ObjectCommon.encodeUtf8 envelope.metadata.objectRef.objectId) = object
  hash : common.hexdigest payload = content
  digest : envelope.metadata.digest = content.digest
  exact : envelope.metadata.objectRef.digest = some content.digest
  byteLength : envelope.metadata.byteLength = payload.length
  chunks : ∃ size : Nat, envelope.integrityChunkBytes = size ∧
    (0 < size → envelope.chunkDigests = (Codec.pieces size payload).map common.digest)

variable {common : ObjectCommon} {hashed : Set Bytes}

-- A reference document of such an envelope, for a byte string out of the set.
def MeasuredBody (common : ObjectCommon) (hashed : Set Bytes) (object content : HexDigest)
    (body : Bytes) : Prop :=
  ∃ (envelope : StoredEnvelope) (payload : Bytes), payload ∈ hashed ∧
    (envelope.toDict common).canonical = true ∧
    body = common.canonicalJsonBytes (envelope.toDict common) ∧
    envelope.Measures common object content payload

-- So is every reference document of the bucket, in whichever binding.
def Measured (common : ObjectCommon) (hashed : Set Bytes) (bucket : Bucket) : Prop :=
  ∀ root resource object content,
    ∀ entry ∈ bucket.entries ((PhysicalKey.reference resource object content).render root),
    ∀ stored, entry.object = some stored → MeasuredBody common hashed object content stored.body

theorem measured_empty (common : ObjectCommon) (hashed : Set Bytes) (versioned : Bool) :
    Measured common hashed (Store.empty versioned) := by
  intro root resource object content entry hmem
  cases hmem

theorem Measured.recorded {layout : S3Layout} {bucket : Bucket}
    {resource object content : HexDigest} {envelope : StoredEnvelope}
    (h : Measured layout.common hashed bucket)
    (hrecorded : layout.Recorded bucket resource object content envelope) :
    ∃ payload ∈ hashed, envelope.Measures layout.common object content payload := by
  obtain ⟨hcanonical, stored, hcurrent, hbody⟩ := hrecorded
  obtain ⟨entry, hmem, hobject⟩ := Store.mem_of_current _ _ hcurrent
  obtain ⟨found, payload, hpayload, hfound, hsame, hmeasures⟩ := h _ _ _ _ entry hmem stored hobject
  have henvelope : envelope = found := S3Layout.recorded_unique
    ⟨hcanonical, stored, hcurrent, hbody⟩ ⟨hfound, stored, hcurrent, hsame⟩
  exact ⟨payload, hpayload, henvelope ▸ hmeasures⟩

-- Keys that are no reference keys, of any binding.
def unreferenced (key : String) : Prop :=
  ∀ root resource object content, key ≠ (PhysicalKey.reference resource object content).render root

theorem unreferenced_render {physical : PhysicalKey} (root : String)
    (h : ∀ resource object content, physical ≠ .reference resource object content) :
    unreferenced (physical.render root) := by
  intro other resource object content hsame
  exact h resource object content (PhysicalKey.render_roots hsame).2

-- The calls that store under reference keys nothing but measured documents.
def S3Call.measured (common : ObjectCommon) (hashed : Set Bytes) : S3Call → Prop
  | .putObject key _ body _ _ _ => ∀ root resource object content,
      key = (PhysicalKey.reference resource object content).render root →
      MeasuredBody common hashed object content body
  | .completeMultipartUpload key _ _ => unreferenced key
  | .headBucket | .headObject .. | .getObject .. | .deleteObject .. | .listObjectsV2 ..
  | .createMultipartUpload .. | .uploadPart .. | .abortMultipartUpload .. => True

theorem S3Call.observes_measured {call : S3Call} (h : call.observes) :
    call.measured common hashed := by
  cases call <;> trivial

theorem S3Call.reads_measured {keys listings : String → Prop} {call : S3Call}
    (h : call.reads keys listings) : call.measured common hashed :=
  S3Call.observes_measured (S3Call.reads_observes call h)

theorem S3Call.inside_measured {call : S3Call} (h : call.inside unreferenced) :
    call.measured common hashed := by
  cases call with
  | putObject key header body length ifNoneMatch checksum =>
      intro root resource object content hkey
      exact absurd hkey (h root resource object content)
  | completeMultipartUpload key uploadId parts => exact h
  | headBucket | headObject | getObject | deleteObject | listObjectsV2 | createMultipartUpload
  | uploadPart | abortMultipartUpload => trivial

section Handler

variable {provider : Provider} {bucket after : Bucket}

theorem Measured.same (h : Measured common hashed bucket) (hsame : SameObjects bucket after) :
    Measured common hashed after := by
  intro root resource object content entry hmem
  rw [hsame.entries] at hmem
  exact h root resource object content entry hmem

theorem Measured.put (h : Measured common hashed bucket) {key : String} {stored : StoredBody}
    (hstored : ∀ root resource object content,
      key = (PhysicalKey.reference resource object content).render root →
      MeasuredBody common hashed object content stored.body) :
    Measured common hashed (bucket.put key stored) := by
  intro root resource object content entry hmem found hfound
  obtain ⟨hkey, hobject⟩ | hmem := Store.mem_put_entries hmem
  · obtain rfl := Option.some.inj (hobject.symm.trans hfound)
    exact hstored root resource object content hkey.symm
  · exact h root resource object content entry hmem found hfound

theorem Measured.delete (h : Measured common hashed bucket) (key : String) (id : Option Nat) :
    Measured common hashed (bucket.delete key id) := by
  intro root resource object content entry hmem found hfound
  have hold := Store.mem_delete_entries _ _ _ hmem (by rw [hfound]; exact Option.some_ne_none found)
  exact h root resource object content entry hold found hfound

theorem Provider.handle_measured {call : S3Call} (hcall : call.measured common hashed)
    (h : Measured common hashed bucket) :
    Measured common hashed (provider.handle call bucket).2 := by
  cases call with
  | headBucket | headObject | getObject | listObjectsV2 => exact h
  | putObject key header body length ifNoneMatch checksum =>
      simp only [handle]
      split
      · exact h
      · split
        · exact h
        · exact h.put hcall
  | deleteObject key versionId =>
      rcases provider.handle_delete_cases bucket key versionId with ⟨id, hdeleted⟩ | ⟨error, hkept⟩
      · rw [hdeleted]
        exact h.delete key id
      · rw [hkept]
        exact h
  | createMultipartUpload key header checksums => exact h.same (.openSession _ _ _)
  | uploadPart key uploadId number body checksum =>
      simp only [handle]
      split
      · exact h
      · split
        · exact h
        · split
          · exact h
          · exact h.same (.addPart _ _ _ _)
  | completeMultipartUpload key uploadId parts =>
      simp only [handle]
      split
      · exact h
      · split
        · exact h
        · split
          · exact h
          · split
            · exact h
            · apply (h.same (.closeSession _ _)).put
              exact fun root resource object content hkey =>
                absurd hkey (hcall root resource object content)
  | abortMultipartUpload key uploadId =>
      simp only [handle]
      split
      · exact h
      · split
        · exact h
        · split
          · exact h
          · exact h.same (.closeSession _ _)

end Handler

section Calls

variable {transport : S3Transport} {key : String}

theorem S3Transport.putJson_unreferenced (h : unreferenced key) (value : Value) (createOnly : Bool)
    (retention : Option RetentionRecord) :
    (transport.putJson key value createOnly retention).Within (S3Call.measured common hashed) :=
  (putJson_inside h value createOnly retention).mono fun _ => S3Call.inside_measured

theorem S3Transport.delete_measured (key : String) (versionId : Value) (sensitive : Bool) :
    (delete key versionId sensitive).Within (S3Call.measured common hashed) := by
  apply normalized_within
  apply Program.Within.bind (.ofLift _)
  exact fun _ => .perform trivial

theorem S3Transport.register_measured (h : unreferenced key) (document : Value) (message : String) :
    (transport.register key document message).Within (S3Call.measured common hashed) :=
  (register_inside h document message).mono fun _ => S3Call.inside_measured

end Calls

namespace S3ObjectAdapter

variable {adapter : S3ObjectAdapter} {request : PutRequest} {intent : PutIntent}

theorem readEnvelope_measured (resource : ResourceRef) (objectId : String)
    (digest : Option String) :
    (adapter.readEnvelope resource objectId digest).Within (S3Call.measured common hashed) := by
  have hreads : (adapter.readEnvelope resource objectId digest).Within
      (S3Call.reads anything anything) :=
    adapter.readEnvelope_within resource objectId (fun _ _ => trivial) digest
  exact hreads.mono fun _ => S3Call.reads_measured

theorem tryLatest_measured (resource : ResourceRef) (objectId : String) :
    (adapter.tryLatest resource objectId).Within (S3Call.measured common hashed) := by
  have hreads : (adapter.tryLatest resource objectId).Within (S3Call.reads anything anything) :=
    adapter.tryLatest_within resource objectId fun _ _ => trivial
  exact hreads.mono fun _ => S3Call.reads_measured

theorem putIntent_measured (request : PutRequest) :
    (adapter.putIntent request).Within (S3Call.measured common hashed) := by
  have hreads : (adapter.putIntent request).Within (S3Call.reads anything anything) :=
    adapter.putIntent_within request trivial fun _ _ => trivial
  exact hreads.mono fun _ => S3Call.reads_measured

theorem spooled_stream (writes : List Bytes) :
    (adapter.spooled writes).stream = writes.flatten := by
  rw [spooled, IntegritySpool.writeAll_stream]
  rfl

-- What an upload hands on is what was transferred.
theorem putUpload_uploaded {events : List (Event S3 Failure)} {identity : PayloadIdentity}
    {chunks : List String} {stored : StoredObject}
    (path : (adapter.putUpload request intent).Path events
      (.ok (.uploaded identity chunks stored))) :
    ∃ writes, request.transfer intent.payload = .ok writes ∧
      identity = adapter.common.identity (adapter.spooled writes).stream ∧
      chunks = (adapter.spooled writes).finish adapter.common := by
  generalize hresult : (.ok (.uploaded identity chunks stored) : Except Failure PutProgress) =
    result at path
  cases putUpload_paths path with
  | refused failure hreads => cases hresult
  | idempotent metadata hreads hlatest hcheck => cases hresult
  | @transferred looked sent writes outcome hreads htransfer hstore =>
      cases outcome with
      | error failure => cases hresult
      | ok found =>
          cases hresult
          exact ⟨writes, htransfer, rfl, rfl⟩

theorem putUpload_measured (request : PutRequest) (intent : PutIntent)
    {possible : (call : S3Call) → Except Failure call.Reply → Prop} :
    (adapter.putUpload request intent).Confined (S3Call.measured common hashed) possible
      fun result => ∀ progress, result = .ok progress → ∀ identity chunks stored,
        progress = .uploaded identity chunks stored →
          ∃ writes, request.transfer intent.payload = .ok writes ∧
            identity = adapter.common.identity (adapter.spooled writes).stream ∧
            chunks = (adapter.spooled writes).finish adapter.common := by
  have hwithin : (adapter.putUpload request intent).Within (S3Call.measured common hashed) := by
    apply Program.Within.bind (.ofLift _)
    intro writes
    dsimp only
    split
    · trivial
    · apply Program.Within.bind (tryLatest_measured _ _)
      intro latest
      apply Program.Within.bind (.ofLift _)
      intro existing
      cases existing with
      | some metadata => trivial
      | none =>
          apply Program.Within.bind
          · apply Program.Within.lift_bind
            intro key hkey
            obtain ⟨content, -, rfl⟩ := digestKey_ok hkey
            apply (S3Transport.putFile_inside _ _ _ _ _ _ _ _).mono
            · exact fun _ => S3Call.inside_measured
            · exact unreferenced_render _ (by simp)
          · exact fun _ => trivial
  apply hwithin.confined_path
  rintro events result path progress rfl identity chunks stored rfl
  exact putUpload_uploaded path

theorem newEnvelope_measures {writes : List Bytes} (versionId : Option String) :
    (adapter.newEnvelope request intent (adapter.common.identity (adapter.spooled writes).stream)
      ((adapter.spooled writes).finish adapter.common) versionId).Measures adapter.common
        (adapter.layout.objectToken request.input.objectId)
        (adapter.common.hexdigest (adapter.spooled writes).stream)
        (adapter.spooled writes).stream where
  token := rfl
  hash := rfl
  digest := rfl
  exact := rfl
  byteLength := rfl
  chunks := by
    refine ⟨adapter.config.integrityChunkBytes, rfl, fun hsize => ?_⟩
    rw [spooled_stream]
    exact IntegritySpool.finish_writeAll _ hsize writes

theorem publish_measured {writes : List Bytes} {profile : Value} (stored : StoredObject)
    (hcommon : adapter.common = common) (hhashes : request.Hashes hashed)
    (hintent : adapter.intentFrom profile request = .ok intent)
    (htransfer : request.transfer intent.payload = .ok writes) :
    (adapter.publish request intent (adapter.common.identity (adapter.spooled writes).stream)
      ((adapter.spooled writes).finish adapter.common) stored).Within
        (S3Call.measured common hashed) := by
  subst hcommon
  have henvelope : adapter.layout.EnvelopeOf hashed stored.versionId.isSome
      (adapter.layout.objectToken request.input.objectId)
      (adapter.common.hexdigest (adapter.spooled writes).stream)
      (adapter.newEnvelope request intent (adapter.common.identity (adapter.spooled writes).stream)
        ((adapter.spooled writes).finish adapter.common) stored.versionId) :=
    newEnvelope_envelopeOf hhashes.objectId (intentFrom_retention hintent) rfl
  have hpayload : (adapter.spooled writes).stream ∈ hashed := by
    rw [spooled_stream]
    exact hhashes.content _ _ htransfer
  apply publish_within
  · exact fun call => S3Call.reads_measured
  · intro key hkey
    apply S3Transport.putJson_carries
    intro arguments _ root resource object content hreference
    obtain ⟨found, hdigest, rfl⟩ := digestKey_ok hkey
    obtain rfl := HexDigest.digest_injective hdigest
    obtain ⟨-, hsame⟩ := PhysicalKey.render_roots hreference
    cases hsame
    exact ⟨_, _, hpayload, henvelope.canonical, rfl, newEnvelope_measures stored.versionId⟩
  · exact S3Transport.putJson_unreferenced (unreferenced_render _ (by simp)) _ _ _
  · intro key value hkey
    obtain ⟨content, -, rfl⟩ := digestKey_ok hkey
    exact S3Transport.putJson_unreferenced (unreferenced_render _ (by simp)) _ _ _

theorem failing_confined {α : Type} {flag : Bool} {program : S3M α} {kind : S3Call → Prop}
    {possible : (call : S3Call) → Except Failure call.Reply → Prop} {post : α → Prop}
    (h : program.Confined kind possible fun result => ∀ value, result = .ok value → post value) :
    (failing flag program).Confined kind possible fun result =>
      ∀ value, result = .ok value → post value := by
  apply h.recover
  · exact fun value hvalue => hvalue
  · exact fun failure _ value hthrown => nomatch hthrown

theorem put_measured {possible : (call : S3Call) → Except Failure call.Reply → Prop}
    (hcommon : adapter.common = common) (hhashes : request.Hashes hashed) :
    (adapter.put request).Confined (S3Call.measured common hashed) possible fun _ => True := by
  have hintent : (adapter.putIntent request).Confined (S3Call.measured common hashed) possible
      fun result => ∀ intent, result = .ok intent →
        ∃ profile, adapter.intentFrom profile request = .ok intent := by
    apply (putIntent_measured request).confined_path
    intro events result path intent hresult
    subst hresult
    exact putIntent_paths path
  apply hintent.bind _ fun _ _ => trivial
  intro intent hprofile
  obtain ⟨profile, hprofile⟩ := hprofile intent rfl
  apply (failing_confined (putUpload_measured request intent)).bind _ fun _ _ => trivial
  intro progress hprogress
  cases progress with
  | idempotent metadata => trivial
  | uploaded identity chunks stored =>
      obtain ⟨writes, htransfer, rfl, rfl⟩ := hprogress _ rfl _ _ _ rfl
      exact (failing_inside (publish_measured stored hcommon hhashes hprofile htransfer)).confined

theorem removeVersion_measured (resource : ResourceRef) (objectId digest : String)
    (envelope : StoredEnvelope) (latest previous : Option StoredEnvelope) :
    (adapter.removeVersion resource objectId digest envelope latest previous).Within
      (S3Call.measured common hashed) := by
  have hhead (key : String) :
      (S3Transport.head key .null).Within (S3Call.measured common hashed) :=
    (S3Transport.head_within key .null).mono fun _ => S3Call.observes_measured
  apply Program.Within.bind (.ofLift _)
  intro blobKey
  apply Program.Within.bind (.ofLift _)
  intro exactKey
  apply Program.Within.bind (hhead exactKey)
  intro exactHead
  apply Program.Within.bind (S3Transport.delete_measured _ _ _)
  intro _
  apply Program.Within.bind (S3Transport.delete_measured _ _ _)
  intro _
  split
  · cases previous with
    | some previous =>
        apply Program.Within.bind
        · exact S3Transport.putJson_unreferenced (unreferenced_render _ (by simp)) _ _ _
        · exact fun _ => trivial
    | none =>
        apply Program.Within.bind (hhead _)
        exact fun latestHead => S3Transport.delete_measured _ _ _
  · trivial

theorem delete_measured (request : DeleteRequest) :
    (adapter.delete request).Within (S3Call.measured common hashed) := by
  apply Program.Within.bind (.ofLift _)
  intro reference
  split
  · trivial
  · rename_i digest _
    have hversion : (adapter.deleteVersion request reference digest).Within
        (S3Call.measured common hashed) := by
      apply Program.Within.bind (readEnvelope_measured _ _ _)
      intro envelope
      apply Program.Within.bind (.ofLift _)
      intro _
      apply Program.Within.bind (tryLatest_measured _ _)
      intro latest
      apply Program.Within.bind
      · exact (adapter.newestVersion_within _ _ _).mono fun _ => S3Call.reads_measured
      · intro previous
        apply Program.Within.bind (removeVersion_measured _ _ _ _ _ _)
        intro _
        apply Program.Within.lift_bind
        intro key hkey
        obtain ⟨content, -, rfl⟩ := digestKey_ok hkey
        apply Program.Within.bind
        · exact S3Transport.putJson_unreferenced (unreferenced_render _ (by simp)) _ _ _
        · exact fun _ => trivial
    exact Program.Within.bind hversion fun _ => trivial

end S3ObjectAdapter

-- Puts share the common library and transfer byte strings out of a set.
def Caller.Hashes (common : ObjectCommon) (hashed : Set Bytes) : Caller → Prop
  | .operation adapter (.put request) => adapter.common = common ∧ request.Hashes hashed
  | _ => True

theorem Caller.measured {caller : Caller} (h : caller.Hashes common hashed)
    {possible : (call : S3Call) → Except Failure call.Reply → Prop} :
    caller.program.Confined (S3Call.measured common hashed) possible fun _ => True := by
  have hobserves {α : Type} {program : S3M α} (hprogram : program.Within S3Call.observes) :
      program.Confined (S3Call.measured common hashed) possible fun _ => True :=
    (hprogram.mono fun _ => S3Call.observes_measured).confined
  have hmapped {α β : Type} {program : S3M α} {f : α → β} (hprogram : program.Confined
      (S3Call.measured common hashed) possible fun _ => True) :
      (f <$> program).Confined (S3Call.measured common hashed) possible fun _ => True :=
    hprogram.map (fun _ _ => trivial) fun _ _ => trivial
  cases caller with
  | operation adapter operation =>
      apply hmapped
      cases operation with
      | publishSchema request =>
          apply hmapped
          apply Program.Within.confined
          apply Program.Within.bind
          · exact S3Transport.register_measured (unreferenced_render _ (by simp)) _ _
          · exact fun _ => trivial
      | createResource request =>
          apply hmapped
          apply Program.Within.confined
          apply Program.Within.bind (.ofLift _)
          intro profile
          apply Program.Within.bind
          · exact S3Transport.register_measured (unreferenced_render _ (by simp)) _ _
          · exact fun _ => trivial
      | put request => exact hmapped (S3ObjectAdapter.put_measured h.1 h.2)
      | get resource reference => exact hmapped (hobserves (get_within adapter resource reference))
      | stat resource reference => exact hmapped (hobserves (stat_within adapter _))
      | readRange request => exact hmapped (hobserves (readRange_within adapter request))
      | list request => exact hmapped (hobserves (list_within adapter request))
      | delete request => exact hmapped (S3ObjectAdapter.delete_measured request).confined
  | migration hooks plan =>
      apply hmapped
      apply Program.Within.confined
      apply Program.Within.bind
      · exact normalized_within (.perform trivial)
      · intro _
        apply Program.Within.bind
        · exact S3Transport.register_measured (unreferenced_render _ (by simp)) _ _
        · exact fun _ => trivial

theorem Measured.runSchedule {α : Type} {system : System S3 Failure α Bucket} {provider : Provider}
    (h : Measured common hashed system.state)
    (hclients : ∀ program ∈ system.clients, program.Confined (S3Call.measured common hashed)
      (fun _ _ => True) fun _ => True) (schedule : Schedule Failure) :
    Measured common hashed (system.runSchedule provider.handle schedule).state := by
  have hconfined : system.Confined (fun _ => S3Call.measured common hashed) fun _ _ => True :=
    fun client program hprogram => hclients program (List.mem_of_getElem? hprogram)
  exact @System.Confined.runSchedule_kept S3 Failure α Bucket provider.handle
    (fun _ => S3Call.measured common hashed) (fun _ _ => True)
    (fun before after => Measured common hashed before → Measured common hashed after) system
    hconfined (fun _ _ _ _ => trivial) (fun _ hbefore => hbefore)
    (fun _ _ _ hfirst hsecond hbefore => hsecond (hfirst hbefore))
    (fun _ _ hcall _ hbefore => Provider.handle_measured hcall hbefore) schedule
    (fun _ _ _ _ _ => trivial) h

section Callers

variable {callers : List Caller} {bucket : Bucket}

-- What is recorded of an object is true of some bytes, whoever calls and whatever strikes.
theorem references_measured (provider : Provider) (h : Measured common hashed bucket)
    (hhashes : ∀ caller ∈ callers, caller.Hashes common hashed) (schedule : Schedule Failure) :
    Measured common hashed
      ((callersSystem bucket callers).runSchedule provider.handle schedule).state := by
  apply h.runSchedule
  intro program hprogram
  obtain ⟨caller, hcaller, rfl⟩ := List.mem_map.mp hprogram
  exact Caller.measured (hhashes caller hcaller)

theorem put_recorded : ∃ schedule,
    ((callersSystem (Store.empty false) [Standard.putter, Standard.neighbour]).runSchedule
      Standard.provider.handle schedule).clients[0]? =
        some (.done (.ok (.inl (.put Standard.one.metadata)))) ∧
    Measured Standard.common Standard.hashed
      ((callersSystem (Store.empty false) [Standard.putter, Standard.neighbour]).runSchedule
        Standard.provider.handle schedule).state := by
  have hclient : (callersSystem (Store.empty false)
      [Standard.putter, Standard.neighbour]).clients[0]? = some Standard.putter.program := rfl
  obtain ⟨schedule, hschedule, -⟩ := System.advance
    (Program.advances_run Standard.provider.handle Standard.putter.program (Store.empty false))
    hclient
  refine ⟨schedule, ?_, ?_⟩
  · have hput : ((Standard.one.adapter.put Standard.one.request).run Standard.provider.handle
        (Store.empty false)).1 = .ok Standard.one.metadata :=
      (Standard.one_first.finds.commits Standard.one_first.unblocked).1
    rw [hschedule]
    change some (Program.done (Program.run Standard.provider.handle
      (Sum.inl <$> Standard.one.adapter.execute (.put Standard.one.request)) _).1) = _
    rw [Program.run_map, S3ObjectAdapter.execute, Program.run_map, hput]
    rfl
  · apply references_measured Standard.provider (measured_empty _ _ _)
    intro caller hcaller
    simp only [List.mem_cons, List.not_mem_nil, or_false] at hcaller
    obtain rfl | rfl := hcaller
    · exact ⟨rfl, Standard.one_first.hashes⟩
    · trivial

end Callers

end MeridianS3
