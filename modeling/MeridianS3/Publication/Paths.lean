import MeridianS3.Deposit.Theorems
import MeridianS3.Effect.Confined

namespace MeridianS3

open Effect Json

namespace S3Transport

variable (transport : S3Transport)

theorem putJson_within (key : String) (value : Value) (createOnly : Bool)
    (retention : Option RetentionRecord) :
    (transport.putJson key value createOnly retention).Within (S3Call.puts key) := by
  unfold putJson
  apply Program.Within.bind (.ofLift _)
  intro arguments
  apply Program.Within.bind
  · apply normalized_within
    exact Program.Within.perform ⟨_, _, _, _, _, rfl⟩
  · intro response
    trivial

end S3Transport

namespace S3ObjectAdapter

variable {adapter : S3ObjectAdapter} {request : PutRequest} {intent : PutIntent}
variable {events : List (Event S3 Failure)}

theorem putIntent_paths (path : (adapter.putIntent request).Path events (.ok intent)) :
    ∃ profile, adapter.intentFrom profile request = .ok intent := by
  have herror (failure : Failure) (intent : PutIntent)
      (h : (.error failure : Except Failure PutIntent) = .ok intent) :
      ∃ profile, adapter.intentFrom profile request = .ok intent := by
    cases h
  have hconfined : (adapter.putIntent request).Confined (fun _ => True) (fun _ _ => True)
      fun result => ∀ intent, result = .ok intent →
        ∃ profile, adapter.intentFrom profile request = .ok intent := by
    unfold putIntent
    apply (Program.Confined.any _).bind _ fun failure _ => herror failure
    intro profile _
    apply Program.Confined.lift_bind _ fun failure _ => herror failure
    intro mutability hmutability
    apply Program.Confined.lift_bind _ fun failure _ => herror failure
    intro wanted hwanted
    apply Program.Confined.lift_bind _ fun failure _ => herror failure
    intro retention hretention
    apply Program.Confined.lift_bind _ fun failure _ => herror failure
    intro creationContext hcontext
    apply Program.Confined.lift_bind _ fun failure _ => herror failure
    intro provenance hprovenance
    apply (Program.Confined.any _).bind _ fun failure _ => herror failure
    intro existing _
    split
    · exact herror _
    · apply Program.Confined.lift_bind _ fun failure _ => herror failure
      intro raw hraw
      apply Program.Confined.lift_bind _ fun failure _ => herror failure
      intro payload hpayload intent hintent
      refine ⟨profile, ?_⟩
      obtain rfl := Except.ok.inj hintent
      simp only [intentFrom, hmutability, hwanted, hretention, hcontext, hprovenance, hraw,
        hpayload, bind, Except.bind]
      rfl
  exact (hconfined.path path fun _ _ => trivial).2 intent rfl

-- What the except clause makes of a result.
def flagged {α : Type} (flag : Bool) (result : Except Failure α) : Except Failure α :=
  result.mapError fun failure => { failure with physicalCommitPossible := some flag }

theorem failing_path {α : Type} {flag : Bool} {program : S3M α} {result : Except Failure α}
    (path : (failing flag program).Path events result) :
    ∃ inner, program.Path events inner ∧ result = flagged flag inner := by
  obtain ⟨value, hvalue, rfl⟩ | ⟨first, rest, failure, rfl, hfirst, hrest⟩ :=
    Program.path_tryCatch.mp path
  · exact ⟨.ok value, hvalue, rfl⟩
  · obtain ⟨rfl, rfl⟩ := Program.path_throw.mp hrest
    rw [List.append_nil]
    exact ⟨.error failure, hfirst, rfl⟩

-- How far a put comes.
inductive PutPath (adapter : S3ObjectAdapter) (request : PutRequest) :
    List (Event S3 Failure) → Except Failure ObjectMetadata → Prop where
  | unopened {events : List (Event S3 Failure)} {failure : Failure}
      (hintent : (adapter.putIntent request).Path events (.error failure)) :
      PutPath adapter request events (.error failure)
  | failed {looked called : List (Event S3 Failure)} {intent : PutIntent} {failure : Failure}
      (hintent : (adapter.putIntent request).Path looked (.ok intent))
      (hupload : (adapter.putUpload request intent).Path called (.error failure)) :
      PutPath adapter request (looked ++ called) (flagged false (.error failure))
  | idempotent {looked called : List (Event S3 Failure)} {intent : PutIntent}
      {metadata : ObjectMetadata}
      (hintent : (adapter.putIntent request).Path looked (.ok intent))
      (hupload : (adapter.putUpload request intent).Path called (.ok (.idempotent metadata))) :
      PutPath adapter request (looked ++ called) (.ok metadata)
  | uploaded {looked called after : List (Event S3 Failure)} {intent : PutIntent}
      {identity : PayloadIdentity} {chunks : List String} {stored : StoredObject}
      {result : Except Failure ObjectMetadata}
      (hintent : (adapter.putIntent request).Path looked (.ok intent))
      (hupload : (adapter.putUpload request intent).Path called
        (.ok (.uploaded identity chunks stored)))
      (hpublish : (adapter.publish request intent identity chunks stored).Path after result) :
      PutPath adapter request (looked ++ (called ++ after)) (flagged true result)

theorem put_paths {result : Except Failure ObjectMetadata}
    (path : (adapter.put request).Path events result) : adapter.PutPath request events result := by
  obtain ⟨failure, hintent, rfl⟩ | ⟨looked, later, intent, rfl, hintent, hlater⟩ :=
    Program.path_bind.mp path
  · exact .unopened hintent
  · obtain ⟨failure, hfailing, rfl⟩ | ⟨called, after, progress, rfl, hfailing, hafter⟩ :=
      Program.path_bind.mp hlater
    · obtain ⟨inner, hupload, hflagged⟩ := failing_path hfailing
      cases inner with
      | ok progress => cases hflagged
      | error raised =>
        obtain rfl := Except.error.inj hflagged
        exact .failed hintent hupload
    · obtain ⟨inner, hupload, hflagged⟩ := failing_path hfailing
      cases inner with
      | error raised => cases hflagged
      | ok found =>
        obtain rfl := Except.ok.inj hflagged
        cases progress with
        | idempotent metadata =>
          obtain ⟨rfl, rfl⟩ := Program.path_pure.mp hafter
          rw [List.append_nil]
          exact .idempotent hintent hupload
        | uploaded identity chunks stored =>
          obtain ⟨ended, hpublish, rfl⟩ := failing_path hafter
          exact .uploaded hintent hupload hpublish

-- Up to its transfer a put only reads.
inductive UploadPath (adapter : S3ObjectAdapter) (request : PutRequest) (intent : PutIntent) :
    List (Event S3 Failure) → Except Failure PutProgress → Prop where
  | refused {events : List (Event S3 Failure)} (failure : Failure)
      (hreads : ∀ event ∈ events, event.1.reads (adapter.notBlob request) fun _ => False) :
      UploadPath adapter request intent events (.error failure)
  | idempotent {events : List (Event S3 Failure)} {latest : StoredEnvelope} {digest : String}
      (metadata : ObjectMetadata)
      (hreads : ∀ event ∈ events, event.1.reads (adapter.notBlob request) fun _ => False)
      (hlatest : (adapter.tryLatest request.resource request.input.objectId).Path events
        (.ok (some latest)))
      (hcheck : checkExisting request intent digest (some latest) = .ok (some metadata)) :
      UploadPath adapter request intent events (.ok (.idempotent metadata))
  | transferred {looked sent : List (Event S3 Failure)} {writes : List Bytes}
      {outcome : Except Failure StoredObject}
      (hreads : ∀ event ∈ looked, event.1.reads (adapter.notBlob request) fun _ => False)
      (htransfer : request.transfer intent.payload = .ok writes)
      (hstore : (adapter.storeBlob request intent
        (adapter.common.identity (adapter.spooled writes).stream)
          (adapter.spooled writes).stream).Path sent outcome) :
      UploadPath adapter request intent (looked ++ sent)
        (outcome.map (PutProgress.uploaded (adapter.common.identity (adapter.spooled writes).stream)
          ((adapter.spooled writes).finish adapter.common)))

theorem putUpload_paths {result : Except Failure PutProgress}
    (path : (adapter.putUpload request intent).Path events result) :
    adapter.UploadPath request intent events result := by
  have hnothing : ∀ event ∈ ([] : List (Event S3 Failure)),
      event.1.reads (adapter.notBlob request) fun _ => False :=
    fun _ hmem => absurd hmem List.not_mem_nil
  have hreads : (adapter.tryLatest request.resource request.input.objectId).Within
      (S3Call.reads (adapter.notBlob request) fun _ => False) :=
    adapter.tryLatest_within _ _ (adapter.notBlob_object request)
  rw [putUpload_eq] at path
  obtain ⟨failure, hlift, rfl⟩ | ⟨none, rest, writes, rfl, hlift, hrest⟩ :=
    Program.path_bind.mp path
  · obtain ⟨rfl, -⟩ := Program.path_lift.mp hlift
    exact .refused failure hnothing
  · obtain ⟨rfl, htransfer⟩ := Program.path_lift.mp hlift
    rw [List.nil_append]
    change Program.Path (if adapter.config.maxObjectBytes <
      (adapter.spooled writes).stream.length then _ else _) _ _ at hrest
    by_cases hsize : adapter.config.maxObjectBytes < (adapter.spooled writes).stream.length
    · rw [if_pos hsize] at hrest
      obtain ⟨rfl, rfl⟩ := Program.path_throw.mp hrest
      exact .refused _ hnothing
    · rw [if_neg hsize] at hrest
      obtain ⟨failure, hlatest, rfl⟩ | ⟨looked, later, latest, rfl, hlatest, hlater⟩ :=
        Program.path_bind.mp hrest
      · exact .refused failure (hreads.path hlatest)
      · have hlooked := hreads.path hlatest
        obtain ⟨failure, hcheck, rfl⟩ | ⟨none, after, existing, rfl, hcheck, hafter⟩ :=
          Program.path_bind.mp hlater
        · obtain ⟨rfl, -⟩ := Program.path_lift.mp hcheck
          rw [List.append_nil]
          exact .refused failure hlooked
        · obtain ⟨rfl, hexisting⟩ := Program.path_lift.mp hcheck
          rw [List.nil_append]
          cases existing with
          | some metadata =>
            obtain ⟨rfl, rfl⟩ := Program.path_pure.mp hafter
            rw [List.append_nil]
            cases latest with
            | none => cases hexisting
            | some latest => exact .idempotent metadata hlooked hlatest hexisting.symm
          | none =>
            obtain ⟨failure, hstore, rfl⟩ | ⟨sent, ended, stored, rfl, hstore, hended⟩ :=
              Program.path_bind.mp hafter
            · exact .transferred hlooked htransfer.symm hstore
            · obtain ⟨rfl, rfl⟩ := Program.path_pure.mp hended
              rw [List.append_nil]
              exact .transferred hlooked htransfer.symm hstore

-- The calls that publish an upload are those of its three documents, and reads.
theorem publish_within {kind : S3Call → Prop} {identity : PayloadIdentity} {chunks : List String}
    {stored : StoredObject}
    (hreads : ∀ call, call.reads (adapter.notBlob request) (fun _ => False) → kind call)
    (hreference : ∀ key, adapter.layout.referenceKey request.resource request.input.objectId
        identity.digest = .ok key →
      (adapter.transport.putJson key ((adapter.newEnvelope request intent identity chunks
        stored.versionId).toDict adapter.common) true intent.retention).Within kind)
    (hlatest : (adapter.transport.putJson
      (adapter.layout.latestKey request.resource request.input.objectId)
      (latestValue identity.digest) (latestCreateOnly request intent)
      none).Within kind)
    (horphan : ∀ key value, adapter.layout.orphanKey request.resource request.input.objectId
        identity.digest = .ok key →
      (adapter.transport.putJson key value true none).Within kind) :
    (adapter.publish request intent identity chunks stored).Within kind := by
  have hrecord : (adapter.recordOrphan request.resource request.input.objectId
      identity.digest "latest-conflict" request.observedAt).Within kind := by
    apply Program.Within.lift_bind
    intro key hkey
    apply Program.Within.recover
    · exact Program.Within.bind (horphan key _ hkey) fun _ => trivial
    · intro failure
      split <;> trivial
  apply Program.Within.bind
  · apply Program.Within.lift_bind
    intro key hkey
    exact Program.Within.bind (hreference key hkey) fun _ => trivial
  · intro _
    apply Program.Within.bind
    · apply Program.Within.recover
      · exact Program.Within.bind hlatest fun _ => trivial
      · intro failure
        split
        · apply Program.Within.bind
          · exact (adapter.tryLatest_within _ _ (adapter.notBlob_object request)).mono hreads
          · intro winner
            split
            · exact Program.Within.bind hrecord fun _ => trivial
            · trivial
        · trivial
    · intro _
      trivial

-- The calls of a put outside of its transfer leave its object's blobs alone.
def apart (adapter : S3ObjectAdapter) (request : PutRequest) (call : S3Call) : Prop :=
  call.reads (adapter.notBlob request) (fun _ => False) ∨
    ∃ key, adapter.notBlob request key ∧ call.puts key

theorem notBlob_orphan {digest key : String}
    (h : adapter.layout.orphanKey request.resource request.input.objectId digest = .ok key) :
    adapter.notBlob request key := by
  obtain ⟨content, -, rfl⟩ := digestKey_ok h
  intro other hsame
  cases PhysicalKey.render_injective adapter.layout.root hsame

theorem publish_apart {identity : PayloadIdentity} {chunks : List String} {stored : StoredObject} :
    (adapter.publish request intent identity chunks stored).Within (adapter.apart request) := by
  have hput {key : String} (hkey : adapter.notBlob request key) (value : Value)
      (createOnly : Bool) (retention : Option RetentionRecord) :
      (adapter.transport.putJson key value createOnly retention).Within
        (adapter.apart request) := by
    apply (adapter.transport.putJson_within key value createOnly retention).mono
    exact fun call hputs => Or.inr ⟨key, hkey, hputs⟩
  apply publish_within
  · exact fun call hreads => Or.inl hreads
  · exact fun key hkey => hput (adapter.notBlob_object request key (Or.inr ⟨_, hkey⟩)) _ _ _
  · exact hput (adapter.notBlob_object request _ (Or.inl rfl)) _ _ _
  · exact fun key value hkey => hput (notBlob_orphan hkey) _ _ _

end S3ObjectAdapter

end MeridianS3
