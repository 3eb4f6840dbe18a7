import MeridianS3.Multipart.Theorems
import MeridianS3.Transport

namespace MeridianS3

open Effect ObjectStore Json

section Normalized

variable {α γ σ : Type} {handler : Handler S3 Failure σ} {rules : Protocol S3 Failure σ γ}

def normalizedResult (operation : String) (retentionSensitive : Bool) :
    Except Failure α → Except Failure α
  | .ok value => .ok value
  | .error failure => .error (raiseNormalizedS3Error failure operation retentionSensitive)

theorem normalized_eq (operation : String) (retentionSensitive : Bool) (program : S3M α) :
    normalized operation retentionSensitive program =
      program.andThen fun result =>
        .done (normalizedResult operation retentionSensitive result) := by
  unfold normalized
  rw [Program.tryCatch_eq]
  congr 1
  funext result
  cases result <;> rfl

theorem normalized_rule {operation : String} {retentionSensitive : Bool} {program : S3M α}
    {ghost : γ} {state : σ} {post : Except Failure α → γ → σ → Prop}
    (h : Verified handler rules program ghost state fun result owned after =>
      post (normalizedResult operation retentionSensitive result) owned after) :
    Verified handler rules (normalized operation retentionSensitive program) ghost state post := by
  rw [normalized_eq]
  exact h.andThen fun _ _ _ hpost => hpost

@[simp] theorem run_normalized (operation : String) (retentionSensitive : Bool)
    (program : S3M α) (state : σ) :
    (normalized operation retentionSensitive program).run handler state =
      (normalizedResult operation retentionSensitive (program.run handler state).1,
        (program.run handler state).2) := by
  rw [normalized_eq, Program.run_andThen]
  rfl

theorem normalized_within {kind : S3Call → Prop} {operation : String} {retentionSensitive : Bool}
    {program : S3M α} (h : program.Within kind) :
    (normalized operation retentionSensitive program).Within kind :=
  Program.Within.recover h fun _ => trivial

theorem normalized_surfaces {raised : Failure → Prop} (hlasting : Failure.Lasting raised)
    {operation : String} {retentionSensitive : Bool} {program : S3M α}
    (h : program.Surfaces raised) :
    (normalized operation retentionSensitive program).Surfaces raised :=
  Program.Surfaces.recover h (fun _ => trivial) fun failure hraised =>
    ⟨_, hlasting failure hraised operation retentionSensitive, rfl⟩

end Normalized

namespace S3Transport

variable (transport : S3Transport) (provider : Provider)

theorem decodeJson_take (raw : Bytes) :
    transport.decodeJson (raw.take (MAX_INTERNAL_JSON_BYTES + 1)) = transport.decodeJson raw := by
  by_cases h : MAX_INTERNAL_JSON_BYTES < raw.length
  · have htake : MAX_INTERNAL_JSON_BYTES < (raw.take (MAX_INTERNAL_JSON_BYTES + 1)).length := by
      rw [List.length_take]
      omega
    simp only [decodeJson, h, htake, if_true]
  · rw [List.take_of_length_le (by omega)]

def missingDocument : Failure := raiseNormalizedS3Error (.client "NoSuchKey" "404") "get"

@[simp] theorem missingDocument_is : missingDocument.is .objectNotFound = true := by
  apply notFound_is <;> simp [NOT_FOUND, AUTHENTICATION]

-- What readJson finds under a key.
def document (bucket : Bucket) (key : String) : Except Failure Value :=
  match bucket.current key with
  | none => .error missingDocument
  | some object => transport.decodeJson object.body

-- readJson is one call and what is made of its reply.
def decodeReply (reply : Except Failure (List Bytes)) : Except Failure Value :=
  (normalizedResult "get" false reply).bind fun body =>
    transport.decodeJson (body.flatten.take (MAX_INTERNAL_JSON_BYTES + 1))

theorem readJson_eq (key : String) :
    transport.readJson key =
      (Program.perform (S := S3) (.getObject key none none)).andThen fun reply =>
        .done (transport.decodeReply reply) := by
  have hbody : getBody key .null none =
      (Program.perform (S := S3) (.getObject key none none)).andThen fun reply =>
        .done (normalizedResult "get" false reply) := normalized_eq ..
  rw [readJson, hbody, Program.bind_eq, Program.andThen_assoc]
  congr 1
  funext reply
  cases reply <;> rfl

theorem decodeReply_handle (bucket : Bucket) (key : String) :
    transport.decodeReply (provider.handle (.getObject key none none) bucket).1 =
      transport.document bucket key := by
  simp only [Provider.handle, document]
  cases hcurrent : bucket.current key with
  | none =>
      rw [provider.lookup_missing hcurrent]
      rfl
  | some object =>
      obtain ⟨id, -, hlookup⟩ := provider.lookup_current "NoSuchKey" hcurrent
      rw [hlookup]
      change transport.decodeJson
        ((provider.deliver object.body).flatten.take (MAX_INTERNAL_JSON_BYTES + 1)) = _
      rw [provider.deliver_flatten, decodeJson_take]

@[simp] theorem run_readJson (key : String) (bucket : Bucket) :
    (transport.readJson key).run provider.handle bucket =
      (transport.document bucket key, bucket) := by
  rw [readJson_eq, Program.run_andThen, Program.run_perform, Program.run_done,
    decodeReply_handle]
  rfl

theorem readJson_within {keys listings : String → Prop} {key : String} (h : keys key) :
    (transport.readJson key).Within (S3Call.reads keys listings) := by
  rw [readJson_eq]
  exact Program.Within.andThen (.perform h) fun _ => trivial

theorem readJson_surfaces {raised : Failure → Prop} (hlasting : Failure.Lasting raised)
    (key : String) :
    (transport.readJson key).Surfaces raised := by
  rw [readJson_eq]
  exact Program.Surfaces.andThen .perform (fun _ => trivial) fun failure hraised =>
    ⟨_, hlasting failure hraised "get" false, rfl⟩

@[simp] theorem versionArgument_ofOption (versionId : Option String) :
    versionArgument (.ofOption versionId) = .ok versionId := by
  cases versionId <;> rfl

theorem head_eq (key : String) (versionId : Option String) :
    head key (.ofOption versionId) =
      (Program.perform (S := S3) (.headObject key versionId)).andThen fun reply =>
        .done ((normalizedResult "stat" false reply).map fun value =>
          ⟨value.contentLength, value.contentType, value.metadata, value.versionId⟩) := by
  have hcall : (do
      let version ← Program.lift (versionArgument (.ofOption versionId))
      Program.perform (S := S3) (.headObject key version) : S3M HeadReply) =
      Program.perform (S := S3) (.headObject key versionId) := by
    rw [versionArgument_ofOption]
    rfl
  rw [head, hcall, normalized_eq, Program.bind_eq, Program.andThen_assoc]
  congr 1
  funext reply
  cases reply <;> rfl

theorem head_null (key : String) : head key .null = head key (.ofOption none) := rfl

theorem head_within (key : String) (versionId : Value) :
    (head key versionId).Within S3Call.observes := by
  apply Program.Within.bind
  · apply normalized_within
    apply Program.Within.bind (.ofLift _)
    exact fun _ => .perform trivial
  · exact fun _ => trivial

theorem head_surfaces {raised : Failure → Prop} (hlasting : Failure.Lasting raised)
    (key : String) (versionId : Option String) :
    (head key (.ofOption versionId)).Surfaces raised := by
  rw [head_eq]
  exact Program.Surfaces.andThen .perform (fun _ => trivial) fun failure hraised =>
    ⟨_, hlasting failure hraised "stat" false, rfl⟩

theorem putJson_surfaces {raised : Failure → Prop} (hlasting : Failure.Lasting raised)
    (key : String) (value : Value) (createOnly : Bool) (retention : Option RetentionRecord) :
    (transport.putJson key value createOnly retention).Surfaces raised := by
  apply Program.Surfaces.bind (.ofLift _)
  intro arguments
  exact Program.Surfaces.bind (normalized_surfaces hlasting .perform) fun _ => trivial

theorem delete_surfaces {raised : Failure → Prop} (hlasting : Failure.Lasting raised)
    (key : String) (versionId : Value) (retentionSensitive : Bool) :
    (delete key versionId retentionSensitive).Surfaces raised := by
  apply normalized_surfaces hlasting
  exact Program.Surfaces.bind (.ofLift _) fun _ => .perform

theorem run_head_current {bucket : Bucket} {key : String} {id : Nat} {object : StoredBody}
    (h : bucket.head key = some ⟨id, some object⟩) :
    (head key .null).run provider.handle bucket =
      (.ok ⟨object.body.length, object.header.contentType, object.header.metadata,
        provider.reportedVersion bucket id⟩, bucket) := by
  have hlookup : provider.lookup bucket key none "404" = .ok (id, object) := by
    simp [Provider.lookup, h]
  have hreply : (provider.handle (.headObject key none) bucket).1 =
      .ok ⟨object.body.length, object.header.contentType, object.header.metadata,
        provider.reportedVersion bucket id⟩ := by
    simp only [Provider.handle, hlookup]
  rw [head_null, head_eq, Program.run_andThen, Program.run_perform, Program.run_done, hreply]
  rfl

theorem run_head_fetch {bucket : Bucket} {key : String} {versionId : Option String}
    {object : StoredBody} (h : provider.fetch bucket key versionId = some object) :
    ∃ version, (head key (.ofOption versionId)).run provider.handle bucket =
      (.ok ⟨object.body.length, object.header.contentType, object.header.metadata, version⟩,
        bucket) := by
  obtain ⟨id, hlookup⟩ := provider.lookup_of_fetch "404" h
  refine ⟨provider.reportedVersion bucket id, ?_⟩
  have hreply : (provider.handle (.headObject key versionId) bucket).1 =
      .ok ⟨object.body.length, object.header.contentType, object.header.metadata,
        provider.reportedVersion bucket id⟩ := by
    simp only [Provider.handle, hlookup]
  rw [head_eq, Program.run_andThen, Program.run_perform, Program.run_done, hreply]
  rfl

theorem readBack_eq (chunks : List Bytes) (hashed : Bytes) (observed : Nat) (h : [] ∉ chunks) :
    readBack chunks hashed observed =
      (hashed ++ chunks.flatten, observed + chunks.flatten.length) := by
  induction chunks generalizing hashed observed with
  | nil => simp [readBack]
  | cons chunk rest ih =>
      have hchunk : chunk ≠ [] := fun he => h (by simp [he])
      have hrest : [] ∉ rest := fun hm => h (by simp [hm])
      rw [readBack, if_neg hchunk, ih _ _ hrest]
      simp [Nat.add_assoc]

-- What the verification makes of the body that it has read back.
def checkBody (digest : String) (length : Nat) (body : List Bytes) : Except Failure Unit :=
  if (readBack body [] 0).2 ≠ length then
    .error (.meridian .incompleteUpload
      (some "S3 stored length did not match the verified upload"))
  else if transport.common.digest (readBack body [] 0).1 ≠ digest then
    .error (.meridian .digestMismatch
      (some "S3 stored digest did not match the verified upload"))
  else .ok ()

theorem verifyDigest_eq (key digest : String) (length : Nat) (versionId : Option String) :
    transport.verifyDigest key digest length versionId =
      (Program.perform (S := S3) (.getObject key versionId none)).andThen fun reply =>
        .done ((normalizedResult "get" false reply).bind (transport.checkBody digest length)) := by
  have hbody : getBody key (.ofOption versionId) none =
      (Program.perform (S := S3) (.getObject key versionId none)).andThen fun reply =>
        .done (normalizedResult "get" false reply) := by
    rw [getBody, versionArgument_ofOption]
    exact normalized_eq ..
  rw [verifyDigest, hbody, Program.bind_eq, Program.andThen_assoc]
  congr 1
  funext reply
  cases reply with
  | error failure => rfl
  | ok body =>
      simp only [normalizedResult, Program.andThen, Program.onOk, Except.bind, checkBody]
      split
      · rfl
      · split <;> rfl

theorem verifyDigest_within {keys listings : String → Prop} {key : String} (h : keys key)
    (digest : String) (length : Nat) (versionId : Option String) :
    (transport.verifyDigest key digest length versionId).Within
      (S3Call.reads keys listings) := by
  rw [verifyDigest_eq]
  exact Program.Within.andThen (.perform h) fun _ => trivial

theorem verifyDigest_surfaces {raised : Failure → Prop} (hlasting : Failure.Lasting raised)
    (key digest : String) (length : Nat) (versionId : Option String) :
    (transport.verifyDigest key digest length versionId).Surfaces raised := by
  rw [verifyDigest_eq]
  exact Program.Surfaces.andThen .perform (fun _ => trivial) fun failure hraised =>
    ⟨_, hlasting failure hraised "get" false, rfl⟩

theorem run_verifyDigest {bucket : Bucket} {key : String} {versionId : Option String}
    {object : StoredBody} (h : provider.fetch bucket key versionId = some object) :
    (transport.verifyDigest key (transport.common.digest object.body) object.body.length
      versionId).run provider.handle bucket = (.ok (), bucket) := by
  obtain ⟨id, hlookup⟩ := provider.lookup_of_fetch "NoSuchKey" h
  have hread := readBack_eq (provider.deliver object.body) [] 0 (provider.deliver_ne _)
  rw [provider.deliver_flatten, List.nil_append, Nat.zero_add] at hread
  have hreply : (provider.handle (.getObject key versionId none) bucket).1 =
      .ok (provider.deliver object.body) := by
    simp only [Provider.handle, hlookup]
  have hcheck : transport.checkBody (transport.common.digest object.body) object.body.length
      (provider.deliver object.body) = .ok () := by
    simp [checkBody, hread]
  rw [verifyDigest_eq, Program.run_andThen, Program.run_perform, Program.run_done, hreply]
  exact Prod.ext hcheck rfl

theorem listKeys_within {keys listings : String → Prop} {keyPrefix : String}
    (h : listings keyPrefix) (maxKeys : Nat) (startAfter : Option String) :
    (listKeys keyPrefix maxKeys startAfter).Within (S3Call.reads keys listings) :=
  Program.Within.bind (normalized_within (.perform h)) fun _ => trivial

theorem listKeys_surfaces {raised : Failure → Prop} (hlasting : Failure.Lasting raised)
    (keyPrefix : String) (maxKeys : Nat) (startAfter : Option String) :
    (listKeys keyPrefix maxKeys startAfter).Surfaces raised :=
  Program.Surfaces.bind (normalized_surfaces hlasting .perform) fun _ => trivial

@[simp] theorem run_listKeys (keyPrefix : String) (maxKeys : Nat) (startAfter : Option String)
    (bucket : Bucket) :
    (listKeys keyPrefix maxKeys startAfter).run provider.handle bucket =
      (.ok ⟨(bucket.list (fun key => keyPrefix.toList.isPrefixOf key.toList) (min maxKeys 1000)
          startAfter).keys,
        (bucket.list (fun key => keyPrefix.toList.isPrefixOf key.toList) (min maxKeys 1000)
          startAfter).truncated⟩, bucket) := rfl

section Rules

variable {transport provider}
variable {discipline : Discipline S3 Failure String ObjectHeader UInt8}
variable {owned : Set Nat} {state : Bucket} {key : String}

theorem readJson_rule {post : Except Failure Value → Set Nat → Bucket → Prop}
    (h : ∀ before, discipline.others state before → discipline.invariant before →
      post (transport.document before key) owned before ∧
      ∀ fault, discipline.faults (.getObject key none none) fault →
        post (.error (raiseNormalizedS3Error fault.error "get")) owned before) :
    Verified provider.handle discipline.protocol (transport.readJson key) owned state post := by
  rw [readJson_eq]
  apply Verified.mapResult
  apply Discipline.read
  · exact fun _ => rfl
  · intro before hothers hinv
    rw [decodeReply_handle]
    exact h before hothers hinv

theorem handle_jsonCall_blocked {value : Value} {createOnly : Bool}
    {retention : Option RetentionRecord} {arguments : WriteArguments} {bucket : Bucket}
    (h : createOnly = true ∧ (bucket.current key).isSome = true) :
    provider.handle (transport.jsonCall key value createOnly retention arguments) bucket =
      (.error (.client "PreconditionFailed" "412"), bucket) :=
  provider.handle_put_blocked h.1 h.2

theorem handle_jsonCall_written {value : Value} {createOnly : Bool}
    {retention : Option RetentionRecord} {arguments : WriteArguments} {bucket : Bucket}
    (h : ¬(createOnly = true ∧ (bucket.current key).isSome = true)) :
    provider.handle (transport.jsonCall key value createOnly retention arguments) bucket =
      (.ok ⟨provider.reportedVersion bucket bucket.issued,
          some (provider.etag (transport.jsonObject value arguments).body)⟩,
        bucket.put key (transport.jsonObject value arguments)) :=
  provider.handle_put_written h

def refusedWrite : Failure :=
  raiseNormalizedS3Error (.client "PreconditionFailed" "412") "metadata.put"

@[simp] theorem refusedWrite_is : refusedWrite.is .conditionalConflict = true :=
  preconditionFailed_is ..

-- A document is written unless the write is conditional and the key is taken.
theorem putJson_rule {value : Value} {createOnly : Bool} {retention : Option RetentionRecord}
    {post : Except Failure StoredObject → Set Nat → Bucket → Prop}
    (harguments : ∀ failure, transport.writeArguments retention = .error failure →
      post (.error failure) owned state)
    (hblocked : ∀ arguments before, discipline.others state before → discipline.invariant before →
      transport.writeArguments retention = .ok arguments →
      createOnly = true ∧ (before.current key).isSome = true →
        post (.error refusedWrite) owned before ∧
        ∀ fault,
          discipline.faults (transport.jsonCall key value createOnly retention arguments) fault →
            post (.error (raiseNormalizedS3Error fault.error "metadata.put")) owned before)
    (hwritten : ∀ arguments before after, discipline.others state before →
      discipline.invariant before → transport.writeArguments retention = .ok arguments →
      ¬(createOnly = true ∧ (before.current key).isSome = true) →
      after = before.put key (transport.jsonObject value arguments) →
        discipline.invariant after ∧ discipline.own before after ∧
        (∀ stored, post (.ok stored) owned after) ∧
        ∀ fault,
          discipline.faults (transport.jsonCall key value createOnly retention arguments) fault →
            post (.error (raiseNormalizedS3Error fault.error "metadata.put")) owned
              (if fault.effect then after else before)) :
    Verified provider.handle discipline.protocol
      (transport.putJson key value createOnly retention) owned state post := by
  unfold putJson
  apply Verified.seq
  apply Verified.lift
  cases hargs : transport.writeArguments retention with
  | error failure => exact harguments failure hargs
  | ok arguments =>
      apply Verified.seq
      apply normalized_rule
      apply Discipline.write
      · exact fun before => provider.handle_put_opened before _
      · exact fun before => provider.handle_put_sessions before _
      · intro before hothers hinv
        by_cases hb : createOnly = true ∧ (before.current key).isSome = true
        · rw [handle_jsonCall_blocked hb]
          obtain ⟨hconflict, hfault⟩ := hblocked arguments before hothers hinv hargs hb
          refine ⟨hinv, discipline.own_same _ _ (.refl before), Verified.done hconflict, ?_⟩
          intro fault hf
          have hpost := hfault fault hf
          split <;> exact Verified.done hpost
        · rw [handle_jsonCall_written hb]
          obtain ⟨hafter, hown, hok, hfault⟩ :=
            hwritten arguments before _ hothers hinv hargs hb rfl
          refine ⟨hafter, hown, Verified.done (hok _), ?_⟩
          intro fault hf
          have hpost := hfault fault hf
          split
          · rename_i heffect
            rw [if_pos heffect] at hpost
            exact Verified.done hpost
          · rename_i heffect
            rw [if_neg heffect] at hpost
            exact Verified.done hpost

-- What is made of the reply to a look at an object's head.
def headReply (reply : Except Failure HeadReply) : Except Failure HeadObject :=
  (normalizedResult "stat" false reply).map fun value =>
    ⟨value.contentLength, value.contentType, value.metadata, value.versionId⟩

theorem head_rule {versionId : Option String}
    {post : Except Failure HeadObject → Set Nat → Bucket → Prop}
    (h : ∀ before, discipline.others state before → discipline.invariant before →
      post (headReply (provider.handle (.headObject key versionId) before).1) owned before ∧
      ∀ fault, discipline.faults (.headObject key versionId) fault →
        post (.error (raiseNormalizedS3Error fault.error "stat")) owned before) :
    Verified provider.handle discipline.protocol (head key (.ofOption versionId)) owned state
      post := by
  rw [head_eq]
  apply Verified.mapResult
  apply Discipline.read
  · exact fun _ => rfl
  · exact h

theorem headReply_current {bucket : Bucket} {id : Nat} {object : StoredBody}
    (h : bucket.head key = some ⟨id, some object⟩) :
    headReply (provider.handle (.headObject key none) bucket).1 =
      .ok ⟨object.body.length, object.header.contentType, object.header.metadata,
        provider.reportedVersion bucket id⟩ := by
  have hlookup : provider.lookup bucket key none "404" = .ok (id, object) := by
    simp [Provider.lookup, h]
  simp only [Provider.handle, hlookup]
  rfl

theorem delete_rule {versionId : Value} {retentionSensitive : Bool}
    {post : Except Failure Unit → Set Nat → Bucket → Prop}
    (hargument : ∀ failure, versionArgument versionId = .error failure →
      post (.error (raiseNormalizedS3Error failure "delete" retentionSensitive)) owned state)
    (h : ∀ version before, discipline.others state before → discipline.invariant before →
      versionArgument versionId = .ok version →
        discipline.invariant (provider.handle (.deleteObject key version) before).2 ∧
        discipline.own before (provider.handle (.deleteObject key version) before).2 ∧
        post (normalizedResult "delete" retentionSensitive
          (provider.handle (.deleteObject key version) before).1) owned
          (provider.handle (.deleteObject key version) before).2 ∧
        ∀ fault, discipline.faults (.deleteObject key version) fault →
          post (.error (raiseNormalizedS3Error fault.error "delete" retentionSensitive)) owned
            (if fault.effect then (provider.handle (.deleteObject key version) before).2
              else before)) :
    Verified provider.handle discipline.protocol
      (delete key versionId retentionSensitive) owned state post := by
  unfold delete
  apply normalized_rule
  apply Verified.seq
  apply Verified.lift
  cases hversion : versionArgument versionId with
  | error failure => exact hargument failure hversion
  | ok version =>
      apply Discipline.write
      · exact fun before => provider.handle_delete_opened before key version
      · exact fun before => provider.handle_delete_sessions before key version
      · intro before hothers hinv
        obtain ⟨hafter, hown, hok, hfault⟩ := h version before hothers hinv hversion
        refine ⟨hafter, hown, hok, ?_⟩
        intro fault hf
        have hpost := hfault fault hf
        split
        · rename_i heffect
          rwa [if_pos heffect] at hpost
        · rename_i heffect
          rwa [if_neg heffect] at hpost

-- The calls that store a payload: one request, or those of a multipart transfer.
def storeCall (transport : S3Transport) (length : Nat) (single call : S3Call) : Prop :=
  if transport.config.multipartThresholdBytes ≤ length then call.multipart else call = single

-- A payload is stored under its key unless a single request finds the key taken.
theorem storeFile_rule {stream : Bytes} {digest : String} {header : ObjectHeader}
    {retention : Option RetentionRecord} {createOnly : Bool}
    {post : Except Failure StoredObject → Set Nat → Bucket → Prop}
    (hunfit : transport.config.multipartThresholdBytes ≤ stream.length →
      ¬(transport.uploadTarget key stream.length (transport.useChecksum retention)).Fits stream →
      ∀ failure held after, discipline.others state after → post (.error failure) held after)
    (hrefused : stream.length < transport.config.multipartThresholdBytes →
      ∀ before, discipline.others state before → discipline.invariant before →
      createOnly = true ∧ (before.current key).isSome = true →
      ∀ failure, post (.error failure) owned before)
    (hfault : ∀ call fault failure held after,
      transport.storeCall stream.length
        (transport.fileCall key stream stream.length digest header retention createOnly) call →
      discipline.faults call fault → discipline.others state after →
      (transport.config.multipartThresholdBytes ≤ stream.length ∨ fault.effect = false) →
      post (.error failure) held after)
    (hcommit : ∀ held before after, discipline.others state before →
      discipline.invariant before →
      (transport.config.multipartThresholdBytes ≤ stream.length →
        (transport.uploadTarget key stream.length (transport.useChecksum retention)).Fits stream) →
      (stream.length < transport.config.multipartThresholdBytes →
        ¬(createOnly = true ∧ (before.current key).isSome = true)) →
      SameObjects (before.put key ⟨header, stream⟩) after →
      discipline.invariant after ∧ discipline.own before after ∧
      (∀ stored : StoredObject,
        stored.versionId = provider.reportedVersion before before.issued →
        post (.ok stored) held after) ∧
      ∀ call fault failure final,
        transport.storeCall stream.length
          (transport.fileCall key stream stream.length digest header retention createOnly) call →
        discipline.faults call fault → fault.effect = true → discipline.others after final →
        post (.error failure) held final) :
    Verified provider.handle discipline.protocol
      (transport.storeFile key stream stream.length digest header retention createOnly) owned state
      post := by
  unfold storeFile
  by_cases hthreshold : transport.config.multipartThresholdBytes ≤ stream.length
  · have hcall (call : S3Call) (h : call.multipart) : transport.storeCall stream.length
        (transport.fileCall key stream stream.length digest header retention createOnly) call := by
      rw [storeCall, if_pos hthreshold]
      exact h
    rw [if_pos hthreshold]
    apply Verified.seq
    apply UploadTarget.uploadMultipart_rule rfl
    · intro hfits failure held after hothers
      exact Verified.done (hunfit hthreshold hfits failure held after hothers)
    · intro call fault failure held after hmulti hf hothers
      exact Verified.done (hfault call fault failure held after (hcall call hmulti) hf hothers
        (Or.inl hthreshold))
    · intro held upload before after hothers hinv hfits he
      have hsame : SameObjects (before.put key ⟨header, stream⟩) after := by
        rw [he]
        exact (SameObjects.closeSession before upload).put key ⟨header, stream⟩
      obtain ⟨hafter, hown, hok, hfailed⟩ := hcommit held before after hothers hinv
        (fun _ => hfits) (fun hlt => absurd hthreshold (by omega)) hsame
      refine ⟨hafter, hown, fun evidence hversion => Verified.done (hok _ hversion), ?_⟩
      intro call fault failure final hmulti hf heffect hfinal
      exact Verified.done (hfailed call fault failure final (hcall call hmulti) hf heffect hfinal)
  · have hlt : stream.length < transport.config.multipartThresholdBytes := by omega
    have hcall : transport.storeCall stream.length
        (transport.fileCall key stream stream.length digest header retention createOnly)
        (transport.fileCall key stream stream.length digest header retention createOnly) := by
      rw [storeCall, if_neg hthreshold]
    rw [if_neg hthreshold]
    apply Verified.seq
    apply Discipline.write
    · exact fun before => provider.handle_put_opened before _
    · exact fun before => provider.handle_put_sessions before _
    · intro before hothers hinv
      by_cases hb : createOnly = true ∧ (before.current key).isSome = true
      · have hhandle : provider.handle
            (transport.fileCall key stream stream.length digest header retention createOnly)
            before = (.error (.client "PreconditionFailed" "412"), before) :=
          provider.handle_put_blocked hb.1 hb.2
        rw [hhandle]
        refine ⟨hinv, discipline.own_same _ _ (.refl before),
          Verified.done (hrefused hlt before hothers hinv hb _), ?_⟩
        intro fault hf
        split <;> exact Verified.done (hrefused hlt before hothers hinv hb _)
      · have hhandle : provider.handle
            (transport.fileCall key stream stream.length digest header retention createOnly)
            before = (.ok ⟨provider.reportedVersion before before.issued,
              some (provider.etag stream)⟩, before.put key ⟨header, stream⟩) :=
          provider.handle_put_written hb
        obtain ⟨hafter, hown, hok, hfailed⟩ := hcommit owned before _ hothers hinv
          (fun hle => absurd hle hthreshold) (fun _ => hb) (.refl _)
        rw [hhandle]
        refine ⟨hafter, hown, Verified.done (hok ⟨_, _, _⟩ rfl), ?_⟩
        intro fault hf
        split
        · rename_i heffect
          exact Verified.done (hfailed _ fault _ _ hcall hf heffect
            (discipline.others_same _ _ (.refl _)))
        · rename_i heffect
          exact Verified.done (hfault _ fault _ owned before hcall hf hothers
            (Or.inr (by simpa using heffect)))

end Rules

end S3Transport

end MeridianS3
