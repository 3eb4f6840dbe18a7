import MeridianS3.Multipart
import MeridianS3.Provider.Theorems

namespace MeridianS3

open Effect ObjectStore

-- The calls of a multipart transfer.
def S3Call.multipart : S3Call → Prop
  | .createMultipartUpload .. | .uploadPart .. | .completeMultipartUpload ..
  | .abortMultipartUpload .. => True
  | _ => False

namespace Provider

variable (provider : Provider) {session : Session String ObjectHeader UInt8}

theorem partsBody_append (first second : List CompletedPart) :
    provider.partsBody session (first ++ second) =
      (provider.partsBody session first).bind fun body =>
        (provider.partsBody session second).map (body ++ ·) := by
  induction first with
  | nil => simp [partsBody]
  | cons part rest ih =>
      simp only [List.cons_append, partsBody]
      cases session.parts part.partNumber with
      | none => rfl
      | some body =>
          simp only
          split
          · rw [ih]
            cases provider.partsBody session rest with
            | none => rfl
            | some tail =>
                cases provider.partsBody session second <;> simp
          · rfl

-- A part sent later leaves the parts before it.
theorem partsBody_update {key : String} {header : ObjectHeader} {held : Nat → Option Bytes}
    (parts : List CompletedPart) (number : Nat) (body : Bytes)
    (h : ∀ part ∈ parts, part.partNumber < number) :
    provider.partsBody ⟨key, header, Function.update held number (some body)⟩ parts =
      provider.partsBody ⟨key, header, held⟩ parts := by
  induction parts with
  | nil => rfl
  | cons part rest ih =>
      have hne : part.partNumber ≠ number := by
        have hlt := h part (by simp)
        omega
      have hrest := ih fun other hm => h other (by simp [hm])
      simp only [partsBody, Function.update_of_ne hne, hrest]

end Provider

namespace UploadTarget

variable (target : UploadTarget) (provider : Provider) (header : ObjectHeader) (stream : Bytes)

-- The transfer of a stream of the declared length can come to its end.
structure Fits : Prop where
  parts : target.expectedParts ≤ S3_MAX_MULTIPART_PARTS
  partSize : 0 < target.partSize
  nonempty : 0 < stream.length

theorem expectedParts_covers (hlength : target.length = stream.length)
    (hsize : 0 < target.partSize) : stream.length ≤ target.expectedParts * target.partSize := by
  have hdiv := Nat.div_add_mod (target.length + target.partSize - 1) target.partSize
  have hmod := Nat.mod_lt (target.length + target.partSize - 1) hsize
  have hle : (target.length + target.partSize - 1) / target.partSize ≤ target.expectedParts :=
    Nat.le_max_right _ _
  have hmul := Nat.mul_le_mul_right target.partSize hle
  rw [Nat.mul_comm] at hdiv
  omega

theorem Fits.length_le {target : UploadTarget} {stream : Bytes} (h : target.Fits stream)
    (hlength : target.length = stream.length) :
    stream.length ≤ S3_MAX_MULTIPART_PARTS * target.partSize :=
  (target.expectedParts_covers stream hlength h.partSize).trans (Nat.mul_le_mul_right _ h.parts)

theorem expectedParts_le_iff (hsize : 0 < target.partSize) (limit : Nat) (hlimit : 1 ≤ limit) :
    target.expectedParts ≤ limit ↔ target.length ≤ limit * target.partSize := by
  have hdiv : (target.length + target.partSize - 1) / target.partSize ≤ limit ↔
      target.length + target.partSize - 1 < (limit + 1) * target.partSize := by
    rw [← Nat.lt_succ_iff, Nat.div_lt_iff_lt_mul hsize]
  rw [expectedParts, Nat.max_le, hdiv, Nat.add_mul]
  omega

-- Every part but the last is full, so no part before the last one is empty.
theorem expectedParts_tight (hlength : target.length = stream.length)
    (hsize : 0 < target.partSize) (hnonempty : 0 < stream.length) {number : Nat}
    (h : number < target.expectedParts) : number * target.partSize < stream.length := by
  have hparts : target.expectedParts = (target.length + target.partSize - 1) / target.partSize := by
    have hpos : 1 ≤ (target.length + target.partSize - 1) / target.partSize := by
      rw [Nat.le_div_iff_mul_le hsize]
      omega
    exact Nat.max_eq_right hpos
  have hle : (number + 1) * target.partSize ≤ target.length + target.partSize - 1 := by
    rw [← Nat.le_div_iff_mul_le hsize, ← hparts]
    exact h
  rw [Nat.add_mul] at hle
  omega

-- The session of an upload holds what the transfer has consumed so far.
structure Sending (upload number : Nat) (progress : PartsProgress) (bucket : Bucket) : Prop where
  session : ∃ parts, bucket.sessions upload = some ⟨target.key, header, parts⟩ ∧
    provider.partsBody ⟨target.key, header, parts⟩ progress.completed =
      some (stream.take progress.consumed)
  numbers : ∀ part ∈ progress.completed, part.partNumber < number
  rest : progress.stream = stream.drop progress.consumed
  consumed : progress.consumed = min ((number - 1) * target.partSize) stream.length

variable {target provider header stream}

theorem Sending.kept {owned : Set Nat} {upload number : Nat} {progress : PartsProgress}
    {before after : Bucket} (h : target.Sending provider header stream upload number progress before)
    (hkept : UploadsKept owned before after) (hmem : upload ∈ owned) :
    target.Sending provider header stream upload number progress after := by
  refine ⟨?_, h.numbers, h.rest, h.consumed⟩
  rw [hkept.kept upload hmem]
  exact h.session

section Calls

variable {uploadId : String} {upload : Nat} {bucket : Bucket}

theorem handle_uploadPart (hid : provider.uploadNumber uploadId = some upload)
    {parts : Nat → Option Bytes} (h : bucket.sessions upload = some ⟨target.key, header, parts⟩)
    (number : Nat) (body : Bytes) (checksum : Option String) :
    provider.handle (.uploadPart target.key uploadId number body checksum) bucket =
      (.ok ⟨some (provider.etag body), checksum⟩, bucket.addPart upload number body) := by
  simp [Provider.handle, hid, h]

theorem handle_complete (hid : provider.uploadNumber uploadId = some upload)
    {parts : Nat → Option Bytes} (h : bucket.sessions upload = some ⟨target.key, header, parts⟩)
    {completed : List CompletedPart} {body : Bytes}
    (hbody : provider.partsBody ⟨target.key, header, parts⟩ completed = some body) :
    provider.handle (.completeMultipartUpload target.key uploadId completed) bucket =
      (.ok (provider.reportedVersion bucket bucket.issued),
        (bucket.closeSession upload).put target.key ⟨header, body⟩) := by
  simp [Provider.handle, hid, h, hbody]

-- An abort closes the session of its own upload or does nothing.
theorem handle_abort (key : String) (bucket : Bucket)
    (hid : provider.uploadNumber uploadId = some upload) :
    (provider.handle (.abortMultipartUpload key uploadId) bucket).2 = bucket ∨
      (provider.handle (.abortMultipartUpload key uploadId) bucket).2 =
        bucket.closeSession upload := by
  simp only [Provider.handle, hid]
  split
  · exact Or.inl rfl
  · split
    · exact Or.inl rfl
    · exact Or.inr rfl

end Calls

section Rules

variable {discipline : Discipline S3 Failure String ObjectHeader UInt8}
variable {owned : Set Nat} {state : Bucket} {uploadId : String} {upload : Nat}

-- A step that moves one owned session and no object.
theorem session_step {before after : Bucket} (hmem : upload ∈ owned)
    (hsame : SameObjects before after) (hopened : after.opened = before.opened)
    (hsessions : ∀ other, other ≠ upload → after.sessions other = before.sessions other) :
    discipline.protocol.guarantee owned owned before after := by
  refine ⟨discipline.own_same _ _ hsame, hopened.ge, ?_, fun _ h => Or.inl h⟩
  intro other _ hother
  exact hsessions other fun he => hother (he ▸ hmem)

theorem sendPart_rule (hlength : target.length = stream.length) (hfits : target.Fits stream)
    (hid : provider.uploadNumber uploadId = some upload) (hmem : upload ∈ owned)
    {number : Nat} (hpos : 1 ≤ number) (hnumber : number ≤ target.expectedParts)
    {progress : PartsProgress}
    (h : target.Sending provider header stream upload number progress state)
    {post : Except Failure PartsProgress → Set Nat → Bucket → Prop}
    (hok : ∀ next after, discipline.others state after →
      target.Sending provider header stream upload (number + 1) next after →
      post (.ok next) owned after)
    (hfault : ∀ call fault failure after, call.multipart → discipline.faults call fault →
      discipline.others state after → post (.error failure) owned after) :
    Verified provider.handle discipline.protocol (target.sendPart uploadId number progress)
      owned state post := by
  have hlt : (number - 1) * target.partSize < stream.length :=
    target.expectedParts_tight stream hlength hfits.partSize hfits.nonempty (by omega)
  have hconsumed : progress.consumed = (number - 1) * target.partSize := by
    rw [h.consumed]
    omega
  have hmul : number * target.partSize = (number - 1) * target.partSize + target.partSize := by
    rw [← Nat.succ_mul]
    congr 1
    omega
  have hread : target.partRead progress = min target.partSize (stream.length - progress.consumed) := by
    rw [partRead, hlength]
  have hsize := hfits.partSize
  unfold sendPart
  generalize hdata : progress.stream.take (target.partRead progress) = data
  have hdatalen : data.length = target.partRead progress := by
    rw [← hdata, List.length_take, h.rest, List.length_drop]
    omega
  have hne : data ≠ [] := by
    intro he
    rw [he, List.length_nil] at hdatalen
    omega
  simp only [if_neg hne]
  apply Verified.seq
  intro before hrely hinv fault hfaults
  obtain ⟨parts, hsession, hbody⟩ := (h.kept hrely.2 hmem).session
  have hhandle : provider.handle (target.partCall uploadId number data) before =
      (.ok ⟨some (provider.etag data),
          if target.checksumHeaders then some (target.common.hexdigest data).text else none⟩,
        before.addPart upload number data) :=
    handle_uploadPart hid hsession number data _
  have hsame := SameObjects.addPart before upload number data
  have hafter := discipline.others_trans _ _ _ hrely.1 (discipline.others_same _ _ hsame)
  have hguar : discipline.protocol.guarantee owned owned before
      (before.addPart upload number data) :=
    session_step hmem hsame (Store.addPart_opened ..) fun _ hother =>
      Store.addPart_session_of_ne _ hother _ _
  cases fault with
  | some fault =>
      have hfail (after : Bucket) (hothers : discipline.others state after) :=
        hfault (target.partCall uploadId number data) fault fault.error after trivial
          (hfaults fault rfl) hothers
      simp only [strike, hhandle]
      split
      · exact ⟨discipline.invariant_same _ _ hsame hinv, owned, hguar, hfail _ hafter⟩
      · exact ⟨hinv, owned, Discipline.guarantee_refl owned before, hfail _ hrely.1⟩
  | none =>
      rw [strike_none, hhandle]
      refine ⟨discipline.invariant_same _ _ hsame hinv, owned, hguar, ?_⟩
      have hetag : (some (provider.etag data)).getD "" ≠ "" := provider.etag_ne data
      have hchecksum : Option.any (fun text => decide (text ≠ (target.common.hexdigest data).text))
          (if target.checksumHeaders then some (target.common.hexdigest data).text else none) =
            false := by
        split <;> simp
      apply Verified.done
      simp only [Program.onOk, if_neg hetag, hchecksum]
      apply hok _ _ hafter
      have hprogress : progress.consumed + data.length = min (number * target.partSize)
          stream.length := by
        omega
      constructor
      · refine ⟨_, Store.addPart_session before hsession number data, ?_⟩
        rw [Provider.partsBody_append, provider.partsBody_update _ number data h.numbers, hbody]
        simp only [Provider.partsBody, Function.update_self, Option.getD_some, if_true,
          Option.map_some, Option.bind_some, List.append_nil]
        rw [List.take_add, hdatalen, ← h.rest, hdata]
      · intro part hpart
        rcases List.mem_append.mp hpart with hold | hnew
        · have := h.numbers part hold
          omega
        · rw [List.mem_singleton.mp hnew]
          exact Nat.lt_succ_self number
      · simp only
        rw [h.rest, List.drop_drop, hdatalen]
      · simpa using hprogress

-- By induction on the parts that remain: the session holds what has been consumed.
theorem sendParts_rule (header : ObjectHeader) (origin : Bucket)
    (hlength : target.length = stream.length)
    (hfits : target.Fits stream) (hid : provider.uploadNumber uploadId = some upload)
    (hmem : upload ∈ owned) {post : Except Failure PartsProgress → Set Nat → Bucket → Prop}
    (hok : ∀ next after, discipline.others origin after →
      target.Sending provider header stream upload (target.expectedParts + 1) next after →
      post (.ok next) owned after)
    (hfault : ∀ call fault failure after, call.multipart → discipline.faults call fault →
      discipline.others origin after → post (.error failure) owned after)
    (remaining number : Nat) (hpos : 1 ≤ number)
    (hcount : number + remaining = target.expectedParts + 1) (progress : PartsProgress)
    (state : Bucket) (hstate : discipline.others origin state)
    (h : target.Sending provider header stream upload number progress state) :
    Verified provider.handle discipline.protocol
      (target.sendParts uploadId remaining number progress) owned state post := by
  induction remaining generalizing number progress state with
  | zero =>
      have hnumber : number = target.expectedParts + 1 := by omega
      exact Verified.done (hok progress state hstate (hnumber ▸ h))
  | succ remaining ih =>
      apply Verified.seq
      apply sendPart_rule hlength hfits hid hmem hpos (by omega) h
      · intro next after hafter hnext
        exact ih (number + 1) (by omega) (by omega) next after
          (discipline.others_trans _ _ _ hstate hafter) hnext
      · intro call fault failure after hcall hf hafter
        exact Verified.done (hfault call fault failure after hcall hf
          (discipline.others_trans _ _ _ hstate hafter))

theorem completeUpload_rule (header : ObjectHeader) (origin : Bucket)
    (hlength : target.length = stream.length)
    (hfits : target.Fits stream) (hid : provider.uploadNumber uploadId = some upload)
    (hmem : upload ∈ owned)
    {post : Except Failure MultipartUploadEvidence → Set Nat → Bucket → Prop}
    (hfault : ∀ call fault failure after, call.multipart → discipline.faults call fault →
      discipline.others origin after → post (.error failure) owned after)
    (hcommit : ∀ before after, discipline.others origin before → discipline.invariant before →
      after = (before.closeSession upload).put target.key ⟨header, stream⟩ →
      discipline.invariant after ∧ discipline.own before after ∧
      (∀ evidence : MultipartUploadEvidence,
        evidence.versionId = provider.reportedVersion before before.issued →
        post (.ok evidence) owned after) ∧
      ∀ call fault failure, call.multipart → discipline.faults call fault →
        fault.effect = true → post (.error failure) owned after)
    (hstate : discipline.others origin state)
    (h : target.Sending provider header stream upload 1 ⟨stream, 0, [], []⟩ state) :
    Verified provider.handle discipline.protocol (target.completeUpload uploadId stream) owned state
      post := by
  unfold completeUpload
  apply Verified.seq
  apply sendParts_rule header origin hlength hfits hid hmem
  · intro progress after hothers hsending
    have hcovers := target.expectedParts_covers stream hlength hfits.partSize
    have hconsumed : progress.consumed = stream.length := by
      rw [hsending.consumed, Nat.add_sub_cancel]
      exact Nat.min_eq_right hcovers
    have hdone : ¬(progress.consumed ≠ target.length ∨ progress.stream.take 1 ≠ []) := by
      rw [hsending.rest, hconsumed, List.drop_length, hlength]
      simp
    simp only [Program.onOk, if_neg hdone]
    apply Verified.seq
    intro before hrely hinv fault hfaults
    obtain ⟨parts, hsession, hbody⟩ := (hsending.kept hrely.2 hmem).session
    rw [hconsumed, List.take_length] at hbody
    have hbefore := discipline.others_trans _ _ _ hothers hrely.1
    have hhandle := handle_complete hid hsession hbody
    obtain ⟨hafter, hown, hok, hfailed⟩ := hcommit before _ hbefore hinv rfl
    have hguar : discipline.protocol.guarantee owned owned before
        ((before.closeSession upload).put target.key ⟨header, stream⟩) := by
      refine ⟨hown, by simp, ?_, fun _ hheld => Or.inl hheld⟩
      intro other _ hother
      exact Store.closeSession_session_of_ne before fun he => hother (he ▸ hmem)
    cases fault with
    | none =>
        rw [strike_none, hhandle]
        exact ⟨hafter, owned, hguar, Verified.done (hok ⟨_, _, _, _⟩ rfl)⟩
    | some fault =>
        have hf : discipline.faults
            (.completeMultipartUpload target.key uploadId progress.completed) fault :=
          hfaults fault rfl
        simp only [strike, hhandle]
        split
        · rename_i heffect
          exact ⟨hafter, owned, hguar,
            Verified.done (hfailed (.completeMultipartUpload ..) fault _ trivial hf heffect)⟩
        · exact ⟨hinv, owned, Discipline.guarantee_refl owned before,
            Verified.done (hfault (.completeMultipartUpload ..) fault _ before trivial hf hbefore)⟩
  · intro call fault failure after hcall hf hothers
    exact Verified.done (hfault call fault failure after hcall hf hothers)
  · exact le_rfl
  · omega
  · exact hstate
  · exact h

-- An abort changes no object, and its own failure is not seen.
theorem abortUpload_rule (hid : provider.uploadNumber uploadId = some upload) (hmem : upload ∈ owned)
    {post : Except Failure Unit → Set Nat → Bucket → Prop}
    (h : ∀ after, discipline.others state after → post (.ok ()) owned after) :
    Verified provider.handle discipline.protocol (target.abortUpload uploadId) owned state post := by
  apply Verified.recover
  apply Verified.perform (Discipline.guarantee_refl owned)
  intro before hrely hinv
  have hstep : SameObjects before
      (provider.handle (.abortMultipartUpload target.key uploadId) before).2 ∧
      discipline.protocol.guarantee owned owned before
        (provider.handle (.abortMultipartUpload target.key uploadId) before).2 := by
    rcases handle_abort target.key before hid with he | he
    · rw [he]
      exact ⟨.refl before, Discipline.guarantee_refl owned before⟩
    · rw [he]
      have hsame := SameObjects.closeSession before upload
      exact ⟨hsame, session_step hmem hsame (by simp) fun _ hother =>
        Store.closeSession_session_of_ne before hother⟩
  have hafter := discipline.others_trans _ _ _ hrely.1 (discipline.others_same _ _ hstep.1)
  refine ⟨discipline.invariant_same _ _ hstep.1 hinv, owned, hstep.2, ?_, ?_⟩
  · generalize (provider.handle (.abortMultipartUpload target.key uploadId) before).1 = result
    cases result <;> exact h _ hafter
  · intro fault _
    split
    · exact h _ hafter
    · exact h _ hrely.1

-- A transfer that cannot come to its end fails before its first part.
theorem sendParts_unfit (uploadId : String) (hlength : target.length = stream.length)
    (hparts : target.expectedParts ≤ S3_MAX_MULTIPART_PARTS) (hfits : ¬target.Fits stream) :
    ∃ failure, target.sendParts uploadId target.expectedParts 1 ⟨stream, 0, [], []⟩ =
      throw failure := by
  obtain ⟨remaining, hremaining⟩ : ∃ remaining, target.expectedParts = remaining + 1 := by
    have hpos : 1 ≤ target.expectedParts := Nat.le_max_left _ _
    exact ⟨target.expectedParts - 1, by omega⟩
  have hread : target.partRead ⟨stream, 0, [], []⟩ = 0 := by
    by_contra hne
    refine hfits ⟨hparts, ?_, ?_⟩ <;>
    · simp only [partRead] at hne
      omega
  have hempty : stream.take (target.partRead ⟨stream, 0, [], []⟩) = [] := by
    rw [hread, List.take_zero]
  refine ⟨incomplete "multipart source ended before its declared length", ?_⟩
  rw [hremaining, sendParts]
  unfold sendPart
  simp only [if_pos hempty]
  rfl

theorem uploadMultipart_rule (hlength : target.length = stream.length)
    {post : Except Failure MultipartUploadEvidence → Set Nat → Bucket → Prop}
    (hunfit : ¬target.Fits stream → ∀ failure held after, discipline.others state after →
      post (.error failure) held after)
    (hfault : ∀ call fault failure held after, call.multipart → discipline.faults call fault →
      discipline.others state after → post (.error failure) held after)
    (hcommit : ∀ held upload before after, discipline.others state before →
      discipline.invariant before → target.Fits stream →
      after = (before.closeSession upload).put target.key ⟨header, stream⟩ →
      discipline.invariant after ∧ discipline.own before after ∧
      (∀ evidence : MultipartUploadEvidence,
        evidence.versionId = provider.reportedVersion before before.issued →
        post (.ok evidence) held after) ∧
      ∀ call fault failure final, call.multipart → discipline.faults call fault →
        fault.effect = true → discipline.others after final → post (.error failure) held final) :
    Verified provider.handle discipline.protocol (target.uploadMultipart stream header) owned state
      post := by
  have hrefl := discipline.others_same _ _ (.refl state)
  unfold uploadMultipart
  by_cases hparts : S3_MAX_MULTIPART_PARTS < target.expectedParts
  case pos =>
    simp only [if_pos hparts]
    exact Verified.done (hunfit (fun hfits => absurd hfits.parts (by omega)) _ owned state hrefl)
  simp only [if_neg hparts]
  apply Verified.seq
  intro before hrely hinv fault hfaults
  have hopen := SameObjects.openSession before target.key header
  have hopened := discipline.others_trans _ _ _ hrely.1 (discipline.others_same _ _ hopen)
  have hguar : discipline.protocol.guarantee owned (insert before.opened owned) before
      (before.openSession target.key header) := by
    refine ⟨discipline.own_same _ _ hopen, by simp, ?_, ?_⟩
    · intro other hlt _
      exact Store.openSession_session_of_ne before target.key (by omega) header
    · intro other hm
      rcases hm with rfl | hm
      · exact Or.inr ⟨le_rfl, by simp⟩
      · exact Or.inl hm
  have hhandle : provider.handle
      (.createMultipartUpload target.key header target.checksumHeaders) before =
      (.ok (some (provider.uploadName before.opened)), before.openSession target.key header) := rfl
  cases fault with
  | some fault =>
      have hf : discipline.faults
          (.createMultipartUpload target.key header target.checksumHeaders) fault :=
        hfaults fault rfl
      simp only [strike, hhandle]
      split
      · exact ⟨discipline.invariant_same _ _ hopen hinv, _, hguar,
          Verified.done (hfault (.createMultipartUpload ..) fault _ _ _ trivial hf hopened)⟩
      · exact ⟨hinv, owned, Discipline.guarantee_refl owned before,
          Verified.done (hfault (.createMultipartUpload ..) fault _ _ _ trivial hf hrely.1)⟩
  | none =>
      rw [strike_none, hhandle]
      refine ⟨discipline.invariant_same _ _ hopen hinv, _, hguar, Verified.done ?_⟩
      have hid : provider.uploadNumber (provider.uploadName before.opened) = some before.opened :=
        (provider.uploadNumber_iff _ _).mpr rfl
      have hmem : before.opened ∈ insert before.opened owned := Set.mem_insert _ _
      have hname : ¬(some (provider.uploadName before.opened)).getD "" = "" :=
        provider.uploadName_ne before.opened
      simp only [Program.onOk, if_neg hname]
      apply Verified.recover
      -- An error that the transfer raises goes through the abort.
      have habort (failure : Failure) (held : Set Nat) (middle : Bucket) (hheld : before.opened ∈ held)
          (hpost : ∀ final, discipline.others middle final → post (.error failure) held final) :
          Verified provider.handle discipline.protocol
            (Program.onError (fun failure => do
              target.abortUpload (provider.uploadName before.opened)
              throw failure) (.error failure) : S3M MultipartUploadEvidence) held middle post := by
        apply Verified.seq
        apply abortUpload_rule hid hheld
        intro final hfinal
        exact Verified.done (hpost final hfinal)
      by_cases hfits : target.Fits stream
      · apply completeUpload_rule header state hlength hfits hid hmem
        · intro call fault failure after hcall hf hafter
          apply habort failure _ after hmem
          intro final hfinal
          exact hfault call fault failure _ final hcall hf
            (discipline.others_trans _ _ _ hafter hfinal)
        · intro middle after hmiddle hinvariant he
          obtain ⟨hafter, hown, hok, hfailed⟩ := hcommit _ _ middle after hmiddle hinvariant hfits he
          refine ⟨hafter, hown, fun evidence hversion => Verified.done (hok evidence hversion), ?_⟩
          intro call fault failure hcall hf heffect
          exact habort failure _ after hmem fun final hfinal =>
            hfailed call fault failure final hcall hf heffect hfinal
        · exact hopened
        · refine ⟨⟨fun _ => none, by simp, by simp [Provider.partsBody]⟩, by simp, by simp, ?_⟩
          simp
      · obtain ⟨failure, hthrow⟩ := sendParts_unfit (provider.uploadName before.opened) hlength
          (by omega) hfits
        have hcomplete : target.completeUpload (provider.uploadName before.opened) stream =
            throw failure := by
          rw [completeUpload, hthrow]
          rfl
        simp only [Option.getD_some, hcomplete]
        apply Verified.done
        exact habort failure _ _ hmem fun final hfinal =>
          hunfit hfits failure _ final (discipline.others_trans _ _ _ hopened hfinal)

end Rules

end UploadTarget

end MeridianS3
