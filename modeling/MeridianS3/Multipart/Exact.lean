import MeridianS3.Effect.Confined
import MeridianS3.Effect.Reading
import MeridianS3.Multipart
import MeridianS3.Standard.Common

namespace MeridianS3

open Effect

def S3Call.sendsPart : S3Call → Prop
  | .uploadPart .. => True
  | _ => False

-- A part that was sent, with the reply to it.
structure SentPart where
  body : Bytes
  reply : PartReply

namespace UploadTarget

variable (target : UploadTarget) {uploadId : String}

-- The calls that send some parts, numbered on from the given number.
def sendEvents (uploadId : String) : Nat → List SentPart → List (Event S3 Failure)
  | _, [] => []
  | number, part :: rest =>
      ⟨target.partCall uploadId number part.body, .ok part.reply⟩ ::
        sendEvents uploadId (number + 1) rest

-- What the completion request lists for them.
def listedParts : Nat → List SentPart → List CompletedPart
  | _, [] => []
  | number, part :: rest =>
      ⟨part.reply.etag.getD "", number, part.reply.checksumSha256⟩ :: listedParts (number + 1) rest

def sentDigests (parts : List SentPart) : List String :=
  parts.map fun part => (target.common.hexdigest part.body).digest

theorem listedParts_length (number : Nat) (parts : List SentPart) :
    (listedParts number parts).length = parts.length := by
  induction parts generalizing number with
  | nil => rfl
  | cons part rest ih => exact congrArg Nat.succ (ih (number + 1))

-- The parts that the loop can send from a state of its progress: each is what the read
-- of that moment gives, and none is empty.
inductive Sends : Bytes → Nat → List SentPart → Bytes → Nat → Prop where
  | stop (stream : Bytes) (consumed : Nat) : Sends stream consumed [] stream consumed
  | part {stream rest : Bytes} {consumed total : Nat} {part : SentPart} {parts : List SentPart}
      (hbody : part.body = stream.take (min target.partSize (target.length - consumed)))
      (hne : part.body ≠ [])
      (hetag : ∃ etag, part.reply.etag = some etag ∧ etag ≠ "")
      (next : Sends (stream.drop (min target.partSize (target.length - consumed)))
        (consumed + part.body.length) parts rest total) :
      Sends stream consumed (part :: parts) rest total

variable {target}

theorem sendPart_ok {number : Nat} {progress next : PartsProgress}
    {events : List (Event S3 Failure)}
    (path : (target.sendPart uploadId number progress).Path events (.ok next)) :
    ∃ part : SentPart,
      part.body = progress.stream.take (target.partRead progress) ∧ part.body ≠ [] ∧
      (∃ etag, part.reply.etag = some etag ∧ etag ≠ "") ∧
      events = target.sendEvents uploadId number [part] ∧
      next = { stream := progress.stream.drop (target.partRead progress)
               consumed := progress.consumed + part.body.length
               completed := progress.completed ++ listedParts number [part]
               partDigests := progress.partDigests ++ target.sentDigests [part] } := by
  unfold sendPart at path
  dsimp only at path
  by_cases hdata : progress.stream.take (target.partRead progress) = []
  · rw [if_pos hdata] at path
    obtain ⟨_, hresult⟩ := Program.path_throw.mp path
    cases hresult
  · rw [if_neg hdata] at path
    obtain ⟨error, _, hresult⟩ | ⟨first, rest, reply, rfl, hfirst, hrest⟩ :=
      Program.path_bind.mp path
    · cases hresult
    · rw [Program.path_perform.mp hfirst]
      by_cases hetag : reply.etag.getD "" = ""
      · rw [if_pos hetag] at hrest
        obtain ⟨_, hresult⟩ := Program.path_throw.mp hrest
        cases hresult
      · rw [if_neg hetag] at hrest
        split at hrest
        · obtain ⟨_, hresult⟩ := Program.path_throw.mp hrest
          cases hresult
        · obtain ⟨rfl, hresult⟩ := Program.path_pure.mp hrest
          refine ⟨⟨_, reply⟩, rfl, hdata, ?_, rfl, Except.ok.inj hresult⟩
          cases he : reply.etag with
          | none =>
              rw [he] at hetag
              exact absurd rfl hetag
          | some etag =>
              rw [he] at hetag
              exact ⟨etag, rfl, hetag⟩

-- By induction on the parts that remain.
theorem sendParts_ok (remaining number : Nat) (progress final : PartsProgress)
    {events : List (Event S3 Failure)}
    (path : (target.sendParts uploadId remaining number progress).Path events (.ok final)) :
    ∃ parts : List SentPart, parts.length = remaining ∧
      target.Sends progress.stream progress.consumed parts final.stream final.consumed ∧
      events = target.sendEvents uploadId number parts ∧
      final.completed = progress.completed ++ listedParts number parts ∧
      final.partDigests = progress.partDigests ++ target.sentDigests parts := by
  induction remaining generalizing number progress events with
  | zero =>
      obtain ⟨rfl, hresult⟩ := Program.path_pure.mp path
      cases hresult
      exact ⟨[], rfl, .stop _ _, rfl, (List.append_nil _).symm, (List.append_nil _).symm⟩
  | succ remaining ih =>
      obtain ⟨error, _, hresult⟩ | ⟨first, rest, next, rfl, hfirst, hrest⟩ :=
        Program.path_bind.mp path
      · cases hresult
      · obtain ⟨part, hbody, hne, hetag, rfl, rfl⟩ := sendPart_ok hfirst
        obtain ⟨parts, hlength, hsends, rfl, hcompleted, hdigests⟩ := ih (number + 1) _ hrest
        refine ⟨part :: parts, by rw [List.length_cons, hlength], .part hbody hne hetag hsends,
          rfl, ?_, ?_⟩
        · rw [hcompleted, List.append_assoc]
          rfl
        · rw [hdigests, List.append_assoc]
          rfl

namespace Sends

variable {stream rest : Bytes} {consumed total : Nat} {parts : List SentPart}

theorem flatten (h : target.Sends stream consumed parts rest total) :
    (parts.map SentPart.body).flatten ++ rest = stream := by
  induction h with
  | stop => rfl
  | part hbody _ _ _ ih =>
      rw [List.map_cons, List.flatten_cons, List.append_assoc, ih, hbody]
      exact List.take_append_drop _ _

theorem total_eq (h : target.Sends stream consumed parts rest total) :
    total = consumed + (parts.map SentPart.body).flatten.length := by
  induction h with
  | stop => rfl
  | part _ _ _ _ ih =>
      rw [ih, List.map_cons, List.flatten_cons, List.length_append]
      omega

theorem nonempty (h : target.Sends stream consumed parts rest total) :
    ∀ part ∈ parts, part.body ≠ [] ∧ ∃ etag, part.reply.etag = some etag ∧ etag ≠ "" := by
  induction h with
  | stop => exact fun _ hmem => absurd hmem List.not_mem_nil
  | part _ hne hetag _ ih =>
      intro part hmem
      rcases List.mem_cons.mp hmem with rfl | hmem
      · exact ⟨hne, hetag⟩
      · exact ih part hmem

theorem body_le (h : target.Sends stream consumed parts rest total) :
    ∀ part ∈ parts, part.body.length ≤ target.partSize := by
  induction h with
  | stop => exact fun _ hmem => absurd hmem List.not_mem_nil
  | part hbody _ _ _ ih =>
      intro part hmem
      rcases List.mem_cons.mp hmem with rfl | hmem
      · rw [hbody, List.length_take]
        omega
      · exact ih part hmem

-- A part after which another one is read is full: a short read ends the stream or
-- the declared length, and the next read is empty.
theorem full (h : target.Sends stream consumed parts rest total) :
    ∀ part ∈ parts.dropLast, part.body.length = target.partSize := by
  induction h with
  | stop => exact fun _ hmem => absurd hmem List.not_mem_nil
  | @part stream rest consumed total first parts hbody hne _ next ih =>
      intro part hmem
      cases next with
      | stop => exact absurd hmem List.not_mem_nil
      | part hnext hnextne _ _ =>
          rw [List.dropLast_cons_cons] at hmem
          rcases List.mem_cons.mp hmem with rfl | hmem
          · have hlength := congrArg List.length hbody
            have hfollowing := congrArg List.length hnext
            have hpositive := List.length_pos_of_ne_nil hnextne
            rw [List.length_take] at hlength
            rw [List.length_take, List.length_drop] at hfollowing
            omega
          · exact ih part hmem

end Sends

-- A transfer that came to its end: the session was opened, the parts of the stream were
-- sent in order, and the session was completed with them.
structure Transferred (target : UploadTarget) (stream : Bytes) (header : ObjectHeader)
    (parts : List SentPart) (events : List (Event S3 Failure))
    (evidence : MultipartUploadEvidence) : Prop where
  calls : events =
    ⟨.createMultipartUpload target.key header target.checksumHeaders, .ok (some evidence.uploadId)⟩ ::
      (target.sendEvents evidence.uploadId 1 parts ++
        [⟨.completeMultipartUpload target.key evidence.uploadId (listedParts 1 parts),
          .ok evidence.versionId⟩])
  count : parts.length = (target.length + target.partSize - 1) / target.partSize
  limit : parts.length ≤ S3_MAX_MULTIPART_PARTS
  full : ∀ part ∈ parts.dropLast, part.body.length = target.partSize
  last : ∀ part ∈ parts, part.body ≠ [] ∧ part.body.length ≤ target.partSize
  whole : (parts.map SentPart.body).flatten = stream
  declared : stream.length = target.length
  tags : ∀ part ∈ parts, ∃ etag, part.reply.etag = some etag ∧ etag ≠ ""
  partCount : evidence.partCount = parts.length
  partDigests : evidence.partDigests = target.sentDigests parts

-- A transfer that was given up: its session was not completed, and was aborted once, at
-- the end.
structure Aborted (target : UploadTarget) (uploadId : String)
    (events : List (Event S3 Failure)) : Prop where
  uncompleted : ∀ key completedId parts versionId,
    ⟨.completeMultipartUpload key completedId parts, .ok versionId⟩ ∉ events
  once : ∃ before outcome,
    events = before ++ [⟨.abortMultipartUpload target.key uploadId, outcome⟩] ∧
      ∀ event ∈ before, ∀ key abortedId, event.1 ≠ .abortMultipartUpload key abortedId

variable {stream : Bytes} {events : List (Event S3 Failure)}

theorem expectedParts_eq (hsize : 0 < target.partSize) (hlength : 0 < target.length) :
    target.expectedParts = (target.length + target.partSize - 1) / target.partSize := by
  have hpos : 1 ≤ (target.length + target.partSize - 1) / target.partSize := by
    rw [Nat.le_div_iff_mul_le hsize]
    omega
  exact Nat.max_eq_right hpos

theorem completeUpload_ok {evidence : MultipartUploadEvidence} (hsize : 0 < target.partSize)
    (hlimit : target.expectedParts ≤ S3_MAX_MULTIPART_PARTS)
    (path : (target.completeUpload uploadId stream).Path events (.ok evidence))
    (header : ObjectHeader) : ∃ parts : List SentPart,
      evidence.uploadId = uploadId ∧
      target.Transferred stream header parts
        (⟨.createMultipartUpload target.key header target.checksumHeaders,
          .ok (some uploadId)⟩ :: events) evidence := by
  obtain ⟨error, _, hresult⟩ | ⟨first, rest, progress, rfl, hfirst, hrest⟩ :=
    Program.path_bind.mp path
  · cases hresult
  · obtain ⟨parts, hlength, hsends, rfl, hcompleted, hdigests⟩ := sendParts_ok _ _ _ _ hfirst
    by_cases hdone : progress.consumed ≠ target.length ∨ progress.stream.take 1 ≠ []
    · rw [if_pos hdone] at hrest
      obtain ⟨_, hresult⟩ := Program.path_throw.mp hrest
      cases hresult
    · rw [if_neg hdone] at hrest
      obtain ⟨error, _, hresult⟩ | ⟨called, later, versionId, rfl, hcall, hend⟩ :=
        Program.path_bind.mp hrest
      · cases hresult
      · rw [Program.path_perform.mp hcall]
        obtain ⟨rfl, hresult⟩ := Program.path_pure.mp hend
        obtain rfl := Except.ok.inj hresult
        obtain ⟨hconsumed, hstream⟩ := not_or.mp hdone
        have hempty : progress.stream = [] := by
          cases hs : progress.stream with
          | nil => rfl
          | cons byte tail =>
              rw [hs] at hstream
              exact absurd (List.cons_ne_nil _ _) hstream
        have hwhole := hsends.flatten
        rw [hempty, List.append_nil] at hwhole
        have htotal := hsends.total_eq
        rw [not_not.mp hconsumed, hwhole, Nat.zero_add] at htotal
        have hparts : 0 < parts.length := by
          rw [hlength]
          exact Nat.lt_of_lt_of_le Nat.one_pos (Nat.le_max_left _ _)
        have hpositive : 0 < target.length := by
          obtain ⟨part, hmem⟩ := List.exists_mem_of_length_pos hparts
          rw [htotal]
          apply List.length_pos_of_ne_nil
          intro hnil
          rw [hnil] at hwhole
          exact (hsends.nonempty part hmem).1
            (List.flatten_eq_nil_iff.mp hwhole part.body (List.mem_map_of_mem hmem))
        refine ⟨parts, rfl, ?_⟩
        constructor
        · rw [hcompleted, List.append_nil]
          rfl
        · rw [hlength, expectedParts_eq hsize hpositive]
        · rw [hlength]
          exact hlimit
        · exact hsends.full
        · intro part hmem
          exact ⟨(hsends.nonempty part hmem).1, hsends.body_le part hmem⟩
        · exact hwhole
        · exact htotal.symm
        · intro part hmem
          exact (hsends.nonempty part hmem).2
        · rw [hcompleted]
          exact listedParts_length 1 parts
        · rw [hdigests]
          rfl

section Calls

variable {kind : S3Call → Prop} (hpart : ∀ uploadId number body checksum,
  kind (.uploadPart target.key uploadId number body checksum))

include hpart

theorem sendPart_within (number : Nat) (progress : PartsProgress) :
    (target.sendPart uploadId number progress).Within kind := by
  unfold sendPart
  dsimp only
  split
  · trivial
  · apply Program.Within.bind
    · exact Program.Within.perform (hpart _ _ _ _)
    · intro reply
      split
      · trivial
      · split <;> trivial

theorem sendParts_within (remaining number : Nat) (progress : PartsProgress) :
    (target.sendParts uploadId remaining number progress).Within kind := by
  induction remaining generalizing number progress with
  | zero => trivial
  | succ remaining ih =>
      apply (sendPart_within hpart number progress).bind
      intro next
      exact ih (number + 1) next

theorem uploadMultipart_within {header : ObjectHeader}
    (hcreate : kind (.createMultipartUpload target.key header target.checksumHeaders))
    (hcomplete : ∀ uploadId parts, kind (.completeMultipartUpload target.key uploadId parts))
    (habort : ∀ uploadId, kind (.abortMultipartUpload target.key uploadId)) (stream : Bytes) :
    (target.uploadMultipart stream header).Within kind := by
  unfold uploadMultipart
  dsimp only
  split
  · trivial
  · apply Program.Within.bind
    · exact Program.Within.perform hcreate
    · intro response
      split
      · trivial
      · apply Program.Within.recover
        · apply (sendParts_within hpart _ _ _).bind
          intro progress
          split
          · trivial
          · apply Program.Within.bind
            · exact Program.Within.perform (hcomplete _ _)
            · intro versionId
              trivial
        · intro failure
          apply Program.Within.bind
          · apply Program.Within.recover
            · exact Program.Within.perform (habort _)
            · intro _
              trivial
          · intro _
            trivial

end Calls

theorem sendParts_sends (remaining number : Nat) (progress : PartsProgress) :
    (target.sendParts uploadId remaining number progress).Within S3Call.sendsPart :=
  sendParts_within (fun _ _ _ _ => trivial) remaining number progress

-- Up to its failure the transfer has sent parts, and at most asked for a completion that
-- failed.
theorem completeUpload_error {failure : Failure}
    (path : (target.completeUpload uploadId stream).Path events (.error failure)) :
    ∀ event ∈ events, event.1.sendsPart ∨
      ∃ parts error, event =
        ⟨.completeMultipartUpload target.key uploadId parts, .error error⟩ := by
  obtain ⟨error, hpath, _⟩ | ⟨first, rest, progress, rfl, hfirst, hrest⟩ :=
    Program.path_bind.mp path
  · intro event hmem
    exact Or.inl ((sendParts_sends _ _ _).path hpath event hmem)
  · have hsent := (sendParts_sends _ _ _).path hfirst
    intro event hmem
    rcases List.mem_append.mp hmem with hmem | hmem
    · exact Or.inl (hsent event hmem)
    · by_cases hdone : progress.consumed ≠ target.length ∨ progress.stream.take 1 ≠ []
      · rw [if_pos hdone] at hrest
        obtain ⟨rfl, _⟩ := Program.path_throw.mp hrest
        exact absurd hmem List.not_mem_nil
      · rw [if_neg hdone] at hrest
        obtain ⟨error, hcall, _⟩ | ⟨called, later, versionId, _, _, hend⟩ :=
          Program.path_bind.mp hrest
        · rw [Program.path_perform.mp hcall] at hmem
          exact Or.inr ⟨_, error, List.mem_singleton.mp hmem⟩
        · obtain ⟨_, hresult⟩ := Program.path_pure.mp hend
          cases hresult

theorem abortUpload_path {result : Except Failure Unit}
    (path : (target.abortUpload uploadId).Path events result) :
    (∃ outcome, events = [⟨.abortMultipartUpload target.key uploadId, outcome⟩]) ∧
      result = .ok () := by
  obtain ⟨value, hpath, rfl⟩ | ⟨first, rest, error, rfl, hfirst, hrest⟩ :=
    Program.path_tryCatch.mp path
  · exact ⟨⟨_, Program.path_perform.mp hpath⟩, rfl⟩
  · obtain ⟨rfl, rfl⟩ := Program.path_pure.mp hrest
    rw [Program.path_perform.mp hfirst]
    exact ⟨⟨_, rfl⟩, rfl⟩

end UploadTarget

-- A multipart transfer is exact or aborted, whatever the provider answers.
theorem multipart_exact_or_aborted (target : UploadTarget) (stream : Bytes)
    (header : ObjectHeader) (events : List (Event S3 Failure))
    (result : Except Failure MultipartUploadEvidence) (hsize : 1 ≤ target.partSize)
    (path : (target.uploadMultipart stream header).Path events result) :
    (∀ evidence, result = .ok evidence →
      ∃ parts, target.Transferred stream header parts events evidence) ∧
    ∀ failure uploadId, result = .error failure → uploadId ≠ "" →
      ⟨.createMultipartUpload target.key header target.checksumHeaders,
        .ok (some uploadId)⟩ ∈ events → target.Aborted uploadId events := by
  unfold UploadTarget.uploadMultipart at path
  dsimp only at path
  by_cases hlimit : S3_MAX_MULTIPART_PARTS < target.expectedParts
  · rw [if_pos hlimit] at path
    obtain ⟨rfl, rfl⟩ := Program.path_throw.mp path
    exact ⟨(fun _ h => nomatch h), fun _ _ _ _ hmem => absurd hmem List.not_mem_nil⟩
  · rw [if_neg hlimit] at path
    obtain ⟨error, hcreate, rfl⟩ | ⟨first, rest, response, rfl, hcreate, hrest⟩ :=
      Program.path_bind.mp path
    · rw [Program.path_perform.mp hcreate]
      refine ⟨(fun _ h => nomatch h), fun _ uploadId _ _ hmem => ?_⟩
      obtain ⟨_, houtcome⟩ := Sigma.mk.inj (List.mem_singleton.mp hmem)
      cases eq_of_heq houtcome
    · rw [Program.path_perform.mp hcreate]
      by_cases hid : response.getD "" = ""
      · rw [if_pos hid] at hrest
        obtain ⟨rfl, rfl⟩ := Program.path_throw.mp hrest
        refine ⟨(fun _ h => nomatch h), fun _ uploadId _ hne hmem => ?_⟩
        obtain ⟨_, houtcome⟩ := Sigma.mk.inj (List.mem_singleton.mp hmem)
        obtain rfl := Except.ok.inj (eq_of_heq houtcome)
        exact absurd hid hne
      · rw [if_neg hid] at hrest
        have hresponse : response = some (response.getD "") := by
          cases response with
          | none => exact absurd rfl hid
          | some uploadId => rfl
        obtain ⟨evidence, hcompleted, rfl⟩ | ⟨sent, later, failure, rfl, hfailed, hlater⟩ :=
          Program.path_tryCatch.mp hrest
        · refine ⟨fun finished h => ?_, fun _ _ h => nomatch h⟩
          obtain rfl := Except.ok.inj h
          obtain ⟨parts, _, htransferred⟩ := UploadTarget.completeUpload_ok hsize
            (Nat.le_of_not_lt hlimit) hcompleted header
          rw [← hresponse] at htransferred
          exact ⟨parts, htransferred⟩
        · have hbefore := UploadTarget.completeUpload_error hfailed
          obtain ⟨error, haborted, _⟩ | ⟨aborting, ended, _, rfl, haborting, hended⟩ :=
            Program.path_bind.mp hlater
          · cases (UploadTarget.abortUpload_path haborted).2
          · obtain ⟨⟨outcome, rfl⟩, _⟩ := UploadTarget.abortUpload_path haborting
            obtain ⟨rfl, rfl⟩ := Program.path_throw.mp hended
            refine ⟨(fun _ h => nomatch h), fun _ uploadId _ hne hmem => ?_⟩
            have hcreated : response = some uploadId := by
              rcases List.mem_append.mp hmem with hmem | hmem
              · obtain ⟨_, houtcome⟩ := Sigma.mk.inj (List.mem_singleton.mp hmem)
                exact (Except.ok.inj (eq_of_heq houtcome)).symm
              · rcases List.mem_append.mp hmem with hmem | hmem
                · obtain hpart | ⟨parts, error, he⟩ := hbefore _ hmem
                  · exact absurd hpart not_false
                  · cases (Sigma.mk.inj he).1
                · rw [List.append_nil] at hmem
                  cases (Sigma.mk.inj (List.mem_singleton.mp hmem)).1
            subst hcreated
            constructor
            · intro key completedId parts versionId hmem
              rcases List.mem_append.mp hmem with hmem | hmem
              · cases (Sigma.mk.inj (List.mem_singleton.mp hmem)).1
              · rcases List.mem_append.mp hmem with hmem | hmem
                · obtain hpart | ⟨sentParts, error, he⟩ := hbefore _ hmem
                  · exact hpart
                  · obtain ⟨hcall, houtcome⟩ := Sigma.mk.inj he
                    cases hcall
                    cases eq_of_heq houtcome
                · rw [List.append_nil] at hmem
                  cases (Sigma.mk.inj (List.mem_singleton.mp hmem)).1
            · refine ⟨⟨.createMultipartUpload target.key header target.checksumHeaders,
                .ok (some uploadId)⟩ :: sent, outcome, ?_, ?_⟩
              · rw [List.append_nil]
                rfl
              · intro event hmem key abortedId
                rcases List.mem_cons.mp hmem with rfl | hmem
                · exact fun he => by cases he
                · obtain hpart | ⟨parts, error, rfl⟩ := hbefore event hmem
                  · intro he
                    rw [he] at hpart
                    exact hpart
                  · exact fun he => by cases he

namespace Standard

-- Three bytes in parts of two.
def pairs : UploadTarget := ⟨common, "blob", 3, 2, false⟩

def pairEvents : List (Event S3 Failure) :=
  [⟨.createMultipartUpload "blob" ⟨"text/plain", [], {}⟩ false, .ok (some "upload")⟩,
    ⟨.uploadPart "blob" "upload" 1 [1, 2] none, .ok ⟨some "first", none⟩⟩,
    ⟨.uploadPart "blob" "upload" 2 [3] none, .ok ⟨some "second", none⟩⟩,
    ⟨.completeMultipartUpload "blob" "upload" [⟨"first", 1, none⟩, ⟨"second", 2, none⟩],
      .ok none⟩]

def pairEvidence : MultipartUploadEvidence :=
  ⟨"upload", none, 2, [(common.hexdigest [1, 2]).digest, (common.hexdigest [3]).digest]⟩

theorem pairs_path : (pairs.uploadMultipart [1, 2, 3] ⟨"text/plain", [], {}⟩).Path pairEvents
    (.ok pairEvidence) := by
  exact .call (.call (.call (.call (.done _))))

end Standard

theorem pairs_transferred : ∃ parts, Standard.pairs.Transferred [1, 2, 3] ⟨"text/plain", [], {}⟩
    parts Standard.pairEvents Standard.pairEvidence :=
  (multipart_exact_or_aborted Standard.pairs [1, 2, 3] ⟨"text/plain", [], {}⟩ Standard.pairEvents
    (.ok Standard.pairEvidence) (by decide) Standard.pairs_path).1 Standard.pairEvidence rfl

end MeridianS3
