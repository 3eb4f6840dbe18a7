import MeridianS3.Adapter.Range.Theorems
import MeridianS3.Publication.Listing
import MeridianS3.Publication.Measured

namespace MeridianS3.Codec

variable {α : Type} {size : Nat} {items piece : List α}

-- The pieces of a stretch between two boundaries are pieces of the whole.
theorem mem_pieces_between (hsize : 0 < size) {first count : Nat}
    (h : piece ∈ pieces size ((items.drop (first * size)).take (count * size))) :
    piece ∈ pieces size items := by
  obtain ⟨index, hindex⟩ := List.mem_iff_getElem?.mp h
  rw [getElem?_pieces hsize, List.length_take, List.length_drop] at hindex
  split at hindex
  · rename_i hlt
    obtain rfl := Option.some.inj hindex
    obtain ⟨hcount, hinside⟩ := Nat.lt_min.mp hlt
    have hindex : index < count := Nat.lt_of_mul_lt_mul_right hcount
    have hnext : (index + 1) * size ≤ count * size := Nat.mul_le_mul_right size hindex
    rw [Nat.add_mul, Nat.one_mul] at hnext
    apply List.mem_of_getElem? (i := first + index)
    rw [getElem?_pieces hsize, if_pos (by rw [Nat.add_mul]; omega)]
    rw [List.drop_take, List.take_take, List.drop_drop, ← Nat.add_mul, Nat.min_eq_left (by omega)]
  · cases hindex

end MeridianS3.Codec

namespace MeridianS3

open Effect ObjectStore Json

variable {provider : Provider} {layout : S3Layout} {hashed : Set Bytes} {origin : Bucket}

namespace VerifiedRangeSource

variable {source : VerifiedRangeSource} {payload : Bytes}

theorem Over.covering_eq (h : source.Over payload) : source.covering payload =
    (payload.drop (source.firstChunk * source.config.integrityChunkBytes)).take
      ((source.lastChunk + 1 - source.firstChunk) * source.config.integrityChunkBytes) := by
  have hbegins : source.firstChunk * source.config.integrityChunkBytes ≤
      (source.lastChunk + 1) * source.config.integrityChunkBytes :=
    Nat.mul_le_mul_right _ (Nat.le_succ_of_le h.first_le_last)
  have hdrop : (payload.drop (source.firstChunk * source.config.integrityChunkBytes)).length =
      payload.length - source.firstChunk * source.config.integrityChunkBytes := List.length_drop
  unfold covering segment boundary coveringStart
  rw [h.total, Nat.sub_mul]
  obtain hle | hle := Nat.le_total
    ((source.lastChunk + 1) * source.config.integrityChunkBytes) payload.length
  · rw [Nat.min_eq_left hle]
  · rw [Nat.min_eq_right hle, List.take_of_length_le (by omega), List.take_of_length_le (by omega)]

-- The reply to the get of a range of an object is let through, and gives the range.
theorem Over.delivers (h : source.Over payload)
    (hfree : Set.InjOn source.transport.common.hexdigest
      {chunk | chunk ∈ Codec.pieces source.config.integrityChunkBytes payload})
    {body : List Bytes} (hbody : [] ∉ body)
    (hsent : body.flatten =
      Provider.slice payload (source.coveringStart, source.coveringEnd)) :
    ∃ reader, source.verify body = .ok (some reader) ∧ ∀ sizes, (reader.reads sizes).flatten =
      (Provider.slice payload (source.resolved.start, source.resolved.end)).take
        (LimitedReader.asked source.resolved.length sizes) := by
  have hcovering : Provider.slice payload (source.coveringStart, source.coveringEnd) =
      source.covering payload := by
    rw [covering, h.boundary_last]
    rfl
  have hlength : (source.covering payload).length = source.expectedCovering := by
    rw [covering, length_segment (h.boundary_le _), h.expectedCovering_eq]
  have hall : source.covering payload = body.flatten.take source.expectedCovering := by
    rw [hsent, hcovering, List.take_of_length_le hlength.le]
  have hchunks : source.CollisionFree payload (source.covering payload) := by
    apply hfree.mono
    rintro chunk (hmem | hmem)
    · exact hmem
    · rw [h.covering_eq] at hmem
      exact Codec.mem_pieces_between h.sized hmem
  refine ⟨_, (h.verify hbody hall hchunks).1 rfl, fun sizes => ?_⟩
  have hstart := coveringStart_le source
  have hend := h.end_le
  have hordered := h.ordered
  have hrange : ((source.covering payload).drop
      (source.resolved.start - source.coveringStart)).take source.resolved.length =
      Provider.slice payload (source.resolved.start, source.resolved.end) := by
    have hskip : source.coveringStart + (source.resolved.start - source.coveringStart) =
        source.resolved.start := by omega
    have hcount : source.resolved.length = source.resolved.end + 1 - source.resolved.start := by
      rw [ResolvedByteRange.length]
      omega
    rw [covering, h.boundary_last, segment_drop_take _ _ (by omega), hskip, hcount, Provider.slice]
  have hroom : source.resolved.length ≤ ((source.covering payload).drop
      (source.resolved.start - source.coveringStart)).length := by
    rw [List.length_drop, hlength, expectedCovering, ResolvedByteRange.length]
    omega
  rw [LimitedReader.reads_flatten hroom (Nat.le_refl _), hrange]

end VerifiedRangeSource

-- The bytes that a get sends.
def Provider.sent (body : Bytes) : Option (Nat × Nat) → Bytes
  | none => body
  | some range => slice body range

theorem S3Transport.getBody_settled {α : Type} {later : Bucket → Prop} {key : String}
    {name : Option String} {range : Option (Nat × Nat)} {next : List Bytes → S3M α}
    {result : Except Failure α}
    (h : ∀ state, later state → ∃ blob, provider.fetch state key name = some blob ∧
      (∀ bounds ∈ range, bounds.1 < blob.body.length) ∧
      (next (provider.deliver (Provider.sent blob.body range))).Settled provider.handle later
        result) :
    (S3Transport.getBody key (.ofOption name) range >>= next).Settled provider.handle later
      result := by
  have hbody : S3Transport.getBody key (.ofOption name) range =
      (Program.perform (S := S3) (.getObject key name range)).andThen fun reply =>
        .done (normalizedResult (if range.isSome then "read_range" else "get") false reply) := by
    rw [getBody, versionArgument_ofOption, normalized_eq]
    rfl
  rw [hbody]
  apply Program.Settled.once
  intro state hlater
  obtain ⟨blob, hfetch, hbounds, hnext⟩ := h state hlater
  obtain ⟨id, hlookup⟩ := provider.lookup_of_fetch "NoSuchKey" hfetch
  have hreply : (provider.handle (.getObject key name range) state).1 =
      .ok (provider.deliver (Provider.sent blob.body range)) := by
    simp only [Provider.handle, hlookup]
    cases range with
    | none => rfl
    | some bounds => exact if_pos (hbounds bounds rfl)
  rw [hreply]
  exact hnext

namespace S3ObjectAdapter

variable {adapter : S3ObjectAdapter} {request : PutRequest} {intent : PutIntent}
  {events : List (Event S3 Failure)}

-- What an idempotent put returns has the digest of its payload.
theorem putUpload_kept {metadata : ObjectMetadata}
    (path : (adapter.putUpload request intent).Path events (.ok (.idempotent metadata))) :
    ∃ writes, request.transfer intent.payload = .ok writes ∧
      metadata.digest = adapter.common.digest (adapter.spooled writes).stream := by
  rw [putUpload_eq] at path
  obtain ⟨failure, -, hfailure⟩ | ⟨none, rest, writes, rfl, hlift, hrest⟩ :=
    Program.path_bind.mp path
  · cases hfailure
  obtain ⟨-, htransfer⟩ := Program.path_lift.mp hlift
  refine ⟨writes, htransfer.symm, ?_⟩
  dsimp only at hrest
  split at hrest
  · cases (Program.path_throw.mp hrest).2
  obtain ⟨failure, -, hfailure⟩ | ⟨looked, later, latest, rfl, -, hlater⟩ :=
    Program.path_bind.mp hrest
  · cases hfailure
  obtain ⟨failure, -, hfailure⟩ | ⟨none, after, existing, rfl, hcheck, hafter⟩ :=
    Program.path_bind.mp hlater
  · cases hfailure
  obtain ⟨-, hexisting⟩ := Program.path_lift.mp hcheck
  cases existing with
  | none =>
      obtain ⟨failure, -, hfailure⟩ | ⟨sent, ended, stored, rfl, -, hended⟩ :=
        Program.path_bind.mp hafter
      · cases hfailure
      · cases (Program.path_pure.mp hended).2
  | some found =>
      cases (Program.path_pure.mp hafter).2
      cases latest with
      | none => cases hexisting
      | some latest =>
          obtain ⟨rfl, hdigest⟩ := checkExisting_some hexisting.symm
          exact hdigest

-- A put that returns has transferred its payload, and returns the payload's digest.
theorem put_uploads {metadata : ObjectMetadata}
    (path : (adapter.put request).Path events (.ok metadata)) :
    ∃ content, adapter.uploadContent request = .ok content ∧
      metadata.digest = adapter.common.digest content := by
  generalize hresult : (.ok metadata : Except Failure ObjectMetadata) = result at path
  cases put_paths path with
  | unopened hintent => cases hresult
  | failed hintent hupload => cases hresult
  | idempotent hintent hupload =>
      cases hresult
      obtain ⟨profile, hintent⟩ := putIntent_paths hintent
      obtain ⟨writes, htransfer, hdigest⟩ := putUpload_kept hupload
      exact ⟨_, uploadContent_ok hintent htransfer, hdigest⟩
  | @uploaded looked called after intent identity chunks stored result hintent hupload hpublish =>
      obtain ⟨profile, hintent⟩ := putIntent_paths hintent
      obtain ⟨writes, htransfer, rfl, -⟩ := putUpload_uploaded hupload
      refine ⟨_, uploadContent_ok hintent htransfer, ?_⟩
      cases result with
      | error failure => cases hresult
      | ok found =>
          obtain rfl := Except.ok.inj hresult
          obtain ⟨failure, -, hfailure⟩ | ⟨first, rest, done, rfl, -, hrest⟩ :=
            Program.path_bind.mp hpublish
          · cases hfailure
          obtain ⟨failure, -, hfailure⟩ | ⟨second, last, done, rfl, -, hlast⟩ :=
            Program.path_bind.mp hrest
          · cases hfailure
          cases (Program.path_pure.mp hlast).2
          rfl

-- What a put that has returned has left in the bucket.
structure Stored (adapter : S3ObjectAdapter) (request : PutRequest) (metadata : ObjectMetadata)
    (content : Bytes) (bucket : Bucket) : Prop where
  uploaded : adapter.uploadContent request = .ok content
  digest : metadata.digest = adapter.common.digest content
  object : metadata.objectRef.objectId = request.input.objectId
  recorded : ∃ envelope, envelope.metadata = metadata ∧
    adapter.layout.Recorded bucket (adapter.layout.resourceToken request.resource)
      (adapter.layout.objectToken request.input.objectId) (adapter.common.hexdigest content)
      envelope

end S3ObjectAdapter

section Clients

variable {α : Type} {client : S3M α} {callers : List Caller} {bucket : Bucket}

-- A client that reads, among callers.
def clientSystem {α : Type} (bucket : Bucket) (client : S3M α) (callers : List Caller) :
    System S3 Failure (α ⊕ (Outcome ⊕ S3MigrationResult)) Bucket :=
  ⟨bucket, (Sum.inl <$> client) :: callers.map fun caller => Sum.inr <$> caller.program⟩

theorem client_serving (provider : Provider) (hsound : layout.Sound hashed bucket)
    (hclient : client.Within S3Call.observes)
    (hserves : ∀ caller ∈ callers, caller.Serves layout hashed) :
    Serving provider layout hashed (clientSystem bucket client callers) where
  sound := hsound
  verified program hmem := by
    obtain rfl | hmem := List.mem_cons.mp hmem
    · exact Discipline.observe (hclient.map _) provider.handle_observes fun _ _ _ => trivial
    · obtain ⟨caller, hcaller, rfl⟩ := List.mem_map.mp hmem
      exact Verified.map ((hserves caller hcaller).verified ∅)

variable {place : Nat} {putter : S3ObjectAdapter} {request : PutRequest}
  {metadata : ObjectMetadata}

-- What is known of the put at its end, next to clients of which nothing is asked.
theorem client_coherent (hsound : putter.layout.Sound hashed bucket)
    (hclient : client.Within S3Call.observes)
    (hserves : ∀ caller ∈ callers, caller.Serves putter.layout hashed)
    (hprogram : (clientSystem bucket client callers).clients[place]? =
      some (Sum.inr <$> Sum.inl <$> Outcome.put <$> putter.put request))
    (hhashes : request.Hashes hashed) :
    (clientSystem bucket client callers).Coherent provider.handle
      (publication (Company.puts provider putter.layout hashed fun _ _ => False)).protocol Disjoint
      ownsUploads (fun index result _ after => index = place → ∀ metadata,
        result = .ok (.inr (.inl (.put metadata))) → ∃ content seen,
          S3ObjectAdapter.Committed (Company.puts provider putter.layout hashed fun _ _ => False)
            request metadata content seen after) fun _ => ∅ := by
  have hserving : Serving provider putter.layout hashed (clientSystem bucket client callers) :=
    client_serving provider hsound hclient hserves
  apply System.coherent_start (publication_composes provider putter.layout hashed _)
  · exact hsound
  · exact fun _ _ _ h => absurd h (Set.notMem_empty _)
  · exact fun _ _ _ _ _ => Set.disjoint_empty _
  · intro index hlt
    by_cases hplace : index = place
    · subst hplace
      rw [List.getElem?_eq_getElem hlt] at hprogram
      rw [Option.some.inj hprogram]
      have hput : Verified provider.handle
          (publication (Company.puts provider putter.layout hashed fun _ _ => False)).protocol
          (putter.put request) ∅ bucket fun result _ after => ∀ metadata, result = .ok metadata →
            ∃ content seen, S3ObjectAdapter.Committed
              (Company.puts provider putter.layout hashed fun _ _ => False) request metadata
              content seen after :=
        S3ObjectAdapter.put_rule hhashes fun hsealed => hsealed.elim
      apply Verified.map
      apply Verified.map
      apply Verified.map
      apply hput.mono
      intro result held after hpost _ metadata hresult
      cases result with
      | error failure => cases hresult
      | ok found =>
          cases hresult
          exact hpost metadata rfl
    · exact (hserving.verified _ (List.getElem_mem hlt)).mono
        fun _ _ _ _ hsame => absurd hsame hplace

theorem client_put (hput : callers[place]? = some (.operation putter (.put request))) :
    (clientSystem bucket client callers).clients[place + 1]? =
      some (Sum.inr <$> Sum.inl <$> Outcome.put <$> putter.put request) := by
  change (callers.map _)[place]? = _
  rw [List.getElem?_map, hput]
  rfl

-- A put that has returned, whatever else has gone on.
theorem client_acknowledged (hsound : layout.Sound hashed bucket)
    (hclient : client.Within S3Call.observes)
    (hserves : ∀ caller ∈ callers, caller.Serves layout hashed)
    (hput : callers[place]? = some (.operation putter (.put request)))
    (schedule : Schedule Failure)
    (hdone : ((clientSystem bucket client callers).runSchedule provider.handle
      schedule).clients[place + 1]? = some (.done (.ok (.inr (.inl (.put metadata)))))) :
    ∃ content, putter.Stored request metadata content
      ((clientSystem bucket client callers).runSchedule provider.handle schedule).state := by
  obtain ⟨rfl, hhashes⟩ := hserves _ (List.mem_of_getElem? hput)
  have hprogram : (clientSystem bucket client callers).clients[place + 1]? =
      some (Sum.inr <$> Sum.inl <$> Outcome.put <$> putter.put request) := client_put hput
  -- The calls that the put has made.
  obtain ⟨seen, rest, hrest, hamid, -⟩ :=
    System.client_amid provider.handle schedule hprogram
  obtain rfl : Program.done (.ok (.inr (.inl (.put metadata)))) = rest :=
    Option.some.inj (hdone.symm.trans hrest)
  obtain ⟨result, hresult, hamid⟩ := Program.amid_map hamid
  cases hresult
  obtain ⟨outcome, houtcome, hamid⟩ := Program.amid_map hamid
  cases houtcome
  obtain ⟨found, hfound, hamid⟩ := Program.amid_map hamid
  cases hfound
  obtain ⟨events, path⟩ := hamid.path
  obtain ⟨content, huploaded, hdigest⟩ := S3ObjectAdapter.put_uploads path
  have hrules := publication_composes provider putter.layout hashed fun _ _ => False
  obtain ⟨owned, hcoherent⟩ := (client_coherent hsound hclient hserves hprogram hhashes).runSchedule
    hrules schedule fun _ _ _ _ _ => trivial
  obtain ⟨held, hrely, hpost⟩ := hcoherent.finished (place + 1) _ hdone
  obtain ⟨found, shown, hcommitted⟩ := hpost rfl metadata rfl
  have hlater := hcommitted.later hrely.1
  obtain rfl := HexDigest.digest_injective (hlater.digest.symm.trans hdigest)
  exact ⟨content, huploaded, hdigest, hlater.object, hlater.recorded⟩

-- The bucket at each turn of the client goes on from a point before its first turn.
theorem client_turns
    (hserving : Serving provider layout hashed (clientSystem bucket client callers))
    (first second : Schedule Failure) (hwaits : ∀ turn ∈ first, turn.1 ≠ 0) :
    ∀ turn ∈ (clientSystem bucket client callers).turnsOf provider.handle 0 (first ++ second),
      Since provider layout hashed
        ((clientSystem bucket client callers).runSchedule provider.handle first).state turn.1 := by
  intro turn hmem
  have hfirst := hserving.first_turn 0 (first ++ second) turn hmem
  rw [List.takeWhile_append_of_pos (by simpa using hwaits)] at hfirst
  have hbetween := hserving.between first (second.takeWhile fun turn => turn.1 ≠ 0)
  exact ⟨hbetween.publishes.trans hfirst.publishes, hfirst.sound⟩

-- What is settled for the client from that point on, it comes to.
theorem client_result
    (hserving : Serving provider layout hashed (clientSystem bucket client callers))
    (first second : Schedule Failure) (hwaits : ∀ turn ∈ first, turn.1 ≠ 0)
    (hunstruck : ∀ turn ∈ second, turn.1 = 0 → turn.2 = none) {ended : Except Failure α}
    (hsettled : client.Settled provider.handle (Since provider layout hashed
      ((clientSystem bucket client callers).runSchedule provider.handle first).state) ended)
    {result : Except Failure (α ⊕ (Outcome ⊕ S3MigrationResult))}
    (hdone : ((clientSystem bucket client callers).runSchedule provider.handle
      (first ++ second)).clients[0]? = some (.done result)) : result = ended.map Sum.inl := by
  have hclient : (clientSystem bucket client callers).clients[0]? = some (Sum.inl <$> client) := rfl
  obtain ⟨seen, rest, hrest, hamid, hbegins⟩ :=
    System.client_amid provider.handle (first ++ second) hclient
  obtain rfl : Program.done result = rest := Option.some.inj (hdone.symm.trans hrest)
  have hmapped : (Sum.inl <$> client : S3M (α ⊕ (Outcome ⊕ S3MigrationResult))).Settled
      provider.handle (Since provider layout hashed
        ((clientSystem bucket client callers).runSchedule provider.handle first).state)
      (ended.map Sum.inl) := hsettled.map
  apply hmapped.amid hamid
  intro turn hmem
  refine ⟨?_, client_turns hserving first second hwaits turn (hbegins.subset hmem)⟩
  have hnone : ∀ turn ∈ first ++ second, turn.1 = 0 → turn.2 = none := by
    intro turn hturn hzero
    obtain hturn | hturn := List.mem_append.mp hturn
    · exact absurd hzero (hwaits turn hturn)
    · exact hunstruck turn hturn hzero
  exact System.turnsOf_unstruck hnone turn (hbegins.subset hmem)

end Clients

-- The blob that is recorded for a byte string is the byte string.
theorem Since.payload {after : Bucket} {resource object : HexDigest} {envelope : StoredEnvelope}
    {payload : Bytes} (h : Since provider layout hashed origin after)
    (hfree : layout.CollisionFree hashed) (hconsistent : layout.Consistent provider hashed origin)
    (hpayload : payload ∈ hashed)
    (hrecorded : layout.Recorded origin resource object (layout.common.hexdigest payload)
      envelope) :
    ∃ (name : Option String) (blob : StoredBody), envelope.blobVersionId = .ofOption name ∧
      provider.fetch after (layout.path (.blob resource object
        (layout.common.hexdigest payload))) name = some blob ∧
      blob.body = payload ∧ envelope.metadata.byteLength = payload.length := by
  obtain ⟨name, blob, hname, hfetch, hlength, -⟩ := h.blob hfree hconsistent hrecorded
  obtain ⟨hbody, hdigest, -⟩ := h.sound.blob hfetch
  obtain rfl := hfree hbody hpayload hdigest
  exact ⟨name, blob, hname, hfetch, rfl, hlength.symm⟩

namespace S3ObjectAdapter

variable {adapter : S3ObjectAdapter} {content : HexDigest} {envelope : StoredEnvelope}
  {reference : ObjectReference}

theorem uploadContent_hashed {request : PutRequest} {payload : Bytes}
    (hhashes : request.Hashes hashed) (h : adapter.uploadContent request = .ok payload) :
    payload ∈ hashed := by
  obtain ⟨raw, _, h⟩ := bind_ok h
  obtain ⟨source, _, h⟩ := bind_ok h
  obtain ⟨writes, htransfer, h⟩ := bind_ok h
  obtain rfl := Except.ok.inj h
  rw [spooled_stream]
  exact hhashes.content source writes htransfer

-- A read of a range of which the source is opened and read in these sizes.
def downloadRange (adapter : S3ObjectAdapter) (request : RangeRequest) (sizes : List Int) :
    S3M (RangeResult × Option (List Bytes)) := do
  let result ← adapter.readRange request
  let reader ← (result.source adapter).open
  return (result, reader.map fun reader => reader.reads sizes)

theorem downloadRange_observes (adapter : S3ObjectAdapter) (request : RangeRequest)
    (sizes : List Int) : (adapter.downloadRange request sizes).Within S3Call.observes := by
  apply Program.Within.bind (readRange_within adapter request)
  intro result
  apply Program.Within.bind
  · apply Program.Within.bind
    · apply normalized_within
      apply Program.Within.bind (.ofLift _)
      exact fun _ => .perform trivial
    · exact fun _ => .ofLift _
  · exact fun _ => trivial

-- A range that the common library resolves within an object, and the adapter lets through.
structure ResolvesRange (adapter : S3ObjectAdapter) (request : RangeRequest) (total : Nat)
    (resolved : ResolvedByteRange) : Prop where
  parsed : ∃ raw, jsonMapping request.range "range" = .ok raw ∧
    adapter.common.resolveRange raw total = .ok resolved
  ordered : resolved.start ≤ resolved.end
  inside : resolved.end < total
  total : resolved.totalLength = total
  limit : resolved.length ≤ adapter.config.maxRangeBytes

-- The refusal of a version whose chunks were cut in another size.
def incompatible : Failure :=
  .meridian .digestMismatch (some "stored Object integrity chunk format is incompatible")

-- A reference that names a version on record, and the bytes that were put for it.
structure Locates (adapter : S3ObjectAdapter) (hashed : Set Bytes) (bucket : Bucket)
    (request : ReferenceRequest) (reference : ObjectReference) (payload : Bytes)
    (envelope : StoredEnvelope) : Prop where
  parsed : adapter.reference request.resource request.reference request.method false = .ok reference
  exact : reference.digest = some (adapter.common.digest payload)
  hashed : payload ∈ hashed
  recorded : adapter.layout.Recorded bucket (adapter.layout.resourceToken request.resource)
    (adapter.layout.objectToken reference.objectId) (adapter.common.hexdigest payload) envelope
  object : envelope.metadata.objectRef.objectId = reference.objectId

def payloadKey (adapter : S3ObjectAdapter) (resource : ResourceRef) (objectId : String)
    (payload : Bytes) : String :=
  adapter.layout.path (.blob (adapter.layout.resourceToken resource)
    (adapter.layout.objectToken objectId) (adapter.common.hexdigest payload))

-- A get of which the source is read to its end.
def download (adapter : S3ObjectAdapter) (resource : ResourceRef) (reference : Value) :
    S3M (GetResult × Bytes) := do
  let result ← adapter.get resource reference
  let body ← result.payload.open
  return (result, body.flatten)

theorem download_observes (adapter : S3ObjectAdapter) (resource : ResourceRef) (reference : Value) :
    (adapter.download resource reference).Within S3Call.observes := by
  apply Program.Within.bind (get_within adapter resource reference)
  intro result
  apply Program.Within.bind
  · apply normalized_within
    apply Program.Within.bind (.ofLift _)
    exact fun _ => .perform trivial
  · exact fun _ => trivial

namespace Locates

variable {request : ReferenceRequest} {payload : Bytes}

theorem digest (h : adapter.Locates hashed origin request reference payload envelope)
    (hsound : adapter.layout.Sound hashed origin) :
    envelope.metadata.digest = adapter.common.digest payload :=
  (hsound.envelopeOf h.recorded).digest

section Settled

variable (hfree : adapter.layout.CollisionFree hashed)
  (hconsistent : adapter.layout.Consistent provider hashed origin)
  (hlegible : adapter.layout.Legible origin)

include hfree hconsistent

theorem blob (h : adapter.Locates hashed origin request reference payload envelope) :
    ∃ name : Option String, envelope.blobVersionId = .ofOption name ∧
      envelope.metadata.byteLength = payload.length ∧
      ∀ state, Since provider adapter.layout hashed origin state → ∃ blob,
        provider.fetch state (adapter.payloadKey request.resource reference.objectId payload)
          name = some blob ∧ blob.body = payload := by
  obtain ⟨name, -, hname, -, -, hlength⟩ :=
    Since.payload (.refl hconsistent.sound) hfree hconsistent h.hashed h.recorded
  refine ⟨name, hname, hlength, fun state hlater => ?_⟩
  obtain ⟨other, blob, hother, hfetch, hbody, -⟩ :=
    hlater.payload hfree hconsistent h.hashed h.recorded
  obtain rfl : other = name := Json.Value.ofOption_injective (hother.symm.trans hname)
  exact ⟨blob, hfetch, hbody⟩

include hlegible

-- It is found, whatever is put meanwhile.
theorem stat (h : adapter.Locates hashed origin request reference payload envelope) :
    (adapter.stat request).Settled provider.handle
      (Since provider adapter.layout hashed origin) (.ok envelope) := by
  have henvelope : adapter.envelopeAt origin request.resource reference.objectId
      (adapter.common.hexdigest payload).digest = .ok envelope :=
    envelopeAt_recorded (hlegible.recorded h.recorded) h.recorded h.object
      (h.digest hconsistent.sound)
  have hread : (adapter.readEnvelope request.resource reference.objectId
      reference.digest).Settled provider.handle (Since provider adapter.layout hashed origin)
      (.ok envelope) := by
    rw [h.exact, ← henvelope]
    apply exactEnvelope_settled
    intro key hkey state hlater
    obtain ⟨content, hcontent, rfl⟩ := digestKey_ok hkey
    obtain rfl := HexDigest.digest_injective hcontent
    exact hlater.reference (S3Layout.recorded_entries h.recorded)
  unfold S3ObjectAdapter.stat
  rw [h.parsed]
  exact hread.bind (verifiedHead_settled hfree hconsistent h.recorded h.object
    (h.digest hconsistent.sound))

theorem get {resource : ResourceRef} {raw : Value}
    (h : adapter.Locates hashed origin ⟨resource, raw, "get"⟩ reference payload envelope) :
    (adapter.get resource raw).Settled provider.handle (Since provider adapter.layout hashed origin)
      (.ok ⟨envelope.metadata, adapter.payloadKey resource reference.objectId payload,
        envelope.blobVersionId, payload.length, some (adapter.common.digest payload)⟩) := by
  obtain ⟨-, -, hlength, -⟩ := h.blob hfree hconsistent
  apply (h.stat hfree hconsistent hlegible).bind
  rw [h.object, h.digest hconsistent.sound, hlength, ObjectCommon.digest, S3Layout.blobKey_digest]
  rfl

theorem download {resource : ResourceRef} {raw : Value}
    (h : adapter.Locates hashed origin ⟨resource, raw, "get"⟩ reference payload envelope) :
    (adapter.download resource raw).Settled provider.handle
      (Since provider adapter.layout hashed origin)
      (.ok (⟨envelope.metadata, adapter.payloadKey resource reference.objectId payload,
        envelope.blobVersionId, payload.length, some (adapter.common.digest payload)⟩,
          payload)) := by
  obtain ⟨name, hname, -, hblob⟩ := h.blob hfree hconsistent
  apply (h.get hfree hconsistent hlegible).bind
  unfold PayloadSource.open
  dsimp only
  rw [hname]
  apply S3Transport.getBody_settled
  intro state hlater
  obtain ⟨blob, hfetch, hbody⟩ := hblob state hlater
  refine ⟨blob, hfetch, fun _ hnone => absurd hnone (Option.not_mem_none _), ?_⟩
  rw [Provider.sent, hbody, provider.deliver_flatten]
  rfl

section Range

variable {request : RangeRequest} {resolved : ResolvedByteRange}

theorem readRange
    (h : adapter.Locates hashed origin ⟨request.resource, request.reference, "read_range"⟩ reference
      payload envelope) (hresolves : adapter.ResolvesRange request payload.length resolved) :
    (adapter.readRange request).Settled provider.handle
      (Since provider adapter.layout hashed origin)
      (if envelope.integrityChunkBytes = adapter.config.integrityChunkBytes then
        .ok ⟨envelope.metadata, ⟨adapter.payloadKey request.resource reference.objectId payload,
          envelope.blobVersionId, resolved.length, none⟩, resolved, envelope.chunkDigests⟩
      else .error incompatible) := by
  obtain ⟨raw, hraw, hresolved⟩ := hresolves.parsed
  obtain ⟨-, -, hsize, -⟩ := h.blob hfree hconsistent
  apply (h.stat hfree hconsistent hlegible).bind
  rw [hraw, hsize]
  change Program.Settled _ _ (Program.lift (adapter.common.resolveRange raw payload.length) >>=
    _) _
  rw [hresolved]
  change Program.Settled _ _ (if _ then _ else _) _
  rw [if_neg (Nat.not_lt.mpr hresolves.limit)]
  change Program.Settled _ _ (if _ then _ else _) _
  by_cases hchunks : envelope.integrityChunkBytes = adapter.config.integrityChunkBytes
  · rw [if_neg (not_not.mpr hchunks), if_pos hchunks, h.object, h.digest hconsistent.sound,
      ObjectCommon.digest, S3Layout.blobKey_digest]
    rfl
  · rw [if_pos hchunks, if_neg hchunks]
    rfl

theorem downloadRange_refused
    (h : adapter.Locates hashed origin ⟨request.resource, request.reference, "read_range"⟩ reference
      payload envelope) (hresolves : adapter.ResolvesRange request payload.length resolved)
    (hchunks : envelope.integrityChunkBytes ≠ adapter.config.integrityChunkBytes)
    (sizes : List Int) :
    (adapter.downloadRange request sizes).Settled provider.handle
      (Since provider adapter.layout hashed origin) (.error incompatible) := by
  have hread := h.readRange hfree hconsistent hlegible hresolves
  rw [if_neg hchunks] at hread
  exact hread.andThen rfl

theorem downloadRange
    (h : adapter.Locates hashed origin ⟨request.resource, request.reference, "read_range"⟩ reference
      payload envelope) (hresolves : adapter.ResolvesRange request payload.length resolved)
    (hsized : 0 < adapter.config.integrityChunkBytes)
    (hpieces : ∀ chunk ∈ Codec.pieces adapter.config.integrityChunkBytes payload, chunk ∈ hashed)
    (hchunks : envelope.integrityChunkBytes = adapter.config.integrityChunkBytes)
    (hdigests : envelope.chunkDigests =
      (Codec.pieces adapter.config.integrityChunkBytes payload).map adapter.common.digest)
    (sizes : List Int) :
    ∃ got reads, (adapter.downloadRange request sizes).Settled provider.handle
        (Since provider adapter.layout hashed origin) (.ok (got, some reads)) ∧
      got.metadata = envelope.metadata ∧ got.range = resolved ∧
      reads.flatten = (Provider.slice payload (resolved.start, resolved.end)).take
        (LimitedReader.asked resolved.length sizes) := by
  have hread := h.readRange hfree hconsistent hlegible hresolves
  rw [if_pos hchunks] at hread
  obtain ⟨name, hname, -, hblob⟩ := h.blob hfree hconsistent
  let got : RangeResult := ⟨envelope.metadata, ⟨adapter.payloadKey request.resource
    reference.objectId payload, envelope.blobVersionId, resolved.length, none⟩, resolved,
    envelope.chunkDigests⟩
  have hover : (got.source adapter).Over payload :=
    ⟨hsized, hresolves.ordered, hresolves.inside, hresolves.total, hdigests⟩
  have hdistinct : Set.InjOn (got.source adapter).transport.common.hexdigest
      {chunk | chunk ∈ Codec.pieces (got.source adapter).config.integrityChunkBytes payload} :=
    Set.InjOn.mono hpieces hfree
  let bounds := ((got.source adapter).coveringStart, (got.source adapter).coveringEnd)
  obtain ⟨reader, hverify, hreads⟩ := hover.delivers hdistinct (provider.deliver_ne _)
    (provider.deliver_flatten (Provider.slice payload bounds))
  have hopen : (got.source adapter).open.Settled provider.handle
      (Since provider adapter.layout hashed origin) (.ok (some reader)) := by
    change Program.Settled _ _ (S3Transport.getBody _ envelope.blobVersionId (some bounds) >>= _) _
    rw [hname]
    apply S3Transport.getBody_settled
    intro state hlater
    obtain ⟨blob, hfetch, rfl⟩ := hblob state hlater
    refine ⟨blob, hfetch, ?_, ?_⟩
    · rintro found hfound
      obtain rfl := Option.some.inj hfound
      have hstart := VerifiedRangeSource.coveringStart_le (got.source adapter)
      exact (hstart.trans hresolves.ordered).trans_lt hresolves.inside
    · exact hverify
  exact ⟨got, reader.reads sizes, hread.bind (hopen.bind rfl), rfl, rfl, hreads sizes⟩

end Range

end Settled

end Locates

end S3ObjectAdapter

namespace Standard

def oneReference : Value := common.referenceToDict one.metadata.objectRef

def downloading : S3M (GetResult × Bytes) := adapter.download resource oneReference

-- The first word of the sample version, read to its end at once.
def oneRange : RangeRequest where
  resource := resource
  reference := oneReference
  range := .obj [("start", .int 0), ("end", .int 6)]

def slicing : S3M (RangeResult × Option (List Bytes)) := adapter.downloadRange oneRange [-1]

-- A client that waits for the sample put.
theorem put_then {α : Type} (client : S3M α) :
    ∃ (first second : Schedule Failure)
      (result : Except Failure (α ⊕ (Outcome ⊕ S3MigrationResult))),
      (∀ turn ∈ first, turn.1 ≠ 0) ∧ (∀ turn ∈ second, turn.1 = 0 → turn.2 = none) ∧
      ((clientSystem (Store.empty false) client [putter]).runSchedule Standard.provider.handle
        first).clients[1]? = some (.done (.ok (.inr (.inl (.put one.metadata))))) ∧
      ((clientSystem (Store.empty false) client [putter]).runSchedule Standard.provider.handle
        first).state = one.stored Standard.provider (Store.empty false) ∧
      ((clientSystem (Store.empty false) client [putter]).runSchedule Standard.provider.handle
        (first ++ second)).clients[0]? = some (.done result) := by
  have hstart : (clientSystem (Store.empty false) client [putter]).clients[1]? =
      some (Sum.inr <$> putter.program) := rfl
  obtain ⟨first, hfirst, hputs⟩ := System.advance (Program.advances_run Standard.provider.handle
    (Sum.inr <$> putter.program) (Store.empty false)) hstart
  have hnext : ((clientSystem (Store.empty false) client [putter]).runSchedule
      Standard.provider.handle first).clients[0]? = some (Sum.inl <$> client) := by
    rw [hfirst]
    rfl
  obtain ⟨second, hsecond, hreads⟩ := System.advance (Program.advances_run Standard.provider.handle
    (Sum.inl <$> client) _) hnext
  have hrun : (Sum.inr <$> putter.program : S3M (α ⊕ (Outcome ⊕ S3MigrationResult))).run
      Standard.provider.handle (Store.empty false) = (.ok (.inr (.inl (.put one.metadata))),
        one.stored Standard.provider (Store.empty false)) := by
    have hputter : putter = one.caller := rfl
    rw [Program.run_map, hputter, one_first.finds.run_caller Standard.provider one_first.unblocked]
    simp only [Except.map]
  obtain ⟨result, hdone⟩ : ∃ result, ((clientSystem (Store.empty false) client
      [putter]).runSchedule Standard.provider.handle (first ++ second)).clients[0]? =
        some (.done result) := by
    rw [System.runSchedule_append, hsecond, hfirst]
    exact ⟨_, rfl⟩
  refine ⟨first, second, result, ?_, ?_, ?_, ?_, hdone⟩
  · intro turn hturn
    rw [hputs turn hturn]
    decide
  · intro turn hturn _
    rw [hreads turn hturn]
  · rw [hfirst, hrun]
    rfl
  · rw [hfirst, hrun]

end Standard

section Exact

variable {α : Type} {client : S3M α} {callers : List Caller} {bucket : Bucket} {place : Nat}
  {adapter putter : S3ObjectAdapter} {request : PutRequest} {metadata : ObjectMetadata}
  {reference : ObjectReference}

-- Where a put has returned, the reference that it returns locates what it has put.
theorem client_locates (hsound : layout.Sound hashed bucket)
    (hclient : client.Within S3Call.observes)
    (hserves : ∀ caller ∈ callers, caller.Serves layout hashed) (hkeyed : adapter.layout = layout)
    (hput : callers[place]? = some (.operation putter (.put request))) (schedule : Schedule Failure)
    (hacknowledged : ((clientSystem bucket client callers).runSchedule provider.handle
      schedule).clients[place + 1]? = some (.done (.ok (.inr (.inl (.put metadata))))))
    {raw : Value} {method : String}
    (hparsed : adapter.reference request.resource raw method false = .ok reference)
    (hobject : reference.objectId = request.input.objectId)
    (hexact : reference.digest = some metadata.digest) :
    ∃ payload envelope, putter.uploadContent request = .ok payload ∧
      envelope.metadata = metadata ∧ adapter.Locates hashed
        ((clientSystem bucket client callers).runSchedule provider.handle schedule).state
        ⟨request.resource, raw, method⟩ reference payload envelope := by
  obtain ⟨payload, hstored⟩ :=
    client_acknowledged hsound hclient hserves hput schedule hacknowledged
  obtain ⟨hsame, hhashes⟩ := hserves _ (List.mem_of_getElem? hput)
  obtain ⟨envelope, rfl, hrecorded⟩ := hstored.recorded
  have hlayout : adapter.layout = putter.layout := hkeyed.trans hsame.symm
  have hcommon : adapter.common = putter.common := congrArg S3Layout.common hlayout
  refine ⟨payload, envelope, hstored.uploaded, rfl, hparsed, ?_, ?_, ?_, ?_⟩
  · rw [hexact, hstored.digest, hcommon]
  · exact S3ObjectAdapter.uploadContent_hashed hhashes hstored.uploaded
  · rw [hlayout, hobject, hcommon]
    exact hrecorded
  · rw [hobject]
    exact hstored.object

-- Once a put has returned, a get of its reference comes to its metadata and its bytes,
-- whatever is put meanwhile and whatever strikes the others.
theorem download_exact (hfree : layout.CollisionFree hashed)
    (hconsistent : layout.Consistent provider hashed bucket)
    (hserves : ∀ caller ∈ callers, caller.Serves layout hashed) (hkeyed : adapter.layout = layout)
    (hput : callers[place]? = some (.operation putter (.put request))) {raw : Value}
    (hparsed : adapter.reference request.resource raw "get" false = .ok reference)
    (hobject : reference.objectId = request.input.objectId)
    (hexact : reference.digest = some metadata.digest) (first second : Schedule Failure)
    (hwaits : ∀ turn ∈ first, turn.1 ≠ 0) (hunstruck : ∀ turn ∈ second, turn.1 = 0 → turn.2 = none)
    (hacknowledged : ((clientSystem bucket (adapter.download request.resource raw)
      callers).runSchedule provider.handle first).clients[place + 1]? =
        some (.done (.ok (.inr (.inl (.put metadata))))))
    (hlegible : layout.Legible ((clientSystem bucket (adapter.download request.resource raw)
      callers).runSchedule provider.handle first).state)
    (result : Except Failure ((GetResult × Bytes) ⊕ (Outcome ⊕ S3MigrationResult)))
    (hdone : ((clientSystem bucket (adapter.download request.resource raw) callers).runSchedule
      provider.handle (first ++ second)).clients[0]? = some (.done result)) :
    ∃ got payload, result = .ok (.inl (got, payload)) ∧
      putter.uploadContent request = .ok payload ∧ got.metadata = metadata ∧
      got.payload.expectedLength = payload.length ∧
      got.payload.expectedDigest = some (layout.common.digest payload) := by
  subst hkeyed
  have hobserves := adapter.download_observes request.resource raw
  have hserving : Serving provider adapter.layout hashed
      (clientSystem bucket (adapter.download request.resource raw) callers) :=
    client_serving provider hconsistent.sound hobserves hserves
  obtain ⟨payload, envelope, huploaded, rfl, hlocates⟩ := client_locates hconsistent.sound
    hobserves hserves rfl hput first hacknowledged hparsed hobject hexact
  have hlater := hconsistent.kept hfree (hserving.since first)
  have hresult := client_result hserving first second hwaits hunstruck
    (hlocates.download hfree hlater hlegible) hdone
  exact ⟨_, payload, hresult, huploaded, rfl, rfl, rfl⟩

-- The put of a sample version, and then the download of it.
theorem put_downloaded : ∃ (first second : Schedule Failure) (got : GetResult) (payload : Bytes),
    ((clientSystem (Store.empty false) Standard.downloading [Standard.putter]).runSchedule
      Standard.provider.handle (first ++ second)).clients[0]? =
        some (.done (.ok (.inl (got, payload)))) ∧
    Standard.one.adapter.uploadContent Standard.one.request = .ok payload ∧
    got.metadata = Standard.one.metadata := by
  obtain ⟨first, second, result, hwaits, hunstruck, hacknowledged, hstored, hdone⟩ :=
    Standard.put_then Standard.downloading
  have hserves : ∀ caller ∈ [Standard.putter],
      caller.Serves Standard.adapter.layout Standard.hashed := by
    intro caller hcaller
    obtain rfl := List.mem_singleton.mp hcaller
    exact ⟨rfl, Standard.one_first.hashes⟩
  have hplace : [Standard.putter][0]? =
      some (.operation Standard.one.adapter (.put Standard.one.request)) := rfl
  have hparsed : Standard.adapter.reference Standard.one.request.resource Standard.oneReference
      "get" false = .ok Standard.one.metadata.objectRef := rfl
  obtain ⟨got, payload, rfl, huploaded, hmetadata, -⟩ := download_exact Standard.collisionFree
    (S3Layout.consistent_empty _ _ _ _) hserves rfl hplace hparsed rfl rfl first second hwaits
    hunstruck hacknowledged (hstored ▸ Standard.one_first.tidy.legible) result hdone
  exact ⟨first, second, got, payload, hdone, huploaded, hmetadata⟩

theorem Caller.Serves.hashes {caller : Caller} (h : caller.Serves layout hashed) :
    caller.Hashes layout.common hashed := by
  cases caller with
  | migration hooks plan => trivial
  | operation adapter operation =>
      cases operation with
      | put request => exact ⟨congrArg S3Layout.common h.1, h.2⟩
      | publishSchema | createResource | get | stat | readRange | list | delete => trivial

theorem client_measured (hclient : client.Within S3Call.observes)
    (hserves : ∀ caller ∈ callers, caller.Serves layout hashed)
    (h : Measured layout.common hashed bucket) (schedule : Schedule Failure) :
    Measured layout.common hashed
      ((clientSystem bucket client callers).runSchedule provider.handle schedule).state := by
  apply Measured.runSchedule h
  intro program hprogram
  obtain rfl | hprogram := List.mem_cons.mp hprogram
  · exact ((hclient.map _).mono fun _ => S3Call.observes_measured).confined
  · obtain ⟨caller, hcaller, rfl⟩ := List.mem_map.mp hprogram
    exact (Caller.measured (hserves caller hcaller).hashes).map (fun _ _ => trivial)
      fun _ _ => trivial

-- The same for the reads of a range: they bring the bytes of the range, or the version was
-- stored with chunks of another size and is refused.
theorem range_download_exact (hfree : layout.CollisionFree hashed)
    (hconsistent : layout.Consistent provider hashed bucket)
    (hmeasured : Measured layout.common hashed bucket)
    (hserves : ∀ caller ∈ callers, caller.Serves layout hashed) (hkeyed : adapter.layout = layout)
    (hput : callers[place]? = some (.operation putter (.put request))) {asked : RangeRequest}
    (hresource : asked.resource = request.resource)
    (hparsed : adapter.reference asked.resource asked.reference "read_range" false = .ok reference)
    (hobject : reference.objectId = request.input.objectId)
    (hexact : reference.digest = some metadata.digest) {resolved : ResolvedByteRange}
    (hresolves : adapter.ResolvesRange asked metadata.byteLength resolved)
    (hsized : 0 < adapter.config.integrityChunkBytes)
    (hpieces : ∀ payload, putter.uploadContent request = .ok payload →
      ∀ chunk ∈ Codec.pieces adapter.config.integrityChunkBytes payload, chunk ∈ hashed)
    (sizes : List Int) (first second : Schedule Failure) (hwaits : ∀ turn ∈ first, turn.1 ≠ 0)
    (hunstruck : ∀ turn ∈ second, turn.1 = 0 → turn.2 = none)
    (hacknowledged : ((clientSystem bucket (adapter.downloadRange asked sizes)
      callers).runSchedule provider.handle first).clients[place + 1]? =
        some (.done (.ok (.inr (.inl (.put metadata))))))
    (hlegible : layout.Legible ((clientSystem bucket (adapter.downloadRange asked sizes)
      callers).runSchedule provider.handle first).state)
    (result : Except Failure ((RangeResult × Option (List Bytes)) ⊕ (Outcome ⊕ S3MigrationResult)))
    (hdone : ((clientSystem bucket (adapter.downloadRange asked sizes) callers).runSchedule
      provider.handle (first ++ second)).clients[0]? = some (.done result)) :
    ∃ payload envelope, putter.uploadContent request = .ok payload ∧
      envelope.metadata = metadata ∧ adapter.Locates hashed
        ((clientSystem bucket (adapter.downloadRange asked sizes) callers).runSchedule
          provider.handle first).state ⟨asked.resource, asked.reference, "read_range"⟩ reference
        payload envelope ∧
      (envelope.integrityChunkBytes = adapter.config.integrityChunkBytes → ∃ got reads,
        result = .ok (.inl (got, some reads)) ∧ got.metadata = metadata ∧ got.range = resolved ∧
        reads.flatten = (Provider.slice payload (resolved.start, resolved.end)).take
          (LimitedReader.asked resolved.length sizes)) ∧
      (envelope.integrityChunkBytes ≠ adapter.config.integrityChunkBytes →
        result = .error S3ObjectAdapter.incompatible) := by
  subst hkeyed
  have hobserves := adapter.downloadRange_observes asked sizes
  have hserving : Serving provider adapter.layout hashed
      (clientSystem bucket (adapter.downloadRange asked sizes) callers) :=
    client_serving provider hconsistent.sound hobserves hserves
  rw [hresource] at hparsed
  obtain ⟨payload, envelope, huploaded, rfl, hlocates⟩ := client_locates hconsistent.sound
    hobserves hserves rfl hput first hacknowledged hparsed hobject hexact
  rw [← hresource] at hlocates
  have hlater := hconsistent.kept hfree (hserving.since first)
  obtain ⟨other, hother, hmeasures⟩ :=
    (client_measured hobserves hserves hmeasured first).recorded hlocates.recorded
  obtain rfl : other = payload := hfree hother hlocates.hashed hmeasures.hash
  rw [hmeasures.byteLength] at hresolves
  refine ⟨other, envelope, huploaded, rfl, hlocates, fun hchunks => ?_, fun hchunks => ?_⟩
  · obtain ⟨size, hsize, hdigests⟩ := hmeasures.chunks
    obtain rfl : adapter.config.integrityChunkBytes = size :=
      Int.ofNat.inj (hchunks.symm.trans hsize)
    obtain ⟨got, reads, hsettled, hmetadata, hrange, hreads⟩ := hlocates.downloadRange hfree hlater
      hlegible hresolves hsized (hpieces other huploaded) hchunks (hdigests hsized) sizes
    exact ⟨got, reads, client_result hserving first second hwaits hunstruck hsettled hdone,
      hmetadata, hrange, hreads⟩
  · exact client_result hserving first second hwaits hunstruck
      (hlocates.downloadRange_refused hfree hlater hlegible hresolves hchunks sizes) hdone

-- The put of a sample version, and then the reads of its first word.
theorem put_range_downloaded : ∃ (first second : Schedule Failure) (got : RangeResult)
    (reads : List Bytes),
    ((clientSystem (Store.empty false) Standard.slicing [Standard.putter]).runSchedule
      Standard.provider.handle (first ++ second)).clients[0]? =
        some (.done (.ok (.inl (got, some reads)))) ∧
    reads.flatten = ObjectCommon.encodeUtf8 "version" := by
  obtain ⟨first, second, result, hwaits, hunstruck, hacknowledged, hstored, hdone⟩ :=
    Standard.put_then Standard.slicing
  have hlegible : Standard.adapter.layout.Legible ((clientSystem (Store.empty false)
      Standard.slicing [Standard.putter]).runSchedule Standard.provider.handle first).state :=
    hstored ▸ Standard.one_first.tidy.legible
  have hserves : ∀ caller ∈ [Standard.putter],
      caller.Serves Standard.adapter.layout Standard.hashed := by
    intro caller hcaller
    obtain rfl := List.mem_singleton.mp hcaller
    exact ⟨rfl, Standard.one_first.hashes⟩
  have hplace : [Standard.putter][0]? =
      some (.operation Standard.one.adapter (.put Standard.one.request)) := rfl
  have hparsed : Standard.adapter.reference Standard.oneRange.resource Standard.oneRange.reference
      "read_range" false = .ok Standard.one.metadata.objectRef := rfl
  have hresolves : Standard.adapter.ResolvesRange Standard.oneRange Standard.one.metadata.byteLength
      ⟨0, 6, Standard.one.metadata.byteLength⟩ :=
    ⟨⟨_, rfl, rfl⟩, by decide, by decide, rfl, by decide⟩
  have huploads : ∀ payload, Standard.one.adapter.uploadContent Standard.one.request =
      .ok payload → payload = ObjectCommon.encodeUtf8 "version-one" := by
    intro payload huploaded
    have hstream : Standard.one.adapter.uploadContent Standard.one.request =
        .ok (Standard.adapter.spooled [ObjectCommon.encodeUtf8 "version-one"]).stream := rfl
    rw [S3ObjectAdapter.spooled_stream] at hstream
    exact (Except.ok.inj (hstream.symm.trans huploaded)).symm
  have hpieces : ∀ payload, Standard.one.adapter.uploadContent Standard.one.request =
      .ok payload → ∀ chunk ∈ Codec.pieces Standard.adapter.config.integrityChunkBytes payload,
      chunk ∈ Standard.hashed := by
    intro payload huploaded chunk hchunk
    obtain rfl := huploads payload huploaded
    rw [Codec.pieces_short (by decide) (by decide), List.mem_singleton] at hchunk
    rw [hchunk]
    simp [Standard.hashed, Standard.KNOWN_DIGESTS]
  obtain ⟨payload, envelope, huploaded, -, hlocates, hexact, -⟩ := range_download_exact
    Standard.collisionFree (S3Layout.consistent_empty _ _ _ _) (measured_empty _ _ _) hserves rfl
    hplace rfl hparsed rfl rfl hresolves (by decide) hpieces [-1] first second hwaits hunstruck
    hacknowledged hlegible result hdone
  have hrecorded : Standard.adapter.layout.Recorded
      ((clientSystem (Store.empty false) Standard.slicing [Standard.putter]).runSchedule
        Standard.provider.handle first).state _ _ _ envelope := hlocates.recorded
  rw [hstored] at hrecorded
  obtain rfl := huploads payload huploaded
  have hchunks : envelope.integrityChunkBytes = Standard.adapter.config.integrityChunkBytes := by
    have henvelope := S3Layout.recorded_unique hrecorded Standard.one_first.recorded
    rw [henvelope]
    rfl
  obtain ⟨got, reads, rfl, -, -, hreads⟩ := hexact hchunks
  refine ⟨first, second, got, reads, hdone, ?_⟩
  rw [hreads]
  rfl

end Exact

end MeridianS3
