import MeridianS3.Adapter.Read

namespace MeridianS3

open Effect Json

-- One read of a body, given as what the successive reads bring at most. It is empty at
-- the end of the body, and where nothing is asked for.
def readBody (size : Nat) : List Bytes → Bytes × List Bytes
  | [] => ([], [])
  | chunk :: rest =>
      if chunk.length ≤ size then (chunk, rest) else (chunk.take size, chunk.drop size :: rest)

theorem readBody_flatten (size : Nat) (body : List Bytes) :
    (readBody size body).1 ++ (readBody size body).2.flatten = body.flatten := by
  cases body with
  | nil => rfl
  | cons chunk rest =>
      simp only [readBody]
      split
      · rfl
      · rw [List.flatten_cons, ← List.append_assoc, List.take_append_drop, List.flatten_cons]

-- The stream behind the reader from its position on.
structure LimitedReader where
  stream : Bytes
  remaining : Nat

namespace LimitedReader

def read (reader : LimitedReader) (size : Int) : Bytes × LimitedReader :=
  if reader.remaining = 0 then ([], reader)
  else
    let selected := if size < 0 then reader.remaining else min size.toNat reader.remaining
    let raw := reader.stream.take selected
    (raw, ⟨reader.stream.drop selected, reader.remaining - raw.length⟩)

-- What successive reads of these sizes return.
def reads (reader : LimitedReader) : List Int → List Bytes
  | [] => []
  | size :: rest => (reader.read size).1 :: (reader.read size).2.reads rest

end LimitedReader

structure VerifiedRangeSource where
  transport : S3Transport
  config : S3Config
  key : String
  versionId : Value
  resolved : ResolvedByteRange
  chunkDigests : List String

-- The spool's bytes, and the bytes that the hasher of the current chunk has seen.
structure RangeProgress where
  spool : Bytes
  observed : Nat
  currentChunk : Nat
  chunk : Bytes

namespace VerifiedRangeSource

variable (source : VerifiedRangeSource)

def firstChunk : Nat := source.resolved.start / source.config.integrityChunkBytes

def lastChunk : Nat := source.resolved.end / source.config.integrityChunkBytes

def coveringStart : Nat := source.firstChunk * source.config.integrityChunkBytes

def coveringEnd : Nat :=
  min (source.resolved.totalLength - 1)
    ((source.lastChunk + 1) * source.config.integrityChunkBytes - 1)

def expectedCovering : Nat := source.coveringEnd - source.coveringStart + 1

def expectedChunkLength (chunk : Nat) : Nat :=
  min source.config.integrityChunkBytes
    (source.resolved.totalLength - chunk * source.config.integrityChunkBytes)

def closeChunk (expected : Nat) (progress : RangeProgress) : Except Failure RangeProgress :=
  if progress.chunk.length = expected then
    if source.chunkDigests[progress.currentChunk]? =
        some (source.transport.common.digest progress.chunk) then
      .ok { progress with currentChunk := progress.currentChunk + 1, chunk := [] }
    else .error (.meridian .digestMismatch (some "S3 range chunk failed integrity verification"))
  else .ok progress

-- The loop over the bytes of one read. There is no result where it makes no progress,
-- because the current chunk has no room.
def hashLoop (progress : RangeProgress) (raw : Bytes) : Except Failure (Option RangeProgress) :=
  if raw = [] then .ok (some progress)
  else
    let expected := source.expectedChunkLength progress.currentChunk
    let selected := min (expected - progress.chunk.length) raw.length
    if selected = 0 then .ok none
    else
      match source.closeChunk expected
        { progress with chunk := progress.chunk ++ raw.take selected } with
      | .error failure => .error failure
      | .ok progress => hashLoop progress (raw.drop selected)
termination_by raw.length
decreasing_by
  rename_i hraw hselected
  have hpos : 0 < raw.length := List.length_pos_iff.mpr hraw
  change (raw.drop selected).length < raw.length
  rw [List.length_drop]
  omega

-- The loop over the reads of the body, up to the first empty one.
def readLoop (progress : RangeProgress) (body : List Bytes) :
    Except Failure (Option RangeProgress) :=
  let size := min (1024 * 1024) (source.expectedCovering - progress.observed)
  let raw := (readBody size body).1
  if raw = [] then .ok (some progress)
  else
    match source.hashLoop
      { progress with spool := progress.spool ++ raw, observed := progress.observed + raw.length }
      raw with
    | .error failure => .error failure
    | .ok none => .ok none
    | .ok (some progress) => readLoop progress (readBody size body).2
termination_by body.flatten.length
decreasing_by
  rename_i hraw
  have hpos : 0 < (readBody size body).1.length := List.length_pos_iff.mpr hraw
  have hlength := congrArg List.length (readBody_flatten size body)
  change (readBody size body).2.flatten.length < body.flatten.length
  rw [List.length_append] at hlength
  omega

def verify (body : List Bytes) : Except Failure (Option LimitedReader) :=
  match source.readLoop ⟨[], 0, source.firstChunk, []⟩ body with
  | .error failure => .error failure
  | .ok none => .ok none
  | .ok (some progress) =>
      if progress.observed ≠ source.expectedCovering ∨
          progress.currentChunk ≠ source.lastChunk + 1 then
        .error (.meridian .digestMismatch (some "S3 range response was incomplete"))
      else .ok (some ⟨progress.spool.drop (source.resolved.start - source.coveringStart),
        source.resolved.length⟩)

def «open» : S3M (Option LimitedReader) := do
  let body ← S3Transport.getBody source.key source.versionId
    (some (source.coveringStart, source.coveringEnd))
  Program.lift (source.verify body)

end VerifiedRangeSource

-- The source that a get registers reads the body as it comes.
def PayloadSource.open (source : PayloadSource) : S3M (List Bytes) :=
  S3Transport.getBody source.key source.versionId none

-- The source that a read of a range registers.
def RangeResult.source (adapter : S3ObjectAdapter) (result : RangeResult) : VerifiedRangeSource :=
  { transport := adapter.transport
    config := adapter.config
    key := result.payload.key
    versionId := result.payload.versionId
    resolved := result.range
    chunkDigests := result.chunkDigests }

end MeridianS3
