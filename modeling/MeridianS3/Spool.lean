import MeridianS3.Config

namespace MeridianS3

-- The spool's stream, and the bytes that its current chunk hasher has seen.
structure IntegritySpool where
  stream : Bytes
  chunkBytes : Nat
  chunk : Bytes
  digests : List String

namespace IntegritySpool

variable (common : ObjectCommon)

def new (chunkBytes : Nat) : IntegritySpool := ⟨[], chunkBytes, [], []⟩

def finishChunk (spool : IntegritySpool) : IntegritySpool :=
  { spool with chunk := [], digests := spool.digests ++ [common.digest spool.chunk] }

def closeFull (spool : IntegritySpool) : IntegritySpool :=
  if spool.chunk.length = spool.chunkBytes then spool.finishChunk common else spool

-- The loop of write over the offset. It makes no progress only where a chunk has
-- no room, which a positive chunk size excludes.
def hashLoop (spool : IntegritySpool) (raw : Bytes) : IntegritySpool :=
  if raw = [] then spool
  else
    let selected := min (spool.chunkBytes - spool.chunk.length) raw.length
    if selected = 0 then spool
    else
      hashLoop (({ spool with chunk := spool.chunk ++ raw.take selected }).closeFull common)
        (raw.drop selected)
termination_by raw.length
decreasing_by
  rename_i hraw hselected
  have hpos : 0 < raw.length := List.length_pos_iff.mpr hraw
  rw [List.length_drop]
  omega

def write (spool : IntegritySpool) (data : Bytes) : IntegritySpool :=
  ({ spool with stream := spool.stream ++ data }).hashLoop common data

def writeAll (spool : IntegritySpool) (writes : List Bytes) : IntegritySpool :=
  writes.foldl (write common) spool

def finish (spool : IntegritySpool) : List String :=
  if spool.chunk.length ≠ 0 then (spool.finishChunk common).digests else spool.digests

end IntegritySpool

end MeridianS3
