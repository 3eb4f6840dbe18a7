import MeridianS3.Codec.Pieces
import MeridianS3.Spool

namespace MeridianS3

namespace IntegritySpool

variable (common : ObjectCommon)

theorem closeFull_stream (spool : IntegritySpool) :
    (spool.closeFull common).stream = spool.stream := by
  unfold closeFull
  split <;> rfl

theorem hashLoop_stream (spool : IntegritySpool) (raw : Bytes) :
    (spool.hashLoop common raw).stream = spool.stream := by
  fun_induction hashLoop common spool raw with
  | case1 => rfl
  | case2 => rfl
  | case3 spool raw hraw selected hselected ih => rw [ih, closeFull_stream]

theorem write_stream (spool : IntegritySpool) (data : Bytes) :
    (spool.write common data).stream = spool.stream ++ data := by
  rw [write, hashLoop_stream]

-- The stream holds every write, in order.
theorem writeAll_stream (spool : IntegritySpool) (writes : List Bytes) :
    (spool.writeAll common writes).stream = spool.stream ++ writes.flatten := by
  induction writes generalizing spool with
  | nil => simp [writeAll]
  | cons data rest ih =>
      have hstep : spool.writeAll common (data :: rest) =
          (spool.write common data).writeAll common rest := rfl
      rw [hstep, ih, write_stream, List.flatten_cons, List.append_assoc]

-- What a spool has hashed: the full chunks, and the chunk that is still open.
structure Hashed (spool : IntegritySpool) (size : Nat) (data : Bytes) : Prop where
  sized : spool.chunkBytes = size
  chunks : ∃ full : List Bytes, (∀ chunk ∈ full, chunk.length = size) ∧
    full.flatten ++ spool.chunk = data ∧ spool.digests = full.map common.digest
  room : spool.chunk.length < size

section Hashed

variable {common} {spool : IntegritySpool} {size : Nat} {data raw : Bytes}

theorem hashed_new (hsize : 0 < size) : (new size).Hashed common size [] :=
  ⟨rfl, ⟨[], by simp, rfl, rfl⟩, hsize⟩

theorem Hashed.closeFull (h : spool.Hashed common size data)
    (hraw : raw.length ≤ size - spool.chunk.length) :
    (({ spool with chunk := spool.chunk ++ raw }).closeFull common).Hashed common size
      (data ++ raw) := by
  obtain ⟨hsized, ⟨full, hfull, hdata, hdigests⟩, hroom⟩ := h
  have hlength : (spool.chunk ++ raw).length = spool.chunk.length + raw.length :=
    List.length_append
  have hjoined : full.flatten ++ (spool.chunk ++ raw) = data ++ raw := by
    rw [← List.append_assoc, hdata]
  unfold IntegritySpool.closeFull
  split
  · rename_i hclosed
    refine ⟨hsized, ⟨full ++ [spool.chunk ++ raw], ?_, ?_, ?_⟩, ?_⟩
    · intro chunk hmem
      rcases List.mem_append.mp hmem with hmem | hmem
      · exact hfull chunk hmem
      · rw [List.mem_singleton.mp hmem]
        exact hclosed.trans hsized
    · simpa [finishChunk] using hjoined
    · simp [finishChunk, hdigests]
    · exact Nat.zero_lt_of_lt hroom
  · rename_i hopen
    refine ⟨hsized, ⟨full, hfull, hjoined, hdigests⟩, ?_⟩
    have hne : (spool.chunk ++ raw).length ≠ size := fun h => hopen (h.trans hsized.symm)
    change (spool.chunk ++ raw).length < size
    omega

theorem Hashed.hashLoop (h : spool.Hashed common size data) :
    (spool.hashLoop common raw).Hashed common size (data ++ raw) := by
  fun_induction IntegritySpool.hashLoop common spool raw generalizing data with
  | case1 spool => simpa using h
  | case2 =>
      rename_i spool raw hraw selected hselected
      -- An open chunk has room and there is something to hash.
      have hpos := List.length_pos_iff.mpr hraw
      have hroom := h.room
      have hsized := h.sized
      simp only [selected] at hselected
      omega
  | case3 =>
      rename_i spool raw hraw selected hselected ih
      have htaken : (raw.take selected).length ≤ size - spool.chunk.length := by
        rw [List.length_take, ← h.sized]
        simp only [selected]
        omega
      have hrest := ih (h.closeFull htaken)
      rwa [List.append_assoc, List.take_append_drop] at hrest

theorem Hashed.write (h : spool.Hashed common size data) :
    (spool.write common raw).Hashed common size (data ++ raw) :=
  Hashed.hashLoop ⟨h.sized, h.chunks, h.room⟩

theorem Hashed.writeAll (h : spool.Hashed common size data) (writes : List Bytes) :
    (spool.writeAll common writes).Hashed common size (data ++ writes.flatten) := by
  induction writes generalizing spool data with
  | nil => simpa [IntegritySpool.writeAll] using h
  | cons raw rest ih =>
      rw [List.flatten_cons, ← List.append_assoc]
      exact ih h.write

theorem Hashed.finish (h : spool.Hashed common size data) :
    spool.finish common = (Codec.pieces size data).map common.digest := by
  obtain ⟨-, ⟨full, hfull, rfl, hdigests⟩, hroom⟩ := h
  have hsize := Nat.zero_lt_of_lt hroom
  rw [Codec.pieces_append hsize hfull, List.map_append, ← hdigests, IntegritySpool.finish]
  by_cases hempty : spool.chunk = []
  · simp [hempty]
  · have hpos := List.length_pos_iff.mpr hempty
    rw [if_pos (by omega), Codec.pieces_short hempty (Nat.le_of_lt hroom)]
    rfl

end Hashed

-- However the payload is written, a digest is kept of each of its chunks.
theorem finish_writeAll {size : Nat} (hsize : 0 < size) (writes : List Bytes) :
    ((new size).writeAll common writes).finish common =
      (Codec.pieces size writes.flatten).map common.digest :=
  ((hashed_new hsize).writeAll writes).finish

end IntegritySpool

end MeridianS3
