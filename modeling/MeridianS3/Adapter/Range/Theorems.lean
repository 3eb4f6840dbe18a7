import MeridianS3.Adapter.Range
import MeridianS3.Layout.Theorems
import MeridianS3.Provider
import MeridianS3.Spool.Theorems
import MeridianS3.Standard.Samples

namespace MeridianS3

open Effect Json

section ReadBody

variable {size : Nat} {body : List Bytes}

theorem readBody_length_le (size : Nat) (body : List Bytes) :
    (readBody size body).1.length ≤ size := by
  cases body with
  | nil => exact Nat.zero_le _
  | cons chunk rest =>
      rw [readBody]
      split
      · assumption
      · exact List.length_take_le _ _

theorem readBody_nonempty (h : [] ∉ body) : [] ∉ (readBody size body).2 := by
  cases body with
  | nil => exact h
  | cons chunk rest =>
      rw [List.mem_cons, not_or] at h
      rw [readBody]
      split
      · exact h.2
      · rename_i hlong
        rw [List.mem_cons, not_or]
        refine ⟨fun hdrop => hlong ?_, h.2⟩
        exact List.drop_eq_nil_iff.mp hdrop.symm

theorem readBody_eq_nil (h : [] ∉ body) (hread : (readBody size body).1 = []) :
    size = 0 ∨ body = [] := by
  cases body with
  | nil => exact .inr rfl
  | cons chunk rest =>
      rw [List.mem_cons, not_or] at h
      rw [readBody] at hread
      split at hread
      · exact absurd hread.symm h.1
      · exact .inl ((List.take_eq_nil_iff.mp hread).resolve_right (Ne.symm h.1))

end ReadBody

section Segment

variable {α : Type}

-- The items from one position up to another.
def segment (items : List α) (first last : Nat) : List α := (items.drop first).take (last - first)

theorem length_segment {items : List α} {last : Nat} (h : last ≤ items.length) (first : Nat) :
    (segment items first last).length = last - first := by
  rw [segment, List.length_take, List.length_drop]
  omega

theorem segment_self (items : List α) (first : Nat) : segment items first first = [] := by
  rw [segment, Nat.sub_self, List.take_zero]

theorem segment_append (items : List α) {first middle last : Nat} (hfirst : first ≤ middle)
    (hlast : middle ≤ last) :
    segment items first middle ++ segment items middle last = segment items first last := by
  have hdrop : items.drop middle = (items.drop first).drop (middle - first) := by
    rw [List.drop_drop, Nat.add_sub_cancel' hfirst]
  have hlength : last - first = (middle - first) + (last - middle) := by omega
  rw [segment, segment, segment, hdrop, hlength, List.take_add]

theorem segment_drop_take {items : List α} {first last : Nat} (skip count : Nat)
    (h : skip + count ≤ last - first) :
    ((segment items first last).drop skip).take count = (items.drop (first + skip)).take count := by
  rw [segment, List.drop_take, List.take_take, List.drop_drop, Nat.min_eq_left (by omega)]

end Segment

namespace LimitedReader

-- What reads of these sizes ask for of a stream of this length. A negative size asks
-- for all of it.
def asked (length : Nat) : List Int → Nat
  | [] => 0
  | size :: rest => if size < 0 then length else size.toNat + asked length rest

theorem read_eq {reader : LimitedReader} (h : reader.remaining ≤ reader.stream.length)
    (size : Int) :
    ∃ selected, selected = (if size < 0 then reader.remaining else
        min size.toNat reader.remaining) ∧
      reader.read size = (reader.stream.take selected,
        ⟨reader.stream.drop selected, reader.remaining - selected⟩) := by
  refine ⟨_, rfl, ?_⟩
  unfold read
  split
  · rename_i hzero
    have hselected : (if size < 0 then reader.remaining else
        min size.toNat reader.remaining) = 0 := by
      split <;> omega
    rw [hselected, List.take_zero, List.drop_zero, Nat.sub_zero]
  · have hlength (selected : Nat) (hle : selected ≤ reader.remaining) :
        (reader.stream.take selected).length = selected := by
      rw [List.length_take]
      omega
    dsimp only
    split
    · rw [hlength _ (Nat.le_refl _)]
    · rw [hlength _ (Nat.min_le_right _ _)]

-- Reads of any sizes deliver what the reader is limited to, in order, as far as it is
-- asked for.
theorem reads_flatten {reader : LimitedReader} (h : reader.remaining ≤ reader.stream.length)
    {length : Nat} (hlength : reader.remaining ≤ length) (sizes : List Int) :
    (reader.reads sizes).flatten =
      (reader.stream.take reader.remaining).take (asked length sizes) := by
  induction sizes generalizing reader with
  | nil => rfl
  | cons size rest ih =>
      obtain ⟨selected, hselected, hread⟩ := read_eq h size
      have hbound : selected ≤ reader.remaining := by
        rw [hselected]
        split <;> omega
      have hrest : ((reader.read size).2.reads rest).flatten =
          ((reader.stream.drop selected).take (reader.remaining - selected)).take
            (asked length rest) := by
        rw [hread]
        apply ih
        · change reader.remaining - selected ≤ (reader.stream.drop selected).length
          rw [List.length_drop]
          omega
        · exact Nat.le_trans (Nat.sub_le _ _) hlength
      have hwhole : (reader.stream.take reader.remaining).length = reader.remaining := by
        rw [List.length_take]
        omega
      rw [reads, List.flatten_cons, hrest, hread, asked]
      dsimp only
      split
      · rename_i hnegative
        rw [if_pos hnegative] at hselected
        rw [hselected, Nat.sub_self, List.take_zero, List.take_nil, List.append_nil,
          List.take_of_length_le (hwhole.trans_le hlength)]
      · rename_i hpositive
        rw [if_neg hpositive] at hselected
        by_cases hle : size.toNat ≤ reader.remaining
        · rw [Nat.min_eq_left hle] at hselected
          have hfirst : (reader.stream.take reader.remaining).take selected =
              reader.stream.take selected := by
            rw [List.take_take, Nat.min_eq_left hbound]
          rw [← hselected, List.take_add, hfirst, List.drop_take]
        · rw [Nat.min_eq_right (by omega)] at hselected
          rw [hselected, Nat.sub_self, List.take_zero, List.take_nil, List.append_nil,
            List.take_of_length_le (by omega : (reader.stream.take reader.remaining).length ≤ _)]

end LimitedReader

-- The source reads a range of a payload whose chunk digests it has.
structure VerifiedRangeSource.Over (source : VerifiedRangeSource) (payload : Bytes) : Prop where
  sized : 0 < source.config.integrityChunkBytes
  ordered : source.resolved.start ≤ source.resolved.end
  inside : source.resolved.end < payload.length
  total : source.resolved.totalLength = payload.length
  digests : source.chunkDigests = (Codec.pieces source.config.integrityChunkBytes payload).map
    source.transport.common.digest

namespace VerifiedRangeSource

variable (source : VerifiedRangeSource)

-- Where a chunk begins in the payload.
def boundary (chunk : Nat) : Nat :=
  min (chunk * source.config.integrityChunkBytes) source.resolved.totalLength

def piece (payload : Bytes) (chunk : Nat) : Bytes :=
  segment payload (source.boundary chunk) (source.boundary (chunk + 1))

-- The chunks that the range touches.
def covering (payload : Bytes) : Bytes :=
  segment payload source.coveringStart (source.boundary (source.lastChunk + 1))

section Over

variable {source} {payload : Bytes}

theorem Over.chunk_lt (h : source.Over payload) {chunk : Nat} (hlast : chunk ≤ source.lastChunk) :
    chunk * source.config.integrityChunkBytes < payload.length := by
  calc
    chunk * source.config.integrityChunkBytes
        ≤ source.lastChunk * source.config.integrityChunkBytes := Nat.mul_le_mul_right _ hlast
    _ ≤ source.resolved.end := Nat.div_mul_le_self _ _
    _ < payload.length := h.inside

theorem Over.boundary_eq (h : source.Over payload) {chunk : Nat}
    (hlast : chunk ≤ source.lastChunk) :
    source.boundary chunk = chunk * source.config.integrityChunkBytes := by
  have hlt := h.chunk_lt hlast
  rw [boundary, h.total]
  omega

theorem Over.boundary_le (h : source.Over payload) (chunk : Nat) :
    source.boundary chunk ≤ payload.length := by
  rw [boundary, h.total]
  exact Nat.min_le_right _ _

theorem boundary_mono {first second : Nat} (h : first ≤ second) :
    source.boundary first ≤ source.boundary second := by
  have hmul := Nat.mul_le_mul_right source.config.integrityChunkBytes h
  unfold boundary
  omega

theorem Over.expected_eq (h : source.Over payload) {chunk : Nat}
    (hlast : chunk ≤ source.lastChunk) :
    source.expectedChunkLength chunk = source.boundary (chunk + 1) - source.boundary chunk := by
  have hlt := h.chunk_lt hlast
  rw [h.boundary_eq hlast, expectedChunkLength, boundary, h.total, Nat.add_mul, Nat.one_mul]
  omega

theorem Over.expected_pos (h : source.Over payload) {chunk : Nat}
    (hlast : chunk ≤ source.lastChunk) : 0 < source.expectedChunkLength chunk := by
  have hlt := h.chunk_lt hlast
  have hsized := h.sized
  rw [expectedChunkLength, h.total]
  omega

theorem Over.length_piece (h : source.Over payload) {chunk : Nat}
    (hlast : chunk ≤ source.lastChunk) :
    (source.piece payload chunk).length = source.expectedChunkLength chunk := by
  rw [piece, length_segment (h.boundary_le _), h.expected_eq hlast]

theorem Over.piece_eq (h : source.Over payload) {chunk : Nat} (hlast : chunk ≤ source.lastChunk) :
    source.piece payload chunk =
      (payload.drop (chunk * source.config.integrityChunkBytes)).take
        source.config.integrityChunkBytes := by
  have hlt := h.chunk_lt hlast
  rw [piece, segment, ← h.expected_eq hlast, h.boundary_eq hlast, expectedChunkLength, h.total,
    ← List.length_drop, List.take_eq_take_iff]
  omega

theorem Over.piece_mem (h : source.Over payload) {chunk : Nat} (hlast : chunk ≤ source.lastChunk) :
    (Codec.pieces source.config.integrityChunkBytes payload)[chunk]? =
      some (source.piece payload chunk) := by
  rw [Codec.getElem?_pieces h.sized, if_pos (h.chunk_lt hlast), h.piece_eq hlast]

theorem Over.digest_at (h : source.Over payload) {chunk : Nat} (hlast : chunk ≤ source.lastChunk) :
    source.chunkDigests[chunk]? =
      some (source.transport.common.digest (source.piece payload chunk)) := by
  rw [h.digests, List.getElem?_map, h.piece_mem hlast, Option.map_some]

theorem Over.first_le_last (h : source.Over payload) : source.firstChunk ≤ source.lastChunk :=
  Nat.div_le_div_right h.ordered

theorem coveringStart_le (source : VerifiedRangeSource) :
    source.coveringStart ≤ source.resolved.start :=
  Nat.div_mul_le_self _ _

theorem Over.boundary_last (h : source.Over payload) :
    source.boundary (source.lastChunk + 1) = source.coveringEnd + 1 := by
  have hinside := h.inside
  have hsized := h.sized
  have hpos : 0 < (source.lastChunk + 1) * source.config.integrityChunkBytes :=
    Nat.mul_pos (Nat.succ_pos _) hsized
  rw [boundary, coveringEnd, h.total]
  omega

theorem Over.end_le (h : source.Over payload) : source.resolved.end ≤ source.coveringEnd := by
  have hinside := h.inside
  have hnext : source.resolved.end <
      (source.lastChunk + 1) * source.config.integrityChunkBytes := by
    rw [Nat.add_mul, Nat.one_mul]
    exact Nat.lt_div_mul_add h.sized
  rw [coveringEnd, h.total]
  omega

theorem Over.coveringEnd_lt (h : source.Over payload) : source.coveringEnd < payload.length := by
  have hinside := h.inside
  rw [coveringEnd, h.total]
  omega

theorem Over.expectedCovering_eq (h : source.Over payload) :
    source.expectedCovering = source.boundary (source.lastChunk + 1) - source.coveringStart := by
  have hstart := coveringStart_le source
  have hend := h.end_le
  have hordered := h.ordered
  rw [h.boundary_last, expectedCovering]
  omega

end Over

-- What the loops know of the bytes that they have seen: the closed chunks are those of
-- the payload, and the open one has room.
structure Checked (payload seen : Bytes) (progress : RangeProgress) : Prop where
  first : source.firstChunk ≤ progress.currentChunk
  last : progress.currentChunk ≤ source.lastChunk + 1
  split : seen = segment payload source.coveringStart (source.boundary progress.currentChunk) ++
    progress.chunk
  room : progress.currentChunk ≤ source.lastChunk →
    progress.chunk.length < source.expectedChunkLength progress.currentChunk
  closed : progress.currentChunk = source.lastChunk + 1 → progress.chunk = []

-- What a loop comes to: it has checked what it was given, or it has raised because
-- something is not the payload's.
def Settles (payload seen : Bytes) (progress : RangeProgress)
    (result : Except Failure (Option RangeProgress)) : Prop :=
  (∃ after, result = .ok (some after) ∧ after.spool = progress.spool ∧
    after.observed = progress.observed ∧ source.Checked payload seen after) ∨
  ∃ failure, result = .error failure ∧ failure.is .digestMismatch = true ∧
    ¬seen <+: source.covering payload

section Checked

variable {source} {payload seen raw : Bytes} {progress : RangeProgress}

theorem Over.checked_start (h : source.Over payload) :
    source.Checked payload [] ⟨[], 0, source.firstChunk, []⟩ := by
  refine ⟨Nat.le_refl _, Nat.le_succ_of_le h.first_le_last, ?_, fun hle => h.expected_pos hle,
    fun _ => rfl⟩
  dsimp only
  rw [h.boundary_eq h.first_le_last, coveringStart, segment_self, List.nil_append]

theorem Checked.length_eq (hchecked : source.Checked payload seen progress)
    (h : source.Over payload) :
    seen.length = source.boundary progress.currentChunk - source.coveringStart +
      progress.chunk.length := by
  rw [hchecked.split, List.length_append, length_segment (h.boundary_le _)]

-- While there are bytes to come, the current chunk is one of the range's.
theorem Checked.open_chunk (hchecked : source.Checked payload seen progress)
    (h : source.Over payload) (hmore : seen.length < source.expectedCovering) :
    progress.currentChunk ≤ source.lastChunk := by
  by_contra hover
  have hlast := hchecked.last
  have hend : progress.currentChunk = source.lastChunk + 1 := by omega
  have hlength := hchecked.length_eq h
  rw [hend, hchecked.closed hend, List.length_nil, h.expectedCovering_eq.symm] at hlength
  omega

theorem Checked.covering_start (hchecked : source.Checked payload seen progress)
    (h : source.Over payload) (hcurrent : progress.currentChunk ≤ source.lastChunk) :
    source.coveringStart ≤ source.boundary progress.currentChunk := by
  rw [h.boundary_eq hcurrent]
  exact Nat.mul_le_mul_right _ hchecked.first

-- The open chunk, as far as the bytes are those of the covering range.
theorem Checked.chunk_of_covering (hchecked : source.Checked payload seen progress)
    (h : source.Over payload) (hcurrent : progress.currentChunk ≤ source.lastChunk)
    (hbegins : seen ++ raw <+: source.covering payload)
    (hfull : (progress.chunk ++ raw).length = source.expectedChunkLength progress.currentChunk) :
    progress.chunk ++ raw = source.piece payload progress.currentChunk := by
  have hstart := hchecked.covering_start h hcurrent
  have hnext : source.boundary progress.currentChunk ≤
      source.boundary (progress.currentChunk + 1) := boundary_mono (Nat.le_succ _)
  have hlast : source.boundary (progress.currentChunk + 1) ≤
      source.boundary (source.lastChunk + 1) := boundary_mono (Nat.succ_le_succ hcurrent)
  have hparts : source.covering payload =
      segment payload source.coveringStart (source.boundary progress.currentChunk) ++
        (source.piece payload progress.currentChunk ++
          segment payload (source.boundary (progress.currentChunk + 1))
            (source.boundary (source.lastChunk + 1))) := by
    rw [piece, segment_append _ hnext hlast, segment_append _ hstart (hnext.trans hlast), covering]
  rw [hchecked.split, List.append_assoc, hparts, List.prefix_append_right_inj] at hbegins
  exact (List.prefix_of_prefix_length_le hbegins (List.prefix_append _ _)
    (by rw [hfull, h.length_piece hcurrent])).eq_of_length (by rw [hfull, h.length_piece hcurrent])

theorem Checked.closeChunk (hchecked : source.Checked payload seen progress)
    (h : source.Over payload) (hcurrent : progress.currentChunk ≤ source.lastChunk)
    (hroom : (progress.chunk ++ raw).length ≤ source.expectedChunkLength progress.currentChunk)
    (hsame : (progress.chunk ++ raw).length = source.expectedChunkLength progress.currentChunk →
      source.transport.common.hexdigest (progress.chunk ++ raw) =
        source.transport.common.hexdigest (source.piece payload progress.currentChunk) →
      progress.chunk ++ raw = source.piece payload progress.currentChunk) :
    source.Settles payload (seen ++ raw) progress
      ((source.closeChunk (source.expectedChunkLength progress.currentChunk)
        { progress with chunk := progress.chunk ++ raw }).map some) := by
  have hstart := hchecked.covering_start h hcurrent
  unfold VerifiedRangeSource.closeChunk
  dsimp only
  split
  · rename_i hfull
    rw [h.digest_at hcurrent]
    split
    · rename_i hdigest
      rw [Option.some.injEq, ObjectCommon.digest, ObjectCommon.digest, HexDigest.digest_inj] at hdigest
      refine .inl ⟨_, rfl, rfl, rfl, Nat.le_succ_of_le hchecked.first,
        Nat.succ_le_succ hcurrent, ?_, fun hle => h.expected_pos hle, fun _ => rfl⟩
      dsimp only
      rw [List.append_nil, ← segment_append payload hstart (boundary_mono (Nat.le_succ _)),
        hchecked.split, List.append_assoc, hsame hfull hdigest.symm]
      rfl
    · rename_i hdigest
      refine .inr ⟨_, rfl, rfl, fun hbegins => hdigest ?_⟩
      rw [hchecked.chunk_of_covering h hcurrent hbegins hfull]
  · rename_i hopen
    refine .inl ⟨_, rfl, rfl, rfl, hchecked.first, hchecked.last, ?_, ?_, ?_⟩
    · dsimp only
      rw [hchecked.split, List.append_assoc]
    · intro _
      exact Nat.lt_of_le_of_ne hroom hopen
    · intro hend
      dsimp only at hend
      omega

-- A closed chunk is one of those that the bytes come in.
theorem Checked.mem_pieces (hchecked : source.Checked payload seen progress)
    (h : source.Over payload) (hcurrent : progress.currentChunk ≤ source.lastChunk) {all : Bytes}
    (hbegins : seen ++ raw <+: all) (hbound : all.length ≤ source.expectedCovering)
    (hfull : (progress.chunk ++ raw).length = source.expectedChunkLength progress.currentChunk) :
    progress.chunk ++ raw ∈ Codec.pieces source.config.integrityChunkBytes all := by
  obtain ⟨rest, hall⟩ := hbegins
  have hstart := hchecked.covering_start h hcurrent
  have hpos := h.expected_pos hcurrent
  have hskipped : (segment payload source.coveringStart
      (source.boundary progress.currentChunk)).length =
      (progress.currentChunk - source.firstChunk) * source.config.integrityChunkBytes := by
    rw [length_segment (h.boundary_le _), h.boundary_eq hcurrent, coveringStart, Nat.sub_mul]
  rw [hchecked.split, List.append_assoc, List.append_assoc] at hall
  have hlength : all.length = (progress.currentChunk - source.firstChunk) *
      source.config.integrityChunkBytes +
        (source.expectedChunkLength progress.currentChunk + rest.length) := by
    rw [← hall, List.length_append, hskipped, ← List.append_assoc, List.length_append, hfull]
  have hdrop : all.drop ((progress.currentChunk - source.firstChunk) *
      source.config.integrityChunkBytes) = progress.chunk ++ raw ++ rest := by
    rw [← hall, List.drop_left' hskipped, List.append_assoc]
  -- A chunk shorter than the others is the payload's last, and nothing follows it.
  have htake : (progress.chunk ++ raw ++ rest).take source.config.integrityChunkBytes =
      progress.chunk ++ raw := by
    by_cases hwhole : source.expectedChunkLength progress.currentChunk =
        source.config.integrityChunkBytes
    · exact List.take_left' (hfull.trans hwhole)
    · have hrest : rest = [] := by
        have hexpected := h.expected_eq hcurrent
        have htop : source.boundary (progress.currentChunk + 1) = payload.length := by
          have hlt := h.chunk_lt hcurrent
          rw [expectedChunkLength, h.total] at hwhole
          rw [boundary, h.total, Nat.add_mul, Nat.one_mul]
          omega
        have hcover : source.expectedCovering ≤ payload.length - source.coveringStart := by
          have hle := h.boundary_le (source.lastChunk + 1)
          rw [h.expectedCovering_eq]
          omega
        rw [length_segment (h.boundary_le _)] at hskipped
        rw [← List.length_eq_zero_iff]
        omega
      have hshort : (progress.chunk ++ raw).length ≤ source.config.integrityChunkBytes := by
        rw [hfull, expectedChunkLength]
        exact Nat.min_le_left _ _
      rw [hrest, List.append_nil, List.take_of_length_le hshort]
  rw [List.mem_iff_getElem?]
  refine ⟨progress.currentChunk - source.firstChunk, ?_⟩
  rw [Codec.getElem?_pieces h.sized, if_pos (by omega), hdrop, htake]

end Checked

-- The chunks that are hashed when these bytes are read back have no collisions.
def CollisionFree (payload all : Bytes) : Prop :=
  Set.InjOn source.transport.common.hexdigest
    {chunk | chunk ∈ Codec.pieces source.config.integrityChunkBytes payload ∨
      chunk ∈ Codec.pieces source.config.integrityChunkBytes all}

section Loops

variable {source} {payload seen raw all : Bytes} {progress : RangeProgress}

theorem Checked.hashLoop (hchecked : source.Checked payload seen progress)
    (h : source.Over payload) (hfree : source.CollisionFree payload all)
    (hbound : all.length ≤ source.expectedCovering) (hbegins : seen ++ raw <+: all) :
    source.Settles payload (seen ++ raw) progress (source.hashLoop progress raw) := by
  have hclose {progress : RangeProgress} {seen raw : Bytes}
      (hchecked : source.Checked payload seen progress) (hbegins : seen ++ raw <+: all)
      (hraw : raw ≠ []) {selected : Nat}
      (hselected : selected = min (source.expectedChunkLength progress.currentChunk -
        progress.chunk.length) raw.length) :
      0 < selected ∧ seen ++ raw.take selected <+: seen ++ raw ∧
        source.Settles payload (seen ++ raw.take selected) progress
          ((source.closeChunk (source.expectedChunkLength progress.currentChunk)
            { progress with chunk := progress.chunk ++ raw.take selected }).map some) := by
    have hpos := List.length_pos_iff.mpr hraw
    have hlength := hbegins.length_le
    rw [List.length_append] at hlength
    have hcurrent := hchecked.open_chunk h (by omega)
    have hroom := hchecked.room hcurrent
    have htaken : seen ++ raw.take selected <+: seen ++ raw :=
      (List.prefix_append_right_inj _).mpr (List.take_prefix _ _)
    refine ⟨by omega, htaken, hchecked.closeChunk h hcurrent ?_ ?_⟩
    · rw [List.length_append, List.length_take]
      omega
    · intro hfull hsame
      exact hfree (.inr (hchecked.mem_pieces h hcurrent (htaken.trans hbegins) hbound hfull))
        (.inl (List.mem_of_getElem? (h.piece_mem hcurrent))) hsame
  fun_induction VerifiedRangeSource.hashLoop source progress raw generalizing seen with
  | case1 progress =>
      rw [List.append_nil]
      exact .inl ⟨progress, rfl, rfl, rfl, hchecked⟩
  | case2 progress raw hraw expected selected =>
      rename_i hselected
      obtain ⟨hpos, -, -⟩ := hclose hchecked hbegins hraw rfl
      omega
  | case3 progress raw hraw expected selected hselected failure =>
      rename_i hclosed
      obtain ⟨-, htaken, hsettles⟩ := hclose hchecked hbegins hraw (show selected = min _ _ from rfl)
      rw [hclosed] at hsettles
      obtain ⟨_, hok, -⟩ | ⟨other, hother, his, hwrong⟩ := hsettles
      · cases hok
      · cases hother
        exact .inr ⟨failure, rfl, his, fun hcovering => hwrong (htaken.trans hcovering)⟩
  | case4 progress raw hraw expected selected hselected after =>
      rename_i hclosed ih
      obtain ⟨-, htaken, hsettles⟩ := hclose hchecked hbegins hraw (show selected = min _ _ from rfl)
      rw [hclosed] at hsettles
      obtain ⟨_, hok, hspool, hobserved, hafter⟩ | ⟨_, hother, -⟩ := hsettles
      · cases hok
        have hjoined : seen ++ raw.take selected ++ raw.drop selected = seen ++ raw := by
          rw [List.append_assoc, List.take_append_drop]
        have hrest := ih hafter (hjoined ▸ hbegins)
        rw [hjoined] at hrest
        unfold Settles at hrest ⊢
        rwa [hspool, hobserved] at hrest
      · cases hother

-- One read of the body: what is left to ask for after it, and what its bytes come to.
theorem Checked.read (hchecked : source.Checked payload seen progress)
    (h : source.Over payload) (hfree : source.CollisionFree payload all)
    (hobserved : progress.observed = seen.length) {body : List Bytes}
    (hseen : seen.length ≤ source.expectedCovering)
    (hall : all = seen ++ body.flatten.take (source.expectedCovering - seen.length)) {size : Nat}
    (hsize : size = min (1024 * 1024) (source.expectedCovering - progress.observed)) :
    (seen ++ (readBody size body).1).length ≤ source.expectedCovering ∧
      all = seen ++ (readBody size body).1 ++ (readBody size body).2.flatten.take
        (source.expectedCovering - (seen ++ (readBody size body).1).length) ∧
      source.Settles payload (seen ++ (readBody size body).1)
        { progress with
          spool := progress.spool ++ (readBody size body).1
          observed := progress.observed + (readBody size body).1.length }
        (source.hashLoop
          { progress with
            spool := progress.spool ++ (readBody size body).1
            observed := progress.observed + (readBody size body).1.length }
          (readBody size body).1) := by
  have hle := readBody_length_le size body
  have hbound : all.length ≤ source.expectedCovering := by
    rw [hall, List.length_append, List.length_take]
    omega
  have hlength : (seen ++ (readBody size body).1).length ≤ source.expectedCovering := by
    rw [List.length_append]
    omega
  have hrest : source.expectedCovering - seen.length = (readBody size body).1.length +
      (source.expectedCovering - (seen ++ (readBody size body).1).length) := by
    rw [List.length_append] at hlength ⊢
    omega
  have hnext : all = seen ++ (readBody size body).1 ++ (readBody size body).2.flatten.take
      (source.expectedCovering - (seen ++ (readBody size body).1).length) := by
    rw [hall, ← readBody_flatten size body, hrest, List.take_length_add_append, List.append_assoc]
  refine ⟨hlength, hnext, ?_⟩
  have hsame : source.Checked payload seen
      { progress with
        spool := progress.spool ++ (readBody size body).1
        observed := progress.observed + (readBody size body).1.length } :=
    ⟨hchecked.first, hchecked.last, hchecked.split, hchecked.room, hchecked.closed⟩
  exact hsame.hashLoop h hfree hbound ⟨_, hnext.symm⟩

-- The reads bring what was asked for, as far as the body has it.
theorem Checked.readLoop (hchecked : source.Checked payload seen progress)
    (h : source.Over payload) (hfree : source.CollisionFree payload all)
    (hspool : progress.spool = seen) (hobserved : progress.observed = seen.length)
    {body : List Bytes} (hbody : [] ∉ body) (hseen : seen.length ≤ source.expectedCovering)
    (hall : all = seen ++ body.flatten.take (source.expectedCovering - seen.length)) :
    (∃ after, source.readLoop progress body = .ok (some after) ∧ after.spool = all ∧
      after.observed = all.length ∧ source.Checked payload all after) ∨
    ∃ failure, source.readLoop progress body = .error failure ∧
      failure.is .digestMismatch = true ∧ all ≠ source.covering payload := by
  fun_induction VerifiedRangeSource.readLoop source progress body generalizing seen with
  | case1 progress body size raw =>
      rename_i hempty
      have hend : body.flatten.take (source.expectedCovering - seen.length) = [] := by
        obtain hzero | hend := readBody_eq_nil hbody hempty
        · have hdone : source.expectedCovering - seen.length = 0 := by
            rw [← hobserved]
            simp only [size] at hzero
            omega
          rw [hdone, List.take_zero]
        · rw [hend, List.flatten_nil, List.take_nil]
      rw [hend, List.append_nil] at hall
      exact .inl ⟨progress, rfl, hspool.trans hall.symm, hall ▸ hobserved, hall ▸ hchecked⟩
  | case2 progress body size raw =>
      rename_i hloop
      obtain ⟨-, hnext, hsettles⟩ := hchecked.read h hfree hobserved hseen hall
        (show size = min _ _ from rfl)
      rw [hloop] at hsettles
      obtain ⟨_, hok, -⟩ | ⟨other, hother, his, hwrong⟩ := hsettles
      · cases hok
      · cases hother
        exact .inr ⟨_, rfl, his, fun hcovering => hwrong (hcovering ▸ ⟨_, hnext.symm⟩)⟩
  | case3 progress body size raw =>
      rename_i hloop
      obtain ⟨-, -, hsettles⟩ := hchecked.read h hfree hobserved hseen hall
        (show size = min _ _ from rfl)
      rw [hloop] at hsettles
      obtain ⟨_, hok, -⟩ | ⟨_, hother, -⟩ := hsettles
      · cases hok
      · cases hother
  | case4 progress body size raw =>
      rename_i after hloop ih
      obtain ⟨hlength, hnext, hsettles⟩ := hchecked.read h hfree hobserved hseen hall
        (show size = min _ _ from rfl)
      rw [hloop] at hsettles
      obtain ⟨_, hok, hafterSpool, hafterObserved, hafter⟩ | ⟨_, hother, -⟩ := hsettles
      · cases hok
        refine ih hafter ?_ ?_ (readBody_nonempty hbody) hlength hnext
        · rw [hafterSpool, hspool]
        · rw [hafterObserved, hobserved, List.length_append]
      · cases hother

-- The covering bytes are yielded whole, and anything else is refused.
theorem Over.verify (h : source.Over payload) {body : List Bytes} (hbody : [] ∉ body)
    (hall : all = body.flatten.take source.expectedCovering)
    (hfree : source.CollisionFree payload all) :
    (all = source.covering payload → source.verify body = .ok (some
      ⟨all.drop (source.resolved.start - source.coveringStart), source.resolved.length⟩)) ∧
    (all ≠ source.covering payload → ∃ failure, source.verify body = .error failure ∧
      failure.is .digestMismatch = true) := by
  have hlength : (source.covering payload).length = source.expectedCovering := by
    rw [covering, length_segment (h.boundary_le _), h.expectedCovering_eq]
  have hread := h.checked_start.readLoop h hfree rfl rfl hbody (Nat.zero_le _)
    (by rw [List.nil_append, List.length_nil, Nat.sub_zero, hall])
  obtain ⟨after, hloop, hspool, hobserved, hchecked⟩ | ⟨failure, hloop, his, hwrong⟩ := hread
  · unfold VerifiedRangeSource.verify
    rw [hloop]
    dsimp only
    rw [hobserved, hspool]
    by_cases hwhole : all.length = source.expectedCovering
    · have hlast : after.currentChunk = source.lastChunk + 1 := by
        by_contra hopen
        have hupto := hchecked.last
        have hcurrent : after.currentChunk ≤ source.lastChunk := by omega
        have hcount := hchecked.length_eq h
        have hroom := hchecked.room hcurrent
        have hstart := hchecked.covering_start h hcurrent
        have hnext : source.boundary (after.currentChunk + 1) ≤
            source.boundary (source.lastChunk + 1) := boundary_mono (Nat.succ_le_succ hcurrent)
        rw [h.expected_eq hcurrent] at hroom
        rw [h.expectedCovering_eq] at hwhole
        omega
      have hsame : all = source.covering payload := by
        have hsplit := hchecked.split
        rwa [hchecked.closed hlast, List.append_nil, hlast] at hsplit
      rw [if_neg (by simp [hwhole, hlast])]
      exact ⟨fun _ => rfl, fun hwrong => absurd hsame hwrong⟩
    · rw [if_pos (.inl hwhole)]
      exact ⟨fun hsame => absurd (hsame ▸ hlength) hwhole, fun _ => ⟨_, rfl, rfl⟩⟩
  · unfold VerifiedRangeSource.verify
    rw [hloop]
    exact ⟨fun hsame => absurd hsame hwrong, fun _ => ⟨failure, rfl, his⟩⟩

-- The source asks for whole chunks within the object. Whatever the reads of the reply
-- bring, the covering bytes give a stream that delivers the range and nothing more, and
-- any others are refused before a stream is given.
theorem open_exact {version : Option String} {writes : List Bytes}
    (hversion : source.versionId = .ofOption version)
    (hsized : 0 < source.config.integrityChunkBytes)
    (hordered : source.resolved.start ≤ source.resolved.end)
    (hinside : source.resolved.end < source.resolved.totalLength)
    (htotal : source.resolved.totalLength = writes.flatten.length)
    (hdigests : source.chunkDigests =
      ((IntegritySpool.new source.config.integrityChunkBytes).writeAll source.transport.common
        writes).finish source.transport.common) :
    source.coveringStart ≤ source.resolved.start ∧ source.resolved.end ≤ source.coveringEnd ∧
      source.coveringEnd < writes.flatten.length ∧
      ∃ next : Except Failure (List Bytes) → S3M (Option LimitedReader),
        source.open = .call (.getObject source.key version
          (some (source.coveringStart, source.coveringEnd))) next ∧
        ∀ body, [] ∉ body →
          source.CollisionFree writes.flatten (body.flatten.take source.expectedCovering) →
          (body.flatten.take source.expectedCovering =
              Provider.slice writes.flatten (source.coveringStart, source.coveringEnd) →
            ∃ reader, next (.ok body) = .done (.ok (some reader)) ∧ ∀ sizes,
              (reader.reads sizes).flatten =
                (Provider.slice writes.flatten (source.resolved.start, source.resolved.end)).take
                  (LimitedReader.asked source.resolved.length sizes)) ∧
          (body.flatten.take source.expectedCovering ≠
              Provider.slice writes.flatten (source.coveringStart, source.coveringEnd) →
            ∃ failure, next (.ok body) = .done (.error failure) ∧
              failure.is .digestMismatch = true) := by
  have h : source.Over writes.flatten :=
    ⟨hsized, hordered, htotal ▸ hinside, htotal,
      hdigests.trans (IntegritySpool.finish_writeAll _ hsized writes)⟩
  have hstart := coveringStart_le source
  have hend := h.end_le
  refine ⟨hstart, hend, h.coveringEnd_lt, fun reply =>
    (normalized "read_range" false (Program.lift reply)).andThen
      (Program.onOk fun body => Program.lift (source.verify body)), ?_,
    fun body hbody hfree => ?_⟩
  · unfold VerifiedRangeSource.open S3Transport.getBody
    rw [hversion]
    cases version <;> rfl
  · have hslice : Provider.slice writes.flatten (source.coveringStart, source.coveringEnd) =
        source.covering writes.flatten := by
      rw [covering, h.boundary_last]
      rfl
    rw [hslice]
    obtain ⟨hgood, hbad⟩ := h.verify hbody rfl hfree
    refine ⟨fun hsame => ⟨_, congrArg Program.done (hgood hsame), fun sizes => ?_⟩, fun hwrong => ?_⟩
    · have hlength : (source.covering writes.flatten).length = source.expectedCovering := by
        rw [covering, length_segment (h.boundary_le _), h.expectedCovering_eq]
      have hrange : ((source.covering writes.flatten).drop
          (source.resolved.start - source.coveringStart)).take source.resolved.length =
          Provider.slice writes.flatten (source.resolved.start, source.resolved.end) := by
        have hskip : source.coveringStart + (source.resolved.start - source.coveringStart) =
            source.resolved.start := by omega
        have hcount : source.resolved.length = source.resolved.end + 1 - source.resolved.start := by
          rw [ResolvedByteRange.length]
          omega
        rw [covering, h.boundary_last, segment_drop_take _ _ (by omega), hskip, hcount,
          Provider.slice]
      have hroom : source.resolved.length ≤ ((source.covering writes.flatten).drop
          (source.resolved.start - source.coveringStart)).length := by
        rw [List.length_drop, hlength, expectedCovering, ResolvedByteRange.length]
        omega
      rw [hsame, LimitedReader.reads_flatten hroom (Nat.le_refl _), hrange]
    · obtain ⟨failure, hverify, his⟩ := hbad hwrong
      exact ⟨failure, congrArg Program.done hverify, his⟩

end Loops

end VerifiedRangeSource

namespace Standard

-- A payload of two chunks, read from the middle of the first to the middle of the second.
def twoChunks : List Bytes :=
  [ObjectCommon.encodeUtf8 "version-onever", ObjectCommon.encodeUtf8 "sion-two"]

def rangeSource : VerifiedRangeSource :=
  let config : S3Config := { config with integrityChunkBytes := 11 }
  { transport := ⟨common, config⟩
    config := config
    key := "blob"
    versionId := .ofOption (some "v0")
    resolved := ⟨5, 15, 22⟩
    chunkDigests := ((IntegritySpool.new 11).writeAll common twoChunks).finish common }

theorem range_read_exactly :
    ∃ next : Except Failure (List Bytes) → S3M (Option LimitedReader),
      rangeSource.open = .call (.getObject "blob" (some "v0") (some (0, 21))) next ∧
      ∃ reader, next (.ok twoChunks) = .done (.ok (some reader)) ∧
        (reader.reads [4, -1]).flatten = ObjectCommon.encodeUtf8 "on-oneversi" := by
  have hpieces : Codec.pieces 11 twoChunks.flatten =
      [ObjectCommon.encodeUtf8 "version-one", ObjectCommon.encodeUtf8 "version-two"] := by
    decide +kernel
  have hfree : rangeSource.CollisionFree twoChunks.flatten
      (twoChunks.flatten.take rangeSource.expectedCovering) := by
    have hall : twoChunks.flatten.take rangeSource.expectedCovering = twoChunks.flatten := by
      decide
    rw [hall]
    apply collisionFree.mono
    intro chunk hchunk
    have hchunk : chunk ∈ Codec.pieces 11 twoChunks.flatten := hchunk.elim id id
    rw [hpieces, List.mem_cons, List.mem_singleton] at hchunk
    rcases hchunk with rfl | rfl
    · exact List.mem_map.mpr ⟨KNOWN_DIGESTS[2], List.getElem_mem _, rfl⟩
    · exact List.mem_map.mpr ⟨KNOWN_DIGESTS[3], List.getElem_mem _, rfl⟩
  obtain ⟨-, -, -, next, hopen, hreads⟩ :=
    @VerifiedRangeSource.open_exact rangeSource (some "v0") twoChunks rfl (by decide) (by decide)
      (by decide) (by decide) rfl
  obtain ⟨reader, hnext, hdelivers⟩ := (hreads twoChunks (by decide) hfree).1
    (by decide)
  exact ⟨next, hopen, reader, hnext, (hdelivers _).trans (by decide)⟩

end Standard

end MeridianS3
