import MeridianS3.Deposit.Sequence
import MeridianS3.Layout.Cursor.Theorems
import MeridianS3.ObjectStore.Scan
import MeridianS3.Publication.Readers

namespace MeridianS3

open Effect ObjectStore Json

variable {provider : Provider} {layout : S3Layout} {hashed : Set Bytes} {origin final : Bucket}

-- A key of a reference of the resource, with the envelope that stands under it.
def S3Layout.Entry (layout : S3Layout) (resource : ResourceRef) (bucket : Bucket)
    (entry : String × StoredEnvelope) : Prop :=
  ∃ object content,
    entry.1 = layout.path (.reference (layout.resourceToken resource) object content) ∧
    layout.Recorded bucket (layout.resourceToken resource) object content entry.2

-- The keys of the resource's references.
def S3Layout.entryKeys (layout : S3Layout) (resource : ResourceRef) (bucket : Bucket) :
    Set String :=
  fun key => (bucket.current key).isSome = true ∧
    (layout.referencePrefix resource).toList.isPrefixOf key.toList = true

theorem S3Layout.Entry.mem_entryKeys {resource : ResourceRef} {bucket : Bucket}
    {entry : String × StoredEnvelope}
    (h : layout.Entry resource bucket entry) : entry.1 ∈ layout.entryKeys resource bucket := by
  obtain ⟨object, content, hkey, -, stored, hcurrent, -⟩ := h
  rw [hkey]
  refine ⟨by rw [hcurrent]; rfl, List.isPrefixOf_iff_prefix.mpr ?_⟩
  exact (PhysicalKey.referencePrefix_prefix_iff _ _ _).mpr ⟨object, content, rfl⟩

-- What a listing makes of the references that it comes across.
def matching (namePrefix : String) (found : List (String × StoredEnvelope)) : List ObjectMetadata :=
  (found.filter fun entry =>
    namePrefix.toList.isPrefixOf entry.2.metadata.objectRef.objectId.toList).map fun entry =>
      entry.2.metadata

theorem matching_append (namePrefix : String) (first second : List (String × StoredEnvelope)) :
    matching namePrefix (first ++ second) =
      matching namePrefix first ++ matching namePrefix second := by
  rw [matching, List.filter_append, List.map_append]
  rfl

theorem matching_any (found : List (String × StoredEnvelope)) :
    matching "" found = found.map fun entry => entry.2.metadata := by
  have hall : ∀ entry ∈ found,
      "".toList.isPrefixOf entry.2.metadata.objectRef.objectId.toList = true := fun _ _ => rfl
  rw [matching, List.filter_eq_self.mpr hall]

-- How far a listing has come, with what it has come across since.
structure ListProgress.Goes (namePrefix : String) (limit : Nat) (before after : ListProgress)
    (found : List (String × StoredEnvelope)) : Prop where
  items : after.items = before.items ++ matching namePrefix found
  lastScanned : after.lastScanned = Scan.resume before.lastScanned (found.map Prod.fst)
  bounded : before.items.length ≤ limit → after.items.length ≤ limit

namespace ListProgress.Goes

variable {namePrefix : String} {limit : Nat} {before middle after : ListProgress}
  {first second : List (String × StoredEnvelope)}

theorem refl : before.Goes namePrefix limit before [] where
  items := (List.append_nil _).symm
  lastScanned := rfl
  bounded := id

theorem trans (h : before.Goes namePrefix limit middle first)
    (hnext : middle.Goes namePrefix limit after second) :
    before.Goes namePrefix limit after (first ++ second) where
  items := by rw [hnext.items, h.items, matching_append, List.append_assoc]
  lastScanned := by rw [hnext.lastScanned, h.lastScanned, List.map_append, Scan.resume_append]
  bounded := fun hbefore => hnext.bounded (h.bounded hbefore)

theorem one (hroom : before.items.length ≠ limit) (key : String) (envelope : StoredEnvelope) :
    before.Goes namePrefix limit
      { items := if namePrefix.toList.isPrefixOf envelope.metadata.objectRef.objectId.toList
          then before.items ++ [envelope.metadata] else before.items
        lastScanned := some key } [(key, envelope)] := by
  by_cases hmatches :
      namePrefix.toList.isPrefixOf envelope.metadata.objectRef.objectId.toList = true
  · constructor
    · simp [matching, hmatches]
    · rfl
    · intro hbefore
      rw [if_pos hmatches, List.length_append, List.length_singleton]
      omega
  · constructor
    · simp [matching, hmatches]
    · rfl
    · intro hbefore
      rwa [if_neg hmatches]

end ListProgress.Goes

-- What the turns of a listing see: everything that was there at first, and nothing that
-- does not stay.
structure Meanwhile (provider : Provider) (layout : S3Layout) (hashed : Set Bytes)
    (origin final state : Bucket) : Prop where
  first : Since provider layout hashed origin state
  last : Since provider layout hashed state final

namespace S3ObjectAdapter

variable {adapter : S3ObjectAdapter} {resource : ResourceRef} {namePrefix : String} {limit : Nat}

theorem scanned_entry {state : Bucket} (hsound : adapter.layout.Sound hashed state)
    {object content : HexDigest} {envelope : StoredEnvelope}
    (h : adapter.scanned state (adapter.layout.path
      (.reference (adapter.layout.resourceToken resource) object content)) = .ok envelope) :
    adapter.layout.Recorded state (adapter.layout.resourceToken resource) object content
      envelope := by
  obtain ⟨value, hdocument, -⟩ := bind_ok h
  obtain ⟨stored, hcurrent⟩ := S3Transport.document_ok_current hdocument
  obtain ⟨found, hrecorded, henvelope⟩ := hsound.recorded hcurrent
  obtain rfl := henvelope.object
  rwa [scanned_recorded hrecorded h]

-- A listed reference was read at one of the turns, and stands to the end.
theorem readListed_amid {key : String} {seen : List (Bucket × Option (Fault Failure))} {α : Type}
    {next : StoredEnvelope → S3M α} {value : α}
    (h : (do
      let document ← adapter.transport.readJson key
      let envelope ← Program.lift (StoredEnvelope.fromMapping adapter.common document)
      next envelope : S3M α).Amid provider.handle seen (.done (.ok value))) :
    ∃ turn rest envelope, seen = turn :: rest ∧ adapter.scanned turn.1 key = .ok envelope ∧
      (next envelope).Amid provider.handle rest (.done (.ok value)) := by
  obtain ⟨first, rest, document, rfl, hread, hrest⟩ := Program.amid_bind h
  rw [S3Transport.readJson_eq] at hread
  obtain ⟨state, rfl, hreply⟩ := Program.amid_once (fun error => ⟨_, rfl⟩) hread
  rw [S3Transport.decodeReply_handle] at hreply
  obtain ⟨envelope, henvelope, hrest⟩ := Program.amid_lift_bind hrest
  refine ⟨(state, none), rest, envelope, rfl, ?_, hrest⟩
  rw [scanned, hreply]
  exact henvelope

theorem listPage_amid {keys : List String}
    (hkeys : ∀ key ∈ keys, ∃ object content, key = adapter.layout.path
      (.reference (adapter.layout.resourceToken resource) object content))
    {progress : ListProgress} {seen : List (Bucket × Option (Fault Failure))}
    {ended : ListProgress × Bool}
    (h : (adapter.listPage namePrefix limit keys progress).Amid provider.handle seen
      (.done (.ok ended)))
    (hseen : ∀ turn ∈ seen, adapter.layout.Sound hashed turn.1 ∧
      Since provider adapter.layout hashed turn.1 final) :
    ∃ found rest, keys = found.map Prod.fst ++ rest ∧
      (∀ entry ∈ found, adapter.layout.Entry resource final entry) ∧
      progress.Goes namePrefix limit ended.1 found ∧
      (ended.2 = false → rest = []) ∧ (ended.2 = true → ended.1.items.length = limit) := by
  induction keys generalizing progress seen with
  | nil =>
      obtain ⟨-, hended⟩ := Program.amid_done h
      cases hended
      exact ⟨[], [], rfl, fun _ hmem => absurd hmem List.not_mem_nil, .refl, fun _ => rfl,
        fun hmore => absurd hmore Bool.false_ne_true⟩
  | cons key keys ih =>
      unfold listPage at h
      split at h
      · rename_i hfull
        obtain ⟨-, hended⟩ := Program.amid_done h
        cases hended
        exact ⟨[], key :: keys, rfl, fun _ hmem => absurd hmem List.not_mem_nil, .refl,
          fun hmore => absurd hmore.symm Bool.false_ne_true, fun _ => hfull⟩
      · rename_i hroom
        obtain ⟨turn, later, envelope, rfl, hscanned, hlater⟩ := readListed_amid h
        obtain ⟨object, content, hkey⟩ := hkeys key List.mem_cons_self
        obtain ⟨hsound, hsince⟩ := hseen turn List.mem_cons_self
        rw [hkey] at hscanned
        have hrecorded := scanned_entry hsound hscanned
        have hkept := S3Layout.recorded_congr (hsince.publishes.references _ _ _
          (S3Layout.recorded_entries hrecorded)) hrecorded
        obtain ⟨found, rest, rfl, hfound, hgoes, hend, hlimit⟩ :=
          ih (fun other hmem => hkeys other (List.mem_cons_of_mem _ hmem)) hlater
            fun other hmem => hseen other (List.mem_cons_of_mem _ hmem)
        refine ⟨(key, envelope) :: found, rest, rfl, ?_,
          (ListProgress.Goes.one hroom key envelope).trans hgoes, hend, hlimit⟩
        exact List.forall_mem_cons.mpr ⟨⟨object, content, hkey, hkept⟩, hfound⟩

theorem listKeys_eq (keyPrefix : String) (maxKeys : Nat) (startAfter : Option String) :
    S3Transport.listKeys keyPrefix maxKeys startAfter =
      (Program.perform (S := S3) (.listObjectsV2 keyPrefix maxKeys startAfter)).andThen fun reply =>
        .done ((normalizedResult "list" false reply).map fun value =>
          ⟨value.contents, value.isTruncated⟩) := by
  rw [S3Transport.listKeys, normalized_eq, Program.bind_eq, Program.andThen_assoc]
  congr 1
  funext reply
  cases reply <;> rfl

theorem listKeys_amid {keyPrefix : String} {startAfter : Option String} {page : KeyPage}
    {seen : List (Bucket × Option (Fault Failure))}
    (h : (S3Transport.listKeys keyPrefix 1000 startAfter).Amid provider.handle seen
      (.done (.ok page))) :
    ∃ state, seen = [(state, none)] ∧ page.keys = (pageAt state keyPrefix startAfter).keys ∧
      page.truncated = (pageAt state keyPrefix startAfter).truncated := by
  rw [listKeys_eq] at h
  obtain ⟨state, rfl, hreply⟩ := Program.amid_once (fun error => ⟨_, rfl⟩) h
  obtain rfl := Except.ok.inj hreply
  exact ⟨state, rfl, rfl, rfl⟩

theorem meanwhile_kept {state : Bucket}
    (h : Meanwhile provider adapter.layout hashed origin final state)
    (horigin : adapter.layout.Sound hashed origin) :
    ∀ key ∈ adapter.layout.entryKeys resource origin, (state.current key).isSome = true ∧
      (adapter.layout.referencePrefix resource).toList.isPrefixOf key.toList = true := by
  rintro key ⟨hcurrent, hunder⟩
  refine ⟨?_, hunder⟩
  have hstored := (horigin.current_isSome_iff key).mp hcurrent
  obtain ⟨physical, rfl⟩ := horigin.keys key hstored
  obtain ⟨object, content, rfl⟩ :=
    (PhysicalKey.referencePrefix_prefix_iff _ _ _).mp (List.isPrefixOf_iff_prefix.mp hunder)
  rwa [h.first.reference hstored]

theorem pageAt_empty {state : Bucket} {keyPrefix : String} {startAfter : Option String}
    (h : (pageAt state keyPrefix startAfter).keys = []) :
    (pageAt state keyPrefix startAfter).truncated = false := by
  have hlisted : keysUnder state keyPrefix startAfter = [] :=
    (List.take_eq_nil_iff.mp h).resolve_left (by decide)
  change decide (1000 < (keysUnder state keyPrefix startAfter).length) = false
  rw [hlisted]
  rfl

theorem pageAt_reference {state : Bucket} {key : String} {startAfter : Option String}
    (hsound : adapter.layout.Sound hashed state)
    (hmem : key ∈ (pageAt state (adapter.layout.referencePrefix resource) startAfter).keys) :
    ∃ object content, key = adapter.layout.path
      (.reference (adapter.layout.resourceToken resource) object content) := by
  obtain ⟨hcurrent, hunder, -⟩ := mem_keysUnder_iff.mp (List.mem_of_mem_take hmem)
  obtain ⟨physical, rfl⟩ := hsound.keys key ((hsound.current_isSome_iff key).mp hcurrent)
  obtain ⟨object, content, rfl⟩ := (PhysicalKey.referencePrefix_prefix_iff _ _ _).mp hunder
  exact ⟨object, content, rfl⟩

-- The pages of one request are one scan. It has come to its end unless there may be more.
theorem listPages_amid (horigin : adapter.layout.Sound hashed origin) {pages : Nat}
    {startAfter : Option String} {progress : ListProgress} {more : Bool}
    {seen : List (Bucket × Option (Fault Failure))} {ended : ListProgress × Bool}
    (h : (adapter.listPages (adapter.layout.referencePrefix resource) namePrefix limit pages
      startAfter progress more).Amid provider.handle seen (.done (.ok ended)))
    (hseen : ∀ turn ∈ seen, Meanwhile provider adapter.layout hashed origin final turn.1)
    (hpages : pages = 0 → more = true)
    (hscanned : progress.lastScanned = none → progress.items.length < limit ∧ more = false) :
    ∃ found, Scan (adapter.layout.entryKeys resource origin) startAfter (found.map Prod.fst)
        (!ended.2) ∧
      (∀ entry ∈ found, adapter.layout.Entry resource final entry) ∧
      progress.Goes namePrefix limit ended.1 found ∧
      (ended.2 = true → ended.1.lastScanned ≠ none) := by
  induction pages generalizing startAfter progress more seen with
  | zero =>
      obtain ⟨-, hended⟩ := Program.amid_done h
      cases hended
      refine ⟨[], ?_, fun _ hmem => absurd hmem List.not_mem_nil, .refl, ?_⟩
      · rw [hpages rfl]
        exact .none_taken
      · intro hmore hnone
        rw [(hscanned hnone).2] at hmore
        cases hmore
  | succ pages ih =>
      obtain ⟨first, rest, page, rfl, hlisted, hrest⟩ := Program.amid_bind h
      obtain ⟨state, rfl, hkeys, htruncated⟩ := listKeys_amid hlisted
      have hstate := hseen _ List.mem_cons_self
      have hpage : Scan (adapter.layout.entryKeys resource origin) startAfter page.keys
          (!page.truncated) := by
        rw [hkeys, htruncated]
        exact .page (meanwhile_kept hstate horigin)
      have hsees : ∀ turn ∈ rest, Meanwhile provider adapter.layout hashed origin final turn.1 :=
        fun turn hmem => hseen turn (List.mem_cons_of_mem _ hmem)
      split at hrest
      · rename_i hlast
        obtain ⟨-, hended⟩ := Program.amid_done hrest
        cases hended
        refine ⟨[], ?_, fun _ hmem => absurd hmem List.not_mem_nil, .refl,
          fun hmore => nomatch hmore⟩
        rw [List.getLast?_eq_none_iff.mp hlast] at hpage
        have hshort : page.truncated = false := by
          rw [htruncated]
          rw [hkeys] at hlast
          exact pageAt_empty (List.getLast?_eq_none_iff.mp hlast)
        rwa [hshort] at hpage
      · rename_i last hlast
        obtain ⟨reads, later, scanned, rfl, hreads, hlater⟩ := Program.amid_bind hrest
        obtain ⟨found, left, hsplit, hfound, hgoes, hend, hlimit⟩ := listPage_amid
          (fun key hmem => pageAt_reference hstate.first.sound (hkeys ▸ hmem)) hreads
          fun turn hmem =>
            have hturn := hsees turn (List.mem_append_left _ hmem)
            ⟨hturn.first.sound, hturn.last⟩
        have hstop : Scan (adapter.layout.entryKeys resource origin) startAfter
            (found.map Prod.fst) (left.isEmpty && !page.truncated) := by
          rw [hsplit] at hpage
          exact hpage.stop
        have hkept : scanned.1.lastScanned ≠ none := by
          intro hnone
          rw [hgoes.lastScanned] at hnone
          obtain ⟨hnothing, hstarted⟩ := Option.or_eq_none_iff.mp hnone
          obtain rfl := List.map_eq_nil_iff.mp (List.getLast?_eq_none_iff.mp hnothing)
          have hroom := (hscanned hstarted).1
          have hitems : scanned.1.items = progress.items :=
            hgoes.items.trans (List.append_nil _)
          cases hlimited : scanned.2 with
          | true => exact absurd (hitems ▸ hlimit hlimited) (Nat.ne_of_lt hroom)
          | false =>
              rw [hsplit, hend hlimited] at hlast
              cases hlast
        obtain ⟨after, limited⟩ := scanned
        dsimp only at hlater hgoes hend hlimit hkept
        split at hlater
        · obtain ⟨-, hended⟩ := Program.amid_done hlater
          cases hended
          exact ⟨found, hstop.cut, hfound, hgoes, fun _ => hkept⟩
        · rename_i hmore
          obtain ⟨hlimited, hmore⟩ := not_or.mp hmore
          have hleft : left = [] := hend (Bool.eq_false_iff.mpr hlimited)
          subst hleft
          split at hlater
          · rename_i htruncated
            obtain ⟨-, hended⟩ := Program.amid_done hlater
            cases hended
            rw [Bool.eq_false_iff.mpr htruncated] at hstop
            exact ⟨found, hstop, hfound, hgoes, fun hmore => nomatch hmore⟩
          · rename_i htruncated
            rw [List.append_nil] at hsplit
            obtain ⟨others, hnext, hothers, hgoes', hlast'⟩ := ih hlater
              (fun turn hmem => hsees turn (List.mem_append_right _ hmem)) (fun _ => rfl)
              fun hnone => absurd hnone hkept
            have hresume : Scan.resume startAfter (found.map Prod.fst) = some last := by
              rw [Scan.resume, ← hsplit, hlast]
              rfl
            refine ⟨found ++ others, ?_, ?_, hgoes.trans hgoes', hlast'⟩
            · rw [List.map_append]
              exact hstop.cut.append (by rwa [hresume])
            · exact List.forall_mem_append.mpr ⟨hfound, hothers⟩

-- A cursor resumes right after the reference that it was made for.
theorem cursor_resumes_after (hreads : ReadsObjects adapter.layout.common) {bucket : Bucket}
    {entry : String × StoredEnvelope} (hentry : adapter.layout.Entry resource bucket entry)
    {cursor : String} (h : adapter.layout.cursorForKey resource entry.1 = .ok cursor) :
    adapter.layout.startAfter resource (some cursor) = .ok (some entry.1) := by
  obtain ⟨object, content, hkey, -⟩ := hentry
  rw [hkey.trans (S3Layout.reference_render _ _ _ _)] at h ⊢
  rw [S3Layout.cursorForKey_append] at h
  obtain rfl := Except.ok.inj h
  apply adapter.layout.startAfter_encode resource
  have hlength := length_referenceSuffix object content
  exact ListCursor.decode_encode hreads (by omega) (slash_mem_referenceSuffix object content)
    (plain_referenceSuffix object content)

-- What one answer lists, from where its cursor says to where its own cursor leads.
structure Lists (adapter : S3ObjectAdapter) (origin final : Bucket) (request : ListRequest)
    (result : ListResult) (start : Option String) (found : List (String × StoredEnvelope)) :
    Prop where
  scan : Scan (adapter.layout.entryKeys request.resource origin) start (found.map Prod.fst)
    result.cursor.isNone
  entries : ∀ entry ∈ found, adapter.layout.Entry request.resource final entry
  items : result.items = matching request.namePrefix found
  bounded : result.items.length ≤ request.limit
  resumes : ∀ cursor ∈ result.cursor, found ≠ [] ∧
    adapter.layout.startAfter request.resource (some cursor) =
      .ok (Scan.resume start (found.map Prod.fst))

theorem list_amid (hreads : ReadsObjects adapter.layout.common)
    (horigin : adapter.layout.Sound hashed origin) {request : ListRequest}
    (hlimit : 0 < request.limit) {seen : List (Bucket × Option (Fault Failure))}
    {result : ListResult}
    (h : (adapter.list request).Amid provider.handle seen (.done (.ok result)))
    (hseen : ∀ turn ∈ seen, Meanwhile provider adapter.layout hashed origin final turn.1) :
    ∃ start found, adapter.layout.startAfter request.resource request.cursor = .ok start ∧
      adapter.Lists origin final request result start found := by
  obtain ⟨start, hstart, hpages⟩ := Program.amid_lift_bind h
  obtain ⟨called, rest, ⟨progress, more⟩, rfl, hcalled, hrest⟩ := Program.amid_bind hpages
  have hcalls := fun turn hmem => hseen turn (List.mem_append_left rest hmem)
  obtain ⟨found, hscan, hentries, hgoes, hscanned⟩ := listPages_amid horigin hcalled hcalls
    (fun hnone => absurd hnone (by decide)) fun _ => ⟨hlimit, rfl⟩
  have hitems : progress.items = matching request.namePrefix found := hgoes.items
  have hbounded : progress.items.length ≤ request.limit := hgoes.bounded (Nat.zero_le _)
  have hwhole (hcase : ∀ key, more = true → progress.lastScanned = some key → False) :
      more = false := by
    cases more with
    | false => rfl
    | true =>
        obtain ⟨key, hkey⟩ := Option.ne_none_iff_exists'.mp (hscanned rfl)
        exact absurd hkey (hcase key rfl)
  refine ⟨start, found, hstart, ?_⟩
  dsimp only at hrest
  split at hrest
  · rename_i key hkey
    obtain ⟨cursor, hcursor, hended⟩ := Program.amid_lift_bind hrest
    obtain ⟨-, hended⟩ := Program.amid_done hended
    cases hended
    refine ⟨hscan, hentries, hitems, hbounded, ?_⟩
    intro other hother
    obtain rfl := Option.some.inj hother
    have hlast : (found.map Prod.fst).getLast? = some key := by
      have hresume := hgoes.lastScanned
      rw [hkey, Scan.resume, Option.or_none] at hresume
      exact hresume.symm
    have hmem := List.mem_of_getLast? hlast
    obtain ⟨entry, hentry, rfl⟩ := List.mem_map.mp hmem
    refine ⟨List.ne_nil_of_mem hentry, ?_⟩
    rw [Scan.resume, hlast]
    exact cursor_resumes_after hreads (hentries entry hentry) hcursor
  · rename_i hcase
    obtain ⟨-, hended⟩ := Program.amid_done hrest
    cases hended
    refine ⟨?_, hentries, hitems, hbounded,
      fun cursor hcursor => absurd hcursor (Option.not_mem_none cursor)⟩
    dsimp only at hscan
    rwa [hwhole hcase] at hscan

-- A client that follows the cursors of a listing, page by page.
def listAll (adapter : S3ObjectAdapter) : Nat → ListRequest → S3M (List ListResult)
  | 0, _ => pure []
  | pages + 1, request => do
      let result ← adapter.list request
      match result.cursor with
      | none => return [result]
      | some cursor => do
          let rest ← listAll adapter pages { request with cursor := some cursor }
          return result :: rest

-- The last answer says that nothing is left to list.
def exhausted (results : List ListResult) : Bool :=
  results.getLast?.any fun result => result.cursor.isNone

-- All that a client has been told, from where its first cursor says.
structure Enumerates (adapter : S3ObjectAdapter) (final : Bucket) (request : ListRequest)
    (pages : Nat) (results : List ListResult) (found : List (String × StoredEnvelope)) : Prop where
  entries : ∀ entry ∈ found, adapter.layout.Entry request.resource final entry
  items : results.flatMap ListResult.items = matching request.namePrefix found
  bounded : ∀ result ∈ results, result.items.length ≤ request.limit
  ended : found.length < pages → exhausted results = true

theorem exhausted_cons {result : ListResult} {results : List ListResult}
    (hcursor : result.cursor ≠ none) : exhausted (result :: results) = exhausted results := by
  cases results with
  | nil =>
      obtain ⟨cursor, hcursor⟩ := Option.ne_none_iff_exists'.mp hcursor
      simp [exhausted, hcursor]
  | cons next rest => rw [exhausted, List.getLast?_cons_cons, exhausted]

theorem listAll_amid (hreads : ReadsObjects adapter.layout.common)
    (horigin : adapter.layout.Sound hashed origin) {pages : Nat} {request : ListRequest}
    (hlimit : 0 < request.limit) {start : Option String}
    (hstart : adapter.layout.startAfter request.resource request.cursor = .ok start)
    {seen : List (Bucket × Option (Fault Failure))} {results : List ListResult}
    (h : (adapter.listAll pages request).Amid provider.handle seen (.done (.ok results)))
    (hseen : ∀ turn ∈ seen, Meanwhile provider adapter.layout hashed origin final turn.1) :
    ∃ found, Scan (adapter.layout.entryKeys request.resource origin) start (found.map Prod.fst)
        (exhausted results) ∧
      adapter.Enumerates final request pages results found := by
  induction pages generalizing request start seen results with
  | zero =>
      obtain ⟨-, hended⟩ := Program.amid_done h
      cases hended
      exact ⟨[], .none_taken, fun _ hmem => absurd hmem List.not_mem_nil, rfl,
        fun _ hmem => absurd hmem List.not_mem_nil, fun hlt => absurd hlt (Nat.not_lt_zero _)⟩
  | succ pages ih =>
      obtain ⟨called, rest, result, rfl, hcalled, hrest⟩ := Program.amid_bind h
      obtain ⟨start', found, hstart', hlists⟩ := list_amid hreads horigin hlimit hcalled
        fun turn hmem => hseen turn (List.mem_append_left _ hmem)
      obtain rfl : start = start' := Except.ok.inj (hstart.symm.trans hstart')
      split at hrest
      · rename_i hcursor
        obtain ⟨-, hended⟩ := Program.amid_done hrest
        cases hended
        have hexhausted : exhausted [result] = true := by simp [exhausted, hcursor]
        refine ⟨found, ?_, hlists.entries, ?_, ?_, fun _ => hexhausted⟩
        · have hscan := hlists.scan
          rw [hcursor] at hscan
          rwa [hexhausted]
        · rw [List.flatMap_singleton]
          exact hlists.items
        · exact List.forall_mem_singleton.mpr hlists.bounded
      · rename_i cursor hcursor
        obtain ⟨later, after, others, rfl, hlater, hafter⟩ := Program.amid_bind hrest
        obtain ⟨-, hended⟩ := Program.amid_done hafter
        cases hended
        obtain ⟨hsome, hresumes⟩ := hlists.resumes cursor hcursor
        have hroom : 0 < ({ request with cursor := some cursor } : ListRequest).limit := hlimit
        obtain ⟨remaining, hscan, hremaining⟩ := ih hroom hresumes hlater fun turn hmem =>
          hseen turn (List.mem_append_right _ (List.mem_append_left _ hmem))
        have hexhausted : exhausted (result :: others) = exhausted others :=
          exhausted_cons (by simp [hcursor])
        refine ⟨found ++ remaining, ?_, ?_, ?_, ?_, ?_⟩
        · rw [List.map_append, hexhausted]
          have hfirst := hlists.scan
          rw [hcursor] at hfirst
          exact hfirst.append hscan
        · exact List.forall_mem_append.mpr ⟨hlists.entries, hremaining.entries⟩
        · rw [List.flatMap_cons, hlists.items, hremaining.items, matching_append]
        · exact List.forall_mem_cons.mpr ⟨hlists.bounded, hremaining.bounded⟩
        · intro hlt
          rw [hexhausted]
          apply hremaining.ended
          have hlength := List.length_pos_iff.mpr hsome
          rw [List.length_append] at hlt
          omega

section Alone

variable {bucket : Bucket} (provider : Provider) (namePrefix : String) (limit : Nat)

-- Where every reference can be read, a listing goes on to where it ends.
theorem listPage_runs {keys : List String}
    (hscanned : ∀ key ∈ keys, ∃ envelope, adapter.scanned bucket key = .ok envelope)
    (progress : ListProgress) :
    ∃ ended, (adapter.listPage namePrefix limit keys progress).run provider.handle bucket =
        (.ok ended, bucket) ∧
      ∀ key ∈ ended.1.lastScanned, key ∈ progress.lastScanned ∨ key ∈ keys := by
  induction keys generalizing progress with
  | nil => exact ⟨(progress, false), rfl, fun key hkey => Or.inl hkey⟩
  | cons key keys ih =>
      unfold listPage
      split
      · exact ⟨(progress, true), rfl, fun key hkey => Or.inl hkey⟩
      · obtain ⟨envelope, henvelope⟩ := hscanned key List.mem_cons_self
        obtain ⟨value, hvalue, hparsed⟩ := bind_ok henvelope
        obtain ⟨ended, hended, hlast⟩ := ih
          (fun other hmem => hscanned other (List.mem_cons_of_mem _ hmem))
          { items := if namePrefix.toList.isPrefixOf envelope.metadata.objectRef.objectId.toList
              then progress.items ++ [envelope.metadata] else progress.items
            lastScanned := some key }
        have hread : (adapter.transport.readJson key).run provider.handle bucket =
            (.ok value, bucket) := by
          rw [S3Transport.run_readJson, hvalue]
        refine ⟨ended, ?_, ?_⟩
        · rw [Program.run_bind_ok _ _ _ _ _ _ hread, hparsed]
          exact hended
        · intro other hother
          obtain hsame | hmem := hlast other hother
          · exact Or.inr (Option.some.inj hsame ▸ List.mem_cons_self)
          · exact Or.inr (List.mem_cons_of_mem _ hmem)

theorem listPages_runs {keyPrefix : String}
    (hscanned : ∀ key ∈ keysUnder bucket keyPrefix none,
      ∃ envelope, adapter.scanned bucket key = .ok envelope) (pages : Nat)
    (startAfter : Option String) (progress : ListProgress) (more : Bool) :
    ∃ ended, (adapter.listPages keyPrefix namePrefix limit pages startAfter progress more).run
        provider.handle bucket = (.ok ended, bucket) ∧
      ∀ key ∈ ended.1.lastScanned,
        key ∈ progress.lastScanned ∨ key ∈ keysUnder bucket keyPrefix none := by
  induction pages generalizing startAfter progress more with
  | zero => exact ⟨(progress, more), rfl, fun key hkey => Or.inl hkey⟩
  | succ pages ih =>
      have hlisted : ∀ key ∈ (pageAt bucket keyPrefix startAfter).keys,
          key ∈ keysUnder bucket keyPrefix none := by
        intro key hmem
        obtain ⟨hcurrent, hunder, -⟩ := mem_keysUnder_iff.mp (List.mem_of_mem_take hmem)
        exact mem_keysUnder_iff.mpr ⟨hcurrent, hunder, fun _ hnone => nomatch hnone⟩
      have hpage : (S3Transport.listKeys keyPrefix 1000 startAfter).run provider.handle bucket =
          (.ok ⟨(pageAt bucket keyPrefix startAfter).keys,
            (pageAt bucket keyPrefix startAfter).truncated⟩, bucket) := rfl
      rw [listPages, Program.run_bind_ok _ _ _ _ _ _ hpage]
      dsimp only
      split
      · exact ⟨(progress, false), rfl, fun key hkey => Or.inl hkey⟩
      · obtain ⟨⟨after, limited⟩, hended, hlast⟩ := listPage_runs provider namePrefix limit
          (fun key hmem => hscanned key (hlisted key hmem)) progress
        have hkept : ∀ key ∈ after.lastScanned,
            key ∈ progress.lastScanned ∨ key ∈ keysUnder bucket keyPrefix none :=
          fun key hkey => (hlast key hkey).imp_right (hlisted key)
        rw [Program.run_bind_ok _ _ _ _ _ _ hended]
        dsimp only
        split
        · exact ⟨(after, true), rfl, hkept⟩
        · split
          · exact ⟨(after, false), rfl, hkept⟩
          · rename_i last hfound hmore hwhole
            obtain ⟨ended, hrun, hlater⟩ := ih (some last) after true
            exact ⟨ended, hrun, fun key hkey => (hlater key hkey).elim (hkept key) Or.inr⟩

theorem list_runs (hreads : ReadsObjects adapter.layout.common)
    (hsound : adapter.layout.Sound hashed bucket) (hlegible : adapter.layout.Legible bucket)
    {request : ListRequest} {start : Option String}
    (hstart : adapter.layout.startAfter request.resource request.cursor = .ok start) :
    ∃ result, (adapter.list request).run provider.handle bucket = (.ok result, bucket) ∧
      ∀ cursor ∈ result.cursor, ∃ next,
        adapter.layout.startAfter request.resource (some cursor) = .ok next := by
  have hreference : ∀ key ∈ keysUnder bucket (adapter.layout.referencePrefix request.resource)
      none, ∃ envelope, adapter.scanned bucket key = .ok envelope ∧
        adapter.layout.Entry request.resource bucket (key, envelope) := by
    intro key hmem
    obtain ⟨hcurrent, hunder, -⟩ := mem_keysUnder_iff.mp hmem
    obtain ⟨physical, rfl⟩ := hsound.keys key ((hsound.current_isSome_iff key).mp hcurrent)
    obtain ⟨object, content, rfl⟩ := (PhysicalKey.referencePrefix_prefix_iff _ _ _).mp hunder
    obtain ⟨stored, hstored⟩ := Option.isSome_iff_exists.mp hcurrent
    obtain ⟨envelope, hrecorded, -⟩ := hsound.recorded hstored
    exact ⟨envelope, scanned_legible (hlegible.recorded hrecorded) hrecorded, object, content,
      rfl, hrecorded⟩
  obtain ⟨⟨progress, more⟩, hpages, hlast⟩ := listPages_runs provider request.namePrefix
    request.limit (fun key hmem => (hreference key hmem).imp fun _ h => h.1)
    MAX_INTERNAL_LIST_PAGES start ⟨[], none⟩ false
  rw [list, hstart]
  change ∃ result, ((adapter.listPages _ _ _ _ _ _ _) >>= _).run _ _ = _ ∧ _
  rw [Program.run_bind_ok _ _ _ _ _ _ hpages]
  dsimp only
  split
  · rename_i key hkey
    obtain ⟨envelope, -, hentry⟩ := hreference key
      ((hlast key hkey).elim (fun hnone => nomatch hnone) id)
    obtain ⟨object, content, hpath, -⟩ := id hentry
    have hkeyed : key = adapter.layout.referencePrefix request.resource ++
        referenceSuffix object content := hpath.trans (S3Layout.reference_render _ _ _ _)
    have hcursor := adapter.layout.cursorForKey_append request.resource
      (referenceSuffix object content)
    rw [← hkeyed] at hcursor
    rw [hcursor]
    refine ⟨_, rfl, fun cursor hmem => ?_⟩
    obtain rfl := Option.some.inj hmem
    exact ⟨_, cursor_resumes_after hreads hentry hcursor⟩
  · exact ⟨_, rfl, fun cursor hnone => nomatch hnone⟩

theorem listAll_runs (hreads : ReadsObjects adapter.layout.common)
    (hsound : adapter.layout.Sound hashed bucket) (hlegible : adapter.layout.Legible bucket)
    (pages : Nat) {request : ListRequest} {start : Option String}
    (hstart : adapter.layout.startAfter request.resource request.cursor = .ok start) :
    ∃ results, (adapter.listAll pages request).run provider.handle bucket =
      (.ok results, bucket) := by
  induction pages generalizing request start with
  | zero => exact ⟨[], rfl⟩
  | succ pages ih =>
      obtain ⟨result, hrun, hresumes⟩ := list_runs provider hreads hsound hlegible hstart
      rw [listAll, Program.run_bind_ok _ _ _ _ _ _ hrun]
      split
      · exact ⟨_, rfl⟩
      · rename_i cursor hcursor
        obtain ⟨next, hnext⟩ := hresumes cursor hcursor
        have hcontinued : adapter.layout.startAfter
            ({ request with cursor := some cursor } : ListRequest).resource
            ({ request with cursor := some cursor } : ListRequest).cursor = .ok next := hnext
        obtain ⟨rest, hrest⟩ := ih hcontinued
        rw [Program.run_bind_ok _ _ _ _ _ _ hrest]
        exact ⟨_, rfl⟩

theorem list_calls {request : ListRequest} {start : Option String}
    (hstart : adapter.layout.startAfter request.resource request.cursor = .ok start) :
    ∃ call next, adapter.list request = .call call next := by
  rw [list, hstart]
  exact ⟨_, _, rfl⟩

-- An answer that is limited to one of two versions says that there is more.
theorem list_continues (hreads : ReadsObjects adapter.layout.common)
    (hsound : adapter.layout.Sound hashed bucket) {request : ListRequest}
    (hlimit : request.limit = 1) (hany : request.namePrefix = "") (hfresh : request.cursor = none)
    {first second : String × StoredEnvelope}
    (hfirst : adapter.layout.Entry request.resource bucket first)
    (hsecond : adapter.layout.Entry request.resource bucket second) (hne : first.1 ≠ second.1)
    {result : ListResult}
    (hrun : (adapter.list request).run provider.handle bucket = (.ok result, bucket)) :
    result.cursor ≠ none := by
  intro hnone
  obtain ⟨seen, hamid, hseen⟩ := (list_within adapter request).amid provider.handle_observes bucket
  rw [hrun] at hamid
  have hmeanwhile : ∀ turn ∈ seen,
      Meanwhile provider adapter.layout hashed bucket bucket turn.1 := by
    intro turn hmem
    rw [hseen turn hmem]
    exact ⟨.refl hsound, .refl hsound⟩
  obtain ⟨start, found, hstart, hlists⟩ :=
    list_amid hreads hsound (by omega) hamid hmeanwhile
  rw [hfresh] at hstart
  obtain rfl : none = start := Except.ok.inj hstart
  have hcovers {entry : String × StoredEnvelope}
      (hentry : adapter.layout.Entry request.resource bucket entry) :
      entry.1 ∈ found.map Prod.fst := by
    obtain hmem | ⟨hwhole, -⟩ :=
      hlists.scan.covers entry.1 hentry.mem_entryKeys fun _ hbound => nomatch hbound
    · exact hmem
    · rw [hnone] at hwhole
      cases hwhole
  have hlength : (found.map Prod.fst).length ≤ 1 := by
    have hbounded := hlists.bounded
    rw [hlists.items, hany, hlimit, matching_any, List.length_map] at hbounded
    rwa [List.length_map]
  have hone := hcovers hfirst
  have hother := hcovers hsecond
  generalize found.map Prod.fst = keys at hlength hone hother
  cases keys with
  | nil => exact List.not_mem_nil hone
  | cons key rest =>
      obtain rfl : rest = [] := List.length_eq_zero_iff.mp (by simpa using hlength)
      exact hne ((List.mem_singleton.mp hone).trans (List.mem_singleton.mp hother).symm)

-- A client that has been told that there is more stands between two pages.
theorem listAll_pauses (hreads : ReadsObjects adapter.layout.common)
    (hsound : adapter.layout.Sound hashed bucket) (hlegible : adapter.layout.Legible bucket)
    (pages : Nat) {request : ListRequest} {start : Option String}
    (hstart : adapter.layout.startAfter request.resource request.cursor = .ok start)
    (hmore : ∀ result, (adapter.list request).run provider.handle bucket = (.ok result, bucket) →
      result.cursor ≠ none) :
    ∃ call next again rest, adapter.listAll (pages + 2) request = .call call next ∧
      (next (provider.handle call bucket).1).Advances provider.handle
        (provider.handle call bucket).2 (.call again rest) bucket ∧
      ∀ after, adapter.layout.Sound hashed after → adapter.layout.Legible after →
        ∃ results, (Program.call again rest).run provider.handle after = (.ok results, after) := by
  obtain ⟨result, hrun, hresumes⟩ := list_runs provider hreads hsound hlegible hstart
  obtain ⟨cursor, hcursor⟩ := Option.ne_none_iff_exists'.mp (hmore result hrun)
  obtain ⟨follows, hfollows⟩ := hresumes cursor hcursor
  have hcontinued : adapter.layout.startAfter
      ({ request with cursor := some cursor } : ListRequest).resource
      ({ request with cursor := some cursor } : ListRequest).cursor = .ok follows := hfollows
  obtain ⟨again, later, hagain⟩ := list_calls hcontinued
  obtain ⟨call, next, hcall⟩ := list_calls hstart
  obtain ⟨goes, hlist, hgoes⟩ : ∃ goes,
      adapter.listAll (pages + 2) request = adapter.list request >>= goes ∧
        goes result = adapter.listAll (pages + 1) { request with cursor := some cursor } >>=
          fun rest => pure (result :: rest) :=
    ⟨_, rfl, by simp only [hcursor]⟩
  have hpage : ∃ rest, goes result = .call again rest := by
    rw [hgoes, listAll, hagain]
    exact ⟨_, rfl⟩
  obtain ⟨rest, hrest⟩ := hpage
  rw [hlist]
  rw [hcall] at hrun ⊢
  refine ⟨call, _, again, rest, rfl, Program.Advances.seq hrun (hrest ▸ .here _ _), ?_⟩
  intro after hafter hread
  obtain ⟨others, hothers⟩ :=
    listAll_runs provider hreads hafter hread (pages + 1) hcontinued
  rw [← hrest, hgoes, Program.run_bind_ok _ _ _ _ _ _ hothers]
  exact ⟨_, rfl⟩

end Alone

theorem listAll_observes (pages : Nat) (request : ListRequest) :
    (adapter.listAll pages request).Within S3Call.observes := by
  induction pages generalizing request with
  | zero => trivial
  | succ pages ih =>
      apply Program.Within.bind (list_within adapter request)
      intro result
      split
      · trivial
      · exact Program.Within.bind (ih _) fun _ => trivial

end S3ObjectAdapter

-- The bucket at one point of a schedule, and at a later one.
theorem Serving.between {α : Type} {system : System S3 Failure α Bucket}
    (h : Serving provider layout hashed system) (first second : Schedule Failure) :
    Since provider layout hashed (system.runSchedule provider.handle first).state
      (system.runSchedule provider.handle (first ++ second)).state := by
  have hrules := publication_composes provider layout hashed fun _ _ => False
  obtain ⟨owned, hcoherent⟩ := h.start.runSchedule hrules first fun _ _ _ _ _ => trivial
  refine ⟨?_, (h.since _).sound⟩
  rw [System.runSchedule_append]
  exact hcoherent.runSchedule_related hrules (Publishes provider layout hashed fun _ _ => False)
    (fun _ => .same (.refl _)) (fun _ _ _ => Publishes.trans) (fun _ _ _ _ hguar => hguar.1) second
    fun _ _ _ _ _ => trivial

section Complete

variable {callers : List Caller} {bucket : Bucket} {adapter : S3ObjectAdapter}
  {request : ListRequest} {pages : Nat}

-- A client that lists a resource, among callers.
def listingSystem (bucket : Bucket) (adapter : S3ObjectAdapter) (pages : Nat)
    (request : ListRequest) (callers : List Caller) :
    System S3 Failure (List ListResult ⊕ (Outcome ⊕ S3MigrationResult)) Bucket :=
  ⟨bucket, (Sum.inl <$> adapter.listAll pages request) ::
    callers.map fun caller => Sum.inr <$> caller.program⟩

theorem listing_serving (provider : Provider) (hsound : layout.Sound hashed bucket)
    (hserves : ∀ caller ∈ callers, caller.Serves layout hashed) :
    Serving provider layout hashed (listingSystem bucket adapter pages request callers) where
  sound := hsound
  verified program hmem := by
    obtain rfl | hmem := List.mem_cons.mp hmem
    · exact Discipline.observe ((S3ObjectAdapter.listAll_observes pages request).map _)
        provider.handle_observes fun _ _ _ => trivial
    · obtain ⟨caller, hcaller, rfl⟩ := List.mem_map.mp hmem
      exact Verified.map ((hserves caller hcaller).verified ∅)

theorem S3Layout.Entry.kept {resource : ResourceRef} {entry : String × StoredEnvelope}
    (h : layout.Entry resource origin entry) (hsince : Since provider layout hashed origin final) :
    layout.Entry resource final entry := by
  obtain ⟨object, content, hkey, hrecorded⟩ := h
  exact ⟨object, content, hkey, S3Layout.recorded_congr (hsince.publishes.references _ _ _
    (S3Layout.recorded_entries hrecorded)) hrecorded⟩

theorem S3Layout.Entry.unique {resource : ResourceRef} {first second : String × StoredEnvelope}
    (hfirst : layout.Entry resource final first) (hsecond : layout.Entry resource final second)
    (hkey : first.1 = second.1) : first = second := by
  obtain ⟨object, content, hpath, hrecorded⟩ := hfirst
  obtain ⟨other, digest, hother, hfound⟩ := hsecond
  have hsame := PhysicalKey.render_injective layout.root (hpath.symm.trans (hkey.trans hother))
  cases hsame
  exact Prod.ext hkey (S3Layout.recorded_unique hrecorded hfound)

namespace Standard

-- A third version of the object that has been put twice.
def last : Deposit := deposit false .null .mutable "version-three" 3

theorem last_new : ∀ before ∈ [early, late], before.hash ≠ last.hash := by
  have hone : (hexdigest (ObjectCommon.encodeUtf8 "version-one")).text ≠
      (hexdigest (ObjectCommon.encodeUtf8 "version-three")).text := by decide
  have htwo : (hexdigest (ObjectCommon.encodeUtf8 "version-two")).text ≠
      (hexdigest (ObjectCommon.encodeUtf8 "version-three")).text := by decide
  intro before hmem
  simp only [List.mem_cons, List.not_mem_nil, or_false] at hmem
  rcases hmem with rfl | rfl
  · exact fun h => hone (congrArg HexDigest.text h)
  · exact fun h => htwo (congrArg HexDigest.text h)

theorem both_progress : Progress Standard.adapter resource "channel" (profile .mutable)
    [early, late] (early.both late Standard.provider (base true)) := by
  have hearly : Progress Standard.adapter resource "channel" (profile .mutable) [early]
      (early.stored Standard.provider (base true)) :=
    (base_unused.progress base_profile).takes (sample_admitted early (by simp))
      (fun _ hmem => absurd hmem List.not_mem_nil) early_first.finds.fits early_first.pointer
      early_first.reference
  exact hearly.takes (sample_admitted late (by simp))
    (fun before hmem => by rw [List.mem_singleton.mp hmem]; exact hash_ne.symm)
    versions.lands.finds.fits versions.lands.pointer versions.lands.reference

theorem published_third : last.published Standard.provider
    (early.both late Standard.provider (base true)) = last.envelope (some (numbered 'v' 7)) := by
  have hissued : (early.both late Standard.provider (base true)).issued = 7 := by
    rw [Deposit.both, versions.lands.finds.stored_issued Standard.provider
      versions.lands.unblocked, early_first.finds.stored_issued Standard.provider
      early_first.unblocked, base_issued]
  rw [Deposit.published, Provider.reportedVersion, versions.versioned, base_versioned, hissued]
  rfl

theorem last_fits : last.Fits :=
  fun hmultipart => absurd (of_decide_eq_true hmultipart) (by decide)

theorem last_lands : last.Lands Standard.provider Standard.hashed
    (early.both late Standard.provider (base true)) where
  free := collisionFree
  hashes := putRequest_hashes (by simp [Standard.hashed, KNOWN_DIGESTS])
  before := versions.tidy
  finds := (both_progress.finds (deposit_admitted (by decide)) last_new last_fits).1
  unblocked := (both_progress.finds (deposit_admitted (by decide)) last_new last_fits).2
  pointer := pointer_legible _
  reference := by
    rw [published_third]
    exact deposit_legible _ _ _ _ _ (by decide) (by decide)

def lastWriter : Caller := last.caller

theorem run_lastWriter : lastWriter.program.run Standard.provider.handle
    (early.both late Standard.provider (base true)) =
      (.ok (.inl (.put last.metadata)),
        last.stored Standard.provider (early.both late Standard.provider (base true))) :=
  last_lands.finds.run_caller Standard.provider last_lands.unblocked

def listRequest : ListRequest :=
  { resource := Standard.resource, namePrefix := "", limit := 1, cursor := none }

-- The first answer leaves the second version out.
theorem both_continues {result : ListResult}
    (hrun : (Standard.adapter.list listRequest).run Standard.provider.handle
      (early.both late Standard.provider (base true)) =
        (.ok result, early.both late Standard.provider (base true))) : result.cursor ≠ none := by
  have hfirst : Standard.adapter.layout.Entry listRequest.resource
      (early.both late Standard.provider (base true))
      (Standard.adapter.layout.path (.reference early.resource early.object early.hash),
        early.published Standard.provider (base true)) :=
    ⟨_, _, rfl, versions.recorded_first⟩
  have hsecond : Standard.adapter.layout.Entry listRequest.resource
      (early.both late Standard.provider (base true))
      (Standard.adapter.layout.path (.reference early.resource early.object late.hash),
        late.published Standard.provider (early.stored Standard.provider (base true))) :=
    ⟨_, _, rfl, versions.recorded_next⟩
  have hreads : ReadsObjects Standard.adapter.layout.common := reads_objects
  refine S3ObjectAdapter.list_continues Standard.provider hreads versions.tidy.sound rfl rfl rfl
    hfirst hsecond ?_ hrun
  simpa using fun h : early.hash = late.hash => hash_ne h.symm

-- Two versions of an object, listed one by one while a third is put.
def listing : System S3 Failure (List ListResult ⊕ (Outcome ⊕ S3MigrationResult)) Bucket :=
  listingSystem (early.both late Standard.provider (base true)) Standard.adapter 4 listRequest
    [lastWriter]

theorem listing_runs : ∃ opening middle closing results,
    (∀ turn ∈ opening, turn = (0, none)) ∧ (∀ turn ∈ middle, turn = (1, none)) ∧
    (∀ turn ∈ closing, turn = (0, none)) ∧
    (listing.runSchedule Standard.provider.handle
      ((0, none) :: (opening ++ middle ++ (0, none) :: closing))).clients =
        [.done (.ok (.inl results)), .done (.ok (.inr (.inl (.put last.metadata))))] := by
  have hreads : ReadsObjects Standard.adapter.layout.common := reads_objects
  obtain ⟨call, next, again, rest, hlist, hadvances, hresults⟩ :=
    S3ObjectAdapter.listAll_pauses Standard.provider hreads versions.tidy.sound
      versions.tidy.legible 2 (show Standard.adapter.layout.startAfter listRequest.resource
        listRequest.cursor = .ok none from rfl) fun _ => both_continues
  obtain ⟨results, hrun⟩ := hresults _ last_lands.tidy.sound last_lands.tidy.legible
  have hput : (Sum.inr <$> lastWriter.program : S3M (List ListResult ⊕ _)).run
      Standard.provider.handle (early.both late Standard.provider (base true)) =
        (.ok (.inr (.inl (.put last.metadata))),
          last.stored Standard.provider (early.both late Standard.provider (base true))) := by
    rw [Program.run_map, run_lastWriter]
    simp only [Except.map]
  have hrest : ((Sum.inl <$> Program.call again rest :
      S3M (List ListResult ⊕ (Outcome ⊕ S3MigrationResult))).run Standard.provider.handle
        (last.stored Standard.provider (early.both late Standard.provider (base true)))).1 =
          .ok (.inl results) := by
    rw [Program.run_map, hrun]
    simp only [Except.map]
  obtain ⟨opening, middle, closing, hopens, hmiddle, hcloses, hclients⟩ :=
    System.pauses Sum.inl (Sum.inr <$> lastWriter.program) hadvances
  rw [hput] at hclients
  dsimp only at hclients
  rw [hrest, ← hlist] at hclients
  exact ⟨opening, middle, closing, results, hopens, hmiddle, hcloses, hclients⟩

end Standard

-- A listing, whatever is put meanwhile and whatever strikes: each version once, in order,
-- nothing that is not stored, and all that was stored when it began. Some number of pages
-- exhausts it.
theorem listing_complete (hreads : ReadsObjects layout.common)
    (hsound : layout.Sound hashed bucket)
    (hserves : ∀ caller ∈ callers, caller.Serves layout hashed) (hkeyed : adapter.layout = layout)
    (hfresh : request.cursor = none) (hlimit : 0 < request.limit) (schedule : Schedule Failure)
    (results : List ListResult)
    (hdone : ((listingSystem bucket adapter pages request callers).runSchedule provider.handle
      schedule).clients[0]? = some (.done (.ok (.inl results)))) :
    ∃ found, adapter.Enumerates
        ((listingSystem bucket adapter pages request callers).runSchedule provider.handle
          schedule).state request pages results found ∧
      (found.map Prod.fst).Pairwise (· < ·) ∧
      (S3ObjectAdapter.exhausted results = true → ∀ entry, layout.Entry request.resource
        ((listingSystem bucket adapter pages request callers).runSchedule provider.handle
          (schedule.takeWhile fun turn => turn.1 ≠ 0)).state entry → entry ∈ found) := by
  subst hkeyed
  have hserving : Serving provider adapter.layout hashed
      (listingSystem bucket adapter pages request callers) :=
    listing_serving provider hsound hserves
  have horigin := (hserving.since (schedule.takeWhile fun turn => turn.1 ≠ 0)).sound
  have hstart : (listingSystem bucket adapter pages request callers).clients[0]? =
      some (Sum.inl <$> adapter.listAll pages request) := rfl
  obtain ⟨seen, rest, hrest, hamid, hbegins⟩ := System.client_amid provider.handle schedule hstart
  obtain rfl : Program.done (.ok (.inl results)) = rest := Option.some.inj (hdone.symm.trans hrest)
  obtain ⟨made, hmade, hamid⟩ := Program.amid_map hamid
  obtain rfl := Sum.inl.inj hmade
  have hseen : ∀ turn ∈ seen, Meanwhile provider adapter.layout hashed
      ((listingSystem bucket adapter pages request callers).runSchedule provider.handle
        (schedule.takeWhile fun turn => turn.1 ≠ 0)).state
      ((listingSystem bucket adapter pages request callers).runSchedule provider.handle
        schedule).state turn.1 := by
    intro turn hmem
    have hturn := hbegins.subset hmem
    exact ⟨hserving.first_turn 0 schedule turn hturn, ((hserving.turns 0 schedule).1 turn hturn).2⟩
  have hfirst : adapter.layout.startAfter request.resource request.cursor = .ok none := by
    rw [hfresh]
    rfl
  obtain ⟨found, hscan, henumerates⟩ :=
    S3ObjectAdapter.listAll_amid hreads horigin hlimit hfirst hamid hseen
  refine ⟨found, henumerates, hscan.ascending, ?_⟩
  intro hexhausted entry hentry
  obtain hmem | ⟨hwhole, -⟩ :=
    hscan.covers entry.1 hentry.mem_entryKeys fun _ hnone => nomatch hnone
  · obtain ⟨other, hother, hkey⟩ := List.mem_map.mp hmem
    have hlast := hserving.between (schedule.takeWhile fun turn => turn.1 ≠ 0)
      (schedule.dropWhile fun turn => turn.1 ≠ 0)
    rw [List.takeWhile_append_dropWhile] at hlast
    rwa [← (henumerates.entries other hother).unique (hentry.kept hlast) hkey]
  · rw [hexhausted] at hwhole
    cases hwhole

theorem listing_across_put : ∃ opening middle closing results found,
    (∀ turn ∈ opening, turn = (0, none)) ∧ (∀ turn ∈ middle, turn = (1, none)) ∧
    (∀ turn ∈ closing, turn = (0, none)) ∧
    (Standard.listing.runSchedule Standard.provider.handle
      ((0, none) :: (opening ++ middle ++ (0, none) :: closing))).clients =
        [.done (.ok (.inl results)), .done (.ok (.inr (.inl (.put Standard.last.metadata))))] ∧
    Standard.adapter.Enumerates (Standard.listing.runSchedule Standard.provider.handle
      ((0, none) :: (opening ++ middle ++ (0, none) :: closing))).state Standard.listRequest 4
        results found ∧
    (found.map Prod.fst).Pairwise (· < ·) ∧
    (S3ObjectAdapter.exhausted results = true → ∀ entry, Standard.adapter.layout.Entry
      Standard.listRequest.resource Standard.listing.state entry → entry ∈ found) := by
  obtain ⟨opening, middle, closing, results, hopens, hmiddle, hcloses, hclients⟩ :=
    Standard.listing_runs
  have hdone : (Standard.listing.runSchedule Standard.provider.handle
      ((0, none) :: (opening ++ middle ++ (0, none) :: closing))).clients[0]? =
        some (.done (.ok (.inl results))) := by
    rw [hclients]
    rfl
  have hserves : ∀ caller ∈ [Standard.lastWriter],
      caller.Serves Standard.adapter.layout Standard.hashed := by
    intro caller hcaller
    obtain rfl := List.mem_singleton.mp hcaller
    exact ⟨rfl, Standard.last_lands.hashes⟩
  have hreads : ReadsObjects Standard.adapter.layout.common := Standard.reads_objects
  have hsound : Standard.adapter.layout.Sound Standard.hashed
      (Standard.early.both Standard.late Standard.provider (Standard.base true)) :=
    Standard.versions.tidy.sound
  obtain ⟨found, henumerates, hascending, hwhole⟩ :=
    listing_complete hreads hsound hserves rfl rfl (by decide) _ results hdone
  rw [List.takeWhile_cons_of_neg (by simp)] at hwhole
  exact ⟨opening, middle, closing, results, found, hopens, hmiddle, hcloses, hclients,
    henumerates, hascending, hwhole⟩

end Complete

end MeridianS3
