import MeridianS3.Records.Reading

namespace MeridianS3

open Effect ObjectStore Json

namespace S3ObjectAdapter

variable {adapter : S3ObjectAdapter} {hashed : Set Bytes} {bucket : Bucket}
variable {resource : ResourceRef} {objectId : String} {excluded : Option String}

-- The envelope that a scan reads under a key.
def scanned (adapter : S3ObjectAdapter) (bucket : Bucket) (key : String) :
    Except Failure StoredEnvelope :=
  (adapter.transport.document bucket key).bind (StoredEnvelope.fromMapping adapter.common)

theorem newestInPage_cons (key : String) (rest : List String) (selected : Option StoredEnvelope) :
    adapter.newestInPage bucket excluded (key :: rest) selected =
      (adapter.scanned bucket key).bind fun envelope =>
        if some envelope.metadata.digest = excluded then
          adapter.newestInPage bucket excluded rest selected
        else if selected.all fun held => adapter.common.newer envelope.metadata held.metadata then
          adapter.newestInPage bucket excluded rest (some envelope)
        else adapter.newestInPage bucket excluded rest selected := rfl

theorem newestInPage_congr {first second : Bucket} {keys : List String}
    (h : ∀ key ∈ keys, second.current key = first.current key) (selected : Option StoredEnvelope) :
    adapter.newestInPage second excluded keys selected =
      adapter.newestInPage first excluded keys selected := by
  induction keys generalizing selected with
  | nil => rfl
  | cons key rest ih =>
      have hscanned : adapter.scanned second key = adapter.scanned first key := by
        simp only [scanned, S3Transport.document, h key List.mem_cons_self]
      simp only [newestInPage_cons, hscanned]
      simp only [ih fun other hmem => h other (List.mem_cons_of_mem _ hmem)]

theorem newestInPage_some {keys : List String} {selected : Option StoredEnvelope}
    {newest : StoredEnvelope}
    (h : adapter.newestInPage bucket excluded keys selected = .ok (some newest)) :
    selected = some newest ∨ ∃ key ∈ keys, adapter.scanned bucket key = .ok newest ∧
      some newest.metadata.digest ≠ excluded := by
  induction keys generalizing selected with
  | nil => exact Or.inl (Except.ok.inj h)
  | cons key rest ih =>
      have hrest (next : Option StoredEnvelope)
          (hnext : adapter.newestInPage bucket excluded rest next = .ok (some newest)) :
          next = some newest ∨ ∃ other ∈ key :: rest, adapter.scanned bucket other = .ok newest ∧
            some newest.metadata.digest ≠ excluded :=
        (ih hnext).imp id fun ⟨other, hmem, hother⟩ =>
          ⟨other, List.mem_cons_of_mem _ hmem, hother⟩
      rw [newestInPage_cons] at h
      cases hscanned : adapter.scanned bucket key with
      | error failure =>
          rw [hscanned] at h
          cases h
      | ok envelope =>
          rw [hscanned] at h
          simp only [Except.bind] at h
          split at h
          · exact hrest selected h
          · rename_i hdigest
            split at h
            · rcases hrest (some envelope) h with hsame | hfound
              · rw [Option.some.injEq] at hsame
                subst hsame
                exact Or.inr ⟨key, List.mem_cons_self, hscanned, hdigest⟩
              · exact Or.inr hfound
            · exact hrest selected h

-- A page that leaves nothing selected holds excluded versions only.
theorem newestInPage_none {keys : List String} {selected : Option StoredEnvelope}
    (h : adapter.newestInPage bucket excluded keys selected = .ok none) :
    selected = none ∧ ∀ key ∈ keys, ∃ envelope, adapter.scanned bucket key = .ok envelope ∧
      some envelope.metadata.digest = excluded := by
  induction keys generalizing selected with
  | nil => exact ⟨Except.ok.inj h, fun _ hmem => absurd hmem List.not_mem_nil⟩
  | cons key rest ih =>
      rw [newestInPage_cons] at h
      cases hscanned : adapter.scanned bucket key with
      | error failure =>
          rw [hscanned] at h
          cases h
      | ok envelope =>
          rw [hscanned] at h
          simp only [Except.bind] at h
          split at h
          · rename_i hdigest
            obtain ⟨hselected, hrest⟩ := ih h
            refine ⟨hselected, fun other hmem => ?_⟩
            rcases List.mem_cons.mp hmem with rfl | hmem
            · exact ⟨envelope, hscanned, hdigest⟩
            · exact hrest other hmem
          · split at h
            · exact absurd (ih h).1 (by simp)
            · rename_i hselected
              obtain ⟨rfl, -⟩ := ih h
              simp at hselected

-- By what the versions of an object are compared.
def rank (adapter : S3ObjectAdapter) (envelope : StoredEnvelope) : String :=
  adapter.common.timestampStr envelope.metadata.createdAt

-- What a page leaves selected is not older than what it started from, nor than any other
-- version that it goes through.
theorem newestInPage_maximal {keys : List String} {selected : Option StoredEnvelope}
    {newest : StoredEnvelope}
    (h : adapter.newestInPage bucket excluded keys selected = .ok (some newest)) :
    (∀ held ∈ selected, adapter.rank held ≤ adapter.rank newest) ∧
      ∀ key ∈ keys, ∀ envelope, adapter.scanned bucket key = .ok envelope →
        some envelope.metadata.digest ≠ excluded → adapter.rank envelope ≤ adapter.rank newest := by
  induction keys generalizing selected with
  | nil =>
      obtain rfl : selected = some newest := Except.ok.inj h
      refine ⟨fun held hheld => ?_, fun _ hmem => absurd hmem List.not_mem_nil⟩
      rw [Option.some.inj hheld]
  | cons key rest ih =>
      rw [newestInPage_cons] at h
      obtain ⟨found, hscanned, h⟩ := bind_ok h
      have hrest {next : Option StoredEnvelope}
          (hnext : adapter.newestInPage bucket excluded rest next = .ok (some newest))
          (hkey : some found.metadata.digest ≠ excluded → adapter.rank found ≤ adapter.rank newest) :
          ∀ other ∈ key :: rest, ∀ envelope, adapter.scanned bucket other = .ok envelope →
            some envelope.metadata.digest ≠ excluded →
            adapter.rank envelope ≤ adapter.rank newest := by
        intro other hmem envelope hother hdigest
        rcases List.mem_cons.mp hmem with rfl | hmem
        · rw [hscanned, Except.ok.injEq] at hother
          subst hother
          exact hkey hdigest
        · exact (ih hnext).2 other hmem envelope hother hdigest
      by_cases hexcluded : some found.metadata.digest = excluded
      · rw [if_pos hexcluded] at h
        exact ⟨(ih h).1, hrest h fun hdigest => absurd hexcluded hdigest⟩
      · rw [if_neg hexcluded] at h
        by_cases hnewer : (selected.all fun held =>
          adapter.common.newer found.metadata held.metadata) = true
        · rw [if_pos hnewer] at h
          have hfound := (ih h).1 found rfl
          refine ⟨fun held hheld => ?_, hrest h fun _ => hfound⟩
          obtain rfl : selected = some held := hheld
          have hlater : adapter.rank held < adapter.rank found := of_decide_eq_true hnewer
          exact (le_of_lt hlater).trans hfound
        · rw [if_neg hnewer] at h
          refine ⟨(ih h).1, hrest h fun _ => ?_⟩
          cases selected with
          | none => exact absurd rfl hnewer
          | some held =>
              have hheld : ¬adapter.rank held < adapter.rank found := fun hlater =>
                hnewer (decide_eq_true hlater)
              exact (not_lt.mp hheld).trans ((ih h).1 held rfl)

-- A scan comes to an end if it can read every document of its page.
theorem newestInPage_ok_iff {keys : List String} {selected : Option StoredEnvelope} :
    (∃ newest, adapter.newestInPage bucket excluded keys selected = .ok newest) ↔
      ∀ key ∈ keys, ∃ envelope, adapter.scanned bucket key = .ok envelope := by
  induction keys generalizing selected with
  | nil => simp [newestInPage]
  | cons key rest ih =>
      rw [newestInPage_cons, List.forall_mem_cons]
      cases hscanned : adapter.scanned bucket key with
      | error failure => simp [Except.bind]
      | ok envelope =>
          simp only [Except.bind, Except.ok.injEq, exists_eq', true_and]
          split
          · exact ih
          · split
            · exact ih
            · exact ih

theorem newestInPage_append (keys more : List String) (selected : Option StoredEnvelope) :
    adapter.newestInPage bucket excluded (keys ++ more) selected =
      (adapter.newestInPage bucket excluded keys selected).bind
        (adapter.newestInPage bucket excluded more) := by
  induction keys generalizing selected with
  | nil => rfl
  | cons key rest ih =>
      rw [List.cons_append, newestInPage_cons, newestInPage_cons]
      cases adapter.scanned bucket key with
      | error failure => rfl
      | ok envelope =>
          simp only [Except.bind]
          split
          · exact ih selected
          · split
            · exact ih (some envelope)
            · exact ih selected

-- The keys that a listing of a prefix goes through.
def keysUnder (bucket : Bucket) (keyPrefix : String) (startAfter : Option String) : List String :=
  bucket.listed (fun key => keyPrefix.toList.isPrefixOf key.toList) startAfter

-- The pages of a scan are the first keys of the listing, in their order.
theorem newestInPages_eq {keyPrefix : String} (pages : Nat) (startAfter : Option String)
    (selected : Option StoredEnvelope) :
    adapter.newestInPages bucket keyPrefix excluded pages startAfter selected =
      adapter.newestInPage bucket excluded
        ((keysUnder bucket keyPrefix startAfter).take (1000 * pages)) selected := by
  induction pages generalizing startAfter selected with
  | zero => rfl
  | succ pages ih =>
      have hkeys : (pageAt bucket keyPrefix startAfter).keys =
          (keysUnder bucket keyPrefix startAfter).take 1000 := rfl
      have htruncated : (pageAt bucket keyPrefix startAfter).truncated =
          decide (1000 < (keysUnder bucket keyPrefix startAfter).length) := rfl
      have htake : (keysUnder bucket keyPrefix startAfter).take (1000 * (pages + 1)) =
          (keysUnder bucket keyPrefix startAfter).take 1000 ++
            ((keysUnder bucket keyPrefix startAfter).drop 1000).take (1000 * pages) := by
        rw [Nat.mul_succ, Nat.add_comm, List.take_add]
      rw [newestInPages, htake, newestInPage_append, ← hkeys]
      congr 1
      funext next
      by_cases hmore : 1000 < (keysUnder bucket keyPrefix startAfter).length
      · rw [htruncated, decide_eq_true hmore]
        cases hlast : (pageAt bucket keyPrefix startAfter).keys.getLast? with
        | none =>
            rw [List.getLast?_eq_none_iff, hkeys, List.take_eq_nil_iff] at hlast
            rcases hlast with hzero | hnil
            · cases hzero
            · simp [hnil] at hmore
        | some last =>
            have hdrop : keysUnder bucket keyPrefix (some last) =
                (keysUnder bucket keyPrefix startAfter).drop 1000 := bucket.listed_after hlast
            rw [← hdrop]
            exact ih (some last) next
      · rw [htruncated, decide_eq_false hmore, List.drop_of_length_le (Nat.not_lt.mp hmore),
          List.take_nil]
        rfl

theorem newestInPages_ok_iff {keyPrefix : String} {pages : Nat} {startAfter : Option String}
    {selected : Option StoredEnvelope} :
    (∃ newest, adapter.newestInPages bucket keyPrefix excluded pages startAfter selected =
      .ok newest) ↔
      ∀ key ∈ (keysUnder bucket keyPrefix startAfter).take (1000 * pages),
        ∃ envelope, adapter.scanned bucket key = .ok envelope := by
  rw [newestInPages_eq]
  exact newestInPage_ok_iff

-- What the scan of an object's versions reads are the first keys under their prefix.
theorem newestIn_eq : adapter.newestIn bucket resource objectId excluded =
    adapter.newestInPage bucket excluded ((keysUnder bucket
      (adapter.layout.versionPrefix resource objectId) none).take
        (1000 * MAX_INTERNAL_LIST_PAGES)) none :=
  newestInPages_eq ..

theorem keysUnder_congr {first second : Bucket} {keyPrefix : String}
    (hkeys : second.keys = first.keys)
    (hcurrent : ∀ key : String, keyPrefix.toList <+: key.toList →
      second.current key = first.current key) (start : Option String) :
    keysUnder second keyPrefix start = keysUnder first keyPrefix start :=
  Store.listed_congr hkeys
    (fun key hselects => hcurrent key (List.isPrefixOf_iff_prefix.mp hselects)) start

theorem mem_keysUnder_iff {keyPrefix key : String} {start : Option String} :
    key ∈ keysUnder bucket keyPrefix start ↔ (bucket.current key).isSome = true ∧
      keyPrefix.toList <+: key.toList ∧ ∀ after ∈ start, after < key := by
  rw [keysUnder, Store.mem_listed, List.isPrefixOf_iff_prefix]

theorem keysUnder_nodup (keyPrefix : String) (start : Option String) :
    (keysUnder bucket keyPrefix start).Nodup :=
  (bucket.keys_sorted.imp fun hlt => ne_of_lt hlt).filter _

-- The scan sees no more of a bucket than the keys of the versions that it lists.
theorem newestIn_congr {first second : Bucket} (hkeys : second.keys = first.keys)
    (hcurrent : ∀ key : String, (adapter.layout.versionPrefix resource objectId).toList <+: key.toList →
      second.current key = first.current key) :
    adapter.newestIn second resource objectId excluded =
      adapter.newestIn first resource objectId excluded := by
  rw [newestIn_eq, newestIn_eq, keysUnder_congr hkeys hcurrent]
  apply newestInPage_congr
  intro key hmem
  exact hcurrent key (mem_keysUnder_iff.mp (List.mem_of_mem_take hmem)).2.1

-- Every key of an object's versions is one of its stored references.
theorem mem_keysUnder (hsound : adapter.layout.Sound hashed bucket) {start : Option String}
    {key : String}
    (hmem : key ∈ keysUnder bucket (adapter.layout.versionPrefix resource objectId) start) :
    ∃ content envelope, key = adapter.layout.path (.reference
        (adapter.layout.resourceToken resource) (adapter.layout.objectToken objectId) content) ∧
      adapter.layout.Recorded bucket (adapter.layout.resourceToken resource)
        (adapter.layout.objectToken objectId) content envelope := by
  obtain ⟨hcurrent, hunder, -⟩ := mem_keysUnder_iff.mp hmem
  obtain ⟨physical, rfl⟩ := hsound.keys key ((hsound.current_isSome_iff key).mp hcurrent)
  obtain ⟨content, rfl⟩ := (PhysicalKey.versionPrefix_prefix_iff _ _ _ _).mp hunder
  obtain ⟨stored, hstored⟩ := Option.isSome_iff_exists.mp hcurrent
  obtain ⟨envelope, hrecorded, -⟩ := hsound.recorded hstored
  exact ⟨content, envelope, rfl, hrecorded⟩

theorem reference_mem_keysUnder {content : HexDigest} {envelope : StoredEnvelope}
    (hrecorded : adapter.layout.Recorded bucket (adapter.layout.resourceToken resource)
      (adapter.layout.objectToken objectId) content envelope) :
    adapter.layout.path (.reference (adapter.layout.resourceToken resource)
      (adapter.layout.objectToken objectId) content) ∈
        keysUnder bucket (adapter.layout.versionPrefix resource objectId) none := by
  obtain ⟨-, stored, hcurrent, -⟩ := hrecorded
  rw [mem_keysUnder_iff, hcurrent]
  exact ⟨rfl, (PhysicalKey.versionPrefix_prefix_iff _ _ _ _).mpr ⟨content, rfl⟩,
    fun _ hmem => nomatch hmem⟩

-- A scan of a recorded version reads what is recorded.
theorem scanned_recorded {content : HexDigest} {envelope found : StoredEnvelope}
    (hrecorded : adapter.layout.Recorded bucket (adapter.layout.resourceToken resource)
      (adapter.layout.objectToken objectId) content envelope)
    (h : adapter.scanned bucket (adapter.layout.path (.reference
      (adapter.layout.resourceToken resource) (adapter.layout.objectToken objectId) content)) =
        .ok found) : found = envelope := by
  obtain ⟨hcanonical, stored, hcurrent, hbody⟩ := hrecorded
  obtain ⟨value, hvalue, hparsed⟩ := bind_ok h
  obtain rfl := S3Transport.document_ok hcurrent hbody hcanonical hvalue
  have hread := StoredEnvelope.fromMapping_toDict adapter.common envelope
  exact Except.ok.inj (hparsed.symm.trans hread)

-- What a scan of an object's versions reads is a stored reference of the object.
theorem scanned_version (hsound : adapter.layout.Sound hashed bucket) {start : Option String}
    {key : String} {found : StoredEnvelope}
    (hmem : key ∈ keysUnder bucket (adapter.layout.versionPrefix resource objectId) start)
    (h : adapter.scanned bucket key = .ok found) :
    ∃ content, key = adapter.layout.path (.reference (adapter.layout.resourceToken resource)
        (adapter.layout.objectToken objectId) content) ∧
      adapter.layout.Recorded bucket (adapter.layout.resourceToken resource)
        (adapter.layout.objectToken objectId) content found ∧
      found.metadata.digest = content.digest := by
  obtain ⟨content, envelope, rfl, hrecorded⟩ := mem_keysUnder hsound hmem
  obtain rfl := scanned_recorded hrecorded h
  exact ⟨content, rfl, hrecorded, (hsound.envelopeOf hrecorded).digest⟩

theorem newestIn_some (hsound : adapter.layout.Sound hashed bucket) {newest : StoredEnvelope}
    (h : adapter.newestIn bucket resource objectId excluded = .ok (some newest)) :
    ∃ content, adapter.layout.Recorded bucket (adapter.layout.resourceToken resource)
        (adapter.layout.objectToken objectId) content newest ∧
      newest.metadata.digest = content.digest ∧ some content.digest ≠ excluded := by
  rw [newestIn_eq] at h
  rcases newestInPage_some h with hnone | ⟨key, hmem, hscanned, hdigest⟩
  · cases hnone
  · obtain ⟨content, -, hrecorded, hcontent⟩ :=
      scanned_version hsound (List.mem_of_mem_take hmem) hscanned
    exact ⟨content, hrecorded, hcontent, hcontent ▸ hdigest⟩

-- A scan that finds no version but the excluded one has seen them all: two keys of the
-- first page cannot both be the excluded version's.
theorem newestIn_none (hsound : adapter.layout.Sound hashed bucket)
    (h : adapter.newestIn bucket resource objectId excluded = .ok none) (content : HexDigest)
    (hstored : bucket.entries (adapter.layout.path (.reference
      (adapter.layout.resourceToken resource) (adapter.layout.objectToken objectId) content)) ≠ []) :
    some content.digest = excluded := by
  rw [newestIn_eq] at h
  obtain ⟨-, hscanned⟩ := newestInPage_none h
  obtain ⟨stored, hcurrent⟩ := Option.isSome_iff_exists.mp
    ((hsound.current_isSome_iff _).mpr hstored)
  obtain ⟨envelope, hrecorded, -⟩ := hsound.recorded hcurrent
  have hlisted := reference_mem_keysUnder hrecorded
  have hnodup : (keysUnder bucket (adapter.layout.versionPrefix resource objectId) none).Nodup :=
    keysUnder_nodup _ _
  have hexcluded (key : String) (hmem : key ∈ (keysUnder bucket
      (adapter.layout.versionPrefix resource objectId) none).take
        (1000 * MAX_INTERNAL_LIST_PAGES)) :
      ∃ found : HexDigest, key = adapter.layout.path (.reference
        (adapter.layout.resourceToken resource) (adapter.layout.objectToken objectId) found) ∧
      some found.digest = excluded := by
    obtain ⟨other, hother, hdigest⟩ := hscanned key hmem
    obtain ⟨found, hkey, -, hcontent⟩ := scanned_version hsound (List.mem_of_mem_take hmem) hother
    exact ⟨found, hkey, hcontent ▸ hdigest⟩
  have hsame (first : String) (hfirst : first ∈ (keysUnder bucket
      (adapter.layout.versionPrefix resource objectId) none).take
        (1000 * MAX_INTERNAL_LIST_PAGES))
      (second : String) (hsecond : second ∈ (keysUnder bucket
        (adapter.layout.versionPrefix resource objectId) none).take
          (1000 * MAX_INTERNAL_LIST_PAGES)) : first = second := by
    obtain ⟨one, rfl, hone⟩ := hexcluded first hfirst
    obtain ⟨other, rfl, hother⟩ := hexcluded second hsecond
    rw [← hother, Option.some.injEq, HexDigest.digest_inj] at hone
    rw [hone]
  have hshort : (keysUnder bucket (adapter.layout.versionPrefix resource objectId) none).length ≤
      1000 * MAX_INTERNAL_LIST_PAGES := by
    by_contra hlong
    match hkeys : keysUnder bucket (adapter.layout.versionPrefix resource objectId) none with
    | [] | [_] => simp [hkeys, MAX_INTERNAL_LIST_PAGES] at hlong
    | first :: second :: rest =>
        rw [hkeys] at hsame hnodup
        have he := hsame first (by simp [MAX_INTERNAL_LIST_PAGES]) second
          (by simp [MAX_INTERNAL_LIST_PAGES])
        simp [he] at hnodup
  rw [List.take_of_length_le hshort] at hexcluded
  obtain ⟨found, hkey, hdigest⟩ := hexcluded _ hlisted
  simp only [S3Layout.path, PhysicalKey.render_inj, PhysicalKey.reference.injEq, true_and] at hkey
  rwa [hkey]

end S3ObjectAdapter

end MeridianS3
