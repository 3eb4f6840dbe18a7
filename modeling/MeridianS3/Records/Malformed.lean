import MeridianS3.Adapter.Execute
import MeridianS3.Effect.Blame
import MeridianS3.Records.Reading
import MeridianS3.Transport.Commits

namespace MeridianS3

open Effect ObjectStore Json

-- An exception that is not one of Meridian's.
def Failure.foreign (failure : Failure) : Prop := ∀ error, failure.cause ≠ .meridian error

theorem Failure.meridian_domestic (kind : ErrorKind) (message : Option String) :
    ¬(Failure.meridian kind message).foreign := fun h => h _ rfl

theorem Failure.normalized_domestic (failure : Failure) (operation : String) (sensitive : Bool) :
    ¬(raiseNormalizedS3Error failure operation sensitive).foreign := fun h => h _ rfl

theorem Failure.valueError_foreign (message : String) :
    (⟨.valueError message, none⟩ : Failure).foreign := by
  rintro error ⟨⟩

theorem Failure.recursionError_foreign (message : String) :
    (⟨.recursionError message, none⟩ : Failure).foreign := by
  rintro error ⟨⟩

theorem Failure.foreign_is {failure : Failure} (h : failure.foreign) (kind : ErrorKind) :
    failure.is kind = false := by
  rcases failure with ⟨cause, flag⟩
  cases cause with
  | meridian error => exact absurd rfl (h error)
  | sdk error | valueError message | typeError message | recursionError message => rfl

-- What the parsers of the Meridian packages raise are Meridian's errors, and the digests
-- that they let pass have their form.
structure ObjectCommon.Checked (common : ObjectCommon) : Prop where
  metadata : ∀ value, ¬Foreign Failure.foreign (common.parseObjectMetadata value)
  reference : ∀ raw, ¬Foreign Failure.foreign (common.parseLogicalReference raw)
  signed : ∀ raw signer operation audience,
    ¬Foreign Failure.foreign (common.verifySigned raw signer operation audience)
  range : ∀ raw total, ¬Foreign Failure.foreign (common.resolveRange raw total)
  plainDigest : ∀ raw reference, common.parseLogicalReference raw = .ok (.plain reference) →
    ∀ digest ∈ reference.digest, ∃ hash : HexDigest, digest = hash.digest
  signedDigest : ∀ raw signer operation audience reference,
    common.verifySigned raw signer operation audience = .ok reference →
    ∀ digest ∈ reference.digest, ∃ hash : HexDigest, digest = hash.digest

namespace ListCursor

-- A cursor whose document nests too deep for json.loads. Of its errors decode catches the
-- ValueErrors only.
def Nested (common : ObjectCommon) (cursor : String) : Prop :=
  cursor ≠ "" ∧ cursor.length ≤ 2048 ∧ ∃ raw message, document? cursor = some raw ∧
    common.jsonLoads raw = .error (.recursionError message)

theorem invalid_domestic {α : Type} :
    ¬Foreign Failure.foreign (.error invalid : Except Failure α) :=
  mt foreign_error.mp (Failure.meridian_domestic _ _)

theorem ofParsed_domestic (parsed : Value) : ¬Foreign Failure.foreign (ofParsed parsed) := by
  unfold ofParsed
  split
  · exact invalid_domestic
  · split
    · split
      · exact invalid_domestic
      · exact not_foreign_ok
    · exact invalid_domestic

theorem decode_foreign {common : ObjectCommon} {cursor : String} :
    Foreign Failure.foreign (decode common cursor) ↔ Nested common cursor := by
  unfold decode
  split
  · rename_i hbound
    apply iff_of_false invalid_domestic
    rintro ⟨hsome, hlength, -⟩
    rcases hbound with hempty | hlong
    · exact hsome hempty
    · omega
  · rename_i hbound
    rw [not_or] at hbound
    unfold Nested
    rw [and_iff_right hbound.1, and_iff_right (Nat.le_of_not_lt hbound.2)]
    cases document? cursor with
    | none =>
      apply iff_of_false invalid_domestic
      rintro ⟨raw, message, hraw, -⟩
      cases hraw
    | some raw =>
      simp only [Option.some.injEq, exists_and_left, exists_eq_left']
      cases common.jsonLoads raw with
      | ok parsed =>
        apply iff_of_false (ofParsed_domestic parsed)
        rintro ⟨message, hloads⟩
        cases hloads
      | error raised =>
        cases raised with
        | decodeError | valueError _ =>
          apply iff_of_false invalid_domestic
          rintro ⟨message, hloads⟩
          cases hloads
        | recursionError message =>
          exact iff_of_true (foreign_error.mpr (Failure.recursionError_foreign message))
            ⟨message, rfl⟩

end ListCursor

namespace S3ObjectAdapter

variable (adapter : S3ObjectAdapter)

-- A call that reads a document from a key, and the JSON object that it gets.
def Reads (event : Event S3 Failure) (key : String) (value : Value) : Prop :=
  ∃ reply, event = ⟨.getObject key none none, reply⟩ ∧ adapter.transport.decodeReply reply = .ok value

-- What a pointer is read as.
def pointed (latest : Value) : Except Failure HexDigest := do
  let digest ← pointerDigest latest
  digestHex digest

def ReferenceKey (key : String) : Prop :=
  ∃ resource, (adapter.layout.referencePrefix resource).toList <+: key.toList

def DocumentKey (key : String) : Prop :=
  adapter.ReferenceKey key ∨ ∃ resource objectId, key = adapter.layout.latestKey resource objectId

-- A call that reads bytes of which json.loads raises what read_json does not catch.
def Unloadable (event : Event S3 Failure) (key : String) : Prop :=
  ∃ body error, event = ⟨.getObject key none none, .ok body⟩ ∧
    body.flatten.length ≤ MAX_INTERNAL_JSON_BYTES ∧
    adapter.common.jsonLoads body.flatten = .error error ∧ error ≠ .decodeError

-- A document that is not caught as corrupt, although it cannot be read: one that json.loads
-- gives up on, a pointer whose digest has not its form, or an envelope whose retention record
-- has not its fields.
inductive Malformed (event : Event S3 Failure) : Prop where
  | text (key : String) (hkey : adapter.DocumentKey key)
      (hunloadable : adapter.Unloadable event key)
  | pointer (resource : ResourceRef) (objectId : String) (value : Value)
      (hreads : adapter.Reads event (adapter.layout.latestKey resource objectId) value)
      (hforeign : Foreign Failure.foreign (pointed value))
  | envelope (key : String) (value : Value) (hkey : adapter.ReferenceKey key)
      (hreads : adapter.Reads event key value)
      (hforeign : Foreign Failure.foreign (StoredEnvelope.fromMapping adapter.common value))

-- The events of a run on a provider: what a listing returns is under its prefix.
def Listed (event : Event S3 Failure) : Prop :=
  ∀ keyPrefix maxKeys startAfter page,
    event = ⟨.listObjectsV2 keyPrefix maxKeys startAfter, .ok page⟩ →
    ∀ key ∈ page.contents, keyPrefix.toList <+: key.toList

def Blames {α : Type} (program : S3M α) : Prop :=
  program.Blames Failure.foreign adapter.Malformed Listed

variable {adapter} {α β : Type}

theorem reads_iff {key other : String} {reply : Except Failure (List Bytes)} {value : Value} :
    adapter.Reads ⟨.getObject key none none, reply⟩ other value ↔
      other = key ∧ adapter.transport.decodeReply reply = .ok value := by
  constructor
  · rintro ⟨found, hevent, hvalue⟩
    cases hevent
    exact ⟨rfl, hvalue⟩
  · rintro ⟨rfl, hvalue⟩
    exact ⟨reply, rfl, hvalue⟩

theorem latestKey_apart (resource : ResourceRef) (objectId : String) :
    ¬adapter.ReferenceKey (adapter.layout.latestKey resource objectId) := by
  rintro ⟨other, hunder⟩
  obtain ⟨object, content, hsame⟩ :=
    (PhysicalKey.referencePrefix_prefix_iff adapter.layout other (.latest _ _)).mp hunder
  cases hsame

theorem referenceKey_under (resource : ResourceRef) (object content : HexDigest) :
    adapter.ReferenceKey (adapter.layout.path
      (.reference (adapter.layout.resourceToken resource) object content)) :=
  ⟨resource, (PhysicalKey.referencePrefix_prefix_iff adapter.layout resource _).mpr
    ⟨object, content, rfl⟩⟩

theorem decodeReply_foreign (key : String) {reply : Except Failure (List Bytes)} :
    Foreign Failure.foreign (adapter.transport.decodeReply reply) ↔
      adapter.Unloadable ⟨.getObject key none none, reply⟩ key := by
  have hmeridian (kind : ErrorKind) (message : Option String) :
      ¬Foreign Failure.foreign (.error (.meridian kind message) : Except Failure Value) :=
    mt foreign_error.mp (Failure.meridian_domestic _ _)
  have hunloaded {body : List Bytes} :
      adapter.Unloadable ⟨.getObject key none none, .ok body⟩ key ↔
        body.flatten.length ≤ MAX_INTERNAL_JSON_BYTES ∧
          ∃ error, adapter.common.jsonLoads body.flatten = .error error ∧ error ≠ .decodeError := by
    constructor
    · rintro ⟨other, error, hevent, hlength, hloads, hother⟩
      cases hevent
      exact ⟨hlength, error, hloads, hother⟩
    · rintro ⟨hlength, error, hloads, hother⟩
      exact ⟨body, error, rfl, hlength, hloads, hother⟩
  cases reply with
  | error failure =>
    apply iff_of_false
    · exact mt foreign_error.mp (Failure.normalized_domestic _ _ _)
    · rintro ⟨body, error, hevent, -⟩
      cases hevent
  | ok body =>
    rw [hunloaded]
    change Foreign Failure.foreign (adapter.transport.decodeJson
      (body.flatten.take (MAX_INTERNAL_JSON_BYTES + 1))) ↔ _
    rw [S3Transport.decodeJson_take, S3Transport.decodeJson]
    split
    · exact iff_of_false (hmeridian _ _) fun h => by omega
    · rename_i hlength
      rw [and_iff_right (Nat.le_of_not_lt hlength)]
      have hcommon : adapter.transport.common = adapter.common := rfl
      rw [hcommon]
      cases adapter.common.jsonLoads body.flatten with
      | ok value =>
        apply iff_of_false
        · dsimp only
          split
          · exact not_foreign_ok
          · exact hmeridian _ _
        · rintro ⟨error, herror, -⟩
          cases herror
      | error raised =>
        cases raised with
        | decodeError =>
          apply iff_of_false (hmeridian _ _)
          rintro ⟨error, herror, hother⟩
          exact hother (Except.error.inj herror).symm
        | valueError message =>
          refine iff_of_true (foreign_error.mpr (Failure.valueError_foreign message)) ⟨_, rfl, ?_⟩
          rintro ⟨⟩
        | recursionError message =>
          refine iff_of_true (foreign_error.mpr (Failure.recursionError_foreign message))
            ⟨_, rfl, ?_⟩
          rintro ⟨⟩

theorem unloadable_key {key other : String} {reply : Except Failure (List Bytes)}
    (h : adapter.Unloadable ⟨.getObject key none none, reply⟩ other) : other = key := by
  obtain ⟨body, error, hevent, -⟩ := h
  cases hevent
  rfl

theorem malformed_latest {resource : ResourceRef} {objectId : String}
    {reply : Except Failure (List Bytes)} :
    adapter.Malformed ⟨.getObject (adapter.layout.latestKey resource objectId) none none, reply⟩ ↔
      Foreign Failure.foreign ((adapter.transport.decodeReply reply).bind pointed) := by
  rw [foreign_bind, decodeReply_foreign (adapter.layout.latestKey resource objectId)]
  constructor
  · rintro (⟨key, -, hunloadable⟩ | ⟨other, otherId, value, hreads, hforeign⟩ |
      ⟨key, value, hkey, hreads, hforeign⟩)
    · obtain rfl := unloadable_key hunloadable
      exact Or.inl hunloadable
    · exact Or.inr ⟨value, (reads_iff.mp hreads).2, hforeign⟩
    · rw [(reads_iff.mp hreads).1] at hkey
      exact absurd hkey (latestKey_apart resource objectId)
  · rintro (hunloadable | ⟨value, hvalue, hforeign⟩)
    · exact .text _ (Or.inr ⟨resource, objectId, rfl⟩) hunloadable
    · exact .pointer resource objectId value (reads_iff.mpr ⟨rfl, hvalue⟩) hforeign

theorem malformed_reference {key : String} {reply : Except Failure (List Bytes)}
    (hkey : adapter.ReferenceKey key) :
    adapter.Malformed ⟨.getObject key none none, reply⟩ ↔
      Foreign Failure.foreign ((adapter.transport.decodeReply reply).bind
        (StoredEnvelope.fromMapping adapter.common)) := by
  rw [foreign_bind, decodeReply_foreign key]
  constructor
  · rintro (⟨other, -, hunloadable⟩ | ⟨resource, objectId, value, hreads, hforeign⟩ |
      ⟨other, value, -, hreads, hforeign⟩)
    · obtain rfl := unloadable_key hunloadable
      exact Or.inl hunloadable
    · rw [← (reads_iff.mp hreads).1] at hkey
      exact absurd hkey (latestKey_apart resource objectId)
    · exact Or.inr ⟨value, (reads_iff.mp hreads).2, hforeign⟩
  · rintro (hunloadable | ⟨value, hvalue, hforeign⟩)
    · exact .text key (Or.inl hkey) hunloadable
    · exact .envelope key value hkey (reads_iff.mpr ⟨rfl, hvalue⟩) hforeign

-- A document is read, and then decoded.
theorem document_path {key : String} {decode : Value → Except Failure α}
    {events : List (Event S3 Failure)} {result : Except Failure α}
    (path : (adapter.transport.readJson key >>= fun value =>
      Program.lift (decode value)).Path events result) :
    ∃ event reply, events = [event] ∧ event = ⟨.getObject key none none, reply⟩ ∧
      result = (adapter.transport.decodeReply reply).bind decode := by
  rw [S3Transport.readJson_eq, Program.bind_eq, Program.andThen_assoc] at path
  obtain ⟨first, rest, reply, rfl, hcall, hrest⟩ := Program.path_andThen.mp path
  rw [Program.path_perform.mp hcall]
  refine ⟨⟨.getObject key none none, reply⟩, reply, ?_⟩
  cases hvalue : adapter.transport.decodeReply reply with
  | error failure =>
    rw [hvalue] at hrest
    obtain ⟨rfl, rfl⟩ := Program.path_done.mp hrest
    exact ⟨rfl, rfl, rfl⟩
  | ok value =>
    rw [hvalue] at hrest
    obtain ⟨rfl, rfl⟩ := Program.path_done.mp hrest
    exact ⟨rfl, rfl, rfl⟩

theorem Blames.document {key : String} {decode : Value → Except Failure α}
    (hbad : ∀ reply, adapter.Malformed ⟨.getObject key none none, reply⟩ ↔
      Foreign Failure.foreign ((adapter.transport.decodeReply reply).bind decode)) :
    adapter.Blames (adapter.transport.readJson key >>= fun value =>
      Program.lift (decode value)) := by
  intro events result path _
  obtain ⟨event, reply, rfl, rfl, rfl⟩ := document_path path
  simp only [List.mem_singleton, exists_eq_left]
  exact (hbad reply).symm

section Reading

variable {resource : ResourceRef} {objectId : String} {hash : HexDigest}

theorem checkedEnvelope_domestic {digest : String} {value : Value} :
    Foreign Failure.foreign (checkedEnvelope adapter objectId digest value) ↔
      Foreign Failure.foreign (StoredEnvelope.fromMapping adapter.common value) := by
  unfold checkedEnvelope
  cases StoredEnvelope.fromMapping adapter.common value with
  | error failure => rfl
  | ok envelope =>
    apply iff_of_false _ not_foreign_ok
    change ¬Foreign Failure.foreign (if _ then _ else _)
    split
    · exact mt foreign_error.mp (Failure.meridian_domestic _ _)
    · exact not_foreign_ok

-- An envelope that is read by its digest.
theorem readExact_blames : adapter.Blames (adapter.transport.readJson
    (adapter.layout.path (.reference (adapter.layout.resourceToken resource)
      (adapter.layout.objectToken objectId) hash)) >>= fun value =>
    Program.lift (adapter.checkedEnvelope objectId hash.digest value)) := by
  apply Blames.document
  intro reply
  rw [malformed_reference (referenceKey_under _ _ _)]
  simp only [foreign_bind, checkedEnvelope_domestic]

theorem readEnvelope_exact :
    adapter.readEnvelope resource objectId (some hash.digest) = adapter.transport.readJson
      (adapter.layout.path (.reference (adapter.layout.resourceToken resource)
        (adapter.layout.objectToken objectId) hash)) >>= fun value =>
      Program.lift (adapter.checkedEnvelope objectId hash.digest value) := by
  change (Program.lift (adapter.layout.referenceKey resource objectId hash.digest) >>= _) = _
  rw [S3Layout.referenceKey_digest]
  rfl

theorem readEnvelope_latest :
    adapter.readEnvelope resource objectId none =
      (adapter.transport.readJson (adapter.layout.latestKey resource objectId) >>= fun latest =>
        Program.lift (pointed latest)) >>= fun hash =>
      adapter.readEnvelope resource objectId (some hash.digest) := by
  unfold readEnvelope selectedDigest
  dsimp only
  rw [Program.bind_assoc, Program.bind_assoc]
  congr 1
  funext latest
  cases hdigest : pointerDigest latest with
  | error failure =>
    have hpointed : pointed latest = .error failure := by
      unfold pointed
      rw [hdigest]
      rfl
    rw [hpointed]
    rfl
  | ok digest =>
    have hpointed : pointed latest = digestHex digest := by
      unfold pointed
      rw [hdigest]
      rfl
    rw [hpointed]
    cases hhash : digestHex digest with
    | ok hash =>
      obtain rfl := digestHex_eq_ok hhash
      rfl
    | error failure =>
      change (Program.lift (adapter.layout.referenceKey resource objectId digest) >>= _) = _
      unfold S3Layout.referenceKey
      rw [hhash]
      rfl

theorem readEnvelope_blames (digest : Option String)
    (hdigest : ∀ given ∈ digest, ∃ hash : HexDigest, given = hash.digest) :
    adapter.Blames (adapter.readEnvelope resource objectId digest) := by
  have hexact (hash : HexDigest) :
      adapter.Blames (adapter.readEnvelope resource objectId (some hash.digest)) := by
    rw [readEnvelope_exact]
    exact readExact_blames
  cases digest with
  | some given =>
    obtain ⟨hash, rfl⟩ := hdigest given rfl
    exact hexact hash
  | none =>
    rw [readEnvelope_latest]
    apply Program.Blames.bind
    · exact Blames.document fun reply => malformed_latest
    · exact fun hash => hexact hash

-- The digest of an envelope that has been read has its form.
theorem readEnvelope_digest {digest : Option String} {events : List (Event S3 Failure)}
    {envelope : StoredEnvelope}
    (path : (adapter.readEnvelope resource objectId digest).Path events (.ok envelope)) :
    ∃ hash : HexDigest, envelope.metadata.digest = hash.digest := by
  obtain ⟨failure, -, hfailure⟩ | ⟨first, rest, selected, rfl, -, hrest⟩ := Program.path_bind.mp path
  · cases hfailure
  · obtain ⟨failure, -, hfailure⟩ | ⟨none, read, key, rfl, hkey, hread⟩ :=
      Program.path_bind.mp hrest
    · cases hfailure
    · obtain ⟨-, hreference⟩ := Program.path_lift.mp hkey
      obtain ⟨hash, rfl, -⟩ := digestKey_ok hreference.symm
      obtain ⟨failure, -, hfailure⟩ | ⟨called, ended, value, rfl, -, hended⟩ :=
        Program.path_bind.mp hread
      · cases hfailure
      · obtain ⟨-, hchecked⟩ := Program.path_lift.mp hended
        exact ⟨hash, (checkedEnvelope_ok hchecked.symm).2.2⟩

theorem tryLatest_blames : adapter.Blames (adapter.tryLatest resource objectId) := by
  apply Program.Blames.recover
  · apply Program.Blames.map
    exact readEnvelope_blames none (fun _ h => nomatch h)
  · intro failure hforeign
    rw [if_neg (by rw [Failure.foreign_is hforeign]; exact Bool.false_ne_true)]
  · intro failure hdomestic
    split
    · exact .ofPure none
    · exact .ofThrow hdomestic

-- A call of the transport whose failures are normalized, and which reads no document.
theorem normalized_blames {α : Type} {operation : String} {sensitive : Bool} {program : S3M α}
    (h : program.Within fun call => ∀ reply, ¬adapter.Malformed ⟨call, reply⟩) :
    adapter.Blames (normalized operation sensitive program) := by
  intro events result path _
  obtain ⟨inner, hinner, rfl⟩ := normalized_path path
  apply iff_of_false
  · cases inner with
    | ok value => exact not_foreign_ok
    | error failure => exact mt foreign_error.mp (Failure.normalized_domestic _ _ _)
  · rintro ⟨⟨call, reply⟩, hmem, hmalformed⟩
    exact h.path hinner _ hmem reply hmalformed

-- Only what is read from a latest or a reference key can be malformed.
theorem malformed_key {event : Event S3 Failure} (h : adapter.Malformed event) :
    ∃ key reply, event = ⟨.getObject key none none, reply⟩ ∧ adapter.DocumentKey key := by
  cases h with
  | text key hkey hunloadable =>
    obtain ⟨body, error, rfl, -⟩ := hunloadable
    exact ⟨key, _, rfl, hkey⟩
  | pointer resource objectId value hreads _ =>
    obtain ⟨reply, rfl, -⟩ := hreads
    exact ⟨_, reply, rfl, Or.inr ⟨resource, objectId, rfl⟩⟩
  | envelope key value hkey hreads _ =>
    obtain ⟨reply, rfl, -⟩ := hreads
    exact ⟨key, reply, rfl, Or.inl hkey⟩

theorem malformed_reads {event : Event S3 Failure} (h : adapter.Malformed event) :
    ∃ key, event.1 = .getObject key none none := by
  obtain ⟨key, reply, rfl, -⟩ := malformed_key h
  exact ⟨key, rfl⟩

theorem listKeys_blames (keyPrefix : String) (maxKeys : Nat) (startAfter : Option String) :
    adapter.Blames (S3Transport.listKeys keyPrefix maxKeys startAfter) := by
  apply Program.Blames.bind
  · apply normalized_blames
    apply Program.Within.perform
    intro reply hmalformed
    obtain ⟨key, hcall⟩ := malformed_reads hmalformed
    cases hcall
  · exact fun page => .ofPure _

theorem listKeys_keys {keyPrefix : String} {maxKeys : Nat} {startAfter : Option String}
    {events : List (Event S3 Failure)} {page : KeyPage}
    (path : (S3Transport.listKeys keyPrefix maxKeys startAfter).Path events (.ok page))
    (hlisted : ∀ event ∈ events, Listed event) :
    ∀ key ∈ page.keys, keyPrefix.toList <+: key.toList := by
  obtain ⟨failure, -, hfailure⟩ | ⟨first, rest, reply, rfl, hcall, hrest⟩ :=
    Program.path_bind.mp path
  · cases hfailure
  · obtain ⟨inner, hinner, hreply⟩ := normalized_path hcall
    obtain ⟨rfl, hpage⟩ := Program.path_pure.mp hrest
    obtain rfl := Except.ok.inj hpage
    cases inner with
    | error failure => cases hreply
    | ok found =>
      obtain rfl := Except.ok.inj hreply
      rw [Program.path_perform.mp hinner] at hlisted
      exact hlisted _ (by simp) keyPrefix maxKeys startAfter reply rfl

-- An envelope whose key has been listed.
theorem readListed_blames {key : String} (hkey : adapter.ReferenceKey key)
    {next : StoredEnvelope → S3M α} (hnext : ∀ envelope, adapter.Blames (next envelope)) :
    adapter.Blames (adapter.transport.readJson key >>= fun value =>
      Program.lift (StoredEnvelope.fromMapping adapter.common value) >>= next) := by
  rw [← Program.bind_assoc]
  apply Program.Blames.bind
  · exact Blames.document fun reply => malformed_reference hkey
  · exact hnext

theorem newestOfPage_blames {excludeDigest : Option String} {keys : List String}
    (hkeys : ∀ key ∈ keys, adapter.ReferenceKey key) (selected : Option StoredEnvelope) :
    adapter.Blames (adapter.newestOfPage excludeDigest keys selected) := by
  induction keys generalizing selected with
  | nil => exact .ofPure selected
  | cons key rest ih =>
    have hrest := ih fun other hmem => hkeys other (List.mem_cons_of_mem _ hmem)
    apply readListed_blames (hkeys key List.mem_cons_self)
    intro envelope
    split
    · exact hrest selected
    · split
      · exact hrest (some envelope)
      · exact hrest selected

theorem newestOfPages_blames (resource : ResourceRef) {keyPrefix : String}
    {excludeDigest : Option String} (hunder :
      (adapter.layout.referencePrefix resource).toList <+: keyPrefix.toList) (pages : Nat)
    (startAfter : Option String) (selected : Option StoredEnvelope) :
    adapter.Blames (adapter.newestOfPages keyPrefix excludeDigest pages startAfter selected) := by
  induction pages generalizing startAfter selected with
  | zero => exact .ofPure selected
  | succ pages ih =>
    apply Program.Blames.bind_path (listKeys_blames _ _ _)
    intro events page path hlisted
    apply Program.Blames.bind
    · apply newestOfPage_blames
      intro key hkey
      exact ⟨resource, hunder.trans (listKeys_keys path hlisted key hkey)⟩
    · intro found
      split
      · exact ih _ _
      · exact .ofPure found

theorem newestVersion_blames (excludeDigest : Option String) :
    adapter.Blames (adapter.newestVersion resource objectId excludeDigest) :=
  newestOfPages_blames resource (by
    simp only [S3Layout.versionPrefix, String.toList_append, List.append_assoc]
    exact List.prefix_append _ _) _ _ _

theorem listPage_blames {namePrefix : String} {limit : Nat} {keys : List String}
    (hkeys : ∀ key ∈ keys, adapter.ReferenceKey key) (progress : ListProgress) :
    adapter.Blames (adapter.listPage namePrefix limit keys progress) := by
  induction keys generalizing progress with
  | nil => exact .ofPure (progress, false)
  | cons key rest ih =>
    unfold listPage
    split
    · exact .ofPure (progress, true)
    · apply readListed_blames (hkeys key List.mem_cons_self)
      exact fun envelope => ih (fun other hmem => hkeys other (List.mem_cons_of_mem _ hmem)) _

theorem listPages_blames {namePrefix : String} {limit : Nat} (pages : Nat)
    (startAfter : Option String) (progress : ListProgress) (more : Bool) :
    adapter.Blames (adapter.listPages (adapter.layout.referencePrefix resource) namePrefix limit
      pages startAfter progress more) := by
  induction pages generalizing startAfter progress more with
  | zero => exact .ofPure (progress, more)
  | succ pages ih =>
    apply Program.Blames.bind_path (listKeys_blames _ _ _)
    intro events page path hlisted
    split
    · exact .ofPure (progress, false)
    · apply Program.Blames.bind
      · apply listPage_blames
        exact fun key hkey => ⟨resource, listKeys_keys path hlisted key hkey⟩
      · rintro ⟨scanned, limited⟩
        dsimp only
        split
        · exact .ofPure (scanned, true)
        · split
          · exact .ofPure (scanned, false)
          · exact ih _ _ _

-- The key that a listing ends with is one that it has listed.
theorem listPage_scanned {namePrefix : String} {limit : Nat} {keys : List String}
    {progress : ListProgress} {events : List (Event S3 Failure)} {found : ListProgress × Bool}
    (path : (adapter.listPage namePrefix limit keys progress).Path events (.ok found)) :
    ∀ key ∈ found.1.lastScanned, key ∈ progress.lastScanned ∨ key ∈ keys := by
  induction keys generalizing progress events with
  | nil =>
    obtain ⟨-, hfound⟩ := Program.path_pure.mp path
    obtain rfl := Except.ok.inj hfound
    exact fun key hkey => Or.inl hkey
  | cons first rest ih =>
    unfold listPage at path
    split at path
    · obtain ⟨-, hfound⟩ := Program.path_pure.mp path
      obtain rfl := Except.ok.inj hfound
      exact fun key hkey => Or.inl hkey
    · obtain ⟨failure, -, hfailure⟩ | ⟨read, later, value, rfl, -, hlater⟩ :=
        Program.path_bind.mp path
      · cases hfailure
      · obtain ⟨failure, -, hfailure⟩ | ⟨decoded, after, envelope, rfl, -, hafter⟩ :=
          Program.path_bind.mp hlater
        · cases hfailure
        · intro key hkey
          obtain hkey | hkey := ih hafter key hkey
          · exact Or.inr (by simp [Option.some.inj hkey])
          · exact Or.inr (List.mem_cons_of_mem _ hkey)

theorem listPages_scanned {namePrefix : String} {limit : Nat} {pages : Nat}
    {startAfter : Option String} {progress : ListProgress} {more : Bool}
    {events : List (Event S3 Failure)} {found : ListProgress × Bool}
    (path : (adapter.listPages (adapter.layout.referencePrefix resource) namePrefix limit pages
      startAfter progress more).Path events (.ok found))
    (hlisted : ∀ event ∈ events, Listed event)
    (hprogress : ∀ key ∈ progress.lastScanned,
      (adapter.layout.referencePrefix resource).toList <+: key.toList) :
    ∀ key ∈ found.1.lastScanned,
      (adapter.layout.referencePrefix resource).toList <+: key.toList := by
  induction pages generalizing startAfter progress more events with
  | zero =>
    obtain ⟨-, hfound⟩ := Program.path_pure.mp path
    obtain rfl := Except.ok.inj hfound
    exact hprogress
  | succ pages ih =>
    obtain ⟨failure, -, hfailure⟩ | ⟨called, rest, page, rfl, hcalled, hrest⟩ :=
      Program.path_bind.mp path
    · cases hfailure
    · obtain ⟨hbefore, hafter⟩ := List.forall_mem_append.mp hlisted
      have hkeys := listKeys_keys hcalled hbefore
      split at hrest
      · obtain ⟨-, hfound⟩ := Program.path_pure.mp hrest
        obtain rfl := Except.ok.inj hfound
        exact hprogress
      · obtain ⟨failure, -, hfailure⟩ | ⟨read, later, scanned, rfl, hread, hlater⟩ :=
          Program.path_bind.mp hrest
        · cases hfailure
        · have hscanned : ∀ key ∈ scanned.1.lastScanned,
              (adapter.layout.referencePrefix resource).toList <+: key.toList := by
            intro key hkey
            obtain hkey | hkey := listPage_scanned hread key hkey
            · exact hprogress key hkey
            · exact hkeys key hkey
          have hended {limited : Bool}
              (hpath : (pure (scanned.1, limited) : S3M (ListProgress × Bool)).Path later
                (.ok found)) : ∀ key ∈ found.1.lastScanned,
              (adapter.layout.referencePrefix resource).toList <+: key.toList := by
            obtain ⟨-, hfound⟩ := Program.path_pure.mp hpath
            obtain rfl := Except.ok.inj hfound
            exact hscanned
          dsimp only at hlater
          split at hlater
          · exact hended hlater
          · split at hlater
            · exact hended hlater
            · exact ih hlater (List.forall_mem_append.mp hafter).2 hscanned

theorem startAfter_foreign {cursor : Option String} :
    Foreign Failure.foreign (adapter.layout.startAfter resource cursor) ↔
      ∃ text ∈ cursor, ListCursor.Nested adapter.common text := by
  cases cursor with
  | none =>
    apply iff_of_false not_foreign_ok
    rintro ⟨text, htext, -⟩
    cases htext
  | some cursor =>
    simp only [Option.mem_some_iff, exists_eq_left']
    rw [← ListCursor.decode_foreign]
    refine foreign_bind.trans (or_iff_left ?_)
    rintro ⟨parsed, -, hforeign⟩
    exact not_foreign_ok hforeign

theorem list_blames {request : ListRequest}
    (hcursor : ¬∃ cursor ∈ request.cursor, ListCursor.Nested adapter.common cursor) :
    adapter.Blames (adapter.list request) := by
  apply Program.Blames.lift_bind (mt startAfter_foreign.mp hcursor)
  intro startAfter _
  apply Program.Blames.bind_path (listPages_blames _ _ _ _)
  rintro events ⟨progress, more⟩ path hlisted
  have hscanned := listPages_scanned path hlisted fun key hkey => nomatch hkey
  dsimp only
  split
  · rename_i key hkey
    have hunder := hscanned key (by rw [hkey]; rfl)
    have hcursor : adapter.layout.cursorForKey request.resource key = .ok (ListCursor.encode
        ⟨String.ofList (key.toList.drop
          (adapter.layout.referencePrefix request.resource).toList.length)⟩) :=
      if_pos (List.isPrefixOf_iff_prefix.mpr hunder)
    rw [hcursor]
    exact .ofPure _
  · exact .ofPure _

theorem head_blames (key : String) (versionId : Value) :
    adapter.Blames (S3Transport.head key versionId) := by
  apply Program.Blames.bind
  · apply normalized_blames
    unfold versionArgument
    apply Program.Within.bind (.ofLift _)
    intro version
    apply Program.Within.perform
    intro reply hmalformed
    obtain ⟨key, hcall⟩ := malformed_reads hmalformed
    cases hcall
  · exact fun value => .ofPure _

end Reading

end S3ObjectAdapter

end MeridianS3
