import MeridianS3.Registration
import MeridianS3.Runtime.Factory

namespace MeridianS3

open Effect ObjectStore Json

variable {Client Manifest : Type}

-- What the provider said of the bucket.
structure Sdk.Versioned (sdk : Sdk Client Manifest) (client : Client) : Prop where
  status : ∃ reply, sdk.getBucketVersioning client = .ok reply ∧
    reply.get? "Status" = some (.str "Enabled")

structure Sdk.Locked (sdk : Sdk Client Manifest) (client : Client) : Prop where
  configured : ∃ reply configuration, sdk.getObjectLockConfiguration client = .ok reply ∧
    reply.get? "ObjectLockConfiguration" = some configuration ∧
    configuration.get? "ObjectLockEnabled" = some (.str "Enabled")

-- A manifest that claims no more than what the provider said of the bucket and what the
-- configuration allows.
structure Sdk.Warrants (sdk : Sdk Client Manifest) (client : Client) (config : S3Config)
    (signed : Bool) (made : CapabilityManifest) : Prop where
  versioning : ("versioningVerified", .bool true) ∈ made.extensions → sdk.Versioned client
  objectLock : ("objectLockVerified", .bool true) ∈ made.extensions → sdk.Locked client
  enforcement : made.offers .retentionEnforcement → sdk.Locked client
  signed : made.offers .signedReference → signed = true
  objectBytes : ∀ bound, made.bounds .maxObjectBytes bound → bound = config.maxObjectBytes
  rangeBytes : ∀ bound, made.bounds .maxRangeBytes bound → bound = config.maxRangeBytes

-- A probe that found what the configuration asks for, with such a manifest.
structure Sdk.Verified (sdk : Sdk Client Manifest) (client : Client) (config : S3Config)
    (signed : Bool) (manifest : Manifest) : Prop where
  bucket : sdk.headBucket client = .ok ()
  versioned : config.requireVersioning = true → sdk.Versioned client
  locked : config.retentionEnforcement = true → sdk.Locked client
  warranted : ∃ made, sdk.spi.capabilityManifest made = .ok manifest ∧
    sdk.Warrants client config signed made
  manifest : ∃ versioned locked,
    s3CapabilityManifest sdk.spi config signed versioned locked = .ok manifest ∧
      (versioned = true → sdk.Versioned client) ∧ (locked = true → sdk.Locked client)

namespace S3Transport

theorem versioningStatus_enabled {reply : Except Failure Value} {status : String}
    (h : versioningStatus reply = .ok status) (henabled : status = "Enabled") :
    ∃ value, reply = .ok value ∧ value.get? "Status" = some (.str "Enabled") := by
  subst henabled
  cases reply with
  | error failure => cases h
  | ok value =>
      refine ⟨value, rfl, ?_⟩
      unfold versioningStatus at h
      dsimp only at h
      split at h
      · rename_i status hstatus
        rw [hstatus, Except.ok.inj h]
      · exact absurd (Except.ok.inj h) (by decide)

theorem objectLockEnabled_true {reply : Except Failure Value}
    (h : objectLockEnabled reply = .ok true) :
    ∃ value configuration, reply = .ok value ∧
      value.get? "ObjectLockConfiguration" = some configuration ∧
      configuration.get? "ObjectLockEnabled" = some (.str "Enabled") := by
  cases reply with
  | error failure =>
      unfold objectLockEnabled at h
      dsimp only at h
      split at h <;> cases h
  | ok value =>
      unfold objectLockEnabled at h
      dsimp only at h
      split at h
      · rename_i fields hfields
        exact ⟨value, _, rfl, hfields, of_decide_eq_true (Except.ok.inj h)⟩
      · cases h

theorem headBucketOf_ok {reply : Except Failure Unit} (h : headBucketOf reply = .ok ()) :
    reply = .ok () := by
  cases reply with
  | ok value => rfl
  | error failure => cases h

end S3Transport

-- What the probe asks for only under a condition.
theorem observed_ok {α β : Type} {condition : Prop} [Decidable condition]
    {asked : Except Failure α} {unasked : α} {next : α → Except Failure β} {value : β}
    (h : (if condition then asked >>= next else pure unasked >>= next) = .ok value) :
    ∃ observed, ((condition ∧ asked = .ok observed) ∨ (¬condition ∧ observed = unasked)) ∧
      next observed = .ok value := by
  split at h
  · rename_i hcondition
    obtain ⟨observed, hasked, hnext⟩ := bind_ok h
    exact ⟨observed, .inl ⟨hcondition, hasked⟩, hnext⟩
  · rename_i hcondition
    exact ⟨unasked, .inr ⟨hcondition, rfl⟩, h⟩

theorem healthProbe_verified {sdk : Sdk Client Manifest} {client : Client} {config : S3Config}
    {signed : Bool} {probed : AdapterProbe Manifest × S3ProbeEvidence}
    (h : healthProbe sdk.surroundings client config signed = .ok probed) :
    sdk.Verified client config signed probed.1.manifest := by
  obtain ⟨_, hhead, h⟩ := bind_ok h
  obtain ⟨status, hstatus, h⟩ := observed_ok h
  obtain ⟨locked, hlocked, h⟩ := observed_ok h
  obtain ⟨hversioned, h⟩ := guard_passed h
  obtain ⟨hunlocked, h⟩ := guard_passed h
  obtain ⟨manifest, hmanifest, h⟩ := bind_ok h
  obtain rfl := Except.ok.inj h
  have hversions : status = "Enabled" → sdk.Versioned client := by
    intro henabled
    rcases hstatus with ⟨-, hstatus⟩ | ⟨-, hstatus⟩
    · exact ⟨S3Transport.versioningStatus_enabled hstatus henabled⟩
    · exact absurd (hstatus.symm.trans henabled) (by decide)
  have hlocks : locked = true → sdk.Locked client := by
    intro htrue
    rcases hlocked with ⟨-, hlocked⟩ | ⟨-, hlocked⟩
    · exact ⟨S3Transport.objectLockEnabled_true (htrue ▸ hlocked)⟩
    · exact absurd (hlocked.symm.trans htrue) Bool.false_ne_true
  have hstatus : decide (status = "Enabled") = true → sdk.Versioned client :=
    fun henabled => hversions (of_decide_eq_true henabled)
  have henforces : config.retentionEnforcement = true → sdk.Locked client := by
    intro henforced
    apply hlocks
    by_contra hne
    exact hunlocked ⟨henforced, hne⟩
  have hrequires : config.requireVersioning = true → sdk.Versioned client := by
    intro hrequired
    apply hversions
    by_contra hne
    exact hversioned ⟨hrequired, hne⟩
  obtain ⟨made, hmade, hdescribes⟩ := s3CapabilityManifest_describes hmanifest
  refine ⟨S3Transport.headBucketOf_ok hhead, hrequires, henforces, ⟨made, hmade, ?_⟩,
    ⟨decide (status = "Enabled"), locked, hmanifest, hstatus, hlocks⟩⟩
  exact
    { versioning := fun hclaimed =>
        hstatus (Value.bool.inj ((hdescribes.versioning _).mp hclaimed)).symm
      objectLock := fun hclaimed =>
        hlocks (Value.bool.inj ((hdescribes.objectLock _).mp hclaimed)).symm
      enforcement := fun hoffered => henforces (hdescribes.enforcement.mp hoffered)
      signed := hdescribes.signed.mp
      objectBytes := fun bound => (hdescribes.objectBytes bound).mp
      rangeBytes := fun bound => (hdescribes.rangeBytes bound).mp }

namespace S3AdapterRuntime

-- The adapter that an opened runtime holds.
def sessionAdapter (runtime : S3AdapterRuntime Client Manifest) : S3ObjectAdapter :=
  { common := runtime.common
    config := runtime.config
    referenceSigner := runtime.referenceSigner
    signedReferenceAudience := runtime.signedReferenceAudience }

-- What a client of the runtime is made to verify certificates with.
def Verifies (runtime : S3AdapterRuntime Client Manifest) : Verify → Prop
  | .disabled => runtime.tlsMode = "disabled"
  | .system => runtime.tlsMode ≠ "disabled" ∧ runtime.caMaterial = none
  | .file _ => runtime.tlsMode ≠ "disabled" ∧ runtime.caMaterial ≠ none

-- What calls on a runtime never change, and what it holds when it holds anything.
structure Holds (origin : S3AdapterRuntime Client Manifest)
    (probed : AdapterProbe Manifest → Prop) (runtime : S3AdapterRuntime Client Manifest) :
    Prop where
  common : runtime.common = origin.common
  config : runtime.config = origin.config
  tlsMode : runtime.tlsMode = origin.tlsMode
  tlsCa : runtime.tlsCa = origin.tlsCa
  referenceSigner : runtime.referenceSigner = origin.referenceSigner
  signedReferenceAudience : runtime.signedReferenceAudience = origin.signedReferenceAudience
  adapter : ∀ adapter, runtime.adapter = some adapter → adapter = origin.sessionAdapter
  probe : ∀ probe, runtime.probe = some probe → probed probe

end S3AdapterRuntime

namespace Workplace

variable {place : Workplace Client Manifest} {origin : S3AdapterRuntime Client Manifest}
  {probed : AdapterProbe Manifest → Prop}

theorem holds_prepared (h : origin.Holds probed place.runtime) :
    origin.Holds probed place.prepared.runtime := by
  unfold prepared
  split
  · exact h
  · exact { h with }

theorem holds_cleaned (h : origin.Holds probed place.runtime) :
    origin.Holds probed place.cleaned.runtime := by
  unfold cleaned
  split
  · exact h
  · exact { h with }

theorem holds_holding (h : origin.Holds probed place.runtime) (client : Client) :
    origin.Holds probed (place.holding client).runtime := by
  refine { h with adapter := ?_ }
  intro adapter hadapter
  obtain rfl := Option.some.inj hadapter
  rw [S3AdapterRuntime.sessionAdapter, h.common, h.config, h.referenceSigner,
    h.signedReferenceAudience]

theorem holds_opened (h : origin.Holds probed place.runtime) {probe : AdapterProbe Manifest}
    (hprobe : probed probe) : origin.Holds probed (place.opened probe).runtime := by
  refine { h with probe := ?_ }
  intro found hfound
  obtain rfl := Option.some.inj hfound
  exact hprobe

theorem holds_released (h : origin.Holds probed place.runtime) :
    origin.Holds probed place.released.runtime := by
  refine { h with adapter := ?_ }
  intro adapter hadapter
  cases hadapter

theorem holds_closed (h : origin.Holds probed place.runtime) :
    origin.Holds probed place.closed.runtime := by
  refine { h with adapter := ?_, probe := ?_ }
  · intro adapter hadapter
    cases hadapter
  · intro probe hprobe
    cases hprobe

theorem verifies (place : Workplace Client Manifest) : place.runtime.Verifies place.verify := by
  unfold verify
  split
  · assumption
  · rename_i henabled
    split
    · rename_i hsome
      refine ⟨henabled, fun hnone => ?_⟩
      rw [hnone] at hsome
      cases hsome
    · rename_i hnone
      exact ⟨henabled, Option.not_isSome_iff_eq_none.mp hnone⟩

theorem holds_open (around : Surroundings Client Manifest)
    (h : origin.Holds probed place.runtime)
    (hprobes : ∀ verify client found, origin.Verifies verify →
      around.clientFactory origin.config verify = .ok client →
      healthProbe around client origin.config origin.referenceSigner.isSome = .ok found →
      probed found.1) :
    origin.Holds probed ((S3AdapterRuntime.«open» around).exec place).2.runtime := by
  cases ho : place.runtime.isOpen with
  | true =>
      rw [S3AdapterRuntime.open_again around place ho]
      exact h
  | false =>
  cases hclient : around.clientFactory place.runtime.config place.verify with
  | error failure =>
      rw [S3AdapterRuntime.open_without_client around place failure ho hclient]
      exact holds_prepared h
  | ok client =>
  have hheld := holds_holding (holds_prepared h) client
  cases hprobe : healthProbe around client place.runtime.config
      place.runtime.referenceSigner.isSome with
  | ok found =>
      rw [S3AdapterRuntime.open_probed around place client found ho hclient hprobe]
      rw [h.config] at hclient
      rw [h.config, h.referenceSigner] at hprobe
      have hverifies : origin.Verifies place.verify := by
        have hplace := place.verifies
        cases hverify : place.verify <;>
          simpa [S3AdapterRuntime.Verifies, S3AdapterRuntime.caMaterial, hverify, h.tlsMode,
            h.tlsCa] using hplace
      exact holds_opened hheld (hprobes _ client found hverifies hclient hprobe)
  | error failure =>
  cases hclose : around.close client with
  | ok _ =>
      rw [S3AdapterRuntime.open_not_probed around place client failure ho hclient hprobe hclose]
      exact holds_cleaned (holds_released hheld)
  | error raised =>
      rw [S3AdapterRuntime.open_not_released around place client failure raised ho hclient hprobe
        hclose]
      exact hheld

theorem holds_close (around : Surroundings Client Manifest)
    (h : origin.Holds probed place.runtime) :
    origin.Holds probed ((S3AdapterRuntime.close around).exec place).2.runtime := by
  by_cases hclose : ∀ client, place.runtime.transport = some client →
      around.close client = .ok ()
  · rw [S3AdapterRuntime.close_run around place hclose]
    exact holds_cleaned (holds_closed h)
  · push Not at hclose
    obtain ⟨client, htransport, hraised⟩ := hclose
    cases hfailed : around.close client with
    | ok _ => exact absurd hfailed hraised
    | error failure =>
        rw [S3AdapterRuntime.close_raised around place client failure htransport hfailed]
        exact h

end Workplace

section Deployment

variable {demands : List (Demand Client Manifest)} {runtime : S3AdapterRuntime Client Manifest}

-- An open that was asked for made the client of a probe with this manifest.
def Probed (demands : List (Demand Client Manifest)) (runtime : S3AdapterRuntime Client Manifest)
    (manifest : Manifest) : Prop :=
  ∃ sdk verify client, Demand.open sdk ∈ demands ∧ runtime.Verifies verify ∧
    sdk.clientFactory runtime.config verify = .ok client ∧
    sdk.Verified client runtime.config runtime.referenceSigner.isSome manifest

def RuntimeCall.Among (demands : List (Demand Client Manifest)) :
    RuntimeCall Client Manifest → Prop
  | .open sdk => Demand.open sdk ∈ demands
  | _ => True

def RuntimeCall.Answers (demands : List (Demand Client Manifest))
    (runtime : S3AdapterRuntime Client Manifest) (request : RuntimeCall Client Manifest) :
    request.Reply → Prop :=
  match request with
  | .adapter => fun (adapter : S3ObjectAdapter) => adapter = runtime.sessionAdapter
  | .probe => fun (probe : AdapterProbe Manifest) => Probed demands runtime probe.manifest
  | .config => fun (config : S3Config) => config = runtime.config
  | .open _ | .close _ | .openSession _ | .closeSession _ | .requireOpen _ => fun _ => True

theorem service_keeps (demands : List (Demand Client Manifest))
    (runtime : S3AdapterRuntime Client Manifest) :
    Handler.Keeps (Service.handle : Handler (RuntimeSignature Client Manifest) Failure
      (Service Client Manifest)) (RuntimeCall.Among demands)
      (RuntimeCall.Answers demands runtime) fun service =>
        runtime.Holds (fun probe => Probed demands runtime probe.manifest)
          service.place.runtime where
  state := by
    intro request hrequest service h
    cases request with
    | «open» sdk =>
        apply Workplace.holds_open sdk.surroundings h
        intro verify client found hverifies hclient hfound
        exact ⟨sdk, verify, client, hrequest, hverifies, hclient, healthProbe_verified hfound⟩
    | close sdk => exact Workplace.holds_close sdk.surroundings h
    | openSession transactional =>
        simp only [Service.handle]
        split <;> exact h
    | closeSession session | requireOpen session | adapter | probe | config => exact h
  answer := by
    intro request hrequest service h value hvalue
    cases request with
    | adapter =>
        cases hadapter : service.place.runtime.adapter with
        | none => simp [Service.handle, S3AdapterRuntime.heldAdapter, hadapter] at hvalue
        | some adapter =>
            simp only [Service.handle, S3AdapterRuntime.heldAdapter, hadapter] at hvalue
            obtain rfl := Except.ok.inj hvalue
            exact h.adapter adapter hadapter
    | probe =>
        cases hopen : service.place.runtime.isOpen with
        | false => simp [Service.handle, S3AdapterRuntime.adapterProbe, hopen] at hvalue
        | true =>
        cases hprobe : service.place.runtime.probe with
        | none => simp [Service.handle, S3AdapterRuntime.adapterProbe, hopen, hprobe] at hvalue
        | some probe =>
            simp only [Service.handle, S3AdapterRuntime.adapterProbe, hopen, hprobe] at hvalue
            obtain rfl := Except.ok.inj hvalue
            exact h.probe probe hprobe
    | config =>
        obtain rfl := Except.ok.inj hvalue
        exact h.config
    | «open» sdk | close sdk | openSession transactional | closeSession session
    | requireOpen session => trivial

-- What a demand does to the bucket, through the adapter that an opened runtime holds.
def Demand.operation (adapter : S3ObjectAdapter) : Demand Client Manifest → S3M Outcome
  | .execute _ operation => adapter.execute operation
  | _ => throw S3AdapterSession.notTransactional

def operations (bucket : Bucket) (adapter : S3ObjectAdapter)
    (demands : List (Demand Client Manifest)) : System S3 Failure Outcome Bucket :=
  ⟨bucket, demands.map (Demand.operation adapter)⟩

-- What an operation that a session has executed goes back to.
def Executed (fields : ManifestFields Manifest) (demands : List (Demand Client Manifest))
    (runtime : S3AdapterRuntime Client Manifest) : Answer → S3M Outcome → Prop
  | .executed result, program => program = .done (.ok result.data) ∧
      ∃ manifest, Probed demands runtime manifest ∧ result.provenance =
        S3AdapterSession.provenance fields runtime.sessionAdapter.adapterVersion runtime.config
          manifest
  | .nothing, _ | .session _, _ => True

variable {fields : ManifestFields Manifest}

section Follows

variable {ends : Answer → S3M Outcome → Prop} {inner : S3M Outcome}

theorem follows_asked {request : RuntimeCall Client Manifest}
    {next : request.Reply → ServiceM Client Manifest Answer}
    (hrequest : RuntimeCall.Among demands request)
    (h : ∀ value, RuntimeCall.Answers demands runtime request value →
      (next value).Follows (RuntimeCall.Among demands) (RuntimeCall.Answers demands runtime) ends
        inner) :
    (S3AdapterSession.asked request >>= next).Follows (RuntimeCall.Among demands)
      (RuntimeCall.Answers demands runtime) ends inner :=
  Program.follows_aside hrequest h

end Follows

theorem Demand.follows {demand : Demand Client Manifest} (hdemand : demand ∈ demands) :
    (demand.program fields).Follows (RuntimeCall.Among demands)
      (RuntimeCall.Answers demands runtime) (Executed fields demands runtime)
      (demand.operation runtime.sessionAdapter) := by
  have hnothing (request : RuntimeCall Client Manifest)
      (hrequest : RuntimeCall.Among demands request) (answer : request.Reply → Answer)
      (hanswer : ∀ value inner, Executed fields demands runtime (answer value) inner) :
      (answer <$> S3AdapterSession.asked request).Follows (RuntimeCall.Among demands)
        (RuntimeCall.Answers demands runtime) (Executed fields demands runtime)
        (demand.operation runtime.sessionAdapter) := by
    rw [map_eq_pure_bind]
    apply follows_asked hrequest
    intro value _
    apply Program.Follows.done
    intro answered hanswered
    obtain rfl := Except.ok.inj hanswered
    exact hanswer value _
  have htransaction (session : Nat) : (S3AdapterSession.transaction session).Follows
      (RuntimeCall.Among demands) (RuntimeCall.Answers demands runtime)
      (Executed fields demands runtime) (demand.operation runtime.sessionAdapter) := by
    refine follows_asked trivial fun _ _ => ?_
    exact Program.follows_error _ _
  cases demand with
  | «open» sdk => exact hnothing (.open sdk) hdemand _ fun _ _ => trivial
  | close sdk => exact hnothing (.close sdk) trivial _ fun _ _ => trivial
  | openSession transactional =>
      exact hnothing (.openSession transactional) trivial _ fun _ _ => trivial
  | closeSession session => exact hnothing (.closeSession session) trivial _ fun _ _ => trivial
  | begin session | commit session | rollback session => exact htransaction session
  | execute session operation =>
      simp only [Demand.program, S3AdapterSession.execute, map_bind]
      refine follows_asked trivial fun _ _ => ?_
      refine follows_asked trivial fun adapter hadapter => ?_
      obtain rfl : adapter = runtime.sessionAdapter := hadapter
      apply Program.follows_inject
      intro outcome
      refine follows_asked trivial fun probe hprobe => ?_
      refine follows_asked trivial fun config hconfig => ?_
      obtain rfl : config = runtime.config := hconfig
      apply Program.Follows.done
      intro answered hanswered
      obtain rfl := Except.ok.inj hanswered
      exact ⟨rfl, probe.manifest, hprobe, rfl⟩

namespace S3AdapterSession

-- What the runtime answers at once does not reach the bucket.
theorem run_asked {provider : Provider} {bucket : Bucket}
    {request : RuntimeCall Client Manifest} {value : request.Reply}
    {service after : Service Client Manifest}
    (h : Service.handle request service = (.ok value, after)) {α : Type}
    (next : request.Reply → ServiceM Client Manifest α) :
    (asked request >>= next).run (provider.handle.both Service.handle) (bucket, service) =
      (next value).run (provider.handle.both Service.handle) (bucket, after) := by
  apply Program.run_bind_ok
  exact congrArg (fun answered => (answered.1, (bucket, answered.2))) h

end S3AdapterSession

namespace Standard

-- A bucket that keeps its versions and has no Object Lock.
def sdk : Sdk Unit CapabilityManifest where
  clientFactory _ _ := .ok ()
  headBucket _ := .ok ()
  getBucketVersioning _ := .ok (.obj [("Status", .str "Enabled")])
  getObjectLockConfiguration _ :=
    .error (.client "ObjectLockConfigurationNotFoundError" "404")
  spi := spi
  close _ := .ok ()

def manifestFields : ManifestFields CapabilityManifest where
  fingerprint _ := "sha256:manifest"
  engineProfile := CapabilityManifest.engineProfile
  engineVersion := CapabilityManifest.engineVersion

-- A session that registers a Resource.
def session : List (Demand Unit CapabilityManifest) :=
  [.open sdk, .openSession false, .execute 0 (.createResource (resourceRequest .mutable))]

def sessionSystem : System (S3.both (RuntimeSignature Unit CapabilityManifest)) Failure Answer
    (Bucket × Service Unit CapabilityManifest) :=
  deployment manifestFields (Store.empty true) boundRuntime 0 session

-- The runtime when it has been opened, with one session.
def sessionService : Service Unit CapabilityManifest :=
  (Service.handle (.openSession false)
    (Service.handle (.open sdk) ⟨⟨boundRuntime, ⟨[], 0⟩⟩, []⟩).2).2

theorem session_started : sessionSystem.runSchedule (provider.handle.both Service.handle)
    [(0, none), (1, none)] = ⟨(Store.empty true, sessionService),
      [.done (.ok .nothing), .done (.ok (.session 0)),
        Demand.program manifestFields
          (.execute 0 (.createResource (resourceRequest .mutable)))]⟩ := rfl

-- What the probe makes of that bucket.
def sessionManifest : CapabilityManifest :=
  capabilityManifest (adapterDescriptor "1.0.0" boundConfig false) boundConfig "1.0.0" "1.0.0"
    true false

def sessionResult : ExecutionResult :=
  ⟨.resource ⟨resource, profile .mutable, true⟩, 0,
    S3AdapterSession.provenance manifestFields VERSION boundConfig sessionManifest⟩

theorem session_executes : ((Demand.program manifestFields
    (.execute 0 (.createResource (resourceRequest .mutable)))).run
      (provider.handle.both Service.handle) (Store.empty true, sessionService)).1 =
        .ok (.executed sessionResult) := by
  obtain ⟨after, hcreates⟩ : ∃ after, (boundRuntime.sessionAdapter.createResource
      (resourceRequest .mutable)).run provider.handle (Store.empty true) =
        (.ok ⟨resource, profile .mutable, true⟩, after) :=
    ⟨_, S3ObjectAdapter.run_createResource_new rfl rfl⟩
  have hrun : (boundRuntime.sessionAdapter.execute (.createResource
      (resourceRequest .mutable))).run provider.handle (Store.empty true) =
        (.ok (.resource ⟨resource, profile .mutable, true⟩), after) := by
    change Program.run _ (Outcome.resource <$> boundRuntime.sessionAdapter.createResource _) _ = _
    rw [Program.run_map, hcreates]
    rfl
  have hinjected : ((boundRuntime.sessionAdapter.execute (.createResource
      (resourceRequest .mutable))).inject : ServiceM Unit CapabilityManifest Outcome).run
        (provider.handle.both Service.handle) (Store.empty true, sessionService) =
          (.ok (.resource ⟨resource, profile .mutable, true⟩), (after, sessionService)) := by
    rw [Program.run_inject, hrun]
  simp only [Demand.program, S3AdapterSession.execute, map_bind]
  have hopen : Service.handle (.requireOpen 0) sessionService = (.ok (), sessionService) := rfl
  have hadapter : Service.handle .adapter sessionService =
      (.ok boundRuntime.sessionAdapter, sessionService) := rfl
  obtain ⟨probe, hprobe, hmanifest⟩ : ∃ probe : AdapterProbe CapabilityManifest,
      Service.handle .probe sessionService = (.ok probe, sessionService) ∧
        probe.manifest = sessionManifest := ⟨_, rfl, rfl⟩
  have hconfig : Service.handle .config sessionService = (.ok boundConfig, sessionService) := rfl
  rw [S3AdapterSession.run_asked hopen, S3AdapterSession.run_asked hadapter,
    Program.run_bind_ok _ _ _ _ _ _ hinjected, S3AdapterSession.run_asked hprobe,
    S3AdapterSession.run_asked hconfig, hmanifest]
  rfl

-- The session's operation, run to its end.
theorem session_returns : ∃ schedule, (sessionSystem.runSchedule
    (provider.handle.both Service.handle) schedule).clients[2]? =
      some (.done (.ok (.executed sessionResult))) := by
  have hnext : (sessionSystem.runSchedule (provider.handle.both Service.handle)
      [(0, none), (1, none)]).clients[2]? = some (Demand.program manifestFields
        (.execute 0 (.createResource (resourceRequest .mutable)))) := by
    rw [session_started]
    rfl
  obtain ⟨executes, hexecutes, -⟩ := System.advance (Program.advances_run
    (provider.handle.both Service.handle) _ _) hnext
  refine ⟨[(0, none), (1, none)] ++ executes, ?_⟩
  rw [System.runSchedule_append, hexecutes, session_started]
  exact congrArg (fun ended => some (Program.done ended)) session_executes

end Standard

section Runs

variable (provider : Provider) (fields : ManifestFields Manifest) (bucket : Bucket) (named : Nat)

theorem deployment_projects (demands : List (Demand Client Manifest))
    (hadapter : runtime.adapter = none) (hprobe : runtime.probe = none) :
    (deployment fields bucket runtime named demands).Projects (RuntimeCall.Among demands)
      (RuntimeCall.Answers demands runtime) (Executed fields demands runtime)
      (fun service => runtime.Holds (fun probe => Probed demands runtime probe.manifest)
        service.place.runtime)
      (operations bucket runtime.sessionAdapter demands) where
  state := rfl
  aside := by
    refine ⟨rfl, rfl, rfl, rfl, rfl, rfl, fun adapter hsome => ?_, fun probe hsome => ?_⟩
    · exact absurd (hadapter.symm.trans hsome) (Option.some_ne_none adapter).symm
    · exact absurd (hprobe.symm.trans hsome) (Option.some_ne_none probe).symm
  clients := by
    apply List.forall₂_map_left_iff.mpr
    apply List.forall₂_map_right_iff.mpr
    apply List.forall₂_same.mpr
    intro demand hdemand
    exact Demand.follows hdemand

variable {factory : S3AdapterFactory} {context : AdapterCreateContext}
  {credentials : S3Credentials}

-- What any run of a created runtime and its sessions does to the bucket, the operations of
-- its adapter do, each at its own turns. Where a session has returned, its operation has.
theorem sessions_refine (hcreate : factory.create context = .ok (runtime, credentials))
    (demands : List (Demand Client Manifest)) (schedule : Schedule Failure) :
    ∃ turns : Schedule Failure, turns.Sublist schedule ∧
      ((deployment fields bucket runtime named demands).runSchedule
          (provider.handle.both Service.handle) schedule).state.1 =
        ((operations bucket runtime.sessionAdapter demands).runSchedule provider.handle
          turns).state ∧
      ∀ (place : Nat) (result : ExecutionResult),
        ((deployment fields bucket runtime named demands).runSchedule
            (provider.handle.both Service.handle) schedule).clients[place]? =
          some (.done (.ok (.executed result))) →
        ((operations bucket runtime.sessionAdapter demands).runSchedule provider.handle
          turns).clients[place]? = some (.done (.ok result.data)) := by
  have hmade := (S3AdapterFactory.create_ok hcreate).made
  obtain ⟨turns, hturns, hprojects⟩ := (deployment_projects fields bucket named demands
    (by rw [hmade]; rfl) (by rw [hmade]; rfl)).runSchedule provider.handle
      (service_keeps demands runtime) schedule
  refine ⟨turns, hturns, hprojects.state, ?_⟩
  intro place result hdone
  obtain ⟨program, hprogram, rfl, -⟩ := hprojects.finished hdone
  exact hprogram

theorem session_refines : ∃ schedule turns : Schedule Failure, turns.Sublist schedule ∧
    (Standard.sessionSystem.runSchedule (Standard.provider.handle.both Service.handle)
      schedule).clients[2]? = some (.done (.ok (.executed Standard.sessionResult))) ∧
    ((operations (Store.empty true) Standard.boundRuntime.sessionAdapter
      Standard.session).runSchedule Standard.provider.handle turns).clients[2]? =
        some (.done (.ok Standard.sessionResult.data)) := by
  obtain ⟨schedule, hdone⟩ := Standard.session_returns
  obtain ⟨turns, hturns, -, hfinished⟩ := sessions_refine Standard.provider
    Standard.manifestFields (Store.empty true) 0 Standard.factory_creates Standard.session schedule
  exact ⟨schedule, turns, hturns, hdone, hfinished 2 _ hdone⟩

-- Where a session has returned, some open had found the bucket as the configuration asks
-- for it, through a client that verifies certificates as the Binding asks for it, and what
-- the result says of the adapter is the manifest of that open.
theorem acknowledged_verified (hcreate : factory.create context = .ok (runtime, credentials))
    (demands : List (Demand Client Manifest)) (schedule : Schedule Failure) (place : Nat)
    (result : ExecutionResult)
    (hdone : ((deployment fields bucket runtime named demands).runSchedule
      (provider.handle.both Service.handle) schedule).clients[place]? =
        some (.done (.ok (.executed result)))) :
    ∃ sdk verify client manifest, Demand.open sdk ∈ demands ∧
      sdk.clientFactory runtime.config verify = .ok client ∧
      (verify = .disabled → runtime.config.allowInsecureHttp = true) ∧
      (context.binding.tlsMode = "server" → ∃ path, verify = .file path) ∧
      sdk.Verified client runtime.config runtime.referenceSigner.isSome manifest ∧
      result.provenance = S3AdapterSession.provenance fields
        runtime.sessionAdapter.adapterVersion runtime.config manifest := by
  obtain ⟨hmade, haccepted, hendpoint, -, parsed, hparsed, hchecked⟩ :=
    S3AdapterFactory.create_ok hcreate
  obtain ⟨turns, hturns, hprojects⟩ := (deployment_projects fields bucket named demands
    (by rw [hmade]; rfl) (by rw [hmade]; rfl)).runSchedule provider.handle
      (service_keeps demands runtime) schedule
  obtain ⟨program, -, -, manifest, ⟨sdk, verify, client, hopen, hverifies, hclient, hverified⟩,
    hprovenance⟩ := hprojects.finished hdone
  have hmode : runtime.tlsMode = context.binding.tlsMode := by rw [hmade]; rfl
  have hmaterial : runtime.tlsCa = context.tlsCa := by rw [hmade]; rfl
  obtain ⟨hdisabled, hserver⟩ := S3AdapterFactory.checkTls_ok hchecked
  refine ⟨sdk, verify, client, manifest, hopen, hclient, ?_, ?_, hverified, hprovenance⟩
  · rintro rfl
    obtain ⟨endpoint, hsome⟩ := Option.ne_none_iff_exists'.mp hendpoint
    rw [hsome] at hparsed
    exact S3Config.checkEndpoint_http (S3Config.postInit_endpoint haccepted).2 hsome hparsed
      (hdisabled (hmode.symm.trans hverifies))
  · intro htls
    have hca := (hserver htls).2
    cases verify with
    | file path => exact ⟨path, rfl⟩
    | disabled =>
        have hoff := (hmode.symm.trans hverifies).symm.trans htls
        exact absurd hoff (by decide)
    | system =>
        have hnone := hverifies.2
        rw [S3AdapterRuntime.caMaterial, if_pos (hmode.trans htls), hmaterial] at hnone
        exact absurd hnone hca

theorem session_verified : ∃ sdk verify client manifest, Demand.open sdk ∈ Standard.session ∧
    sdk.clientFactory Standard.boundConfig verify = .ok client ∧
    (∃ path, verify = .file path) ∧
    sdk.Verified client Standard.boundConfig false manifest ∧
    Standard.sessionResult.provenance = S3AdapterSession.provenance Standard.manifestFields VERSION
      Standard.boundConfig manifest := by
  obtain ⟨schedule, hdone⟩ := Standard.session_returns
  obtain ⟨sdk, verify, client, manifest, hopen, hclient, -, hserver, hverified, hprovenance⟩ :=
    acknowledged_verified Standard.provider Standard.manifestFields (Store.empty true) 0
      Standard.factory_creates Standard.session schedule 2 _ hdone
  exact ⟨sdk, verify, client, manifest, hopen, hclient, hserver rfl, hverified, hprovenance⟩

end Runs

end Deployment

end MeridianS3
