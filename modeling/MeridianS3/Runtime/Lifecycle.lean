import MeridianS3.Runtime
import MeridianS3.Standard.Samples

namespace MeridianS3

open Json

variable {Client Manifest : Type}

inductive LifecycleCall (Client Manifest : Type) where
  | open (around : Surroundings Client Manifest)
  | close (around : Surroundings Client Manifest)

namespace S3AdapterRuntime

def create (common : ObjectCommon) (config : S3Config) (tlsMode : String) (tlsCa : Option Bytes)
    (referenceSigner : Option Value) (signedReferenceAudience : Option String) :
    S3AdapterRuntime Client Manifest :=
  { common, config, tlsMode, tlsCa, referenceSigner, signedReferenceAudience }

-- The CA material that open writes out.
def caMaterial (runtime : S3AdapterRuntime Client Manifest) : Option Bytes :=
  if runtime.tlsMode = "server" then runtime.tlsCa else none

end S3AdapterRuntime

namespace Workplace

variable (place : Workplace Client Manifest)

def prepared : Workplace Client Manifest :=
  match place.runtime.caMaterial with
  | none => place
  | some content =>
      { runtime := { place.runtime with caPath := some place.directory.named }
        directory := place.directory.write content }

def verify : Verify :=
  if place.runtime.tlsMode = "disabled" then .disabled
  else if place.runtime.caMaterial.isSome then .file place.directory.named
  else .system

def holding (client : Client) : Workplace Client Manifest :=
  { place with
    runtime := { place.runtime with
      transport := some client
      adapter := some
        { common := place.runtime.common
          config := place.runtime.config
          referenceSigner := place.runtime.referenceSigner
          signedReferenceAudience := place.runtime.signedReferenceAudience } } }

def opened (probe : AdapterProbe Manifest) : Workplace Client Manifest :=
  { place with runtime := { place.runtime with probe := some probe, isOpen := true } }

def released : Workplace Client Manifest :=
  { place with runtime := { place.runtime with transport := none, adapter := none } }

def closed : Workplace Client Manifest :=
  { place with
    runtime := { place.runtime with
      transport := none
      adapter := none
      probe := none
      isOpen := false } }

def cleaned : Workplace Client Manifest :=
  match place.runtime.caPath with
  | none => place
  | some path =>
      { runtime := { place.runtime with caPath := none }
        directory := place.directory.unlink path }

end Workplace

namespace RuntimeM

variable {α β : Type} (place : Workplace Client Manifest)

def exec (program : RuntimeM Client Manifest α) (place : Workplace Client Manifest) :
    Except Failure α × Workplace Client Manifest :=
  program.run place

@[simp]
theorem exec_pure (value : α) :
    exec (pure value : RuntimeM Client Manifest α) place = (.ok value, place) := rfl

@[simp]
theorem exec_throw (failure : Failure) :
    exec (throw failure : RuntimeM Client Manifest α) place = (.error failure, place) := rfl

@[simp]
theorem exec_get : exec (get : RuntimeM Client Manifest _) place = (.ok place, place) := rfl

@[simp]
theorem exec_modify (change : Workplace Client Manifest → Workplace Client Manifest) :
    exec (modify change : RuntimeM Client Manifest _) place = (.ok ⟨⟩, change place) := rfl

@[simp]
theorem exec_raising (result : Except Failure α) :
    exec (S3AdapterRuntime.raising result : RuntimeM Client Manifest α) place =
      (result, place) := rfl

@[simp]
theorem exec_bind (program : RuntimeM Client Manifest α)
    (next : α → RuntimeM Client Manifest β) :
    exec (program >>= next) place =
      match exec program place with
      | (.ok value, reached) => exec (next value) reached
      | (.error failure, reached) => (.error failure, reached) := by
  change ExceptT.bindCont next (exec program place).1 (exec program place).2 = _
  obtain ⟨value | failure, reached⟩ := exec program place
  · rfl
  · rfl

@[simp]
theorem exec_map (change : α → β) (program : RuntimeM Client Manifest α) :
    exec (change <$> program) place =
      ((exec program place).1.map change, (exec program place).2) := by
  rw [map_eq_pure_bind, exec_bind]
  obtain ⟨value | failure, reached⟩ := exec program place
  · rfl
  · rfl

@[simp]
theorem exec_tryCatch (program : RuntimeM Client Manifest α)
    (handler : Failure → RuntimeM Client Manifest α) :
    exec (tryCatch program handler) place =
      match exec program place with
      | (.ok value, reached) => (.ok value, reached)
      | (.error failure, reached) => exec (handler failure) reached := by
  change (ExceptT.tryCatch program handler).run.run place = _
  simp only [ExceptT.tryCatch]
  change StateT.run (program.run >>= _) place = _
  rw [StateT.run_bind, show program.run.run place = exec program place from rfl]
  obtain ⟨value | failure, reached⟩ := exec program place
  · rfl
  · rfl

end RuntimeM

namespace S3AdapterRuntime

open Workplace RuntimeM

@[simp]
theorem exec_assign
    (change : S3AdapterRuntime Client Manifest → S3AdapterRuntime Client Manifest)
    (place : Workplace Client Manifest) :
    exec (assign change) place = (.ok (), { place with runtime := change place.runtime }) := rfl

theorem verifyArgument_run (place : Workplace Client Manifest) :
    exec verifyArgument place = (.ok place.verify, place.prepared) := by
  cases hd : decide (place.runtime.tlsMode = "disabled") <;>
    cases hs : decide (place.runtime.tlsMode = "server") <;>
    cases hc : place.runtime.tlsCa <;>
    simp_all [verifyArgument, Workplace.verify, prepared, caMaterial, writeCa, Except.map]

theorem cleanupCa_run (place : Workplace Client Manifest) :
    exec cleanupCa place = (.ok (), place.cleaned) := by
  cases hc : place.runtime.caPath <;>
    simp [cleanupCa, cleaned, hc]

theorem open_again (around : Surroundings Client Manifest) (place : Workplace Client Manifest)
    (hopen : place.runtime.isOpen = true) : exec («open» around) place = (.ok (), place) := by
  simp [«open», hopen]

theorem open_without_client (around : Surroundings Client Manifest)
    (place : Workplace Client Manifest) (failure : Failure)
    (hclosed : place.runtime.isOpen = false)
    (hclient : around.clientFactory place.runtime.config place.verify = .error failure) :
    exec («open» around) place = (.error failure, place.prepared) := by
  simp [«open», hclosed, verifyArgument_run, hclient]

theorem open_probed (around : Surroundings Client Manifest) (place : Workplace Client Manifest)
    (client : Client) (probed : AdapterProbe Manifest × S3ProbeEvidence)
    (hclosed : place.runtime.isOpen = false)
    (hclient : around.clientFactory place.runtime.config place.verify = .ok client)
    (hprobe : healthProbe around client place.runtime.config
      place.runtime.referenceSigner.isSome = .ok probed) :
    exec («open» around) place =
      (.ok (), ((place.prepared.holding client).opened probed.1)) := by
  simp [«open», hclosed, verifyArgument_run, hclient, hprobe]
  rfl

theorem open_not_probed (around : Surroundings Client Manifest)
    (place : Workplace Client Manifest) (client : Client) (failure : Failure)
    (hclosed : place.runtime.isOpen = false)
    (hclient : around.clientFactory place.runtime.config place.verify = .ok client)
    (hprobe : healthProbe around client place.runtime.config
      place.runtime.referenceSigner.isSome = .error failure)
    (hclose : around.close client = .ok ()) :
    exec («open» around) place =
      (.error failure, (place.prepared.holding client).released.cleaned) := by
  simp [«open», hclosed, verifyArgument_run, hclient, hprobe, hclose, cleanupCa_run]
  rfl

theorem open_not_released (around : Surroundings Client Manifest)
    (place : Workplace Client Manifest) (client : Client) (failure raised : Failure)
    (hclosed : place.runtime.isOpen = false)
    (hclient : around.clientFactory place.runtime.config place.verify = .ok client)
    (hprobe : healthProbe around client place.runtime.config
      place.runtime.referenceSigner.isSome = .error failure)
    (hclose : around.close client = .error raised) :
    exec («open» around) place = (.error raised, place.prepared.holding client) := by
  simp [«open», hclosed, verifyArgument_run, hclient, hprobe, hclose]
  rfl

theorem close_run (around : Surroundings Client Manifest) (place : Workplace Client Manifest)
    (hclose : ∀ client, place.runtime.transport = some client → around.close client = .ok ()) :
    exec (close around) place = (.ok (), place.closed.cleaned) := by
  cases ht : place.runtime.transport with
  | none =>
      simp [close, ht, cleanupCa_run]
      rfl
  | some client =>
      simp [close, ht, hclose client ht, cleanupCa_run]
      rfl

theorem close_raised (around : Surroundings Client Manifest) (place : Workplace Client Manifest)
    (client : Client) (failure : Failure) (htransport : place.runtime.transport = some client)
    (hclose : around.close client = .error failure) :
    exec (close around) place = (.error failure, place) := by
  simp [close, htransport, hclose]

end S3AdapterRuntime

namespace S3AdapterRuntime

theorem openSession_closed (runtime : S3AdapterRuntime Client Manifest) (transactional : Bool)
    (hclosed : runtime.isOpen = false) :
    runtime.openSession transactional = .error notOpen := by
  simp only [openSession, hclosed, Bool.false_eq_true, not_false_eq_true, if_true]
  rfl

theorem openSession_open (runtime : S3AdapterRuntime Client Manifest) (transactional : Bool)
    (hopen : runtime.isOpen = true) :
    runtime.openSession transactional =
      if transactional then
        .error (.meridian (.other "ObjectCapabilityMismatch")
          (some "S3 Object Operations are not transactional"))
      else .ok { runtime := runtime } := by
  cases transactional
  · simp only [openSession, hopen, not_true_eq_false, if_false, Bool.false_eq_true]
    rfl
  · simp only [openSession, hopen, not_true_eq_false, if_false, if_true]
    rfl

end S3AdapterRuntime

def LifecycleCall.program : LifecycleCall Client Manifest → RuntimeM Client Manifest Unit
  | .open around => S3AdapterRuntime.«open» around
  | .close around => S3AdapterRuntime.close around

-- A runtime after some calls. It is opened when the last open succeeded and no close was
-- called since.
structure Lifecycle (Client Manifest : Type) where
  place : Workplace Client Manifest
  opened : Bool

namespace Lifecycle

def call (life : Lifecycle Client Manifest) (asked : LifecycleCall Client Manifest) :
    Lifecycle Client Manifest where
  place := (asked.program.exec life.place).2
  opened :=
    match asked with
    | .open _ => (asked.program.exec life.place).1.isOk
    | .close _ => false

-- What is left after each call.
def states (life : Lifecycle Client Manifest) :
    List (LifecycleCall Client Manifest) → List (Lifecycle Client Manifest)
  | [] => []
  | asked :: rest => life.call asked :: (life.call asked).states rest

structure LeavesNothing (life : Lifecycle Client Manifest) : Prop where
  session : ∀ transactional,
    life.place.runtime.openSession transactional ≠ .error S3AdapterRuntime.notOpen ↔
      life.opened = true
  probe : life.place.runtime.adapterProbe ≠ .error S3AdapterRuntime.notOpen ↔
    life.opened = true
  physical : life.place.runtime.physicalClient ≠ .error S3AdapterRuntime.notOpen ↔
    life.opened = true
  single : life.place.directory.files.length ≤ 1
  removed : life.place.runtime.isOpen = false → life.place.directory.files = []

end Lifecycle

-- An open that writes CA material gets its client, and when the health probe raises the
-- client closes. A close of an open runtime finds a client that closes.
def LifecycleCall.Covered (place : Workplace Client Manifest) :
    LifecycleCall Client Manifest → Prop
  | .open around =>
      place.runtime.isOpen = true ∨ place.runtime.caMaterial = none ∨
        ∃ client, around.clientFactory place.runtime.config place.verify = .ok client ∧
          ((healthProbe around client place.runtime.config
              place.runtime.referenceSigner.isSome).isOk = true ∨
            around.close client = .ok ())
  | .close around =>
      place.runtime.isOpen = true → ∀ client, place.runtime.transport = some client →
        around.close client = .ok ()

namespace Lifecycle

def Covered : Lifecycle Client Manifest → List (LifecycleCall Client Manifest) → Prop
  | _, [] => True
  | life, asked :: rest => asked.Covered life.place ∧ (life.call asked).Covered rest

-- What covered calls keep.
structure Orderly (life : Lifecycle Client Manifest) : Prop where
  told : life.opened = life.place.runtime.isOpen
  ready : life.place.runtime.isOpen = true →
    life.place.runtime.transport.isSome = true ∧ life.place.runtime.probe.isSome = true
  filed : life.place.runtime.isOpen = true →
    life.place.directory.files.map CaFile.path = life.place.runtime.caPath.toList
  emptied : life.place.runtime.isOpen = false →
    life.place.directory.files = [] ∧ life.place.runtime.caPath = none
  dropped : life.place.runtime.isOpen = false → life.place.runtime.caMaterial ≠ none →
    life.place.runtime.transport = none

theorem Orderly.leaves_nothing {life : Lifecycle Client Manifest} (orderly : life.Orderly) :
    life.LeavesNothing := by
  have hready := orderly.ready
  cases ho : life.place.runtime.isOpen with
  | false =>
      have told := orderly.told
      rw [ho] at told
      constructor
      · intro transactional
        simp [S3AdapterRuntime.openSession_closed _ transactional ho, told]
      · simp [S3AdapterRuntime.adapterProbe, ho, told]
      · simp [S3AdapterRuntime.physicalClient, ho, told]
      · rw [(orderly.emptied ho).1]
        exact Nat.zero_le 1
      · intro _
        exact (orderly.emptied ho).1
  | true =>
      have told := orderly.told
      rw [ho] at told
      obtain ⟨htransport, hprobe⟩ := hready ho
      obtain ⟨client, hclient⟩ := Option.isSome_iff_exists.mp htransport
      obtain ⟨probe, hprobe⟩ := Option.isSome_iff_exists.mp hprobe
      constructor
      · intro transactional
        rw [S3AdapterRuntime.openSession_open _ transactional ho]
        cases transactional <;> simp [S3AdapterRuntime.notOpen, Failure.meridian, told]
      · simp [S3AdapterRuntime.adapterProbe, ho, told, hprobe]
      · simp [S3AdapterRuntime.physicalClient, ho, told, hclient]
      · have hfiled := congrArg List.length (orderly.filed ho)
        rw [List.length_map] at hfiled
        rw [hfiled]
        cases life.place.runtime.caPath <;> simp
      · intro hclosed
        rw [ho] at hclosed
        cases hclosed

theorem call_open (life : Lifecycle Client Manifest) (around : Surroundings Client Manifest)
    {result : Except Failure Unit} {reached : Workplace Client Manifest}
    (hrun : (S3AdapterRuntime.«open» around).exec life.place = (result, reached)) :
    life.call (.open around) = ⟨reached, result.isOk⟩ := by
  simp [call, LifecycleCall.program, hrun]

theorem call_close (life : Lifecycle Client Manifest) (around : Surroundings Client Manifest)
    {result : Except Failure Unit} {reached : Workplace Client Manifest}
    (hrun : (S3AdapterRuntime.close around).exec life.place = (result, reached)) :
    life.call (.close around) = ⟨reached, false⟩ := by
  simp [call, LifecycleCall.program, hrun]

-- An open runtime has its client and its probe, and the file that it wrote.
theorem orderly_opened (place : Workplace Client Manifest) (client : Client)
    (probe : AdapterProbe Manifest) (hfiles : place.directory.files = [])
    (hpath : place.runtime.caPath = none) :
    Orderly ⟨(place.prepared.holding client).opened probe, true⟩ := by
  constructor
  · rfl
  · intro _
    exact ⟨rfl, rfl⟩
  · intro _
    cases hm : place.runtime.caMaterial with
    | none => simp [Workplace.opened, Workplace.holding, Workplace.prepared, hm, hfiles, hpath]
    | some content =>
        simp [Workplace.opened, Workplace.holding, Workplace.prepared, hm,
          TemporaryDirectory.write, hfiles]
  · intro hclosed
    cases hclosed
  · intro hclosed
    cases hclosed

theorem orderly_released (place : Workplace Client Manifest) (client : Client)
    (hclosed : place.runtime.isOpen = false) (hfiles : place.directory.files = [])
    (hpath : place.runtime.caPath = none) :
    Orderly ⟨(place.prepared.holding client).released.cleaned, false⟩ := by
  cases hm : place.runtime.caMaterial with
  | none =>
      constructor <;>
        simp [Workplace.cleaned, Workplace.released, Workplace.holding, Workplace.prepared, hm,
          hfiles, hpath, hclosed]
  | some content =>
      constructor <;>
        simp [Workplace.cleaned, Workplace.released, Workplace.holding, Workplace.prepared, hm,
          TemporaryDirectory.write, TemporaryDirectory.unlink, hfiles, hclosed]

-- Without CA material a client may be left behind, but no file.
theorem orderly_held (place : Workplace Client Manifest) (client : Client)
    (hmaterial : place.runtime.caMaterial = none) (hclosed : place.runtime.isOpen = false)
    (hfiles : place.directory.files = []) (hpath : place.runtime.caPath = none) :
    Orderly ⟨place.prepared.holding client, false⟩ := by
  have hprepared : place.prepared = place := by
    simp [Workplace.prepared, hmaterial]
  rw [hprepared]
  constructor
  · exact hclosed.symm
  · intro hopen
    exact absurd (hclosed.symm.trans hopen) Bool.false_ne_true
  · intro hopen
    exact absurd (hclosed.symm.trans hopen) Bool.false_ne_true
  · intro _
    exact ⟨hfiles, hpath⟩
  · intro _ hsome
    exact absurd hmaterial hsome

theorem orderly_open (life : Lifecycle Client Manifest) (around : Surroundings Client Manifest)
    (orderly : life.Orderly) (covered : (LifecycleCall.open around).Covered life.place) :
    (life.call (.open around)).Orderly := by
  cases ho : life.place.runtime.isOpen with
  | true =>
      rw [call_open life around (S3AdapterRuntime.open_again around life.place ho)]
      exact { orderly with told := ho.symm }
  | false =>
      obtain ⟨hfiles, hpath⟩ := orderly.emptied ho
      cases hclient : around.clientFactory life.place.runtime.config life.place.verify with
      | error failure =>
          rw [call_open life around
            (S3AdapterRuntime.open_without_client around life.place failure ho hclient)]
          obtain hopen | hmaterial | ⟨client, hmade, _⟩ := covered
          · exact absurd (ho.symm.trans hopen) Bool.false_ne_true
          · rw [show life.place.prepared = life.place by simp [Workplace.prepared, hmaterial]]
            exact { orderly with told := ho.symm }
          · rw [hclient] at hmade
            cases hmade
      | ok client =>
          cases hprobe : healthProbe around client life.place.runtime.config
              life.place.runtime.referenceSigner.isSome with
          | ok probed =>
              rw [call_open life around
                (S3AdapterRuntime.open_probed around life.place client probed ho hclient hprobe)]
              exact orderly_opened life.place client probed.1 hfiles hpath
          | error failure =>
              cases hclose : around.close client with
              | ok _ =>
                  rw [call_open life around (S3AdapterRuntime.open_not_probed around life.place
                    client failure ho hclient hprobe hclose)]
                  exact orderly_released life.place client ho hfiles hpath
              | error raised =>
                  rw [call_open life around (S3AdapterRuntime.open_not_released around life.place
                    client failure raised ho hclient hprobe hclose)]
                  obtain hopen | hmaterial | ⟨made, hmade, hdone⟩ := covered
                  · exact absurd (ho.symm.trans hopen) Bool.false_ne_true
                  · exact orderly_held life.place client hmaterial ho hfiles hpath
                  · obtain rfl : client = made := Except.ok.inj (hclient.symm.trans hmade)
                    obtain hprobed | hclosed := hdone
                    · rw [hprobe] at hprobed
                      cases hprobed
                    · rw [hclose] at hclosed
                      cases hclosed

-- A file that open wrote stays behind when the call ends without opening.
theorem uncovered_open (life : Lifecycle Client Manifest)
    (around : Surroundings Client Manifest)
    (uncovered : ¬(LifecycleCall.open around).Covered life.place) :
    ¬(life.call (.open around)).LeavesNothing := by
  intro leaves
  obtain ⟨hopen, hrest⟩ := not_or.mp uncovered
  obtain ⟨hmaterial, hnone⟩ := not_or.mp hrest
  have ho : life.place.runtime.isOpen = false := Bool.eq_false_iff.mpr hopen
  obtain ⟨content, hcontent⟩ := Option.ne_none_iff_exists'.mp hmaterial
  have hfiles : life.place.prepared.directory.files ≠ [] := by
    simp [Workplace.prepared, hcontent, TemporaryDirectory.write]
  have hclosed : life.place.prepared.runtime.isOpen = false := by
    simp [Workplace.prepared, hcontent, ho]
  cases hclient : around.clientFactory life.place.runtime.config life.place.verify with
  | error failure =>
      rw [call_open life around
        (S3AdapterRuntime.open_without_client around life.place failure ho hclient)] at leaves
      exact hfiles (leaves.removed hclosed)
  | ok client =>
      have hfailed : ¬((healthProbe around client life.place.runtime.config
            life.place.runtime.referenceSigner.isSome).isOk = true ∨
          around.close client = .ok ()) := by
        intro hdone
        exact hnone ⟨client, hclient, hdone⟩
      obtain ⟨hprobed, hclosing⟩ := not_or.mp hfailed
      cases hprobe : healthProbe around client life.place.runtime.config
          life.place.runtime.referenceSigner.isSome with
      | ok probed =>
          rw [hprobe] at hprobed
          exact hprobed rfl
      | error failure =>
          cases hclose : around.close client with
          | ok _ => exact hclosing hclose
          | error raised =>
              rw [call_open life around (S3AdapterRuntime.open_not_released around life.place
                client failure raised ho hclient hprobe hclose)] at leaves
              exact hfiles (leaves.removed hclosed)

theorem orderly_closed (life : Lifecycle Client Manifest) (orderly : life.Orderly) :
    Orderly ⟨life.place.closed.cleaned, false⟩ := by
  have hfiles : life.place.closed.cleaned.directory.files = [] := by
    cases ho : life.place.runtime.isOpen with
    | false =>
        obtain ⟨hfiles, hpath⟩ := orderly.emptied ho
        simp [Workplace.cleaned, Workplace.closed, hpath, hfiles]
    | true =>
        have hfiled := orderly.filed ho
        cases hpath : life.place.runtime.caPath with
        | none =>
            rw [hpath] at hfiled
            simpa [Workplace.cleaned, Workplace.closed, hpath] using hfiled
        | some path =>
            rw [hpath] at hfiled
            simp only [Workplace.cleaned, Workplace.closed, hpath, TemporaryDirectory.unlink]
            apply List.filter_eq_nil_iff.mpr
            intro file hfile
            have hmem := List.mem_map_of_mem (f := CaFile.path) hfile
            rw [hfiled] at hmem
            simpa using hmem
  have hpath : life.place.closed.cleaned.runtime.caPath = none := by
    cases hpath : life.place.runtime.caPath <;> simp [Workplace.cleaned, Workplace.closed, hpath]
  have hclosed : life.place.closed.cleaned.runtime.isOpen = false := by
    cases hpath : life.place.runtime.caPath <;> simp [Workplace.cleaned, Workplace.closed, hpath]
  have htransport : life.place.closed.cleaned.runtime.transport = none := by
    cases hpath : life.place.runtime.caPath <;> simp [Workplace.cleaned, Workplace.closed, hpath]
  constructor
  · exact hclosed.symm
  · intro hopen
    exact absurd (hclosed.symm.trans hopen) Bool.false_ne_true
  · intro hopen
    exact absurd (hclosed.symm.trans hopen) Bool.false_ne_true
  · intro _
    exact ⟨hfiles, hpath⟩
  · intro _ _
    exact htransport

theorem orderly_close (life : Lifecycle Client Manifest)
    (around : Surroundings Client Manifest) (orderly : life.Orderly)
    (covered : (LifecycleCall.close around).Covered life.place) :
    (life.call (.close around)).Orderly := by
  by_cases hclose : ∀ client, life.place.runtime.transport = some client →
      around.close client = .ok ()
  · rw [call_close life around (S3AdapterRuntime.close_run around life.place hclose)]
    exact orderly_closed life orderly
  · push Not at hclose
    obtain ⟨client, htransport, hraised⟩ := hclose
    have ho : life.place.runtime.isOpen = false := by
      cases hopen : life.place.runtime.isOpen with
      | false => rfl
      | true => exact absurd (covered hopen client htransport) hraised
    cases hfailed : around.close client with
    | ok _ => exact absurd hfailed hraised
    | error failure =>
        rw [call_close life around
          (S3AdapterRuntime.close_raised around life.place client failure htransport hfailed)]
        exact { orderly with told := ho.symm }

-- The runtime still works after its close raised.
theorem uncovered_close (life : Lifecycle Client Manifest)
    (around : Surroundings Client Manifest)
    (uncovered : ¬(LifecycleCall.close around).Covered life.place) :
    ¬(life.call (.close around)).LeavesNothing := by
  intro leaves
  simp only [LifecycleCall.Covered, not_forall] at uncovered
  obtain ⟨hopen, client, htransport, hraised⟩ := uncovered
  cases hfailed : around.close client with
  | ok _ => exact hraised hfailed
  | error failure =>
      rw [call_close life around
        (S3AdapterRuntime.close_raised around life.place client failure htransport hfailed)]
        at leaves
      have hpasses := leaves.physical.mp (by
        simp [S3AdapterRuntime.physicalClient, hopen, htransport])
      cases hpasses

theorem orderly_call (life : Lifecycle Client Manifest) (asked : LifecycleCall Client Manifest)
    (orderly : life.Orderly) (covered : asked.Covered life.place) :
    (life.call asked).Orderly := by
  cases asked with
  | «open» around => exact orderly_open life around orderly covered
  | close around => exact orderly_close life around orderly covered

theorem uncovered_call (life : Lifecycle Client Manifest)
    (asked : LifecycleCall Client Manifest) (uncovered : ¬asked.Covered life.place) :
    ¬(life.call asked).LeavesNothing := by
  cases asked with
  | «open» around => exact uncovered_open life around uncovered
  | close around => exact uncovered_close life around uncovered

theorem states_leave_nothing (life : Lifecycle Client Manifest)
    (calls : List (LifecycleCall Client Manifest)) (orderly : life.Orderly) :
    (∀ reached ∈ life.states calls, reached.LeavesNothing) ↔ life.Covered calls := by
  induction calls generalizing life with
  | nil =>
      simp only [states, List.not_mem_nil, false_implies, implies_true, Covered]
  | cons asked rest ih =>
      simp only [states, List.forall_mem_cons, Covered]
      by_cases covered : asked.Covered life.place
      · have hcall := orderly_call life asked orderly covered
        rw [ih (life.call asked) hcall]
        exact and_congr_left' ⟨fun _ => covered, fun _ => hcall.leaves_nothing⟩
      · have hcall := uncovered_call life asked covered
        exact ⟨fun both => absurd both.1 hcall, fun both => absurd both.1 covered⟩

def fresh (runtime : S3AdapterRuntime Client Manifest) (named : Nat) :
    Lifecycle Client Manifest :=
  ⟨⟨runtime, ⟨[], named⟩⟩, false⟩

end Lifecycle

-- A failing open or close leaves the file or the open runtime behind in no other case.
theorem lifecycle_leaves_nothing_iff (common : ObjectCommon) (config : S3Config)
    (tlsMode : String) (tlsCa : Option Bytes) (referenceSigner : Option Value)
    (signedReferenceAudience : Option String) (named : Nat)
    (calls : List (LifecycleCall Client Manifest)) :
    (∀ reached ∈ (Lifecycle.fresh (.create common config tlsMode tlsCa referenceSigner
        signedReferenceAudience) named).states calls, reached.LeavesNothing) ↔
      (Lifecycle.fresh (.create common config tlsMode tlsCa referenceSigner
        signedReferenceAudience) named).Covered calls := by
  apply Lifecycle.states_leave_nothing
  constructor
  · rfl
  · intro hopen
    cases hopen
  · intro hopen
    cases hopen
  · intro _
    exact ⟨rfl, rfl⟩
  · intro _ _
    rfl

namespace Standard

-- An SPI that takes what it is given, with all packages installed.
def spi : Spi CapabilityManifest where
  operationVersion := "1.0.0"
  version _ := .ok "1.0.0"
  operationCapability _ := .ok ()
  adapterDescriptor _ := .ok ()
  capabilityManifest := .ok

def surroundings (client : Except Failure Unit) : Surroundings Unit CapabilityManifest where
  clientFactory _ _ := client
  headBucket _ := .ok ()
  versioningStatus _ := .ok "Disabled"
  objectLockEnabled _ := .ok false
  spi := spi
  close _ := .ok ()

def privateRuntime : S3AdapterRuntime Unit CapabilityManifest :=
  .create common { config with endpointUrl := some "https://s3.example.test" } "server"
    (some (ObjectCommon.encodeUtf8 "test-ca-material")) none none

end Standard

-- The client factory raises outside of the guarded part of open.
theorem factory_failure_keeps_file :
    ¬∀ reached ∈ (Lifecycle.fresh Standard.privateRuntime 0).states
        [.open (Standard.surroundings (.error ⟨.sdk .endpointConnection, none⟩))],
      reached.LeavesNothing := by
  intro leaves
  have hfirst := leaves _ (List.mem_singleton.mpr rfl)
  apply Lifecycle.uncovered_open _ _ _ hfirst
  rintro (hopen | hmaterial | ⟨client, hclient, _⟩)
  · cases hopen
  · have hsome : Standard.privateRuntime.caMaterial =
        some (ObjectCommon.encodeUtf8 "test-ca-material") := rfl
    rw [show (Lifecycle.fresh Standard.privateRuntime 0).place.runtime =
      Standard.privateRuntime from rfl, hsome] at hmaterial
    cases hmaterial
  · cases hclient

end MeridianS3
