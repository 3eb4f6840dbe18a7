import MeridianS3.Config.Theorems
import MeridianS3.Runtime.Session

namespace MeridianS3

open Effect Json

variable {Client Manifest : Type}

-- The payload registry and the client factory are not seen here: a runtime is given the
-- client when it is opened. A signer comes with its audience.
structure S3AdapterFactory where
  common : ObjectCommon
  urlsplit : String → Except Failure SplitResult
  referenceSigner : Option Value
  signedReferenceAudience : Option String
  paired : referenceSigner.isSome = signedReferenceAudience.isSome

namespace S3AdapterFactory

def init (common : ObjectCommon) (urlsplit : String → Except Failure SplitResult)
    (referenceSigner : Option Value) (signedReferenceAudience : Option String) :
    Except Failure S3AdapterFactory :=
  if h : referenceSigner.isSome = signedReferenceAudience.isSome then
    .ok ⟨common, urlsplit, referenceSigner, signedReferenceAudience, h⟩
  else .error ⟨.valueError "signed reference signer and audience must be configured together", none⟩

variable (factory : S3AdapterFactory)

def refused {α : Type} (message : String) : Except Failure α :=
  .error (.meridian .objectInvalidRequest (some message))

def checkTls (tlsMode scheme : String) (tlsCa : Option Bytes) : Except Failure Unit :=
  if tlsMode = "disabled" ∧ scheme ≠ "http" then
    refused "disabled TLS requires an explicit HTTP S3 endpoint"
  else if tlsMode = "server" ∧ scheme ≠ "https" then
    refused "server TLS requires an HTTPS S3 endpoint"
  else if tlsMode = "server" ∧ tlsCa = none then
    refused "server TLS binding requires resolved CA material"
  else .ok ()

-- A runtime keeps the credentials for its client.
def create (context : AdapterCreateContext) :
    Except Failure (S3AdapterRuntime Client Manifest × S3Credentials) := do
  let config ← S3Config.fromCreateContext factory.urlsplit context
  let credentials ← S3Credentials.fromSecrets factory.common.jsonLoads context.identity
    context.credential
  if context.binding.tlsMode = "mutual" then
    throw (.meridian .objectInvalidRequest
      (some "the boto3 S3 transport does not support mutual TLS identity"))
  let parsed ← factory.urlsplit (config.endpointUrl.getD "")
  checkTls context.binding.tlsMode parsed.scheme context.tlsCa
  return (.create factory.common config context.binding.tlsMode context.tlsCa
    factory.referenceSigner factory.signedReferenceAudience, credentials)

end S3AdapterFactory

namespace S3Config

variable {urlsplit : String → Except Failure SplitResult} {config raw : S3Config}

theorem ofBinding_endpoint {binding : BindingConfig} (h : ofBinding binding = .ok raw) :
    raw.endpointUrl = binding.endpoint := by
  obtain ⟨_, _, h⟩ := bind_ok h
  obtain ⟨_, _, h⟩ := bind_ok h
  obtain ⟨_, _, h⟩ := bind_ok h
  obtain ⟨_, _, h⟩ := bind_ok h
  obtain ⟨_, _, h⟩ := bind_ok h
  obtain ⟨_, _, h⟩ := bind_ok h
  obtain ⟨_, _, h⟩ := bind_ok h
  obtain ⟨_, _, h⟩ := bind_ok h
  obtain ⟨_, _, h⟩ := bind_ok h
  obtain ⟨_, _, h⟩ := bind_ok h
  obtain ⟨_, _, h⟩ := bind_ok h
  obtain ⟨_, _, h⟩ := bind_ok h
  obtain ⟨_, _, h⟩ := bind_ok h
  rw [← Except.ok.inj h]

theorem postInit_endpoint (h : raw.postInit urlsplit = .ok config) :
    config.endpointUrl = raw.endpointUrl ∧ checkEndpoint urlsplit config = .ok () := by
  obtain ⟨_, _, h⟩ := bind_ok h
  obtain ⟨_, _, h⟩ := bind_ok h
  obtain ⟨_, hendpoint, h⟩ := bind_ok h
  obtain ⟨_, _, h⟩ := bind_ok h
  obtain ⟨_, _, h⟩ := bind_ok h
  obtain ⟨_, _, h⟩ := bind_ok h
  obtain ⟨_, _, h⟩ := bind_ok h
  obtain rfl := Except.ok.inj h
  exact ⟨rfl, hendpoint⟩

-- A configuration from a Binding is an accepted one, with the Binding's endpoint.
theorem fromCreateContext_ok {context : AdapterCreateContext}
    (h : fromCreateContext urlsplit context = .ok config) :
    config.postInit urlsplit = .ok config ∧ config.endpointUrl ≠ none := by
  obtain ⟨_, hchecked, h⟩ := bind_ok h
  obtain ⟨raw, hraw, h⟩ := bind_ok h
  refine ⟨postInit_again h, ?_⟩
  rw [(postInit_endpoint h).1, ofBinding_endpoint hraw]
  unfold checkBinding at hchecked
  obtain ⟨-, hchecked⟩ := guard_passed hchecked
  obtain ⟨hendpoint, -⟩ := guard_passed hchecked
  exact hendpoint

-- A plain HTTP endpoint has been allowed.
theorem checkEndpoint_http {endpoint : String} {parsed : SplitResult}
    (h : checkEndpoint urlsplit config = .ok ()) (hendpoint : config.endpointUrl = some endpoint)
    (hparsed : urlsplit endpoint = .ok parsed) (hscheme : parsed.scheme = "http") :
    config.allowInsecureHttp = true := by
  simp only [checkEndpoint, hendpoint] at h
  obtain ⟨found, hfound, h⟩ := bind_ok h
  obtain rfl := Except.ok.inj (hparsed.symm.trans hfound)
  obtain ⟨-, h⟩ := guard_passed h
  split at h
  · cases h
  · rename_i hallowed
    by_contra hne
    exact hallowed ⟨hscheme, hne⟩

end S3Config

namespace Standard

def endpoint : String := "https://s3.example.test"

-- The origin of the samples is the only one that is split here.
def splitOrigin (text : String) : Except Failure SplitResult :=
  if text = endpoint then .ok ⟨"https", some "s3.example.test", none, none, "", "", ""⟩
  else noSplit text

def factory : S3AdapterFactory := ⟨common, splitOrigin, none, none, rfl⟩

def credentials : S3Credentials := ⟨"access", "secret", none, by decide, by decide, by simp⟩

-- A Binding that leaves most of its settings to their defaults.
def context : AdapterCreateContext where
  binding :=
    { adapterId := "s3"
      endpoint := some endpoint
      physicalNamespace := "/meridian-test-bucket/tests/"
      settings := .obj [("requireVersioning", .bool true)]
      engineProfile := "s3-compatible"
      engineVersion := "2006-03-01"
      tlsMode := "server" }
  identity := Codec.encodeChars "access".toList
  credential := Codec.encodeChars "secret".toList
  tlsCa := some (ObjectCommon.encodeUtf8 "test-ca-material")

def boundConfig : S3Config where
  bucket := "meridian-test-bucket"
  keyPrefix := "tests"
  endpointUrl := some endpoint
  requireVersioning := true

def boundRuntime : S3AdapterRuntime Unit CapabilityManifest :=
  .create common boundConfig "server" context.tlsCa none none

theorem context_config : S3Config.fromCreateContext splitOrigin context = .ok boundConfig := by
  decide

theorem context_credentials :
    S3Credentials.fromSecrets jsonLoads context.identity context.credential = .ok credentials := by
  have hkey : Codec.decodeChars context.identity = some "access".toList :=
    Codec.decodeChars_encodeChars _
  have hsecret : Codec.decodeChars context.credential = some "secret".toList :=
    Codec.decodeChars_encodeChars _
  have hplain : ¬S3Credentials.isDocument "secret".toList = true := by decide
  rw [S3Credentials.fromSecrets, hkey, hsecret]
  dsimp only
  rw [if_neg hplain, String.ofList_toList, String.ofList_toList]
  exact credentials.postInit_self

theorem factory_creates : factory.create context = .ok (boundRuntime, credentials) := by
  have hsplit : splitOrigin endpoint =
      .ok ⟨"https", some "s3.example.test", none, none, "", "", ""⟩ :=
    if_pos rfl
  refine (ok_bind context_config).trans ?_
  refine (ok_bind context_credentials).trans ?_
  refine (guard_passes (by decide)).trans ?_
  refine (ok_bind hsplit).trans ?_
  rfl

end Standard

namespace S3AdapterFactory

variable {factory : S3AdapterFactory} {context : AdapterCreateContext}
  {runtime : S3AdapterRuntime Client Manifest} {credentials : S3Credentials}

theorem checkTls_ok {tlsMode scheme : String} {tlsCa : Option Bytes}
    (h : checkTls tlsMode scheme tlsCa = .ok ()) :
    (tlsMode = "disabled" → scheme = "http") ∧
      (tlsMode = "server" → scheme = "https" ∧ tlsCa ≠ none) := by
  unfold checkTls at h
  split at h
  · cases h
  rename_i hdisabled
  split at h
  · cases h
  rename_i hserver
  split at h
  · cases h
  rename_i hmaterial
  refine ⟨fun hmode => ?_, fun hmode => ⟨?_, fun hnone => hmaterial ⟨hmode, hnone⟩⟩⟩
  · by_contra hne
    exact hdisabled ⟨hmode, hne⟩
  · by_contra hne
    exact hserver ⟨hmode, hne⟩

-- What a create that returned has found.
structure Creates (factory : S3AdapterFactory) (context : AdapterCreateContext)
    (runtime : S3AdapterRuntime Client Manifest) (credentials : S3Credentials) : Prop where
  made : runtime = .create factory.common runtime.config context.binding.tlsMode context.tlsCa
    factory.referenceSigner factory.signedReferenceAudience
  accepted : runtime.config.postInit factory.urlsplit = .ok runtime.config
  endpoint : runtime.config.endpointUrl ≠ none
  single : context.binding.tlsMode ≠ "mutual"
  checked : ∃ parsed, factory.urlsplit (runtime.config.endpointUrl.getD "") = .ok parsed ∧
    checkTls context.binding.tlsMode parsed.scheme context.tlsCa = .ok ()

theorem create_ok (h : factory.create context = .ok (runtime, credentials)) :
    factory.Creates context runtime credentials := by
  obtain ⟨config, hconfig, h⟩ := bind_ok h
  obtain ⟨found, _, h⟩ := bind_ok h
  obtain ⟨hsingle, h⟩ := guard_passed h
  obtain ⟨parsed, hparsed, h⟩ := bind_ok h
  obtain ⟨_, hchecked, h⟩ := bind_ok h
  obtain ⟨rfl, rfl⟩ := Prod.mk.inj (Except.ok.inj h)
  obtain ⟨haccepted, hendpoint⟩ := S3Config.fromCreateContext_ok hconfig
  exact ⟨rfl, haccepted, hendpoint, hsingle, parsed, hparsed, hchecked⟩

-- A runtime and its credentials written out as the context that asks for them.
def written (runtime : S3AdapterRuntime Client Manifest) (credentials : S3Credentials) :
    AdapterCreateContext where
  binding := runtime.config.toBinding runtime.tlsMode
  identity := credentials.toIdentity
  credential := credentials.toCredential
  tlsCa := runtime.tlsCa

-- Whatever context a factory has made a runtime from, the runtime says all of it: written
-- out, it is made again. Its configuration has passed its own checks.
theorem create_written (h : factory.create context = .ok (runtime, credentials))
    (hloads : factory.common.jsonLoads credentials.toCredential = .ok credentials.toDocument) :
    runtime.config.postInit factory.urlsplit = .ok runtime.config ∧
      factory.create (written runtime credentials) = .ok (runtime, credentials) := by
  obtain ⟨hmade, haccepted, hendpoint, hsingle, parsed, hparsed, hchecked⟩ := create_ok h
  refine ⟨haccepted, ?_⟩
  have hmode : runtime.tlsMode = context.binding.tlsMode := by rw [hmade]; rfl
  have hmaterial : runtime.tlsCa = context.tlsCa := by rw [hmade]; rfl
  rw [← hmode] at hsingle
  rw [← hmode, ← hmaterial] at hchecked hmade
  refine (ok_bind (S3Config.fromCreateContext_toBinding haccepted hendpoint rfl)).trans ?_
  refine (ok_bind (credentials.fromSecrets_toSecrets hloads)).trans ?_
  refine (guard_passes hsingle).trans ?_
  refine (ok_bind hparsed).trans ?_
  refine (ok_bind hchecked).trans ?_
  exact congrArg (fun made => Except.ok (made, credentials)) hmade.symm

end S3AdapterFactory

theorem sample_written : Standard.boundConfig.postInit Standard.splitOrigin =
      .ok Standard.boundConfig ∧
    Standard.factory.create (S3AdapterFactory.written Standard.boundRuntime
      Standard.credentials) = .ok (Standard.boundRuntime, Standard.credentials) :=
  S3AdapterFactory.create_written Standard.factory_creates
    (Standard.loads_canonical Standard.credentials.toDocument)

end MeridianS3
