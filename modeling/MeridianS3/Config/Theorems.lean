import MeridianS3.Config.Context
import Mathlib.Data.List.TakeWhile

namespace MeridianS3

open Json

namespace S3Config

variable {urlsplit : String → Except Failure SplitResult} {raw config : S3Config}

theorem strip_last (text : String) :
    ∀ character ∈ (strip text).toList.getLast?, character ≠ '/' := by
  intro character hlast
  rw [strip, String.toList_ofList, List.getLast?_reverse] at hlast
  have hstop := List.head?_dropWhile_not (fun character => decide (character = '/'))
    (text.toList.dropWhile (fun character => decide (character = '/'))).reverse
  rw [Option.mem_def.mp hlast] at hstop
  exact of_decide_eq_false hstop

theorem strip_head (text : String) : ∀ character ∈ (strip text).toList.head?, character ≠ '/' := by
  intro character hhead
  have hbegins : (strip text).toList <+:
      text.toList.dropWhile (fun character => decide (character = '/')) := by
    rw [strip, String.toList_ofList, ← List.reverse_suffix, List.reverse_reverse]
    exact List.dropWhile_suffix _
  obtain ⟨rest, hrest⟩ := hbegins
  have hstop := List.head?_dropWhile_not (fun character => decide (character = '/')) text.toList
  rw [← hrest, List.head?_append, Option.mem_def.mp hhead] at hstop
  exact of_decide_eq_false hstop

theorem strip_eq_self {text : String} (hhead : ∀ character ∈ text.toList.head?, character ≠ '/')
    (hlast : ∀ character ∈ text.toList.getLast?, character ≠ '/') : strip text = text := by
  have hkept (characters : List Char) (h : ∀ character ∈ characters.head?, character ≠ '/') :
      characters.dropWhile (fun character => decide (character = '/')) = characters := by
    cases characters with
    | nil => rfl
    | cons character rest =>
        exact List.dropWhile_cons_of_neg (by simpa using h character rfl)
  rw [strip, hkept _ hhead, hkept _ (by simpa using hlast), List.reverse_reverse,
    String.ofList_toList]

theorem strip_strip (text : String) : strip (strip text) = strip text :=
  strip_eq_self (strip_head text) (strip_last text)

theorem boundedString_ok {value name result : String} {maximum : Nat}
    (h : boundedString value name maximum = .ok result) :
    result = value ∧ Bounded value maximum := by
  unfold boundedString at h
  split at h
  · cases h
  · rename_i hbounded
    obtain ⟨hempty, hrest⟩ := not_or.mp hbounded
    obtain ⟨hlong, hcontrol⟩ := not_or.mp hrest
    exact ⟨(Except.ok.inj h).symm, hempty, Nat.le_of_not_lt hlong, Bool.eq_false_iff.mpr hcontrol⟩

theorem boundedString_of {value : String} {maximum : Nat} (h : Bounded value maximum)
    (name : String) : boundedString value name maximum = .ok value := by
  apply if_neg
  rintro (hempty | hlong | hcontrol)
  · exact h.1 hempty
  · exact Nat.not_lt.mpr h.2.1 hlong
  · exact Bool.false_ne_true (h.2.2.symm.trans hcontrol)

theorem acceptedBucket_ok {bucket : String} (h : acceptedBucket config = .ok bucket) :
    bucket = config.bucket ∧ isBucketName config.bucket = true := by
  obtain ⟨found, hfound, h⟩ := bind_ok h
  obtain ⟨rfl, -⟩ := boundedString_ok hfound
  split at h
  · cases h
  · rename_i hname
    exact ⟨(Except.ok.inj h).symm, of_not_not hname⟩

theorem acceptedPrefix_ok {keyPrefix : String} (h : acceptedPrefix config = .ok keyPrefix) :
    keyPrefix = strip config.keyPrefix := by
  unfold acceptedPrefix at h
  dsimp only at h
  split at h
  · cases h
  · split at h
    · cases h
    · exact (Except.ok.inj h).symm

theorem acceptedPrefix_again (h : acceptedPrefix raw = .ok config.keyPrefix) :
    acceptedPrefix config = .ok config.keyPrefix := by
  have hstrip : strip config.keyPrefix = strip raw.keyPrefix := by
    rw [acceptedPrefix_ok h, strip_strip]
  have hsame : acceptedPrefix config = acceptedPrefix raw := by
    unfold acceptedPrefix
    rw [hstrip]
  rw [hsame, h]

theorem acceptedMode_again (h : acceptedMode raw = .ok config.objectLockMode) :
    acceptedMode config = .ok config.objectLockMode := by
  cases hmode : raw.objectLockMode with
  | none =>
      simp only [acceptedMode, hmode] at h
      simp only [acceptedMode, ← Except.ok.inj h]
      rfl
  | some mode =>
      simp only [acceptedMode, hmode] at h
      obtain ⟨_, _, h⟩ := bind_ok h
      split at h
      · cases h
      · rename_i hknown
        have hsome := Except.ok.inj h
        simp only [acceptedMode, ← hsome]
        have hnamed := of_not_not hknown
        simp only [List.mem_cons, List.not_mem_nil, or_false] at hnamed
        rcases hnamed with hnamed | hnamed <;> rw [hnamed] <;> rfl

-- What has been accepted is accepted as it is.
theorem postInit_again (h : raw.postInit urlsplit = .ok config) :
    config.postInit urlsplit = .ok config := by
  obtain ⟨bucket, hbucket, h⟩ := bind_ok h
  obtain ⟨keyPrefix, hprefix, h⟩ := bind_ok h
  obtain ⟨_, hendpoint, h⟩ := bind_ok h
  obtain ⟨_, hengine, h⟩ := bind_ok h
  obtain ⟨_, hsizes, h⟩ := bind_ok h
  obtain ⟨objectLockMode, hmode, h⟩ := bind_ok h
  obtain ⟨_, hencryption, h⟩ := bind_ok h
  obtain rfl := Except.ok.inj h
  obtain ⟨rfl, -⟩ := acceptedBucket_ok hbucket
  have hprefixed : acceptedPrefix { raw with keyPrefix, objectLockMode } = .ok keyPrefix :=
    acceptedPrefix_again hprefix
  have hmoded : acceptedMode { raw with keyPrefix, objectLockMode } = .ok objectLockMode :=
    acceptedMode_again hmode
  refine (ok_bind hbucket).trans ?_
  refine (ok_bind hprefixed).trans ?_
  refine (ok_bind hendpoint).trans ?_
  refine (ok_bind hengine).trans ?_
  refine (ok_bind hsizes).trans ?_
  refine (ok_bind hmoded).trans ?_
  exact ok_bind hencryption

-- A configuration written out as the Binding that asks for it.
def physicalNamespace (config : S3Config) : String :=
  if config.keyPrefix = "" then config.bucket else config.bucket ++ "/" ++ config.keyPrefix

def toSettings (config : S3Config) : Value :=
  .obj
    [("addressingStyle", .str config.addressingStyle),
      ("allowInsecureHttp", .bool config.allowInsecureHttp),
      ("checksumHeaders", .bool config.checksumHeaders),
      ("integrityChunkBytes", .int config.integrityChunkBytes),
      ("kmsKeyId", .ofOption config.kmsKeyId),
      ("maxAttempts", .int config.maxAttempts),
      ("maxObjectBytes", .int config.maxObjectBytes),
      ("maxRangeBytes", .int config.maxRangeBytes),
      ("multipartPartBytes", .int config.multipartPartBytes),
      ("multipartThresholdBytes", .int config.multipartThresholdBytes),
      ("objectLockMode", .ofOption config.objectLockMode),
      ("region", .str config.region),
      ("requireVersioning", .bool config.requireVersioning),
      ("selectedServerVersion", .ofOption config.selectedServerVersion),
      ("serverSideEncryption", .ofOption config.serverSideEncryption),
      ("spoolMemoryBytes", .int config.spoolMemoryBytes),
      ("verifyAfterWrite", .bool config.verifyAfterWrite)]

def toBinding (config : S3Config) (tlsMode : String) : BindingConfig where
  adapterId := "s3"
  endpoint := config.endpointUrl
  physicalNamespace := config.physicalNamespace
  settings := config.toSettings
  engineProfile := config.engineProfile
  engineVersion := config.engineVersion
  tlsMode := tlsMode

-- The namespace splits into the bucket and the prefix again.
structure Named (config : S3Config) : Prop where
  bucket : isBucketName config.bucket = true
  keyPrefix : strip config.keyPrefix = config.keyPrefix

theorem isBucketName_characters {bucket : String} (h : isBucketName bucket = true) :
    bucket.toList ≠ [] ∧ ∀ character ∈ bucket.toList, character ≠ '/' := by
  simp only [isBucketName, Bool.and_eq_true, decide_eq_true_eq, List.all_eq_true] at h
  obtain ⟨⟨⟨⟨hlength, -⟩, hall⟩, -⟩, -⟩ := h
  refine ⟨List.ne_nil_of_length_pos (by omega), ?_⟩
  rintro character hmem rfl
  exact absurd (hall _ hmem) (by decide)

variable (hnamed : config.Named)

include hnamed

theorem Named.stripped : strip config.physicalNamespace = config.physicalNamespace := by
  obtain ⟨hempty, hplain⟩ := isBucketName_characters hnamed.bucket
  have hkept := strip_last config.keyPrefix
  rw [hnamed.keyPrefix] at hkept
  unfold physicalNamespace
  split
  · apply strip_eq_self
    · intro character hmem
      exact hplain character (List.mem_of_mem_head? hmem)
    · intro character hmem
      exact hplain character (List.mem_of_mem_getLast? hmem)
  · rename_i hnonempty
    have hlist : (config.bucket ++ "/" ++ config.keyPrefix).toList =
        config.bucket.toList ++ '/' :: config.keyPrefix.toList := by simp
    have hrest : config.keyPrefix.toList ≠ [] := by simpa using hnonempty
    apply strip_eq_self
    · rw [hlist]
      intro character hmem
      rw [List.head?_append_of_ne_nil _ hempty] at hmem
      exact hplain character (List.mem_of_mem_head? hmem)
    · rw [hlist]
      intro character hmem
      rw [List.getLast?_append_of_ne_nil _ (by simp), List.getLast?_cons_of_ne_nil hrest] at hmem
      exact hkept character hmem

theorem Named.namespaceBucket : namespaceBucket config.physicalNamespace = config.bucket := by
  obtain ⟨-, hplain⟩ := isBucketName_characters hnamed.bucket
  have hpasses : ∀ character ∈ config.bucket.toList, decide (character ≠ '/') = true :=
    fun character hmem => decide_eq_true (hplain character hmem)
  rw [S3Config.namespaceBucket, hnamed.stripped, physicalNamespace]
  split
  · rw [List.takeWhile_eq_self_iff.mpr hpasses, String.ofList_toList]
  · have hlist : (config.bucket ++ "/" ++ config.keyPrefix).toList =
        config.bucket.toList ++ '/' :: config.keyPrefix.toList := by simp
    rw [hlist, List.takeWhile_append_of_pos hpasses, List.takeWhile_cons_of_neg (by decide),
      List.append_nil, String.ofList_toList]

theorem Named.namespacePrefix : namespacePrefix config.physicalNamespace = config.keyPrefix := by
  obtain ⟨-, hplain⟩ := isBucketName_characters hnamed.bucket
  have hpasses : ∀ character ∈ config.bucket.toList, decide (character ≠ '/') = true :=
    fun character hmem => decide_eq_true (hplain character hmem)
  rw [S3Config.namespacePrefix, hnamed.stripped, physicalNamespace]
  split
  · rename_i hempty
    rw [List.dropWhile_eq_nil_iff.mpr hpasses, hempty]
    rfl
  · have hlist : (config.bucket ++ "/" ++ config.keyPrefix).toList =
        config.bucket.toList ++ '/' :: config.keyPrefix.toList := by simp
    rw [hlist, List.dropWhile_append_of_pos hpasses, List.dropWhile_cons_of_neg (by decide),
      List.tail_cons, String.ofList_toList]

omit hnamed

-- What the settings of a Binding must be within.
structure Fits (config : S3Config) : Prop where
  region : Bounded config.region 256
  addressingStyle : Bounded config.addressingStyle 16
  threshold : S3_MIN_MULTIPART_PART_BYTES ≤ config.multipartThresholdBytes ∧
    config.multipartThresholdBytes ≤ 5 * TIB
  part : S3_MIN_MULTIPART_PART_BYTES ≤ config.multipartPartBytes ∧
    config.multipartPartBytes ≤ S3_MAX_MULTIPART_PART_BYTES
  spool : 64 * 1024 ≤ config.spoolMemoryBytes ∧ config.spoolMemoryBytes ≤ 256 * MIB
  chunk : 64 * 1024 ≤ config.integrityChunkBytes ∧ config.integrityChunkBytes ≤ 16 * MIB
  range : 1 ≤ config.maxRangeBytes ∧ config.maxRangeBytes ≤ 5 * TIB
  object : 1 ≤ config.maxObjectBytes ∧ config.maxObjectBytes ≤ 5 * TIB
  attempts : 1 ≤ config.maxAttempts ∧ config.maxAttempts ≤ 20

theorem checks_fit (hengine : checkEngine config = .ok ()) (hsizes : checkSizes config = .ok ()) :
    config.Fits := by
  unfold checkEngine at hengine
  obtain ⟨hstyle, h⟩ := guard_passed hengine
  obtain ⟨_, hregion, -⟩ := bind_ok h
  obtain ⟨_, hpart, h⟩ := bind_ok hsizes
  obtain ⟨_, hthreshold, h⟩ := bind_ok h
  obtain ⟨_, hspool, h⟩ := bind_ok h
  obtain ⟨_, hchunk, h⟩ := bind_ok h
  obtain ⟨_, hrange, h⟩ := bind_ok h
  obtain ⟨_, hobject, hattempts⟩ := bind_ok h
  have hobject := integer_ok hobject
  have hthreshold := integer_ok hthreshold
  have hrange := integer_ok hrange
  refine ⟨(boundedString_ok hregion).2, ?_, ⟨hthreshold.1, hthreshold.2.trans hobject.2⟩,
    integer_ok hpart, integer_ok hspool, integer_ok hchunk, ⟨hrange.1, hrange.2.trans hobject.2⟩,
    hobject, integer_ok hattempts⟩
  have hknown := of_not_not hstyle
  simp only [List.mem_cons, List.not_mem_nil, or_false] at hknown
  rcases hknown with hknown | hknown | hknown <;> rw [hknown] <;> decide

theorem integerSetting_of {value minimum maximum : Nat}
    (h : minimum ≤ value ∧ value ≤ maximum) (name : String) :
    integerSetting (.int value) name minimum maximum = .ok value := by
  change (fun _ => value) <$> integer value name minimum maximum = _
  rw [integer, if_pos h]
  rfl

theorem handedOn_ofOption (text : Option String) : handedOn (.ofOption text) = text := by
  cases text <;> rfl

theorem ofBinding_toBinding (hnamed : config.Named) (hfits : config.Fits) (tlsMode : String) :
    ofBinding (config.toBinding tlsMode) = .ok config := by
  refine (ok_bind (boundedString_of hfits.region "region")).trans ?_
  refine (ok_bind (boundedString_of hfits.addressingStyle "addressingStyle")).trans ?_
  refine (ok_bind (rfl : _ = Except.ok config.allowInsecureHttp)).trans ?_
  refine (ok_bind (integerSetting_of hfits.threshold _)).trans ?_
  refine (ok_bind (integerSetting_of hfits.part _)).trans ?_
  refine (ok_bind (integerSetting_of hfits.spool _)).trans ?_
  refine (ok_bind (integerSetting_of hfits.chunk _)).trans ?_
  refine (ok_bind (integerSetting_of hfits.range _)).trans ?_
  refine (ok_bind (integerSetting_of hfits.object _)).trans ?_
  refine (ok_bind (rfl : _ = Except.ok config.verifyAfterWrite)).trans ?_
  refine (ok_bind (rfl : _ = Except.ok config.checksumHeaders)).trans ?_
  refine (ok_bind (rfl : _ = Except.ok config.requireVersioning)).trans ?_
  refine (ok_bind (integerSetting_of hfits.attempts _)).trans ?_
  change Except.ok { config with
    bucket := S3Config.namespaceBucket config.physicalNamespace
    keyPrefix := S3Config.namespacePrefix config.physicalNamespace
    objectLockMode := handedOn (.ofOption config.objectLockMode)
    serverSideEncryption := handedOn (.ofOption config.serverSideEncryption)
    kmsKeyId := handedOn (.ofOption config.kmsKeyId)
    selectedServerVersion := handedOn (.ofOption config.selectedServerVersion) } = _
  rw [hnamed.namespaceBucket, hnamed.namespacePrefix]
  simp only [handedOn_ofOption]

theorem postInit_checks (h : raw.postInit urlsplit = .ok config) :
    config.Named ∧ config.Fits := by
  have hagain := postInit_again h
  obtain ⟨bucket, hbucket, h⟩ := bind_ok hagain
  obtain ⟨keyPrefix, hprefix, h⟩ := bind_ok h
  obtain ⟨_, _, h⟩ := bind_ok h
  obtain ⟨_, hengine, h⟩ := bind_ok h
  obtain ⟨_, hsizes, h⟩ := bind_ok h
  obtain ⟨objectLockMode, _, h⟩ := bind_ok h
  obtain ⟨_, _, h⟩ := bind_ok h
  have hkept := congrArg S3Config.keyPrefix (Except.ok.inj h)
  have hstripped := acceptedPrefix_ok hprefix
  exact ⟨⟨(acceptedBucket_ok hbucket).2, hstripped.symm.trans hkept⟩, checks_fit hengine hsizes⟩

-- An accepted configuration with an endpoint comes back from its Binding.
theorem fromCreateContext_toBinding (h : raw.postInit urlsplit = .ok config)
    (hendpoint : config.endpointUrl ≠ none) {context : AdapterCreateContext}
    (hcontext : context.binding = config.toBinding context.binding.tlsMode) :
    fromCreateContext urlsplit context = .ok config := by
  obtain ⟨hnamed, hfits⟩ := postInit_checks h
  have hbucket : S3Config.namespaceBucket
      (config.toBinding context.binding.tlsMode).physicalNamespace ≠ "" := by
    change S3Config.namespaceBucket config.physicalNamespace ≠ ""
    rw [hnamed.namespaceBucket]
    have hcharacters := (isBucketName_characters hnamed.bucket).1
    simpa using hcharacters
  have hchecked : checkBinding (config.toBinding context.binding.tlsMode) = .ok () := by
    unfold checkBinding
    refine (guard_passes fun hne => hne rfl).trans ?_
    refine (guard_passes hendpoint).trans ?_
    refine (guard_passes hbucket).trans ?_
    exact guard_passes fun hne => hne rfl
  unfold fromCreateContext
  rw [hcontext]
  refine (ok_bind hchecked).trans ?_
  refine (ok_bind (ofBinding_toBinding hnamed hfits _)).trans ?_
  exact postInit_again h

end S3Config

namespace S3Credentials

variable {jsonLoads : Bytes → Except JsonError Value}

theorem postInit_self (credentials : S3Credentials) :
    postInit credentials.accessKeyId credentials.secretAccessKey credentials.sessionToken =
      .ok credentials := by
  rw [postInit, dif_pos credentials.accessKey, dif_pos credentials.secret,
    dif_pos credentials.session]

-- Credentials written out as secret values.
def toDocument (credentials : S3Credentials) : Value :=
  .obj
    [("secretAccessKey", .str credentials.secretAccessKey),
      ("sessionToken", .ofOption credentials.sessionToken)]

def toIdentity (credentials : S3Credentials) : Bytes :=
  Codec.encodeChars credentials.accessKeyId.toList

def toCredential (credentials : S3Credentials) : Bytes :=
  Codec.encodeChars (Text.write credentials.toDocument)

theorem fromDocument_toDocument (credentials : S3Credentials) :
    fromDocument credentials.accessKeyId (.ok credentials.toDocument) = .ok credentials := by
  cases hsession : credentials.sessionToken with
  | none =>
      have hself := credentials.postInit_self
      rw [hsession] at hself
      rw [toDocument, hsession]
      exact hself
  | some token =>
      have hself := credentials.postInit_self
      rw [hsession] at hself
      rw [toDocument, hsession]
      exact hself

theorem fromSecrets_toSecrets (credentials : S3Credentials)
    (hloads : jsonLoads credentials.toCredential = .ok credentials.toDocument) :
    fromSecrets jsonLoads credentials.toIdentity credentials.toCredential = .ok credentials := by
  have hdocument : isDocument (Text.write credentials.toDocument) = true := rfl
  have hself := credentials.fromDocument_toDocument
  rw [fromSecrets, hloads, toIdentity, toCredential, Codec.decodeChars_encodeChars,
    Codec.decodeChars_encodeChars]
  dsimp only
  rw [if_pos hdocument, String.ofList_toList]
  exact hself

end S3Credentials

end MeridianS3
