import MeridianS3.Config

namespace MeridianS3

-- What the language's urlsplit reads off an endpoint.
structure SplitResult where
  scheme : String
  hostname : Option String
  username : Option String
  password : Option String
  path : String
  query : String
  fragment : String

def S3_MAX_OBJECT_BYTES : Nat := 5 * TIB

namespace S3Config

def invalid (message : String) : Failure := ⟨.valueError message, none⟩

def isControl (character : Char) : Bool := character.toNat < 32 || character.toNat = 127

def boundedString (value name : String) (maximum : Nat) : Except Failure String :=
  if value = "" ∨ maximum < (ObjectCommon.encodeUtf8 value).length ∨
      value.toList.any isControl = true then
    .error (invalid (name ++ " must be a bounded non-empty string"))
  else .ok value

def integer (value : Nat) (name : String) (minimum maximum : Nat) : Except Failure Unit :=
  if minimum ≤ value ∧ value ≤ maximum then .ok ()
  else .error (invalid
    (name ++ " must be between " ++ toString minimum ++ " and " ++ toString maximum))

-- [A-Za-z0-9]
def isBucketEnd (character : Char) : Bool := character.isAlphanum

-- [A-Za-z0-9._-]
def isBucketCharacter (character : Char) : Bool :=
  character.isAlphanum || character ∈ ['.', '_', '-']

-- _BUCKET_RE.fullmatch
def isBucketName (bucket : String) : Bool :=
  3 ≤ bucket.toList.length && bucket.toList.length ≤ 63 &&
    bucket.toList.all isBucketCharacter && bucket.toList.head?.any isBucketEnd &&
    bucket.toList.getLast?.any isBucketEnd

def acceptedBucket (config : S3Config) : Except Failure String := do
  let bucket ← boundedString config.bucket "bucket" 255
  if ¬isBucketName bucket then
    throw (invalid "bucket must be a bounded S3-compatible bucket name")
  return bucket

-- str.strip("/")
def strip (text : String) : String :=
  String.ofList
    ((text.toList.dropWhile (· = '/')).reverse.dropWhile (· = '/')).reverse

def acceptedPrefix (config : S3Config) : Except Failure String := do
  let stripped := strip config.keyPrefix
  if 768 < (ObjectCommon.encodeUtf8 stripped).length ∨ stripped.toList.any isControl = true then
    throw (invalid "prefix must be a bounded control-free string")
  if (stripped.toList.splitOn '/').any fun segment => segment = ['.'] || segment = ['.', '.'] then
    throw (invalid "prefix cannot contain dot path segments")
  return stripped

def checkEndpoint (urlsplit : String → Except Failure SplitResult) (config : S3Config) :
    Except Failure Unit := do
  match config.endpointUrl with
  | none => return ()
  | some endpoint => do
      let parsed ← urlsplit endpoint
      if parsed.scheme ∉ ["http", "https"] ∨ parsed.hostname.all (· = "") ∨
          parsed.username.isSome ∨ parsed.password.isSome ∨ parsed.query ≠ "" ∨
          parsed.fragment ≠ "" ∨ parsed.path ∉ ["", "/"] then
        throw (invalid "endpoint_url must be an origin URL without credentials")
      if parsed.scheme = "http" ∧ ¬config.allowInsecureHttp then
        throw (invalid "HTTP endpoints require allow_insecure_http=True")

def checkEngine (config : S3Config) : Except Failure Unit := do
  if config.addressingStyle ∉ ["auto", "path", "virtual"] then
    throw (invalid "addressing_style must be auto, path, or virtual")
  let _ ← boundedString config.region "region" 256
  let _ ← boundedString config.engineProfile "engine_profile" 256
  let _ ← boundedString config.engineVersion "engine_version" 256
  if config.engineProfile ∉ ["aws-s3", "s3-compatible"] then
    throw (invalid "unsupported S3 engine profile")
  if config.engineVersion ≠ "2006-03-01" then
    throw (invalid "S3 engine_version must identify the 2006-03-01 API contract")
  match config.selectedServerVersion with
  | none => return ()
  | some version => do
      let _ ← boundedString version "selected_server_version" 256

def checkSizes (config : S3Config) : Except Failure Unit := do
  integer config.multipartPartBytes "multipart_part_bytes" S3_MIN_MULTIPART_PART_BYTES
    S3_MAX_MULTIPART_PART_BYTES
  integer config.multipartThresholdBytes "multipart_threshold_bytes" S3_MIN_MULTIPART_PART_BYTES
    config.maxObjectBytes
  integer config.spoolMemoryBytes "spool_memory_bytes" (64 * 1024) (256 * MIB)
  integer config.integrityChunkBytes "integrity_chunk_bytes" (64 * 1024) (16 * MIB)
  integer config.maxRangeBytes "max_range_bytes" 1 config.maxObjectBytes
  integer config.maxObjectBytes "max_object_bytes" 1 S3_MAX_OBJECT_BYTES
  integer config.maxAttempts "max_attempts" 1 20

-- str.upper, as far as it can lead to letters of the two modes.
def upper (character : Char) : Char :=
  if character = 'ı' then 'I' else character.toUpper

def acceptedMode (config : S3Config) : Except Failure (Option String) := do
  match config.objectLockMode with
  | none => return none
  | some mode => do
      let mode ← boundedString mode "object_lock_mode" 16
      let normalizedMode := String.ofList (mode.toList.map upper)
      if normalizedMode ∉ ["GOVERNANCE", "COMPLIANCE"] then
        throw (invalid "object_lock_mode must be GOVERNANCE or COMPLIANCE")
      return some normalizedMode

def checkEncryption (config : S3Config) : Except Failure Unit := do
  if config.serverSideEncryption.any (· ∉ ["AES256", "aws:kms"]) then
    throw (invalid "server_side_encryption must be AES256 or aws:kms")
  match config.kmsKeyId with
  | none =>
      if config.serverSideEncryption = some "aws:kms" then
        throw (invalid "aws:kms server-side encryption requires kms_key_id")
  | some key => do
      let _ ← boundedString key "kms_key_id" 2048
      if config.serverSideEncryption ≠ some "aws:kms" then
        throw (invalid "kms_key_id requires aws:kms server-side encryption")

-- __post_init__. The accepted configuration has its prefix stripped and its mode in
-- capitals.
def postInit (urlsplit : String → Except Failure SplitResult) (config : S3Config) :
    Except Failure S3Config := do
  let bucket ← acceptedBucket config
  let keyPrefix ← acceptedPrefix config
  checkEndpoint urlsplit config
  checkEngine config
  checkSizes config
  let objectLockMode ← acceptedMode config
  checkEncryption config
  return { config with bucket, keyPrefix, objectLockMode }

-- The bounds on an accepted configuration's sizes.
structure Sized (config : S3Config) : Prop where
  part_min : S3_MIN_MULTIPART_PART_BYTES ≤ config.multipartPartBytes
  part_max : config.multipartPartBytes ≤ S3_MAX_MULTIPART_PART_BYTES
  threshold_min : S3_MIN_MULTIPART_PART_BYTES ≤ config.multipartThresholdBytes
  threshold_max : config.multipartThresholdBytes ≤ config.maxObjectBytes
  chunk_min : 64 * 1024 ≤ config.integrityChunkBytes
  chunk_max : config.integrityChunkBytes ≤ 16 * MIB
  object_max : config.maxObjectBytes ≤ S3_MAX_OBJECT_BYTES

theorem integer_ok {value minimum maximum : Nat} {name : String}
    (h : integer value name minimum maximum = .ok ()) : minimum ≤ value ∧ value ≤ maximum := by
  unfold integer at h
  split at h
  · assumption
  · cases h

theorem checkSizes_ok {config : S3Config} (h : checkSizes config = .ok ()) : config.Sized := by
  obtain ⟨_, hpart, h⟩ := bind_ok h
  obtain ⟨_, hthreshold, h⟩ := bind_ok h
  obtain ⟨_, _, h⟩ := bind_ok h
  obtain ⟨_, hchunk, h⟩ := bind_ok h
  obtain ⟨_, _, h⟩ := bind_ok h
  obtain ⟨_, hobject, _⟩ := bind_ok h
  exact ⟨(integer_ok hpart).1, (integer_ok hpart).2, (integer_ok hthreshold).1,
    (integer_ok hthreshold).2, (integer_ok hchunk).1, (integer_ok hchunk).2,
    (integer_ok hobject).2⟩

theorem postInit_sized {urlsplit : String → Except Failure SplitResult} {raw config : S3Config}
    (h : raw.postInit urlsplit = .ok config) : config.Sized := by
  obtain ⟨bucket, _, h⟩ := bind_ok h
  obtain ⟨keyPrefix, _, h⟩ := bind_ok h
  obtain ⟨_, _, h⟩ := bind_ok h
  obtain ⟨_, _, h⟩ := bind_ok h
  obtain ⟨_, hsizes, h⟩ := bind_ok h
  obtain ⟨objectLockMode, _, h⟩ := bind_ok h
  obtain ⟨_, _, h⟩ := bind_ok h
  obtain rfl := Except.ok.inj h
  exact { checkSizes_ok hsizes with }

-- The prefix that a configuration is left with takes up to 768 bytes.
theorem postInit_prefix {urlsplit : String → Except Failure SplitResult} {raw config : S3Config}
    (h : raw.postInit urlsplit = .ok config) :
    (ObjectCommon.encodeUtf8 config.keyPrefix).length ≤ 768 := by
  obtain ⟨bucket, _, h⟩ := bind_ok h
  obtain ⟨keyPrefix, haccepted, h⟩ := bind_ok h
  obtain ⟨_, _, h⟩ := bind_ok h
  obtain ⟨_, _, h⟩ := bind_ok h
  obtain ⟨_, _, h⟩ := bind_ok h
  obtain ⟨objectLockMode, _, h⟩ := bind_ok h
  obtain ⟨_, _, h⟩ := bind_ok h
  obtain rfl := Except.ok.inj h
  change (ObjectCommon.encodeUtf8 keyPrefix).length ≤ 768
  unfold acceptedPrefix at haccepted
  by_cases hlong : 768 < (ObjectCommon.encodeUtf8 (strip raw.keyPrefix)).length ∨
      (strip raw.keyPrefix).toList.any isControl = true
  · simp only [if_pos hlong] at haccepted
    cases haccepted
  · simp only [if_neg hlong] at haccepted
    split at haccepted
    · cases haccepted
    · obtain rfl := Except.ok.inj haccepted
      exact Nat.le_of_not_lt fun hlt => hlong (Or.inl hlt)

end S3Config

end MeridianS3
