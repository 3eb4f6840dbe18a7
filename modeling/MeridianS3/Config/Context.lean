import MeridianS3.Codec.Utf8
import MeridianS3.Config.Validation
import MeridianS3.Json.Text

namespace MeridianS3

open Json

-- What a Binding says of its adapter. The mode is that of its TLS policy.
structure BindingConfig where
  adapterId : String
  endpoint : Option String
  physicalNamespace : String
  settings : Value
  engineProfile : String
  engineVersion : String
  tlsMode : String

-- The secret values are revealed.
structure AdapterCreateContext where
  binding : BindingConfig
  identity : Bytes
  credential : Bytes
  tlsCa : Option Bytes

def ALLOWED_SETTINGS : List String :=
  ["addressingStyle", "allowInsecureHttp", "checksumHeaders", "integrityChunkBytes", "kmsKeyId",
    "maxAttempts", "maxObjectBytes", "maxRangeBytes", "multipartPartBytes",
    "multipartThresholdBytes", "objectLockMode", "region", "requireVersioning",
    "serverSideEncryption", "selectedServerVersion", "spoolMemoryBytes", "verifyAfterWrite"]

namespace S3Config

-- A text that _bounded_string lets through.
def Bounded (text : String) (maximum : Nat) : Prop :=
  text ≠ "" ∧ (ObjectCommon.encodeUtf8 text).length ≤ maximum ∧
    text.toList.any isControl = false

instance (text : String) (maximum : Nat) : Decidable (Bounded text maximum) :=
  inferInstanceAs (Decidable (_ ∧ _ ∧ _))

-- _bounded_string, of a value that need not be a string.
def boundedText (value : Value) (name : String) (maximum : Nat) : Except Failure String :=
  match value with
  | .str text => boundedString text name maximum
  | _ => .error (invalid (name ++ " must be a bounded non-empty string"))

-- _boolean
def boolean (value : Value) (name : String) : Except Failure Bool :=
  match value with
  | .bool value => .ok value
  | _ => .error ⟨.typeError (name ++ " must be boolean"), none⟩

-- _integer, of a value that need not be a number.
def integerSetting (value : Value) (name : String) (minimum maximum : Nat) :
    Except Failure Nat :=
  match value with
  | .int (.ofNat value) => (fun _ => value) <$> integer value name minimum maximum
  | _ => .error (invalid
      (name ++ " must be between " ++ toString minimum ++ " and " ++ toString maximum))

-- A setting that is handed on as it is. What is not a string fails where an empty string
-- does.
def handedOn : Value → Option String
  | .null => none
  | .str text => some text
  | _ => some ""

def setting (settings : Value) (name : String) (default : Value) : Value :=
  (settings.get? name).getD default

-- The ranges beyond ASCII that str.isprintable refuses: controls, formats, separators and
-- private use. A code point without a character counts as printable here.
def UNPRINTABLE : List (Nat × Nat) :=
  [(0x80, 0xA0), (0xAD, 0xAD), (0x600, 0x605), (0x61C, 0x61C), (0x6DD, 0x6DD), (0x70F, 0x70F),
    (0x890, 0x891), (0x8E2, 0x8E2), (0x1680, 0x1680), (0x180E, 0x180E), (0x2000, 0x200F),
    (0x2028, 0x202F), (0x205F, 0x2064), (0x2066, 0x206F), (0x3000, 0x3000), (0xE000, 0xF8FF),
    (0xFEFF, 0xFEFF), (0xFFF9, 0xFFFB), (0x110BD, 0x110BD), (0x110CD, 0x110CD),
    (0x13430, 0x1343F), (0x1BCA0, 0x1BCA3), (0x1D173, 0x1D17A), (0xE0001, 0xE0001),
    (0xE0020, 0xE007F), (0xF0000, 0xFFFFD), (0x100000, 0x10FFFD)]

def isPrintable (character : Char) : Bool :=
  !isControl character && UNPRINTABLE.all fun (first, last) =>
    decide (character.toNat < first ∨ last < character.toNat)

def hexDigits (width number : Nat) : List Char :=
  (List.range width).reverse.map fun place => HEX_DIGITS.getD (number / 16 ^ place % 16) '0'

-- One character of a text between such marks.
def shownCharacter (mark character : Char) : List Char :=
  if character = mark ∨ character = '\\' then ['\\', character]
  else if character = '\t' then ['\\', 't']
  else if character = '\n' then ['\\', 'n']
  else if character = '\r' then ['\\', 'r']
  else if isPrintable character then [character]
  else if character.toNat < 0x100 then '\\' :: 'x' :: hexDigits 2 character.toNat
  else if character.toNat < 0x10000 then '\\' :: 'u' :: hexDigits 4 character.toNat
  else '\\' :: 'U' :: hexDigits 8 character.toNat

def APOSTROPHE : Char := Char.ofNat 39

-- A text as repr shows it: between apostrophes, unless only these occur in it.
def shown (text : String) : String :=
  let mark := if APOSTROPHE ∈ text.toList ∧ '"' ∉ text.toList then '"' else APOSTROPHE
  String.ofList (mark :: text.toList.flatMap (shownCharacter mark) ++ [mark])

def shownList (texts : List String) : String :=
  "[" ++ ", ".intercalate (texts.map shown) ++ "]"

def unknownSettings (settings : Value) : List String :=
  (settings.fields.map Prod.fst).filter fun name => decide (name ∉ ALLOWED_SETTINGS)

def namespaceBucket (physicalNamespace : String) : String :=
  String.ofList ((strip physicalNamespace).toList.takeWhile (· ≠ '/'))

def namespacePrefix (physicalNamespace : String) : String :=
  String.ofList ((strip physicalNamespace).toList.dropWhile (· ≠ '/')).tail

-- The fields that from_create_context fills in, before __post_init__.
def ofBinding (binding : BindingConfig) : Except Failure S3Config := do
  let settings := binding.settings
  let region ← boundedText (setting settings "region" (.str "us-east-1")) "region" 256
  let addressingStyle ← boundedText (setting settings "addressingStyle" (.str "path"))
    "addressingStyle" 16
  let allowInsecureHttp ← boolean (setting settings "allowInsecureHttp" (.bool false))
    "allowInsecureHttp"
  let multipartThresholdBytes ← integerSetting
    (setting settings "multipartThresholdBytes" (.int (16 * MIB : Nat)))
    "multipartThresholdBytes" S3_MIN_MULTIPART_PART_BYTES (5 * TIB)
  let multipartPartBytes ← integerSetting
    (setting settings "multipartPartBytes" (.int (8 * MIB : Nat)))
    "multipartPartBytes" S3_MIN_MULTIPART_PART_BYTES S3_MAX_MULTIPART_PART_BYTES
  let spoolMemoryBytes ← integerSetting
    (setting settings "spoolMemoryBytes" (.int (8 * MIB : Nat)))
    "spoolMemoryBytes" (64 * 1024) (256 * MIB)
  let integrityChunkBytes ← integerSetting
    (setting settings "integrityChunkBytes" (.int MIB))
    "integrityChunkBytes" (64 * 1024) (16 * MIB)
  let maxRangeBytes ← integerSetting
    (setting settings "maxRangeBytes" (.int (64 * MIB : Nat))) "maxRangeBytes" 1 (5 * TIB)
  let maxObjectBytes ← integerSetting
    (setting settings "maxObjectBytes" (.int (5 * TIB : Nat))) "maxObjectBytes" 1 (5 * TIB)
  let verifyAfterWrite ← boolean (setting settings "verifyAfterWrite" (.bool true))
    "verifyAfterWrite"
  let checksumHeaders ← boolean (setting settings "checksumHeaders" (.bool false))
    "checksumHeaders"
  let requireVersioning ← boolean (setting settings "requireVersioning" (.bool false))
    "requireVersioning"
  let maxAttempts ← integerSetting (setting settings "maxAttempts" (.int 4)) "maxAttempts" 1 20
  return {
    bucket := namespaceBucket binding.physicalNamespace
    keyPrefix := namespacePrefix binding.physicalNamespace
    endpointUrl := binding.endpoint
    region, addressingStyle, allowInsecureHttp, multipartThresholdBytes, multipartPartBytes,
    spoolMemoryBytes, integrityChunkBytes, maxRangeBytes, maxObjectBytes, verifyAfterWrite,
    checksumHeaders
    objectLockMode := handedOn (setting settings "objectLockMode" .null)
    serverSideEncryption := handedOn (setting settings "serverSideEncryption" .null)
    kmsKeyId := handedOn (setting settings "kmsKeyId" .null)
    requireVersioning, maxAttempts
    engineProfile := binding.engineProfile
    engineVersion := binding.engineVersion
    selectedServerVersion := handedOn (setting settings "selectedServerVersion" .null) }

def checkBinding (binding : BindingConfig) : Except Failure Unit := do
  if binding.adapterId ≠ "s3" then
    throw (invalid "S3 Adapter factory requires an s3 Binding")
  if binding.endpoint = none then
    throw (invalid "S3 Binding serviceRef must be resolved to an endpoint by IaC")
  if namespaceBucket binding.physicalNamespace = "" then
    throw (invalid "S3 physicalNamespace must contain a bucket")
  if unknownSettings binding.settings ≠ [] then
    throw (invalid ("S3 Binding contains unknown settings: " ++
      shownList ((unknownSettings binding.settings).mergeSort fun first second =>
        decide (first ≤ second))))

def fromCreateContext (urlsplit : String → Except Failure SplitResult)
    (context : AdapterCreateContext) : Except Failure S3Config := do
  checkBinding context.binding
  let config ← ofBinding context.binding
  config.postInit urlsplit

end S3Config

-- Credentials that __post_init__ has let through.
structure S3Credentials where
  accessKeyId : String
  secretAccessKey : String
  sessionToken : Option String
  accessKey : S3Config.Bounded accessKeyId 2048
  secret : S3Config.Bounded secretAccessKey 8192
  session : ∀ token ∈ sessionToken, S3Config.Bounded token 16384

namespace S3Credentials

open S3Config (Bounded invalid)

def postInit (accessKeyId secretAccessKey : String) (sessionToken : Option String) :
    Except Failure S3Credentials :=
  if hkey : Bounded accessKeyId 2048 then
    if hsecret : Bounded secretAccessKey 8192 then
      if hsession : ∀ token ∈ sessionToken, Bounded token 16384 then
        .ok ⟨accessKeyId, secretAccessKey, sessionToken, hkey, hsecret, hsession⟩
      else .error (invalid "session token must be a bounded non-empty string")
    else .error (invalid "secret access key must be a bounded non-empty string")
  else .error (invalid "access key must be a bounded non-empty string")

-- str.isspace
def isSpace (character : Char) : Bool :=
  (9 ≤ character.toNat && character.toNat ≤ 13) ||
    (28 ≤ character.toNat && character.toNat ≤ 32) ||
    character.toNat ∈ [0x85, 0xA0, 0x1680, 0x2028, 0x2029, 0x202F, 0x205F, 0x3000] ||
    (0x2000 ≤ character.toNat && character.toNat ≤ 0x200A)

-- raw.lstrip().startswith("{")
def isDocument (raw : List Char) : Bool := (raw.dropWhile isSpace).head? = some '{'

def FIELDS : List String := ["secretAccessKey", "sessionToken"]

def fromDocument (accessKey : String) : Except JsonError Value → Except Failure S3Credentials
  | .error .decodeError => .error (invalid "S3 credential JSON is invalid")
  | .error (.valueError message) => .error ⟨.valueError message, none⟩
  | .error (.recursionError message) => .error ⟨.recursionError message, none⟩
  | .ok value =>
      if ¬value.isMapping ∨ (value.fields.any fun field => decide (field.1 ∉ FIELDS)) then
        .error (invalid "S3 credential JSON contains unknown fields")
      else
        match value.get? "secretAccessKey", value.get? "sessionToken" with
        | some (.str secret), some (.str token) => postInit accessKey secret (some token)
        | some (.str secret), some .null | some (.str secret), none =>
            postInit accessKey secret none
        | _, _ => .error (invalid "S3 credential JSON fields must be strings")

-- credentials_from_secrets. The document is read as json.loads reads it.
def fromSecrets (jsonLoads : Bytes → Except JsonError Value) (identity credential : Bytes) :
    Except Failure S3Credentials :=
  match Codec.decodeChars identity, Codec.decodeChars credential with
  | some accessKey, some raw =>
      if isDocument raw then fromDocument (String.ofList accessKey) (jsonLoads credential)
      else postInit (String.ofList accessKey) (String.ofList raw) none
  | _, _ => .error (invalid "S3 credential secret values must be UTF-8")

end S3Credentials

end MeridianS3
