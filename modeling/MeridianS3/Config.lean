import MeridianS3.ObjectCommon

namespace MeridianS3

def MIB : Nat := 1024 * 1024
def GIB : Nat := 1024 * MIB
def TIB : Nat := 1024 * GIB
def S3_MIN_MULTIPART_PART_BYTES : Nat := 5 * MIB
def S3_MAX_MULTIPART_PART_BYTES : Nat := 5 * GIB
def S3_MAX_MULTIPART_PARTS : Nat := 10000

structure S3Config where
  bucket : String
  keyPrefix : String := ""
  endpointUrl : Option String := none
  region : String := "us-east-1"
  addressingStyle : String := "path"
  allowInsecureHttp : Bool := false
  multipartThresholdBytes : Nat := 16 * MIB
  multipartPartBytes : Nat := 8 * MIB
  spoolMemoryBytes : Nat := 8 * MIB
  integrityChunkBytes : Nat := MIB
  maxRangeBytes : Nat := 64 * MIB
  maxObjectBytes : Nat := 5 * TIB
  verifyAfterWrite : Bool := true
  checksumHeaders : Bool := false
  objectLockMode : Option String := none
  serverSideEncryption : Option String := none
  kmsKeyId : Option String := none
  requireVersioning : Bool := false
  maxAttempts : Nat := 4
  engineProfile : String := "s3-compatible"
  engineVersion : String := "2006-03-01"
  selectedServerVersion : Option String := none
deriving DecidableEq

namespace S3Config

def retentionEnforcement (config : S3Config) : Bool := config.objectLockMode.isSome

def namespaceRoot (config : S3Config) : String :=
  if config.keyPrefix = "" then "" else config.keyPrefix ++ "/"

end S3Config

end MeridianS3
