import Mathlib.Algebra.Ring.Int.Defs
import MeridianS3.Codec.Base64
import MeridianS3.Layout

namespace MeridianS3

open Json

def hex4 (value : Nat) : List Char :=
  [value / 4096 % 16, value / 256 % 16, value / 16 % 16, value % 16].map fun digit =>
    HEX_DIGITS.getD digit '0'

-- One character of a JSON string under ensure_ascii. Characters beyond the basic plane
-- are written as a pair of surrogates.
def asciiCharacter (character : Char) : List Char :=
  if character = '"' then ['\\', '"']
  else if character = '\\' then ['\\', '\\']
  else if character = '\n' then ['\\', 'n']
  else if character = '\r' then ['\\', 'r']
  else if character = '\t' then ['\\', 't']
  else if character.toNat = 8 then ['\\', 'b']
  else if character.toNat = 12 then ['\\', 'f']
  else if 32 ≤ character.toNat ∧ character.toNat ≤ 126 then [character]
  else if character.toNat < 65536 then '\\' :: 'u' :: hex4 character.toNat
  else
    let rest := character.toNat - 65536
    '\\' :: 'u' :: hex4 (55296 + rest / 1024) ++ '\\' :: 'u' :: hex4 (56320 + rest % 1024)

-- parsed.get("v") != 1 compares numbers of any kind.
def isOne : Value → Bool
  | .bool value => value
  | .int value => value = 1
  | .float mantissa exponent => exponent ≤ 0 ∧ mantissa = 10 ^ (-exponent).toNat
  | _ => false

structure ListCursor where
  lastSuffix : String
deriving DecidableEq

namespace ListCursor

def raw (cursor : ListCursor) : List Char :=
  "\x7b\"last\":\"".toList ++ cursor.lastSuffix.toList.flatMap asciiCharacter ++
    "\",\"v\":1\x7d".toList

def encode (cursor : ListCursor) : String :=
  String.ofList (Codec.encodeUnpadded Codec.URL_SAFE
    (ObjectCommon.encodeUtf8 (String.ofList cursor.raw)))

def invalid : Failure := .meridian .objectInvalidRequest (some "list cursor is invalid")

def ofParsed (parsed : Value) : Except Failure ListCursor :=
  if ¬parsed.isMapping ∨ ¬parsed.hasExactly ["last", "v"] ∨ ¬(parsed.get? "v").any isOne then
    .error invalid
  else
    match parsed.get? "last" with
    | some (.str last) =>
        if 1024 < last.length ∨ '/' ∉ last.toList then .error invalid else .ok ⟨last⟩
    | _ => .error invalid

-- base64.b64decode(value + padding, altchars=b"-_", validate=True)
def document? (value : String) : Option Bytes :=
  let padding := List.replicate ((4 - value.length % 4) % 4) '='
  Codec.decodePadded [Codec.STANDARD, Codec.URL_SAFE] (value.toList ++ padding)

def decode (common : ObjectCommon) (value : String) : Except Failure ListCursor :=
  if value = "" ∨ 2048 < value.length then .error invalid
  else
    match document? value with
    | none => .error invalid
    | some raw =>
        match common.jsonLoads raw with
        | .error .decodeError | .error (.valueError _) => .error invalid
        | .error (.recursionError message) => .error ⟨.recursionError message, none⟩
        | .ok parsed => ofParsed parsed

end ListCursor

namespace S3Layout

variable (layout : S3Layout)

def startAfter (resource : ResourceRef) (cursor : Option String) : Except Failure (Option String) :=
  match cursor with
  | none => .ok none
  | some cursor => do
      let parsed ← ListCursor.decode layout.common cursor
      return some (layout.referencePrefix resource ++ parsed.lastSuffix)

def cursorForKey (resource : ResourceRef) (key : String) : Except Failure String :=
  let start := (layout.referencePrefix resource).toList
  if start.isPrefixOf key.toList then
    .ok (ListCursor.encode ⟨String.ofList (key.toList.drop start.length)⟩)
  else .error ⟨.valueError "reference key is outside its Resource prefix", none⟩

end S3Layout

end MeridianS3
