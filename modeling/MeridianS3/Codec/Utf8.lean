import Mathlib.Data.String.Basic

namespace Codec

def encodeChars (text : List Char) : List UInt8 := text.flatMap String.utf8EncodeChar

def isAscii (raw : List UInt8) : Bool := raw.all fun byte => decide (byte.toNat < 128)

-- Strict decoding. Bytes below 128 are characters as they stand.
def decodeChars (raw : List UInt8) : Option (List Char) :=
  if isAscii raw then some (raw.map fun byte => Char.ofNat byte.toNat)
  else raw.toByteArray.utf8Decode?.map Array.toList

theorem encodeChar_ascii {character : Char} (h : isAscii (String.utf8EncodeChar character) = true) :
    (String.utf8EncodeChar character).map (fun byte => Char.ofNat byte.toNat) = [character] := by
  unfold String.utf8EncodeChar at h ⊢
  simp only at h ⊢
  split
  · rename_i hlow
    have hvalue : character.val.toNat % 256 = character.toNat := Nat.mod_eq_of_lt (by omega)
    simp only [List.map_cons, List.map_nil, UInt8.toNat_ofNat', Nat.reducePow, hvalue,
      Char.ofNat_toNat]
  · exfalso
    rename_i hhigh
    rw [if_neg hhigh] at h
    -- The first of several bytes is at least 192.
    split at h
    · simp only [isAscii, List.all_cons, Bool.and_eq_true, decide_eq_true_eq,
        UInt8.toNat_ofNat'] at h
      omega
    · split at h <;>
      · simp only [isAscii, List.all_cons, Bool.and_eq_true, decide_eq_true_eq,
          UInt8.toNat_ofNat'] at h
        omega

theorem encodeChars_ascii {text : List Char} (h : isAscii (encodeChars text) = true) :
    (encodeChars text).map (fun byte => Char.ofNat byte.toNat) = text := by
  induction text with
  | nil => rfl
  | cons character text ih =>
      have hsplit : encodeChars (character :: text) =
          String.utf8EncodeChar character ++ encodeChars text := List.flatMap_cons
      rw [hsplit] at h ⊢
      rw [isAscii, List.all_append, Bool.and_eq_true] at h
      rw [List.map_append, encodeChar_ascii h.1, ih h.2]
      rfl

theorem decodeChars_encodeChars (text : List Char) :
    decodeChars (encodeChars text) = some text := by
  unfold decodeChars
  split
  · rename_i hascii
    rw [encodeChars_ascii hascii]
  · have hencoded : (encodeChars text).toByteArray = text.utf8Encode := rfl
    rw [hencoded, List.utf8Decode?_utf8Encode]
    simp

-- Characters below 128 take one byte each.
theorem length_encodeChars_ascii {text : List Char} (h : ∀ character ∈ text, character.toNat < 128) :
    (encodeChars text).length = text.length := by
  induction text with
  | nil => rfl
  | cons character text ih =>
      have hfirst : character.toNat ≤ 127 := Nat.le_of_lt_succ (h character (by simp))
      have hsize : character.utf8Size = 1 := by
        unfold Char.utf8Size
        exact if_pos hfirst
      have hrest := ih fun other hmem => h other (by simp [hmem])
      have hsplit : encodeChars (character :: text) =
          String.utf8EncodeChar character ++ encodeChars text := List.flatMap_cons
      rw [hsplit, List.length_append, String.length_utf8EncodeChar, hsize, hrest, List.length_cons]
      omega

end Codec
