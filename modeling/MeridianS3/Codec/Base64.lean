import Mathlib.Data.String.Basic

namespace Codec

-- A base64 alphabet as the characters of the sextets from 0 to 63.
abbrev Alphabet := List Char

def STANDARD : Alphabet :=
  "ABCDEFGHIJKLMNOPQRSTUVWXYZabcdefghijklmnopqrstuvwxyz0123456789+/".toList

def URL_SAFE : Alphabet :=
  "ABCDEFGHIJKLMNOPQRSTUVWXYZabcdefghijklmnopqrstuvwxyz0123456789-_".toList

def toSextets : List UInt8 → List Nat
  | [] => []
  | [a] => [a.toNat / 4, a.toNat % 4 * 16]
  | [a, b] => [a.toNat / 4, a.toNat % 4 * 16 + b.toNat / 16, b.toNat % 16 * 4]
  | a :: b :: c :: rest =>
      a.toNat / 4 :: (a.toNat % 4 * 16 + b.toNat / 16) :: (b.toNat % 16 * 4 + c.toNat / 64) ::
        c.toNat % 64 :: toSextets rest

-- The bits that the last sextet has in excess are dropped unseen.
def ofSextets : List Nat → Option (List UInt8)
  | [] => some []
  | [_] => none
  | [a, b] => some [.ofNat (a * 4 + b / 16)]
  | [a, b, c] => some [.ofNat (a * 4 + b / 16), .ofNat (b % 16 * 16 + c / 4)]
  | a :: b :: c :: d :: rest =>
      (ofSextets rest).map ([.ofNat (a * 4 + b / 16), .ofNat (b % 16 * 16 + c / 4),
        .ofNat (c % 4 * 64 + d)] ++ ·)

-- The encoding without its padding.
def encodeUnpadded (alphabet : Alphabet) (raw : List UInt8) : List Char :=
  (toSextets raw).map fun sextet => alphabet.getD sextet '='

-- Strict decoding: the padding completes the last group of four, nothing follows it,
-- and every other character stands for a sextet in one of the alphabets.
def decodePadded (alphabets : List Alphabet) (text : List Char) : Option (List UInt8) := do
  let data := text.takeWhile (· ≠ '=')
  let padding := text.dropWhile (· ≠ '=')
  guard (padding = List.replicate ((4 - data.length % 4) % 4) '=')
  let sextets ← data.mapM fun character =>
    alphabets.findSome? fun alphabet => alphabet.idxOf? character
  ofSextets sextets

theorem toSextets_lt (raw : List UInt8) : ∀ sextet ∈ toSextets raw, sextet < 64 := by
  induction raw using toSextets.induct with
  | case1 => simp [toSextets]
  | case2 a =>
    have ha := a.toNat_lt
    simp only [toSextets, List.mem_cons, List.not_mem_nil, or_false, forall_eq_or_imp, forall_eq]
    omega
  | case3 a b =>
    have ha := a.toNat_lt
    have hb := b.toNat_lt
    simp only [toSextets, List.mem_cons, List.not_mem_nil, or_false, forall_eq_or_imp, forall_eq]
    omega
  | case4 a b c rest ih =>
    have ha := a.toNat_lt
    have hb := b.toNat_lt
    have hc := c.toNat_lt
    simp only [toSextets, List.mem_cons, forall_eq_or_imp]
    exact ⟨by omega, by omega, by omega, by omega, ih⟩

-- Four sextets for three bytes, and one more than the bytes in the last group.
theorem length_toSextets (raw : List UInt8) :
    (toSextets raw).length = (4 * raw.length + 2) / 3 := by
  induction raw using toSextets.induct with
  | case1 => rfl
  | case2 a => simp [toSextets]
  | case3 a b => simp [toSextets]
  | case4 a b c rest ih =>
    simp only [toSextets, List.length_cons, ih]
    omega

theorem ofNat_eq_of_toNat {byte : UInt8} {value : Nat} (h : value = byte.toNat) :
    UInt8.ofNat value = byte := by
  rw [h, UInt8.ofNat_toNat]

theorem ofSextets_toSextets (raw : List UInt8) : ofSextets (toSextets raw) = some raw := by
  induction raw using toSextets.induct with
  | case1 => rfl
  | case2 a =>
    have ha : UInt8.ofNat (a.toNat / 4 * 4 + a.toNat % 4 * 16 / 16) = a :=
      ofNat_eq_of_toNat (by omega)
    simp only [toSextets, ofSextets, ha]
  | case3 a b =>
    have hb := b.toNat_lt
    have hfirst : UInt8.ofNat (a.toNat / 4 * 4 + (a.toNat % 4 * 16 + b.toNat / 16) / 16) = a :=
      ofNat_eq_of_toNat (by omega)
    have hsecond : UInt8.ofNat ((a.toNat % 4 * 16 + b.toNat / 16) % 16 * 16 +
        b.toNat % 16 * 4 / 4) = b :=
      ofNat_eq_of_toNat (by omega)
    simp only [toSextets, ofSextets, hfirst, hsecond]
  | case4 a b c rest ih =>
    have hb := b.toNat_lt
    have hc := c.toNat_lt
    have hfirst : UInt8.ofNat (a.toNat / 4 * 4 + (a.toNat % 4 * 16 + b.toNat / 16) / 16) = a :=
      ofNat_eq_of_toNat (by omega)
    have hsecond : UInt8.ofNat ((a.toNat % 4 * 16 + b.toNat / 16) % 16 * 16 +
        (b.toNat % 16 * 4 + c.toNat / 64) / 4) = b :=
      ofNat_eq_of_toNat (by omega)
    have hthird : UInt8.ofNat ((b.toNat % 16 * 4 + c.toNat / 64) % 4 * 64 + c.toNat % 64) = c :=
      ofNat_eq_of_toNat (by omega)
    simp only [toSextets, ofSextets, ih, hfirst, hsecond, hthird, Option.map_some, List.cons_append,
      List.nil_append]

-- The decoding alphabets read each sextet's character back, and the padding character
-- is none of them.
def Reads (alphabets : List Alphabet) (alphabet : Alphabet) : Prop :=
  ∀ sextet < 64, alphabet.getD sextet '=' ≠ '=' ∧
    (alphabets.findSome? fun other => other.idxOf? (alphabet.getD sextet '=')) = some sextet

instance (alphabets : List Alphabet) (alphabet : Alphabet) :
    Decidable (Reads alphabets alphabet) :=
  inferInstanceAs (Decidable (∀ sextet < 64, _))

theorem reads_urlSafe : Reads [STANDARD, URL_SAFE] URL_SAFE := by decide +kernel

theorem length_encodeUnpadded (alphabet : Alphabet) (raw : List UInt8) :
    (encodeUnpadded alphabet raw).length = (4 * raw.length + 2) / 3 := by
  rw [encodeUnpadded, List.length_map, length_toSextets]

theorem mem_of_mem_encodeUnpadded {alphabet : Alphabet} (hlength : alphabet.length = 64)
    (raw : List UInt8) : ∀ character ∈ encodeUnpadded alphabet raw, character ∈ alphabet := by
  intro character hmem
  obtain ⟨sextet, hsextet, rfl⟩ := List.mem_map.mp hmem
  have hlt : sextet < alphabet.length := hlength ▸ toSextets_lt raw sextet hsextet
  rw [List.getD_eq_getElem?_getD, List.getElem?_eq_getElem hlt, Option.getD_some]
  exact List.getElem_mem hlt

theorem mapM_encodeUnpadded {alphabets : List Alphabet} {alphabet : Alphabet}
    (hreads : Reads alphabets alphabet) (raw : List UInt8) :
    ((encodeUnpadded alphabet raw).mapM fun character =>
      alphabets.findSome? fun other => other.idxOf? character) = some (toSextets raw) := by
  have hall := toSextets_lt raw
  unfold encodeUnpadded
  generalize toSextets raw = sextets at hall
  induction sextets with
  | nil => rfl
  | cons sextet rest ih =>
    have hread := (hreads sextet (hall sextet (by simp))).2
    have hrest := ih fun other hmem => hall other (by simp [hmem])
    simp only [List.map_cons, List.mapM_cons, hread, hrest]
    rfl

theorem encodeUnpadded_ne_padding {alphabets : List Alphabet} {alphabet : Alphabet}
    (hreads : Reads alphabets alphabet) (raw : List UInt8) :
    ∀ character ∈ encodeUnpadded alphabet raw, character ≠ '=' := by
  intro character hmem
  obtain ⟨sextet, hsextet, rfl⟩ := List.mem_map.mp hmem
  exact (hreads sextet (toSextets_lt raw sextet hsextet)).1

theorem takeWhile_padded {data : List Char} (h : ∀ character ∈ data, character ≠ '=') (count : Nat) :
    (data ++ List.replicate count '=').takeWhile (· ≠ '=') = data := by
  rw [List.takeWhile_append_of_pos (by simpa using h)]
  cases count <;> simp [List.replicate_succ]

theorem dropWhile_padded {data : List Char} (h : ∀ character ∈ data, character ≠ '=') (count : Nat) :
    (data ++ List.replicate count '=').dropWhile (· ≠ '=') = List.replicate count '=' := by
  rw [List.dropWhile_append_of_pos (by simpa using h)]
  cases count <;> simp [List.replicate_succ]

-- Padding an unpadded encoding again and decoding it gives the bytes, whatever length
-- the last group has.
theorem decodePadded_encodeUnpadded {alphabets : List Alphabet} {alphabet : Alphabet}
    (hreads : Reads alphabets alphabet) (raw : List UInt8) :
    decodePadded alphabets (encodeUnpadded alphabet raw ++
      List.replicate ((4 - (encodeUnpadded alphabet raw).length % 4) % 4) '=') = some raw := by
  have hnone := encodeUnpadded_ne_padding hreads raw
  unfold decodePadded
  rw [takeWhile_padded hnone, dropWhile_padded hnone]
  unfold guard
  dsimp only
  rw [if_pos rfl, mapM_encodeUnpadded hreads]
  exact ofSextets_toSextets raw

end Codec
