import MeridianS3.Json.Value
import MeridianS3.Codec.Sha256

namespace Json

open Codec

-- The compact text of a value, with the fields of an object as they come.
namespace Text

def natDigits (value : Nat) : List Char := Nat.toDigits 10 value

def writeInt : Int → List Char
  | .ofNat value => natDigits value
  | .negSucc value => '-' :: natDigits (value + 1)

-- Quotation marks, backslashes and control characters are escaped.
def escape (character : Char) : List Char :=
  if character = '"' then ['\\', '"']
  else if character = '\\' then ['\\', '\\']
  else if character.toNat < 32 then
    ['\\', 'u', '0', '0', hexDigit (character.toNat / 16), hexDigit character.toNat]
  else [character]

def quote (text : String) : List Char := '"' :: (text.toList.flatMap escape ++ ['"'])

mutual
def write : Value → List Char
  | .null => ['n', 'u', 'l', 'l']
  | .bool true => ['t', 'r', 'u', 'e']
  | .bool false => ['f', 'a', 'l', 's', 'e']
  | .int value => writeInt value
  | .float mantissa exponent => writeInt mantissa ++ 'e' :: writeInt exponent
  | .str text => quote text
  | .arr [] => ['[', ']']
  | .arr (item :: rest) => '[' :: (write item ++ writeItems rest)
  | .obj [] => ['{', '}']
  | .obj ((name, value) :: rest) => '{' :: (quote name ++ ':' :: (write value ++ writeFields rest))

def writeItems : List Value → List Char
  | [] => [']']
  | item :: rest => ',' :: (write item ++ writeItems rest)

def writeFields : List (String × Value) → List Char
  | [] => ['}']
  | (name, value) :: rest => ',' :: (quote name ++ ':' :: (write value ++ writeFields rest))
end

def readNat (text : List Char) : Option (Nat × List Char) :=
  match text.takeWhile Char.isDigit with
  | [] => none
  | digits => some (Nat.ofDigitChars 10 digits 0, text.dropWhile Char.isDigit)

def readInt : List Char → Option (Int × List Char)
  | '-' :: rest => (readNat rest).map fun (value, rest) => (-(value : Int), rest)
  | text => (readNat text).map fun (value, rest) => ((value : Int), rest)

def readNumber (text : List Char) : Option (Value × List Char) :=
  match readInt text with
  | none => none
  | some (mantissa, 'e' :: rest) =>
      (readInt rest).map fun (exponent, rest) => (.float mantissa exponent, rest)
  | some (value, rest) => some (.int value, rest)

def hexValue (digit : Char) : Option Nat := HEX_DIGITS.idxOf? digit

-- The characters up to the closing quotation mark, and what follows it.
def readString : List Char → Option (List Char × List Char)
  | [] => none
  | '"' :: rest => some ([], rest)
  | '\\' :: 'u' :: '0' :: '0' :: high :: low :: rest =>
      match hexValue high, hexValue low, readString rest with
      | some high, some low, some (text, rest) => some (Char.ofNat (16 * high + low) :: text, rest)
      | _, _, _ => none
  | '\\' :: escaped :: rest =>
      if escaped = '"' ∨ escaped = '\\' then
        (readString rest).map fun (text, rest) => (escaped :: text, rest)
      else none
  | character :: rest => (readString rest).map fun (text, rest) => (character :: text, rest)

def readLiteral (literal : List Char) (value : Value) (text : List Char) :
    Option (Value × List Char) :=
  if literal.isPrefixOf text then some (value, text.drop literal.length) else none

-- One value, with enough fuel for the nesting of what is read.
mutual
def read : Nat → List Char → Option (Value × List Char)
  | 0, _ | _, [] => none
  | fuel + 1, head :: rest =>
      if head = '"' then
        (readString rest).map fun (text, rest) => (.str (String.ofList text), rest)
      else if head = '[' then
        match rest with
        | ']' :: rest => some (.arr [], rest)
        | rest => (readItems fuel rest).map fun (items, rest) => (.arr items, rest)
      else if head = '{' then
        match rest with
        | '}' :: rest => some (.obj [], rest)
        | rest => (readFields fuel rest).map fun (fields, rest) => (.obj fields, rest)
      else if head = 'n' then readLiteral ['u', 'l', 'l'] .null rest
      else if head = 't' then readLiteral ['r', 'u', 'e'] (.bool true) rest
      else if head = 'f' then readLiteral ['a', 'l', 's', 'e'] (.bool false) rest
      else readNumber (head :: rest)

def readItems : Nat → List Char → Option (List Value × List Char)
  | 0, _ => none
  | fuel + 1, text =>
      match read fuel text with
      | some (item, ']' :: rest) => some ([item], rest)
      | some (item, ',' :: rest) =>
          (readItems fuel rest).map fun (items, rest) => (item :: items, rest)
      | _ => none

def readFields : Nat → List Char → Option (List (String × Value) × List Char)
  | 0, _ => none
  | fuel + 1, '"' :: text =>
      match readString text with
      | some (name, ':' :: rest) =>
          match read fuel rest with
          | some (value, '}' :: rest) => some ([(String.ofList name, value)], rest)
          | some (value, ',' :: rest) =>
              (readFields fuel rest).map fun (fields, rest) =>
                ((String.ofList name, value) :: fields, rest)
          | _ => none
      | _ => none
  | _, _ => none
end

def readAll (text : List Char) : Option Value :=
  match read (2 * text.length) text with
  | some (value, []) => some value
  | _ => none

-- What follows a value does not go on with a number.
def Ends (rest : List Char) : Prop := ∀ next ∈ rest.head?, next.isDigit = false ∧ next ≠ 'e'

theorem ends_cons {next : Char} (hdigit : next.isDigit = false) (he : next ≠ 'e')
    (rest : List Char) : Ends (next :: rest) := by
  intro other hother
  simp only [List.head?_cons, Option.mem_def, Option.some.injEq] at hother
  subst hother
  exact ⟨hdigit, he⟩

theorem natDigits_head (value : Nat) :
    ∃ head rest, natDigits value = head :: rest ∧ head.isDigit = true := by
  cases hcases : natDigits value with
  | nil => exact absurd hcases Nat.toDigits_ne_nil
  | cons head rest =>
      have hmem : head ∈ Nat.toDigits 10 value := by
        change head ∈ natDigits value
        simp [hcases]
      exact ⟨head, rest, rfl, Nat.isDigit_of_mem_toDigits (by decide) (by decide) hmem⟩

theorem readNat_natDigits (value : Nat) {rest : List Char}
    (hrest : ∀ next ∈ rest.head?, next.isDigit = false) :
    readNat (natDigits value ++ rest) = some (value, rest) := by
  have hdigits : ∀ character ∈ natDigits value, character.isDigit = true := fun character h =>
    Nat.isDigit_of_mem_toDigits (by decide) (by decide) h
  have htail : rest.takeWhile Char.isDigit = [] ∧ rest.dropWhile Char.isDigit = rest := by
    cases rest with
    | nil => exact ⟨rfl, rfl⟩
    | cons next rest => simp [hrest next rfl]
  have htake : (natDigits value ++ rest).takeWhile Char.isDigit = natDigits value := by
    rw [List.takeWhile_append_of_pos hdigits, htail.1, List.append_nil]
  have hdrop : (natDigits value ++ rest).dropWhile Char.isDigit = rest := by
    rw [List.dropWhile_append_of_pos hdigits, htail.2]
  have hread : Nat.ofDigitChars 10 (natDigits value) 0 = value :=
    Nat.ofDigitChars_toDigits (by decide) (by decide)
  obtain ⟨head, digits, hcases, -⟩ := natDigits_head value
  unfold readNat
  rw [htake, hdrop]
  rw [hcases] at hread ⊢
  simp [hread]

theorem writeInt_head (value : Int) : ∃ head rest, writeInt value = head :: rest ∧
    (head.isDigit = true ∨ head = '-') := by
  cases value with
  | negSucc value => exact ⟨'-', _, rfl, Or.inr rfl⟩
  | ofNat value =>
      obtain ⟨head, digits, hcases, hdigit⟩ := natDigits_head value
      exact ⟨head, digits, hcases, Or.inl hdigit⟩

theorem readInt_writeInt (value : Int) {rest : List Char}
    (hrest : ∀ next ∈ rest.head?, next.isDigit = false) :
    readInt (writeInt value ++ rest) = some (value, rest) := by
  cases value with
  | negSucc value =>
      simp only [writeInt, List.cons_append, readInt, readNat_natDigits _ hrest, Option.map_some]
      rfl
  | ofNat value =>
      have hread := readNat_natDigits value hrest
      obtain ⟨head, digits, hcases, hdigit⟩ := natDigits_head value
      simp only [writeInt, hcases, List.cons_append] at hread ⊢
      unfold readInt
      split
      · rename_i heq
        obtain ⟨rfl, -⟩ := List.cons.inj heq
        exact absurd hdigit (by decide)
      · rw [hread]
        rfl

theorem readNumber_int (value : Int) {rest : List Char} (hrest : Ends rest) :
    readNumber (writeInt value ++ rest) = some (.int value, rest) := by
  unfold readNumber
  rw [readInt_writeInt value fun next hnext => (hrest next hnext).1]
  cases rest with
  | nil => rfl
  | cons next rest =>
      split
      · rename_i heq
        cases heq
      · rename_i heq
        simp only [Option.some.injEq, Prod.mk.injEq, List.cons.injEq] at heq
        exact absurd heq.2.1 (hrest next rfl).2
      · rename_i heq
        simp only [Option.some.injEq, Prod.mk.injEq] at heq
        obtain ⟨rfl, rfl⟩ := heq
        rfl

theorem readNumber_float (mantissa exponent : Int) {rest : List Char} (hrest : Ends rest) :
    readNumber (writeInt mantissa ++ 'e' :: (writeInt exponent ++ rest)) =
      some (.float mantissa exponent, rest) := by
  have hmantissa : readInt (writeInt mantissa ++ 'e' :: (writeInt exponent ++ rest)) =
      some (mantissa, 'e' :: (writeInt exponent ++ rest)) := by
    apply readInt_writeInt
    rintro next hnext
    simp only [List.head?_cons, Option.mem_def, Option.some.injEq] at hnext
    subst hnext
    decide
  simp only [readNumber, hmantissa, readInt_writeInt exponent fun next hnext => (hrest next hnext).1,
    Option.map_some]

theorem hexValue_hexDigit (value : Nat) : hexValue (hexDigit value) = some (value % 16) := by
  have hall : ∀ value : Fin 16, hexValue (HEX_DIGITS.getD value '0') = some value.val := by decide
  exact hall ⟨value % 16, Nat.mod_lt _ (by decide)⟩

theorem readString_escape (character : Char) (rest : List Char) :
    readString (escape character ++ rest) =
      (readString rest).map fun (text, rest) => (character :: text, rest) := by
  unfold escape
  split
  · rename_i h
    subst h
    simp [readString]
  · split
    · rename_i h
      subst h
      simp [readString]
    · split
      · rename_i hcontrol
        have hvalue : 16 * (character.toNat / 16 % 16) + character.toNat % 16 =
            character.toNat := by omega
        simp only [List.cons_append, List.nil_append, readString, hexValue_hexDigit]
        cases readString rest with
        | none => rfl
        | some result => simp [hvalue]
      · rename_i hquote hslash _
        cases rest <;> simp [readString, hslash]

theorem readString_text (text rest : List Char) :
    readString (text.flatMap escape ++ '"' :: rest) = some (text, rest) := by
  induction text with
  | nil => rfl
  | cons character text ih =>
      rw [List.flatMap_cons, List.append_assoc, readString_escape, ih]
      rfl

theorem readString_quote (text : String) (rest : List Char) :
    readString (text.toList.flatMap escape ++ ['"'] ++ rest) = some (text.toList, rest) := by
  rw [List.append_assoc]
  exact readString_text text.toList rest

theorem write_head (value : Value) :
    ∃ head rest, write value = head :: rest ∧ head ≠ ']' := by
  have hint (number : Int) (tail : List Char) :
      ∃ head rest, writeInt number ++ tail = head :: rest ∧ head ≠ ']' := by
    obtain ⟨head, rest, hhead, hshape⟩ := writeInt_head number
    refine ⟨head, rest ++ tail, by rw [hhead]; rfl, ?_⟩
    rintro rfl
    rcases hshape with hdigit | hsign
    · exact absurd hdigit (by decide)
    · exact absurd hsign (by decide)
  cases value with
  | null => exact ⟨_, _, rfl, by decide⟩
  | bool value => cases value <;> exact ⟨_, _, rfl, by decide⟩
  | int value => simpa [write] using hint value []
  | float mantissa exponent => exact hint mantissa _
  | str text => exact ⟨_, _, rfl, by decide⟩
  | arr items => cases items <;> exact ⟨_, _, rfl, by decide⟩
  | obj fields =>
      cases fields with
      | nil => exact ⟨_, _, rfl, by decide⟩
      | cons field rest =>
          rcases field with ⟨name, value⟩
          exact ⟨_, _, rfl, by decide⟩

theorem read_number {number : Value} {head : Char} {text rest : List Char} (fuel : Nat)
    (hshape : head.isDigit = true ∨ head = '-')
    (hread : readNumber (head :: text) = some (number, rest)) :
    read (fuel + 1) (head :: text) = some (number, rest) := by
  have hnot (other : Char) (hdigit : other.isDigit = false) (hsign : other ≠ '-') :
      head ≠ other := by
    rintro rfl
    rcases hshape with h | h
    · rw [hdigit] at h
      cases h
    · exact hsign h
  unfold read
  rw [if_neg (hnot '"' (by decide) (by decide)), if_neg (hnot '[' (by decide) (by decide)),
    if_neg (hnot '{' (by decide) (by decide)), if_neg (hnot 'n' (by decide) (by decide)),
    if_neg (hnot 't' (by decide) (by decide)), if_neg (hnot 'f' (by decide) (by decide)), hread]

-- Enough fuel for a value is twice the length of its text: every level of nesting takes
-- two steps and writes a character of its own.
mutual
theorem read_write (value : Value) (rest : List Char) (fuel : Nat)
    (hfuel : 2 * (write value).length ≤ fuel) (hrest : Ends rest) :
    read fuel (write value ++ rest) = some (value, rest) := by
  obtain ⟨head, tail, hhead, -⟩ := write_head value
  obtain ⟨fuel, rfl⟩ : ∃ less, fuel = less + 1 := by
    refine ⟨fuel - 1, ?_⟩
    rw [hhead, List.length_cons] at hfuel
    omega
  match value with
  | .null => rfl
  | .bool true => rfl
  | .bool false => rfl
  | .int value =>
      obtain ⟨head, digits, hdigits, hshape⟩ := writeInt_head value
      have hread := readNumber_int value hrest
      simp only [write, hdigits, List.cons_append] at hread ⊢
      exact read_number fuel hshape hread
  | .float mantissa exponent =>
      obtain ⟨head, digits, hdigits, hshape⟩ := writeInt_head mantissa
      have hread := readNumber_float mantissa exponent hrest
      simp only [write, hdigits, List.cons_append, List.append_assoc] at hread ⊢
      exact read_number fuel hshape hread
  | .str text =>
      simp only [write, quote, List.cons_append, read, if_pos, readString_quote, Option.map_some,
        String.ofList_toList]
  | .arr [] => rfl
  | .arr (item :: items) =>
      obtain ⟨first, others, hfirst, hopen⟩ := write_head item
      have hitems : readItems fuel (write item ++ writeItems items ++ rest) =
          some (item :: items, rest) := by
        apply readItems_write item items rest fuel
        simp only [write, List.length_cons, List.length_append] at hfuel ⊢
        omega
      rw [hfirst, List.cons_append, List.cons_append] at hitems
      simp only [write, hfirst, List.cons_append]
      unfold read
      rw [if_neg (by decide), if_pos rfl]
      split
      · rename_i heq
        exact absurd (List.cons.inj heq).1 hopen
      · rw [hitems]
        rfl
  | .obj [] => rfl
  | .obj ((name, value) :: fields) =>
      have hfields : readFields fuel (quote name ++ ':' :: (write value ++ writeFields fields) ++
          rest) = some ((name, value) :: fields, rest) := by
        apply readFields_write name value fields rest fuel
        simp only [write, List.length_cons, List.length_append] at hfuel ⊢
        omega
      simp only [write, quote, List.cons_append] at hfields ⊢
      unfold read
      rw [if_neg (by decide), if_neg (by decide), if_pos rfl]
      split
      · rename_i heq
        exact absurd (List.cons.inj heq).1 (by decide)
      · rw [hfields]
        rfl
termination_by fuel

theorem readItems_write (item : Value) (items : List Value) (rest : List Char) (fuel : Nat)
    (hfuel : 2 * (write item ++ writeItems items).length + 1 ≤ fuel) :
    readItems fuel (write item ++ writeItems items ++ rest) = some (item :: items, rest) := by
  obtain ⟨fuel, rfl⟩ : ∃ less, fuel = less + 1 := ⟨fuel - 1, by omega⟩
  rw [List.append_assoc]
  match items with
  | [] =>
      have hread : read fuel (write item ++ (writeItems [] ++ rest)) = some (item, ']' :: rest) := by
        apply read_write item _ fuel
        · simp only [List.length_append] at hfuel
          omega
        · exact ends_cons (by decide) (by decide) rest
      rw [readItems, hread]
      rfl
  | next :: items =>
      have hread : read fuel (write item ++ (writeItems (next :: items) ++ rest)) =
          some (item, ',' :: (write next ++ writeItems items ++ rest)) := by
        apply read_write item _ fuel
        · simp only [List.length_append] at hfuel
          omega
        · exact ends_cons (by decide) (by decide) _
      have hitems : readItems fuel (write next ++ writeItems items ++ rest) =
          some (next :: items, rest) := by
        apply readItems_write next items rest fuel
        simp only [writeItems, List.length_cons, List.length_append] at hfuel ⊢
        omega
      rw [readItems, hread]
      simp only [hitems, Option.map_some]
termination_by fuel

theorem readFields_write (name : String) (value : Value) (fields : List (String × Value))
    (rest : List Char) (fuel : Nat)
    (hfuel : 2 * (quote name ++ ':' :: (write value ++ writeFields fields)).length + 1 ≤ fuel) :
    readFields fuel (quote name ++ ':' :: (write value ++ writeFields fields) ++ rest) =
      some ((name, value) :: fields, rest) := by
  obtain ⟨fuel, rfl⟩ : ∃ less, fuel = less + 1 := ⟨fuel - 1, by omega⟩
  simp only [quote, List.cons_append, List.append_assoc, List.nil_append] at hfuel ⊢
  match fields with
  | [] =>
      have hread : read fuel (write value ++ (writeFields [] ++ rest)) =
          some (value, '}' :: rest) := by
        apply read_write value _ fuel
        · simp only [List.length_append, List.length_cons] at hfuel
          omega
        · exact ends_cons (by decide) (by decide) rest
      rw [readFields, readString_text]
      simp only [hread, String.ofList_toList]
  | (next, held) :: fields =>
      have hread : read fuel (write value ++ (writeFields ((next, held) :: fields) ++ rest)) =
          some (value, ',' ::
            (quote next ++ ':' :: (write held ++ writeFields fields) ++ rest)) := by
        apply read_write value _ fuel
        · simp only [List.length_append, List.length_cons] at hfuel
          omega
        · exact ends_cons (by decide) (by decide) _
      have hfields : readFields fuel (quote next ++ ':' :: (write held ++ writeFields fields) ++
          rest) = some ((next, held) :: fields, rest) := by
        apply readFields_write next held fields rest fuel
        simp only [writeFields, List.length_cons, List.length_append] at hfuel ⊢
        omega
      rw [readFields, readString_text]
      simp only [hread, hfields, Option.map_some, String.ofList_toList]
termination_by fuel
end

theorem readAll_write (value : Value) : readAll (write value) = some value := by
  have hread := read_write value [] (2 * (write value).length) le_rfl (by simp [Ends])
  rw [List.append_nil] at hread
  simp only [readAll, hread]

end Text

end Json
