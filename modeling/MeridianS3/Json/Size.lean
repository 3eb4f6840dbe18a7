import MeridianS3.Codec.Utf8
import MeridianS3.Json.Text

namespace Json

namespace Text

def quoteRoom (text : String) : Nat := 6 * text.utf8ByteSize + 2

mutual
-- Characters that are enough for the text of a value.
def room : Value → Nat
  | .null => 4
  | .bool _ => 5
  | .int value => (writeInt value).length
  | .float mantissa exponent => (writeInt mantissa).length + (writeInt exponent).length + 1
  | .str text => quoteRoom text
  | .arr items => roomItems items + 2
  | .obj fields => roomFields fields + 2

def roomItems : List Value → Nat
  | [] => 0
  | item :: rest => room item + roomItems rest + 1

def roomFields : List (String × Value) → Nat
  | [] => 0
  | (name, value) :: rest => quoteRoom name + room value + roomFields rest + 2
end

theorem length_escape (character : Char) : (escape character).length ≤ 6 := by
  unfold escape
  split
  · simp
  · split
    · simp
    · split <;> simp

-- A character takes a byte at least.
theorem length_toList (text : String) : text.toList.length ≤ text.utf8ByteSize := by
  have hlength (characters : List Char) : characters.length ≤ String.utf8Len characters := by
    induction characters with
    | nil => rfl
    | cons character characters ih =>
        have hone := Char.utf8Size_pos character
        simp only [String.utf8Len_cons, List.length_cons]
        omega
  rw [← String.utf8Len_toList]
  exact hlength text.toList

theorem length_quote (text : String) : (quote text).length ≤ quoteRoom text := by
  have hescaped (characters : List Char) :
      (characters.flatMap escape).length ≤ 6 * characters.length := by
    induction characters with
    | nil => rfl
    | cons character characters ih =>
        have hone := length_escape character
        simp only [List.flatMap_cons, List.length_append, List.length_cons]
        omega
  have htext := hescaped text.toList
  have hsize := length_toList text
  simp only [quote, quoteRoom, List.length_cons, List.length_append, List.length_nil]
  omega

mutual
theorem length_write (value : Value) : (write value).length ≤ room value := by
  match value with
  | .null => simp [write, room]
  | .bool true => simp [write, room]
  | .bool false => simp [write, room]
  | .int value => simp [write, room]
  | .float mantissa exponent =>
      simp only [write, room, List.length_append, List.length_cons]
      omega
  | .str text => exact length_quote text
  | .arr [] => simp [write, room, roomItems]
  | .arr (item :: rest) =>
      have hitem := length_write item
      have hrest := length_writeItems rest
      simp only [write, room, roomItems, List.length_cons, List.length_append]
      omega
  | .obj [] => simp [write, room, roomFields]
  | .obj ((name, value) :: rest) =>
      have hname := length_quote name
      have hvalue := length_write value
      have hrest := length_writeFields rest
      simp only [write, room, roomFields, List.length_cons, List.length_append]
      omega

theorem length_writeItems (items : List Value) :
    (writeItems items).length ≤ roomItems items + 1 := by
  match items with
  | [] => simp [writeItems, roomItems]
  | item :: rest =>
      have hitem := length_write item
      have hrest := length_writeItems rest
      simp only [writeItems, roomItems, List.length_cons, List.length_append]
      omega

theorem length_writeFields (fields : List (String × Value)) :
    (writeFields fields).length ≤ roomFields fields + 1 := by
  match fields with
  | [] => simp [writeFields, roomFields]
  | (name, value) :: rest =>
      have hname := length_quote name
      have hvalue := length_write value
      have hrest := length_writeFields rest
      simp only [writeFields, roomFields, List.length_cons, List.length_append]
      omega
end

-- A character takes four bytes at most.
theorem length_encoded (value : Value) :
    (Codec.encodeChars (write value)).length ≤ 4 * room value := by
  have hencoded (characters : List Char) :
      (Codec.encodeChars characters).length ≤ 4 * characters.length := by
    induction characters with
    | nil => rfl
    | cons character characters ih =>
        have hone : (String.utf8EncodeChar character).length ≤ 4 := by
          rw [String.length_utf8EncodeChar]
          exact Char.utf8Size_le_four character
        simp only [Codec.encodeChars, List.flatMap_cons, List.length_append,
          List.length_cons] at ih ⊢
        omega
  have hwritten := hencoded (write value)
  have hroom := length_write value
  omega

end Text

end Json
