import Mathlib.Algebra.Ring.Nat
import Mathlib.Data.List.Basic

namespace Codec

namespace Clock

-- The last digits of a number, as many as given, most significant first.
def digits : Nat → Nat → List Char
  | 0, _ => []
  | width + 1, value => digits width (value / 10) ++ [Nat.digitChar (value % 10)]

-- A time of January 1970.
structure Reading where
  day : Nat
  hour : Nat
  minute : Nat
  second : Nat
  microsecond : Nat

def Reading.ofMicroseconds (time : Nat) : Reading where
  day := time / 1000000 / 60 / 60 / 24 + 1
  hour := time / 1000000 / 60 / 60 % 24
  minute := time / 1000000 / 60 % 60
  second := time / 1000000 % 60
  microsecond := time % 1000000

def Reading.microseconds (reading : Reading) : Nat :=
  ((((reading.day - 1) * 24 + reading.hour) * 60 + reading.minute) * 60 + reading.second) *
    1000000 + reading.microsecond

def Reading.date (reading : Reading) : List Char := "1970-01-".toList ++ digits 2 reading.day

def Reading.clock (reading : Reading) : List Char :=
  digits 2 reading.hour ++ ':' :: (digits 2 reading.minute ++ ':' :: digits 2 reading.second)

-- Later times are counted, with a mark that no date starts with.
def counted (time : Nat) : List Char := '+' :: Nat.toDigits 10 time

def inJanuary (time : Nat) : Bool := decide (time / 1000000 / 60 / 60 / 24 < 31)

-- strftime("%Y-%m-%dT%H:%M:%S.%fZ")
def Reading.stamp (reading : Reading) : List Char :=
  reading.date ++ 'T' :: (reading.clock ++ '.' :: (digits 6 reading.microsecond ++ ['Z']))

def stamp (time : Nat) : List Char :=
  if inJanuary time then (Reading.ofMicroseconds time).stamp else counted time

-- datetime.isoformat(separator). The microseconds are left out where they are zero.
def isoformat (separator : Char) (time : Nat) : List Char :=
  let reading := Reading.ofMicroseconds time
  if inJanuary time then
    reading.date ++ separator :: (reading.clock ++
      (if reading.microsecond = 0 then [] else '.' :: digits 6 reading.microsecond) ++
      "+00:00".toList)
  else counted time

def readDigits (text : List Char) : Nat := Nat.ofDigitChars 10 text 0

def Reading.ofStamp (text : List Char) : Reading where
  day := readDigits ((text.drop 8).take 2)
  hour := readDigits ((text.drop 11).take 2)
  minute := readDigits ((text.drop 14).take 2)
  second := readDigits ((text.drop 17).take 2)
  microsecond := readDigits ((text.drop 20).take 6)

-- A time is read from the text that it is written as, and from no other.
def readStamp (text : List Char) : Option Nat :=
  let time := if text.head? = some '+' then readDigits text.tail
    else (Reading.ofStamp text).microseconds
  if stamp time = text then some time else none

theorem length_digits (width value : Nat) : (digits width value).length = width := by
  induction width generalizing value with
  | zero => rfl
  | succ width ih => simp [digits, ih]

theorem digits_mem {width value : Nat} {character : Char} (h : character ∈ digits width value) :
    ∃ digit < 10, character = Nat.digitChar digit := by
  induction width generalizing value with
  | zero => exact absurd h List.not_mem_nil
  | succ width ih =>
      rw [digits, List.mem_append, List.mem_singleton] at h
      rcases h with h | rfl
      · exact ih h
      · exact ⟨value % 10, Nat.mod_lt _ (by decide), rfl⟩

theorem readDigits_digits (width value : Nat) :
    readDigits (digits width value) = value % 10 ^ width := by
  induction width generalizing value with
  | zero => simp [digits, readDigits, Nat.mod_one]
  | succ width ih =>
      have hdigit : value % 10 < 10 := Nat.mod_lt _ (by decide)
      unfold readDigits at ih ⊢
      rw [digits, Nat.ofDigitChars_append, ih,
        Nat.ofDigitChars_cons_digitChar_of_lt_ten hdigit, Nat.ofDigitChars_nil]
      rw [Nat.pow_succ, Nat.mul_comm (10 ^ width) 10, Nat.mod_mul]
      omega

theorem Reading.ofStamp_stamp (reading : Reading) (hday : reading.day < 100)
    (hhour : reading.hour < 100) (hminute : reading.minute < 100) (hsecond : reading.second < 100)
    (hmicrosecond : reading.microsecond < 1000000) : ofStamp reading.stamp = reading := by
  rcases reading with ⟨day, hour, minute, second, microsecond⟩
  have hread (width value : Nat) (h : value < 10 ^ width) :
      readDigits (digits width value) = value := by
    rw [readDigits_digits, Nat.mod_eq_of_lt h]
  have hfields : ofStamp (Reading.stamp ⟨day, hour, minute, second, microsecond⟩) =
      ⟨readDigits (digits 2 day), readDigits (digits 2 hour), readDigits (digits 2 minute),
        readDigits (digits 2 second), readDigits (digits 6 microsecond)⟩ := rfl
  rw [hfields, hread 2 day hday, hread 2 hour hhour, hread 2 minute hminute, hread 2 second hsecond,
    hread 6 microsecond hmicrosecond]

theorem Reading.microseconds_of (time : Nat) : (ofMicroseconds time).microseconds = time := by
  simp only [microseconds, ofMicroseconds]
  omega

theorem readStamp_stamp (time : Nat) : readStamp (stamp time) = some time := by
  have hdigits : readDigits (Nat.toDigits 10 time) = time :=
    Nat.ofDigitChars_toDigits (by decide) (by decide)
  have htime : (if (stamp time).head? = some '+' then readDigits (stamp time).tail
      else (Reading.ofStamp (stamp time)).microseconds) = time := by
    unfold stamp
    cases hjanuary : inJanuary time with
    | false =>
        simp only [Bool.false_eq_true, if_false, counted, List.head?_cons, if_true, List.tail_cons]
        exact hdigits
    | true =>
        have hday : time / 1000000 / 60 / 60 / 24 < 31 := of_decide_eq_true hjanuary
        have hnot : ((Reading.ofMicroseconds time).stamp).head? ≠ some '+' := by
          have hhead : ((Reading.ofMicroseconds time).stamp).head? = some '1' := rfl
          rw [hhead]
          decide
        simp only [if_true, if_neg hnot]
        rw [Reading.ofStamp_stamp, Reading.microseconds_of]
        · simp only [Reading.ofMicroseconds]
          omega
        · simp only [Reading.ofMicroseconds]
          omega
        · simp only [Reading.ofMicroseconds]
          omega
        · simp only [Reading.ofMicroseconds]
          omega
        · exact Nat.mod_lt _ (by decide)
  unfold readStamp
  simp only [htime, if_true]

end Clock

end Codec
