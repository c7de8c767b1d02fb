import Mathlib.Data.List.DropRight
import SatipClient.Foundation.CString

/-!
# Arrays of characters

A local array, as the list of all its bytes.  Reading and writing are checked, and so are the
functions of the C library that work on an array: `none` is an access outside of it.
-/

namespace SatipClient.CharArray

open CString (ofBytes)

/-- `array[index] = byte` -/
def assign (array : List UInt8) (index : ℕ) (byte : UInt8) : Option (List UInt8) :=
  if index < array.length then some (array.set index byte) else none

/-- The loop of `strcpy` from `index` on; the terminating NUL is copied too. -/
def strcpyFrom (array : List UInt8) (index : ℕ) : List UInt8 → Option (List UInt8)
  | [] => assign array index 0
  | byte :: rest => (assign array index byte).bind fun array ↦ strcpyFrom array (index + 1) rest

/-- `strcpy` -/
def strcpy (array s : List UInt8) : Option (List UInt8) := strcpyFrom array 0 s

/-- `strcspn`: the number of bytes in front of the first rejected one, or of the NUL. -/
def strcspn (reject : List UInt8) : List UInt8 → Option ℕ
  | [] => none
  | byte :: rest =>
    if byte = 0 ∨ byte ∈ reject then some 0 else (strcspn reject rest).map (· + 1)

/-- How many of the first bytes are left when those at their end that meet `p` are skipped; without
a byte left nothing is read. -/
def skipBack (p : UInt8 → Bool) (array : List UInt8) : ℕ → Option ℕ
  | 0 => some 0
  | size + 1 =>
    array[size]?.bind fun byte ↦ if p byte then skipBack p array size else some (size + 1)

variable {array s : List UInt8} {index : ℕ}

theorem assign_of_lt (h : index < array.length) (byte : UInt8) :
    assign array index byte = some (array.set index byte) := if_pos h

/-- The copy succeeds when there is room for the terminating NUL. -/
theorem strcpyFrom_eq (array : List UInt8) (index : ℕ) (s : List UInt8) :
    strcpyFrom array index s =
      if index + s.length < array.length then
        some (array.take index ++ s ++ 0 :: array.drop (index + s.length + 1))
      else none := by
  induction s generalizing array index with
  | nil =>
    rw [strcpyFrom, assign, List.length_nil, Nat.add_zero, List.append_nil]
    split
    case isTrue hroom => rw [List.set_eq_take_append_cons_drop, if_pos hroom]
    case isFalse => rfl
  | cons byte rest ih =>
    rw [strcpyFrom, List.length_cons]
    by_cases hroom : index < array.length
    · have htake : (array.set index byte).take (index + 1) = array.take index ++ [byte] := by
        rw [List.set_eq_take_append_cons_drop, if_pos hroom, List.take_append]
        simp [Nat.min_eq_left hroom.le]
      have hdrop : (array.set index byte).drop (index + 1 + rest.length + 1) =
          array.drop (index + (rest.length + 1) + 1) := by
        rw [List.drop_set_of_lt (by omega)]
        congr 1
        omega
      have hsame : index + 1 + rest.length = index + (rest.length + 1) := by omega
      rw [assign_of_lt hroom, Option.bind_some, ih, List.length_set, htake, hdrop, hsame]
      simp
    · have hshort : ¬index + (rest.length + 1) < array.length := by omega
      rw [assign, if_neg hroom, if_neg hshort, Option.bind_none]

theorem strcpy_eq (array s : List UInt8) :
    strcpy array s =
      if s.length < array.length then some (s ++ 0 :: array.drop (s.length + 1)) else none := by
  rw [strcpy, strcpyFrom_eq, Nat.zero_add, List.take_zero, List.nil_append]

/-- Within a string the search ends at the latest at its NUL. -/
theorem strcspn_append (reject : List UInt8) (hs : 0 ∉ s) (rest : List UInt8) :
    strcspn reject (s ++ 0 :: rest) =
      some (s.takeWhile fun byte ↦ byte ∉ reject).length := by
  induction s with
  | nil => simp [strcspn]
  | cons byte s ih =>
    obtain ⟨hbyte, hs⟩ : 0 ≠ byte ∧ 0 ∉ s := by simpa using hs
    rw [List.cons_append, strcspn, ih hs]
    by_cases hreject : byte ∈ reject
    · simp [hreject]
    · simp [hreject, hbyte.symm]

/-- Skipping back does not leave the bytes that are skipped. -/
theorem skipBack_append (p : UInt8 → Bool) (front back : List UInt8) :
    skipBack p (front ++ back) front.length = some (front.rdropWhile p).length := by
  induction front using List.reverseRecOn generalizing back with
  | nil => rfl
  | append_singleton front byte ih =>
    have hbyte : (front ++ [byte] ++ back)[front.length]? = some byte := by simp
    rw [List.length_append, List.length_singleton, skipBack, hbyte, Option.bind_some,
      List.rdropWhile_concat]
    split
    · rw [List.append_assoc]
      exact ih ([byte] ++ back)
    · simp

/-- A string is cut off by a NUL. -/
theorem ofBytes_set (h : index < array.length) (hnul : 0 ∉ array.take index) :
    ofBytes (array.set index 0) = array.take index := by
  rw [List.set_eq_take_append_cons_drop, if_pos h, CString.ofBytes_append hnul]
  simp [ofBytes]

end SatipClient.CharArray
