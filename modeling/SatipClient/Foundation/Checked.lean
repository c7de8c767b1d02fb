import Mathlib.Data.List.Basic
import Mathlib.Data.Nat.Bits
import Mathlib.Tactic.Common

/-!
# Checked access to byte buffers

Code that indexes raw memory is modelled in `Option`: `none` is an access outside the
memory the code was given.  A program of this kind is memory safe on an input when its
model answers `some` there, so safety is a statement about the model itself and needs no
second, instrumented copy of it.

The readers below are the only ways in which the models look at a buffer.
-/

namespace SatipClient.Checked

/-- The unsigned byte at `index`, promoted to an integer. -/
def byteAt (buffer : List UInt8) (index : ℕ) : Option ℕ :=
  buffer[index]?.map UInt8.toNat

/-- The `size` bytes from `start` on, when all of them lie in the buffer. -/
def slice (buffer : List UInt8) (start size : ℕ) : Option (List UInt8) :=
  if start + size ≤ buffer.length then some ((buffer.drop start).take size) else none

theorem byteAt_eq_some_iff (buffer : List UInt8) (index value : ℕ) :
    byteAt buffer index = some value ↔
      ∃ h : index < buffer.length, buffer[index].toNat = value := by
  simp [byteAt, List.getElem?_eq_some_iff]

theorem byteAt_of_lt {buffer : List UInt8} {index : ℕ} (h : index < buffer.length) :
    byteAt buffer index = some buffer[index].toNat := by
  simp [byteAt, h]

theorem exists_byteAt {buffer : List UInt8} {index : ℕ} (h : index < buffer.length) :
    ∃ value, value < 256 ∧ byteAt buffer index = some value :=
  ⟨_, buffer[index].toNat_lt, byteAt_of_lt h⟩

theorem byteAt_lt {buffer : List UInt8} {index value : ℕ} (h : byteAt buffer index = some value) :
    value < 256 := by
  obtain ⟨hlt, rfl⟩ := (byteAt_eq_some_iff _ _ _).mp h
  exact buffer[index].toNat_lt

/-- Bytes before the end of a prefix are read from the prefix. -/
theorem byteAt_append_left {front : List UInt8} {index : ℕ} (h : index < front.length)
    (back : List UInt8) : byteAt (front ++ back) index = byteAt front index := by
  simp [byteAt, List.getElem?_append_left h]

theorem slice_of_le {buffer : List UInt8} {start size : ℕ} (h : start + size ≤ buffer.length) :
    slice buffer start size = some ((buffer.drop start).take size) := if_pos h

/-- The slice from `start` to the end of the buffer. -/
theorem slice_to_end {buffer : List UInt8} {start : ℕ} (h : start ≤ buffer.length) :
    slice buffer start (buffer.length - start) = some (buffer.drop start) := by
  have hlen : (buffer.drop start).length ≤ buffer.length - start := by simp
  rw [slice_of_le (by omega), List.take_of_length_le hlen]

theorem exists_slice {buffer : List UInt8} {start size : ℕ} (h : start + size ≤ buffer.length) :
    ∃ part, part.length = size ∧ slice buffer start size = some part := by
  refine ⟨_, ?_, slice_of_le h⟩
  simp only [List.length_take, List.length_drop]
  omega

end SatipClient.Checked
