import Mathlib.Data.List.GetD
import Mathlib.Tactic.Common

/-!
# Blocks of memory

The contents of an allocated block, including the bytes nothing was written to.  `load` reads,
`store` writes and `moveDown` is a `memmove` to the start of the block; sizes are kept beside
the contents, so a program checks its own accesses against them.  The lemmas say what the first
bytes of the block are after each write.
-/

namespace SatipClient.Memory

/-- The bytes of a block, by offset. -/
abbrev Block := ℕ → UInt8

/-- The first `size` bytes. -/
def load (block : Block) (size : ℕ) : List UInt8 := (List.range size).map block

/-- Write `bytes` from `start` on. -/
def store (block : Block) (start : ℕ) (bytes : List UInt8) : Block :=
  fun i ↦ if i < start then block i else bytes.getD (i - start) (block i)

/-- `memmove(block, block + start, size)` -/
def moveDown (block : Block) (start size : ℕ) : Block :=
  fun i ↦ if i < size then block (start + i) else block i

/-- The memory behind a pointer into the block. -/
def offset (block : Block) (start : ℕ) : Block := fun i ↦ block (start + i)

@[simp]
theorem length_load (block : Block) (size : ℕ) : (load block size).length = size := by
  simp [load]

/-- Two blocks that agree on the bytes read. -/
theorem load_congr {block block' : Block} {size : ℕ} (h : ∀ i < size, block i = block' i) :
    load block size = load block' size := by
  apply List.map_congr_left
  intro i hi
  exact h i (List.mem_range.mp hi)

theorem load_add (block : Block) (front back : ℕ) :
    load block (front + back) = load block front ++ load (fun i ↦ block (front + i)) back := by
  simp [load, List.range_add, Function.comp_def]

theorem load_offset (block : Block) (start size : ℕ) :
    load (offset block start) size = (load block (start + size)).drop start := by
  rw [load_add, List.drop_left' (length_load block start)]
  rfl

/-- The bytes in front of a write stay. -/
theorem load_store_of_le (block : Block) {size start : ℕ} (h : size ≤ start)
    (bytes : List UInt8) : load (store block start bytes) size = load block size := by
  apply load_congr
  intro i hi
  exact if_pos (Nat.lt_of_lt_of_le hi h)

/-- Bytes written behind the first `start` ones extend them. -/
theorem load_store (block : Block) (start : ℕ) (bytes : List UInt8) :
    load (store block start bytes) (start + bytes.length) = load block start ++ bytes := by
  rw [load_add, load_store_of_le block (Nat.le_refl start)]
  congr 1
  apply List.ext_getElem
  · simp
  · intro i hleft hright
    have hbehind : ¬start + i < start := by omega
    have hstore : store block start bytes (start + i) = bytes.getD i (block (start + i)) := by
      rw [store, if_neg hbehind, Nat.add_sub_cancel_left]
    rw [List.getD_eq_getElem bytes _ hright] at hstore
    simpa only [load, List.getElem_map, List.getElem_range] using hstore

/-- What was written to the start of the block. -/
theorem load_store_zero (block : Block) (bytes : List UInt8) :
    load (store block 0 bytes) bytes.length = bytes := by
  have hload := load_store block 0 bytes
  rw [Nat.zero_add] at hload
  exact hload

/-- The rest of the bytes, through a pointer behind the first ones. -/
theorem load_offset_sub (block : Block) {start size : ℕ} (h : start ≤ size) :
    load (offset block start) (size - start) = (load block size).drop start := by
  rw [load_offset, Nat.add_sub_cancel' h]

theorem load_moveDown (block : Block) (start size : ℕ) :
    load (moveDown block start size) size = (load block (start + size)).drop start := by
  rw [load_add, List.drop_left' (length_load block start)]
  apply load_congr
  intro i hi
  exact if_pos hi

theorem take_load (block : Block) {front size : ℕ} (h : front ≤ size) :
    (load block size).take front = load block front := by
  obtain ⟨back, rfl⟩ := Nat.exists_eq_add_of_le h
  rw [load_add, List.take_left' (length_load block front)]

/-- One byte of what was read. -/
theorem getElem?_load (block : Block) {size index : ℕ} (h : index < size) :
    (load block size)[index]? = some (block index) := by
  simp [load, h]

end SatipClient.Memory
