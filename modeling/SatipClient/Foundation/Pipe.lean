import Mathlib.Order.Basic
import Mathlib.Tactic.Common

/-!
# Pipes

A non-blocking pipe that is used as a signal: only the number of bytes in it matters.  A write adds
a byte unless the pipe is full, and a reader drains it.  Either way a pipe that was written to can
be read.
-/

namespace SatipClient

/-- The number of bytes in a pipe, which has room for at least one. -/
structure Pipe where
  capacity : ℕ
  capacity_pos : 0 < capacity
  bytes : ℕ
  bytes_le : bytes ≤ capacity

namespace Pipe

variable (p : Pipe)

/-- `poll` reports `POLLIN`. -/
def Readable : Prop := 0 < p.bytes

instance : Decidable p.Readable := inferInstanceAs (Decidable (0 < p.bytes))

/-- Write one byte; in a full pipe the write fails. -/
def write : Pipe where
  capacity := p.capacity
  capacity_pos := p.capacity_pos
  bytes := min (p.bytes + 1) p.capacity
  bytes_le := Nat.min_le_right _ _

/-- Read until nothing is left. -/
def drain : Pipe where
  capacity := p.capacity
  capacity_pos := p.capacity_pos
  bytes := 0
  bytes_le := Nat.zero_le _

theorem readable_write : p.write.Readable :=
  Nat.lt_min.mpr ⟨Nat.succ_pos _, p.capacity_pos⟩

end Pipe

end SatipClient
