import Mathlib.Data.List.Induction

/-!
# Registers

A register is a part of a state that some events write and all others leave alone.  Behind a run it
holds what the last of them wrote (`get_foldl`).
-/

namespace SatipClient.Registers

variable {State Event α : Type*} (write : Event → Option α)

/-- The value that was written last, or the one at the start. -/
def lastWritten (start : α) (events : List Event) : α :=
  (events.reverse.findSome? write).getD start

@[simp]
theorem lastWritten_nil (start : α) : lastWritten write start [] = start := rfl

theorem lastWritten_append (start : α) (front back : List Event) :
    lastWritten write start (front ++ back) =
      lastWritten write (lastWritten write start front) back := by
  unfold lastWritten
  rw [List.reverse_append, List.findSome?_append]
  cases back.reverse.findSome? write <;> rfl

theorem lastWritten_singleton (start : α) (event : Event) :
    lastWritten write start [event] = (write event).getD start := by
  unfold lastWritten
  rw [List.reverse_singleton, List.findSome?_singleton]

/-- What is written behind the last write is not looked at. -/
theorem lastWritten_of_write {write : Event → Option α} {event : Event} {value : α}
    (hwrite : write event = some value) {back : List Event}
    (hback : ∀ other ∈ back, write other = none) (start : α) (front : List Event) :
    lastWritten write start (front ++ event :: back) = value := by
  have hnone : back.reverse.findSome? write = none := by
    rw [List.findSome?_eq_none_iff]
    exact fun other hother ↦ hback other (List.mem_reverse.mp hother)
  rw [List.append_cons, lastWritten_append, lastWritten_append, lastWritten_singleton, hwrite,
    lastWritten, hnone]
  rfl

/-- A register holds what was written last. -/
theorem get_foldl {write : Event → Option α} {step : State → Event → State} {get : State → α}
    (h : ∀ state event, get (step state event) = (write event).getD (get state)) (state : State)
    (events : List Event) :
    get (events.foldl step state) = lastWritten write (get state) events := by
  induction events using List.reverseRecOn with
  | nil => rfl
  | append_singleton events event ih =>
    rw [List.foldl_append, List.foldl_cons, List.foldl_nil, h, ih, lastWritten_append,
      lastWritten_singleton]

end SatipClient.Registers
