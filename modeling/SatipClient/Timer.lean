import Mathlib.Data.Int.Notation
import Mathlib.Tactic.Common

/-!
# Timers

`timer_elem` and the sweep of `satipTimer`.  A timer lives in the state of the object that
created it, and its handler is a function on that state: `Slot` says where it is and what it
calls.  All readings of the clock within one operation are the same time.
-/

namespace SatipClient

/-- `struct timespec` -/
structure Timespec where
  sec : ℤ := 0
  nsec : ℤ := 0
  deriving DecidableEq

/-- The time `msec` milliseconds after `now`, as `start` computes it. -/
def Timespec.after (now : Timespec) (msec : ℤ) : Timespec :=
  let sec := now.sec + msec.tdiv 1000
  let nsec := now.nsec + msec.tmod 1000 * 1000000
  if 1000000000 ≤ nsec then { sec := sec + 1, nsec := nsec - 1000000000 }
  else { sec := sec, nsec := nsec }

/-- A time as the clock tells it. -/
def Timespec.Valid (t : Timespec) : Prop := 0 ≤ t.nsec ∧ t.nsec < 1000000000

instance (t : Timespec) : Decidable t.Valid := by unfold Timespec.Valid; infer_instance

/-- The nanoseconds of a time. -/
def Timespec.nanos (t : Timespec) : ℤ := t.sec * 1000000000 + t.nsec

theorem Timespec.nanos_after (now : Timespec) (msec : ℤ) :
    (now.after msec).nanos = now.nanos + msec * 1000000 := by
  have hdiv : 1000 * msec.tdiv 1000 + msec.tmod 1000 = msec := Int.mul_tdiv_add_tmod msec 1000
  unfold after nanos
  dsimp only
  split_ifs
  · dsimp only
    omega
  · dsimp only
    omega

theorem Timespec.nsec_after_lt {now : Timespec} (h : now.nsec < 1000000000) (msec : ℤ) :
    (now.after msec).nsec < 1000000000 := by
  have hmod : msec.tmod 1000 < 1000 := Int.tmod_lt_of_pos msec (by decide)
  unfold after
  dsimp only
  split_ifs
  · dsimp only
    omega
  · dsimp only
    omega

/-- `timer_elem` -/
structure TimerElem where
  interval : ℤ := 0
  ts : Timespec := {}
  active : Bool := false
  single : Bool := false
  deriving DecidableEq

namespace TimerElem

/-- `start` -/
def start (now : Timespec) (msec : ℤ) (single : Bool) : TimerElem :=
  { interval := msec, ts := now.after msec, active := true, single := single }

/-- `stop` -/
def stop (timer : TimerElem) : TimerElem := { timer with active := false }

/-- The test of `callNextTimer`. -/
def Due (now : Timespec) (timer : TimerElem) : Prop :=
  timer.ts.sec < now.sec ∨ (now.sec = timer.ts.sec ∧ timer.ts.nsec < now.nsec)

instance (now : Timespec) (timer : TimerElem) : Decidable (timer.Due now) := by
  unfold Due; infer_instance

/-- A timer is due when its time has come. -/
theorem nanos_le_of_due {now : Timespec} {timer : TimerElem} (hnow : now.Valid)
    (hts : timer.ts.nsec < 1000000000) (h : timer.Due now) : timer.ts.nanos ≤ now.nanos := by
  unfold Timespec.nanos
  unfold Timespec.Valid at hnow
  rcases h with hlater | ⟨hsame, hlater⟩ <;> omega

/-- What `call` does to the timer after the handler returned. -/
def afterCall (now : Timespec) (timer : TimerElem) : TimerElem :=
  if timer.single then { timer with active := false }
  else { timer with ts := now.after timer.interval }

@[simp]
theorem active_start (now : Timespec) (msec : ℤ) (single : Bool) :
    (start now msec single).active = true := rfl

@[simp]
theorem single_start (now : Timespec) (msec : ℤ) (single : Bool) :
    (start now msec single).single = single := rfl

@[simp]
theorem active_stop (timer : TimerElem) : timer.stop.active = false := rfl

@[simp]
theorem single_stop (timer : TimerElem) : timer.stop.single = timer.single := rfl

theorem active_afterCall (now : Timespec) {timer : TimerElem} (h : timer.single = true) :
    (timer.afterCall now).active = false := by
  simp [afterCall, h]

theorem active_of_afterCall {now : Timespec} {timer : TimerElem}
    (h : (timer.afterCall now).active = true) : timer.active = true := by
  unfold afterCall at h
  split at h
  · cases h
  · exact h

end TimerElem

namespace Timer

/-- A timer of the list: where it is kept, and its handler. -/
structure Slot (State : Type*) where
  get : State → TimerElem
  set : TimerElem → State → State
  handler : State → State

variable {State : Type*}

/-- `call` -/
def call (now : Timespec) (slot : Slot State) (s : State) : State :=
  if (slot.get s).active then
    let s := slot.handler s
    slot.set ((slot.get s).afterCall now) s
  else s

/-- One round of the loop in `callNextTimer`. -/
def callIfDue (now : Timespec) (s : State) (slot : Slot State) : State :=
  if (slot.get s).active ∧ (slot.get s).Due now then call now slot s else s

/-- `callNextTimer` -/
def callNextTimer (now : Timespec) (slots : List (Slot State)) (s : State) : State :=
  slots.foldl (callIfDue now) s

/-- A timer is left alone, or its handler runs. -/
theorem callIfDue_cases (now : Timespec) (s : State) (slot : Slot State) :
    callIfDue now s slot = s ∨
      ((slot.get s).active = true ∧
        callIfDue now s slot =
          slot.set ((slot.get (slot.handler s)).afterCall now) (slot.handler s)) := by
  unfold callIfDue
  split
  case isTrue hdue => exact Or.inr ⟨hdue.1, if_pos hdue.1⟩
  case isFalse => exact Or.inl rfl

/-- What every timer of the list keeps, the sweep keeps. -/
theorem callNextTimer_invariant {Inv : State → Prop} {now : Timespec} {slots : List (Slot State)}
    (hslot : ∀ slot ∈ slots, ∀ s, Inv s → Inv (callIfDue now s slot)) {s : State} (h : Inv s) :
    Inv (callNextTimer now slots s) := by
  induction slots generalizing s with
  | nil => exact h
  | cons slot slots ih =>
    have hfirst : Inv (callIfDue now s slot) := hslot slot List.mem_cons_self s h
    exact ih (fun slot' hmem ↦ hslot slot' (List.mem_cons_of_mem slot hmem)) hfirst

end Timer

end SatipClient
