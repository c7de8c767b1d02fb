import Mathlib.Tactic.Linarith
import SatipClient.Foundation.CString
import SatipClient.Timer

/-!
# The poll timeout

`getNextTimerBegin` tells the main loop how long it may wait for events: until the earliest timer
is due.  The milliseconds are computed from seconds and nanoseconds apart, with a division that
truncates, and one is added; so a wait of that length ends when the test of `callNextTimer` is met,
which is strict, and less than two milliseconds late.
-/

namespace SatipClient.Timer

open CString (longToInt)

/-- The comparison of `getNextTimerBegin`: `found` is later than `timer`. -/
def Later (found timer : TimerElem) : Prop :=
  timer.ts.sec < found.ts.sec ∨ (found.ts.sec = timer.ts.sec ∧ timer.ts.nsec < found.ts.nsec)

instance (found timer : TimerElem) : Decidable (Later found timer) :=
  inferInstanceAs (Decidable (_ ∨ _))

/-- A round of the loop in `getNextTimerBegin`. -/
def minRound (minTimerElem : Option TimerElem) (timer : TimerElem) : Option TimerElem :=
  if timer.active then
    match minTimerElem with
    | none => some timer
    | some found => if Later found timer then some timer else some found
  else minTimerElem

/-- `min_timer_elem` behind the loop. -/
def minTimerElem (timers : List TimerElem) : Option TimerElem := timers.foldl minRound none

/-- The milliseconds until the deadline of a timer, as `getNextTimerBegin` computes them. -/
def msecUntil (now : Timespec) (timer : TimerElem) : ℤ :=
  (timer.ts.sec - now.sec) * 1000 + (timer.ts.nsec - now.nsec).tdiv 1000000 + 1

/-- `getNextTimerBegin` -/
def getNextTimerBegin (now : Timespec) (timers : List TimerElem) : ℤ :=
  match minTimerElem timers with
  | none => 1000
  | some timer =>
    let msec := longToInt (msecUntil now timer)
    if msec < 0 then 0 else msec

/-- The value is that of an `int`. -/
def FitsInt (value : ℤ) : Prop := -2 ^ 31 ≤ value ∧ value < 2 ^ 31

instance (value : ℤ) : Decidable (FitsInt value) := inferInstanceAs (Decidable (_ ∧ _))

/-- The timer is active, and no active one of the list has an earlier deadline. -/
structure Earliest (timers : List TimerElem) (timer : TimerElem) : Prop where
  mem : timer ∈ timers
  active : timer.active = true
  le : ∀ other ∈ timers, other.active = true → timer.ts.nanos ≤ other.ts.nanos

variable {now : Timespec} {timers : List TimerElem} {found timer : TimerElem}

/-! ## The earliest timer -/

theorem nanos_lt_of_later (hfound : found.ts.Valid) (htimer : timer.ts.Valid)
    (h : Later found timer) : timer.ts.nanos < found.ts.nanos := by
  unfold Timespec.nanos
  unfold Timespec.Valid at hfound htimer
  rcases h with hsec | ⟨hsec, hnsec⟩ <;> omega

theorem nanos_le_of_not_later (hfound : found.ts.Valid) (htimer : timer.ts.Valid)
    (h : ¬Later found timer) : found.ts.nanos ≤ timer.ts.nanos := by
  unfold Later at h
  unfold Timespec.nanos
  unfold Timespec.Valid at hfound htimer
  omega

/-- The loop has found an earliest timer, if there is one. -/
def IsMin (timers : List TimerElem) : Option TimerElem → Prop
  | none => ∀ timer ∈ timers, timer.active = false
  | some found => Earliest timers found

theorem IsMin.minRound {min : Option TimerElem} (h : IsMin timers min)
    (hvalid : ∀ other ∈ timers ++ [timer], other.active = true → other.ts.Valid) :
    IsMin (timers ++ [timer]) (minRound min timer) := by
  have htimer : timer ∈ timers ++ [timer] := by simp
  unfold Timer.minRound
  split
  case isFalse hidle =>
    have hidle : timer.active = false := by simpa using hidle
    cases min with
    | none =>
      intro other hother
      rcases List.mem_append.mp hother with hold | hnew
      · exact h other hold
      · rw [List.mem_singleton.mp hnew, hidle]
    | some found =>
      refine ⟨List.mem_append_left _ h.mem, h.active, fun other hother hactive ↦ ?_⟩
      rcases List.mem_append.mp hother with hold | hnew
      · exact h.le other hold hactive
      · rw [List.mem_singleton.mp hnew, hidle] at hactive
        cases hactive
  case isTrue hactive =>
    have hvalidTimer := hvalid timer htimer hactive
    cases min with
    | none =>
      refine ⟨htimer, hactive, fun other hother hother' ↦ ?_⟩
      rcases List.mem_append.mp hother with hold | hnew
      · rw [h other hold] at hother'
        cases hother'
      · rw [List.mem_singleton.mp hnew]
    | some found =>
      have hvalidFound := hvalid found (List.mem_append_left _ h.mem) h.active
      dsimp only
      split
      case isTrue hlater =>
        have hlt := nanos_lt_of_later hvalidFound hvalidTimer hlater
        refine ⟨htimer, hactive, fun other hother hother' ↦ ?_⟩
        rcases List.mem_append.mp hother with hold | hnew
        · exact hlt.le.trans (h.le other hold hother')
        · rw [List.mem_singleton.mp hnew]
      case isFalse hlater =>
        have hle := nanos_le_of_not_later hvalidFound hvalidTimer hlater
        refine ⟨List.mem_append_left _ h.mem, h.active, fun other hother hother' ↦ ?_⟩
        rcases List.mem_append.mp hother with hold | hnew
        · exact h.le other hold hother'
        · rw [List.mem_singleton.mp hnew]
          exact hle

/-- By induction on the timers that the loop has looked at. -/
theorem isMin_minTimerElem (hvalid : ∀ timer ∈ timers, timer.active = true → timer.ts.Valid) :
    IsMin timers (minTimerElem timers) := by
  induction timers using List.reverseRecOn with
  | nil => simp [minTimerElem, IsMin]
  | append_singleton timers timer ih =>
    have hfront := ih fun other hother ↦ hvalid other (List.mem_append_left _ hother)
    rw [minTimerElem, List.foldl_append]
    exact hfront.minRound hvalid

/-! ## The wait -/

theorem longToInt_of_fitsInt {value : ℤ} (h : FitsInt value) : longToInt value = value := by
  unfold FitsInt at h
  unfold longToInt
  rw [Int.bmod_eq_of_le (by omega) (by omega)]

/-- The milliseconds are more than remain, by two at most. -/
theorem msecUntil_bounds (now : Timespec) (timer : TimerElem) :
    timer.ts.nanos - now.nanos < msecUntil now timer * 1000000 ∧
      msecUntil now timer * 1000000 < timer.ts.nanos - now.nanos + 2000000 := by
  have hdiv : 1000000 * (timer.ts.nsec - now.nsec).tdiv 1000000 +
      (timer.ts.nsec - now.nsec).tmod 1000000 = timer.ts.nsec - now.nsec :=
    Int.mul_tdiv_add_tmod _ 1000000
  have hlt : (timer.ts.nsec - now.nsec).tmod 1000000 < 1000000 :=
    Int.tmod_lt_of_pos _ (by decide)
  have hgt : -1000000 < (timer.ts.nsec - now.nsec).tmod 1000000 :=
    Int.lt_tmod_of_pos _ (by decide)
  unfold msecUntil Timespec.nanos
  constructor <;> linarith

theorem due_of_nanos_lt {t : Timespec} (ht : t.Valid) (htimer : timer.ts.Valid)
    (h : timer.ts.nanos < t.nanos) : timer.Due t := by
  unfold Timespec.nanos at h
  unfold Timespec.Valid at ht htimer
  unfold TimerElem.Due
  omega

/-- A wait of that length is over at most two milliseconds behind the deadline of an active timer,
or at once. -/
theorem wait_le (now : Timespec)
    (hvalid : ∀ timer ∈ timers, timer.active = true → timer.ts.Valid)
    (hfits : ∀ timer ∈ timers, timer.active = true → FitsInt (msecUntil now timer))
    (hmem : timer ∈ timers) (hactive : timer.active = true) :
    now.nanos + getNextTimerBegin now timers * 1000000 ≤
      max now.nanos (timer.ts.nanos + 2000000) := by
  have hmin := isMin_minTimerElem hvalid
  unfold getNextTimerBegin
  cases hfound : minTimerElem timers with
  | none =>
    rw [hfound] at hmin
    rw [hmin timer hmem] at hactive
    cases hactive
  | some found =>
    rw [hfound] at hmin
    obtain ⟨-, hless⟩ := msecUntil_bounds now found
    have hfirst : found.ts.nanos ≤ timer.ts.nanos := hmin.le timer hmem hactive
    dsimp only
    rw [longToInt_of_fitsInt (hfits found hmin.mem hmin.active)]
    split <;> omega

/-- With `d` the poll timeout: it is not negative, and 1000 when no timer is active.  `d`
milliseconds later the earliest timer is due.  Until then at most two milliseconds more pass than
remain, and none when the timer is overdue by more than one. -/
theorem getNextTimerBegin_fits (now : Timespec) (timers : List TimerElem)
    (hvalid : ∀ timer ∈ timers, timer.active = true → timer.ts.Valid)
    (hfits : ∀ timer ∈ timers, timer.active = true → FitsInt (msecUntil now timer)) :
    0 ≤ getNextTimerBegin now timers ∧
      ((∀ timer ∈ timers, timer.active = false) → getNextTimerBegin now timers = 1000) ∧
      ∀ timer, Earliest timers timer →
        (∀ t : Timespec, t.Valid →
          now.nanos + getNextTimerBegin now timers * 1000000 ≤ t.nanos → timer.Due t) ∧
        (now.nanos - 1000000 ≤ timer.ts.nanos →
          getNextTimerBegin now timers * 1000000 ≤ timer.ts.nanos - now.nanos + 2000000) ∧
        (timer.ts.nanos < now.nanos - 1000000 → getNextTimerBegin now timers = 0) := by
  have hmin := isMin_minTimerElem hvalid
  unfold getNextTimerBegin
  cases hfound : minTimerElem timers with
  | none =>
    rw [hfound] at hmin
    refine ⟨(by decide : (0 : ℤ) ≤ 1000), fun _ ↦ rfl, fun timer htimer ↦ ?_⟩
    have hidle := hmin timer htimer.mem
    rw [htimer.active] at hidle
    cases hidle
  | some found =>
    rw [hfound] at hmin
    have hmsec := longToInt_of_fitsInt (hfits found hmin.mem hmin.active)
    obtain ⟨hmore, hless⟩ := msecUntil_bounds now found
    dsimp only
    rw [hmsec]
    refine ⟨by split <;> omega, fun hidle ↦ ?_, fun timer htimer ↦ ?_⟩
    · have hactive := hmin.active
      rw [hidle found hmin.mem] at hactive
      cases hactive
    · have hsame : timer.ts.nanos = found.ts.nanos :=
        le_antisymm (htimer.le found hmin.mem hmin.active) (hmin.le timer htimer.mem htimer.active)
      have htimerValid := hvalid timer htimer.mem htimer.active
      refine ⟨fun t ht hwait ↦ due_of_nanos_lt ht htimerValid ?_, fun hleft ↦ ?_,
        fun hover ↦ ?_⟩
      · split at hwait <;> omega
      · split <;> omega
      · split <;> omega

/-- A timer that is due in a third of a millisecond, and one that is stopped. -/
def twoTimers : List TimerElem :=
  [{ ts := { sec := 7, nsec := 333333 }, active := true }, { ts := { sec := 5, nsec := 0 } }]

theorem getNextTimerBegin_fits_twoTimers :
    getNextTimerBegin { sec := 7, nsec := 0 } twoTimers = 1 ∧
      0 ≤ getNextTimerBegin { sec := 7, nsec := 0 } twoTimers :=
  ⟨by decide, (getNextTimerBegin_fits { sec := 7, nsec := 0 } twoTimers (by decide) (by decide)).1⟩

end SatipClient.Timer
