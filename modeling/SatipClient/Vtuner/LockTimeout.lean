import SatipClient.Vtuner.State

/-!
# The lock timeout

The kernel is told that tuning has timed out when there is no lock three seconds after
`MSG_GET_TUNE_SETTINGS`.  The times are seconds and nanoseconds, with a carry in the addition and a
borrow in the subtraction; the difference in milliseconds is rounded down, so it is negative as soon
as the deadline has passed by a nanosecond.
-/

namespace SatipClient.Vtuner

variable {t now orig : Timespec} {msek : ℤ} {s : SatipVtuner}

/-! ## Arithmetic -/

/-- The timers compute their deadlines in the same way. -/
theorem addMsec_eq_after (t : Timespec) (msek : ℤ) : addMsec t msek = t.after msek := rfl

theorem nanos_addMsec (t : Timespec) (msek : ℤ) :
    (addMsec t msek).nanos = t.nanos + msek * 1000000 := by
  rw [addMsec_eq_after, Timespec.nanos_after]

theorem valid_addMsec (ht : t.Valid) (hmsek : 0 ≤ msek) : (addMsec t msek).Valid := by
  have hnonneg : 0 ≤ msek.tmod 1000 := Int.tmod_nonneg 1000 hmsek
  unfold Timespec.Valid at ht
  refine ⟨?_, by rw [addMsec_eq_after]; exact Timespec.nsec_after_lt ht.2 msek⟩
  unfold addMsec
  split
  · dsimp only
    omega
  · dsimp only
    omega

theorem nanos_subTime (t1 t2 : Timespec) : (subTime t1 t2).nanos = t1.nanos - t2.nanos := by
  unfold subTime Timespec.nanos
  split
  · dsimp only
    omega
  · dsimp only
    omega

theorem valid_subTime (ht : t.Valid) (hnow : now.Valid) : (subTime t now).Valid := by
  unfold Timespec.Valid at *
  unfold subTime
  split
  · dsimp only
    omega
  · dsimp only
    omega

/-- The difference in milliseconds is rounded down. -/
theorem timeoutMsec_eq_fdiv (horig : orig.Valid) (hnow : now.Valid) :
    timeoutMsec orig now = (orig.nanos - now.nanos).fdiv 1000000 := by
  have hvalid : (subTime orig now).Valid := valid_subTime horig hnow
  have htrunc : (subTime orig now).nsec.tdiv 1000000 = (subTime orig now).nsec / 1000000 :=
    Int.tdiv_eq_ediv_of_nonneg hvalid.1
  rw [timeoutMsec, ← nanos_subTime, Int.fdiv_eq_ediv_of_nonneg _ (by decide), htrunc,
    Timespec.nanos]
  omega

theorem timeoutMsec_neg_iff (horig : orig.Valid) (hnow : now.Valid) :
    timeoutMsec orig now < 0 ↔ orig.nanos < now.nanos := by
  rw [timeoutMsec_eq_fdiv horig hnow, Int.fdiv_eq_ediv_of_nonneg _ (by decide)]
  omega

/-! ## The report -/

/-- The response to `MSG_READ_STATUS` has the flag `FE_TIMEDOUT`. -/
def ReportsTimeout (now : Timespec) (s : SatipVtuner) : Prop :=
  ∃ status, (vtunerEvent now .readStatus s).1 = some (.status status) ∧ status &&& feTimedout ≠ 0

/-- The receiver has a lock. -/
def HasLock (s : SatipVtuner) : Prop := ∃ signal, s.rtp = some signal ∧ signal.hasLock = true

theorem hasLock_iff : HasLock s ↔ s.rtp.any RTP.Signal.hasLock = true := by
  rw [HasLock, Option.any_eq_true]

theorem reportsTimeout_iff (now : Timespec) (s : SatipVtuner) :
    ReportsTimeout now s ↔ ¬HasLock s ∧ timeoutMsec s.timeout now < 0 := by
  have hreport : ReportsTimeout now s ↔ readStatus now s &&& feTimedout ≠ 0 := by
    constructor
    · rintro ⟨status, hstatus, hflag⟩
      cases hstatus
      exact hflag
    · exact fun hflag ↦ ⟨_, rfl, hflag⟩
  rw [hreport, hasLock_iff, readStatus]
  by_cases hlock : s.rtp.any RTP.Signal.hasLock = true
  · rw [if_pos hlock]
    exact iff_of_false (by decide) fun h ↦ h.1 hlock
  · rw [if_neg hlock]
    by_cases hlate : timeoutMsec s.timeout now < 0
    · rw [if_pos hlate]
      refine iff_of_true ?_ ⟨hlock, hlate⟩
      split <;> decide
    · rw [if_neg hlate]
      refine iff_of_false ?_ fun h ↦ hlate h.2
      split <;> decide

/-- A new tuning starts. -/
def Event.StartsTuning : Event → Prop
  | .message _ .getTuneSettings => True
  | _ => False

theorem timeout_step {event : Event} (h : ¬event.StartsTuning) (s : SatipVtuner) :
    (step s event).timeout = s.timeout := by
  cases event with
  | signal signal => rfl
  | message now msg =>
    cases msg with
    | getTuneSettings => exact absurd trivial h
    | _ => rfl

/-- By induction on the events. -/
theorem timeout_run {events : List Event} (h : ∀ event ∈ events, ¬event.StartsTuning)
    (s : SatipVtuner) : (run s events).timeout = s.timeout := by
  induction events generalizing s with
  | nil => rfl
  | cons event events ih =>
    have hrest := ih (fun other hother ↦ h other (List.mem_cons_of_mem event hother)) (step s event)
    calc (run s (event :: events)).timeout = (run (step s event) events).timeout := rfl
      _ = (step s event).timeout := hrest
      _ = s.timeout := timeout_step (h event List.mem_cons_self) s

/-- Adding milliseconds is exact, differences are rounded down, and in every run of messages and
reports the timeout is reported just when there is no lock and more than three seconds have passed
since the last `MSG_GET_TUNE_SETTINGS`. -/
theorem lockTimeout_exact (ht : t.Valid) (hnow : now.Valid) :
    (∀ msek : ℤ, 0 ≤ msek →
      (addMsec t msek).Valid ∧ (addMsec t msek).nanos = t.nanos + msek * 1000000) ∧
    timeoutMsec t now = (t.nanos - now.nanos).fdiv 1000000 ∧
    ∀ (s : SatipVtuner) (events : List Event), (∀ event ∈ events, ¬event.StartsTuning) →
      (ReportsTimeout now (run s (.message t .getTuneSettings :: events)) ↔
        ¬HasLock (run s (.message t .getTuneSettings :: events)) ∧
          3000 * 1000000 < now.nanos - t.nanos) := by
  refine ⟨fun msek hmsek ↦ ⟨valid_addMsec ht hmsek, nanos_addMsec t msek⟩,
    timeoutMsec_eq_fdiv ht hnow, fun s events hevents ↦ ?_⟩
  have htimeout : (run s (.message t .getTuneSettings :: events)).timeout = addMsec t 3000 :=
    timeout_run hevents (step s (.message t .getTuneSettings))
  rw [reportsTimeout_iff, htimeout, timeoutMsec_neg_iff (valid_addMsec ht (by decide)) hnow,
    nanos_addMsec]
  exact and_congr_right fun _ ↦ by omega

theorem lockTimeout_exact_opened :
    ReportsTimeout { sec := 13, nsec := 500000001 }
        (run opened [.message { sec := 10, nsec := 500000000 } .getTuneSettings]) ↔
      ¬HasLock (run opened [.message { sec := 10, nsec := 500000000 } .getTuneSettings]) ∧
        3000 * 1000000 < Timespec.nanos { sec := 13, nsec := 500000001 } -
          Timespec.nanos { sec := 10, nsec := 500000000 } :=
  (lockTimeout_exact (by decide) (by decide)).2.2 opened [] (by simp)

end SatipClient.Vtuner
