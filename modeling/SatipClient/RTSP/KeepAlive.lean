import SatipClient.RTP.Signal
import SatipClient.RTSP.Session

/-!
# The keep-alive delay

The client sends OPTIONS five seconds before the session would expire, where the server says in the
SETUP response when that is.  The delay is computed as an `int` from whatever number the server
wrote.  It is positive and does not overflow just for timeouts of 6 to 2147488 seconds
(`keepAlive_in_time_iff`).
-/

namespace SatipClient.RTSP

open CString (ascii)
open RTP (toInt)

/-- The delay of `startTimerKeepAliveMessage` in milliseconds; `none` is a signed overflow. -/
def keepAliveDelay (timeout : ℤ) : Option ℤ := (toInt (timeout - 5)).bind fun seconds ↦
  toInt (seconds * 1000)

/-- The timer is started with a delay that is positive and less than the timeout. -/
def ArmedInTime (now : Timespec) (timeout : ℤ) (s : SatipRTSP) : Prop :=
  ∃ delay, keepAliveDelay s.rtspTimeout = some delay ∧ 0 < delay ∧ delay < 1000 * timeout ∧
    (startTimerKeepAliveMessage now s).timerKeepAlive.active = true ∧
    (startTimerKeepAliveMessage now s).timerKeepAlive.ts.nanos = now.nanos + delay * 1000000

variable {text : List UInt8} {res : Result} {s next later : SatipRTSP} {timeout delay : ℤ}

theorem keepAliveDelay_of_bounds (hlow : 5 ≤ timeout) (hhigh : timeout ≤ 2147488) :
    keepAliveDelay timeout = some ((timeout - 5) * 1000) := by
  have hseconds : toInt (timeout - 5) = some (timeout - 5) :=
    RTP.toInt_of_bounds (by omega) (by omega)
  have hmillis : toInt ((timeout - 5) * 1000) = some ((timeout - 5) * 1000) :=
    RTP.toInt_of_bounds (by omega) (by omega)
  rw [keepAliveDelay, hseconds, Option.bind_some, hmillis]

theorem eq_of_toInt {value result : ℤ} (h : toInt value = some result) :
    value = result ∧ -2 ^ 31 ≤ result ∧ result < 2 ^ 31 := by
  unfold toInt at h
  split at h
  case isTrue hbounds =>
    obtain rfl := Option.some.inj h
    exact ⟨rfl, hbounds⟩
  case isFalse => cases h

/-- A delay that does not overflow is the one the timer gets. -/
theorem eq_of_keepAliveDelay (h : keepAliveDelay timeout = some delay) :
    delay = (timeout - 5) * 1000 ∧ -2 ^ 31 ≤ delay ∧ delay < 2 ^ 31 := by
  obtain ⟨seconds, hseconds, hmillis⟩ := Option.bind_eq_some_iff.mp h
  obtain ⟨rfl, -⟩ := eq_of_toInt hseconds
  obtain ⟨rfl, hbounds⟩ := eq_of_toInt hmillis
  exact ⟨rfl, hbounds⟩

theorem nanos_timerKeepAlive (now : Timespec) (h : keepAliveDelay s.rtspTimeout = some delay) :
    (startTimerKeepAliveMessage now s).timerKeepAlive.ts.nanos = now.nanos + delay * 1000000 := by
  obtain ⟨rfl, hlow, hhigh⟩ := eq_of_keepAliveDelay h
  have hint : ((s.rtspTimeout - 5) * 1000).bmod (2 ^ 32) = (s.rtspTimeout - 5) * 1000 :=
    Int.bmod_eq_of_le (by omega) (by omega)
  change (now.after (((s.rtspTimeout - 5) * 1000).bmod (2 ^ 32))).nanos = _
  rw [hint, Timespec.nanos_after]

theorem armedInTime_iff (now : Timespec) (htimeout : s.rtspTimeout = timeout) (hpos : 1 ≤ timeout) :
    ArmedInTime now timeout s ↔ 6 ≤ timeout ∧ timeout ≤ 2147488 := by
  subst htimeout
  constructor
  · rintro ⟨delay, hdelay, hpositive, -⟩
    obtain ⟨rfl, -, hhigh⟩ := eq_of_keepAliveDelay hdelay
    omega
  · rintro ⟨hlow, hhigh⟩
    have hdelay := keepAliveDelay_of_bounds (by omega) hhigh
    exact ⟨_, hdelay, by omega, by omega, rfl, nanos_timerKeepAlive now hdelay⟩

/-- The timeout of a response that names a session is stored. -/
theorem rtspTimeout_handleResponseSetup (h : handleResponseSetup text s = some (res, next))
    (hsession : sessionValue text ≠ none) :
    next.rtspTimeout = (numberBehind "timeout" 61 text).getD s.rtspTimeout := by
  unfold handleResponseSetup at h
  split at h
  case h_1 hnone => exact absurd hnone hsession
  case h_2 value _ =>
    split_ifs at h
    dsimp only at h
    split at h
    · cases h
      rfl
    · cases h
      rfl

/-- Whenever the keep-alive timer is started with the timeout of a SETUP response, OPTIONS is sent
neither at once nor too late just for timeouts of 6 to 2147488 seconds. -/
theorem keepAlive_in_time_iff (h : handleResponseSetup text s = some (res, next))
    (hsession : sessionValue text ≠ none) (htimeout : numberBehind "timeout" 61 text = some timeout)
    (hpos : 1 ≤ timeout) (hlater : later.rtspTimeout = next.rtspTimeout) (now : Timespec) :
    next.rtspTimeout = timeout ∧
      (ArmedInTime now timeout later ↔ 6 ≤ timeout ∧ timeout ≤ 2147488) := by
  have hstored : next.rtspTimeout = timeout := by
    rw [rtspTimeout_handleResponseSetup h hsession, htimeout, Option.getD_some]
  exact ⟨hstored, armedInTime_iff now (hlater.trans hstored) hpos⟩

/-- A response with this timeout. -/
def setupWithTimeout (timeout : String) : List UInt8 :=
  ascii ("RTSP/1.0 200 OK\r\nSession: 1;timeout=" ++ timeout ++ "\r\ncom.ses.streamID: 1\r\n\r\n")

theorem keepAlive_in_time_iff_sixty :
    ∃ next, handleResponseSetup (setupWithTimeout "60") udpArgs.start =
        some (.responseComplete, next) ∧
      next.rtspTimeout = 60 ∧
      (ArmedInTime {} 60 next ↔ (6 : ℤ) ≤ 60 ∧ (60 : ℤ) ≤ 2147488) := by
  have hresponse : ∃ next, handleResponseSetup (setupWithTimeout "60") udpArgs.start =
      some (.responseComplete, next) := ⟨_, rfl⟩
  obtain ⟨next, hnext⟩ := hresponse
  exact ⟨next, hnext, keepAlive_in_time_iff hnext (by decide) (by decide) (by decide) rfl {}⟩

/-- A session that expires after five seconds is refreshed without any delay; for one of 2147489
seconds the delay overflows. -/
theorem not_keepAlive_in_time :
    (∃ next, handleResponseSetup (setupWithTimeout "5") udpArgs.start =
        some (.responseComplete, next) ∧
      next.rtspTimeout = 5 ∧ keepAliveDelay next.rtspTimeout = some 0 ∧ ¬ArmedInTime {} 5 next) ∧
    ∃ next, handleResponseSetup (setupWithTimeout "2147489") udpArgs.start =
        some (.responseComplete, next) ∧
      next.rtspTimeout = 2147489 ∧ keepAliveDelay next.rtspTimeout = none ∧
      ¬ArmedInTime {} 2147489 next := by
  have hshort : ∃ next, handleResponseSetup (setupWithTimeout "5") udpArgs.start =
      some (.responseComplete, next) ∧ next.rtspTimeout = 5 := ⟨_, rfl, by decide⟩
  have hlong : ∃ next, handleResponseSetup (setupWithTimeout "2147489") udpArgs.start =
      some (.responseComplete, next) ∧ next.rtspTimeout = 2147489 := ⟨_, rfl, by decide⟩
  obtain ⟨first, hfirst, hfive⟩ := hshort
  obtain ⟨second, hsecond, hmany⟩ := hlong
  refine ⟨⟨first, hfirst, hfive, by rw [hfive]; decide, ?_⟩,
    ⟨second, hsecond, hmany, by rw [hmany]; decide, ?_⟩⟩
  · rw [armedInTime_iff {} hfive (by decide)]
    decide
  · rw [armedInTime_iff {} hmany (by decide)]
    decide

end SatipClient.RTSP
