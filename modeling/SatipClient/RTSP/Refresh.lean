import SatipClient.RTSP.KeepAlive
import SatipClient.RTSP.MainLoop
import SatipClient.RTSP.Timers

/-!
# The session does not expire

The server forgets a session that it has not heard of for as long as its SETUP response said.  The
main loop is given the time here: a step is at most `late` nanoseconds behind the one before, or
behind the end of the wait that `getPollTimeout` asked for.  Then no timer is ever overdue by more
than a few of these delays, a request is answered or given up within four seconds, and the next
one follows five seconds before the timeout; so as long as the session is served, the last request
is younger than the timeout (`refreshed_in_time`).
-/

namespace SatipClient.RTSP.MainLoop

open Timer (FitsInt msecUntil)

/-! ## The loop and the clock -/

/-- A request was handed to `send`, which took it. -/
def isSent : Event → Bool
  | .request _ sent => sent
  | .channelChanged | .released | .connected | .connectFailed | .disconnected | .response _
  | .frame _ | .armed _ _ | .expired _ => false

/-- A request was sent between two states. -/
def Wrote (s next : SatipRTSP) : Prop := s.trace.countP isSent < next.trace.countP isSent

instance (s next : SatipRTSP) : Decidable (Wrote s next) := inferInstanceAs (Decidable (_ < _))

/-- The time of the last request, after a step. -/
def sentAfter (now : Timespec) (s next : SatipRTSP) (sentAt : Option Timespec) : Option Timespec :=
  if Wrote s next then some now else sentAt

/-- The main loop with the time of the last step of its thread, and the time when a request was
sent last. -/
structure Clocked where
  system : System
  clock : Timespec
  sentAt : Option Timespec := none

/-- An action and its time. -/
structure Tick where
  action : Action
  now : Timespec

/-- The action is one of the session thread. -/
def Action.OfLoop : Action → Prop
  | setCaPids _ | wakeup => False
  | handleRTSPStatus .. | poll _ | handleNextTimer .. | drain | vtunerEvent _
  | handlePollEvents .. => True

instance : DecidablePred Action.OfLoop
  | .setCaPids _ | .wakeup => inferInstanceAs (Decidable False)
  | .handleRTSPStatus .. | .poll _ | .handleNextTimer .. | .drain | .vtunerEvent _
  | .handlePollEvents .. => inferInstanceAs (Decidable True)

/-- The time that the action reads from the clock. -/
def Action.time? : Action → Option Timespec
  | handleRTSPStatus now .. | handleNextTimer now .. | handlePollEvents now .. => some now
  | poll _ | drain | vtunerEvent _ | setCaPids _ | wakeup => none

namespace Clocked

/-- One step of a thread at some time. -/
def step (σ : Clocked) (tick : Tick) : Option Clocked :=
  (MainLoop.step σ.system tick.action).map fun system ↦
    { system := system
      clock := if tick.action.OfLoop then tick.now else σ.clock
      sentAt := sentAfter tick.now σ.system.session system.session σ.sentAt }

/-- The threads are started. -/
def start (args : SessionArgs) (pipe : Pipe) : Clocked where
  system := MainLoop.start args pipe
  clock := args.now

/-- The nanoseconds that the session thread may sleep in `poll` before its next step. -/
def sleep (σ : Clocked) : ℤ :=
  if σ.system.pc = .timers then getPollTimeout σ.clock σ.system.session * 1000000 else 0

/-- The clock does not go back, and while there is a connection, a step of the session thread is
late by at most `late` nanoseconds. -/
structure Prompt (late : ℕ) (σ : Clocked) (tick : Tick) : Prop where
  valid : tick.now.Valid
  reads : tick.action.time? = none ∨ tick.action.time? = some tick.now
  monotone : σ.clock.nanos ≤ tick.now.nanos
  soon : σ.system.session.rtspStatus = .configWaiting ∨
    tick.now.nanos ≤ σ.clock.nanos + σ.sleep + late

instance (late : ℕ) (σ : Clocked) (tick : Tick) : Decidable (Prompt late σ tick) :=
  decidable_of_iff
    (tick.now.Valid ∧ (tick.action.time? = none ∨ tick.action.time? = some tick.now) ∧
      σ.clock.nanos ≤ tick.now.nanos ∧ (σ.system.session.rtspStatus = .configWaiting ∨
        tick.now.nanos ≤ σ.clock.nanos + σ.sleep + late))
    ⟨fun h ↦ ⟨h.1, h.2.1, h.2.2.1, h.2.2.2⟩, fun h ↦ ⟨h.valid, h.reads, h.monotone, h.soon⟩⟩

/-- The RTP thread has no times to keep. -/
def Paced (late : ℕ) (σ : Clocked) (tick : Tick) : Prop :=
  tick.action.OfLoop → Prompt late σ tick

instance (late : ℕ) (σ : Clocked) (tick : Tick) : Decidable (Paced late σ tick) :=
  inferInstanceAs (Decidable (_ → _))

end Clocked

/-! ## What is on time -/

/-- A timeout that the client can keep. -/
def Refreshable (s : SatipRTSP) : Prop := 5 ≤ s.rtspTimeout ∧ s.rtspTimeout ≤ 2147488

/-- How long a timer may be overdue, at each place of the loop. -/
def slack (late : ℕ) : Pc → ℤ
  | .drain => 0
  | .vtuner => late
  | .rtsp => 2 * late
  | .status => 3 * late
  | .poll => 4 * late
  | .timers | .left => 5 * late

/-- A timer that is not overdue by more, and at most `ahead` nanoseconds away. -/
structure OnTime (late : ℕ) (ahead : ℤ) (pc : Pc) (clock : Timespec) (timer : TimerElem) :
    Prop where
  valid : timer.ts.Valid
  due : clock.nanos ≤ timer.ts.nanos + slack late pc
  near : timer.ts.nanos ≤ clock.nanos + ahead

/-- The longest delay of the watchdog. -/
abbrev watchdogAhead : ℤ := 5000000000

/-- The longest delay of the keep-alive timer with which the poll timeout does not overflow. -/
abbrev keepAliveAhead : ℤ := 2147483000000000

/-- The times of a session. -/
structure Times (late : ℕ) (pc : Pc) (clock : Timespec) (sentAt : Option Timespec)
    (s : SatipRTSP) : Prop where
  watchdog : s.timerResetConnect.active = true →
    OnTime late watchdogAhead pc clock s.timerResetConnect
  keepAlive : s.timerKeepAlive.active = true →
    OnTime late keepAliveAhead pc clock s.timerKeepAlive
  served : s.rtspStatus = .sessionPlaying ∨ s.rtspStatus = .sessionTransmitting →
    ∃ sent, sentAt = some sent ∧
      (s.timerKeepAlive.active = false →
        clock.nanos ≤ sent.nanos + 4000000000 + slack late pc) ∧
      (s.timerKeepAlive.active = true →
        s.timerKeepAlive.ts.nanos ≤ sent.nanos + (s.rtspTimeout - 1) * 1000000000 + 4 * late)
  attended : pc = .poll ∨ pc = .timers →
    (s.rtspStatus = .sessionPlaying → s.waitResponse = true) ∧
      (s.rtspStatus = .sessionTransmitting →
        s.waitResponse = true ∨ s.timerKeepAlive.active = true)

/-- The invariant of the clocked loop; nothing is promised about the times of a session that has
a timeout which cannot be kept. -/
structure Timely (late : ℕ) (pc : Pc) (clock : Timespec) (sentAt : Option Timespec)
    (s : SatipRTSP) : Prop where
  sound : UdpOk s
  single : s.timerKeepAlive.active = true → s.timerKeepAlive.single = true
  waiting : s.waitResponse = true →
    ∃ sent, sentAt = some sent ∧ s.timerResetConnect = .start sent 4000 true
  times : (s.rtspStatus = .sessionTransmitting → Refreshable s) → Times late pc clock sentAt s

variable {late : ℕ} {ahead : ℤ} {pc pc' : Pc} {clock now : Timespec} {sentAt : Option Timespec}
  {s next : SatipRTSP} {timer : TimerElem}

theorem slack_nonneg (late : ℕ) (pc : Pc) : 0 ≤ slack late pc := by
  cases pc <;> dsimp only [slack] <;> omega

theorem slack_le (late : ℕ) (pc : Pc) : slack late pc ≤ 5 * late := by
  cases pc <;> dsimp only [slack] <;> omega

theorem valid_after (h : now.Valid) {msec : ℤ} (hmsec : 0 ≤ msec) : (now.after msec).Valid := by
  have hmod : msec.tmod 1000 < 1000 := Int.tmod_lt_of_pos msec (by decide)
  have hmod' : 0 ≤ msec.tmod 1000 := Int.tmod_nonneg 1000 hmsec
  unfold Timespec.Valid at h ⊢
  unfold Timespec.after
  dsimp only
  split_ifs
  · dsimp only
    omega
  · dsimp only
    omega

/-- A timer that was started just now. -/
theorem onTime_start (h : now.Valid) {msec : ℤ} (hlow : 0 ≤ msec)
    (hhigh : msec * 1000000 ≤ ahead) : OnTime late ahead pc now (.start now msec true) := by
  have hnanos : (TimerElem.start now msec true).ts.nanos = now.nanos + msec * 1000000 :=
    Timespec.nanos_after now msec
  have hslack := slack_nonneg late pc
  refine ⟨valid_after h hlow, ?_, ?_⟩
  · rw [hnanos]
    omega
  · rw [hnanos]
    omega

/-- Time passes. -/
theorem OnTime.later (h : OnTime late ahead pc clock timer) (hmono : clock.nanos ≤ now.nanos)
    (hslack : now.nanos + slack late pc ≤ clock.nanos + slack late pc') :
    OnTime late ahead pc' now timer := by
  obtain ⟨hvalid, hdue, hnear⟩ := h
  exact ⟨hvalid, by omega, by omega⟩

/-- Behind the sweep a timer is not overdue at all. -/
theorem OnTime.swept (h : OnTime late ahead pc clock timer) (hactive : timer.active = true)
    (hvalid : now.Valid) (hmono : clock.nanos ≤ now.nanos) (hdue : ¬Expired now timer) :
    OnTime late ahead .drain now timer := by
  have hafter : now.nanos ≤ timer.ts.nanos := by
    by_contra hlate
    exact hdue ⟨hactive, Timer.due_of_nanos_lt hvalid h.valid (by omega)⟩
  have hnear := h.near
  have hslack := slack_nonneg late .drain
  exact ⟨h.valid, by omega, by omega⟩

/-! ## What a step does to the times -/

theorem Times.later (h : Times late pc clock sentAt s) (hmono : clock.nanos ≤ now.nanos)
    (hslack : now.nanos + slack late pc ≤ clock.nanos + slack late pc')
    (hattended : pc' = .poll ∨ pc' = .timers →
      (s.rtspStatus = .sessionPlaying → s.waitResponse = true) ∧
        (s.rtspStatus = .sessionTransmitting →
          s.waitResponse = true ∨ s.timerKeepAlive.active = true)) :
    Times late pc' now sentAt s := by
  refine ⟨fun hactive ↦ (h.watchdog hactive).later hmono hslack,
    fun hactive ↦ (h.keepAlive hactive).later hmono hslack, fun hserved ↦ ?_, hattended⟩
  obtain ⟨sent, hsent, hidle, hkeep⟩ := h.served hserved
  refine ⟨sent, hsent, fun hinactive ↦ ?_, hkeep⟩
  have hbound := hidle hinactive
  omega

/-- A session without a connection has no times to keep. -/
theorem times_of_down (h : UdpOk s) (hdown : s.rtspStatus = .configWaiting) :
    Times late pc clock sentAt s := by
  have hwatchdog : ¬s.timerResetConnect.active = true := fun hactive ↦
    h.wait.session.resetConnect hactive hdown
  have hkeepAlive : s.timerKeepAlive.active = false :=
    h.wait.session.keepAlive_eq_false (by simp [hdown])
  refine ⟨fun hactive ↦ absurd hactive hwatchdog, ?_, ?_, ?_⟩
  · simp [hkeepAlive]
  · simp [hdown]
  · simp [hdown]

/-- A request was sent just now. -/
theorem times_of_sent (hnow : now.Valid) (hwatchdog : s.timerResetConnect = .start now 4000 true)
    (hkeepAlive : s.timerKeepAlive.active = false) (hwait : s.waitResponse = true) :
    Times late pc now (some now) s := by
  have hslack := slack_nonneg late pc
  constructor
  · rw [hwatchdog]
    exact fun _ ↦ onTime_start hnow (by decide) (by decide)
  · simp [hkeepAlive]
  · refine fun _ ↦ ⟨now, rfl, fun _ ↦ by omega, ?_⟩
    simp [hkeepAlive]
  · exact fun _ ↦ ⟨fun _ ↦ hwait, fun _ ↦ Or.inl hwait⟩

/-- The keep-alive timer is started. -/
theorem times_of_keepAlive (h : Times late .status clock sentAt s)
    (hrtsp : s.rtspStatus = .sessionTransmitting) (hidle : s.timerKeepAlive.active = false)
    (htimeout : Refreshable s) (hnow : now.Valid) (hmono : clock.nanos ≤ now.nanos)
    (hsoon : now.nanos ≤ clock.nanos + late) :
    Times late .poll now sentAt (startTimerKeepAliveMessage now s) := by
  obtain ⟨hlow, hhigh⟩ := htimeout
  have hdelay := keepAliveDelay_of_bounds hlow hhigh
  have hint : ((s.rtspTimeout - 5) * 1000).bmod (2 ^ 32) = (s.rtspTimeout - 5) * 1000 :=
    Int.bmod_eq_of_le (by omega) (by omega)
  have hnanos := nanos_timerKeepAlive now hdelay
  obtain ⟨sent, hsent, hbound, -⟩ := h.served (Or.inr hrtsp)
  have hsince : clock.nanos ≤ sent.nanos + 4000000000 + 3 * late := hbound hidle
  constructor
  · intro hactive
    have hslack : now.nanos + slack late .status ≤ clock.nanos + slack late .poll := by
      dsimp only [slack]
      omega
    exact (h.watchdog hactive).later hmono hslack
  · intro _
    change OnTime late keepAliveAhead .poll now
      (.start now (((s.rtspTimeout - 5) * 1000).bmod (2 ^ 32)) true)
    rw [hint]
    have hhigh' : (s.rtspTimeout - 5) * 1000 * 1000000 ≤ keepAliveAhead := by
      unfold keepAliveAhead
      omega
    exact onTime_start hnow (by omega) hhigh'
  · refine fun _ ↦ ⟨sent, hsent, by simp [startTimerKeepAliveMessage], fun _ ↦ ?_⟩
    rw [hnanos]
    change _ ≤ sent.nanos + (s.rtspTimeout - 1) * 1000000000 + 4 * late
    omega
  · intro _
    refine ⟨?_, fun _ ↦ Or.inr rfl⟩
    change s.rtspStatus = .sessionPlaying → _
    simp [hrtsp]

/-! ## What a step does to the invariant -/

theorem timely_of_down (h : UdpOk s) (hdown : s.rtspStatus = .configWaiting) :
    Timely late pc clock sentAt s := by
  have hkeepAlive : s.timerKeepAlive.active = false :=
    h.wait.session.keepAlive_eq_false (by simp [hdown])
  have hwait : s.waitResponse = false := h.wait.session.wait_eq_false (Or.inl hdown)
  exact ⟨h, by simp [hkeepAlive], by simp [hwait], fun _ ↦ times_of_down h hdown⟩

theorem timely_of_sent (h : UdpOk s) (hnow : now.Valid)
    (hwatchdog : s.timerResetConnect = .start now 4000 true)
    (hkeepAlive : s.timerKeepAlive.active = false) (hwait : s.waitResponse = true) :
    Timely late pc now (some now) s :=
  ⟨h, by simp [hkeepAlive], fun _ ↦ ⟨now, rfl, hwatchdog⟩,
    fun _ ↦ times_of_sent hnow hwatchdog hkeepAlive hwait⟩

theorem sentAfter_of_quiet {events : List Event} (htrace : next.trace = s.trace ++ events)
    (hquiet : ∀ event ∈ events, event.request? = none) :
    sentAfter now s next sentAt = sentAt := by
  have hnone : events.countP isSent = 0 := by
    rw [List.countP_eq_zero]
    intro event hevent
    have hrequest := hquiet event hevent
    cases event with
    | request => cases hrequest
    | channelChanged | released | connected | connectFailed | disconnected | response | frame
    | armed | expired => simp [isSent]
  refine if_neg ?_
  unfold Wrote
  rw [htrace, List.countP_append, hnone]
  exact lt_irrefl _

theorem sentAfter_self : sentAfter now s s sentAt = sentAt :=
  sentAfter_of_quiet (List.append_nil _).symm (by simp)

theorem sentAfter_of_sent {r : Request} (htrace : next.trace = s.trace ++ [.request r true]) :
    sentAfter now s next sentAt = some now := by
  refine if_pos ?_
  unfold Wrote
  rw [htrace, List.countP_append]
  exact Nat.lt_succ_self _

theorem Timely.status (h : Timely late .status clock sentAt s) (hnow : now.Valid)
    (hmono : clock.nanos ≤ now.nanos)
    (hsoon : s.rtspStatus = .configWaiting ∨ now.nanos ≤ clock.nanos + late)
    (connect : Option ℕ) (sent : Bool) :
    Timely late .poll now (sentAfter now s (handleRTSPStatus now connect sent s) sentAt)
      (handleRTSPStatus now connect sent s) := by
  have hnext : RTSP.step s (.handleRTSPStatus now connect sent) =
      some (handleRTSPStatus now connect sent s) := rfl
  have hsound := h.sound.step hnext
  have hcase : StatusCase now s (handleRTSPStatus now connect sent s) :=
    statusCase_handleRTSPStatus connect sent
  generalize handleRTSPStatus now connect sent s = next at hsound hcase
  by_cases hdown : next.rtspStatus = .configWaiting
  · exact timely_of_down hsound hdown
  cases hcase with
  | down next hnext => exact absurd hnext hdown
  | connecting fd =>
    have hkeepAlive : (startConnect now (some fd) s).timerKeepAlive.active = false :=
      hsound.wait.session.keepAlive_eq_false
        (by simp [startConnect, startTimerResetConnect, record])
    have hwait : (startConnect now (some fd) s).waitResponse = false :=
      hsound.wait.session.wait_eq_false (Or.inr rfl)
    refine ⟨hsound, by simp [hkeepAlive], by simp [hwait], fun _ ↦ ⟨?_, ?_, ?_, ?_⟩⟩
    · exact fun _ ↦ onTime_start hnow (by decide) (by decide)
    · simp [hkeepAlive]
    · simp [startConnect, startTimerResetConnect, record]
    · simp [startConnect, startTimerResetConnect, record]
  | kept hsettles =>
    rw [sentAfter_self]
    have hlate := hsoon.resolve_left hdown
    have hslack : now.nanos + slack late .status ≤ clock.nanos + slack late .poll := by
      dsimp only [slack]
      omega
    exact ⟨h.sound, h.single, h.waiting, fun htimeout ↦
      (h.times htimeout).later hmono hslack fun _ ↦ ⟨hsettles.playing,
        fun htransmitting ↦ (hsettles.transmitting htransmitting).imp_right And.left⟩⟩
  | sent kind status text =>
    have htrace : (afterSent now kind status text s).trace =
        s.trace ++ [.request (writtenRequest kind text s) true] := rfl
    rw [sentAfter_of_sent htrace]
    exact timely_of_sent hsound hnow rfl rfl rfl
  | keepAlive hrtsp hidle =>
    have htrace : (startTimerKeepAliveMessage now s).trace = s.trace ++ [] :=
      (List.append_nil _).symm
    rw [sentAfter_of_quiet htrace (by simp)]
    have hlate := hsoon.resolve_left (by simp [hrtsp])
    refine ⟨hsound, fun _ ↦ rfl, h.waiting, fun htimeout ↦ ?_⟩
    have hrefreshable : Refreshable s := htimeout hrtsp
    exact times_of_keepAlive (h.times fun _ ↦ hrefreshable) hrtsp hidle hrefreshable hnow hmono
      hlate

/-- While a response is waited for, the watchdog expires four seconds behind the request. -/
theorem Timely.deadline (h : Timely late pc clock sentAt s) (hwait : s.waitResponse = true) :
    ∃ sent, sentAt = some sent ∧ s.timerResetConnect.active = true ∧
      s.timerResetConnect.ts.nanos = sent.nanos + 4000000000 := by
  obtain ⟨sent, hsent, htimer⟩ := h.waiting hwait
  have hnanos : (TimerElem.start sent 4000 true).ts.nanos = sent.nanos + 4000 * 1000000 :=
    Timespec.nanos_after sent 4000
  refine ⟨sent, hsent, h.sound.wait.active hwait, ?_⟩
  rw [htimer]
  omega

/-- The sweep leaves no timer behind that is overdue. -/
theorem Timely.timers (h : Timely late .timers clock sentAt s) (hnow : now.Valid)
    (hmono : clock.nanos ≤ now.nanos) (sent : Bool) :
    Timely late .drain now (sentAfter now s (handleNextTimer now sent s) sentAt)
      (handleNextTimer now sent s) := by
  have hnext : RTSP.step s (.handleNextTimer now sent) = some (handleNextTimer now sent s) := rfl
  have hsound := h.sound.step hnext
  have hcase : TimerCase now s (handleNextTimer now sent s) :=
    timerCase_handleNextTimer h.sound sent
  generalize handleNextTimer now sent s = next at hsound hcase
  -- a response is waited for no longer than four seconds
  have hwaits (hwatchdog : ¬Expired now s.timerResetConnect) (hwait : s.waitResponse = true)
      (htimes : Times late .timers clock sentAt s) :
      ∃ sent, sentAt = some sent ∧
        now.nanos ≤ sent.nanos + 4000000000 + slack late .drain := by
    obtain ⟨sent, hsent, hactive, hnanos⟩ := h.deadline hwait
    have hdue := ((htimes.watchdog hactive).swept hactive hnow hmono hwatchdog).due
    exact ⟨sent, hsent, by omega⟩
  cases hcase with
  | down next hnext => exact timely_of_down hsound hnext
  | kept hwatchdog hkeepAlive =>
    rw [sentAfter_self]
    refine ⟨h.sound, h.single, h.waiting, fun htimeout ↦ ?_⟩
    have htimes := h.times htimeout
    refine ⟨fun hactive ↦ (htimes.watchdog hactive).swept hactive hnow hmono hwatchdog,
      fun hactive ↦ (htimes.keepAlive hactive).swept hactive hnow hmono hkeepAlive,
      fun hserved ↦ ?_, by simp⟩
    obtain ⟨sent, hsent, -, hkeep⟩ := htimes.served hserved
    refine ⟨sent, hsent, fun hidle ↦ ?_, hkeep⟩
    obtain ⟨hplaying, htransmitting⟩ := htimes.attended (Or.inr rfl)
    have hwait : s.waitResponse = true := by
      rcases hserved with hrtsp | hrtsp
      · exact hplaying hrtsp
      · exact (htransmitting hrtsp).resolve_right (by simp [hidle])
    obtain ⟨sent', hsent', hbound⟩ := hwaits hwatchdog hwait htimes
    obtain rfl : sent' = sent := Option.some.inj (hsent'.symm.trans hsent)
    exact hbound
  | busy hwatchdog hactive hwait =>
    have htrace : ({ s with timerKeepAlive := s.timerKeepAlive.afterCall now } : SatipRTSP).trace =
        s.trace ++ [] := (List.append_nil _).symm
    rw [sentAfter_of_quiet htrace (by simp)]
    have hidle : (s.timerKeepAlive.afterCall now).active = false :=
      TimerElem.active_afterCall now (h.single hactive)
    refine ⟨hsound, by simp [hidle], h.waiting, fun htimeout ↦ ?_⟩
    have htimes := h.times htimeout
    refine ⟨fun hrunning ↦ (htimes.watchdog hrunning).swept hrunning hnow hmono hwatchdog,
      by simp [hidle], fun hserved ↦ ?_, by simp⟩
    obtain ⟨sent, hsent, -⟩ := htimes.served hserved
    refine ⟨sent, hsent, fun _ ↦ ?_, by simp [hidle]⟩
    obtain ⟨sent', hsent', hbound⟩ := hwaits hwatchdog hwait htimes
    obtain rfl : sent' = sent := Option.some.inj (hsent'.symm.trans hsent)
    exact hbound
  | sent hactive _ text =>
    have htrace : ({ afterSent now .option s.rtspStatus text s with
        timerKeepAlive := s.timerKeepAlive.stop.afterCall now } : SatipRTSP).trace =
        s.trace ++ [.request (writtenRequest .option text s) true] := rfl
    rw [sentAfter_of_sent htrace]
    refine timely_of_sent hsound hnow rfl ?_ rfl
    change (s.timerKeepAlive.stop.afterCall now).active = false
    exact TimerElem.active_afterCall now (h.single hactive)

/-- Only `handleRTSPStatus` and the keep-alive timer send requests. -/
theorem quiet_of_actions {sources : Set Source} (h : Actions now sources s next)
    (hsources : ∀ source ∈ sources, source ≠ .status ∧ source ≠ .timer) :
    ∃ events, next.trace = s.trace ++ events ∧ ∀ event ∈ events, event.request? = none := by
  refine actions_invariant
    (fun mid ↦ ∃ events, mid.trace = s.trace ++ events ∧ ∀ event ∈ events, event.request? = none)
    ?_ h ⟨[], (List.append_nil _).symm, by simp⟩
  rintro mid source after hsource ⟨events, htrace, hquiet⟩ haction
  obtain ⟨more, hmore, hadds⟩ := adds_of_action haction
  refine ⟨events ++ more, by rw [hmore, htrace, List.append_assoc], ?_⟩
  have hnone : ∀ event ∈ more, event.request? = none := by
    cases hadds with
    | quiet _ hnone => exact hnone
    | request kind status text sent _ hsends =>
      obtain ⟨hstatus, htimer⟩ := hsources source hsource
      cases hsends with
      | option => exact absurd rfl htimer
      | setup | play | update | teardown => exact absurd rfl hstatus
  intro event hevent
  exact (List.mem_append.mp hevent).elim (hquiet event) (hnone event)

theorem sentAfter_handlePollEvents {events : PollEvents} {recv : Recv}
    (hnext : handlePollEvents now events recv s = some next) :
    sentAfter now s next sentAt = sentAt := by
  have hactions := actions_of_handlePollEvents hnext
  have hsources : ∀ source ∈ (Op.handlePollEvents now events recv).sources,
      source ≠ .status ∧ source ≠ .timer := by
    intro source hsource
    unfold Op.sources at hsource
    dsimp only at hsource
    split_ifs at hsource
    · obtain rfl : source = .hangup := hsource
      simp
    · rcases hsource with rfl | hcompletion
      · simp
      · obtain rfl : source = .completion := hcompletion
        simp
  obtain ⟨more, htrace, hquiet⟩ := quiet_of_actions hactions hsources
  exact sentAfter_of_quiet htrace hquiet

theorem UdpOk.request_ne_setup (h : UdpOk s) (hrtsp : s.rtspStatus = .sessionTransmitting) :
    s.rtspRequest ≠ .setup := by
  intro hsetup
  by_cases hwait : s.waitResponse = true
  · have hawaits := h.wait.session.outstanding hwait
    rw [hrtsp, hsetup] at hawaits
    cases hawaits
  · have hnone := h.request.mpr (by simpa using hwait)
    rw [hsetup] at hnone
    cases hnone

/-- Poll events are looked at. -/
theorem Timely.pollEvents (h : Timely late .rtsp clock sentAt s)
    (hmono : clock.nanos ≤ now.nanos)
    (hsoon : s.rtspStatus = .configWaiting ∨ now.nanos ≤ clock.nanos + late)
    {events : PollEvents} {recv : Recv} (hnext : handlePollEvents now events recv s = some next) :
    Timely late .status now (sentAfter now s next sentAt) next := by
  have hstep : RTSP.step s (.handlePollEvents now events recv) = some next := hnext
  have hsound := h.sound.step hstep
  have houtcome := pollOutcome_handlePollEvents h.sound hnext
  rw [sentAfter_handlePollEvents hnext]
  by_cases hdown : next.rtspStatus = .configWaiting
  · exact timely_of_down hsound hdown
  cases houtcome with
  | down next hdown' => exact absurd hdown' hdown
  | ready hrtsp =>
    have hkeepAlive : (startSession s).timerKeepAlive.active = false :=
      hsound.wait.session.keepAlive_eq_false (by simp [startSession])
    have hwait : (startSession s).waitResponse = false :=
      h.sound.wait.session.wait_eq_false (Or.inr hrtsp)
    refine ⟨hsound, by simp [hkeepAlive], by simp [hwait], fun _ ↦ ⟨?_, ?_, ?_, by simp⟩⟩
    · simp [startSession]
    · simp [hkeepAlive]
    · simp [startSession]
  | read next hrtsp hwait hwatchdog hkeepAlive htimeout =>
    have hconnected : s.rtspStatus ≠ .configWaiting := by
      intro hwaiting
      rcases hrtsp with hsame | ⟨-, hmoved⟩
      · exact hdown (hsame.trans hwaiting)
      · exact hdown (by rw [hmoved, hwaiting]; rfl)
    have hlate := hsoon.resolve_left hconnected
    have hslack : now.nanos + slack late .rtsp ≤ clock.nanos + slack late .status := by
      dsimp only [slack]
      omega
    -- the status and the timeout of a session that transmits stay as they are
    have hstays (htransmitting : s.rtspStatus = .sessionTransmitting) :
        next.rtspStatus = .sessionTransmitting ∧ next.rtspTimeout = s.rtspTimeout := by
      refine ⟨?_, htimeout (UdpOk.request_ne_setup h.sound htransmitting)⟩
      rcases hrtsp with hsame | ⟨-, hmoved⟩
      · exact hsame.trans htransmitting
      · rw [hmoved, htransmitting]
        rfl
    refine ⟨hsound, fun hactive ↦ ?_, fun hwaiting ↦ ?_, fun hrefreshable ↦ ?_⟩
    · rw [hkeepAlive] at hactive ⊢
      exact h.single hactive
    · rcases hwatchdog with hsame | ⟨hidle, -⟩
      · rw [hsame]
        exact h.waiting (hwait hwaiting)
      · rw [hidle] at hwaiting
        cases hwaiting
    · have htimes : Times late .rtsp clock sentAt s := by
        refine h.times fun htransmitting ↦ ?_
        obtain ⟨hmoved, hsame⟩ := hstays htransmitting
        have hbounds := hrefreshable hmoved
        unfold Refreshable at hbounds ⊢
        rwa [hsame] at hbounds
      refine ⟨fun hactive ↦ ?_, fun hactive ↦ ?_, fun hserved ↦ ?_, by simp⟩
      · rcases hwatchdog with hsame | ⟨-, hidle⟩
        · rw [hsame] at hactive ⊢
          exact (htimes.watchdog hactive).later hmono hslack
        · rw [hidle] at hactive
          cases hactive
      · rw [hkeepAlive] at hactive ⊢
        exact (htimes.keepAlive hactive).later hmono hslack
      · by_cases htransmitting : s.rtspStatus = .sessionTransmitting
        · obtain ⟨sent, hsent, hidle, hkeep⟩ := htimes.served (Or.inr htransmitting)
          rw [hkeepAlive, (hstays htransmitting).2]
          refine ⟨sent, hsent, fun hinactive ↦ ?_, hkeep⟩
          have hbound := hidle hinactive
          omega
        · have hidle : s.timerKeepAlive.active = false :=
            h.sound.wait.session.keepAlive_eq_false htransmitting
          have hsince : ∃ sent, sentAt = some sent ∧
              clock.nanos ≤ sent.nanos + 4000000000 + slack late .rtsp := by
            rcases hrtsp with hsame | ⟨hwaited, -⟩
            · rw [hsame] at hserved
              obtain ⟨sent, hsent, hbound, -⟩ := htimes.served hserved
              exact ⟨sent, hsent, hbound hidle⟩
            · obtain ⟨sent, hsent, hactive, hnanos⟩ := h.deadline hwaited
              have hdue := (htimes.watchdog hactive).due
              exact ⟨sent, hsent, by omega⟩
          obtain ⟨sent, hsent, hbound⟩ := hsince
          refine ⟨sent, hsent, fun _ ↦ by omega, ?_⟩
          rw [hkeepAlive, hidle]
          exact fun hactive ↦ absurd hactive (by simp)

/-- Time passes, and nothing else happens. -/
theorem Timely.later (h : Timely late pc clock sentAt s) (hmono : clock.nanos ≤ now.nanos)
    (hslack : s.rtspStatus ≠ .configWaiting →
      now.nanos + slack late pc ≤ clock.nanos + slack late pc')
    (hpc : pc' = .poll ∨ pc' = .timers → pc = .poll ∨ pc = .timers) :
    Timely late pc' now sentAt s := by
  by_cases hdown : s.rtspStatus = .configWaiting
  · exact timely_of_down h.sound hdown
  · refine ⟨h.sound, h.single, h.waiting, fun htimeout ↦ ?_⟩
    have htimes := h.times htimeout
    exact htimes.later hmono (hslack hdown) fun hplace ↦ htimes.attended (hpc hplace)

/-- The times do not depend on the configuration. -/
theorem Timely.withConfig (h : Timely late pc clock sentAt s) {config : Config.SatipConfig}
    {events : List Event} (hsound : UdpOk (withConfig config events s)) :
    Timely late pc clock sentAt (withConfig config events s) := by
  refine ⟨hsound, h.single, h.waiting, fun htimeout ↦ ?_⟩
  have htimes := h.times htimeout
  exact ⟨htimes.watchdog, htimes.keepAlive, htimes.served, htimes.attended⟩

/-- The configuration has changed, and nothing else. -/
def Reconfigured (s next : SatipRTSP) : Prop :=
  ∃ config events, next = withConfig config events s ∧
    ∀ event ∈ events, event.request? = none

theorem Reconfigured.refl (s : SatipRTSP) : Reconfigured s s := by
  refine ⟨s.config, [], ?_, by simp⟩
  simp [RTSP.withConfig]

theorem Reconfigured.trans {mid : SatipRTSP} (hfront : Reconfigured s mid)
    (hback : Reconfigured mid next) : Reconfigured s next := by
  obtain ⟨config, events, rfl, hquiet⟩ := hfront
  obtain ⟨config', events', rfl, hquiet'⟩ := hback
  refine ⟨config', events ++ events', ?_, ?_⟩
  · simp [RTSP.withConfig]
  · intro event hevent
    exact (List.mem_append.mp hevent).elim (hquiet event) (hquiet' event)

theorem Timely.reconfigured (h : Timely late pc clock sentAt s) (hnext : Reconfigured s next)
    (hsound : UdpOk next) : Timely late pc clock (sentAfter now s next sentAt) next := by
  obtain ⟨config, events, rfl, hquiet⟩ := hnext
  rw [sentAfter_of_quiet rfl hquiet]
  exact h.withConfig hsound

/-- The calls of a message change the configuration. -/
theorem reconfigured_vtunerCalls {calls : List VtunerCall} {σ next : System}
    (h : calls.foldlM (fun σ call ↦ vtunerCall call σ) σ = some next) (hsound : UdpOk σ.session) :
    Reconfigured σ.session next.session ∧ UdpOk next.session := by
  induction calls generalizing σ with
  | nil =>
    obtain rfl := Option.some.inj h
    exact ⟨.refl _, hsound⟩
  | cons call calls ih =>
    rw [List.foldlM_cons, Option.bind_eq_bind, Option.bind_eq_some_iff] at h
    obtain ⟨mid, hmid, hrest⟩ := h
    obtain ⟨session, hsession, rfl⟩ := Option.map_eq_some_iff.mp hmid
    have hcall : RTSP.step σ.session (.vtuner call) = some session := hsession
    have hfirst : Reconfigured σ.session session := by
      obtain ⟨config, -, rfl⟩ := Option.map_eq_some_iff.mp hsession
      refine ⟨config, call.events, rfl, fun event hevent ↦ ?_⟩
      rcases VtunerCall.mem_events hevent with rfl | rfl <;> rfl
    have hmid : (if session.config.caPids = σ.session.config.caPids then
        { σ with session := session }
      else { σ with session := session, pipe := σ.pipe.write, unseen := true }).session =
        session := by
      split_ifs <;> rfl
    have hback := ih hrest (by rw [hmid]; exact hsound.step hcall)
    rw [hmid] at hback
    exact ⟨hfirst.trans hback.1, hback.2⟩

/-- The CA pids that the RTP thread reports are part of the configuration. -/
theorem udpOk_setCaPids (h : UdpOk s) (pids : Finset ℕ) :
    UdpOk (withConfig (Config.setCaPids pids s.config) [] s) := by
  have hsession : SessionOk (withConfig (Config.setCaPids pids s.config) [] s) :=
    h.wait.session.congr [] rfl rfl id id rfl rfl rfl (by simp)
  have hreconnect : reconnect (withConfig (Config.setCaPids pids s.config) [] s) =
      reconnect s := by
    unfold reconnect Config.channel Config.setCaPids RTSP.withConfig
    split_ifs <;> simp
  refine ⟨⟨hsession, h.wait.active⟩, h.request, ?_, ?_⟩
  · rw [hreconnect]
    exact h.reconnect
  · rw [← h.udp]
    unfold isTcpData Config.setCaPids RTSP.withConfig
    split_ifs <;> rfl

/-! ## Runs -/

/-- `poll` leaves the session alone, and so does its failure. -/
theorem session_of_poll {result : PollResult} {σ next : System} (h : poll result σ = some next) :
    next.session = σ.session := by
  cases result with
  | ready | timeout =>
    simp only [poll, Option.ite_none_left_eq_some, Option.some.injEq] at h
    rw [← h.2]
  | interrupted | failed =>
    rw [← Option.some.inj h]

namespace Clocked

variable {σ after : Clocked} {tick : Tick} {action : Action} {system : System}

/-- The invariant of the clocked loop. -/
def Timely (late : ℕ) (σ : Clocked) : Prop :=
  MainLoop.Timely late σ.system.pc σ.clock σ.sentAt σ.system.session

/-- What the main loop does at a place other than behind `poll` takes no longer than `late`. -/
theorem Prompt.in_time (h : Prompt late σ tick) (hpc : σ.system.pc ≠ .timers) :
    σ.system.session.rtspStatus = .configWaiting ∨
      tick.now.nanos ≤ σ.clock.nanos + late := by
  refine h.soon.imp_right fun hsoon ↦ ?_
  rw [sleep, if_neg hpc] at hsoon
  omega

/-- A step that only takes time, to a place where more of it may have passed. -/
theorem Timely.pass (h : σ.Timely late) (hprompt : Prompt late σ tick)
    (hpc : σ.system.pc ≠ .timers) (hslack : slack late σ.system.pc + late ≤ slack late pc)
    (hplace : pc = .poll ∨ pc = .timers → σ.system.pc = .poll ∨ σ.system.pc = .timers) :
    MainLoop.Timely late pc tick.now σ.sentAt σ.system.session := by
  refine MainLoop.Timely.later h hprompt.monotone (fun hconnected ↦ ?_) hplace
  have hsoon := (hprompt.in_time hpc).resolve_left hconnected
  omega

/-- A step of the session thread. -/
theorem Timely.loop (h : σ.Timely late) (hown : action.OfLoop)
    (hprompt : Prompt late σ ⟨action, now⟩)
    (hstep : MainLoop.step σ.system action = some system) :
    MainLoop.Timely late system.pc now
      (sentAfter now σ.system.session system.session σ.sentAt) system.session := by
  have hreads (time : Timespec) (htime : action.time? = some time) : time = now := by
    have hnow := hprompt.reads
    dsimp only at hnow
    rw [htime] at hnow
    exact Option.some.inj (hnow.resolve_left (by simp))
  have hmono := hprompt.monotone
  cases action with
  | handleRTSPStatus time connect sent =>
    simp only [MainLoop.step, Option.ite_none_right_eq_some, Option.some.injEq] at hstep
    obtain ⟨hpc, rfl⟩ := hstep
    obtain rfl := hreads time rfl
    have hsoon := hprompt.in_time (by simp [hpc])
    rw [Timely, hpc] at h
    exact h.status hprompt.valid hmono hsoon connect sent
  | poll result =>
    simp only [MainLoop.step, Option.ite_none_right_eq_some] at hstep
    obtain ⟨hpc, hpoll⟩ := hstep
    rw [session_of_poll hpoll, sentAfter_self]
    have hslack : slack late σ.system.pc + late ≤ slack late system.pc := by
      rcases pc_of_poll hpoll with hnext | hnext <;> rw [hpc, hnext] <;> dsimp only [slack] <;>
        omega
    exact h.pass hprompt (by simp [hpc]) hslack fun _ ↦ Or.inl hpc
  | handleNextTimer time sent =>
    simp only [MainLoop.step, Option.ite_none_right_eq_some, Option.some.injEq] at hstep
    obtain ⟨hpc, rfl⟩ := hstep
    obtain rfl := hreads time rfl
    rw [Timely, hpc] at h
    exact h.timers hprompt.valid hmono sent
  | drain =>
    simp only [MainLoop.step, Option.ite_none_right_eq_some, Option.some.injEq] at hstep
    obtain ⟨hpc, rfl⟩ := hstep
    rw [sentAfter_self]
    refine h.pass hprompt (by simp [hpc]) ?_ (by simp)
    rw [hpc]
    dsimp only [slack]
    omega
  | vtunerEvent calls =>
    simp only [MainLoop.step, Option.ite_none_right_eq_some, Option.map_eq_some_iff] at hstep
    obtain ⟨hpc, mid, hmid, rfl⟩ := hstep
    have hpassed : MainLoop.Timely late .rtsp now σ.sentAt σ.system.session := by
      refine h.pass hprompt (by simp [hpc]) ?_ (by simp)
      rw [hpc]
      dsimp only [slack]
      omega
    have hcalls : Reconfigured σ.system.session mid.session ∧ UdpOk mid.session := by
      unfold vtunerEvent at hmid
      split_ifs at hmid
      · exact reconfigured_vtunerCalls hmid hpassed.sound
      · obtain rfl := Option.some.inj hmid
        exact ⟨.refl _, hpassed.sound⟩
    exact hpassed.reconfigured hcalls.1 hcalls.2
  | handlePollEvents time recv =>
    simp only [MainLoop.step, Option.ite_none_right_eq_some, Option.map_eq_some_iff] at hstep
    obtain ⟨hpc, mid, hmid, rfl⟩ := hstep
    obtain rfl := hreads time rfl
    have hsoon := hprompt.in_time (by simp [hpc])
    unfold socketEvent at hmid
    split_ifs at hmid
    · obtain rfl := Option.some.inj hmid
      change MainLoop.Timely late .status time
        (sentAfter time σ.system.session σ.system.session σ.sentAt) σ.system.session
      rw [sentAfter_self]
      refine h.pass hprompt (by simp [hpc]) ?_ (by simp)
      rw [hpc]
      dsimp only [slack]
      omega
    · obtain ⟨session, hsession, rfl⟩ := Option.map_eq_some_iff.mp hmid
      rw [Timely, hpc] at h
      exact h.pollEvents hmono hsoon hsession
  | setCaPids | wakeup => exact absurd hown id

/-- A step of the RTP thread. -/
theorem Timely.rtp (h : σ.Timely late) (hother : ¬action.OfLoop)
    (hstep : MainLoop.step σ.system action = some system) :
    MainLoop.Timely late system.pc σ.clock
      (sentAfter now σ.system.session system.session σ.sentAt) system.session := by
  cases action with
  | setCaPids pids =>
    simp only [MainLoop.step, Option.ite_none_left_eq_some, Option.some.injEq] at hstep
    obtain ⟨-, rfl⟩ := hstep
    have hsession : (report pids σ.system).session =
        withConfig (Config.setCaPids pids σ.system.session.config) [] σ.system.session := by
      unfold report
      dsimp only
      split_ifs <;> simp [RTSP.withConfig]
    have hpc : (report pids σ.system).pc = σ.system.pc := by
      unfold report
      dsimp only
      split_ifs <;> rfl
    rw [hsession, hpc]
    exact MainLoop.Timely.reconfigured h ⟨_, [], rfl, by simp⟩ (udpOk_setCaPids h.sound pids)
  | wakeup =>
    simp only [MainLoop.step, Option.ite_none_right_eq_some, Option.some.injEq] at hstep
    obtain ⟨-, rfl⟩ := hstep
    rw [sentAfter_self]
    exact h
  | handleRTSPStatus | poll | handleNextTimer | drain | vtunerEvent | handlePollEvents =>
    exact absurd trivial hother

theorem step_timely (h : σ.Timely late) (hpaced : Paced late σ tick)
    (hnext : step σ tick = some after) : after.Timely late := by
  obtain ⟨system, hsystem, rfl⟩ := Option.map_eq_some_iff.mp hnext
  unfold Timely
  dsimp only
  split_ifs with hown
  · exact h.loop hown (hpaced hown) hsystem
  · exact h.rtp hown hsystem

theorem timely_start (args : SessionArgs) (pipe : Pipe) (hudp : args.settings.tcpdata = false) :
    (start args pipe).Timely late := by
  have hdown : args.start.rtspStatus = .configWaiting := rtspStatus_resetConnect _ _ _
  have hreach : RTSP.Reachable args.start := ⟨args, Runs.Reachable.refl _ _⟩
  have htcp : isTcpData args.start = args.settings.tcpdata := isTcpData_of_run (.refl _ _)
  have hsound : UdpOk args.start :=
    ⟨hreach.waitOk, hreach.waitsForRequest, hreach.reconnectOk, htcp.trans hudp⟩
  exact timely_of_down hsound hdown

theorem timely_of_run {args : SessionArgs} {pipe : Pipe} {ticks : List Tick}
    (hudp : args.settings.tcpdata = false)
    (hpaced : Runs.EachStep step (Paced late) (start args pipe) ticks)
    (hrun : Runs.run step (start args pipe) ticks = some σ) : σ.Timely late :=
  Runs.run_invariant (fun _ _ _ h hpaced hnext ↦ step_timely h hpaced hnext)
    (timely_start args pipe hudp) hpaced hrun

/-! ## The age of the last request -/

theorem fitsInt_of_onTime (h : OnTime late keepAliveAhead pc σ.clock timer)
    (hlate : 10 * (late : ℤ) + 2000000 < 1000000000) : FitsInt (msecUntil σ.clock timer) := by
  obtain ⟨hmore, hless⟩ := Timer.msecUntil_bounds σ.clock timer
  obtain ⟨-, hdue, hnear⟩ := h
  have hslack := slack_le late pc
  unfold keepAliveAhead at hnear
  constructor <;> omega

/-- The sleep in `poll` ends two milliseconds behind the deadline of an active timer at most. -/
theorem sleep_le (h : σ.Timely late)
    (htimes : Times late σ.system.pc σ.clock σ.sentAt σ.system.session)
    (hconnected : σ.system.session.rtspStatus ≠ .configWaiting)
    (hlate : 10 * (late : ℤ) + 2000000 < 1000000000)
    (htimer : timer = σ.system.session.timerResetConnect ∨
      timer = σ.system.session.timerKeepAlive) (hactive : timer.active = true) :
    σ.clock.nanos + σ.sleep ≤ timer.ts.nanos + 5 * late + 2000000 := by
  have hslack := slack_le late σ.system.pc
  have honTime (other : TimerElem) (hrunning : other.active = true)
      (hother : other = σ.system.session.timerResetConnect ∨
        other = σ.system.session.timerKeepAlive) :
      OnTime late keepAliveAhead σ.system.pc σ.clock other := by
    rcases hother with rfl | rfl
    · obtain ⟨hvalid, hdue, hnear⟩ := htimes.watchdog hrunning
      have hless : watchdogAhead ≤ keepAliveAhead := by decide
      exact ⟨hvalid, hdue, hnear.trans (by omega)⟩
    · exact htimes.keepAlive hrunning
  have hdue := (honTime timer hactive htimer).due
  unfold sleep
  split_ifs with hpc
  · have hmem : ∀ other ∈ [σ.system.session.timerResetConnect, σ.system.session.timerKeepAlive,
        σ.system.session.timerReconnect], other.active = true →
        OnTime late keepAliveAhead σ.system.pc σ.clock other := by
      intro other hother hrunning
      simp only [List.mem_cons, List.not_mem_nil, or_false] at hother
      rcases hother with hother | hother | rfl
      · exact honTime other hrunning (Or.inl hother)
      · exact honTime other hrunning (Or.inr hother)
      · rw [UdpOk.reconnect_idle h.sound hconnected] at hrunning
        cases hrunning
    have hlisted : timer ∈ [σ.system.session.timerResetConnect,
        σ.system.session.timerKeepAlive, σ.system.session.timerReconnect] := by
      rcases htimer with rfl | rfl <;> simp
    have hwait := Timer.wait_le σ.clock
      (fun other hother hrunning ↦ (hmem other hother hrunning).valid)
      (fun other hother hrunning ↦ fitsInt_of_onTime (hmem other hother hrunning) hlate)
      hlisted hactive
    unfold getPollTimeout
    omega
  · omega

/-- As long as a session without TCP data is served, the server has heard of it within its
timeout: whenever the session thread makes its next step, the last request is younger than that. -/
theorem refreshed_in_time (args : SessionArgs) (pipe : Pipe) (late : ℕ)
    (hudp : args.settings.tcpdata = false) (hlate : 10 * (late : ℤ) + 2000000 < 1000000000)
    {ticks : List Tick} (hrun : Runs.run step (start args pipe) ticks = some σ)
    (hpaced : Runs.EachStep step (Paced late) (start args pipe) ticks)
    (hserved : σ.system.session.rtspStatus = .sessionPlaying ∨
      σ.system.session.rtspStatus = .sessionTransmitting)
    (htimeout : Refreshable σ.system.session) (hprompt : Prompt late σ tick) :
    ∃ sent, σ.sentAt = some sent ∧
      tick.now.nanos < sent.nanos + σ.system.session.rtspTimeout * 1000000000 := by
  have htimely : σ.Timely late := timely_of_run hudp hpaced hrun
  have htimes := htimely.times fun _ ↦ htimeout
  have hconnected : σ.system.session.rtspStatus ≠ .configWaiting := by
    rcases hserved with hrtsp | hrtsp <;> simp [hrtsp]
  have hsoon := hprompt.soon.resolve_left hconnected
  obtain ⟨hlow, -⟩ := htimeout
  obtain ⟨sent, hsent, hidle, hkeep⟩ := htimes.served hserved
  refine ⟨sent, hsent, ?_⟩
  by_cases hactive : σ.system.session.timerKeepAlive.active = true
  · have hwait := sleep_le htimely htimes hconnected hlate (Or.inr rfl) hactive
    have hdeadline := hkeep hactive
    omega
  · have hinactive : σ.system.session.timerKeepAlive.active = false := by simpa using hactive
    by_cases hpc : σ.system.pc = .timers
    · obtain ⟨hplaying, htransmitting⟩ := htimes.attended (Or.inr hpc)
      have hresponse : σ.system.session.waitResponse = true := by
        rcases hserved with hrtsp | hrtsp
        · exact hplaying hrtsp
        · exact (htransmitting hrtsp).resolve_right hactive
      obtain ⟨sent', hsent', hrunning, hnanos⟩ := MainLoop.Timely.deadline htimely hresponse
      obtain rfl : sent' = sent := Option.some.inj (hsent'.symm.trans hsent)
      have hwait := sleep_le htimely htimes hconnected hlate (Or.inl rfl) hrunning
      omega
    · have hsince := hidle hinactive
      have hslack := slack_le late σ.system.pc
      rw [sleep, if_neg hpc] at hsoon
      omega

/-- A round of the loop in no time: `poll` returns at once, and what it reports is dealt with. -/
def quickRound (connect : Option ℕ) (vtuner : Bool) (rtsp : PollEvents) (calls : List VtunerCall)
    (bytes : List UInt8) : List Tick :=
  [.handleRTSPStatus {} connect true, .poll (.ready vtuner rtsp), .handleNextTimer {} true, .drain,
    .vtunerEvent calls, .handlePollEvents {} (.bytes bytes)].map fun action ↦ ⟨action, {}⟩

/-- A session is opened and played, and the loop waits until the keep-alive timer is due. -/
def servedTicks : List Tick :=
  quickRound none true {} [.setChannelChanged] [] ++
    quickRound (some 3) false { pollout := true } [] [] ++
    quickRound none false { pollin := true } [] setupResponse ++
    quickRound none false { pollin := true } [] plainResponse ++
    [⟨.handleRTSPStatus {} none true, {}⟩, ⟨.poll .timeout, {}⟩]

/-- The timer is due 55 seconds behind the last request. -/
def dueTick : Tick where
  action := .handleNextTimer { sec := 55, nsec := 9000000 } true
  now := { sec := 55, nsec := 9000000 }

theorem refreshed_in_time_servedTicks :
    ∃ σ sent, Runs.run step (start udpArgs smallPipe) servedTicks = some σ ∧
      σ.system.session.rtspTimeout = 60 ∧ σ.sentAt = some sent ∧
      dueTick.now.nanos < sent.nanos + σ.system.session.rtspTimeout * 1000000000 := by
  have hruns : (Runs.run step (start udpArgs smallPipe) servedTicks).map (fun σ ↦
      decide (σ.system.session.rtspStatus = .sessionTransmitting ∧
        σ.system.session.rtspTimeout = 60 ∧ Prompt 50000000 σ dueTick)) = some true := by
    decide +kernel
  have hpaced : Runs.EachStep step (Paced 50000000) (start udpArgs smallPipe) servedTicks := by
    decide +kernel
  obtain ⟨σ, hrun, hfields⟩ := Option.map_eq_some_iff.mp hruns
  obtain ⟨hrtsp, htimeout, hprompt⟩ := of_decide_eq_true hfields
  have hrefreshable : Refreshable σ.system.session := by
    unfold Refreshable
    omega
  obtain ⟨sent, hsent, hyoung⟩ := refreshed_in_time udpArgs smallPipe 50000000 rfl (by decide) hrun
    hpaced (Or.inr hrtsp) hrefreshable hprompt
  exact ⟨σ, sent, hrun, htimeout, hsent, hyoung⟩

end Clocked

end SatipClient.RTSP.MainLoop
