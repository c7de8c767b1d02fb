import Mathlib.Tactic.IntervalCases
import SatipClient.Foundation.Fairness
import SatipClient.RTSP.Completion
import SatipClient.RTSP.Opening
import SatipClient.RTSP.Wire
import SatipClient.Vtuner.Asked

/-!
# Recovering

A session that has lost its connection comes back by itself.  From any state without a connection
in which the tuner is in use, once the server is up and grants what it is asked for in time, every
fair run comes to a session that transmits (`run_transmits`): a tuning that was taken up waits for
the reconnect timer, and behind it each step on the way is one that somebody is about to make.
-/

namespace SatipClient.RTSP

open Config (SatipConfig)
open CString (ascii ofBytes)

variable {s next : SatipRTSP} {now : Timespec} {source : Source}

/-! ## Without a connection -/

/-- Without a connection a tuning that was taken up is to be tried again, and nothing is left in
the buffer; a session that is torn down has none. -/
structure IdleOk (s : SatipRTSP) : Prop where
  armed : s.rtspStatus = .configWaiting → s.config.status = .stable →
    s.timerReconnect.active = true
  closing : s.rtspStatus = .sessionTeardowning → s.config.status ≠ .stable
  empty : ¬Reads s.rtspStatus → s.rxDataPos = 0

/-- What the invariant looks at is unchanged, but for another tuning. -/
theorem IdleOk.congr (h : IdleOk s) (hrtsp : next.rtspStatus = s.rtspStatus)
    (htimer : next.timerReconnect = s.timerReconnect) (hpos : next.rxDataPos = s.rxDataPos)
    (hstatus : next.config.status = .stable → s.config.status = .stable) : IdleOk next where
  armed := by
    rw [hrtsp, htimer]
    exact fun hwaiting hstable ↦ h.armed hwaiting (hstatus hstable)
  closing := by
    rw [hrtsp]
    exact fun hclosing hstable ↦ h.closing hclosing (hstatus hstable)
  empty := by
    rw [hrtsp, hpos]
    exact h.empty

theorem idleOk_resetConnect (now : Timespec) (autoReconnect : Bool)
    (h : autoReconnect = false → s.config.status ≠ .stable) :
    IdleOk (resetConnect now autoReconnect s) := by
  rcases resetConnect_cases now autoReconnect s with ⟨heq, hwhy⟩ | ⟨heq, _⟩
  · rw [heq]
    have hstatus : s.config.status ≠ .stable := by
      rcases hwhy with hauto | hinvalid | hnew
      · exact h hauto
      · simp [hinvalid]
      · simp [hnew.1]
    exact ⟨fun _ hstable ↦ absurd hstable hstatus, nofun, fun _ ↦ rfl⟩
  · rw [heq]
    exact ⟨fun _ _ ↦ rfl, nofun, fun _ ↦ rfl⟩

/-- A call of the kernel does not take up the tuning. -/
theorem status_of_call {call : VtunerCall} {config : SatipConfig}
    (h : Config.step s.config call.op = some config) :
    config.status = (Vtuner.statusWrite call).getD s.config.status := by
  rw [Vtuner.step_op] at h
  obtain rfl := Option.some.inj h
  exact (Vtuner.tuning_callConfig s.config call).2.2.2.2

theorem statusWrite_ne_stable (call : VtunerCall) : Vtuner.statusWrite call ≠ some .stable := by
  unfold Vtuner.statusWrite
  split
  · split_ifs <;> simp
  · simp
  · simp

/-- When the reconnect timer has expired, the tuning is to be tried. -/
theorem status_afterExpired (now : Timespec) (s : SatipRTSP) :
    (afterExpired now s).rtspStatus = s.rtspStatus ∧
      (afterExpired now s).rxDataPos = s.rxDataPos ∧
      (afterExpired now s).config.status ≠ .stable := by
  have hsame : (record (.expired now) s).config = s.config := rfl
  unfold afterExpired timeoutReconnect
  rw [hsame]
  cases hstatus : s.config.status with
  | invalid =>
    refine ⟨rfl, rfl, ?_⟩
    change s.config.status ≠ .stable
    rw [hstatus]
    nofun
  | changed =>
    refine ⟨rfl, rfl, ?_⟩
    change s.config.status ≠ .stable
    rw [hstatus]
    nofun
  | stable =>
    exact ⟨rfl, rfl, nofun⟩

theorem rxDataPos_attempt (s : SatipRTSP) : (attempt s).rxDataPos = s.rxDataPos := by
  unfold attempt
  split <;> rfl

theorem IdleOk.action (h : IdleOk s) (haction : Action now s source next) : IdleOk next := by
  cases haction with
  | vtuner call config hconfig =>
    refine h.congr rfl rfl rfl fun hstable ↦ ?_
    change config.status = .stable at hstable
    rw [status_of_call hconfig] at hstable
    cases hwrite : Vtuner.statusWrite call with
    | none => rwa [hwrite] at hstable
    | some status =>
      rw [hwrite] at hstable
      exact absurd (hwrite.trans (congrArg some hstable)) (statusWrite_ne_stable call)
  | processTS op config hconfig =>
    obtain ⟨psi, caPids, rfl | rfl⟩ := Config.stepPsi_cases hconfig
    · exact h.congr rfl rfl rfl id
    · exact h.congr rfl rfl rfl id
  | cancel hrtsp hstatus =>
    refine ⟨fun _ hstable ↦ ?_, h.closing, h.empty⟩
    rw [show (cancelReconnect s).config.status = s.config.status from rfl, hstatus] at hstable
    cases hstable
  | connect connect hrtsp =>
    have hempty : s.rxDataPos = 0 := h.empty (by simp [Reads, hrtsp])
    cases connect with
    | some fd => exact ⟨nofun, nofun, fun _ ↦ (rxDataPos_attempt s).trans hempty⟩
    | none =>
      refine ⟨fun _ _ ↦ rfl, ?_, fun _ ↦ (rxDataPos_attempt s).trans hempty⟩
      intro hclosing
      change (attempt s).rtspStatus = .sessionTeardowning at hclosing
      rw [rtspStatus_attempt, hrtsp] at hclosing
      cases hclosing
  | send source kind status text hsends =>
    cases hsends with
    | setup | play | update => exact ⟨nofun, nofun, fun hnot ↦ absurd ⟨nofun, nofun⟩ hnot⟩
    | teardown _ hinvalid =>
      refine ⟨nofun, fun _ hstable ↦ ?_, fun hnot ↦ absurd ⟨nofun, nofun⟩ hnot⟩
      change s.config.status = .stable at hstable
      rw [hinvalid] at hstable
      cases hstable
    | option => exact ⟨h.armed, h.closing, h.empty⟩
  | lost | refused | timeout | hangup | badResponse => exact idleOk_resetConnect now true nofun
  | keepAlive | settleResetConnect | settleKeepAlive => exact h.congr rfl rfl rfl id
  | expire =>
    obtain ⟨hrtsp, hpos, hstatus⟩ := status_afterExpired now s
    exact ⟨fun _ hstable ↦ absurd hstable hstatus, fun _ ↦ hstatus, hrtsp ▸ hpos ▸ h.empty⟩
  | ready hrtsp =>
    refine ⟨nofun, nofun, ?_⟩
    intro hreads
    exact absurd ⟨nofun, nofun⟩ hreads
  | buffer rxData rxDataPos hreads =>
    exact ⟨fun hwaiting ↦ absurd hwaiting hreads.1, h.closing, fun hnot ↦ absurd hreads hnot⟩
  | frame size after hreads _ hafter =>
    obtain ⟨config, rfl, hstatus, _⟩ := rtpTcpData_cases hafter
    refine ⟨fun hwaiting ↦ absurd hwaiting hreads.1, ?_, fun hnot ↦ absurd hreads hnot⟩
    intro hclosing
    change config.status ≠ .stable
    rw [hstatus]
    exact h.closing hclosing
  | response size sessionId timeout streamId hreads =>
    exact ⟨fun hwaiting ↦ absurd hwaiting hreads.1, h.closing, fun hnot ↦ absurd hreads hnot⟩
  | advance hreads =>
    unfold advance
    rw [if_pos rfl]
    cases hstatus : s.rtspStatus with
    | configWaiting => exact absurd hstatus hreads.1
    | serverConnecting => exact absurd hstatus hreads.2
    | sessionEstablishing => exact ⟨nofun, nofun, fun hnot ↦ absurd ⟨nofun, nofun⟩ hnot⟩
    | sessionPlaying => exact ⟨nofun, nofun, fun hnot ↦ absurd ⟨nofun, nofun⟩ hnot⟩
    | sessionTransmitting => exact h
    | sessionTeardowning => exact idleOk_resetConnect now false fun _ ↦ h.closing hstatus

theorem Reachable.idleOk (h : Reachable s) : IdleOk s := by
  refine Reachable.of_actions IdleOk (fun _ _ _ _ hs haction ↦ hs.action haction) (fun args ↦ ?_) h
  apply idleOk_resetConnect args.now false
  intro _ hstable
  change (Config.construct args.feType args.settings).status = .stable at hstable
  rw [status_construct] at hstable
  cases hstable

/-! ## A server that is up -/

/-- A response that grants a request. -/
structure Grants (request : RtspRequest) (response : List UInt8) : Prop
    extends Accepted request response where
  opens : request = .setup → ∀ sessionId streamId,
    describedSession response = some (sessionId, streamId) → sessionId ≠ [] ∧ streamId ≠ -1

/-- Who makes a step. -/
inductive Party where
  /-- `handleRTSPStatus` -/
  | loop
  /-- the reconnect timer -/
  | clock
  | server
  /-- the kernel, the RTP thread, and what changes nothing -/
  | world
  deriving DecidableEq

/-- The watchdog does not expire at this time. -/
def InTime (now : Timespec) (s : SatipRTSP) : Prop :=
  ¬(s.timerResetConnect.active = true ∧ s.timerResetConnect.Due now)

/-- The steps while the server is up and the tuner is in use.  A connection is made and a request
is sent where the client tries to; the server accepts the connection and grants the request in time,
in as many parts as it likes, and says nothing else. -/
inductive Served (s : SatipRTSP) : Party → Op → Prop where
  | status (now : Timespec) (fd : ℕ) : Served s .loop (.handleRTSPStatus now (some fd) true)
  | retry (now : Timespec) (hintime : InTime now s) (hactive : s.timerReconnect.active = true)
    (hdue : s.timerReconnect.Due now) : Served s .clock (.handleNextTimer now true)
  | timers (now : Timespec) (hintime : InTime now s) : Served s .world (.handleNextTimer now true)
  | accept (now : Timespec) (recv : Recv) (hstatus : s.rtspStatus = .serverConnecting) :
    Served s .server (.handlePollEvents now { pollout := true } recv)
  | respond (now : Timespec) (bytes : List UInt8) (hwait : s.waitResponse = true)
    (hfits : Fits s (now, bytes)) (hgrants : Grants s.rtspRequest (received s ++ bytes)) :
    Served s .server (.handlePollEvents now { pollin := true } (.bytes bytes))
  | part (now : Timespec) (bytes rest : List UInt8) (hwait : s.waitResponse = true)
    (hfits : Fits s (now, bytes)) (hrest : rest ≠ []) (hroom : Fits s (now, bytes ++ rest))
    (hgrants : Grants s.rtspRequest (received s ++ bytes ++ rest)) :
    Served s .world (.handlePollEvents now { pollin := true } (.bytes bytes))
  | idle (now : Timespec) (events : PollEvents) (recv : Recv) (hopen : events.broken = false)
    (hpollin : events.pollin = false) : Served s .world (.handlePollEvents now events recv)
  | vtuner (call : VtunerCall) (hkeeps : .released ∉ call.events) : Served s .world (.vtuner call)
  | processTS (data : List UInt8) : Served s .world (.processTS data)

/-- The steps of a party. -/
def StepOf (party : Party) (s next : SatipRTSP) : Prop :=
  ∃ op, Served s party op ∧ step s op = some next

/-! ## The way back -/

/-- The rest of a response that grants the request is still to come. -/
def Pending (s : SatipRTSP) : Prop :=
  ∃ rest, Fits s ({}, rest) ∧ Grants s.rtspRequest (received s ++ rest)

/-- A session on its way back. -/
structure Recovering (s : SatipRTSP) : Prop where
  reachable : Reachable s
  tuned : s.config.status ≠ .invalid
  serving : s.rtspStatus ≠ .sessionTeardowning
  nonneg : 0 ≤ s.rxDataPos
  empty : s.waitResponse = false → s.rxDataPos = 0
  pending : s.waitResponse = true → Pending s
  session : s.rtspStatus = .sessionPlaying → HasSession s

/-- How many steps are left. -/
def stepsLeft (s : SatipRTSP) : ℕ :=
  match s.rtspStatus with
  | .configWaiting => if s.config.status = .changed then 6 else 7
  | .serverConnecting => 5
  | .sessionEstablishing => if s.waitResponse then 3 else 4
  | .sessionPlaying => if s.waitResponse then 1 else 2
  | .sessionTransmitting | .sessionTeardowning => 0

/-- Who makes the next one. -/
def nextParty (s : SatipRTSP) : Party :=
  match s.rtspStatus with
  | .configWaiting => if s.config.status = .changed then .loop else .clock
  | .serverConnecting => .server
  | .sessionEstablishing | .sessionPlaying => if s.waitResponse then .server else .loop
  | .sessionTransmitting | .sessionTeardowning => .loop

theorem nextParty_ne_world (s : SatipRTSP) : nextParty s ≠ .world := by
  unfold nextParty
  split <;> (try split_ifs) <;> nofun

/-- A step came nearer to the goal, or it left the way as it was and was somebody else's. -/
def Approaches (party : Party) (s next : SatipRTSP) : Prop :=
  Recovering next ∧ (stepsLeft next < stepsLeft s ∨
    stepsLeft next = stepsLeft s ∧ nextParty next = nextParty s ∧ party ≠ nextParty s)

/-- Nothing has changed but the tuning, which is to be tried now if it was not before. -/
structure SameWay (s next : SatipRTSP) : Prop where
  rtsp : next.rtspStatus = s.rtspStatus
  wait : next.waitResponse = s.waitResponse
  request : next.rtspRequest = s.rtspRequest
  stream : next.rtspStreamId = s.rtspStreamId
  sessionId : next.rtspSessionId = s.rtspSessionId
  rxData : next.rxData = s.rxData
  rxDataPos : next.rxDataPos = s.rxDataPos
  rxDataLen : next.rxDataLen = s.rxDataLen
  status : next.config.status = s.config.status ∨ next.config.status = .changed

theorem Recovering.sameWay (h : Recovering s) (hsame : SameWay s next) (hreach : Reachable next) :
    Recovering next where
  reachable := hreach
  tuned := by
    rcases hsame.status with hstatus | hstatus
    · rw [hstatus]
      exact h.tuned
    · rw [hstatus]
      nofun
  serving := by
    rw [hsame.rtsp]
    exact h.serving
  nonneg := by
    rw [hsame.rxDataPos]
    exact h.nonneg
  empty := by
    rw [hsame.wait, hsame.rxDataPos]
    exact h.empty
  pending := by
    rw [hsame.wait]
    intro hwait
    obtain ⟨rest, hfits, hgrants⟩ := h.pending hwait
    refine ⟨rest, ?_, ?_⟩
    · rw [Fits, room, hsame.rxDataLen, hsame.rxDataPos]
      exact hfits
    · rw [hsame.request, received, hsame.rxData, hsame.rxDataPos]
      exact hgrants
  session := by
    rw [hsame.rtsp, HasSession, hsame.stream, hsame.sessionId]
    exact h.session

theorem SameWay.steps (h : SameWay s next) : stepsLeft next < stepsLeft s ∨
    stepsLeft next = stepsLeft s ∧ nextParty next = nextParty s := by
  unfold stepsLeft nextParty
  rw [h.rtsp, h.wait]
  cases s.rtspStatus with
  | configWaiting =>
    rcases h.status with hstatus | hstatus
    · simp only [hstatus, and_self, or_true]
    · by_cases hchanged : s.config.status = .changed <;> simp [hstatus, hchanged]
  | serverConnecting | sessionEstablishing | sessionPlaying | sessionTransmitting
  | sessionTeardowning => exact Or.inr ⟨rfl, rfl⟩

/-- Such a step is no obstacle. -/
theorem Recovering.approaches (h : Recovering s) (hsame : SameWay s next) (hreach : Reachable next)
    {party : Party} (hparty : party ≠ nextParty s) : Approaches party s next :=
  ⟨h.sameWay hsame hreach, hsame.steps.imp_right fun hsteps ↦ ⟨hsteps.1, hsteps.2, hparty⟩⟩

theorem SameWay.refl (s : SatipRTSP) : SameWay s s :=
  ⟨rfl, rfl, rfl, rfl, rfl, rfl, rfl, rfl, Or.inl rfl⟩

theorem Reachable.snoc (h : Reachable s) (op : Op) (hstep : step s op = some next) :
    Reachable next := by
  obtain ⟨args, hreach⟩ := h
  exact ⟨args, hreach.trans (Runs.Reachable.single hstep)⟩

/-! ### The clock -/

/-- Where the watchdog does not expire, only the reconnect timer can. -/
theorem handleNextTimer_of_inTime (hintime : InTime now s)
    (hkeep : s.timerKeepAlive.active = false) (sent : Bool) :
    handleNextTimer now sent s =
      if s.timerReconnect.active = true ∧ s.timerReconnect.Due now then afterExpired now s
      else s := by
  have hreset : Timer.callIfDue now s (slotResetConnect now) = s := if_neg hintime
  have hbefore : beforeReconnect now sent s = s := by
    rw [beforeReconnect, hreset]
    exact if_neg fun hdue ↦ Bool.false_ne_true (hkeep.symm.trans hdue.1)
  rw [handleNextTimer_eq, hbefore, callIfDue_slotReconnect]

theorem sameWay_afterExpired (now : Timespec) (htuned : s.config.status ≠ .invalid) :
    SameWay s (afterExpired now s) ∧ (afterExpired now s).config.status = .changed := by
  have hsame : (record (.expired now) s).config = s.config := rfl
  unfold afterExpired timeoutReconnect
  rw [hsame]
  cases hstatus : s.config.status with
  | invalid => exact absurd hstatus htuned
  | changed =>
    have hchanged : (resetReconnectBackoff (record (.expired now) s)).config.status = .changed :=
      hstatus
    exact ⟨⟨rfl, rfl, rfl, rfl, rfl, rfl, rfl, rfl, Or.inr hchanged⟩, hchanged⟩
  | stable => exact ⟨⟨rfl, rfl, rfl, rfl, rfl, rfl, rfl, rfl, Or.inr rfl⟩, rfl⟩

/-- The reconnect timer waits in the idle state only. -/
theorem Reachable.waiting_of_active (h : Reachable s) (hactive : s.timerReconnect.active = true) :
    s.rtspStatus = .configWaiting := phase_eq_idle.mp (h.reconnectOk.idle hactive)

theorem Recovering.timers (h : Recovering s) (hgoal : s.rtspStatus ≠ .sessionTransmitting)
    {party : Party} (hintime : InTime now s)
    (hserved : Served s party (.handleNextTimer now true)) :
    Approaches party s (handleNextTimer now true s) := by
  have hkeep : s.timerKeepAlive.active = false := h.reachable.sessionOk.keepAlive_eq_false hgoal
  have hreach : Reachable (handleNextTimer now true s) :=
    h.reachable.snoc (.handleNextTimer now true) rfl
  rw [handleNextTimer_of_inTime hintime hkeep] at hreach ⊢
  split_ifs at hreach ⊢ with hdue
  · have hwaiting : s.rtspStatus = .configWaiting := h.reachable.waiting_of_active hdue.1
    obtain ⟨hsame, hchanged⟩ := sameWay_afterExpired now h.tuned
    by_cases htried : s.config.status = .changed
    · have hloop : nextParty s = .loop := by simp [nextParty, hwaiting, htried]
      apply h.approaches hsame hreach
      rw [hloop]
      cases hserved <;> nofun
    · refine ⟨h.sameWay hsame hreach, Or.inl ?_⟩
      simp [stepsLeft, hsame.rtsp, hwaiting, hchanged, htried]
  · apply h.approaches (.refl s) hreach
    cases hserved with
    | retry _ _ hactive hdue' => exact absurd ⟨hactive, hdue'⟩ hdue
    | timers => exact (nextParty_ne_world s).symm

/-! ### The kernel and the RTP thread -/

theorem Recovering.vtuner (h : Recovering s) {call : VtunerCall} (hkeeps : .released ∉ call.events)
    (hstep : step s (.vtuner call) = some next) : Approaches .world s next := by
  refine h.approaches ?_ (h.reachable.snoc _ hstep) (nextParty_ne_world s).symm
  obtain ⟨config, hconfig, rfl⟩ := Option.map_eq_some_iff.mp hstep
  refine ⟨rfl, rfl, rfl, rfl, rfl, rfl, rfl, rfl, ?_⟩
  change config.status = s.config.status ∨ config.status = .changed
  rw [status_of_call hconfig]
  cases call with
  | updatePidList | clearProperty | setParam => exact Or.inl rfl
  | setChannelChanged => exact Or.inr rfl
  | setVoltage voltage =>
    left
    by_cases hsupply : voltage = Config.secVoltage13 ∨ voltage = Config.secVoltage18
    · simp [Vtuner.statusWrite, hsupply]
    · simp [VtunerCall.events, hsupply] at hkeeps

theorem Recovering.processTS (h : Recovering s) {data : List UInt8}
    (hstep : step s (.processTS data) = some next) : Approaches .world s next := by
  refine h.approaches ?_ (h.reachable.snoc _ hstep) (nextParty_ne_world s).symm
  obtain ⟨config, hconfig, rfl⟩ := Option.map_eq_some_iff.mp hstep
  obtain ⟨psi, caPids, rfl | rfl⟩ := Config.stepPsi_cases hconfig
  · exact ⟨rfl, rfl, rfl, rfl, rfl, rfl, rfl, rfl, Or.inl rfl⟩
  · exact ⟨rfl, rfl, rfl, rfl, rfl, rfl, rfl, rfl, Or.inl rfl⟩

/-! ### The loop -/

/-- There is a response that grants any request. -/
theorem grants_setupResponse (request : RtspRequest) : Grants request setupResponse where
  complete := by
    unfold IsResponse
    decide +kernel
  code := by decide +kernel
  session _ := ⟨ascii "1;timeout=60\r\ncom.ses.streamID: 1\r\n\r\n", 1, by decide +kernel,
    by decide, by decide +kernel⟩
  opens _ sessionId streamId hdescribed := by
    have hsame : some (ascii "1", (1 : ℤ)) = some (sessionId, streamId) := by
      rw [← hdescribed, ← describes_setupResponse [], List.append_nil]
    obtain ⟨rfl, rfl⟩ := Prod.mk.inj (Option.some.inj hsame)
    decide

/-- With an empty buffer, the whole response is still to come. -/
theorem pending_of_empty (h : Reachable s) (hempty : s.rxDataPos = 0) : Pending s := by
  refine ⟨setupResponse, ⟨by decide, ?_⟩, ?_⟩
  · have hlen : 2048 ≤ s.rxDataLen := by
      rw [h.rxDataLen]
      unfold bufferSize
      split <;> decide
    have hlength : setupResponse.length < 100 := by decide
    change (setupResponse.length : ℤ) ≤ s.rxDataLen - s.rxDataPos - 1
    omega
  · have hnothing : received s = [] := by
      rw [received, hempty]
      rfl
    rw [hnothing]
    exact grants_setupResponse s.rtspRequest

/-- The request is sent. -/
theorem sendRequest_sent (now : Timespec) {kind : RtspRequest} (hwait : s.waitResponse = false)
    (hkind : kind = .setup ∨ kind = .play ∧ HasSession s) :
    ∃ text, (sendRequest now kind true s).2 =
      awaitResponse now kind (written kind text true (stopTimerKeepAliveMessage s)) := by
  have hidle : ¬s.waitResponse = true := by simp [hwait]
  unfold sendRequest
  rw [if_neg hidle]
  rcases hkind with rfl | ⟨rfl, hsession⟩
  · exact ⟨_, rfl⟩
  · have hsession' : HasSession (stopTimerKeepAliveMessage s) := hsession
    have hsent : sendKind true (stopTimerKeepAliveMessage s) .play =
        sendPlay true (stopTimerKeepAliveMessage s) := rfl
    rw [hsent, sendPlay, if_pos hsession']
    exact ⟨_, rfl⟩

/-- Sending a request is a step on the way. -/
theorem Recovering.send (h : Recovering s) {kind : RtspRequest} (hwait : s.waitResponse = false)
    (hkind : s.rtspStatus = .sessionEstablishing ∧ kind = .setup ∨
      s.rtspStatus = .sessionPlaying ∧ kind = .play)
    (hreach : Reachable (sendRequest now kind true s).2) :
    Approaches .loop s (sendRequest now kind true s).2 := by
  have hneeds : kind = .setup ∨ kind = .play ∧ HasSession s :=
    hkind.imp (fun hsetup ↦ hsetup.2) fun hplay ↦ ⟨hplay.2, h.session hplay.1⟩
  obtain ⟨text, heq⟩ := sendRequest_sent now hwait hneeds
  rw [heq] at hreach ⊢
  generalize hnext : awaitResponse now kind (written kind text true (stopTimerKeepAliveMessage s)) =
    next at hreach ⊢
  have hrtsp : next.rtspStatus = s.rtspStatus := by
    rw [← hnext]
    rfl
  have hwaits : next.waitResponse = true := by
    rw [← hnext]
    rfl
  have hempty : next.rxDataPos = 0 := by
    rw [← hnext]
    exact h.empty hwait
  refine ⟨⟨hreach, ?_, ?_, hempty.ge, ?_, fun _ ↦ pending_of_empty hreach hempty, ?_⟩, Or.inl ?_⟩
  · have hchannel := channel_requestConfig (hneeds.imp_right And.left) s
    have htaken := Reconnect.status_take (Config.channel s.config)
    rw [← hchannel] at htaken
    rw [← hnext]
    exact fun hinvalid ↦ h.tuned (htaken.mp hinvalid)
  · rw [hrtsp]
    exact h.serving
  · rw [hwaits]
    nofun
  · rw [hrtsp, ← hnext]
    exact h.session
  · unfold stepsLeft
    rw [hrtsp, hwaits, hwait]
    rcases hkind with ⟨hstatus, _⟩ | ⟨hstatus, _⟩ <;> rw [hstatus] <;> simp

theorem Recovering.loop (h : Recovering s) (hgoal : s.rtspStatus ≠ .sessionTransmitting) (fd : ℕ) :
    Approaches .loop s (handleRTSPStatus now (some fd) true s) := by
  have hreach : Reachable (handleRTSPStatus now (some fd) true s) :=
    h.reachable.snoc (.handleRTSPStatus now (some fd) true) rfl
  have hstays (hparty : Party.loop ≠ nextParty s) : Approaches .loop s s :=
    h.approaches (.refl s) h.reachable hparty
  unfold handleRTSPStatus at hreach ⊢
  cases hrtsp : s.rtspStatus with
  | configWaiting =>
    rw [hrtsp] at hreach
    dsimp only at hreach ⊢
    cases hstatus : s.config.status with
    | invalid => exact absurd hstatus h.tuned
    | stable => exact hstays (by simp [nextParty, hrtsp, hstatus])
    | changed =>
      rw [hstatus] at hreach
      have hempty : s.rxDataPos = 0 := h.reachable.idleOk.empty (by simp [Reads, hrtsp])
      have hwait : s.waitResponse = false := h.reachable.sessionOk.wait_eq_false (Or.inl hrtsp)
      have hempty' : (attempt s).rxDataPos = 0 := (rxDataPos_attempt s).trans hempty
      refine ⟨⟨hreach, ?_, nofun, hempty'.ge, fun _ ↦ hempty', ?_, nofun⟩, Or.inl ?_⟩
      · change (attempt s).config.status ≠ .invalid
        rw [config_attempt]
        exact h.tuned
      · change (attempt s).waitResponse = true → _
        rw [waitResponse_attempt, hwait]
        nofun
      · simp [stepsLeft, hrtsp, hstatus, startConnect, startTimerResetConnect, record]
  | serverConnecting => exact hstays (by simp [nextParty, hrtsp])
  | sessionTransmitting => exact absurd hrtsp hgoal
  | sessionTeardowning => exact absurd hrtsp h.serving
  | sessionEstablishing | sessionPlaying =>
    rw [hrtsp] at hreach
    dsimp only at hreach ⊢
    cases hwait : s.waitResponse with
    | true =>
      rw [sendRequest, if_pos hwait]
      exact hstays (by simp [nextParty, hrtsp, hwait])
    | false => exact h.send hwait (by simp [hrtsp]) hreach

/-! ### The server -/

/-- The connection is accepted, or nothing happens. -/
theorem Recovering.idle (h : Recovering s) (hgoal : s.rtspStatus ≠ .sessionTransmitting)
    {events : PollEvents} {recv : Recv} (hopen : events.broken = false)
    (hpollin : events.pollin = false) {party : Party}
    (hparty : party = .world ∨
      party = .server ∧ s.rtspStatus = .serverConnecting ∧ events.pollout = true)
    (hstep : step s (.handlePollEvents now events recv) = some next) : Approaches party s next := by
  have hreach : Reachable next := h.reachable.snoc _ hstep
  have hworld (hsame : next = s) (hother : party = .world) : Approaches party s next := by
    rw [hsame, hother]
    exact h.approaches (.refl s) h.reachable (nextParty_ne_world s).symm
  change handlePollEvents now events recv s = some next at hstep
  unfold handlePollEvents at hstep
  rw [if_neg (by simp [hopen])] at hstep
  cases hrtsp : s.rtspStatus with
  | configWaiting =>
    rw [hrtsp] at hstep hparty
    exact hworld (Option.some.inj hstep).symm (hparty.resolve_right (by simp))
  | serverConnecting =>
    rw [hrtsp] at hstep hparty
    dsimp only at hstep
    split_ifs at hstep with hpollout
    · obtain rfl := Option.some.inj hstep
      have hempty : s.rxDataPos = 0 := h.reachable.idleOk.empty (by simp [Reads, hrtsp])
      have hwait : s.waitResponse = false := h.reachable.sessionOk.wait_eq_false (Or.inr hrtsp)
      refine ⟨⟨hreach, h.tuned, ?_, hempty.ge, fun _ ↦ hempty, ?_, ?_⟩, Or.inl ?_⟩
      · simp [startSession]
      · change s.waitResponse = true → _
        simp [hwait]
      · simp [startSession]
      · simp [stepsLeft, hrtsp, startSession, hwait]
    · exact hworld (Option.some.inj hstep).symm (hparty.resolve_right fun hs ↦ hpollout hs.2.2)
  | sessionTransmitting => exact absurd hrtsp hgoal
  | sessionTeardowning => exact absurd hrtsp h.serving
  | sessionEstablishing | sessionPlaying =>
    rw [hrtsp] at hstep hparty
    dsimp only at hstep
    rw [readResponse, if_neg (by simp [hpollin])] at hstep
    exact hworld (Option.some.inj hstep).symm (hparty.resolve_right (by simp))

/-- While the client waits for a response, this is a response to the request that it sent. -/
theorem Reachable.outstanding (h : Reachable s) (hwait : s.waitResponse = true) :
    Outstanding s := by
  refine ⟨hwait, ?_⟩
  have hawaits : Awaits s.rtspStatus s.rtspRequest := h.sessionOk.outstanding hwait
  generalize s.rtspStatus = status, s.rtspRequest = request at hawaits ⊢
  cases hawaits <;> simp

/-- A part of the response is received. -/
theorem handlePollEvents_part (hs : Outstanding s) {bytes rest : List UInt8}
    (hresponse : IsResponse (received s ++ bytes ++ rest)) (hrest : rest ≠ [])
    (hpos : 0 ≤ s.rxDataPos) (hfits : Fits s (now, bytes)) :
    ∃ rxData, readChunk s (now, bytes) = some (withBuffer rxData (s.rxDataPos + bytes.length) s) ∧
      received (withBuffer rxData (s.rxDataPos + bytes.length) s) = received s ++ bytes := by
  have hreceived : received (push bytes s) = received s ++ bytes :=
    received_push_of_nonneg hpos bytes
  have hmessage : firstMessage (isTcpData (push bytes s)) (received (push bytes s)) = none := by
    rw [hreceived]
    exact hresponse.firstMessage_part hrest _
  have hlength : 0 < bytes.length := List.length_pos_iff.mpr hfits.1
  have hpushed : 0 < (push bytes s).rxDataPos := by
    change 0 < s.rxDataPos + bytes.length
    omega
  have hdollar : (push bytes s).rxData 0 ≠ dollar := by
    have hhead := hresponse.text.1
    have hfront := head?_received hpushed
    rw [hreceived] at hfront
    rw [List.head?_append, hfront] at hhead
    simpa using hhead
  have hlen : (push bytes s).rxDataPos < (push bytes s).rxDataLen := rxDataPos_push_lt hfits
  have hround :
      round now .error 0 (push bytes s) = some (.stop .ok (terminated (push bytes s))) := by
    rw [round, if_neg hdollar, textRound, if_neg (by omega)]
    dsimp only
    rw [received_terminated, responseSize_of_none hdollar hmessage]
  refine ⟨(terminated (push bytes s)).rxData, ?_, ?_⟩
  · rw [readChunk_eq hs.reads hfits hpos, loop_eq, hround]
    rfl
  · rw [← hreceived]
    exact received_terminated (push bytes s)

theorem Recovering.part (h : Recovering s) {bytes rest : List UInt8} (hwait : s.waitResponse = true)
    (hfits : Fits s (now, bytes)) (hrest : rest ≠ []) (hroom : Fits s (now, bytes ++ rest))
    (hgrants : Grants s.rtspRequest (received s ++ bytes ++ rest))
    (hstep : step s (.handlePollEvents now { pollin := true } (.bytes bytes)) = some next) :
    Approaches .world s next := by
  have hreach : Reachable next := h.reachable.snoc _ hstep
  obtain ⟨rxData, hread, hreceived⟩ := handlePollEvents_part (h.reachable.outstanding hwait)
    hgrants.complete hrest h.nonneg hfits
  obtain rfl : withBuffer rxData (s.rxDataPos + bytes.length) s = next :=
    Option.some.inj (hread.symm.trans hstep)
  have hnonneg : 0 ≤ s.rxDataPos := h.nonneg
  refine ⟨⟨hreach, h.tuned, h.serving, ?_, ?_, fun _ ↦ ⟨rest, ⟨hrest, ?_⟩, ?_⟩, h.session⟩,
    Or.inr ⟨rfl, rfl, (nextParty_ne_world s).symm⟩⟩
  · change 0 ≤ s.rxDataPos + bytes.length
    omega
  · intro hidle
    rw [show (withBuffer rxData (s.rxDataPos + bytes.length) s).waitResponse = s.waitResponse
      from rfl, hwait] at hidle
    cases hidle
  · have hlength : ((bytes ++ rest).length : ℤ) ≤ s.rxDataLen - s.rxDataPos - 1 := hroom.2
    rw [List.length_append] at hlength
    change (rest.length : ℤ) ≤ s.rxDataLen - (s.rxDataPos + bytes.length) - 1
    omega
  · rw [hreceived]
    exact hgrants

/-- The response is complete. -/
theorem readChunk_grants (hs : Outstanding s) {bytes : List UInt8}
    (hgrants : Grants s.rtspRequest (received s ++ bytes)) (hpos : 0 ≤ s.rxDataPos)
    (hfits : Fits s (now, bytes)) :
    ∃ size sessionId timeout streamId, readChunk s (now, bytes) =
        some (advance now s.rtspStatus .responseComplete
          (afterResponse size sessionId timeout streamId (push bytes s))) ∧
      (size : ℤ) = s.rxDataPos + bytes.length ∧
      SessionAfter s (received s ++ bytes) sessionId streamId := by
  have hreceived : received (push bytes s) = received s ++ bytes ++ [] := by
    rw [received_push_of_nonneg hpos, List.append_nil]
  obtain ⟨sessionId, timeout, streamId, hround⟩ := round_of_accepted now (s := push bytes s)
    hgrants.toAccepted hs.request.1 hs.request.2 hreceived (rxDataPos_push_lt hfits)
    (fun _ ↦ rfl) .error
  rw [if_pos rfl] at hround
  have hread : readChunk s (now, bytes) = some (advance now s.rtspStatus .responseComplete
      (afterResponse (received s ++ bytes).length sessionId timeout streamId (push bytes s))) := by
    rw [readChunk_eq hs.reads hfits hpos, loop_eq, hround]
    rfl
  have hcase := roundCase_of_round now .error 0 (Or.inl rfl) hround
  generalize hafter : Round.stop .responseComplete
    (afterResponse (received s ++ bytes).length sessionId timeout streamId (push bytes s)) = r
    at hcase
  cases hcase with
  | wait res' s' _ _ hres' =>
    rcases hres' with rfl | ⟨rfl, _⟩ <;> cases hafter
  | frame | reset | more => cases hafter
  | last size id number stream hmessage _ _ hsession =>
    have hsame := (Round.stop.inj hafter).2
    have hmessage' := hgrants.complete.firstMessage_append (isTcpData (push bytes s)) []
    rw [← hreceived, hmessage, Option.some_inj, Message.response.injEq] at hmessage'
    have htext : ofBytes (received (push bytes s)) = received s ++ bytes := by
      rw [hreceived, List.append_nil, CString.ofBytes_of_notMem hgrants.complete.text.2.1]
    refine ⟨size, id, number, stream, ?_, ?_, ?_⟩
    · rw [hread, hsame]
    · rw [hmessage', List.length_append, length_received]
      omega
    · rw [← htext]
      exact hsession

theorem Recovering.respond (h : Recovering s) (hgoal : s.rtspStatus ≠ .sessionTransmitting)
    {bytes : List UInt8} (hwait : s.waitResponse = true) (hfits : Fits s (now, bytes))
    (hgrants : Grants s.rtspRequest (received s ++ bytes))
    (hstep : step s (.handlePollEvents now { pollin := true } (.bytes bytes)) = some next) :
    next.rtspStatus = .sessionTransmitting ∨ Approaches .server s next := by
  have hreach : Reachable next := h.reachable.snoc _ hstep
  have hawaits : Awaits s.rtspStatus s.rtspRequest := h.reachable.sessionOk.outstanding hwait
  obtain ⟨size, sessionId, timeout, streamId, hread, hsize, hsession⟩ :=
    readChunk_grants (h.reachable.outstanding hwait) hgrants h.nonneg hfits
  obtain rfl : advance now s.rtspStatus .responseComplete
      (afterResponse size sessionId timeout streamId (push bytes s)) = next :=
    Option.some.inj (hread.symm.trans hstep)
  cases hrtsp : s.rtspStatus with
  | configWaiting | serverConnecting =>
    rw [hrtsp] at hawaits
    cases hawaits
  | sessionTransmitting => exact absurd hrtsp hgoal
  | sessionTeardowning => exact absurd hrtsp h.serving
  | sessionPlaying => exact Or.inl rfl
  | sessionEstablishing =>
    rw [hrtsp] at hawaits hreach
    have hsetup : s.rtspRequest = .setup := by
      generalize s.rtspRequest = request at hawaits
      cases hawaits
      rfl
    have hempty : s.rxDataPos + bytes.length - size = 0 := by omega
    rw [SessionAfter, if_pos hsetup] at hsession
    obtain ⟨hid, hstream⟩ := hgrants.opens hsetup sessionId streamId hsession
    refine Or.inr ⟨⟨hreach, h.tuned, ?_, hempty.ge, fun _ ↦ hempty, ?_,
      fun _ ↦ ⟨hstream, hid⟩⟩, Or.inl ?_⟩
    · simp [advance]
    · simp [advance, afterResponse]
    · simp [stepsLeft, hrtsp, hwait, advance, afterResponse]

/-! ## Fair runs -/

/-- Every step while the server is up comes nearer to the goal, or leaves the way as it is. -/
theorem Recovering.served (h : Recovering s) (hgoal : s.rtspStatus ≠ .sessionTransmitting)
    {party : Party} {op : Op} (hserved : Served s party op) (hstep : step s op = some next) :
    next.rtspStatus = .sessionTransmitting ∨ Approaches party s next := by
  cases hserved with
  | status now fd =>
    obtain rfl := Option.some.inj hstep
    exact Or.inr (h.loop hgoal fd)
  | retry now hintime hactive hdue =>
    obtain rfl := Option.some.inj hstep
    exact Or.inr (h.timers hgoal hintime (.retry now hintime hactive hdue))
  | timers now hintime =>
    obtain rfl := Option.some.inj hstep
    exact Or.inr (h.timers hgoal hintime (.timers now hintime))
  | accept now recv hstatus =>
    exact Or.inr (h.idle hgoal rfl rfl (Or.inr ⟨rfl, hstatus, rfl⟩) hstep)
  | idle now events recv hopen hpollin =>
    exact Or.inr (h.idle hgoal hopen hpollin (Or.inl rfl) hstep)
  | respond now bytes hwait hfits hgrants => exact h.respond hgoal hwait hfits hgrants hstep
  | part now bytes rest hwait hfits hrest hroom hgrants =>
    exact Or.inr (h.part hwait hfits hrest hroom hgrants hstep)
  | vtuner call hkeeps => exact Or.inr (h.vtuner hkeeps hstep)
  | processTS data => exact Or.inr (h.processTS hstep)

theorem exists_due (timer : TimerElem) : ∃ now, timer.Due now :=
  ⟨{ sec := timer.ts.sec + 1 }, Or.inl (Int.lt_succ timer.ts.sec)⟩

/-- The party whose turn it is can make its step. -/
theorem Recovering.enabled (h : Recovering s) (hgoal : s.rtspStatus ≠ .sessionTransmitting) :
    Fairness.Enabled StepOf (nextParty s) s := by
  have hloop : Fairness.Enabled StepOf .loop s := ⟨_, _, .status {} 0, rfl⟩
  have hserver (hwait : s.waitResponse = true) : Fairness.Enabled StepOf .server s := by
    obtain ⟨rest, hfits, hgrants⟩ := h.pending hwait
    obtain ⟨size, sessionId, timeout, streamId, hread, _, _⟩ :=
      readChunk_grants (h.reachable.outstanding hwait) hgrants h.nonneg hfits
    exact ⟨_, _, .respond {} rest hwait hfits hgrants, hread⟩
  unfold nextParty
  cases hrtsp : s.rtspStatus with
  | configWaiting =>
    dsimp only
    split_ifs with hchanged
    · exact hloop
    · have hstable : s.config.status = .stable := by
        have htuned := h.tuned
        generalize s.config.status = status at hchanged htuned
        cases status with
        | invalid => exact absurd rfl htuned
        | stable => rfl
        | changed => exact absurd rfl hchanged
      have hactive : s.timerReconnect.active = true := h.reachable.idleOk.armed hrtsp hstable
      obtain ⟨now, hdue⟩ := exists_due s.timerReconnect
      have hintime : InTime now s := fun hwatch ↦
        h.reachable.sessionOk.resetConnect hwatch.1 hrtsp
      exact ⟨_, _, .retry now hintime hactive hdue, rfl⟩
  | serverConnecting =>
    have hstep : step s (.handlePollEvents {} { pollout := true } (.bytes [])) =
        some (startSession s) := by
      simp [step, handlePollEvents, hrtsp]
    exact ⟨_, _, .accept {} (.bytes []) hrtsp, hstep⟩
  | sessionTransmitting => exact absurd hrtsp hgoal
  | sessionTeardowning => exact absurd hrtsp h.serving
  | sessionEstablishing | sessionPlaying =>
    dsimp only
    split_ifs with hwait
    · exact hserver hwait
    · exact hloop

theorem helps_transmit : Fairness.Helps StepOf Recovering
    (fun s ↦ s.rtspStatus = .sessionTransmitting) stepsLeft nextParty where
  step_inv := by
    rintro party s next h hgoal ⟨op, hserved, hstep⟩
    exact (h.served hgoal hserved hstep).imp_right And.left
  enabled _ h hgoal := h.enabled hgoal
  descends := by
    rintro s next h hgoal ⟨op, hserved, hstep⟩
    refine (h.served hgoal hserved hstep).imp_right fun hnearer ↦ ?_
    exact hnearer.2.resolve_right fun hsame ↦ hsame.2.2 rfl
  waits := by
    rintro party s next h hgoal ⟨op, hserved, hstep⟩
    refine (h.served hgoal hserved hstep).imp_right fun hnearer ↦ ?_
    exact hnearer.2.imp_right fun hsame ↦ ⟨hsame.1, hsame.2.1⟩

/-- A tuner that was tuned and has no connection yet. -/
def tunedStart : SatipRTSP :=
  (step udpArgs.start (.vtuner .setChannelChanged)).getD udpArgs.start

/-- It connects, sets up its stream and plays it. -/
def servedOps : List Op :=
  [.handleRTSPStatus {} (some 3) true, .handlePollEvents {} { pollout := true } (.bytes []),
    .handleRTSPStatus {} (some 3) true, receive setupResponse, .handleRTSPStatus {} (some 3) true,
    receive setupResponse, .handleRTSPStatus {} (some 3) true]

/-- The states of that run. -/
def servedRun : ℕ → SatipRTSP := Fairness.replay step tunedStart servedOps

theorem served_servedOps (n : ℕ) (op : Op) (hop : servedOps[n]? = some op) :
    ∃ party, Served (servedRun n) party op := by
  have hn : n < 7 := (List.getElem?_eq_some_iff.mp hop).1
  have hresponds {k : ℕ} (hwait : (servedRun k).waitResponse = true)
      (hfits : Fits (servedRun k) ({}, setupResponse)) (hempty : received (servedRun k) = []) :
      ∃ party, Served (servedRun k) party (receive setupResponse) := by
    refine ⟨.server, .respond {} setupResponse hwait hfits ?_⟩
    rw [hempty]
    exact grants_setupResponse _
  interval_cases n
  · cases hop
    exact ⟨.loop, .status {} 3⟩
  · cases hop
    exact ⟨.server, .accept {} (.bytes []) (by rfl)⟩
  · cases hop
    exact ⟨.loop, .status {} 3⟩
  · cases hop
    exact hresponds (by decide +kernel) (by decide +kernel) (by decide +kernel)
  · cases hop
    exact ⟨.loop, .status {} 3⟩
  · cases hop
    exact hresponds (by decide +kernel) (by decide +kernel) (by decide +kernel)
  · cases hop
    exact ⟨.loop, .status {} 3⟩

/-- Behind the run nothing changes any more. -/
theorem servedRun_rest {n : ℕ} (hn : 7 ≤ n) : servedRun n = servedRun 7 :=
  Fairness.replay_of_le step tunedStart servedOps hn

end SatipClient.RTSP
