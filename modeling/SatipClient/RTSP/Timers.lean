import SatipClient.RTSP.Completion
import SatipClient.RTSP.Deadline
import SatipClient.Timer.Poll

/-!
# What the main loop does to the timers

The functions that `satipMainLoop` calls, as the timers of a session without TCP data see them.
`handleRTSPStatus` sends a request, starts the keep-alive timer or leaves both timers alone
(`StatusCase`); `handleNextTimer` leaves none behind that is due (`TimerCase`); and
`handlePollEvents` starts none (`PollOutcome`).
-/

namespace SatipClient.RTSP

variable {s next : SatipRTSP} {now : Timespec}

/-- What holds between the steps of a session without TCP data. -/
structure UdpOk (s : SatipRTSP) : Prop where
  wait : WaitOk s
  request : WaitsForRequest s
  reconnect : (reconnect s).Ok
  udp : isTcpData s = false

theorem UdpOk.action {source : Source} (h : UdpOk s) (haction : Action now s source next) :
    UdpOk next := by
  obtain ⟨moves, hmoves, _⟩ := drives_of_action h.wait.session haction
  exact ⟨h.wait.action haction, h.request.action haction, h.reconnect.moves hmoves,
    (isTcpData_of_action haction).trans h.udp⟩

theorem UdpOk.step (h : UdpOk s) {op : Op} (hnext : step s op = some next) : UdpOk next :=
  step_of_actions (fun _ _ _ _ hs haction ↦ hs.action haction) h hnext

theorem UdpOk.reconnect_idle (h : UdpOk s) (hconnected : s.rtspStatus ≠ .configWaiting) :
    s.timerReconnect.active = false := by
  have hidle (hactive : s.timerReconnect.active = true) : s.rtspStatus = .configWaiting :=
    phase_eq_idle.mp (h.reconnect.idle hactive)
  exact Bool.eq_false_iff.mpr fun hactive ↦ hconnected (hidle hactive)

/-- `getPollTimeout` -/
def getPollTimeout (now : Timespec) (s : SatipRTSP) : ℤ :=
  Timer.getNextTimerBegin now [s.timerResetConnect, s.timerKeepAlive, s.timerReconnect]

/-! ## `handleRTSPStatus` -/

/-- `handleRTSPStatus` waits for the server, or has only to keep the session alive. -/
structure Settles (s : SatipRTSP) : Prop where
  establishing : s.rtspStatus = .sessionEstablishing → s.waitResponse = true
  playing : s.rtspStatus = .sessionPlaying → s.waitResponse = true
  transmitting : s.rtspStatus = .sessionTransmitting →
    s.waitResponse = true ∨ s.timerKeepAlive.active = true ∧ s.config.status ≠ .invalid

theorem settles_of_wait (hwait : s.waitResponse = true) : Settles s :=
  ⟨fun _ ↦ hwait, fun _ ↦ hwait, fun _ ↦ Or.inl hwait⟩

/-- The outcomes of `handleRTSPStatus`. -/
inductive StatusCase (now : Timespec) (s : SatipRTSP) : SatipRTSP → Prop where
  | down (next : SatipRTSP) (hnext : next.rtspStatus = .configWaiting) : StatusCase now s next
  | connecting (fd : ℕ) (hchanged : s.config.status = .changed) :
    StatusCase now s (startConnect now (some fd) s)
  | kept (hsettles : Settles s) : StatusCase now s s
  | sent (kind : RtspRequest) (status : RtspStatus) (text : List UInt8)
    (hsends : Sends s .status kind status) (hwait : s.waitResponse = false) :
    StatusCase now s (afterSent now kind status text s)
  | keepAlive (hrtsp : s.rtspStatus = .sessionTransmitting)
    (hidle : s.timerKeepAlive.active = false) (htuned : s.config.status ≠ .invalid) :
    StatusCase now s (startTimerKeepAliveMessage now s)

theorem statusCase_sendAndMove {kind : RtspRequest} {status : RtspStatus}
    (hsends : Sends s .status kind status) (sent : Bool) :
    StatusCase now s (sendAndMove now kind status sent s) := by
  have hsending := sendRequest_sending now kind sent s
  unfold sendAndMove
  generalize sendRequest now kind sent s = out at hsending
  cases hsending with
  | busy hwait => exact .kept (settles_of_wait hwait)
  | sent hwait text => exact .sent kind status text hsends hwait
  | lost | refused => exact .down _ (rtspStatus_resetConnect _ _ _)

theorem statusCase_sendRequest {kind : RtspRequest} (hsends : Sends s .status kind s.rtspStatus)
    (sent : Bool) : StatusCase now s (sendRequest now kind sent s).2 := by
  have hsending := sendRequest_sending now kind sent s
  generalize sendRequest now kind sent s = out at hsending
  cases hsending with
  | busy hwait => exact .kept (settles_of_wait hwait)
  | sent hwait text => exact .sent kind s.rtspStatus text hsends hwait
  | lost | refused => exact .down _ (rtspStatus_resetConnect _ _ _)

theorem statusCase_handleRTSPStatus (connect : Option ℕ) (sent : Bool) :
    StatusCase now s (handleRTSPStatus now connect sent s) := by
  unfold handleRTSPStatus
  cases hrtsp : s.rtspStatus with
  | configWaiting =>
    dsimp only
    cases hstatus : s.config.status with
    | invalid => exact .down _ hrtsp
    | stable => exact .down _ hrtsp
    | changed =>
      cases connect with
      | some fd => exact .connecting fd hstatus
      | none => exact .down _ ((rtspStatus_attempt s).trans hrtsp)
  | serverConnecting | sessionTeardowning =>
    exact .kept ⟨by simp [hrtsp], by simp [hrtsp], by simp [hrtsp]⟩
  | sessionEstablishing =>
    have hsends : Sends s .status .setup s.rtspStatus := by
      rw [hrtsp]
      exact .setup hrtsp
    exact statusCase_sendRequest hsends sent
  | sessionPlaying =>
    have hsends : Sends s .status .play s.rtspStatus := by
      rw [hrtsp]
      exact .play hrtsp
    exact statusCase_sendRequest hsends sent
  | sessionTransmitting =>
    dsimp only
    unfold maintainSession
    split_ifs with hchanged hinvalid hactive
    · exact statusCase_sendAndMove (.update hrtsp hchanged) sent
    · exact statusCase_sendAndMove (.teardown hrtsp hinvalid) sent
    · exact .kept ⟨by simp [hrtsp], by simp [hrtsp], fun _ ↦ Or.inr ⟨hactive, hinvalid⟩⟩
    · exact .keepAlive hrtsp (by simpa using hactive) hinvalid

/-! ## `handleNextTimer` -/

/-- The timer is active and due. -/
def Expired (now : Timespec) (timer : TimerElem) : Prop := timer.active = true ∧ timer.Due now

instance (now : Timespec) (timer : TimerElem) : Decidable (Expired now timer) :=
  inferInstanceAs (Decidable (_ ∧ _))

/-- The outcomes of `handleNextTimer`. -/
inductive TimerCase (now : Timespec) (s : SatipRTSP) : SatipRTSP → Prop where
  | down (next : SatipRTSP) (hnext : next.rtspStatus = .configWaiting) : TimerCase now s next
  | kept (hwatchdog : ¬Expired now s.timerResetConnect)
    (hkeepAlive : ¬Expired now s.timerKeepAlive) : TimerCase now s s
  | busy (hwatchdog : ¬Expired now s.timerResetConnect)
    (hactive : s.timerKeepAlive.active = true) (hwait : s.waitResponse = true) :
    TimerCase now s { s with timerKeepAlive := s.timerKeepAlive.afterCall now }
  | sent (hactive : s.timerKeepAlive.active = true) (hwait : s.waitResponse = false)
    (text : List UInt8) :
    TimerCase now s
      { afterSent now .option s.rtspStatus text s with
        timerKeepAlive := s.timerKeepAlive.stop.afterCall now }

/-- The sweep leaves a session without a connection without one. -/
theorem rtspStatus_slotReconnect (h : s.rtspStatus = .configWaiting) :
    (Timer.callIfDue now s (slotReconnect now)).rtspStatus = .configWaiting := by
  rw [callIfDue_slotReconnect]
  split_ifs
  · unfold afterExpired timeoutReconnect
    cases (record (.expired now) s).config.status <;> exact h
  · exact h

theorem timerCase_slotKeepAlive (hwatchdog : ¬Expired now s.timerResetConnect) (sent : Bool) :
    TimerCase now s (Timer.callIfDue now s (slotKeepAlive now sent)) := by
  unfold Timer.callIfDue
  split_ifs with hdue
  · unfold Timer.call
    rw [if_pos hdue.1]
    have hsending := sendRequest_sending now .option sent s
    change TimerCase now s { (sendRequest now .option sent s).2 with
      timerKeepAlive := (sendRequest now .option sent s).2.timerKeepAlive.afterCall now }
    generalize sendRequest now .option sent s = out at hsending
    cases hsending with
    | busy hwait => exact .busy hwatchdog hdue.1 hwait
    | sent hwait text => exact .sent hdue.1 hwait text
    | lost | refused => exact .down _ (rtspStatus_resetConnect _ _ _)
  · exact .kept hwatchdog hdue

/-- A session that has a connection waits for no retry. -/
theorem timerCase_slotReconnect {mid : SatipRTSP} (hidle : s.timerReconnect.active = false)
    (hmid : TimerCase now s mid) :
    TimerCase now s (Timer.callIfDue now mid (slotReconnect now)) := by
  have hsame (hactive : mid.timerReconnect.active = false) :
      Timer.callIfDue now mid (slotReconnect now) = mid := by
    rw [callIfDue_slotReconnect, if_neg]
    simp [hactive]
  cases hmid with
  | down mid hdown => exact .down _ (rtspStatus_slotReconnect hdown)
  | kept hwatchdog hkeepAlive =>
    rw [hsame hidle]
    exact .kept hwatchdog hkeepAlive
  | busy hwatchdog hactive hwait =>
    rw [hsame hidle]
    exact .busy hwatchdog hactive hwait
  | sent hactive hwait text =>
    rw [hsame hidle]
    exact .sent hactive hwait text

theorem timerCase_handleNextTimer (h : UdpOk s) (sent : Bool) :
    TimerCase now s (handleNextTimer now sent s) := by
  by_cases hwatchdog : Expired now s.timerResetConnect
  · exact .down _ (tornDown_handleNextTimer hwatchdog.1 hwatchdog.2 sent).status
  have hfirst : Timer.callIfDue now s (slotResetConnect now) = s := if_neg hwatchdog
  rw [handleNextTimer_eq, beforeReconnect, hfirst]
  have hkeepAlive := timerCase_slotKeepAlive hwatchdog sent
  by_cases hwaiting : s.rtspStatus = .configWaiting
  · have hidle : s.timerKeepAlive.active = false :=
      h.wait.session.keepAlive_eq_false (by simp [hwaiting])
    have hsecond : Timer.callIfDue now s (slotKeepAlive now sent) = s :=
      if_neg fun hdue ↦ Bool.eq_false_iff.mp hidle hdue.1
    rw [hsecond]
    exact .down _ (rtspStatus_slotReconnect hwaiting)
  · exact timerCase_slotReconnect (h.reconnect_idle hwaiting) hkeepAlive

/-! ## `handlePollEvents` -/

/-- The outcomes of `handlePollEvents`. -/
inductive PollOutcome (s : SatipRTSP) : SatipRTSP → Prop where
  | down (next : SatipRTSP) (hnext : next.rtspStatus = .configWaiting) : PollOutcome s next
  | ready (hrtsp : s.rtspStatus = .serverConnecting) : PollOutcome s (startSession s)
  | read (next : SatipRTSP)
    (hrtsp : next.rtspStatus = s.rtspStatus ∨
      s.waitResponse = true ∧ next.rtspStatus = nextStatus s.rtspStatus)
    (hwait : next.waitResponse = true → s.waitResponse = true)
    (hwatchdog : next.timerResetConnect = s.timerResetConnect ∨
      next.waitResponse = false ∧ next.timerResetConnect.active = false)
    (hkeepAlive : next.timerKeepAlive = s.timerKeepAlive)
    (htimeout : s.rtspRequest ≠ .setup → next.rtspTimeout = s.rtspTimeout) : PollOutcome s next

/-- A response that no SETUP waits for says nothing about the timeout. -/
theorem eq_of_handleByRequest {text : List UInt8} {res res' : Result}
    (h : handleByRequest text res s = some (res', next)) (hsetup : s.rtspRequest ≠ .setup) :
    next = s := by
  unfold handleByRequest at h
  split at h
  case h_6 hrequest => exact absurd hrequest hsetup
  all_goals
    cases h
    rfl

/-- The timeout of the session, where it is not a SETUP that is waited for. -/
def KeepsTimeout (timeout : ℤ) (s : SatipRTSP) : Prop :=
  s.rtspRequest ≠ .setup ∧ s.rtspTimeout = timeout

theorem keepsTimeout_complete {timeout : ℤ} (size : ℕ) (res : Result) (resCode : ℤ)
    (h : s.rtspTimeout = timeout) :
    (complete size res resCode s).Meets (fun _ _ mid ↦ KeepsTimeout timeout mid)
      (fun _ mid ↦ mid.rtspStatus = .configWaiting ∨ mid.rtspTimeout = timeout) := by
  unfold complete
  split_ifs
  · exact ⟨by simp [consumeResponse], h⟩
  · exact Or.inr h

theorem keepsTimeout_round {timeout : ℤ} {res : Result} {resCode : ℤ} {r : Round}
    (h : KeepsTimeout timeout s) (hround : round now res resCode s = some r) :
    r.Meets (fun _ _ mid ↦ KeepsTimeout timeout mid)
      (fun _ mid ↦ mid.rtspStatus = .configWaiting ∨ mid.rtspTimeout = timeout) := by
  obtain ⟨hsetup, htimeout⟩ := h
  unfold round at hround
  split_ifs at hround with hdollar
  · unfold frameRound at hround
    split_ifs at hround
    · cases hround
      exact Or.inr htimeout
    · cases hround
      exact Or.inr htimeout
    · cases hround
      exact Or.inr htimeout
    · obtain ⟨mid, hmid, rfl⟩ := Option.map_eq_some_iff.mp hround
      obtain ⟨config, rfl, _⟩ := rtpTcpData_cases hmid
      exact ⟨hsetup, htimeout⟩
  · unfold textRound at hround
    split_ifs at hround
    dsimp only at hround
    split at hround
    · cases hround
      exact Or.inr htimeout
    · unfold responseRound at hround
      dsimp only at hround
      split_ifs at hround
      · cases hround
        exact keepsTimeout_complete _ _ _ htimeout
      · cases hround
        exact Or.inl (rtspStatus_resetConnect _ _ _)
      · obtain ⟨⟨res', mid⟩, hmid, rfl⟩ := Option.map_eq_some_iff.mp hround
        obtain rfl := eq_of_handleByRequest hmid hsetup
        dsimp only
        split_ifs
        · exact Or.inl (rtspStatus_resetConnect _ _ _)
        · exact keepsTimeout_complete _ _ _ htimeout
        · exact keepsTimeout_complete _ _ _ htimeout

theorem rtspTimeout_of_loop {res : Result} (hsetup : s.rtspRequest ≠ .setup)
    (h : loop now .error 0 s = some (res, next)) :
    next.rtspStatus = .configWaiting ∨ next.rtspTimeout = s.rtspTimeout :=
  loop_invariant (fun _ _ mid ↦ KeepsTimeout s.rtspTimeout mid)
    (fun _ mid ↦ mid.rtspStatus = .configWaiting ∨ mid.rtspTimeout = s.rtspTimeout)
    (fun _ _ _ _ hmid hround ↦ keepsTimeout_round hmid hround) ⟨hsetup, rfl⟩ h

/-- What a loop that did not end in a reset has left alone. -/
structure ReadOk (s : SatipRTSP) (res : Result) (mid : SatipRTSP) : Prop where
  rtsp : mid.rtspStatus = s.rtspStatus
  udp : isTcpData mid = false
  wait : mid.waitResponse = true → s.waitResponse = true
  watchdog : mid.timerResetConnect = s.timerResetConnect ∨
    mid.waitResponse = false ∧ mid.timerResetConnect.active = false
  keepAlive : mid.timerKeepAlive = s.timerKeepAlive
  stray : s.waitResponse = false → mid.rtspRequest = .none ∧ res ≠ .responseComplete

/-- Nothing is complete that was not waited for. -/
theorem readOk_of_loop {res : Result} (h : UdpOk s)
    (hloop : loop now .error 0 s = some (res, next)) :
    next.rtspStatus = .configWaiting ∧ res = .error ∨ ReadOk s res next := by
  refine loop_rule (fun res _ mid ↦ ReadOk s res mid)
    (fun res mid ↦ mid.rtspStatus = .configWaiting ∧ res = .error ∨ ReadOk s res mid) ?_
    ⟨rfl, h.udp, id, Or.inl rfl, rfl, fun hidle ↦ ⟨h.request.mpr hidle, by simp⟩⟩ hloop
  intro res resCode mid r hmid hcase
  have hresponse (size : ℕ) (sessionId : List UInt8) (timeout streamId : ℤ)
      (hrequest : mid.rtspRequest = .none → res = .responseComplete) :
      ReadOk s .responseComplete (afterResponse size sessionId timeout streamId mid) := by
    refine ⟨hmid.rtsp, hmid.udp, by simp [afterResponse], Or.inr ⟨rfl, rfl⟩, hmid.keepAlive, ?_⟩
    intro hidle
    obtain ⟨hnone, hres⟩ := hmid.stray hidle
    exact absurd (hrequest hnone) hres
  cases hcase with
  | wait res' s' _ hs' hres' =>
    have hnot : res' ≠ .responseComplete := by
      rcases hres' with rfl | ⟨rfl, _⟩ <;> simp
    right
    rcases hs' with rfl | rfl <;>
      exact ⟨hmid.rtsp, hmid.udp, hmid.wait, hmid.watchdog, hmid.keepAlive,
        fun hidle ↦ ⟨(hmid.stray hidle).1, hnot⟩⟩
  | frame size after hmessage =>
    obtain ⟨_, htcp, _⟩ := firstMessage_eq_frame_iff.mp hmessage
    rw [hmid.udp] at htcp
    cases htcp
  | reset => exact Or.inl ⟨rtspStatus_resetConnect _ _ _, rfl⟩
  | more size sessionId timeout streamId _ _ _ hrequest =>
    exact hresponse size sessionId timeout streamId hrequest
  | last size sessionId timeout streamId _ hrequest =>
    exact Or.inr (hresponse size sessionId timeout streamId hrequest)

/-- The session moves on behind a response that was waited for. -/
theorem pollOutcome_advance {res : Result} {mid : SatipRTSP} (hreads : Reads s.rtspStatus)
    (hmid : ReadOk s res mid)
    (htimeout : s.rtspRequest ≠ .setup → mid.rtspTimeout = s.rtspTimeout) :
    PollOutcome s (advance now s.rtspStatus res mid) := by
  by_cases hres : res = .responseComplete
  · subst hres
    have hwait : s.waitResponse = true := by
      by_contra hidle
      exact (hmid.stray (by simpa using hidle)).2 rfl
    have hmoved : (advance now mid.rtspStatus .responseComplete mid).rtspStatus =
        nextStatus mid.rtspStatus := rtspStatus_advance (hmid.rtsp ▸ hreads)
    rw [hmid.rtsp] at hmoved
    by_cases hteardown : s.rtspStatus = .sessionTeardowning
    · exact .down _ (by rw [hmoved, hteardown]; rfl)
    · have hkept : (advance now s.rtspStatus .responseComplete mid).waitResponse =
            mid.waitResponse ∧
          (advance now s.rtspStatus .responseComplete mid).timerResetConnect =
            mid.timerResetConnect ∧
          (advance now s.rtspStatus .responseComplete mid).timerKeepAlive = mid.timerKeepAlive ∧
          (advance now s.rtspStatus .responseComplete mid).rtspTimeout = mid.rtspTimeout := by
        unfold advance
        rw [if_pos rfl]
        cases hrtsp : s.rtspStatus with
        | sessionTeardowning => exact absurd hrtsp hteardown
        | configWaiting | serverConnecting | sessionTransmitting | sessionEstablishing
        | sessionPlaying => exact ⟨rfl, rfl, rfl, rfl⟩
      obtain ⟨hwaits, hwatchdog, hkeepAlive, hsame⟩ := hkept
      refine .read _ (Or.inr ⟨hwait, hmoved⟩) (fun _ ↦ hwait) ?_ (hkeepAlive.trans hmid.keepAlive)
        fun hsetup ↦ hsame.trans (htimeout hsetup)
      rw [hwaits, hwatchdog]
      exact hmid.watchdog
  · rw [advance_of_ne hres]
    exact .read mid (Or.inl hmid.rtsp) hmid.wait hmid.watchdog hmid.keepAlive htimeout

theorem pollOutcome_handlePollEvents (h : UdpOk s) {events : PollEvents} {recv : Recv}
    (hnext : handlePollEvents now events recv s = some next) : PollOutcome s next := by
  have hcase := pollCase_of_handlePollEvents hnext
  cases hcase with
  | broken => exact .down _ (rtspStatus_resetConnect _ _ _)
  | idle => exact .read s (Or.inl rfl) id (Or.inl rfl) rfl fun _ ↦ rfl
  | ready _ hrtsp => exact .ready hrtsp
  | read _ _ hwaiting hconnecting res mid hmid =>
    have hreads : Reads s.rtspStatus := ⟨hwaiting, hconnecting⟩
    rcases handleResponse_cases hmid with ⟨rfl, pos, rfl⟩ | ⟨rxData, pos, -, hloop⟩
    · rw [advance_of_ne (by simp)]
      exact .read _ (Or.inl rfl) id (Or.inl rfl) rfl fun _ ↦ rfl
    · have haction : Action now s .receive (withBuffer rxData pos s) := .buffer rxData pos hreads
      rcases readOk_of_loop (h.action haction) hloop with ⟨hdown, rfl⟩ | hread
      · rw [advance_of_ne (by simp)]
        exact .down _ hdown
      · refine pollOutcome_advance hreads ⟨hread.rtsp, hread.udp, hread.wait, hread.watchdog,
          hread.keepAlive, hread.stray⟩ fun hsetup ↦ ?_
        have hconnected : mid.rtspStatus ≠ .configWaiting := by
          rw [hread.rtsp]
          exact hwaiting
        have hother : (withBuffer rxData pos s).rtspRequest ≠ .setup := hsetup
        exact (rtspTimeout_of_loop hother hloop).resolve_left hconnected

end SatipClient.RTSP
