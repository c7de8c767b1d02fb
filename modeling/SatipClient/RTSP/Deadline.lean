import SatipClient.RTSP.ReceiveErrors

/-!
# How long a response is waited for

One timer watches for the response and for the stream data.  Sending a request arms it, and so
does every complete interleaved frame: while a response is waited for, it expires four seconds
after the later of the two (`response_bounded`).  Without TCP data there are no frames, and an
unanswered request leads to a reset after four seconds.
-/

namespace SatipClient.RTSP

variable {s next : SatipRTSP} {now : Timespec} {source : Source}

/-- The event arms the watchdog: a request was sent, or a frame was received. -/
def Event.Arms : Event → Prop
  | .request _ sent => sent = true
  | .frame _ => True
  | .channelChanged | .released | .connected | .connectFailed | .disconnected | .response _
  | .armed _ _ | .expired _ => False

/-- A frame is received in TCP data mode only. -/
def Event.FitsMode (tcp : Bool) : Event → Prop
  | .frame _ => tcp = true
  | .channelChanged | .released | .connected | .connectFailed | .disconnected | .request _ _
  | .response _ | .armed _ _ | .expired _ => True

/-! ## What arms the watchdog -/

/-- While a response is waited for, the watchdog is active. -/
structure WaitOk (s : SatipRTSP) : Prop where
  session : SessionOk s
  active : s.waitResponse = true → s.timerResetConnect.active = true

/-- Between two states the trace has grown. -/
def Extends (s next : SatipRTSP) : Prop := ∃ events, next.trace = s.trace ++ events

/-- Between two states an event armed the watchdog. -/
def Rearmed (tcp : Bool) (s next : SatipRTSP) : Prop :=
  ∃ events, next.trace = s.trace ++ events ∧ ∃ event ∈ events, event.Arms ∧ event.FitsMode tcp

/-- Between two states no event armed the watchdog. -/
def NotRearmed (s next : SatipRTSP) : Prop :=
  ∃ events, next.trace = s.trace ++ events ∧ ∀ event ∈ events, ¬event.Arms

theorem NotRearmed.refl (s : SatipRTSP) : NotRearmed s s :=
  ⟨[], (List.append_nil _).symm, by simp⟩

theorem NotRearmed.trans {mid : SatipRTSP} (hfront : NotRearmed s mid)
    (hback : NotRearmed mid next) : NotRearmed s next := by
  obtain ⟨events, htrace, hquiet⟩ := hfront
  obtain ⟨events', htrace', hquiet'⟩ := hback
  refine ⟨events ++ events', by rw [htrace', htrace, List.append_assoc], ?_⟩
  intro event hevent
  rcases List.mem_append.mp hevent with hmem | hmem
  · exact hquiet event hmem
  · exact hquiet' event hmem

theorem Rearmed.extend {tcp : Bool} {mid : SatipRTSP} (hfront : Rearmed tcp s mid)
    (hback : Extends mid next) : Rearmed tcp s next := by
  obtain ⟨events, htrace, event, hevent, harms⟩ := hfront
  obtain ⟨events', htrace'⟩ := hback
  refine ⟨events ++ events', ?_, event, List.mem_append_left _ hevent, harms⟩
  rw [htrace', htrace, List.append_assoc]

theorem Rearmed.prepend {tcp : Bool} {mid : SatipRTSP} (hfront : Extends s mid)
    (hback : Rearmed tcp mid next) : Rearmed tcp s next := by
  obtain ⟨events, htrace⟩ := hfront
  obtain ⟨events', htrace', event, hevent, harms⟩ := hback
  refine ⟨events ++ events', ?_, event, List.mem_append_right _ hevent, harms⟩
  rw [htrace', htrace, List.append_assoc]

/-- The watchdog was armed at a time. -/
def Armed (now : Timespec) (s next : SatipRTSP) : Prop :=
  next.timerResetConnect = .start now 4000 true ∧ Rearmed (isTcpData s) s next

/-- A response was waited for already, and the watchdog was left alone. -/
def Unarmed (s next : SatipRTSP) : Prop :=
  s.waitResponse = true ∧ next.timerResetConnect = s.timerResetConnect ∧ NotRearmed s next

/-- An action behind which a response is waited for arms the watchdog, or leaves it alone. -/
theorem WaitOk.armed_or_unarmed (h : WaitOk s) (haction : Action now s source next)
    (hwait : next.waitResponse = true) : Armed now s next ∨ Unarmed s next := by
  have hidle (hfalse : next.waitResponse = false) : Armed now s next ∨ Unarmed s next := by
    rw [hfalse] at hwait
    cases hwait
  have hkept (hsame : next.waitResponse = s.waitResponse)
      (htimer : next.timerResetConnect = s.timerResetConnect) (events : List Event)
      (htrace : next.trace = s.trace ++ events) (hquiet : ∀ event ∈ events, ¬event.Arms) :
      Armed now s next ∨ Unarmed s next :=
    Or.inr ⟨hsame ▸ hwait, htimer, events, htrace, hquiet⟩
  have hnone : s.trace = s.trace ++ [] := (List.append_nil _).symm
  cases haction with
  | vtuner call =>
    apply hkept rfl rfl call.events rfl
    intro event hevent
    rcases VtunerCall.mem_events hevent with rfl | rfl <;> exact id
  | processTS => exact hkept rfl rfl [] rfl (by simp)
  | cancel | keepAlive | buffer => exact hkept rfl rfl [] hnone (by simp)
  | settleKeepAlive => exact hkept rfl rfl [] hnone (by simp)
  | connect connect hrtsp =>
    have hfalse : (attempt s).waitResponse = false := by
      rw [waitResponse_attempt]
      exact h.session.wait_eq_false (Or.inl hrtsp)
    cases connect <;> exact hidle hfalse
  | send source kind status text =>
    exact Or.inl ⟨rfl, [.request (writtenRequest kind text s) true], rfl, _,
      List.mem_singleton_self _, rfl, trivial⟩
  | lost | refused | timeout | hangup | badResponse => exact hidle (waitResponse_resetConnect _ _ _)
  | settleResetConnect hinactive =>
    have hactive : s.timerResetConnect.active = true := h.active hwait
    rw [hinactive] at hactive
    cases hactive
  | expire =>
    have hsame : (afterExpired now s).waitResponse = s.waitResponse ∧
        (afterExpired now s).timerResetConnect = s.timerResetConnect ∧
        (afterExpired now s).trace = s.trace ++ [.expired now] := by
      unfold afterExpired timeoutReconnect
      cases (record (.expired now) s).config.status <;> exact ⟨rfl, rfl, rfl⟩
    apply hkept hsame.1 hsame.2.1 _ hsame.2.2
    simp [Event.Arms]
  | ready hrtsp => exact hidle (h.session.wait_eq_false (Or.inr hrtsp))
  | frame size after _ hmessage hafter =>
    have htcp : isTcpData s = true := (firstMessage_eq_frame_iff.mp hmessage).2.1
    obtain ⟨config, rfl, _⟩ := rtpTcpData_cases hafter
    exact Or.inl ⟨rfl, [.frame ((received s).take size)], rfl, _, List.mem_singleton_self _,
      trivial, htcp⟩
  | response => exact hidle rfl
  | advance _ hnot =>
    apply hidle
    unfold advance
    rw [if_pos rfl]
    cases s.rtspStatus with
    | sessionTeardowning => exact waitResponse_resetConnect now false s
    | configWaiting | serverConnecting | sessionEstablishing | sessionPlaying
    | sessionTransmitting => exact hnot

theorem WaitOk.action (h : WaitOk s) (haction : Action now s source next) : WaitOk next := by
  refine ⟨h.session.action haction, fun hwait ↦ ?_⟩
  rcases h.armed_or_unarmed haction hwait with ⟨htimer, _⟩ | ⟨hwaiting, htimer, _⟩
  · rw [htimer]
    rfl
  · rw [htimer]
    exact h.active hwaiting

theorem waitOk_resetConnect (now : Timespec) (autoReconnect : Bool) (s : SatipRTSP) :
    WaitOk (resetConnect now autoReconnect s) := by
  refine ⟨sessionOk_resetConnect now autoReconnect, fun hwait ↦ ?_⟩
  rw [waitResponse_resetConnect] at hwait
  cases hwait

/-- The same for a step, the actions of which are made at one time. -/
theorem WaitOk.armed_or_unarmed_step (h : WaitOk s) {op : Op} (hnext : step s op = some next)
    (hwait : next.waitResponse = true) : Armed op.time s next ∨ Unarmed s next := by
  have hactions : Actions op.time op.sources s next := actions_of_step hnext
  have hstart : s.waitResponse = true → Armed op.time s s ∨ Unarmed s s :=
    fun hwaiting ↦ Or.inr ⟨hwaiting, rfl, .refl s⟩
  refine (actions_invariant
    (fun mid ↦ WaitOk mid ∧ isTcpData mid = isTcpData s ∧ Extends s mid ∧
      (mid.waitResponse = true → Armed op.time s mid ∨ Unarmed s mid)) ?_ hactions
    ⟨h, rfl, ⟨[], (List.append_nil _).symm⟩, hstart⟩).2.2.2 hwait
  rintro mid source after - ⟨hmid, htcp, hextends, hcases⟩ haction
  obtain ⟨events, htrace, _⟩ := adds_of_action haction
  have hextends' : Extends s after := by
    obtain ⟨events', htrace'⟩ := hextends
    exact ⟨events' ++ events, by rw [htrace, htrace', List.append_assoc]⟩
  refine ⟨hmid.action haction, (isTcpData_of_action haction).trans htcp, hextends', ?_⟩
  intro hwaiting
  rcases hmid.armed_or_unarmed haction hwaiting with ⟨htimer, harmed⟩ | ⟨hmidwait, htimer, hnot⟩
  · rw [htcp] at harmed
    exact Or.inl ⟨htimer, .prepend hextends harmed⟩
  · rcases hcases hmidwait with ⟨htimer', harmed⟩ | ⟨hwaited, htimer', hnot'⟩
    · exact Or.inl ⟨htimer.trans htimer', harmed.extend ⟨events, htrace⟩⟩
    · exact Or.inr ⟨hwaited, htimer.trans htimer', hnot'.trans hnot⟩

/-! ## When it expires -/

/-- The expiry of the reconnect timer connects nothing. -/
theorem TornDown.afterExpired (h : TornDown s) : TornDown (afterExpired now s) := by
  unfold RTSP.afterExpired timeoutReconnect
  cases hstatus : (record (.expired now) s).config.status with
  | invalid => exact ⟨h.socket, h.status, h.idle, Or.inl hstatus⟩
  | changed => exact ⟨h.socket, h.status, h.idle, Or.inr (Or.inr hstatus)⟩
  | stable =>
    exact ⟨h.socket, h.status, h.idle, Or.inr (Or.inr rfl)⟩

/-- When the watchdog expires, the connection is torn down. -/
theorem tornDown_handleNextTimer (hactive : s.timerResetConnect.active = true)
    (hdue : s.timerResetConnect.Due now) (sent : Bool) :
    TornDown (handleNextTimer now sent s) := by
  have hfirst : Timer.callIfDue now s (slotResetConnect now) =
      { resetConnect now true s with
        timerResetConnect := (resetConnect now true s).timerResetConnect.afterCall now } :=
    (if_pos ⟨hactive, hdue⟩).trans (if_pos hactive)
  have hreset : TornDown (Timer.callIfDue now s (slotResetConnect now)) := by
    rw [hfirst]
    obtain ⟨hsocket, hstatus, hidle, hretry⟩ := tornDown_resetConnect now s
    exact ⟨hsocket, hstatus, hidle, hretry⟩
  have hkeep : (Timer.callIfDue now s (slotResetConnect now)).timerKeepAlive.active = false := by
    rw [hfirst]
    change (resetConnect now true s).timerKeepAlive.active = false
    rw [timerKeepAlive_resetConnect]
    rfl
  have hbefore : beforeReconnect now sent s = Timer.callIfDue now s (slotResetConnect now) := by
    apply if_neg
    rintro ⟨hrunning, _⟩
    cases hrunning.symm.trans hkeep
  rw [handleNextTimer_eq, callIfDue_slotReconnect, hbefore]
  split_ifs
  · exact hreset.afterExpired
  · exact hreset

/-! ## Runs -/

theorem Reachable.waitOk (h : Reachable s) : WaitOk s :=
  Reachable.of_actions WaitOk (fun _ _ _ _ hs haction ↦ hs.action haction)
    (fun args ↦ waitOk_resetConnect args.now false _) h

theorem isTcpData_of_run {args : SessionArgs} (h : Runs.Reachable step args.start s) :
    isTcpData s = args.settings.tcpdata := by
  have hstep (mid : SatipRTSP) (op : Op) (after : SatipRTSP)
      (hmid : isTcpData mid = args.settings.tcpdata) (hnext : step mid op = some after) :
      isTcpData after = args.settings.tcpdata :=
    step_of_actions (fun _ _ _ _ hs haction ↦ (isTcpData_of_action haction).trans hs) hmid hnext
  apply h.invariant hstep
  exact congrArg Config.Settings.tcpdata (Config.settings_construct args.feType args.settings)

/-- While a response is waited for, the watchdog expires four seconds after the last step that
sent a request or, in TCP data mode, received a complete frame; and then the connection is torn
down. -/
theorem response_bounded {args : SessionArgs} {ops : List Op}
    (hrun : Runs.run step args.start ops = some s) (hwait : s.waitResponse = true) :
    ∃ front op back before after, ops = front ++ op :: back ∧
      Runs.run step args.start front = some before ∧ step before op = some after ∧
      Runs.run step after back = some s ∧ Rearmed args.settings.tcpdata before after ∧
      NotRearmed after s ∧ s.timerResetConnect = .start op.time 4000 true ∧
      ∀ now sent, s.timerResetConnect.Due now → TornDown (handleNextTimer now sent s) := by
  have hstart : ¬args.start.waitResponse = true := by
    have hidle : args.start.waitResponse = false := waitResponse_resetConnect _ _ _
    simp [hidle]
  have hstep (mid : SatipRTSP) (op : Op) (next : SatipRTSP)
      (hmid : Runs.Reachable step args.start mid) (hnext : step mid op = some next)
      (hwaiting : next.waitResponse = true) :
      (Rearmed args.settings.tcpdata mid next ∧
          next.timerResetConnect = .start op.time 4000 true ∧ NotRearmed next next) ∨
        (mid.waitResponse = true ∧ ∀ (after : SatipRTSP) (mark : Op),
          mid.timerResetConnect = .start mark.time 4000 true ∧ NotRearmed after mid →
          next.timerResetConnect = .start mark.time 4000 true ∧ NotRearmed after next) := by
    have hok : WaitOk mid := Reachable.waitOk ⟨args, hmid⟩
    rcases hok.armed_or_unarmed_step hnext hwaiting with ⟨htimer, harmed⟩ | ⟨hbefore, htimer, hnot⟩
    · rw [isTcpData_of_run hmid] at harmed
      exact Or.inl ⟨harmed, htimer, .refl next⟩
    · refine Or.inr ⟨hbefore, ?_⟩
      rintro after mark ⟨hmark, hsince⟩
      exact ⟨htimer.trans hmark, hsince.trans hnot⟩
  obtain ⟨front, op, back, before, after, hops, hfront, hafter, hback, hmark, htimer, hsince⟩ :=
    Runs.exists_last_mark (fun mid ↦ mid.waitResponse = true)
      (fun mid _ next ↦ Rearmed args.settings.tcpdata mid next)
      (fun after op later ↦ later.timerResetConnect = .start op.time 4000 true ∧
        NotRearmed after later) hstart hstep hrun hwait
  refine ⟨front, op, back, before, after, hops, hfront, hafter, hback, hmark, hsince, htimer, ?_⟩
  intro now sent hdue
  exact tornDown_handleNextTimer (by rw [htimer]; rfl) hdue sent

theorem response_bounded_setupRun :
    ∃ s, Runs.run step udpArgs.start setupRun = some s ∧ s.waitResponse = true ∧
      TornDown (handleNextTimer { sec := 5 } true s) := by
  have hrun : ∃ s, Runs.run step udpArgs.start setupRun = some s ∧ s.waitResponse = true ∧
      s.timerResetConnect.Due { sec := 5 } := ⟨_, rfl, rfl, Or.inl (by decide)⟩
  obtain ⟨s, hs, hwait, hdue⟩ := hrun
  obtain ⟨_, _, _, _, _, _, _, _, _, _, _, _, hexpires⟩ := response_bounded hs hwait
  exact ⟨s, hs, hwait, hexpires { sec := 5 } true hdue⟩

/-- In TCP data mode a SETUP is sent, and three seconds later an empty frame is received. -/
def frameRun : List Op :=
  setupRun ++ [.handlePollEvents { sec := 3 } { pollin := true } (.bytes [dollar, 0, 0, 0])]

/-- The frame puts the deadline off: seven seconds behind the SETUP, which is not answered. -/
theorem not_response_bounded :
    (Runs.run step tcpArgs.start frameRun).map (fun s ↦
        (s.waitResponse, s.rtspRequest, s.timerResetConnect.active, s.timerResetConnect.ts,
          (handleNextTimer { sec := 5 } true s).rtspStatus)) =
      some (true, .setup, true, Timespec.after { sec := 3 } 4000, .sessionEstablishing) ∧
    Timespec.nanos (Timespec.after {} 4000) <
      Timespec.nanos (Timespec.after { sec := 3 } 4000) := by
  constructor <;> decide +kernel

end SatipClient.RTSP
