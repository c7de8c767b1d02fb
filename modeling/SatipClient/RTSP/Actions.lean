import Mathlib.Data.Set.Insert
import Mathlib.Logic.Relation
import SatipClient.RTSP.Session
import SatipClient.RTSP.Stream

/-!
# Actions

Every step of the session is a sequence of actions (`actions_of_step`): a call of the
configuration, a request, a reset, a message taken off the buffer and so on, each with what was
tested before it and with the place in the program it comes from.  An invariant of the session
is therefore proved action by action, and `Reachable.of_actions` makes it one of all reachable
states.
-/

namespace SatipClient.RTSP

open CString (ofBytes)
open Config (SatipConfig getPidStatus)

/-- Where an action comes from. -/
inductive Source where
  | vtuner (call : VtunerCall)
  /-- the RTP thread -/
  | stream
  /-- `handleRTSPStatus` -/
  | status
  /-- the handlers of `m_timer_reset_connect` and `m_timer_keep_alive` -/
  | timer
  /-- the handler of `m_timer_reconnect` -/
  | expiry
  /-- `handlePollEvents`, where the connection is broken -/
  | hangup
  /-- `handlePollEvents`, where it is not -/
  | receive
  /-- `handlePollEvents`, behind a complete response -/
  | completion

variable {s next : SatipRTSP} {now : Timespec} {source : Source}

/-- The requests that are sent, and the status the session moves on to. -/
inductive Sends (s : SatipRTSP) : Source → RtspRequest → RtspStatus → Prop where
  | setup (hstatus : s.rtspStatus = .sessionEstablishing) :
    Sends s .status .setup .sessionEstablishing
  | play (hstatus : s.rtspStatus = .sessionPlaying) : Sends s .status .play .sessionPlaying
  | update (hstatus : s.rtspStatus = .sessionTransmitting)
    (hchanged : s.config.status = .changed ∨ getPidStatus s.config = .changed) :
    Sends s .status .play .sessionPlaying
  | teardown (hstatus : s.rtspStatus = .sessionTransmitting)
    (hinvalid : s.config.status = .invalid) : Sends s .status .teardown .sessionTeardowning
  | option (hactive : s.timerKeepAlive.active = true) : Sends s .timer .option s.rtspStatus

/-- The state after a request was sent. -/
def afterSent (now : Timespec) (kind : RtspRequest) (status : RtspStatus) (text : List UInt8)
    (s : SatipRTSP) : SatipRTSP :=
  { awaitResponse now kind (written kind text true (stopTimerKeepAliveMessage s)) with
    rtspStatus := status }

/-- The state after a request could not be sent, before the connection is reset. -/
def afterLost (kind : RtspRequest) (text : List UInt8) (s : SatipRTSP) : SatipRTSP :=
  written kind text false (stopTimerKeepAliveMessage s)

/-- The state after the reconnect timer expired. -/
def afterExpired (now : Timespec) (s : SatipRTSP) : SatipRTSP :=
  { timeoutReconnect (record (.expired now) s) with
    timerReconnect := (timeoutReconnect (record (.expired now) s)).timerReconnect.afterCall now }

/-- What a session does at once. -/
inductive Action (now : Timespec) (s : SatipRTSP) : Source → SatipRTSP → Prop where
  | vtuner (call : VtunerCall) (config : SatipConfig)
    (hconfig : Config.step s.config call.op = some config) :
    Action now s (.vtuner call) (withConfig config call.events s)
  | processTS (op : PSI.Op) (config : SatipConfig)
    (hconfig : Config.stepPsi op s.config = some config) :
    Action now s .stream (withConfig config [] s)
  | cancel (hrtsp : s.rtspStatus = .configWaiting) (hstatus : s.config.status = .invalid) :
    Action now s .status (cancelReconnect s)
  | connect (connect : Option ℕ) (hrtsp : s.rtspStatus = .configWaiting)
    (hstatus : s.config.status = .changed) : Action now s .status (startConnect now connect s)
  | send (source : Source) (kind : RtspRequest) (status : RtspStatus) (text : List UInt8)
    (hsends : Sends s source kind status) (hwait : s.waitResponse = false)
    (htext : Carries kind s text) (hsession : SessionKnown kind s) :
    Action now s source (afterSent now kind status text s)
  | lost (source : Source) (kind : RtspRequest) (status : RtspStatus) (text : List UInt8)
    (hsends : Sends s source kind status) (hwait : s.waitResponse = false)
    (htext : Carries kind s text) (hsession : SessionKnown kind s) :
    Action now s source (resetConnect now true (afterLost kind text s))
  | refused (source : Source) (kind : RtspRequest) (status : RtspStatus)
    (hsends : Sends s source kind status) (hwait : s.waitResponse = false) :
    Action now s source (resetConnect now true (stopTimerKeepAliveMessage s))
  | keepAlive (hrtsp : s.rtspStatus = .sessionTransmitting) :
    Action now s .status (startTimerKeepAliveMessage now s)
  | timeout (hactive : s.timerResetConnect.active = true) (hdue : s.timerResetConnect.Due now) :
    Action now s .timer (resetConnect now true s)
  | settleResetConnect (hidle : s.timerResetConnect.active = false) :
    Action now s .timer { s with timerResetConnect := s.timerResetConnect.afterCall now }
  | settleKeepAlive :
    Action now s .timer { s with timerKeepAlive := s.timerKeepAlive.afterCall now }
  | expire (hactive : s.timerReconnect.active = true) (hdue : s.timerReconnect.Due now) :
    Action now s .expiry (afterExpired now s)
  | hangup : Action now s .hangup (resetConnect now true s)
  | ready (hrtsp : s.rtspStatus = .serverConnecting) : Action now s .receive (startSession s)
  | buffer (rxData : Memory.Block) (rxDataPos : ℤ) (hreads : Reads s.rtspStatus) :
    Action now s .receive (withBuffer rxData rxDataPos s)
  | frame (size : ℕ) (after : SatipRTSP) (hreads : Reads s.rtspStatus)
    (hmessage : firstMessage (isTcpData s) (received s) = some (.frame size))
    (hafter : rtpTcpData ((received s).take size) (startTimerResetConnect now 4000 s) =
      some after) : Action now s .receive (consume size after)
  | response (size : ℕ) (sessionId : List UInt8) (timeout streamId : ℤ)
    (hreads : Reads s.rtspStatus)
    (hmessage : firstMessage (isTcpData s) (received s) = some (.response size))
    (hsession : SessionAfter s (ofBytes (received s)) sessionId streamId) :
    Action now s .receive (afterResponse size sessionId timeout streamId s)
  | badResponse (size : ℕ) (hreads : Reads s.rtspStatus)
    (hmessage : firstMessage (isTcpData s) (received s) = some (.response size)) :
    Action now s .receive (resetConnect now true
      (record (.response (firstResponse size s)) (terminated s)))
  | advance (hreads : Reads s.rtspStatus) (hwait : s.waitResponse = false)
    (hrequest : s.rtspRequest = .none) :
    Action now s .completion (advance now s.rtspStatus .responseComplete s)

/-- Actions one after the other, from some sources. -/
abbrev Actions (now : Timespec) (sources : Set Source) : SatipRTSP → SatipRTSP → Prop :=
  Relation.ReflTransGen fun s next ↦ ∃ source ∈ sources, Action now s source next

section Actions

variable {sources : Set Source}

theorem Actions.single (h : Action now s source next) (hsource : source ∈ sources) :
    Actions now sources s next := Relation.ReflTransGen.single ⟨source, hsource, h⟩

theorem Actions.snoc {mid : SatipRTSP} (hfront : Actions now sources s mid)
    (h : Action now mid source next) (hsource : source ∈ sources) : Actions now sources s next :=
  Relation.ReflTransGen.tail hfront ⟨source, hsource, h⟩

theorem Actions.mono {more : Set Source} (hsub : sources ⊆ more) (h : Actions now sources s next) :
    Actions now more s next := by
  refine Relation.ReflTransGen.mono ?_ s next h
  rintro mid after ⟨source, hsource, haction⟩
  exact ⟨source, hsub hsource, haction⟩

/-- What every action keeps, a sequence of them keeps. -/
theorem actions_invariant (Inv : SatipRTSP → Prop)
    (haction : ∀ s source next, source ∈ sources → Inv s → Action now s source next → Inv next)
    (h : Actions now sources s next) (hs : Inv s) : Inv next := by
  induction h with
  | refl => exact hs
  | tail _ hlast ih =>
    obtain ⟨source, hsource, hlast⟩ := hlast
    exact haction _ source _ hsource ih hlast

end Actions

/-! ## Requests -/

/-- Sending a request without a change of the status is one action, unless the client waits. -/
theorem action_of_sendRequest {kind : RtspRequest} (hsends : Sends s source kind s.rtspStatus)
    (sent : Bool) :
    (sendRequest now kind sent s).2 = s ∨
      Action now s source (sendRequest now kind sent s).2 := by
  have hsending := sendRequest_sending now kind sent s
  generalize sendRequest now kind sent s = out at hsending
  cases hsending with
  | busy => exact Or.inl rfl
  | sent hwait text htext hsession =>
    exact Or.inr (.send source kind s.rtspStatus text hsends hwait htext hsession)
  | lost hwait text htext hsession =>
    exact Or.inr (.lost source kind s.rtspStatus text hsends hwait htext hsession)
  | refused hwait => exact Or.inr (.refused source kind s.rtspStatus hsends hwait)

theorem action_of_sendAndMove {kind : RtspRequest} {status : RtspStatus}
    (hsends : Sends s source kind status) (sent : Bool) :
    sendAndMove now kind status sent s = s ∨
      Action now s source (sendAndMove now kind status sent s) := by
  have hsending := sendRequest_sending now kind sent s
  unfold sendAndMove
  generalize sendRequest now kind sent s = out at hsending
  cases hsending with
  | busy => exact Or.inl rfl
  | sent hwait text htext hsession =>
    exact Or.inr (.send source kind status text hsends hwait htext hsession)
  | lost hwait text htext hsession =>
    exact Or.inr (.lost source kind status text hsends hwait htext hsession)
  | refused hwait => exact Or.inr (.refused source kind status hsends hwait)

/-- `handleRTSPStatus` does one thing at most. -/
theorem action_of_handleRTSPStatus (connect : Option ℕ) (sent : Bool) :
    handleRTSPStatus now connect sent s = s ∨
      Action now s .status (handleRTSPStatus now connect sent s) := by
  unfold handleRTSPStatus
  cases hrtsp : s.rtspStatus with
  | configWaiting =>
    dsimp only
    cases hstatus : s.config.status with
    | invalid => exact Or.inr (.cancel hrtsp hstatus)
    | changed => exact Or.inr (.connect connect hrtsp hstatus)
    | stable => exact Or.inl rfl
  | serverConnecting => exact Or.inl rfl
  | sessionEstablishing =>
    have hsends : Sends s .status .setup s.rtspStatus := by
      rw [hrtsp]
      exact .setup hrtsp
    exact action_of_sendRequest hsends sent
  | sessionPlaying =>
    have hsends : Sends s .status .play s.rtspStatus := by
      rw [hrtsp]
      exact .play hrtsp
    exact action_of_sendRequest hsends sent
  | sessionTransmitting =>
    dsimp only
    unfold maintainSession
    split_ifs with hchanged hinvalid
    · exact action_of_sendAndMove (.update hrtsp hchanged) sent
    · exact action_of_sendAndMove (.teardown hrtsp hinvalid) sent
    · exact Or.inl rfl
    · exact Or.inr (.keepAlive hrtsp)
  | sessionTeardowning => exact Or.inl rfl

/-! ## Timers -/

theorem active_resetConnect (autoReconnect : Bool) :
    (resetConnect now autoReconnect s).timerResetConnect.active = false := by
  rcases resetConnect_cases now autoReconnect s with ⟨h, _⟩ | ⟨h, _⟩ <;> rw [h] <;> rfl

/-- A timer that is due runs its handler; afterwards it is settled. -/
theorem actions_of_slotResetConnect :
    Actions now {.timer} s (Timer.callIfDue now s (slotResetConnect now)) := by
  unfold Timer.callIfDue
  split_ifs with hdue
  · unfold Timer.call
    rw [if_pos hdue.1]
    have hreset : Actions now {.timer} s (resetConnect now true s) :=
      .single (.timeout hdue.1 hdue.2) rfl
    exact hreset.snoc (.settleResetConnect (active_resetConnect true)) rfl
  · exact .refl

theorem actions_of_slotKeepAlive (sent : Bool) :
    Actions now {.timer} s (Timer.callIfDue now s (slotKeepAlive now sent)) := by
  unfold Timer.callIfDue
  split_ifs with hdue
  · unfold Timer.call
    rw [if_pos hdue.1]
    have hoption : Actions now {.timer} s (sendRequest now .option sent s).2 := by
      rcases action_of_sendRequest (.option hdue.1) sent with heq | haction
      · rw [heq]
      · exact .single haction rfl
    exact hoption.snoc .settleKeepAlive rfl
  · exact .refl

theorem callIfDue_slotReconnect :
    Timer.callIfDue now s (slotReconnect now) =
      if s.timerReconnect.active = true ∧ s.timerReconnect.Due now then afterExpired now s
      else s := by
  unfold Timer.callIfDue
  change (if s.timerReconnect.active = true ∧ s.timerReconnect.Due now then _ else _) = _
  split_ifs with hdue
  · exact if_pos hdue.1
  · rfl

/-- The state in which the sweep comes to the reconnect timer. -/
def beforeReconnect (now : Timespec) (sent : Bool) (s : SatipRTSP) : SatipRTSP :=
  Timer.callIfDue now (Timer.callIfDue now s (slotResetConnect now)) (slotKeepAlive now sent)

theorem handleNextTimer_eq (sent : Bool) :
    handleNextTimer now sent s =
      Timer.callIfDue now (beforeReconnect now sent s) (slotReconnect now) := rfl

theorem actions_of_beforeReconnect (sent : Bool) :
    Actions now {.timer} s (beforeReconnect now sent s) :=
  actions_of_slotResetConnect.trans (actions_of_slotKeepAlive sent)

theorem actions_of_handleNextTimer (sent : Bool) :
    Actions now {.timer, .expiry} s (handleNextTimer now sent s) := by
  have hbefore : Actions now {.timer, .expiry} s (beforeReconnect now sent s) :=
    (actions_of_beforeReconnect sent).mono (by simp)
  rw [handleNextTimer_eq, callIfDue_slotReconnect]
  split_ifs with hdue
  · exact hbefore.snoc (.expire hdue.1 hdue.2) (by simp)
  · exact hbefore

/-! ## Receiving -/

/-- The loop of `handleResponse` is a sequence of actions, and behind a complete response nothing
is waited for. -/
theorem actions_of_loop (hreads : Reads s.rtspStatus) {res : Result}
    (h : loop now .error 0 s = some (res, next)) :
    Actions now {.receive} s next ∧ (res = .responseComplete → next.rtspStatus = s.rtspStatus ∧
      next.waitResponse = false ∧ next.rtspRequest = .none) := by
  refine loop_rule (fun _ _ mid ↦ Actions now {.receive} s mid ∧ mid.rtspStatus = s.rtspStatus)
    (fun res mid ↦ Actions now {.receive} s mid ∧ (res = .responseComplete →
      mid.rtspStatus = s.rtspStatus ∧ mid.waitResponse = false ∧ mid.rtspRequest = .none))
    ?_ ⟨.refl, rfl⟩ h
  rintro res resCode mid r ⟨hmid, hstatus⟩ hcase
  rw [← hstatus] at hreads
  cases hcase with
  | wait res' s' _ hs' hres' =>
    have hnot : res' = .responseComplete →
        s'.rtspStatus = s.rtspStatus ∧ s'.waitResponse = false ∧ s'.rtspRequest = .none := by
      rintro rfl
      rcases hres' with hok | ⟨herror, _⟩
      · cases hok
      · cases herror
    rcases hs' with rfl | rfl
    · exact ⟨hmid, hnot⟩
    · exact ⟨hmid.snoc (.buffer _ _ hreads) rfl, hnot⟩
  | frame size after hmessage hafter =>
    refine ⟨hmid.snoc (.frame size after hreads hmessage hafter) rfl, ?_⟩
    obtain ⟨config, rfl, _⟩ := rtpTcpData_cases hafter
    exact hstatus
  | reset size hmessage =>
    refine ⟨hmid.snoc (.badResponse size hreads hmessage) rfl, ?_⟩
    intro hcomplete
    cases hcomplete
  | more size sessionId timeout streamId _ hmessage _ _ _ hsession =>
    have hresponse : Action now mid .receive (afterResponse size sessionId timeout streamId mid) :=
      .response size sessionId timeout streamId hreads hmessage hsession
    exact ⟨hmid.snoc hresponse rfl, hstatus⟩
  | last size sessionId timeout streamId hmessage _ _ hsession =>
    have hresponse : Action now mid .receive (afterResponse size sessionId timeout streamId mid) :=
      .response size sessionId timeout streamId hreads hmessage hsession
    exact ⟨hmid.snoc hresponse rfl, fun _ ↦ ⟨hstatus, rfl, rfl⟩⟩

/-- What is read on a connection that is not broken. -/
theorem actions_of_handleResponse {recv : Recv} {res : Result} (hreads : Reads s.rtspStatus)
    (h : handleResponse now recv s = some (res, next)) :
    Actions now {.receive} s next ∧ (res = .responseComplete → next.rtspStatus = s.rtspStatus ∧
      next.waitResponse = false ∧ next.rtspRequest = .none) := by
  have hbuffer (rxData : Memory.Block) (rxDataPos : ℤ) :
      Actions now {.receive} s (withBuffer rxData rxDataPos s) :=
    .single (.buffer rxData rxDataPos hreads) rfl
  rcases handleResponse_cases h with ⟨rfl, rxDataPos, rfl⟩ | ⟨rxData, rxDataPos, _, hloop⟩
  · refine ⟨hbuffer s.rxData rxDataPos, ?_⟩
    intro hcomplete
    cases hcomplete
  · obtain ⟨hactions, hcomplete⟩ :=
      actions_of_loop (s := withBuffer rxData rxDataPos s) hreads hloop
    exact ⟨(hbuffer rxData rxDataPos).trans hactions, hcomplete⟩

theorem actions_of_advance {recv : Recv} {res : Result} (hreads : Reads s.rtspStatus)
    (h : handleResponse now recv s = some (res, next)) :
    Actions now {.receive, .completion} s (advance now s.rtspStatus res next) := by
  obtain ⟨hactions, hcomplete⟩ := actions_of_handleResponse hreads h
  have hnext : Actions now {.receive, .completion} s next := hactions.mono (by simp)
  by_cases hres : res = .responseComplete
  · subst hres
    obtain ⟨hstatus, hwait, hrequest⟩ := hcomplete rfl
    rw [← hstatus] at hreads ⊢
    exact hnext.snoc (.advance hreads hwait hrequest) (by simp)
  · rw [advance_of_ne hres]
    exact hnext

/-! ## The trace -/

/-- The request of an event. -/
def Event.request? : Event → Option Request
  | .request r _ => some r
  | _ => none

theorem exists_of_request? {event : Event} {r : Request} (h : event.request? = some r) :
    ∃ sent, event = .request r sent := by
  cases event with
  | request r' sent => exact ⟨sent, congrArg (Event.request · sent) (Option.some.inj h)⟩
  | channelChanged | released | connected | connectFailed | disconnected | response | frame | armed
  | expired => cases h

theorem trace_resetConnect (now : Timespec) (autoReconnect : Bool) (s : SatipRTSP) :
    ∃ events, (resetConnect now autoReconnect s).trace = s.trace ++ events ∧
      ∀ event ∈ events, event.request? = none := by
  rcases resetConnect_cases now autoReconnect s with ⟨heq, _⟩ | ⟨heq, _⟩
  · exact ⟨[.disconnected], by rw [heq]; rfl, by simp [Event.request?]⟩
  · refine ⟨[.disconnected, .armed now (reconnectDelay s.reconnectAttempts)], ?_, ?_⟩
    · rw [heq]
      exact List.append_assoc s.trace [.disconnected] [.armed now _]
    · simp [Event.request?]

/-- What an action adds to the trace: events, the first of which may be a request. -/
inductive Adds (s : SatipRTSP) (source : Source) : List Event → Prop where
  | quiet (events : List Event) (hquiet : ∀ event ∈ events, event.request? = none) :
    Adds s source events
  | request (kind : RtspRequest) (status : RtspStatus) (text : List UInt8) (sent : Bool)
    (events : List Event) (hsends : Sends s source kind status) (hwait : s.waitResponse = false)
    (htext : Carries kind s text) (hsession : SessionKnown kind s)
    (hquiet : ∀ event ∈ events, event.request? = none) :
    Adds s source (.request (writtenRequest kind text s) sent :: events)

/-- A reset of a state with the same trace. -/
theorem adds_resetConnect (now : Timespec) (autoReconnect : Bool) {mid : SatipRTSP}
    (hmid : mid.trace = s.trace) (source : Source) :
    ∃ events, (resetConnect now autoReconnect mid).trace = s.trace ++ events ∧
      Adds s source events := by
  obtain ⟨events, htrace, hnone⟩ := trace_resetConnect now autoReconnect mid
  exact ⟨events, hmid ▸ htrace, .quiet events hnone⟩

theorem adds_of_action (h : Action now s source next) :
    ∃ events, next.trace = s.trace ++ events ∧ Adds s source events := by
  have hquiet (events : List Event) (htrace : next.trace = s.trace ++ events)
      (hnone : ∀ event ∈ events, event.request? = none) :
      ∃ events, next.trace = s.trace ++ events ∧ Adds s source events :=
    ⟨events, htrace, .quiet events hnone⟩
  cases h with
  | vtuner call config =>
    apply hquiet call.events rfl
    intro event hevent
    rcases VtunerCall.mem_events hevent with rfl | rfl <;> rfl
  | processTS op config => exact hquiet [] rfl (by simp)
  | cancel | keepAlive | settleResetConnect | settleKeepAlive | ready | buffer =>
    exact hquiet [] (List.append_nil _).symm (by simp)
  | connect connect =>
    cases connect with
    | some fd =>
      apply hquiet [.connected]
      · change (attempt s).trace ++ _ = _
        rw [trace_attempt]
      · simp [Event.request?]
    | none =>
      apply hquiet [.connectFailed, .armed now (reconnectDelay (attempt s).reconnectAttempts)]
      · change ((attempt s).trace ++ [.connectFailed]) ++ [.armed now _] = _
        rw [trace_attempt, List.append_assoc]
        rfl
      · simp [Event.request?]
  | send _ kind status text hsends hwait htext hsession =>
    exact ⟨[.request (writtenRequest kind text s) true], rfl,
      .request kind status text true [] hsends hwait htext hsession (by simp)⟩
  | lost _ kind status text hsends hwait htext hsession =>
    obtain ⟨events, htrace, hnone⟩ := trace_resetConnect now true (afterLost kind text s)
    refine ⟨.request (writtenRequest kind text s) false :: events, ?_,
      .request kind status text false events hsends hwait htext hsession hnone⟩
    rw [htrace]
    exact List.append_assoc s.trace [_] events
  | refused =>
    have hmid : (stopTimerKeepAliveMessage s).trace = s.trace := rfl
    exact adds_resetConnect now true hmid source
  | timeout | hangup => exact adds_resetConnect now true rfl _
  | expire =>
    apply hquiet [.expired now]
    · unfold afterExpired timeoutReconnect
      cases (record (.expired now) s).config.status <;> rfl
    · simp [Event.request?]
  | frame size after _ _ hafter =>
    obtain ⟨config, rfl, _⟩ := rtpTcpData_cases hafter
    exact hquiet [.frame ((received s).take size)] rfl (by simp [Event.request?])
  | response size =>
    exact hquiet [.response (firstResponse size s)] rfl (by simp [Event.request?])
  | badResponse size =>
    obtain ⟨events, htrace, hnone⟩ := trace_resetConnect now true
      (record (.response (firstResponse size s)) (terminated s))
    apply hquiet (.response (firstResponse size s) :: events)
    · rw [htrace]
      exact List.append_assoc s.trace [_] events
    · intro event hevent
      rcases List.mem_cons.mp hevent with rfl | hevent
      · rfl
      · exact hnone event hevent
  | advance =>
    unfold advance
    rw [if_pos rfl]
    cases s.rtspStatus with
    | sessionTeardowning => exact adds_resetConnect now false rfl _
    | configWaiting | serverConnecting | sessionTransmitting | sessionEstablishing
    | sessionPlaying =>
      exact ⟨[], (List.append_nil _).symm, .quiet [] (by simp)⟩

/-! ## Steps -/

/-- The time at which a step is made. -/
def Op.time : Op → Timespec
  | .handleRTSPStatus now _ _ => now
  | .handleNextTimer now _ => now
  | .handlePollEvents now _ _ => now
  | .vtuner _ => {}
  | .processTS _ => {}

/-- Where the actions of a step come from. -/
def Op.sources : Op → Set Source
  | .handleRTSPStatus _ _ _ => {.status}
  | .handleNextTimer _ _ => {.timer, .expiry}
  | .handlePollEvents _ events _ => if events.broken then {.hangup} else {.receive, .completion}
  | .vtuner call => {.vtuner call}
  | .processTS _ => {.stream}

theorem actions_of_handlePollEvents {events : PollEvents} {recv : Recv}
    (h : handlePollEvents now events recv s = some next) :
    Actions now (Op.handlePollEvents now events recv).sources s next := by
  have hcase : PollCase now events recv s next := pollCase_of_handlePollEvents h
  change Actions now (if events.broken then {.hangup} else {.receive, .completion}) s next
  cases hcase with
  | broken hbroken =>
    rw [if_pos hbroken]
    exact .single .hangup rfl
  | idle => exact .refl
  | ready hopen hstatus =>
    rw [if_neg (by simp [hopen])]
    exact .single (.ready hstatus) (by simp)
  | read hopen _ hwaiting hconnecting res mid hmid =>
    rw [if_neg (by simp [hopen])]
    exact actions_of_advance ⟨hwaiting, hconnecting⟩ hmid

/-- Every step is a sequence of actions. -/
theorem actions_of_step {op : Op} (h : step s op = some next) :
    Actions op.time op.sources s next := by
  cases op with
  | handleRTSPStatus now connect sent =>
    obtain rfl := Option.some.inj h
    rcases action_of_handleRTSPStatus connect sent with heq | haction
    · rw [heq]
    · exact .single haction rfl
  | handleNextTimer now sent =>
    obtain rfl := Option.some.inj h
    exact actions_of_handleNextTimer sent
  | handlePollEvents now events recv => exact actions_of_handlePollEvents h
  | vtuner call =>
    obtain ⟨config, hconfig, rfl⟩ := Option.map_eq_some_iff.mp h
    exact .single (.vtuner call config hconfig) rfl
  | processTS data =>
    obtain ⟨config, hconfig, rfl⟩ := Option.map_eq_some_iff.mp h
    exact .single (.processTS _ config hconfig) rfl

theorem step_of_actions {Inv : SatipRTSP → Prop}
    (haction : ∀ now s source next, Inv s → Action now s source next → Inv next) {op : Op}
    (hs : Inv s) (h : step s op = some next) : Inv next :=
  actions_invariant Inv (fun s source next _ ↦ haction op.time s source next) (actions_of_step h) hs

/-- What the actions of certain steps keep, a run of such steps keeps. -/
theorem run_of_actions (Inv : SatipRTSP → Prop) {Ok : Op → Prop}
    (haction : ∀ op s source next, Ok op → source ∈ op.sources → Inv s →
      Action op.time s source next → Inv next)
    {ops : List Op} (hs : Inv s) (hok : ∀ op ∈ ops, Ok op)
    (hrun : Runs.run step s ops = some next) : Inv next := by
  have heach : Runs.EachStep step (fun _ op ↦ Ok op) s ops :=
    Runs.eachStep_of_forall_mem step (fun op hop _ ↦ hok op hop) s
  refine Runs.run_invariant ?_ hs heach hrun
  intro mid op after hmid hop hstep
  exact actions_invariant Inv (fun s source next hsource ↦ haction op s source next hop hsource)
    (actions_of_step hstep) hmid

/-- What holds in the beginning and is kept by every action holds in every session. -/
theorem Reachable.of_actions (Inv : SatipRTSP → Prop)
    (haction : ∀ now s source next, Inv s → Action now s source next → Inv next)
    (hstart : ∀ args : SessionArgs, Inv args.start) (h : Reachable s) : Inv s := by
  obtain ⟨args, hreach⟩ := h
  exact hreach.invariant (fun _ _ _ hs hnext ↦ step_of_actions haction hs hnext) (hstart args)

end SatipClient.RTSP
