import SatipClient.RTSP.Reconnect
import SatipClient.RTSP.Simulation

/-!
# The status of the session

The status, the socket, the timers and the outstanding request belong together (`SessionOk`), and
the session drives the reconnect machine: each action is a few moves of it
(`drives_of_action`).
-/

namespace SatipClient.RTSP

open Config (SatipConfig channel)

variable {s next : SatipRTSP} {now : Timespec} {source : Source}

/-! ## The outstanding request -/

/-- The request that is outstanding in a status. -/
inductive Awaits : RtspStatus → RtspRequest → Prop where
  | setup : Awaits .sessionEstablishing .setup
  | play : Awaits .sessionPlaying .play
  | option : Awaits .sessionTransmitting .option
  | teardown : Awaits .sessionTeardowning .teardown

theorem Awaits.ne_describe {status : RtspStatus} {kind : RtspRequest} (h : Awaits status kind) :
    kind ≠ .describe := by
  cases h <;> nofun

/-- The request that was written last. -/
def lastRequest (trace : List Event) : Option Request := (trace.filterMap Event.request?).getLast?

@[simp]
theorem lastRequest_request (trace : List Event) (r : Request) (sent : Bool) :
    lastRequest (trace ++ [.request r sent]) = some r := by
  simp [lastRequest, Event.request?]

theorem lastRequest_append {events : List Event} (h : ∀ event ∈ events, event.request? = none)
    (trace : List Event) : lastRequest (trace ++ events) = lastRequest trace := by
  have hnone : events.filterMap Event.request? = [] := List.filterMap_eq_nil_iff.mpr h
  rw [lastRequest, List.filterMap_append, hnone, List.append_nil, lastRequest]

/-- What belongs together in a session. -/
structure SessionOk (s : SatipRTSP) : Prop where
  socket : s.fd = none ↔ s.rtspStatus = .configWaiting
  resetConnect : s.timerResetConnect.active = true → s.rtspStatus ≠ .configWaiting
  keepAlive : s.timerKeepAlive.active = true → s.rtspStatus = .sessionTransmitting
  outstanding : s.waitResponse = true → Awaits s.rtspStatus s.rtspRequest
  attributed : s.waitResponse = true → ∃ r, lastRequest s.trace = some r ∧ r.kind = s.rtspRequest

/-- What the invariant looks at is unchanged. -/
theorem SessionOk.congr (h : SessionOk s) (events : List Event) (hfd : next.fd = s.fd)
    (hrtsp : next.rtspStatus = s.rtspStatus)
    (htimer : next.timerResetConnect.active = true → s.timerResetConnect.active = true)
    (hkeep : next.timerKeepAlive.active = true → s.timerKeepAlive.active = true)
    (hwait : next.waitResponse = s.waitResponse) (hrequest : next.rtspRequest = s.rtspRequest)
    (htrace : next.trace = s.trace ++ events)
    (hevents : ∀ event ∈ events, event.request? = none) : SessionOk next where
  socket := by
    rw [hfd, hrtsp]
    exact h.socket
  resetConnect := by
    rw [hrtsp]
    exact fun hactive ↦ h.resetConnect (htimer hactive)
  keepAlive := by
    rw [hrtsp]
    exact fun hactive ↦ h.keepAlive (hkeep hactive)
  outstanding := by
    rw [hwait, hrtsp, hrequest]
    exact h.outstanding
  attributed := by
    rw [hwait, hrequest, htrace, lastRequest_append hevents]
    exact h.attributed

/-- Nothing is outstanding without a connection. -/
theorem sessionOk_of_waiting (hfd : s.fd = none) (hrtsp : s.rtspStatus = .configWaiting)
    (htimer : s.timerResetConnect.active = false) (hkeep : s.timerKeepAlive.active = false)
    (hwait : s.waitResponse = false) : SessionOk s where
  socket := by simp [hfd, hrtsp]
  resetConnect := by simp [htimer]
  keepAlive := by simp [hkeep]
  outstanding := by simp [hwait]
  attributed := by simp [hwait]

/-- Nothing is outstanding on a connection where the client does not wait. -/
theorem sessionOk_of_connected (hfd : s.fd ≠ none) (hrtsp : s.rtspStatus ≠ .configWaiting)
    (hkeep : s.timerKeepAlive.active = false) (hwait : s.waitResponse = false) : SessionOk s where
  socket := iff_of_false hfd hrtsp
  resetConnect := fun _ ↦ hrtsp
  keepAlive := by simp [hkeep]
  outstanding := by simp [hwait]
  attributed := by simp [hwait]

@[simp]
theorem fd_resetConnect (autoReconnect : Bool) : (resetConnect now autoReconnect s).fd = none := by
  rcases resetConnect_cases now autoReconnect s with ⟨h, _⟩ | ⟨h, _⟩ <;> rw [h] <;> rfl

theorem sessionOk_resetConnect (now : Timespec) (autoReconnect : Bool) :
    SessionOk (resetConnect now autoReconnect s) := by
  apply sessionOk_of_waiting
  · simp
  · simp
  · exact active_resetConnect autoReconnect
  · simp
  · simp

/-- No request is outstanding where none is sent. -/
theorem SessionOk.wait_eq_false (h : SessionOk s)
    (hrtsp : s.rtspStatus = .configWaiting ∨ s.rtspStatus = .serverConnecting) :
    s.waitResponse = false := by
  by_contra hwait
  have hpair : Awaits s.rtspStatus s.rtspRequest := h.outstanding (by simpa using hwait)
  rcases hrtsp with hrtsp | hrtsp
  · rw [hrtsp] at hpair
    cases hpair
  · rw [hrtsp] at hpair
    cases hpair

theorem SessionOk.keepAlive_eq_false (h : SessionOk s)
    (hrtsp : s.rtspStatus ≠ .sessionTransmitting) : s.timerKeepAlive.active = false := by
  by_contra hactive
  exact hrtsp (h.keepAlive (by simpa using hactive))

/-- A request is sent on a connection, and the response to it is awaited in the status that
follows. -/
theorem SessionOk.sends (h : SessionOk s) {kind : RtspRequest} {status : RtspStatus}
    (hsends : Sends s source kind status) :
    s.rtspStatus ≠ .configWaiting ∧ status ≠ .configWaiting ∧ Awaits status kind := by
  cases hsends with
  | setup hstatus =>
    rw [hstatus]
    exact ⟨nofun, nofun, .setup⟩
  | play hstatus =>
    rw [hstatus]
    exact ⟨nofun, nofun, .play⟩
  | update hstatus =>
    rw [hstatus]
    exact ⟨nofun, nofun, .play⟩
  | teardown hstatus =>
    rw [hstatus]
    exact ⟨nofun, nofun, .teardown⟩
  | option hactive =>
    rw [h.keepAlive hactive]
    exact ⟨nofun, nofun, .option⟩

theorem SessionOk.send (h : SessionOk s) {kind : RtspRequest} {status : RtspStatus}
    (hsends : Sends s source kind status) (text : List UInt8) :
    SessionOk (afterSent now kind status text s) := by
  obtain ⟨hconnected, hstatus, hpair⟩ := h.sends hsends
  constructor
  · have hfd : s.fd ≠ none := fun hnone ↦ hconnected (h.socket.mp hnone)
    exact iff_of_false hfd hstatus
  · exact fun _ ↦ hstatus
  · intro hactive
    cases hactive
  · exact fun _ ↦ hpair
  · exact fun _ ↦ ⟨_, lastRequest_request _ _ _, rfl⟩

theorem SessionOk.connect (h : SessionOk s) (hrtsp : s.rtspStatus = .configWaiting)
    (connect : Option ℕ) : SessionOk (startConnect now connect s) := by
  have hkeep : s.timerKeepAlive.active = false := h.keepAlive_eq_false (by simp [hrtsp])
  have hwait : s.waitResponse = false := h.wait_eq_false (Or.inl hrtsp)
  cases connect with
  | some fd =>
    apply sessionOk_of_connected
    · exact nofun
    · exact nofun
    · change (attempt s).timerKeepAlive.active = false
      rw [timerKeepAlive_attempt, hkeep]
    · change (attempt s).waitResponse = false
      rw [waitResponse_attempt, hwait]
  | none =>
    have hsame : (attempt s).fd = s.fd ∧ (attempt s).timerResetConnect = s.timerResetConnect := by
      unfold attempt
      split <;> exact ⟨rfl, rfl⟩
    apply sessionOk_of_waiting
    · change (attempt s).fd = none
      rw [hsame.1]
      exact h.socket.mpr hrtsp
    · change (attempt s).rtspStatus = .configWaiting
      rw [rtspStatus_attempt, hrtsp]
    · change (attempt s).timerResetConnect.active = false
      rw [hsame.2]
      by_contra hactive
      exact h.resetConnect (by simpa using hactive) hrtsp
    · change (attempt s).timerKeepAlive.active = false
      rw [timerKeepAlive_attempt, hkeep]
    · change (attempt s).waitResponse = false
      rw [waitResponse_attempt, hwait]

theorem SessionOk.advance (h : SessionOk s) (hreads : Reads s.rtspStatus)
    (hwait : s.waitResponse = false) :
    SessionOk (advance now s.rtspStatus .responseComplete s) := by
  have hfd : s.fd ≠ none := fun hnone ↦ hreads.1 (h.socket.mp hnone)
  unfold RTSP.advance
  rw [if_pos rfl]
  cases hrtsp : s.rtspStatus with
  | configWaiting | serverConnecting | sessionTransmitting => exact h
  | sessionTeardowning => exact sessionOk_resetConnect now false
  | sessionEstablishing | sessionPlaying =>
    have hkeep : s.timerKeepAlive.active = false := h.keepAlive_eq_false (by simp [hrtsp])
    exact sessionOk_of_connected hfd nofun hkeep hwait

/-- Every action keeps it. -/
theorem SessionOk.action (h : SessionOk s) (haction : Action now s source next) :
    SessionOk next := by
  cases haction with
  | vtuner call config =>
    refine h.congr call.events rfl rfl id id rfl rfl rfl ?_
    intro event hevent
    rcases VtunerCall.mem_events hevent with rfl | rfl <;> rfl
  | processTS op config => exact h.congr [] rfl rfl id id rfl rfl rfl (by simp)
  | cancel => exact h.congr [] rfl rfl id id rfl rfl (List.append_nil _).symm (by simp)
  | connect connect hrtsp => exact h.connect hrtsp connect
  | send source kind status text hsends => exact h.send hsends text
  | lost | refused | timeout | hangup | badResponse => exact sessionOk_resetConnect now true
  | keepAlive hrtsp =>
    exact ⟨h.socket, h.resetConnect, fun _ ↦ hrtsp, h.outstanding, h.attributed⟩
  | settleResetConnect =>
    exact h.congr [] rfl rfl TimerElem.active_of_afterCall id rfl rfl (List.append_nil _).symm
      (by simp)
  | settleKeepAlive =>
    exact h.congr [] rfl rfl id TimerElem.active_of_afterCall rfl rfl (List.append_nil _).symm
      (by simp)
  | expire =>
    have hevents : ∀ event ∈ [Event.expired now], event.request? = none := by
      simp [Event.request?]
    unfold afterExpired timeoutReconnect
    cases (record (.expired now) s).config.status with
    | invalid | changed | stable => exact h.congr _ rfl rfl id id rfl rfl rfl hevents
  | ready hrtsp =>
    have hfd : s.fd ≠ none := fun hnone ↦ by simpa [hrtsp] using h.socket.mp hnone
    have hwait : s.waitResponse = false := h.wait_eq_false (Or.inr hrtsp)
    have hkeep : s.timerKeepAlive.active = false := h.keepAlive_eq_false (by simp [hrtsp])
    have hlive : (startSession s).rtspStatus ≠ .configWaiting := by simp [startSession]
    exact sessionOk_of_connected hfd hlive hkeep hwait
  | buffer => exact h.congr [] rfl rfl id id rfl rfl (List.append_nil _).symm (by simp)
  | frame size after hreads _ hafter =>
    obtain ⟨config, rfl, _⟩ := rtpTcpData_cases hafter
    have hevents : ∀ event ∈ [Event.frame ((received s).take size)], event.request? = none := by
      simp [Event.request?]
    refine ⟨h.socket, fun _ ↦ hreads.1, h.keepAlive, h.outstanding, ?_⟩
    intro hwaits
    change ∃ r, lastRequest (s.trace ++ [.frame ((received s).take size)]) = some r ∧
      r.kind = s.rtspRequest
    rw [lastRequest_append hevents]
    exact h.attributed hwaits
  | response size =>
    constructor
    · exact h.socket
    · intro hactive
      cases hactive
    · exact h.keepAlive
    · intro hwaits
      cases hwaits
    · intro hwaits
      cases hwaits
  | advance hreads hwait => exact h.advance hreads hwait

theorem Reachable.sessionOk (h : Reachable s) : SessionOk s :=
  Reachable.of_actions SessionOk (fun _ _ _ _ hs haction ↦ hs.action haction)
    (fun args ↦ sessionOk_resetConnect args.now false) h

/-- While the client waits, it knows for the response to which request. -/
def WaitsForRequest (s : SatipRTSP) : Prop := s.rtspRequest = .none ↔ s.waitResponse = false

theorem waitsForRequest_resetConnect (now : Timespec) (autoReconnect : Bool) (s : SatipRTSP) :
    WaitsForRequest (resetConnect now autoReconnect s) := by
  rcases resetConnect_cases now autoReconnect s with ⟨heq, _⟩ | ⟨heq, _⟩ <;> rw [heq] <;>
    exact Iff.intro (fun _ ↦ rfl) (fun _ ↦ rfl)

theorem WaitsForRequest.action (h : WaitsForRequest s) (haction : Action now s source next) :
    WaitsForRequest next := by
  cases haction with
  | vtuner | processTS | cancel | keepAlive | settleResetConnect | settleKeepAlive | ready
  | buffer => exact h
  | connect connect =>
    have hsame : WaitsForRequest (attempt s) := by
      unfold WaitsForRequest
      rw [rtspRequest_attempt, waitResponse_attempt]
      exact h
    cases connect <;> exact hsame
  | send source kind status text hsends =>
    have hkind : kind ≠ .none := by
      cases hsends <;> nofun
    exact iff_of_false hkind nofun
  | lost | refused | timeout | hangup | badResponse => exact waitsForRequest_resetConnect now true _
  | expire =>
    unfold afterExpired timeoutReconnect
    cases (record (.expired now) s).config.status <;> exact h
  | frame size after _ _ hafter =>
    obtain ⟨config, rfl, _⟩ := rtpTcpData_cases hafter
    exact h
  | response => exact Iff.intro (fun _ ↦ rfl) (fun _ ↦ rfl)
  | advance =>
    unfold advance
    rw [if_pos rfl]
    cases s.rtspStatus with
    | sessionTeardowning => exact waitsForRequest_resetConnect now false s
    | configWaiting | serverConnecting | sessionEstablishing | sessionPlaying
    | sessionTransmitting => exact h

theorem Reachable.waitsForRequest (h : Reachable s) : WaitsForRequest s :=
  Reachable.of_actions WaitsForRequest (fun _ _ _ _ hs haction ↦ hs.action haction)
    (fun args ↦ waitsForRequest_resetConnect args.now false _) h

/-- A DESCRIBE is never sent. -/
theorem Reachable.rtspRequest_ne_describe (h : Reachable s) : s.rtspRequest ≠ .describe := by
  intro hdescribe
  have hwait : s.waitResponse = true := by
    by_contra hwait
    have hnone : s.rtspRequest = .none := h.waitsForRequest.mpr (by simpa using hwait)
    rw [hdescribe] at hnone
    cases hnone
  exact (h.sessionOk.outstanding hwait).ne_describe hdescribe

/-! ## The session as a reconnect machine -/

/-- How far the connection is in a status. -/
def RtspStatus.phase : RtspStatus → Phase
  | .configWaiting => .idle
  | .serverConnecting | .sessionEstablishing | .sessionPlaying | .sessionTransmitting => .live
  | .sessionTeardowning => .closing

/-- The reconnect machine of a session. -/
def reconnect (s : SatipRTSP) : Reconnect where
  channel := channel s.config
  phase := s.rtspStatus.phase
  attempted := s.attemptedGeneration
  attempts := s.reconnectAttempts
  timer := s.timerReconnect
  history := s.trace

theorem phase_eq_idle {status : RtspStatus} : status.phase = .idle ↔ status = .configWaiting := by
  cases status <;> simp [RtspStatus.phase]

/-- The moves that an action from a source may make. -/
inductive Source.Allows (now : Timespec) : Source → Move → Prop where
  | note (source : Source) (event : Event) : Source.Allows now source (.note event)
  | lose (source : Source) (hsource : ∀ call, source ≠ .vtuner call) :
    Source.Allows now source (.lose now)
  | tune : Source.Allows now (.vtuner .setChannelChanged) .tune
  | release (call : VtunerCall) : Source.Allows now (.vtuner call) .release
  | take : Source.Allows now .status .take
  | connect : Source.Allows now .status .connect
  | fail : Source.Allows now .status (.fail now)
  | cancel : Source.Allows now .status .cancel
  | leave : Source.Allows now .status .leave
  | expire : Source.Allows now .expiry (.expire now)
  | stray : Source.Allows now .hangup (.stray now)
  | complete : Source.Allows now .completion .complete
  | close : Source.Allows now .completion .close

theorem reconnect_retryLater (now : Timespec) (s : SatipRTSP) :
    reconnect (retryLater now s) = (reconnect s).retryLater now := by
  unfold retryLater startTimerReconnect
  simp only [reconnect, record, Config.channel_clearChannelChanged]
  rfl

theorem reconnect_resetConnect_true (now : Timespec) (s : SatipRTSP) :
    reconnect (resetConnect now true s) = (reconnect s).reset now := by
  have hcond : ((reconnect s).channel.status = .invalid ∨ (reconnect s).Unattempted) ↔
      s.config.status = .invalid ∨ RTSP.Unattempted s := Iff.rfl
  rcases resetConnect_cases now true s with ⟨heq, hwhy⟩ | ⟨heq, _, hvalid, hold⟩
  · have hwhy' : s.config.status = .invalid ∨ RTSP.Unattempted s := by simpa using hwhy
    rw [heq, Reconnect.reset, if_pos (hcond.mpr hwhy')]
    rfl
  · rw [heq, Reconnect.reset, if_neg (fun h ↦ (hcond.mp h).elim hvalid hold),
      reconnect_retryLater]
    rfl

theorem reconnect_resetConnect_false (now : Timespec) (s : SatipRTSP) :
    reconnect (resetConnect now false s) = (reconnect s).drop.cancel := by
  rcases resetConnect_cases now false s with ⟨heq, _⟩ | ⟨_, hauto, _⟩
  · rw [heq]
    rfl
  · cases hauto

theorem reconnect_attempt (s : SatipRTSP) : reconnect (attempt s) = (reconnect s).attempt := by
  unfold attempt Reconnect.attempt
  have hcond : (reconnect s).attempted < (reconnect s).channel.generation ↔
      s.attemptedGeneration < s.config.tuneGeneration := Iff.rfl
  by_cases hnew : s.attemptedGeneration < s.config.tuneGeneration
  · rw [if_pos hnew, if_pos (hcond.mpr hnew)]
    rfl
  · rw [if_neg hnew, if_neg (fun h ↦ hnew (hcond.mp h))]
    rfl

theorem reconnect_afterExpired (now : Timespec) (s : SatipRTSP) :
    reconnect (afterExpired now s) = (reconnect s).expire now := by
  unfold afterExpired timeoutReconnect Reconnect.expire Reconnect.wake
  have hstatus : ((reconnect s).note (.expired now)).channel.status =
      (record (.expired now) s).config.status := rfl
  rw [hstatus]
  cases (record (.expired now) s).config.status <;> rfl

theorem reconnect_startSession (h : s.rtspStatus = .serverConnecting) :
    reconnect (startSession s) = reconnect s := by
  unfold reconnect
  rw [h]
  rfl

/-- The tuning is taken into a SETUP or PLAY. -/
theorem channel_requestConfig {kind : RtspRequest} (h : kind = .setup ∨ kind = .play)
    (s : SatipRTSP) : channel (requestConfig s kind) = (channel s.config).take := by
  rcases h with rfl | rfl
  · exact Config.channel_takeTuning s.config
  · change channel (Config.getPlayData s.config).2 = _
    rw [Config.snd_getPlayData]
    split
    · exact Config.channel_startPlay s.config
    · exact Config.channel_startPlay s.config

/-- The session moves its reconnect machine, by moves that the source allows. -/
def Drives (now : Timespec) (source : Source) (s next : SatipRTSP) : Prop :=
  ∃ moves, (reconnect s).Moves moves (reconnect next) ∧ ∀ move ∈ moves, source.Allows now move

theorem Drives.of_eq (h : reconnect next = reconnect s) : Drives now source s next :=
  ⟨[], h, by simp⟩

theorem Drives.single (move : Move) (henabled : (reconnect s).Enabled move)
    (hallows : source.Allows now move) (h : reconnect next = (reconnect s).perform move) :
    Drives now source s next := by
  refine ⟨[move], ⟨henabled, h⟩, ?_⟩
  simpa using hallows

theorem Drives.trans {mid : SatipRTSP} (hfront : Drives now source s mid)
    (hback : Drives now source mid next) : Drives now source s next := by
  obtain ⟨front, hfront, hallowed⟩ := hfront
  obtain ⟨back, hback, hallowed'⟩ := hback
  refine ⟨front ++ back, hfront.append hback, ?_⟩
  intro move hmove
  rcases List.mem_append.mp hmove with hmove | hmove
  · exact hallowed move hmove
  · exact hallowed' move hmove

/-- No call of the vtuner device sends a request. -/
theorem Sends.source_ne {kind : RtspRequest} {status : RtspStatus}
    (h : Sends s source kind status) (call : VtunerCall) : source ≠ .vtuner call := by
  cases h <;> nofun

/-- Where a connection is lost, it is dropped. -/
theorem drives_lost (h : s.rtspStatus ≠ .configWaiting) (hsource : ∀ call, source ≠ .vtuner call) :
    Drives now source s (resetConnect now true s) := by
  have hlive : (reconnect s).phase ≠ .idle := fun hidle ↦ h (phase_eq_idle.mp hidle)
  exact .single (.lose now) hlive (.lose source hsource) (reconnect_resetConnect_true now s)

theorem drives_note (event : Event) (hplain : event.Plain)
    (h : reconnect next = (reconnect s).note event) : Drives now source s next :=
  .single (.note event) hplain (.note source event) h

/-- Writing a request takes the tuning, if the request has a place for it. -/
theorem drives_written (hs : SessionOk s) {kind : RtspRequest} {status : RtspStatus}
    (hsends : Sends s source kind status) (text : List UInt8) (sent : Bool) :
    Drives now source s (written kind text sent (stopTimerKeepAliveMessage s)) := by
  have hphase : s.rtspStatus.phase ≠ .idle := fun hidle ↦
    (hs.sends hsends).1 (phase_eq_idle.mp hidle)
  have htakes (hkind : kind = .setup ∨ kind = .play) :
      Drives now .status s (written kind text sent (stopTimerKeepAliveMessage s)) := by
    have htake : channel (requestConfig (stopTimerKeepAliveMessage s) kind) =
        (channel s.config).take := channel_requestConfig hkind (stopTimerKeepAliveMessage s)
    refine ⟨[.take, .note (.request (writtenRequest kind text s) sent)], ?_, ?_⟩
    · refine ⟨hphase, trivial, ?_⟩
      unfold Reconnect.perform reconnect
      rw [← htake]
      rfl
    · simp [Source.Allows.take, Source.Allows.note]
  cases hsends with
  | setup => exact htakes (Or.inl rfl)
  | play => exact htakes (Or.inr rfl)
  | update => exact htakes (Or.inr rfl)
  | teardown => exact drives_note (.request (writtenRequest .teardown text s) sent) trivial rfl
  | option => exact drives_note (.request (writtenRequest .option text s) sent) trivial rfl

/-- Only TEARDOWN makes the connection a closing one. -/
theorem drives_moveOn {kind : RtspRequest} {status : RtspStatus}
    (hsends : Sends s source kind status) (text : List UInt8) :
    Drives now source (written kind text true (stopTimerKeepAliveMessage s))
      (afterSent now kind status text s) := by
  have hsame (hphase : status.phase = s.rtspStatus.phase) :
      Drives now source (written kind text true (stopTimerKeepAliveMessage s))
        (afterSent now kind status text s) := by
    apply Drives.of_eq
    unfold reconnect
    rw [show (afterSent now kind status text s).rtspStatus = status from rfl, hphase]
    rfl
  cases hsends with
  | setup hstatus => exact hsame (congrArg RtspStatus.phase hstatus.symm)
  | play hstatus => exact hsame (congrArg RtspStatus.phase hstatus.symm)
  | update hstatus =>
    apply hsame
    rw [hstatus]
    rfl
  | option => exact hsame rfl
  | teardown hstatus hinvalid =>
    apply Drives.single .leave _ .leave rfl
    refine ⟨?_, hinvalid⟩
    change s.rtspStatus.phase = .live
    rw [hstatus]
    rfl

theorem channel_rtpTcpData {data : List UInt8} (h : rtpTcpData data s = some next) :
    channel next.config = channel s.config := by
  unfold rtpTcpData at h
  dsimp only at h
  split_ifs at h
  · obtain rfl := Option.some.inj h
    rfl
  · obtain ⟨config, hconfig, rfl⟩ := Option.map_eq_some_iff.mp h
    have hstep : Config.step s.config (.psi (.processTS (data.drop (4 + 12)))) = some config :=
      hconfig
    exact Config.channel_step hstep
  · obtain rfl := Option.some.inj h
    rfl

/-- A call moves the channel, or leaves the machine alone. -/
theorem drives_vtuner {call : VtunerCall} {config : SatipConfig}
    (h : Config.step s.config call.op = some config) :
    Drives now (.vtuner call) s (withConfig config call.events s) := by
  have hchannel : channel config = call.op.onChannel (channel s.config) := Config.channel_step h
  have hnothing (hsame : channel config = channel s.config) (hevents : call.events = []) :
      Drives now (.vtuner call) s (withConfig config call.events s) := by
    apply Drives.of_eq
    unfold reconnect
    rw [show channel (withConfig config call.events s).config = channel s.config from hsame,
      hevents]
    simp [withConfig]
  cases call with
  | updatePidList new => exact hnothing hchannel rfl
  | clearProperty => exact hnothing hchannel rfl
  | setParam param => exact hnothing hchannel rfl
  | setChannelChanged =>
    apply Drives.single .tune trivial .tune
    unfold Reconnect.perform reconnect
    rw [show channel (withConfig config _ s).config = (channel s.config).tune from hchannel]
    rfl
  | setVoltage voltage =>
    by_cases hreleases : Config.Releases voltage
    · have hevents : (VtunerCall.setVoltage voltage).events = [.released] := if_neg hreleases
      have hreleased : channel config = (channel s.config).release := by
        rw [hchannel]
        exact if_pos hreleases
      apply Drives.single .release trivial (.release _)
      unfold Reconnect.perform reconnect
      rw [hevents, show channel (withConfig config _ s).config = _ from hreleased]
      rfl
    · have hevents : (VtunerCall.setVoltage voltage).events = [] := if_pos (not_not.mp hreleases)
      apply hnothing _ hevents
      rw [hchannel]
      exact if_neg hreleases

theorem drives_advance :
    Drives now .completion s (advance now s.rtspStatus .responseComplete s) := by
  unfold advance
  rw [if_pos rfl]
  cases hrtsp : s.rtspStatus with
  | configWaiting | serverConnecting | sessionTransmitting => exact .of_eq rfl
  | sessionEstablishing =>
    apply Drives.of_eq
    unfold reconnect
    rw [hrtsp]
    rfl
  | sessionPlaying =>
    apply Drives.single .complete _ .complete
    · unfold Reconnect.perform reconnect
      rw [hrtsp]
      rfl
    · change s.rtspStatus.phase = .live
      rw [hrtsp]
      rfl
  | sessionTeardowning =>
    apply Drives.single .close _ .close (reconnect_resetConnect_false now s)
    change s.rtspStatus.phase = .closing
    rw [hrtsp]
    rfl

/-- Every action of a session is a few moves of its reconnect machine. -/
theorem drives_of_action (hs : SessionOk s) (h : Action now s source next) :
    Drives now source s next := by
  cases h with
  | vtuner call config hconfig =>
    exact drives_vtuner hconfig
  | processTS op config hconfig =>
    have hstep : Config.step s.config (.psi op) = some config := hconfig
    have hchannel : channel config = channel s.config := Config.channel_step hstep
    apply Drives.of_eq
    unfold reconnect
    rw [show channel (withConfig config [] s).config = channel s.config from hchannel]
    simp [withConfig]
  | cancel hrtsp hstatus =>
    exact .single .cancel ⟨phase_eq_idle.mpr hrtsp, hstatus⟩ .cancel rfl
  | connect connect hrtsp hstatus =>
    have henabled : (reconnect s).phase = .idle ∧ (reconnect s).channel.status = .changed :=
      ⟨phase_eq_idle.mpr hrtsp, hstatus⟩
    cases connect with
    | some fd =>
      apply Drives.single .connect henabled .connect
      unfold Reconnect.perform
      rw [← reconnect_attempt]
      rfl
    | none =>
      apply Drives.single (.fail now) henabled .fail
      unfold Reconnect.perform
      rw [← reconnect_attempt]
      exact reconnect_retryLater now _
  | send source kind status text hsends =>
    exact (drives_written hs hsends text true).trans (drives_moveOn hsends text)
  | lost source kind status text hsends =>
    apply (drives_written hs hsends text false).trans
    have hconnected : (written kind text false (stopTimerKeepAliveMessage s)).rtspStatus ≠
        .configWaiting := (hs.sends hsends).1
    exact drives_lost hconnected hsends.source_ne
  | refused source kind status hsends =>
    have hconnected : (stopTimerKeepAliveMessage s).rtspStatus ≠ .configWaiting :=
      (hs.sends hsends).1
    exact drives_lost hconnected hsends.source_ne
  | keepAlive | settleResetConnect | settleKeepAlive | buffer => exact .of_eq rfl
  | timeout hactive => exact drives_lost (hs.resetConnect hactive) nofun
  | expire hactive hdue =>
    exact .single (.expire now) ⟨hactive, hdue⟩ .expire (reconnect_afterExpired now s)
  | hangup =>
    by_cases hrtsp : s.rtspStatus = .configWaiting
    · have hidle : (reconnect s).phase = .idle := phase_eq_idle.mpr hrtsp
      exact .single (.stray now) hidle .stray (reconnect_resetConnect_true now s)
    · exact drives_lost hrtsp nofun
  | ready hrtsp => exact .of_eq (reconnect_startSession hrtsp)
  | frame size after hreads _ hafter =>
    have hchannel : channel after.config = channel (startTimerResetConnect now 4000 s).config :=
      channel_rtpTcpData hafter
    obtain ⟨config, rfl, _⟩ := rtpTcpData_cases hafter
    apply drives_note (.frame ((received s).take size)) trivial
    unfold Reconnect.note reconnect
    change _ = Reconnect.mk (channel (startTimerResetConnect now 4000 s).config) _ _ _ _ _
    rw [← hchannel]
    rfl
  | response size sessionId timeout streamId =>
    exact drives_note (.response (firstResponse size s)) trivial rfl
  | badResponse size hreads =>
    have hnote : Drives now .receive s (record (.response (firstResponse size s)) (terminated s)) :=
      drives_note (.response (firstResponse size s)) trivial rfl
    exact hnote.trans (drives_lost hreads.1 nofun)
  | advance => exact drives_advance

theorem Reachable.reconnectOk (h : Reachable s) : (reconnect s).Ok := by
  have hboth : SessionOk s ∧ (reconnect s).Ok := by
    refine Reachable.of_actions (fun s ↦ SessionOk s ∧ (reconnect s).Ok) ?_ ?_ h
    · rintro now s source next ⟨hs, hok⟩ haction
      obtain ⟨moves, hmoves, _⟩ := drives_of_action hs haction
      exact ⟨hs.action haction, hok.moves hmoves⟩
    · intro args
      refine ⟨sessionOk_resetConnect args.now false, ?_⟩
      unfold SessionArgs.start construct
      rw [reconnect_resetConnect_false]
      exact Reconnect.ok_of_inactive rfl (Nat.zero_le _)
  exact hboth.2

/-! ## What holds in every session -/

/-- While a response is outstanding, `poll` is asked for it. -/
theorem pollin_of_outstanding (h : Awaits s.rtspStatus s.rtspRequest) :
    (getPollEvent s).pollin = true := by
  unfold getPollEvent
  generalize hstatus : s.rtspStatus = status at h
  generalize hrequest : s.rtspRequest = request at h
  cases h with
  | setup | play | teardown => rfl
  | option => simp

/-- The socket is open exactly outside CONFIG_WAITING, the reconnect timer waits only inside it,
and an outstanding response belongs to the request of the status, which was written last and whose
response `poll` is asked for. -/
theorem status_agrees (h : Reachable s) :
    (s.fd = none ↔ s.rtspStatus = .configWaiting) ∧
      (s.timerReconnect.active = true → s.rtspStatus = .configWaiting) ∧
      (s.waitResponse = true →
        ((s.rtspStatus = .sessionEstablishing ∧ s.rtspRequest = .setup) ∨
          (s.rtspStatus = .sessionPlaying ∧ s.rtspRequest = .play) ∨
          (s.rtspStatus = .sessionTransmitting ∧ s.rtspRequest = .option) ∨
          (s.rtspStatus = .sessionTeardowning ∧ s.rtspRequest = .teardown)) ∧
        (getPollEvent s).pollin = true ∧
        ∃ r, lastRequest s.trace = some r ∧ r.kind = s.rtspRequest) := by
  have hok : SessionOk s := h.sessionOk
  refine ⟨hok.socket, fun hactive ↦ phase_eq_idle.mp (h.reconnectOk.idle hactive), ?_⟩
  intro hwait
  have hpair : Awaits s.rtspStatus s.rtspRequest := hok.outstanding hwait
  refine ⟨?_, pollin_of_outstanding hpair, hok.attributed hwait⟩
  generalize s.rtspStatus = status at hpair
  generalize s.rtspRequest = request at hpair
  cases hpair <;> simp

theorem status_agrees_setupRun :
    ∃ s, Runs.run step udpArgs.start setupRun = some s ∧ s.waitResponse = true ∧
      (getPollEvent s).pollin = true := by
  have hrun : ∃ s, Runs.run step udpArgs.start setupRun = some s ∧ s.waitResponse = true :=
    ⟨_, rfl, rfl⟩
  obtain ⟨s, hs, hwait⟩ := hrun
  exact ⟨s, hs, hwait, ((status_agrees ⟨udpArgs, setupRun, hs⟩).2.2 hwait).2.1⟩

end SatipClient.RTSP
