import SatipClient.Config.Requested
import SatipClient.RTSP.Session
import SatipClient.RTSP.Stream

/-!
# No retune is lost

While the tuner is not released, the tuning was put into a request on the current connection, or
it is still to be taken up, or a retry is pending (`retune_not_lost`).  The flag behind it is the
channel status: it leaves CHANGED only where a request takes the tuning data over, or where the
retry is armed.  One step could break this, the plain reset after a TEARDOWN; but a TEARDOWN is
only sent for a released tuner, and nothing takes tuning data over until its response.
-/

namespace SatipClient.RTSP

open Config (SatipConfig getPlayData queryText tuningText)
open CString (ascii)

variable {s next : SatipRTSP} {now : Timespec}

/-! ## Requests with tuning data -/

/-- The request contains the tuning data of the configuration it was built from. -/
def Request.Tunes (r : Request) : Prop :=
  (r.kind = .setup ∨ r.kind = .play) ∧ r.config.status = .changed ∧
    ∃ more front back,
      r.text = front ++ ascii (queryText (tuningText r.config ++ more)) ++ back

/-- The event makes or drops a connection. -/
def Event.Reconnects : Event → Prop
  | .connected | .disconnected => True
  | .channelChanged | .released | .connectFailed | .request _ _ | .response _ | .frame _
  | .armed _ _ | .expired _ => False

/-- The event makes a request obsolete: a new tune, or another connection. -/
def Event.Supersedes (event : Event) : Prop := event = .channelChanged ∨ event.Reconnects

/-- The last connection that was made was not dropped. -/
def Connected (trace : List Event) : Prop :=
  ∃ front back, trace = front ++ .connected :: back ∧ ∀ event ∈ back, ¬event.Reconnects

/-- Behind the last tune and on the current connection, a request with tuning data was built. -/
def TunedSince (trace : List Event) : Prop :=
  ∃ front r sent back, trace = front ++ .request r sent :: back ∧ Connected front ∧ r.Tunes ∧
    ∀ event ∈ back, ¬event.Supersedes

theorem connected_concat (trace : List Event) : Connected (trace ++ [.connected]) :=
  ⟨trace, [], rfl, by simp⟩

theorem Connected.append {trace more : List Event} (h : Connected trace)
    (hmore : ∀ event ∈ more, ¬event.Reconnects) : Connected (trace ++ more) := by
  obtain ⟨front, back, rfl, hback⟩ := h
  refine ⟨front, back ++ more, by simp, ?_⟩
  intro event hevent
  rcases List.mem_append.mp hevent with hold | hnew
  · exact hback event hold
  · exact hmore event hnew

theorem TunedSince.append {trace more : List Event} (h : TunedSince trace)
    (hmore : ∀ event ∈ more, ¬event.Supersedes) : TunedSince (trace ++ more) := by
  obtain ⟨front, r, sent, back, rfl, hconnected, htunes, hback⟩ := h
  refine ⟨front, r, sent, back ++ more, by simp, hconnected, htunes, ?_⟩
  intro event hevent
  rcases List.mem_append.mp hevent with hold | hnew
  · exact hback event hold
  · exact hmore event hnew

theorem tunedSince_concat {trace : List Event} (h : Connected trace) {r : Request} (hr : r.Tunes)
    (sent : Bool) : TunedSince (trace ++ [.request r sent]) :=
  ⟨trace, r, sent, [], rfl, h, hr, by simp⟩

/-! ## The invariant -/

/-- The tuning is not to be taken up only if it was taken over or will be tried again; and while
the end of a session is waited for, it was not taken over. -/
structure RetuneOk (s : SatipRTSP) : Prop where
  stable : s.config.status = .stable →
    TunedSince s.trace ∨ (s.rtspStatus = .configWaiting ∧ s.timerReconnect.active = true)
  teardown : s.rtspStatus = .sessionTeardowning → s.config.status ≠ .stable
  connected : s.rtspStatus ≠ .configWaiting → Connected s.trace

theorem RetuneOk.of_ne (h : next.config.status ≠ .stable)
    (hconnected : next.rtspStatus ≠ .configWaiting → Connected next.trace) : RetuneOk next where
  stable hstable := absurd hstable h
  teardown _ := h
  connected := hconnected

/-- More of the stream, or a request without tuning data. -/
theorem RetuneOk.append (h : RetuneOk s) (events : List Event)
    (hevents : ∀ event ∈ events, ¬event.Supersedes) (htrace : next.trace = s.trace ++ events)
    (hstatus : next.config.status = s.config.status) (hrtsp : next.rtspStatus = s.rtspStatus)
    (htimer : next.timerReconnect.active = s.timerReconnect.active) : RetuneOk next where
  stable := by
    rw [hstatus, htrace, hrtsp, htimer]
    intro hstable
    exact (h.stable hstable).imp_left fun htuned ↦ htuned.append hevents
  teardown := by
    rw [hrtsp, hstatus]
    exact h.teardown
  connected := by
    rw [hrtsp, htrace]
    intro hwaiting
    exact (h.connected hwaiting).append fun event hevent hreconnects ↦
      hevents event hevent (Or.inr hreconnects)

/-- The invariant looks at four things. -/
theorem RetuneOk.congr (h : RetuneOk s) (hstatus : next.config.status = s.config.status)
    (htrace : next.trace = s.trace) (hrtsp : next.rtspStatus = s.rtspStatus)
    (htimer : next.timerReconnect.active = s.timerReconnect.active) : RetuneOk next := by
  apply h.append [] (by simp) _ hstatus hrtsp htimer
  rw [htrace, List.append_nil]

/-- A reset keeps the tuning, unless it was taken over and no retry is asked for. -/
theorem retuneOk_resetConnect {autoReconnect : Bool}
    (h : autoReconnect = true ∨ s.config.status ≠ .stable) :
    RetuneOk (resetConnect now autoReconnect s) := by
  have hwaiting : (resetConnect now autoReconnect s).rtspStatus = .configWaiting := by simp
  rcases resetConnect_cases now autoReconnect s with ⟨heq, hwhy⟩ | ⟨heq, _⟩
  · have hstatus : s.config.status ≠ .stable := by
      rcases hwhy with hauto | hinvalid | hnew
      · rw [hauto] at h
        exact h.resolve_left (by simp)
      · simp [hinvalid]
      · simp [hnew.1]
    rw [heq] at hwaiting ⊢
    exact .of_ne hstatus fun hne ↦ absurd hwaiting hne
  · rw [heq] at hwaiting ⊢
    constructor
    · intro _
      exact Or.inr ⟨hwaiting, rfl⟩
    · intro hteardown
      cases hteardown
    · intro hne
      exact absurd hwaiting hne

/-! ## Requests -/

@[simp]
theorem status_commitPids (c : SatipConfig) : (Config.commitPids c).status = c.status := rfl

theorem status_takeTuning_of_ne {c : SatipConfig} (h : c.status ≠ .changed) :
    Config.takeTuning c = c := if_neg h

/-- A request leaves the channel status alone, unless it takes the tuning data over. -/
theorem status_requestConfig (s : SatipRTSP) (kind : RtspRequest)
    (h : ¬((kind = .setup ∨ kind = .play) ∧ s.config.status = .changed)) :
    (requestConfig s kind).status = s.config.status := by
  cases kind with
  | none | option | teardown | describe => rfl
  | setup =>
    have hstatus : s.config.status ≠ .changed := fun hchanged ↦ h ⟨Or.inl rfl, hchanged⟩
    calc
      (requestConfig s .setup).status = (Config.takeTuning s.config).status := rfl
      _ = s.config.status := by rw [status_takeTuning_of_ne hstatus]
  | play =>
    have hstatus : s.config.status ≠ .changed := fun hchanged ↦ h ⟨Or.inr rfl, hchanged⟩
    have hstart : Config.startPlay s.config = s.config := Config.startPlay_of_ne hstatus
    change (getPlayData s.config).2.status = s.config.status
    rw [Config.snd_getPlayData, hstart]
    split <;> rfl

/-- The query string of a SETUP or PLAY starts with the tuning data, if there is any. -/
theorem exists_requestQuery (s : SatipRTSP) {kind : RtspRequest}
    (h : kind = .setup ∨ kind = .play) :
    ∃ more, requestQuery s kind = queryText (tuningText s.config ++ more) := by
  rcases h with rfl | rfl
  · exact ⟨_, rfl⟩
  · change ∃ more, (getPlayData s.config).1 = queryText (tuningText s.config ++ more)
    unfold getPlayData
    split
    · exact ⟨_, rfl⟩
    · exact ⟨"", by simp⟩

theorem RetuneOk.written (h : RetuneOk s) {kind : RtspRequest} {text : List UInt8}
    (htext : Carries kind s text) (sent : Bool)
    (hkind : kind = .setup ∨ kind = .play →
      s.rtspStatus ≠ .sessionTeardowning ∧ s.rtspStatus ≠ .configWaiting) :
    RetuneOk (written kind text sent s) := by
  by_cases htunes : (kind = .setup ∨ kind = .play) ∧ s.config.status = .changed
  · obtain ⟨hmethod, hchanged⟩ := htunes
    obtain ⟨more, hquery⟩ := exists_requestQuery s hmethod
    obtain ⟨front, back, rfl⟩ := htext
    obtain ⟨hteardown, hwaiting⟩ := hkind hmethod
    constructor
    · intro _
      left
      apply tunedSince_concat (h.connected hwaiting)
      refine ⟨hmethod, hchanged, more, front, back, ?_⟩
      rw [hquery]
    · intro hstatus
      exact absurd hstatus hteardown
    · intro _
      exact (h.connected hwaiting).append (by simp [Event.Reconnects])
  · refine h.append [.request _ sent] ?_ rfl (status_requestConfig s kind htunes) rfl rfl
    simp [Event.Supersedes, Event.Reconnects]

/-- Sending keeps the invariant; tuning data may be sent on a connection whose session does not
end. -/
theorem RetuneOk.sendRequest (h : RetuneOk s) (kind : RtspRequest) (sent : Bool)
    (hkind : kind = .setup ∨ kind = .play →
      s.rtspStatus ≠ .sessionTeardowning ∧ s.rtspStatus ≠ .configWaiting) :
    RetuneOk (sendRequest now kind sent s).2 := by
  have hstopped : RetuneOk (stopTimerKeepAliveMessage s) := h.congr rfl rfl rfl rfl
  have hsending := sendRequest_sending now kind sent s
  generalize RTSP.sendRequest now kind sent s = out at hsending
  cases hsending with
  | busy => exact h
  | sent _ text htext => exact (hstopped.written htext true hkind).congr rfl rfl rfl rfl
  | lost => exact retuneOk_resetConnect (Or.inl rfl)
  | refused => exact retuneOk_resetConnect (Or.inl rfl)

/-- A change of the session status. -/
theorem RetuneOk.move (h : RetuneOk s) (hactive : s.rtspStatus ≠ .configWaiting)
    {status : RtspStatus} (hteardown : status = .sessionTeardowning → s.config.status ≠ .stable) :
    RetuneOk { s with rtspStatus := status } where
  stable hstable := Or.inl ((h.stable hstable).resolve_right fun hwaiting ↦ hactive hwaiting.1)
  teardown := hteardown
  connected _ := h.connected hactive

/-- A request that was sent leaves the session status alone. -/
theorem rtspStatus_of_sent {kind : RtspRequest} {sent : Bool}
    (h : (sendRequest now kind sent s).1 = .ok) :
    (sendRequest now kind sent s).2.rtspStatus = s.rtspStatus := by
  have hsending := sendRequest_sending now kind sent s
  generalize RTSP.sendRequest now kind sent s = out at hsending h
  cases hsending with
  | busy => rfl
  | sent => rfl
  | lost => cases h
  | refused => cases h

/-- A TEARDOWN leaves the configuration alone. -/
theorem config_of_teardown_sent {sent : Bool} (h : (sendRequest now .teardown sent s).1 = .ok) :
    (sendRequest now .teardown sent s).2.config = s.config := by
  have hsending := sendRequest_sending now .teardown sent s
  generalize RTSP.sendRequest now .teardown sent s = out at hsending h
  cases hsending with
  | busy => rfl
  | sent => rfl
  | lost => cases h
  | refused => cases h

theorem RetuneOk.maintainSession (h : RetuneOk s) (hstatus : s.rtspStatus = .sessionTransmitting)
    (sent : Bool) : RetuneOk (maintainSession now sent s) := by
  have hsent (kind : RtspRequest) : RetuneOk (RTSP.sendRequest now kind sent s).2 :=
    h.sendRequest kind sent (by simp [hstatus])
  have hactive (kind : RtspRequest) (hok : (RTSP.sendRequest now kind sent s).1 = .ok) :
      (RTSP.sendRequest now kind sent s).2.rtspStatus ≠ .configWaiting := by
    rw [rtspStatus_of_sent hok, hstatus]
    simp
  unfold RTSP.maintainSession
  split_ifs with hplay hinvalid
  · rcases sendAndMove_cases now .play sent s .sessionPlaying with ⟨heq, _⟩ | ⟨heq, hok⟩
    · rw [heq]
      exact hsent .play
    · rw [heq]
      exact (hsent .play).move (hactive .play hok) (by simp)
  · rcases sendAndMove_cases now .teardown sent s .sessionTeardowning with ⟨heq, _⟩ | ⟨heq, hok⟩
    · rw [heq]
      exact hsent .teardown
    · rw [heq]
      apply (hsent .teardown).move (hactive .teardown hok)
      intro _
      rw [config_of_teardown_sent hok, hinvalid]
      simp
  · exact h
  · exact h.congr rfl rfl rfl rfl

/-- Taking the tuning up: a connection is made, or the retry is armed. -/
theorem retuneOk_startConnect (hchanged : s.config.status = .changed)
    (hstatus : s.rtspStatus = .configWaiting) (connect : Option ℕ) :
    RetuneOk (startConnect now connect s) := by
  cases connect with
  | some fd =>
    apply RetuneOk.of_ne
    · change (attempt s).config.status ≠ .stable
      simp [hchanged]
    · intro _
      exact connected_concat _
  | none =>
    have hwaiting : (attempt s).rtspStatus = .configWaiting := by simp [hstatus]
    constructor
    · intro _
      exact Or.inr ⟨hwaiting, rfl⟩
    · intro hteardown
      cases hwaiting.symm.trans hteardown
    · intro hne
      exact absurd hwaiting hne

theorem RetuneOk.handleRTSPStatus (h : RetuneOk s) (connect : Option ℕ) (sent : Bool) :
    RetuneOk (handleRTSPStatus now connect sent s) := by
  unfold RTSP.handleRTSPStatus
  cases hrtsp : s.rtspStatus with
  | configWaiting =>
    dsimp only
    cases hstatus : s.config.status with
    | invalid =>
      apply RetuneOk.of_ne
      · change s.config.status ≠ .stable
        simp [hstatus]
      · intro hwaiting
        exact absurd hrtsp hwaiting
    | changed => exact retuneOk_startConnect hstatus hrtsp connect
    | stable => exact h
  | serverConnecting => exact h
  | sessionEstablishing => exact h.sendRequest .setup sent (by simp [hrtsp])
  | sessionPlaying => exact h.sendRequest .play sent (by simp [hrtsp])
  | sessionTransmitting => exact h.maintainSession hrtsp sent
  | sessionTeardowning => exact h

/-! ## Timers -/

theorem RetuneOk.handleNextTimer (h : RetuneOk s) (sent : Bool) :
    RetuneOk (handleNextTimer now sent s) := by
  refine handleNextTimer_rule ?_ ?_ ?_ h
  · intro s _
    have hreset : RetuneOk (resetConnect now true s) := retuneOk_resetConnect (Or.inl rfl)
    exact hreset.congr rfl rfl rfl rfl
  · intro s hs _
    have hoption : RetuneOk (RTSP.sendRequest now .option sent s).2 :=
      hs.sendRequest .option sent (by simp)
    exact hoption.congr rfl rfl rfl rfl
  · -- whatever the channel status was, it is not STABLE behind the handler
    intro s hs
    have hconnected (hwaiting : s.rtspStatus ≠ .configWaiting) :
        Connected (s.trace ++ [.expired now]) :=
      (hs.connected hwaiting).append (by simp [Event.Reconnects])
    unfold timeoutReconnect
    cases hstatus : (record (.expired now) s).config.status with
    | invalid => exact .of_ne (by simp [resetReconnectBackoff, hstatus]) hconnected
    | changed => exact .of_ne (by simp [resetReconnectBackoff, hstatus]) hconnected
    | stable => exact .of_ne (by simp [Config.setChannelRetry]) hconnected

/-! ## Calls from outside -/

@[simp]
theorem status_updatePidList (new : List UInt16) (c : SatipConfig) :
    (Config.updatePidList new c).status = c.status := by
  unfold Config.updatePidList
  obtain ⟨psi, caPids, heq | heq⟩ := Config.notifyPidList_cases (Config.updatePidStatus
    { c with pidList := Config.updateSlots (new.map UInt16.toNat) c.pidList })
  · rw [heq]
    rfl
  · rw [heq]
    rfl

@[simp]
theorem status_clearProperty (c : SatipConfig) : (Config.clearProperty c).status = c.status := by
  unfold Config.clearProperty
  obtain ⟨psi, caPids, heq | heq⟩ := Config.resetPsi_cases (Config.clearParams c)
  · rw [heq]
    rfl
  · rw [heq]
    rfl

@[simp]
theorem status_setParam (param : Config.Param) (c : SatipConfig) :
    (Config.setParam param c).status = c.status := by
  cases param <;> rfl

theorem status_of_stepPsi {op : PSI.Op} {c c' : SatipConfig} (h : Config.stepPsi op c = some c') :
    c'.status = c.status := by
  obtain ⟨psi, caPids, rfl | rfl⟩ := Config.stepPsi_cases h <;> rfl

/-- An operation from outside that leaves the channel status alone. -/
theorem RetuneOk.withConfig (h : RetuneOk s) {config : SatipConfig}
    (hstatus : config.status = s.config.status) : RetuneOk (withConfig config [] s) :=
  h.congr hstatus (List.append_nil s.trace) rfl rfl

theorem RetuneOk.vtuner (h : RetuneOk s) {call : VtunerCall}
    (hnext : configStep call.op call.events s = some next) : RetuneOk next := by
  obtain ⟨config, hconfig, rfl⟩ := Option.map_eq_some_iff.mp hnext
  cases call with
  | updatePidList new =>
    obtain rfl := Option.some.inj hconfig
    exact h.withConfig (status_updatePidList new s.config)
  | clearProperty =>
    obtain rfl := Option.some.inj hconfig
    exact h.withConfig (status_clearProperty s.config)
  | setParam param =>
    obtain rfl := Option.some.inj hconfig
    exact h.withConfig (status_setParam param s.config)
  | setChannelChanged =>
    obtain rfl := Option.some.inj hconfig
    apply RetuneOk.of_ne
    · simp [RTSP.withConfig, Config.setChannelChanged]
    · intro hwaiting
      exact (h.connected hwaiting).append (by simp [VtunerCall.events, Event.Reconnects])
  | setVoltage voltage =>
    obtain rfl := Option.some.inj hconfig
    by_cases hon : voltage = Config.secVoltage13 ∨ voltage = Config.secVoltage18
    · rw [show (VtunerCall.setVoltage voltage).events = [] from if_pos hon]
      apply h.withConfig
      unfold Config.setVoltage
      split_ifs
      · rfl
      · rfl
      · omega
    · rw [show (VtunerCall.setVoltage voltage).events = [.released] from if_neg hon]
      apply RetuneOk.of_ne
      · have hoff : (Config.setVoltage voltage s.config).status = .invalid := by
          unfold Config.setVoltage
          split_ifs
          · omega
          · omega
          · rfl
        simp [RTSP.withConfig, hoff]
      · intro hwaiting
        exact (h.connected hwaiting).append (by simp [Event.Reconnects])

/-! ## Receiving -/

theorem RetuneOk.rtpTcpData (h : RetuneOk s) {data : List UInt8}
    (hnext : rtpTcpData data s = some next) :
    RetuneOk next ∧ next.rtspStatus = s.rtspStatus := by
  obtain ⟨config, rfl, hstatus, _⟩ := rtpTcpData_cases hnext
  have hframe : ∀ event ∈ [Event.frame data], ¬event.Supersedes := by
    simp [Event.Supersedes, Event.Reconnects]
  exact ⟨h.append [.frame data] hframe rfl hstatus rfl rfl, rfl⟩

theorem RetuneOk.afterResponse (h : RetuneOk s) (size : ℕ) (sessionId : List UInt8)
    (timeout streamId : ℤ) : RetuneOk (afterResponse size sessionId timeout streamId s) := by
  refine h.append [.response (firstResponse size s)] ?_ rfl rfl rfl rfl
  simp [Event.Supersedes, Event.Reconnects]

/-- The loop of `handleResponse` keeps the invariant, and the session status unless it fails. -/
theorem RetuneOk.loop (h : RetuneOk s) {res : Result}
    (hloop : loop now .error 0 s = some (res, next)) :
    RetuneOk next ∧ (res = .error ∨ next.rtspStatus = s.rtspStatus) := by
  refine loop_rule (fun _ _ mid ↦ RetuneOk mid ∧ mid.rtspStatus = s.rtspStatus)
    (fun res mid ↦ RetuneOk mid ∧ (res = .error ∨ mid.rtspStatus = s.rtspStatus))
    ?_ ⟨h, rfl⟩ hloop
  rintro res resCode mid r ⟨hmid, hstatus⟩ hcase
  cases hcase with
  | wait res' s' _ hs' _ =>
    rcases hs' with rfl | rfl
    · exact ⟨hmid, Or.inr hstatus⟩
    · exact ⟨hmid.congr rfl rfl rfl rfl, Or.inr hstatus⟩
  | frame size next _ hnext =>
    have hstarted : RetuneOk (startTimerResetConnect now 4000 mid) := hmid.congr rfl rfl rfl rfl
    obtain ⟨hok, hsame⟩ := hstarted.rtpTcpData hnext
    exact ⟨hok.congr rfl rfl rfl rfl, hsame.trans hstatus⟩
  | reset size =>
    have hreset : RetuneOk (resetConnect now true
        (record (.response (firstResponse size mid)) (terminated mid))) :=
      retuneOk_resetConnect (Or.inl rfl)
    exact ⟨hreset, Or.inl rfl⟩
  | more size sessionId timeout streamId =>
    exact ⟨hmid.afterResponse size sessionId timeout streamId, hstatus⟩
  | last size sessionId timeout streamId =>
    exact ⟨hmid.afterResponse size sessionId timeout streamId, Or.inr hstatus⟩

theorem RetuneOk.handleResponse (h : RetuneOk s) {recv : Recv} {res : Result}
    (hnext : handleResponse now recv s = some (res, next)) :
    RetuneOk next ∧ (res = .error ∨ next.rtspStatus = s.rtspStatus) := by
  have hbuffer (rxData : Memory.Block) (rxDataPos : ℤ) :
      RetuneOk (withBuffer rxData rxDataPos s) := h.congr rfl rfl rfl rfl
  rcases handleResponse_cases hnext with ⟨hres, rxDataPos, rfl⟩ | ⟨rxData, rxDataPos, _, hloop⟩
  · exact ⟨hbuffer s.rxData rxDataPos, Or.inl hres⟩
  · exact (hbuffer rxData rxDataPos).loop hloop

/-- A complete response moves the session on; the session ends for good only when the tuning was
not taken over. -/
theorem RetuneOk.advance (h : RetuneOk s) {status : RtspStatus} {res : Result}
    (hactive : status ≠ .configWaiting) (hstatus : res = .error ∨ s.rtspStatus = status) :
    RetuneOk (advance now status res s) := by
  unfold RTSP.advance
  split_ifs with hres
  · have hsame : s.rtspStatus = status := hstatus.resolve_left (by simp [hres])
    rw [← hsame] at hactive
    cases status with
    | configWaiting | serverConnecting | sessionTransmitting => exact h
    | sessionEstablishing => exact h.move hactive (by simp)
    | sessionPlaying =>
      constructor
      · intro hstable
        exact Or.inl ((h.stable hstable).resolve_right fun hwaiting ↦ hactive hwaiting.1)
      · intro hteardown
        cases hteardown
      · intro _
        exact h.connected hactive
    | sessionTeardowning => exact retuneOk_resetConnect (Or.inr (h.teardown hsame))
  · exact h

theorem RetuneOk.handlePollEvents (h : RetuneOk s) {events : PollEvents} {recv : Recv}
    (hnext : handlePollEvents now events recv s = some next) : RetuneOk next := by
  have hcase : PollCase now events recv s next := pollCase_of_handlePollEvents hnext
  cases hcase with
  | broken => exact retuneOk_resetConnect (Or.inl rfl)
  | idle => exact h
  | ready _ hstatus =>
    constructor
    · intro hstable
      exact Or.inl ((h.stable hstable).resolve_right (by simp [hstatus]))
    · intro hteardown
      cases hteardown
    · intro _
      exact h.connected (by simp [hstatus])
  | read _ _ hwaiting _ res mid hmid =>
    obtain ⟨hok, hstatus⟩ := h.handleResponse hmid
    exact hok.advance hwaiting hstatus

/-! ## Runs -/

theorem step_retuneOk {op : Op} (h : RetuneOk s) (hnext : step s op = some next) :
    RetuneOk next := by
  cases op with
  | handleRTSPStatus now connect sent =>
    obtain rfl := Option.some.inj hnext
    exact h.handleRTSPStatus connect sent
  | handleNextTimer now sent =>
    obtain rfl := Option.some.inj hnext
    exact h.handleNextTimer sent
  | handlePollEvents now events recv => exact h.handlePollEvents hnext
  | vtuner call => exact h.vtuner hnext
  | processTS data =>
    obtain ⟨config, hconfig, rfl⟩ := Option.map_eq_some_iff.mp hnext
    exact h.withConfig (status_of_stepPsi hconfig)

@[simp]
theorem status_construct (feType : ℤ) (settings : Config.Settings) :
    (Config.construct feType settings).status = .invalid := by
  unfold Config.construct
  dsimp only
  split_ifs
  · rw [Config.status_applyReports]
    exact status_clearProperty _
  · exact status_clearProperty _

theorem retuneOk_start (args : SessionArgs) : RetuneOk args.start := by
  unfold SessionArgs.start construct
  apply retuneOk_resetConnect
  right
  change (Config.construct args.feType args.settings).status ≠ .stable
  simp

/-- In every reachable state of a session whose tuner is not released, the tuning parameters were
put into a SETUP or PLAY built on the current connection after the last `setChannelChanged`, or
the channel status is CHANGED, or the client waits for the reconnect timer. -/
theorem retune_not_lost (h : Reachable s) (hvalid : s.config.status ≠ .invalid) :
    TunedSince s.trace ∨ s.config.status = .changed ∨
      (s.rtspStatus = .configWaiting ∧ s.timerReconnect.active = true) := by
  obtain ⟨args, hreach⟩ := h
  have hok : RetuneOk s :=
    hreach.invariant (fun _ _ _ hs hnext ↦ step_retuneOk hs hnext) (retuneOk_start args)
  cases hstatus : s.config.status with
  | invalid => exact absurd hstatus hvalid
  | changed => exact Or.inr (Or.inl rfl)
  | stable =>
    rcases hok.stable hstatus with htuned | hretry
    · exact Or.inl htuned
    · exact Or.inr (Or.inr hretry)

theorem retune_not_lost_setupRun :
    ∃ s, Runs.run step udpArgs.start setupRun = some s ∧ s.config.status ≠ .invalid ∧
      (TunedSince s.trace ∨ s.config.status = .changed ∨
        (s.rtspStatus = .configWaiting ∧ s.timerReconnect.active = true)) := by
  have hrun : ∃ s, Runs.run step udpArgs.start setupRun = some s ∧ s.config.status = .stable :=
    ⟨_, rfl, rfl⟩
  obtain ⟨s, hs, hstable⟩ := hrun
  have hvalid : s.config.status ≠ .invalid := by simp [hstable]
  exact ⟨s, hs, hvalid, retune_not_lost ⟨udpArgs, setupRun, hs⟩ hvalid⟩

end SatipClient.RTSP
