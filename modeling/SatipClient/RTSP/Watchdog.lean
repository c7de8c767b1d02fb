import SatipClient.Config.Requested
import SatipClient.RTSP.Session
import SatipClient.RTSP.Stream

/-!
# The watchdog

Whenever the client waits for the server, the timer `m_timer_reset_connect` should be active.
`run_watched` proves it for every run in which no step is a `CutTeardown`; a step of that kind
breaks it, as `not_run_watched` shows.  There the response to a TEARDOWN arrives with a part of
another message behind it.  The loop of `handleResponse` stops the timer for the response, but
then looks at the rest, finds it incomplete and answers that nothing was completed, so that
`handlePollEvents` does not end the session.
-/

namespace SatipClient.RTSP

open CString (ascii ofBytes)

variable {s next : SatipRTSP} {now : Timespec}

/-- The property of the watchdog: it is active while the server is waited for. -/
def Watched (s : SatipRTSP) : Prop :=
  s.rtspStatus = .serverConnecting ∨ s.rtspStatus = .sessionTeardowning ∨
      s.waitResponse = true →
    s.timerResetConnect.active = true

/-! ## Where it fails -/

/-- In these bytes, the last complete message is a response, all responses are accepted, and a
part of another message follows; `resCode` is the status code so far. -/
def partBehindResponse (tcp : Bool) (resCode : ℤ) (bytes : List UInt8) : Bool :=
  match _h : firstMessage tcp bytes with
  | none => false
  | some (.frame size) => partBehindResponse tcp resCode (bytes.drop size)
  | some (.response size) =>
    (statusCode (ofBytes bytes)).getD resCode = 200 &&
      ((bytes.drop size ≠ [] && firstMessage tcp (bytes.drop size) = none) ||
        partBehindResponse tcp 200 (bytes.drop size))
termination_by bytes.length
decreasing_by
  · have hbounds := firstMessage_bounds (Or.inl _h)
    rw [List.length_drop]
    omega
  · have hbounds := firstMessage_bounds (Or.inr _h)
    rw [List.length_drop]
    omega

theorem partBehindResponse_of_frame {tcp : Bool} {bytes : List UInt8} {size : ℕ}
    (h : firstMessage tcp bytes = some (.frame size)) (resCode : ℤ) :
    partBehindResponse tcp resCode bytes = partBehindResponse tcp resCode (bytes.drop size) := by
  rw [partBehindResponse]
  split <;> simp_all

theorem partBehindResponse_of_response {tcp : Bool} {bytes : List UInt8} {size : ℕ}
    (h : firstMessage tcp bytes = some (.response size)) (resCode : ℤ) :
    partBehindResponse tcp resCode bytes =
      (decide ((statusCode (ofBytes bytes)).getD resCode = 200) &&
        ((decide (bytes.drop size ≠ []) && decide (firstMessage tcp (bytes.drop size) = none)) ||
          partBehindResponse tcp 200 (bytes.drop size))) := by
  rw [partBehindResponse]
  split <;> simp_all

/-- Behind an accepted response without such a part comes nothing, or a complete message. -/
theorem firstMessage_behind_response {tcp : Bool} {bytes : List UInt8} {size : ℕ} {resCode : ℤ}
    (h : firstMessage tcp bytes = some (.response size))
    (hcode : (statusCode (ofBytes bytes)).getD resCode = 200)
    (hpart : partBehindResponse tcp resCode bytes = false) (hmore : bytes.drop size ≠ []) :
    firstMessage tcp (bytes.drop size) ≠ none ∧
      partBehindResponse tcp 200 (bytes.drop size) = false := by
  rw [partBehindResponse_of_response h] at hpart
  simpa [hcode, hmore] using hpart

/-- The step that loses the watchdog. -/
def CutTeardown (s : SatipRTSP) : Op → Prop
  | .handlePollEvents _ events recv =>
    events.broken = false ∧ events.pollin = true ∧ s.rtspStatus = .sessionTeardowning ∧
      s.rtspRequest ≠ .none ∧ partBehindResponse (isTcpData s) 0 (receivedWith recv s) = true
  | _ => False

instance (s : SatipRTSP) : DecidablePred (CutTeardown s)
  | .handlePollEvents _ events recv =>
    inferInstanceAs (Decidable (events.broken = false ∧ events.pollin = true ∧
      s.rtspStatus = .sessionTeardowning ∧ s.rtspRequest ≠ .none ∧
        partBehindResponse (isTcpData s) 0 (receivedWith recv s) = true))
  | .handleRTSPStatus .. | .handleNextTimer .. | .vtuner _ | .processTS _ =>
    inferInstanceAs (Decidable False)

/-! ## The invariant -/

/-- What the watchdog rests on: a response is only waited for on a connection that is made, the
keep alive timer only runs while data is transmitted, and DESCRIBE is never sent. -/
structure WatchOk (s : SatipRTSP) : Prop where
  watched : Watched s
  waiting : s.waitResponse = true →
    s.rtspStatus ≠ .configWaiting ∧ s.rtspStatus ≠ .serverConnecting
  keepAlive : s.timerKeepAlive.active = true → s.rtspStatus = .sessionTransmitting
  request : s.rtspRequest ≠ .describe

/-- The invariant looks at five things. -/
theorem WatchOk.congr (h : WatchOk s) (hrtsp : next.rtspStatus = s.rtspStatus)
    (hwait : next.waitResponse = s.waitResponse)
    (htimer : next.timerResetConnect = s.timerResetConnect)
    (hkeep : next.timerKeepAlive = s.timerKeepAlive)
    (hrequest : next.rtspRequest = s.rtspRequest) : WatchOk next where
  watched := by
    unfold Watched
    rw [hrtsp, hwait, htimer]
    exact h.watched
  waiting := by
    rw [hrtsp, hwait]
    exact h.waiting
  keepAlive := by
    rw [hrtsp, hkeep]
    exact h.keepAlive
  request := by
    rw [hrequest]
    exact h.request

/-- Without a connection there is nothing to watch. -/
theorem watchOk_of_waiting (hrtsp : s.rtspStatus = .configWaiting)
    (hwait : s.waitResponse = false) (hkeep : s.timerKeepAlive.active = false)
    (hrequest : s.rtspRequest ≠ .describe) : WatchOk s where
  watched := by simp [Watched, hrtsp, hwait]
  waiting := by simp [hwait]
  keepAlive := by simp [hkeep]
  request := hrequest

theorem watchOk_resetConnect (autoReconnect : Bool) :
    WatchOk (resetConnect now autoReconnect s) := by
  apply watchOk_of_waiting
  · simp
  · simp
  · simp
  · rcases resetConnect_cases now autoReconnect s with ⟨heq, _⟩ | ⟨heq, _⟩
    · rw [heq]
      change RtspRequest.none ≠ .describe
      simp
    · rw [heq]
      change RtspRequest.none ≠ .describe
      simp

/-! ## Requests -/

/-- After a request was sent its response is watched. -/
theorem watched_of_sent {kind : RtspRequest} {sent : Bool}
    (h : (sendRequest now kind sent s).1 = .ok) :
    (sendRequest now kind sent s).2.timerResetConnect.active = true ∧
      (sendRequest now kind sent s).2.timerKeepAlive.active = false := by
  have hsending := sendRequest_sending now kind sent s
  generalize sendRequest now kind sent s = out at hsending h
  cases hsending with
  | busy => cases h
  | sent => exact ⟨rfl, rfl⟩
  | lost => cases h
  | refused => cases h

theorem WatchOk.sendRequest (h : WatchOk s) {kind : RtspRequest} (hkind : kind ≠ .describe)
    (hwaiting : s.rtspStatus ≠ .configWaiting) (hconnecting : s.rtspStatus ≠ .serverConnecting)
    (sent : Bool) : WatchOk (sendRequest now kind sent s).2 := by
  have hsending := sendRequest_sending now kind sent s
  generalize RTSP.sendRequest now kind sent s = out at hsending
  cases hsending with
  | busy => exact h
  | sent _ text _ =>
    constructor
    · intro _
      rfl
    · intro _
      exact ⟨hwaiting, hconnecting⟩
    · intro hkeep
      cases hkeep
    · exact hkind
  | lost => exact watchOk_resetConnect true
  | refused => exact watchOk_resetConnect true

/-- The request was sent, and the session moves on to a status in which its response is read. -/
theorem WatchOk.move (h : WatchOk s) (hactive : s.timerResetConnect.active = true)
    (hkeep : s.timerKeepAlive.active = false) {status : RtspStatus}
    (hwaiting : status ≠ .configWaiting) (hconnecting : status ≠ .serverConnecting) :
    WatchOk { s with rtspStatus := status } where
  watched _ := hactive
  waiting _ := ⟨hwaiting, hconnecting⟩
  keepAlive := by simp [hkeep]
  request := h.request

theorem WatchOk.sendAndMove (h : WatchOk s) {kind : RtspRequest} (hkind : kind ≠ .describe)
    (hstatus : s.rtspStatus = .sessionTransmitting) {status : RtspStatus}
    (hwaiting : status ≠ .configWaiting) (hconnecting : status ≠ .serverConnecting)
    (sent : Bool) : WatchOk (sendAndMove now kind status sent s) := by
  have hsent : WatchOk (RTSP.sendRequest now kind sent s).2 :=
    h.sendRequest hkind (by simp [hstatus]) (by simp [hstatus]) sent
  rcases sendAndMove_cases now kind sent s status with ⟨heq, _⟩ | ⟨heq, hok⟩
  · rw [heq]
    exact hsent
  · obtain ⟨hactive, hkeep⟩ := watched_of_sent hok
    rw [heq]
    exact hsent.move hactive hkeep hwaiting hconnecting

theorem WatchOk.startConnect (h : WatchOk s) (hstatus : s.rtspStatus = .configWaiting)
    (connect : Option ℕ) : WatchOk (startConnect now connect s) := by
  have hwait : s.waitResponse = false := by
    by_contra hne
    exact (h.waiting (by simpa using hne)).1 hstatus
  have hkeep : s.timerKeepAlive.active = false := by
    by_contra hne
    have htransmitting := h.keepAlive (by simpa using hne)
    rw [hstatus] at htransmitting
    cases htransmitting
  cases connect with
  | some fd =>
    constructor
    · intro _
      rfl
    · intro hwaiting
      change (attempt s).waitResponse = true at hwaiting
      simp [hwait] at hwaiting
    · intro hactive
      change (attempt s).timerKeepAlive.active = true at hactive
      simp [hkeep] at hactive
    · change (attempt s).rtspRequest ≠ .describe
      rw [rtspRequest_attempt]
      exact h.request
  | none =>
    have hattempt : WatchOk (attempt s) := by
      apply watchOk_of_waiting
      · rw [rtspStatus_attempt, hstatus]
      · rw [waitResponse_attempt, hwait]
      · rw [timerKeepAlive_attempt, hkeep]
      · rw [rtspRequest_attempt]
        exact h.request
    exact hattempt.congr rfl rfl rfl rfl rfl

theorem WatchOk.handleRTSPStatus (h : WatchOk s) (connect : Option ℕ) (sent : Bool) :
    WatchOk (handleRTSPStatus now connect sent s) := by
  unfold RTSP.handleRTSPStatus
  cases hrtsp : s.rtspStatus with
  | configWaiting =>
    dsimp only
    cases s.config.status with
    | invalid => exact h.congr rfl rfl rfl rfl rfl
    | changed => exact h.startConnect hrtsp connect
    | stable => exact h
  | serverConnecting => exact h
  | sessionEstablishing =>
    exact h.sendRequest (by simp) (by simp [hrtsp]) (by simp [hrtsp]) sent
  | sessionPlaying => exact h.sendRequest (by simp) (by simp [hrtsp]) (by simp [hrtsp]) sent
  | sessionTransmitting =>
    dsimp only
    unfold maintainSession
    split_ifs
    · exact h.sendAndMove (by simp) hrtsp (by simp) (by simp) sent
    · exact h.sendAndMove (by simp) hrtsp (by simp) (by simp) sent
    · exact h
    · exact {
        watched := h.watched
        waiting := h.waiting
        keepAlive := fun _ ↦ hrtsp
        request := h.request }
  | sessionTeardowning => exact h

/-! ## Timers and calls from outside -/

theorem WatchOk.handleNextTimer (h : WatchOk s) (sent : Bool) :
    WatchOk (handleNextTimer now sent s) := by
  refine handleNextTimer_rule ?_ ?_ ?_ h
  · intro s _
    have hreset : WatchOk (resetConnect now true s) := watchOk_resetConnect true
    apply watchOk_of_waiting
    · exact rtspStatus_resetConnect now true s
    · exact waitResponse_resetConnect now true s
    · change (resetConnect now true s).timerKeepAlive.active = false
      simp
    · exact hreset.request
  · intro s hs hactive
    have hstatus : s.rtspStatus = .sessionTransmitting := hs.keepAlive hactive
    have hoption : WatchOk (RTSP.sendRequest now .option sent s).2 :=
      hs.sendRequest (by simp) (by simp [hstatus]) (by simp [hstatus]) sent
    exact {
      watched := hoption.watched
      waiting := hoption.waiting
      keepAlive := fun hafter ↦ hoption.keepAlive (TimerElem.active_of_afterCall hafter)
      request := hoption.request }
  · intro s hs
    unfold timeoutReconnect
    cases (record (.expired now) s).config.status with
    | invalid => exact hs.congr rfl rfl rfl rfl rfl
    | changed => exact hs.congr rfl rfl rfl rfl rfl
    | stable => exact hs.congr rfl rfl rfl rfl rfl

theorem WatchOk.configStep (h : WatchOk s) {op : Config.Op} {events : List Event}
    (hnext : configStep op events s = some next) : WatchOk next := by
  obtain ⟨config, _, rfl⟩ := Option.map_eq_some_iff.mp hnext
  exact h.congr rfl rfl rfl rfl rfl

/-! ## Receiving -/

/-- The states in which the loop of `handleResponse` goes on, having started in `s`: the session
is where it was, and whoever waits is watched.  At the end of a session the watchdog is active
or a complete message follows, and nothing is accepted that would lose it. -/
structure LoopOk (s : SatipRTSP) (res : Result) (resCode : ℤ) (mid : SatipRTSP) : Prop where
  rtsp : mid.rtspStatus = s.rtspStatus
  keepAlive : mid.timerKeepAlive = s.timerKeepAlive
  request : mid.rtspRequest ≠ .describe
  waiting : mid.waitResponse = true → s.waitResponse = true ∧ mid.timerResetConnect.active = true
  teardown : s.rtspStatus = .sessionTeardowning →
    (mid.timerResetConnect.active = true ∨
        firstMessage (isTcpData mid) (received mid) ≠ none) ∧
      (mid.rtspRequest = .none ∧ res = .error ∨
        partBehindResponse (isTcpData mid) resCode (received mid) = false)

/-- The outcomes of the loop: the connection was reset, or the session is where it was and
whoever waits is watched, unless a complete response ends the loop. -/
def LoopEnd (s : SatipRTSP) (res : Result) (mid : SatipRTSP) : Prop :=
  (res = .error ∧ WatchOk mid) ∨
    (mid.rtspStatus = s.rtspStatus ∧ mid.timerKeepAlive = s.timerKeepAlive ∧
      mid.rtspRequest ≠ .describe ∧
      (mid.waitResponse = true → s.waitResponse = true ∧ mid.timerResetConnect.active = true) ∧
      (s.rtspStatus = .sessionTeardowning →
        mid.timerResetConnect.active = true ∨ res = .responseComplete))

section loop

variable {res : Result} {resCode : ℤ} {mid : SatipRTSP}

theorem LoopOk.frame {after : SatipRTSP} {size : ℕ} (h : LoopOk s res resCode mid)
    (hmessage : firstMessage (isTcpData mid) (received mid) = some (.frame size))
    (hnext : rtpTcpData ((received mid).take size) (startTimerResetConnect now 4000 mid) =
      some after) : LoopOk s res resCode (consume size after) := by
  obtain ⟨hreceived, htcp⟩ := received_after_frame hmessage hnext
  obtain ⟨config, rfl, _, _⟩ := rtpTcpData_cases hnext
  constructor
  · exact h.rtsp
  · exact h.keepAlive
  · exact h.request
  · intro hwait
    exact ⟨(h.waiting hwait).1, rfl⟩
  · intro hteardown
    rw [hreceived, htcp, ← partBehindResponse_of_frame hmessage]
    exact ⟨Or.inl rfl, (h.teardown hteardown).2⟩

theorem LoopOk.response {size : ℕ} {resCode' : ℤ} (h : LoopOk s res resCode mid)
    (hmessage : firstMessage (isTcpData mid) (received mid) = some (.response size))
    (hcode : mid.rtspRequest = .describe ∨
      resCode' = 200 ∧ (statusCode (ofBytes (received mid))).getD resCode = 200)
    (hrequest : mid.rtspRequest = .none → res = .responseComplete)
    (hmore : (size : ℤ) < mid.rxDataPos) (sessionId : List UInt8) (timeout streamId : ℤ) :
    LoopOk s .responseComplete resCode' (afterResponse size sessionId timeout streamId mid) := by
  have hreceived : received (afterResponse size sessionId timeout streamId mid) =
      (received mid).drop size := received_afterResponse hmore.le sessionId timeout streamId
  have htcp : isTcpData (afterResponse size sessionId timeout streamId mid) = isTcpData mid := rfl
  constructor
  · exact h.rtsp
  · exact h.keepAlive
  · change RtspRequest.none ≠ .describe
    simp
  · intro hwait
    cases hwait
  · intro hteardown
    obtain ⟨rfl, hok⟩ := hcode.resolve_left h.request
    have hpart : partBehindResponse (isTcpData mid) resCode (received mid) = false := by
      apply (h.teardown hteardown).2.resolve_left
      rintro ⟨hnone, rfl⟩
      cases hrequest hnone
    have hdrop : (received mid).drop size ≠ [] := by
      rw [Ne, List.drop_eq_nil_iff, length_received]
      omega
    obtain ⟨hcomplete, hrest⟩ := firstMessage_behind_response hmessage hok hpart hdrop
    rw [hreceived, htcp]
    exact ⟨Or.inr hcomplete, Or.inr hrest⟩

/-- The loop, started where a lost watchdog is excluded. -/
theorem loopEnd_of_loop (h : LoopOk s .error 0 s) (hloop : loop now .error 0 s = some (res, next)) :
    LoopEnd s res next := by
  apply loop_rule (LoopOk s) (LoopEnd s) _ h hloop
  intro res resCode mid r hmid hcase
  cases hcase with
  | wait res' s' hmessage hs' _ =>
    right
    have hactive (hteardown : s.rtspStatus = .sessionTeardowning) :
        mid.timerResetConnect.active = true :=
      (hmid.teardown hteardown).1.resolve_right (not_not.mpr hmessage)
    rcases hs' with rfl | rfl
    · exact ⟨hmid.rtsp, hmid.keepAlive, hmid.request, hmid.waiting,
        fun hteardown ↦ Or.inl (hactive hteardown)⟩
    · exact ⟨hmid.rtsp, hmid.keepAlive, hmid.request, hmid.waiting,
        fun hteardown ↦ Or.inl (hactive hteardown)⟩
  | frame size after hmessage hnext => exact hmid.frame hmessage hnext
  | reset => exact Or.inl ⟨rfl, watchOk_resetConnect true⟩
  | more size sessionId timeout streamId resCode' hmessage hcode hrequest hmore =>
    exact hmid.response hmessage hcode hrequest hmore sessionId timeout streamId
  | last size sessionId timeout streamId =>
    right
    refine ⟨hmid.rtsp, hmid.keepAlive, ?_, ?_, fun _ ↦ Or.inr rfl⟩
    · change RtspRequest.none ≠ .describe
      simp
    · intro hwait
      cases hwait

end loop

/-- A response is read; in the end of a session it must not be a `CutTeardown`. -/
theorem WatchOk.read (h : WatchOk s) (hwaiting : s.rtspStatus ≠ .configWaiting)
    (hconnecting : s.rtspStatus ≠ .serverConnecting) {recv : Recv} {res : Result}
    (hnext : handleResponse now recv s = some (res, next))
    (hcut : s.rtspStatus = .sessionTeardowning → s.rtspRequest ≠ .none →
      partBehindResponse (isTcpData s) 0 (receivedWith recv s) = false) :
    WatchOk (advance now s.rtspStatus res next) := by
  rcases handleResponse_cases hnext with ⟨rfl, pos, rfl⟩ | ⟨rxData, pos, hreceived, hloop⟩
  · exact h.congr rfl rfl rfl rfl rfl
  have hstart : LoopOk (withBuffer rxData pos s) .error 0 (withBuffer rxData pos s) := by
    constructor
    · rfl
    · rfl
    · exact h.request
    · intro hwait
      exact ⟨hwait, h.watched (Or.inr (Or.inr hwait))⟩
    · intro hteardown
      refine ⟨Or.inl (h.watched (Or.inr (Or.inl hteardown))), ?_⟩
      by_cases hnone : s.rtspRequest = .none
      · exact Or.inl ⟨hnone, rfl⟩
      · rw [hreceived]
        exact Or.inr (hcut hteardown hnone)
  rcases loopEnd_of_loop hstart hloop with ⟨rfl, hok⟩ | ⟨hrtsp, hkeep, hrequest, hwait, hteardown⟩
  · exact hok
  -- the session stays or moves on to a status in which responses are read
  have hmoved {status : RtspStatus} (hnot : status ≠ .configWaiting ∧ status ≠ .serverConnecting)
      (hend : status = .sessionTeardowning → next.timerResetConnect.active = true)
      (halive : s.timerKeepAlive.active = true → status = .sessionTransmitting) :
      WatchOk { next with rtspStatus := status } := by
    constructor
    · rintro (hstatus | hstatus | hstatus)
      · exact absurd hstatus hnot.2
      · exact hend hstatus
      · exact (hwait hstatus).2
    · intro _
      exact hnot
    · intro hactive
      exact halive (hkeep ▸ hactive)
    · exact hrequest
  have hsame : { next with rtspStatus := s.rtspStatus } = next := by
    rw [← show next.rtspStatus = s.rtspStatus from hrtsp]
  unfold advance
  by_cases hres : res = .responseComplete
  · rw [if_pos hres]
    cases hstatus : s.rtspStatus with
    | configWaiting => exact absurd hstatus hwaiting
    | serverConnecting => exact absurd hstatus hconnecting
    | sessionEstablishing =>
      apply hmoved (by simp) (by simp)
      intro hactive
      cases hstatus.symm.trans (h.keepAlive hactive)
    | sessionPlaying =>
      have hplay : WatchOk { next with rtspStatus := .sessionTransmitting } :=
        hmoved (by simp) (by simp) (by simp)
      exact hplay.congr rfl rfl rfl rfl rfl
    | sessionTransmitting =>
      have hstay : WatchOk { next with rtspStatus := s.rtspStatus } :=
        hmoved ⟨hwaiting, hconnecting⟩ (by simp [hstatus]) (by simp [hstatus])
      rw [hsame] at hstay
      exact hstay
    | sessionTeardowning => exact watchOk_resetConnect false
  · rw [if_neg hres, ← hsame]
    exact hmoved ⟨hwaiting, hconnecting⟩
      (fun hstatus ↦ (hteardown hstatus).resolve_right hres) h.keepAlive

/-! ## Runs -/

theorem step_watchOk {op : Op} (h : WatchOk s) (hcut : ¬CutTeardown s op)
    (hnext : step s op = some next) : WatchOk next := by
  cases op with
  | handleRTSPStatus now connect sent =>
    obtain rfl := Option.some.inj hnext
    exact h.handleRTSPStatus connect sent
  | handleNextTimer now sent =>
    obtain rfl := Option.some.inj hnext
    exact h.handleNextTimer sent
  | vtuner call => exact h.configStep hnext
  | processTS data => exact h.configStep hnext
  | handlePollEvents now events recv =>
    have hcase : PollCase now events recv s next := pollCase_of_handlePollEvents hnext
    cases hcase with
    | broken => exact watchOk_resetConnect true
    | idle => exact h
    | ready _ hstatus =>
      have hwait : s.waitResponse = false := by
        by_contra hne
        exact (h.waiting (by simpa using hne)).2 hstatus
      constructor
      · rintro (hconnecting | hteardown | hwaiting)
        · cases hconnecting
        · cases hteardown
        · cases hwait.symm.trans hwaiting
      · intro hwaiting
        cases hwait.symm.trans hwaiting
      · intro hactive
        cases hstatus.symm.trans (h.keepAlive hactive)
      · exact h.request
    | read hopen hpollin hwaiting hconnecting res mid hmid =>
      apply h.read hwaiting hconnecting hmid
      intro hteardown hrequest
      by_contra hpart
      exact hcut ⟨hopen, hpollin, hteardown, hrequest, by simpa using hpart⟩

theorem watchOk_start (args : SessionArgs) : WatchOk args.start := by
  unfold SessionArgs.start construct
  exact watchOk_resetConnect false

/-- In every run without a `CutTeardown`, the watchdog is active in every state in which the
server is waited for. -/
theorem run_watched (args : SessionArgs) {ops : List Op}
    (hok : Runs.EachStep step (fun s op ↦ ¬CutTeardown s op) args.start ops)
    (hrun : Runs.run step args.start ops = some s) :
    s.rtspStatus = .serverConnecting ∨ s.rtspStatus = .sessionTeardowning ∨
        s.waitResponse = true →
      s.timerResetConnect.active = true := by
  have hstart : WatchOk args.start := watchOk_start args
  exact (Runs.run_invariant (fun _ _ _ ↦ step_watchOk) hstart hok hrun).watched

/-- The response to a SETUP. -/
def setupResponse : List UInt8 :=
  ascii "RTSP/1.0 200 OK\r\nSession: 1;timeout=60\r\ncom.ses.streamID: 1\r\n\r\n"

/-- A response without further headers. -/
def plainResponse : List UInt8 := ascii "RTSP/1.0 200 OK\r\n\r\n"

/-- Bytes are received. -/
def receive (bytes : List UInt8) : Op := .handlePollEvents {} { pollin := true } (.bytes bytes)

/-- A tuner is tuned, its stream is set up and played, it is released and TEARDOWN is sent. -/
def teardownRun : List Op :=
  [.vtuner .setChannelChanged, .handleRTSPStatus {} (some 3) true,
    .handlePollEvents {} { pollout := true } (.bytes []), .handleRTSPStatus {} none true,
    receive setupResponse, .handleRTSPStatus {} none true, receive plainResponse,
    .vtuner (.setVoltage 2), .handleRTSPStatus {} none true]

theorem run_watched_teardownRun :
    ∃ s, Runs.run step tcpArgs.start teardownRun = some s ∧
      (s.rtspStatus = .serverConnecting ∨ s.rtspStatus = .sessionTeardowning ∨
          s.waitResponse = true →
        s.timerResetConnect.active = true) := by
  have hok : Runs.EachStep step (fun s op ↦ ¬CutTeardown s op) tcpArgs.start teardownRun := by
    decide +kernel
  have hsome : (Runs.run step tcpArgs.start teardownRun).isSome = true := by decide +kernel
  obtain ⟨s, hrun⟩ := Option.isSome_iff_exists.mp hsome
  exact ⟨s, hrun, run_watched tcpArgs hok hrun⟩

/-- With the first byte of a frame behind the response to TEARDOWN, the watchdog is stopped and
the session stays. -/
theorem not_run_watched :
    ¬∀ (args : SessionArgs) (ops : List Op) (s : SatipRTSP),
      Runs.run step args.start ops = some s →
      (s.rtspStatus = .serverConnecting ∨ s.rtspStatus = .sessionTeardowning ∨
          s.waitResponse = true →
        s.timerResetConnect.active = true) := by
  have hend : (Runs.run step tcpArgs.start
      (teardownRun ++ [receive (plainResponse ++ [dollar])])).map
        (fun s ↦ (s.rtspStatus, s.timerResetConnect.active)) =
      some (.sessionTeardowning, false) := by
    decide +kernel
  obtain ⟨s, hrun, hs⟩ := Option.map_eq_some_iff.mp hend
  obtain ⟨hstatus, hstopped⟩ := Prod.mk.inj hs
  intro hall
  have hactive : s.timerResetConnect.active = true :=
    hall tcpArgs _ s hrun (Or.inr (Or.inl hstatus))
  cases hactive.symm.trans hstopped

end SatipClient.RTSP
