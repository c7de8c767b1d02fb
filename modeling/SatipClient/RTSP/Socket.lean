import SatipClient.RTSP.Status

/-!
# The socket of a session

`m_fd` changes in two ways: a reset closes it, which the trace records, and `handleRTSPStatus` sets
it to what `connectToServer` returned (`follows_of_step`).
-/

namespace SatipClient.RTSP

variable {s next : SatipRTSP} {now : Timespec} {source : Source}

/-- `m_fd` behind an event. -/
def fdAfter (fd : Option ℕ) : Event → Option ℕ
  | .disconnected => none
  | _ => fd

/-- The socket was not touched, but for being closed where the trace records it. -/
def Follows (s next : SatipRTSP) : Prop :=
  ∃ events, next.trace = s.trace ++ events ∧ next.fd = events.foldl fdAfter s.fd

theorem Follows.refl (s : SatipRTSP) : Follows s s := ⟨[], (List.append_nil s.trace).symm, rfl⟩

theorem Follows.trans {mid : SatipRTSP} (h : Follows s mid) (hnext : Follows mid next) :
    Follows s next := by
  obtain ⟨front, htrace, hfd⟩ := h
  obtain ⟨back, htrace', hfd'⟩ := hnext
  refine ⟨front ++ back, ?_, ?_⟩
  · rw [htrace', htrace, List.append_assoc]
  · rw [hfd', hfd, List.foldl_append]

theorem follows_resetConnect (now : Timespec) (autoReconnect : Bool) (s : SatipRTSP) :
    Follows s (resetConnect now autoReconnect s) := by
  rcases resetConnect_cases now autoReconnect s with ⟨heq, _⟩ | ⟨heq, _⟩
  · rw [heq]
    exact ⟨[.disconnected], rfl, rfl⟩
  · rw [heq]
    exact ⟨[.disconnected, .armed now (reconnectDelay s.reconnectAttempts)],
      List.append_assoc s.trace [.disconnected] [.armed now _], rfl⟩

/-- A reset of a state with the same socket. -/
theorem Follows.reset {mid : SatipRTSP} (h : Follows s mid) (now : Timespec)
    (autoReconnect : Bool) : Follows s (resetConnect now autoReconnect mid) :=
  h.trans (follows_resetConnect now autoReconnect mid)

theorem fd_attempt (s : SatipRTSP) : (attempt s).fd = s.fd := by
  unfold attempt
  split <;> rfl

/-- Every action but a connection that is made. -/
theorem follows_of_action (h : Action now s source next) :
    Follows s next ∨
      source = .status ∧ s.rtspStatus = .configWaiting ∧ s.config.status = .changed := by
  have hquiet (events : List Event) (htrace : next.trace = s.trace ++ events)
      (hnone : ∀ event ∈ events, fdAfter s.fd event = s.fd) (hfd : next.fd = s.fd) :
      Follows s next := by
    refine ⟨events, htrace, hfd.trans ?_⟩
    clear htrace
    induction events with
    | nil => rfl
    | cons event events ih =>
      obtain ⟨hevent, hevents⟩ := List.forall_mem_cons.mp hnone
      rw [List.foldl_cons, hevent]
      exact ih hevents
  cases h with
  | connect _ hrtsp hstatus => exact Or.inr ⟨rfl, hrtsp, hstatus⟩
  | vtuner call config =>
    refine Or.inl (hquiet call.events rfl (fun event hevent ↦ ?_) rfl)
    rcases VtunerCall.mem_events hevent with rfl | rfl <;> rfl
  | processTS => exact Or.inl (hquiet [] rfl (by simp) rfl)
  | cancel | keepAlive | settleResetConnect | settleKeepAlive | ready | buffer =>
    exact Or.inl (hquiet [] (List.append_nil _).symm (by simp) rfl)
  | send _ kind status text =>
    exact Or.inl (hquiet [.request (writtenRequest kind text s) true] rfl (by simp [fdAfter]) rfl)
  | lost _ kind status text =>
    have hlost : Follows s (afterLost kind text s) :=
      ⟨[.request (writtenRequest kind text s) false], rfl, rfl⟩
    exact Or.inl (hlost.reset now true)
  | refused =>
    have hsame : Follows s (stopTimerKeepAliveMessage s) := .refl s
    exact Or.inl (hsame.reset now true)
  | timeout | hangup => exact Or.inl (follows_resetConnect now true s)
  | expire =>
    refine Or.inl (hquiet [.expired now] ?_ (by simp [fdAfter]) ?_)
    · unfold afterExpired timeoutReconnect
      cases (record (.expired now) s).config.status <;> rfl
    · unfold afterExpired timeoutReconnect
      cases (record (.expired now) s).config.status <;> rfl
  | frame size after _ _ hafter =>
    obtain ⟨config, rfl, _⟩ := rtpTcpData_cases hafter
    exact Or.inl (hquiet [.frame ((received s).take size)] rfl (by simp [fdAfter]) rfl)
  | response size =>
    exact Or.inl (hquiet [.response (firstResponse size s)] rfl (by simp [fdAfter]) rfl)
  | badResponse size =>
    have hread : Follows s (record (.response (firstResponse size s)) (terminated s)) :=
      ⟨[.response (firstResponse size s)], rfl, rfl⟩
    exact Or.inl (hread.reset now true)
  | advance =>
    left
    unfold advance
    rw [if_pos rfl]
    cases s.rtspStatus with
    | sessionTeardowning => exact follows_resetConnect now false s
    | configWaiting | serverConnecting | sessionTransmitting | sessionEstablishing
    | sessionPlaying => exact .refl s

/-- The step calls `connectToServer`. -/
def Connects (s : SatipRTSP) : Op → Prop
  | .handleRTSPStatus _ _ _ => s.rtspStatus = .configWaiting ∧ s.config.status = .changed
  | _ => False

theorem handleRTSPStatus_of_connects {connect : Option ℕ} {sent : Bool}
    (h : Connects s (.handleRTSPStatus now connect sent)) :
    handleRTSPStatus now connect sent s = startConnect now connect s := by
  rw [handleRTSPStatus, h.1]
  dsimp only
  rw [h.2]

/-- Where no connection could be made, the socket is not touched. -/
theorem follows_startConnect (now : Timespec) (s : SatipRTSP) :
    Follows s (startConnect now none s) := by
  refine ⟨[.connectFailed, .armed now (reconnectDelay (attempt s).reconnectAttempts)], ?_,
    fd_attempt s⟩
  change ((attempt s).trace ++ [.connectFailed]) ++ [.armed now _] = _
  rw [trace_attempt, List.append_assoc]
  rfl

theorem trace_startConnect (now : Timespec) (fd : ℕ) (s : SatipRTSP) :
    (startConnect now (some fd) s).trace = s.trace ++ [.connected] := by
  change (attempt s).trace ++ [.connected] = _
  rw [trace_attempt]

/-- Every other step. -/
theorem follows_of_step {op : Op} (hnot : ¬Connects s op) (h : step s op = some next) :
    Follows s next := by
  have hother (hsource : .status ∉ op.sources) : Follows s next := by
    apply actions_invariant (Follows s) _ (actions_of_step h) (.refl s)
    intro mid source after hmem hmid haction
    refine hmid.trans ((follows_of_action haction).resolve_right fun hstatus ↦ hsource ?_)
    rw [← hstatus.1]
    exact hmem
  cases op with
  | handleRTSPStatus now connect sent =>
    obtain rfl := Option.some.inj h
    rcases action_of_handleRTSPStatus connect sent with heq | haction
    · rw [heq]
      exact .refl s
    · exact (follows_of_action haction).resolve_right fun hstatus ↦ hnot hstatus.2
  | handleNextTimer now sent => exact hother (by simp [Op.sources])
  | handlePollEvents now events recv =>
    apply hother
    change Source.status ∉
      if events.broken then ({Source.hangup} : Set Source) else {Source.receive, Source.completion}
    split_ifs <;> simp
  | vtuner call => exact hother (by simp [Op.sources])
  | processTS data => exact hother (by simp [Op.sources])

end SatipClient.RTSP
