import SatipClient.Foundation.History
import SatipClient.RTSP.Status
import SatipClient.RTSP.Tuned

/-!
# Opening a session

A SETUP that names no stream opens a session, and should do so for a tuned frontend only.
`setups_tuned` proves it for the runs in which no step is `Untuned`: there the tuner was released
while the client was connecting, or a SETUP response gave -1 as its stream and did not end the
wait for it.  What carries the proof is that the tuning is still to be taken up until the first
SETUP of a connection, unless the tuner is released.
-/

namespace SatipClient.RTSP

open Config (Channel)
open CString (ascii)
open History (Each)

/-- The last tune was not followed by a release. -/
def InTune (history : List Event) : Prop :=
  ∃ front back, history = front ++ .channelChanged :: back ∧ Event.released ∉ back

theorem InTune.append {history more : List Event} (h : InTune history)
    (hmore : Event.released ∉ more) : InTune (history ++ more) := by
  obtain ⟨front, back, rfl, hback⟩ := h
  refine ⟨front, back ++ more, by simp, ?_⟩
  simp [hback, hmore]

theorem not_inTune_of_released (history : List Event) : ¬InTune (history ++ [.released]) := by
  rintro ⟨front, back, hhistory, hback⟩
  have hlast : (.channelChanged :: back).getLast? = some .released := by
    have hsame := congrArg List.getLast? hhistory
    rw [List.getLast?_append_of_ne_nil _ (by simp)] at hsame
    simpa using hsame.symm
  rcases List.mem_cons.mp (List.mem_of_getLast? hlast) with hsame | hmem
  · cases hsame
  · exact hback hmem

/-! ## The tuner is tuned since its last release -/

namespace Reconnect

variable {r : Reconnect}

theorem status_take (c : Channel) : c.take.status = .invalid ↔ c.status = .invalid := by
  unfold Channel.take
  split_ifs with hchanged
  · simp [hchanged]
  · exact Iff.rfl

theorem status_reset (now : Timespec) (r : Reconnect) :
    (r.reset now).channel.status = .invalid ↔ r.channel.status = .invalid := by
  unfold reset
  split_ifs
  · exact Iff.rfl
  · exact status_take r.channel

theorem history_reset (now : Timespec) (r : Reconnect) :
    ∃ more, (r.reset now).history = r.history ++ more ∧ Event.released ∉ more := by
  unfold reset
  split_ifs
  · exact ⟨[.disconnected], rfl, by simp⟩
  · refine ⟨[.disconnected, .armed now (reconnectDelay r.attempts)], ?_, by simp⟩
    exact List.append_assoc r.history [.disconnected] [.armed now _]

theorem status_expire (now : Timespec) (r : Reconnect) :
    (r.expire now).channel.status = .invalid ↔ r.channel.status = .invalid := by
  change (r.note (.expired now)).wake.channel.status = .invalid ↔ _
  unfold wake
  have hsame : (r.note (.expired now)).channel = r.channel := rfl
  cases hstatus : (r.note (.expired now)).channel.status with
  | invalid | changed => exact hsame ▸ Iff.rfl
  | stable =>
    rw [hsame] at hstatus
    simp [hstatus, Channel.retry]

/-- Only a tune ends a release, and only a release is recorded as one. -/
theorem perform_inTune {move : Move} (henabled : r.Enabled move)
    (h : r.channel.status ≠ .invalid → InTune r.history) :
    (r.perform move).channel.status ≠ .invalid → InTune (r.perform move).history := by
  have hkeep (more : List Event) (hadds : (r.perform move).history = r.history ++ more)
      (hmore : Event.released ∉ more) (hstatus : (r.perform move).channel.status = .invalid ↔
        r.channel.status = .invalid) :
      (r.perform move).channel.status ≠ .invalid → InTune (r.perform move).history := by
    intro hvalid
    rw [hadds]
    exact (h fun hinvalid ↦ hvalid (hstatus.mpr hinvalid)).append hmore
  cases move with
  | note event =>
    have hplain : Event.released ∉ [event] := by
      intro hreleased
      obtain rfl : Event.released = event := List.mem_singleton.mp hreleased
      exact henabled
    exact hkeep [event] rfl hplain Iff.rfl
  | tune => exact fun _ ↦ ⟨r.history, [], rfl, by simp⟩
  | release => exact fun hvalid ↦ absurd rfl hvalid
  | take => exact hkeep [] (List.append_nil _).symm (by simp) (status_take r.channel)
  | connect =>
    apply hkeep [.connected]
    · change r.attempt.history ++ _ = _
      rw [history_attempt]
    · simp
    · change r.attempt.channel.status = .invalid ↔ _
      rw [channel_attempt]
  | fail now =>
    apply hkeep [.connectFailed, .armed now (reconnectDelay r.attempt.attempts)]
    · change (r.attempt.history ++ [.connectFailed]) ++ [_] = _
      rw [history_attempt, List.append_assoc]
      rfl
    · simp
    · change r.attempt.channel.take.status = .invalid ↔ _
      rw [channel_attempt]
      exact status_take r.channel
  | lose now | stray now =>
    obtain ⟨more, hadds, hmore⟩ := history_reset now r
    exact hkeep more hadds hmore (status_reset now r)
  | close => exact hkeep [.disconnected] rfl (by simp) Iff.rfl
  | cancel | complete | leave => exact hkeep [] (List.append_nil _).symm (by simp) Iff.rfl
  | expire now => exact hkeep [.expired now] (history_expire now r) (by simp) (status_expire now r)

end Reconnect

/-! ## The session -/

variable {s next : SatipRTSP} {now : Timespec} {source : Source}

/-- A SETUP that opens a session contains tuning data, and the tuner is tuned. -/
def Opened (front : List Event) (event : Event) : Prop :=
  ∀ r sent, event = .request r sent → r.kind = .setup → r.streamId = -1 → r.Tunes ∧ InTune front

theorem opened_of_quiet {event : Event} (h : event.request? = none) (front : List Event) :
    Opened front event := by
  rintro r sent rfl
  cases h

/-- Up to the first SETUP of a connection the tuning is not taken up, and the SETUPs so far were
in order. -/
structure OpeningOk (s : SatipRTSP) : Prop where
  session : SessionOk s
  retry : (reconnect s).Ok
  tuned : s.config.status ≠ .invalid → InTune s.trace
  positive : 0 < s.rtspCseq
  connecting : s.rtspStatus = .serverConnecting ∨
    (s.rtspStatus = .sessionEstablishing ∧ s.rtspCseq = 1) → s.config.status ≠ .stable
  opened : Each Opened s.trace

/-- A SETUP would be sent for a frontend that is not tuned: the tuner was released, or a SETUP was
answered with a stream id of -1. -/
def OpensUntuned (s : SatipRTSP) : Prop :=
  s.rtspStatus = .sessionEstablishing ∧ s.waitResponse = false ∧ s.rtspStreamId = -1 ∧
    (s.config.status = .invalid ∨ (s.rtspCseq ≠ 1 ∧ s.config.status ≠ .changed))

instance (s : SatipRTSP) : Decidable (OpensUntuned s) := by unfold OpensUntuned; infer_instance

/-- The step that opens a session for a frontend that is not tuned. -/
def Untuned (s : SatipRTSP) : Op → Prop
  | .handleRTSPStatus _ _ _ => OpensUntuned s
  | .handleNextTimer _ _ | .handlePollEvents _ _ _ | .vtuner _ | .processTS _ => False

instance (s : SatipRTSP) : DecidablePred (Untuned s)
  | .handleRTSPStatus .. => inferInstanceAs (Decidable (OpensUntuned s))
  | .handlePollEvents .. | .handleNextTimer .. | .vtuner _ | .processTS _ =>
    inferInstanceAs (Decidable False)

/-- Without such a step, the tuning goes into the SETUP that opens a session. -/
theorem OpeningOk.changed (h : OpeningOk s) (hfine : ¬OpensUntuned s)
    (hrtsp : s.rtspStatus = .sessionEstablishing) (hwait : s.waitResponse = false)
    (hstream : s.rtspStreamId = -1) : s.config.status = .changed := by
  by_contra hother
  cases hstatus : s.config.status with
  | changed => exact hother hstatus
  | invalid => exact hfine ⟨hrtsp, hwait, hstream, Or.inl hstatus⟩
  | stable =>
    by_cases hfirst : s.rtspCseq = 1
    · exact h.connecting (Or.inr ⟨hrtsp, hfirst⟩) hstatus
    · exact hfine ⟨hrtsp, hwait, hstream, Or.inr ⟨hfirst, hother⟩⟩

theorem OpeningOk.opened_action (h : OpeningOk s) (hfine : source = .status → ¬OpensUntuned s)
    (haction : Action now s source next) : Each Opened next.trace := by
  obtain ⟨events, htrace, hadds⟩ := adds_of_action haction
  rw [htrace]
  cases hadds with
  | quiet _ hquiet => exact h.opened.append fun event hevent ↦ opened_of_quiet (hquiet event hevent)
  | request kind status text sent events hsends hwait htext _ hquiet =>
    have hrequest : Opened s.trace (.request (writtenRequest kind text s) sent) := by
      rintro r sent' hsame hkind hstream
      obtain ⟨rfl, rfl⟩ := Event.request.inj hsame
      obtain rfl : kind = .setup := hkind
      cases hsends with
      | setup hrtsp =>
        have hchanged : s.config.status = .changed := h.changed (hfine rfl) hrtsp hwait hstream
        obtain ⟨more, hquery⟩ := exists_requestQuery s (Or.inl rfl)
        obtain ⟨front, back, rfl⟩ := htext
        refine ⟨⟨Or.inl rfl, hchanged, more, front, back, ?_⟩, h.tuned (by simp [hchanged])⟩
        exact congrArg (fun query ↦ front ++ ascii query ++ back) hquery
    have hopened :
        Each Opened ((s.trace ++ [.request (writtenRequest kind text s) sent]) ++ events) :=
      (h.opened.snoc hrequest).append fun event hevent ↦ opened_of_quiet (hquiet event hevent)
    rwa [List.append_assoc] at hopened

theorem rtspCseq_resetConnect (autoReconnect : Bool) :
    (resetConnect now autoReconnect s).rtspCseq = 1 := by
  rcases resetConnect_cases now autoReconnect s with ⟨heq, _⟩ | ⟨heq, _⟩ <;> rw [heq] <;> rfl

/-- A call of the vtuner device does not take the tuning up. -/
theorem stable_of_vtuner {call : VtunerCall} {config : Config.SatipConfig}
    (h : Config.step s.config call.op = some config) (hstable : config.status = .stable) :
    s.config.status = .stable := by
  have hchannel : Config.channel config = call.op.onChannel (Config.channel s.config) :=
    Config.channel_step h
  have hstatus : (call.op.onChannel (Config.channel s.config)).status = .stable := by
    rw [← hchannel]
    exact hstable
  cases call with
  | updatePidList | clearProperty | setParam => exact hstatus
  | setChannelChanged => cases hstatus
  | setVoltage voltage =>
    change (if Config.Releases voltage then _ else _ : Channel).status = _ at hstatus
    split_ifs at hstatus
    · cases hstatus
    · exact hstatus

/-- While the client connects, the tuning is not taken up. -/
def Connecting (s : SatipRTSP) : Prop :=
  0 < s.rtspCseq ∧ (s.rtspStatus = .serverConnecting ∨
    (s.rtspStatus = .sessionEstablishing ∧ s.rtspCseq = 1) → s.config.status ≠ .stable)

theorem connecting_resetConnect (now : Timespec) (autoReconnect : Bool) (s : SatipRTSP) :
    Connecting (resetConnect now autoReconnect s) := by
  unfold Connecting
  rw [rtspCseq_resetConnect, rtspStatus_resetConnect]
  exact ⟨Nat.one_pos, by simp⟩

/-- In other statuses nothing is said of the tuning. -/
theorem connecting_of_ne (hcseq : 0 < s.rtspCseq) (hconnecting : s.rtspStatus ≠ .serverConnecting)
    (hestablishing : s.rtspStatus ≠ .sessionEstablishing) : Connecting s :=
  ⟨hcseq, by simp [hconnecting, hestablishing]⟩

/-- A connection is only begun with a tune that is not taken up yet. -/
theorem connecting_startConnect (hpositive : 0 < s.rtspCseq)
    (hrtsp : s.rtspStatus = .configWaiting) (hchanged : s.config.status = .changed)
    (connect : Option ℕ) : Connecting (startConnect now connect s) := by
  have hcseq : 0 < (attempt s).rtspCseq := by
    rw [rtspCseq_attempt]
    exact hpositive
  cases connect with
  | some fd =>
    refine ⟨hcseq, fun _ ↦ ?_⟩
    change (attempt s).config.status ≠ .stable
    rw [config_attempt, hchanged]
    nofun
  | none =>
    have hidle : (startConnect now none s).rtspStatus = .configWaiting := by
      change (attempt s).rtspStatus = .configWaiting
      rw [rtspStatus_attempt, hrtsp]
    exact connecting_of_ne hcseq (by simp [hidle]) (by simp [hidle])

theorem connecting_afterExpired (hpositive : 0 < s.rtspCseq)
    (hidle : s.rtspStatus = .configWaiting) : Connecting (afterExpired now s) := by
  have hkeeps : (afterExpired now s).rtspCseq = s.rtspCseq ∧
      (afterExpired now s).rtspStatus = s.rtspStatus := by
    unfold afterExpired timeoutReconnect
    cases (record (.expired now) s).config.status <;> exact ⟨rfl, rfl⟩
  apply connecting_of_ne
  · rw [hkeeps.1]
    exact hpositive
  · simp [hkeeps.2, hidle]
  · simp [hkeeps.2, hidle]

theorem OpeningOk.connecting_action (h : OpeningOk s) (haction : Action now s source next) :
    Connecting next := by
  have hsame (hcseq : next.rtspCseq = s.rtspCseq) (hrtsp : next.rtspStatus = s.rtspStatus)
      (hstatus : next.config.status = .stable → s.config.status = .stable) : Connecting next := by
    unfold Connecting
    rw [hcseq, hrtsp]
    exact ⟨h.positive, fun hconnecting hstable ↦ h.connecting hconnecting (hstatus hstable)⟩
  cases haction with
  | vtuner call config hconfig => exact hsame rfl rfl (stable_of_vtuner hconfig)
  | processTS op config hconfig =>
    have hstep : Config.step s.config (.psi op) = some config := hconfig
    have hchannel : Config.channel config = Config.channel s.config := Config.channel_step hstep
    exact hsame rfl rfl fun hstable ↦ (congrArg Channel.status hchannel).symm.trans hstable
  | cancel | keepAlive | settleResetConnect | settleKeepAlive | buffer | response =>
    exact hsame rfl rfl id
  | connect connect hrtsp hchanged =>
    exact connecting_startConnect h.positive hrtsp hchanged connect
  | send _ kind status text hsends =>
    refine ⟨Nat.succ_pos s.rtspCseq, ?_⟩
    rintro (hconnecting | ⟨_, hfirst⟩)
    · have hstatus : status = .serverConnecting := hconnecting
      have hawaits : Awaits status kind := (h.session.sends hsends).2.2
      rw [hstatus] at hawaits
      cases hawaits
    · have hzero : s.rtspCseq + 1 = 1 := hfirst
      have hpositive : 0 < s.rtspCseq := h.positive
      omega
  | lost => exact connecting_resetConnect now true _
  | refused => exact connecting_resetConnect now true _
  | timeout | hangup => exact connecting_resetConnect now true s
  | badResponse => exact connecting_resetConnect now true _
  | expire hactive =>
    have hidle : s.rtspStatus = .configWaiting := phase_eq_idle.mp (h.retry.idle hactive)
    exact connecting_afterExpired h.positive hidle
  | ready hrtsp => exact ⟨h.positive, fun _ ↦ h.connecting (Or.inl hrtsp)⟩
  | frame size after _ _ hafter =>
    obtain ⟨config, rfl, hstatus, _⟩ := rtpTcpData_cases hafter
    exact hsame rfl rfl fun hstable ↦ hstatus.symm.trans hstable
  | advance =>
    unfold advance
    rw [if_pos rfl]
    cases hrtsp : s.rtspStatus with
    | configWaiting | serverConnecting | sessionTransmitting =>
      exact ⟨h.positive, h.connecting⟩
    | sessionTeardowning => exact connecting_resetConnect now false s
    | sessionEstablishing | sessionPlaying => exact connecting_of_ne h.positive nofun nofun

theorem OpeningOk.action (h : OpeningOk s) (hfine : source = .status → ¬OpensUntuned s)
    (haction : Action now s source next) : OpeningOk next := by
  obtain ⟨moves, hmoves, _⟩ := drives_of_action h.session haction
  have htuned : next.config.status ≠ .invalid → InTune next.trace :=
    Reconnect.Moves.invariant (fun r ↦ r.channel.status ≠ .invalid → InTune r.history)
      (fun _ ↦ True) (fun _ _ hr _ henabled ↦ Reconnect.perform_inTune henabled hr) hmoves
      (fun _ _ ↦ trivial) h.tuned
  obtain ⟨hpositive, hconnecting⟩ := h.connecting_action haction
  exact ⟨h.session.action haction, h.retry.moves hmoves, htuned, hpositive, hconnecting,
    h.opened_action hfine haction⟩

theorem OpeningOk.step {op : Op} (h : OpeningOk s) (hfine : ¬Untuned s op)
    (hnext : step s op = some next) : OpeningOk next := by
  have hactions : Actions op.time op.sources s next := actions_of_step hnext
  have hother (hsources : ∀ source ∈ op.sources, source ≠ .status) : OpeningOk next := by
    refine actions_invariant OpeningOk ?_ hactions h
    intro mid source after hsource hmid haction
    exact hmid.action (fun hstatus ↦ absurd hstatus (hsources source hsource)) haction
  cases op with
  | handleRTSPStatus now connect sent =>
    obtain rfl := Option.some.inj hnext
    rcases action_of_handleRTSPStatus connect sent with heq | haction
    · rw [heq]
      exact h
    · exact h.action (fun _ ↦ hfine) haction
  | handleNextTimer now sent =>
    apply hother
    rintro source (rfl | rfl) <;> nofun
  | handlePollEvents now events recv =>
    apply hother
    intro source hsource
    change source ∈ (if events.broken then ({.hangup} : Set Source)
      else {.receive, .completion}) at hsource
    split_ifs at hsource
    · rw [Set.mem_singleton_iff.mp hsource]
      nofun
    · rcases hsource with rfl | rfl <;> nofun
  | vtuner call =>
    apply hother
    rintro source rfl
    nofun
  | processTS data =>
    apply hother
    rintro source rfl
    nofun

theorem openingOk_start (args : SessionArgs) : OpeningOk args.start := by
  have hsession : Reachable args.start := ⟨args, .refl step args.start⟩
  obtain ⟨hpositive, hconnecting⟩ := connecting_resetConnect args.now false _
  refine ⟨hsession.sessionOk, hsession.reconnectOk, ?_, hpositive, hconnecting, ?_⟩
  · intro hvalid
    have hstatus : (Config.channel (Config.construct args.feType args.settings)).status ≠
        .invalid := hvalid
    rw [Config.channel_construct] at hstatus
    exact absurd rfl hstatus
  · have hdisconnected : Each Opened [.disconnected] :=
      History.each_nil.snoc (opened_of_quiet rfl [])
    exact hdisconnected

/-- The tuner is released while the client connects. -/
def releasedRun : List Op :=
  [.vtuner .setChannelChanged, .handleRTSPStatus {} (some 3) true, .vtuner (.setVoltage 2),
    .handlePollEvents {} { pollout := true } (.bytes []), .handleRTSPStatus {} none true]

/-- A SETUP response that names -1 as the stream, and a byte behind it. -/
def unnamedResponse : List UInt8 :=
  ascii "RTSP/1.0 200 OK\r\nSession: 1\r\ncom.ses.streamID: -1\r\n\r\nR"

/-- The client receives it in answer to its SETUP. -/
def unnamedRun : List Op :=
  setupRun ++ [.handlePollEvents {} { pollin := true } (.bytes unnamedResponse),
    .handleRTSPStatus {} none true]

end SatipClient.RTSP
