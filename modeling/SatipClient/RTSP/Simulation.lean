import SatipClient.Config.Safety
import SatipClient.RTSP.Actions

/-!
# The session drives the configuration

Whatever the session does, its configuration moves by operations of `satipConfig` only.  The
configuration of a reachable session is therefore a reachable configuration, and all that was
proved of those holds of it.
-/

namespace SatipClient.RTSP

variable {s next : SatipRTSP} {now : Timespec} {source : Source}

theorem config_resetConnect (autoReconnect : Bool) :
    Runs.Reachable Config.step s.config (resetConnect now autoReconnect s).config := by
  rcases resetConnect_cases now autoReconnect s with ⟨heq, _⟩ | ⟨heq, _⟩
  · rw [heq]
    exact .refl Config.step s.config
  · rw [heq]
    exact ⟨[.clearChannelChanged], rfl⟩

theorem config_written (kind : RtspRequest) (text : List UInt8) (sent : Bool) :
    Runs.Reachable Config.step s.config
      (written kind text sent (stopTimerKeepAliveMessage s)).config := by
  cases kind with
  | setup => exact ⟨[.getSetupData], rfl⟩
  | play => exact ⟨[.getPlayData], rfl⟩
  | none | option | teardown | describe => exact .refl Config.step s.config

theorem config_rtpTcpData {data : List UInt8} (h : rtpTcpData data s = some next) :
    Runs.Reachable Config.step s.config next.config := by
  unfold rtpTcpData at h
  dsimp only at h
  split_ifs at h
  · obtain rfl := Option.some.inj h
    exact .refl Config.step s.config
  · obtain ⟨config, hconfig, rfl⟩ := Option.map_eq_some_iff.mp h
    have hstep : Config.step s.config (.psi (.processTS (data.drop (4 + 12)))) = some config :=
      hconfig
    exact .single hstep
  · obtain rfl := Option.some.inj h
    exact .refl Config.step s.config

/-- Every action is a run of the configuration. -/
theorem config_of_action (h : Action now s source next) :
    Runs.Reachable Config.step s.config next.config := by
  have hsame : Runs.Reachable Config.step s.config s.config := .refl Config.step s.config
  cases h with
  | vtuner call config hconfig => exact .single hconfig
  | processTS op config hconfig =>
    have hstep : Config.step s.config (.psi op) = some config := hconfig
    exact .single hstep
  | connect connect =>
    cases connect with
    | some fd =>
      change Runs.Reachable Config.step s.config (attempt s).config
      rw [config_attempt]
      exact hsame
    | none =>
      change Runs.Reachable Config.step s.config
        (Config.clearChannelChanged (attempt s).config)
      rw [config_attempt]
      exact ⟨[.clearChannelChanged], rfl⟩
  | send source kind status text => exact config_written kind text true
  | lost source kind status text =>
    exact (config_written kind text false).trans (config_resetConnect true)
  | refused => exact config_resetConnect (s := stopTimerKeepAliveMessage s) true
  | timeout | hangup => exact config_resetConnect true
  | expire =>
    unfold afterExpired timeoutReconnect
    cases (record (.expired now) s).config.status with
    | invalid | changed => exact hsame
    | stable => exact ⟨[.setChannelRetry], rfl⟩
  | frame size after _ _ hafter =>
    have hconfig : Runs.Reachable Config.step s.config after.config :=
      config_rtpTcpData (s := startTimerResetConnect now 4000 s) hafter
    exact hconfig
  | badResponse size =>
    exact config_resetConnect (s := record (.response (firstResponse size s)) (terminated s)) true
  | advance =>
    unfold advance
    rw [if_pos rfl]
    split
    · exact hsame
    · exact hsame
    · exact config_resetConnect false
    · exact hsame
    · exact hsame
    · exact hsame
  | cancel | keepAlive | settleResetConnect | settleKeepAlive | ready | buffer | response =>
    exact hsame

/-- The configuration of a session is a configuration that its own operations lead to. -/
theorem Reachable.config (h : Reachable s) : Config.Reachable s.config := by
  refine Reachable.of_actions (fun s ↦ Config.Reachable s.config) ?_ ?_ h
  · rintro now s source next ⟨feType, settings, hreach⟩ haction
    exact ⟨feType, settings, hreach.trans (config_of_action haction)⟩
  · intro args
    refine ⟨args.feType, args.settings, ?_⟩
    have hreset (init : SatipRTSP) : Runs.Reachable Config.step init.config
        (resetConnect args.now false init).config := config_resetConnect false
    exact hreset
      { host := args.host
        port := args.port
        rtpPort := args.rtpPort
        config := Config.construct args.feType args.settings
        rxData := args.block
        rxDataLen := _ }

/-- The size of the receive block, which depends on the data mode. -/
def bufferSize (tcp : Bool) : ℕ := if tcp then 256 * 1024 else 2048

theorem rxDataLen_resetConnect (autoReconnect : Bool) :
    (resetConnect now autoReconnect s).rxDataLen = s.rxDataLen := by
  rcases resetConnect_cases now autoReconnect s with ⟨heq, _⟩ | ⟨heq, _⟩ <;> rw [heq] <;> rfl

theorem rxDataLen_of_action (h : Action now s source next) : next.rxDataLen = s.rxDataLen := by
  cases h with
  | connect connect =>
    have hattempt : (attempt s).rxDataLen = s.rxDataLen := by
      unfold attempt
      split <;> rfl
    cases connect with
    | some fd => exact hattempt
    | none => exact hattempt
  | lost source kind status text => exact rxDataLen_resetConnect true
  | refused => exact rxDataLen_resetConnect true
  | timeout | hangup | badResponse => exact rxDataLen_resetConnect true
  | expire =>
    unfold afterExpired timeoutReconnect
    split <;> rfl
  | frame size after _ _ hafter =>
    obtain ⟨config, rfl, _⟩ := rtpTcpData_cases hafter
    rfl
  | advance =>
    unfold advance
    rw [if_pos rfl]
    split
    · rfl
    · rfl
    · exact rxDataLen_resetConnect false
    · rfl
    · rfl
    · rfl
  | _ => rfl

theorem isTcpData_of_action (h : Action now s source next) : isTcpData next = isTcpData s := by
  have hsettings : next.config.settings = s.config.settings :=
    Config.settings_of_reachable (config_of_action h)
  exact congrArg Config.Settings.tcpdata hsettings

theorem Reachable.rxDataLen (h : Reachable s) : s.rxDataLen = bufferSize (isTcpData s) := by
  refine Reachable.of_actions (fun s ↦ s.rxDataLen = bufferSize (isTcpData s)) ?_ ?_ h
  · intro now s source next hs haction
    rw [rxDataLen_of_action haction, isTcpData_of_action haction, hs]
  · intro args
    rfl

/-- The parser of a session does not fault. -/
theorem Reachable.psiOk (h : Reachable s) : Config.PsiOk s.config := h.config.psiOk

end SatipClient.RTSP
