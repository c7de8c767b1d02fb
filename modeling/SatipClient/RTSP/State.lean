import SatipClient.Config.State
import SatipClient.Foundation.CString
import SatipClient.Foundation.Memory
import SatipClient.Timer

/-!
# State of the RTSP client

The fields of `satipRTSP` with the `satipConfig` it works on, its timers, and `resetConnect`.
The receive block keeps whatever bytes it holds; `m_rx_data_pos` is a number of the block's
first bytes that were received, but nothing keeps it from becoming negative.

The record also carries a ghost `trace`: the tunes and releases of the tuner, the connections
made and dropped, the requests written, each with the configuration it was built from, the
responses read, the stream data handed to the RTP side, and how the reconnect timer is armed and
expires.
-/

namespace SatipClient.RTSP

open Config (SatipConfig)
open Memory (Block)

/-- `RTSP_STATUS_*` -/
inductive RtspStatus where
  | configWaiting
  | serverConnecting
  | sessionEstablishing
  | sessionPlaying
  | sessionTransmitting
  | sessionTeardowning
  deriving DecidableEq

/-- `RTSP_REQUEST_*` -/
inductive RtspRequest where
  | none
  | option
  | setup
  | play
  | teardown
  | describe
  deriving DecidableEq

/-- `RTSP_FAILED` and the other results. -/
inductive Result where
  | failed
  | ok
  | error
  | responseComplete
  deriving DecidableEq

/-- A request that was handed to `send`. -/
structure Request where
  kind : RtspRequest
  cseq : ℕ
  sessionId : List UInt8
  streamId : ℤ
  /-- the configuration it was built from -/
  config : SatipConfig
  text : List UInt8

/-- A recorded event. -/
inductive Event where
  | channelChanged
  /-- `setVoltage` switched the tuner off -/
  | released
  | connected
  /-- `connectToServer` failed -/
  | connectFailed
  | disconnected
  | request (r : Request) (sent : Bool)
  /-- a response, up to its blank line -/
  | response (bytes : List UInt8)
  | frame (bytes : List UInt8)
  /-- `m_timer_reconnect` was started -/
  | armed (now : Timespec) (delay : ℕ)
  /-- `m_timer_reconnect` expired -/
  | expired (now : Timespec)

/-- The fields of `satipRTSP`. -/
structure SatipRTSP where
  host : String
  port : String
  /-- `m_rtp->get_rtp_port()` -/
  rtpPort : ℤ
  config : SatipConfig
  timerResetConnect : TimerElem := {}
  timerKeepAlive : TimerElem := {}
  timerReconnect : TimerElem := {}
  reconnectAttempts : ℕ := 0
  attemptedGeneration : ℕ := 0
  fd : Option ℕ := none
  rxData : Block
  rxDataLen : ℕ
  rxDataPos : ℤ := 0
  rtspStatus : RtspStatus := .configWaiting
  rtspRequest : RtspRequest := .none
  rtspSessionId : List UInt8 := []
  rtspStreamId : ℤ := -1
  rtspTimeout : ℤ := 60
  rtspCseq : ℕ := 1
  waitResponse : Bool := false
  trace : List Event := []

/-- `isTcpData` -/
def isTcpData (s : SatipRTSP) : Bool := s.config.settings.tcpdata

/-- Record an event. -/
def record (event : Event) (s : SatipRTSP) : SatipRTSP := { s with trace := s.trace ++ [event] }

/-- The state with another configuration, and with the events of the call that changed it. -/
def withConfig (config : SatipConfig) (events : List Event) (s : SatipRTSP) : SatipRTSP :=
  { s with config := config, trace := s.trace ++ events }

/-! ## Timers -/

/-- `startTimerResetConnect` -/
def startTimerResetConnect (now : Timespec) (timeout : ℤ) (s : SatipRTSP) : SatipRTSP :=
  { s with timerResetConnect := .start now timeout true }

/-- `stopTimerResetConnect` -/
def stopTimerResetConnect (s : SatipRTSP) : SatipRTSP :=
  { s with timerResetConnect := s.timerResetConnect.stop }

/-- `startTimerKeepAliveMessage`, the delay being computed as an `int`. -/
def startTimerKeepAliveMessage (now : Timespec) (s : SatipRTSP) : SatipRTSP :=
  { s with
    timerKeepAlive := .start now (((s.rtspTimeout - 5) * 1000).bmod (2 ^ 32)) true }

/-- `stopTimerKeepAliveMessage` -/
def stopTimerKeepAliveMessage (s : SatipRTSP) : SatipRTSP :=
  { s with timerKeepAlive := s.timerKeepAlive.stop }

/-- The delay of `startTimerReconnect`, which doubles up to half a minute. -/
def reconnectDelay (attempts : ℕ) : ℕ := min (1000 <<< attempts) 30000

/-- `startTimerReconnect` -/
def startTimerReconnect (now : Timespec) (s : SatipRTSP) : SatipRTSP :=
  record (.armed now (reconnectDelay s.reconnectAttempts))
    { s with
      timerReconnect := .start now (reconnectDelay s.reconnectAttempts) true
      reconnectAttempts :=
        if reconnectDelay s.reconnectAttempts < 30000 then s.reconnectAttempts + 1
        else s.reconnectAttempts }

/-- `stopTimerReconnect` -/
def stopTimerReconnect (s : SatipRTSP) : SatipRTSP :=
  { s with timerReconnect := s.timerReconnect.stop }

/-- `resetReconnectBackoff` -/
def resetReconnectBackoff (s : SatipRTSP) : SatipRTSP := { s with reconnectAttempts := 0 }

/-! ## Dropping the connection -/

/-- The first part of `resetConnect`: everything that belongs to the connection is forgotten. -/
def dropConnection (s : SatipRTSP) : SatipRTSP :=
  record .disconnected
    { s with
      rtspStatus := .configWaiting
      rtspRequest := .none
      rtspCseq := 1
      rtspSessionId := []
      rtspStreamId := -1
      rtspTimeout := 60
      rxDataPos := 0
      waitResponse := false
      fd := none
      timerResetConnect := s.timerResetConnect.stop
      timerKeepAlive := s.timerKeepAlive.stop }

/-- No retry is scheduled and the next one is not delayed. -/
def cancelReconnect (s : SatipRTSP) : SatipRTSP := resetReconnectBackoff (stopTimerReconnect s)

/-- There is a tune for which no connection was attempted yet. -/
def Unattempted (s : SatipRTSP) : Prop :=
  s.config.status = .changed ∧ s.attemptedGeneration < s.config.tuneGeneration

instance (s : SatipRTSP) : Decidable (Unattempted s) := by unfold Unattempted; infer_instance

/-- `clearChannelChanged` and `startTimerReconnect`: the retained tuning is tried again later. -/
def retryLater (now : Timespec) (s : SatipRTSP) : SatipRTSP :=
  startTimerReconnect now { s with config := Config.clearChannelChanged s.config }

/-- `resetConnect` -/
def resetConnect (now : Timespec) (autoReconnect : Bool) (s : SatipRTSP) : SatipRTSP :=
  let s := dropConnection s
  if autoReconnect = false ∨ s.config.status = .invalid then cancelReconnect s
  else if Unattempted s then cancelReconnect s
  else retryLater now s

/-- The constructor.  Whatever `block` holds is what the receive buffer was allocated with. -/
def construct (host port : String) (rtpPort : ℤ) (config : SatipConfig) (block : Block)
    (now : Timespec) : SatipRTSP :=
  resetConnect now false
    { host := host
      port := port
      rtpPort := rtpPort
      config := config
      rxData := block
      rxDataLen := if config.settings.tcpdata then 256 * 1024 else 2048 }

/-! ## What `resetConnect` leaves behind -/

section resetConnect

variable (now : Timespec) (autoReconnect : Bool) (s : SatipRTSP)

/-- The three ways in which `resetConnect` ends. -/
theorem resetConnect_cases :
    (resetConnect now autoReconnect s = cancelReconnect (dropConnection s) ∧
        (autoReconnect = false ∨ s.config.status = .invalid ∨ Unattempted s)) ∨
      (resetConnect now autoReconnect s = retryLater now (dropConnection s) ∧
        autoReconnect = true ∧ s.config.status ≠ .invalid ∧ ¬Unattempted s) := by
  unfold resetConnect
  by_cases hcancel : autoReconnect = false ∨ (dropConnection s).config.status = .invalid
  · left
    refine ⟨if_pos hcancel, ?_⟩
    exact hcancel.imp_right Or.inl
  · have hauto : autoReconnect = true := by simpa using (not_or.mp hcancel).1
    by_cases hnew : Unattempted (dropConnection s)
    · left
      refine ⟨(if_neg hcancel).trans (if_pos hnew), ?_⟩
      exact Or.inr (Or.inr hnew)
    · right
      exact ⟨(if_neg hcancel).trans (if_neg hnew), hauto, (not_or.mp hcancel).2, hnew⟩

@[simp]
theorem rtspStatus_resetConnect :
    (resetConnect now autoReconnect s).rtspStatus = .configWaiting := by
  rcases resetConnect_cases now autoReconnect s with ⟨h, _⟩ | ⟨h, _⟩ <;> rw [h] <;> rfl

@[simp]
theorem waitResponse_resetConnect : (resetConnect now autoReconnect s).waitResponse = false := by
  rcases resetConnect_cases now autoReconnect s with ⟨h, _⟩ | ⟨h, _⟩ <;> rw [h] <;> rfl

@[simp]
theorem timerKeepAlive_resetConnect :
    (resetConnect now autoReconnect s).timerKeepAlive = s.timerKeepAlive.stop := by
  rcases resetConnect_cases now autoReconnect s with ⟨h, _⟩ | ⟨h, _⟩ <;> rw [h] <;> rfl

end resetConnect

end SatipClient.RTSP
