import SatipClient.Foundation.Runs
import SatipClient.RTSP.Requests
import SatipClient.RTSP.Responses

/-!
# The session

The steps of `satipSession`: what its main loop calls, what the messages of the vtuner device
call, and the stream data that the RTP thread hands to the parser.  The steps may come in any
order, and whatever the environment decides (sockets, data, events, times) is a parameter of the
step.
-/

namespace SatipClient.RTSP

/-! ## Timer handlers -/

/-- `timeoutConnect` -/
def timeoutConnect (now : Timespec) (s : SatipRTSP) : SatipRTSP := resetConnect now true s

/-- `timeoutKeepAlive` -/
def timeoutKeepAlive (now : Timespec) (sent : Bool) (s : SatipRTSP) : SatipRTSP :=
  (sendRequest now .option sent s).2

/-- `timeoutReconnect`: the retained tuning is tried again, unless the tuner was released or
tuned while the retry was pending. -/
def timeoutReconnect (s : SatipRTSP) : SatipRTSP :=
  match s.config.status with
  | .invalid | .changed => resetReconnectBackoff s
  | .stable => { s with config := Config.setChannelRetry s.config }

/-- The timer `m_timer_reset_connect`. -/
def slotResetConnect (now : Timespec) : Timer.Slot SatipRTSP where
  get := SatipRTSP.timerResetConnect
  set timer s := { s with timerResetConnect := timer }
  handler := timeoutConnect now

/-- The timer `m_timer_keep_alive`. -/
def slotKeepAlive (now : Timespec) (sent : Bool) : Timer.Slot SatipRTSP where
  get := SatipRTSP.timerKeepAlive
  set timer s := { s with timerKeepAlive := timer }
  handler := timeoutKeepAlive now sent

/-- The timer `m_timer_reconnect`. -/
def slotReconnect (now : Timespec) : Timer.Slot SatipRTSP where
  get := SatipRTSP.timerReconnect
  set timer s := { s with timerReconnect := timer }
  handler s := timeoutReconnect (record (.expired now) s)

/-- `handleNextTimer`; the timers are in the order in which they were created. -/
def handleNextTimer (now : Timespec) (sent : Bool) (s : SatipRTSP) : SatipRTSP :=
  Timer.callNextTimer now [slotResetConnect now, slotKeepAlive now sent, slotReconnect now] s

/-- What each timer keeps when it expires, `handleNextTimer` keeps. -/
theorem handleNextTimer_rule {Inv : SatipRTSP → Prop} {now : Timespec} {sent : Bool}
    (hreset : ∀ s, Inv s → Inv { timeoutConnect now s with
      timerResetConnect := (timeoutConnect now s).timerResetConnect.afterCall now })
    (hkeep : ∀ s, Inv s → s.timerKeepAlive.active = true → Inv { timeoutKeepAlive now sent s with
      timerKeepAlive := (timeoutKeepAlive now sent s).timerKeepAlive.afterCall now })
    (hretry : ∀ s, Inv s → Inv { timeoutReconnect (record (.expired now) s) with
      timerReconnect :=
        (timeoutReconnect (record (.expired now) s)).timerReconnect.afterCall now })
    {s : SatipRTSP} (h : Inv s) : Inv (handleNextTimer now sent s) := by
  apply Timer.callNextTimer_invariant _ h
  intro slot hslot s hs
  rcases Timer.callIfDue_cases now s slot with heq | ⟨hactive, heq⟩
  · rw [heq]
    exact hs
  rw [heq]
  simp only [List.mem_cons, List.not_mem_nil, or_false] at hslot
  rcases hslot with rfl | rfl | rfl
  · exact hreset s hs
  · exact hkeep s hs hactive
  · exact hretry s hs

/-- `getPollEvent`: the events that `poll` is asked for. -/
def getPollEvent (s : SatipRTSP) : PollEvents :=
  match s.rtspStatus with
  | .configWaiting => if isTcpData s then { broken := true, pollin := true } else {}
  | .serverConnecting => { broken := true, pollout := true }
  | .sessionEstablishing | .sessionPlaying | .sessionTeardowning =>
    { broken := true, pollin := true }
  | .sessionTransmitting =>
    if s.rtspRequest = .option ∨ isTcpData s = true then { broken := true, pollin := true } else {}

/-! ## Steps -/

/-- The calls that `satipVtuner` makes of the configuration. -/
inductive VtunerCall where
  | updatePidList (new : List UInt16)
  | clearProperty
  | setVoltage (voltage : ℤ)
  | setParam (param : Config.Param)
  | setChannelChanged

/-- The operation of the configuration that is called. -/
def VtunerCall.op : VtunerCall → Config.Op
  | updatePidList new => .updatePidList new
  | clearProperty => .clearProperty
  | setVoltage voltage => .setVoltage voltage
  | setParam param => .setParam param
  | setChannelChanged => .setChannelChanged

/-- The events to record for a call. -/
def VtunerCall.events : VtunerCall → List Event
  | setChannelChanged => [.channelChanged]
  | setVoltage voltage =>
    if voltage = Config.secVoltage13 ∨ voltage = Config.secVoltage18 then [] else [.released]
  | _ => []

/-- The events of a call are tunes and releases. -/
theorem VtunerCall.mem_events {call : VtunerCall} {event : Event} (h : event ∈ call.events) :
    event = .channelChanged ∨ event = .released := by
  cases call with
  | setVoltage voltage =>
    simp only [VtunerCall.events] at h
    split_ifs at h
    · cases h
    · exact Or.inr (List.mem_singleton.mp h)
  | setChannelChanged => exact Or.inl (List.mem_singleton.mp h)
  | updatePidList | clearProperty | setParam => cases h

/-- The configuration is operated on from outside. -/
def configStep (op : Config.Op) (events : List Event) (s : SatipRTSP) : Option SatipRTSP :=
  (Config.step s.config op).map fun config ↦ withConfig config events s

/-- The steps. -/
inductive Op where
  | handleRTSPStatus (now : Timespec) (connect : Option ℕ) (sent : Bool)
  | handleNextTimer (now : Timespec) (sent : Bool)
  | handlePollEvents (now : Timespec) (events : PollEvents) (recv : Recv)
  | vtuner (call : VtunerCall)
  /-- stream data received by the RTP thread -/
  | processTS (data : List UInt8)

/-- Perform one step. -/
def step (s : SatipRTSP) : Op → Option SatipRTSP
  | .handleRTSPStatus now connect sent => some (handleRTSPStatus now connect sent s)
  | .handleNextTimer now sent => some (handleNextTimer now sent s)
  | .handlePollEvents now events recv => handlePollEvents now events recv s
  | .vtuner call => configStep call.op call.events s
  | .processTS data => configStep (.psi (.processTS data)) [] s

/-- What a session is created with. -/
structure SessionArgs where
  host : String
  port : String
  rtpPort : ℤ
  feType : ℤ
  settings : Config.Settings
  /-- the contents of the receive buffer as it was allocated -/
  block : Memory.Block
  now : Timespec

/-- The state in which the session starts. -/
def SessionArgs.start (args : SessionArgs) : SatipRTSP :=
  construct args.host args.port args.rtpPort (Config.construct args.feType args.settings)
    args.block args.now

/-- A session of a satellite tuner without TCP data. -/
def udpArgs : SessionArgs where
  host := "server"
  port := "554"
  rtpPort := 45000
  feType := Config.feTypeSat
  settings := {}
  block := fun _ ↦ 0
  now := {}

/-- A session of a satellite tuner in TCP data mode. -/
def tcpArgs : SessionArgs where
  host := "server"
  port := "554"
  rtpPort := -1
  feType := Config.feTypeSat
  settings := { tcpdata := true }
  block := fun _ ↦ 0
  now := {}

/-- The tuner is tuned, a connection is made and SETUP is sent. -/
def setupRun : List Op :=
  [.vtuner .setChannelChanged, .handleRTSPStatus {} (some 3) true,
    .handlePollEvents {} { pollout := true } (.bytes []), .handleRTSPStatus {} none true]

/-- The states of all sessions. -/
def Reachable (s : SatipRTSP) : Prop := ∃ args : SessionArgs, Runs.Reachable step args.start s

end SatipClient.RTSP
