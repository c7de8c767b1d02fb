import SatipClient.RTSP.State

/-!
# Requests

The requests of `satipRTSP`, `sendRequest`, and `handleRTSPStatus`, which decides what to send.
Whether `connect` and `send` succeed is up to the environment.
-/

namespace SatipClient.RTSP

open Config (SatipConfig getSetupData getPlayData getPidStatus)
open CString (ascii)

/-- Hand the text of a request to `send`; `config` is what building it made of the
configuration. -/
def write (kind : RtspRequest) (config : SatipConfig) (text : List UInt8) (sent : Bool)
    (s : SatipRTSP) : Result × SatipRTSP :=
  (if sent then .ok else .error,
    record
      (.request
        { kind := kind
          cseq := s.rtspCseq
          sessionId := s.rtspSessionId
          streamId := s.rtspStreamId
          config := s.config
          text := text } sent)
      { s with config := config, rtspCseq := s.rtspCseq + 1 })

/-- `rtsp://host:port/` behind the name of a method. -/
def requestUrl (method : String) (s : SatipRTSP) : List UInt8 :=
  ascii (method ++ " rtsp://" ++ s.host ++ ":" ++ s.port ++ "/")

/-- The part of the url that names the stream. -/
def streamUrl (s : SatipRTSP) : List UInt8 := ascii ("stream=" ++ toString s.rtspStreamId)

/-- The end of the request line, and `CSeq`. -/
def cseqLines (s : SatipRTSP) : List UInt8 :=
  ascii (" RTSP/1.0\r\nCSeq: " ++ toString s.rtspCseq ++ "\r\n")

/-- The `Session` header. -/
def sessionLine (s : SatipRTSP) : List UInt8 :=
  ascii "Session: " ++ s.rtspSessionId ++ ascii "\r\n"

/-- The `Transport` header. -/
def transportLine (s : SatipRTSP) : List UInt8 :=
  if isTcpData s then ascii "Transport: RTP/AVP/TCP;interleaved=0-1\r\n"
  else
    ascii ("Transport: RTP/AVP;unicast;client_port=" ++ toString s.rtpPort ++ "-" ++
      toString (s.rtpPort + 1) ++ "\r\n")

/-- A stream id and a session id were received. -/
def HasSession (s : SatipRTSP) : Prop := s.rtspStreamId ≠ -1 ∧ s.rtspSessionId ≠ []

instance (s : SatipRTSP) : Decidable (HasSession s) := by unfold HasSession; infer_instance

/-- `sendSetup` -/
def sendSetup (sent : Bool) (s : SatipRTSP) : Result × SatipRTSP :=
  write .setup (getSetupData s.config).2
    (requestUrl "SETUP" s ++ (if s.rtspStreamId ≠ -1 then streamUrl s else []) ++
      ascii (getSetupData s.config).1 ++ cseqLines s ++
      (if s.rtspSessionId ≠ [] then sessionLine s else []) ++ transportLine s ++ ascii "\r\n")
    sent s

/-- `sendPlay` -/
def sendPlay (sent : Bool) (s : SatipRTSP) : Result × SatipRTSP :=
  if HasSession s then
    write .play (getPlayData s.config).2
      (requestUrl "PLAY" s ++ streamUrl s ++ ascii (getPlayData s.config).1 ++ cseqLines s ++
        sessionLine s ++ ascii "\r\n")
      sent s
  else (.error, s)

/-- `sendOption` -/
def sendOption (sent : Bool) (s : SatipRTSP) : Result × SatipRTSP :=
  if HasSession s then
    write .option s.config
      (requestUrl "OPTIONS" s ++ cseqLines s ++ sessionLine s ++ ascii "\r\n") sent s
  else (.error, s)

/-- `sendTearDown` -/
def sendTearDown (sent : Bool) (s : SatipRTSP) : Result × SatipRTSP :=
  if HasSession s then
    write .teardown s.config
      (requestUrl "TEARDOWN" s ++ streamUrl s ++ cseqLines s ++ sessionLine s ++ ascii "\r\n")
      sent s
  else (.error, s)

/-- `sendDescribe` -/
def sendDescribe (sent : Bool) (s : SatipRTSP) : Result × SatipRTSP :=
  write .describe s.config
    (requestUrl "DESCRIBE" s ++ (if s.rtspStreamId ≠ -1 then streamUrl s else []) ++ cseqLines s ++
      ascii "Accept: application/sdp\r\n\r\n")
    sent s

/-- The `switch` of `sendRequest`. -/
def sendKind (sent : Bool) (s : SatipRTSP) : RtspRequest → Result × SatipRTSP
  | .option => sendOption sent s
  | .setup => sendSetup sent s
  | .play => sendPlay sent s
  | .teardown => sendTearDown sent s
  | .describe => sendDescribe sent s
  | .none => (.error, s)

/-- The state after a request was sent: the server has four seconds to respond. -/
def awaitResponse (now : Timespec) (kind : RtspRequest) (s : SatipRTSP) : SatipRTSP :=
  startTimerResetConnect now 4000 { s with waitResponse := true, rtspRequest := kind }

/-- `sendRequest` -/
def sendRequest (now : Timespec) (kind : RtspRequest) (sent : Bool) (s : SatipRTSP) :
    Result × SatipRTSP :=
  if s.waitResponse then (.failed, s)
  else
    let (res, s) := sendKind sent (stopTimerKeepAliveMessage s) kind
    if res = .ok then (res, awaitResponse now kind s) else (res, resetConnect now true s)

/-- A new tune cancels any wait; its generation counts as attempted. -/
def attempt (s : SatipRTSP) : SatipRTSP :=
  let s := if s.attemptedGeneration < s.config.tuneGeneration then cancelReconnect s else s
  { s with attemptedGeneration := s.config.tuneGeneration }

/-- The case `CONFIG_WAITING` while the tuning is to be tried; `connect` is the socket, if
`connectToServer` succeeds. -/
def startConnect (now : Timespec) (connect : Option ℕ) (s : SatipRTSP) : SatipRTSP :=
  match connect with
  | some fd =>
    startTimerResetConnect now 5000
      (record .connected { attempt s with fd := some fd, rtspStatus := .serverConnecting })
  | none => retryLater now (record .connectFailed (attempt s))

/-- Send a request, and move on to `status` when it was sent. -/
def sendAndMove (now : Timespec) (kind : RtspRequest) (status : RtspStatus) (sent : Bool)
    (s : SatipRTSP) : SatipRTSP :=
  let (res, s) := sendRequest now kind sent s
  if res = .ok then { s with rtspStatus := status } else s

/-- The case `SESSION_TRANSMITTING` of `handleRTSPStatus`. -/
def maintainSession (now : Timespec) (sent : Bool) (s : SatipRTSP) : SatipRTSP :=
  if s.config.status = .changed ∨ getPidStatus s.config = .changed then
    sendAndMove now .play .sessionPlaying sent s
  else if s.config.status = .invalid then
    sendAndMove now .teardown .sessionTeardowning sent s
  else if s.timerKeepAlive.active then s
  else startTimerKeepAliveMessage now s

/-- `handleRTSPStatus` -/
def handleRTSPStatus (now : Timespec) (connect : Option ℕ) (sent : Bool) (s : SatipRTSP) :
    SatipRTSP :=
  match s.rtspStatus with
  | .configWaiting =>
    match s.config.status with
    | .invalid => cancelReconnect s
    | .changed => startConnect now connect s
    | .stable => s
  | .sessionEstablishing => (sendRequest now .setup sent s).2
  | .sessionPlaying => (sendRequest now .play sent s).2
  | .sessionTransmitting => maintainSession now sent s
  | .serverConnecting | .sessionTeardowning => s

/-! ## What sending does -/

/-- What building a request of this kind makes of the configuration. -/
def requestConfig (s : SatipRTSP) : RtspRequest → SatipConfig
  | .setup => (getSetupData s.config).2
  | .play => (getPlayData s.config).2
  | .none | .option | .teardown | .describe => s.config

/-- The query string of a request of this kind. -/
def requestQuery (s : SatipRTSP) : RtspRequest → String
  | .setup => (getSetupData s.config).1
  | .play => (getPlayData s.config).1
  | .none | .option | .teardown | .describe => ""

/-- The text of a request contains its query string. -/
def Carries (kind : RtspRequest) (s : SatipRTSP) (text : List UInt8) : Prop :=
  ∃ front back, text = front ++ ascii (requestQuery s kind) ++ back

variable (now : Timespec) (kind : RtspRequest) (sent : Bool) (s : SatipRTSP)

/-- The session that a request names was set up. -/
def SessionKnown (kind : RtspRequest) (s : SatipRTSP) : Prop :=
  kind = .setup ∨ kind = .describe ∨ HasSession s

/-- A request is written, or it needs a session and nothing happens. -/
theorem sendKind_cases :
    (∃ text, Carries kind s text ∧ SessionKnown kind s ∧
        sendKind sent s kind = write kind (requestConfig s kind) text sent s) ∨
      sendKind sent s kind = (.error, s) := by
  have hempty (text : List UInt8) (h : requestQuery s kind = "") : Carries kind s text :=
    ⟨text, [], by rw [h]; simp [ascii]⟩
  cases kind with
  | none => exact Or.inr rfl
  | describe => exact Or.inl ⟨_, hempty _ rfl, Or.inr (Or.inl rfl), rfl⟩
  | setup =>
    refine Or.inl ⟨_, ?_, Or.inl rfl, rfl⟩
    refine ⟨requestUrl "SETUP" s ++ (if s.rtspStreamId ≠ -1 then streamUrl s else []),
      cseqLines s ++ (if s.rtspSessionId ≠ [] then sessionLine s else []) ++ transportLine s ++
        ascii "\r\n", ?_⟩
    simp only [requestQuery, List.append_assoc]
  | option =>
    by_cases h : HasSession s
    · exact Or.inl ⟨_, hempty _ rfl, Or.inr (Or.inr h), if_pos h⟩
    · exact Or.inr (if_neg h)
  | play =>
    by_cases h : HasSession s
    · refine Or.inl ⟨_, ?_, Or.inr (Or.inr h), if_pos h⟩
      refine ⟨requestUrl "PLAY" s ++ streamUrl s, cseqLines s ++ sessionLine s ++ ascii "\r\n", ?_⟩
      simp only [requestQuery, List.append_assoc]
    · exact Or.inr (if_neg h)
  | teardown =>
    by_cases h : HasSession s
    · exact Or.inl ⟨_, hempty _ rfl, Or.inr (Or.inr h), if_pos h⟩
    · exact Or.inr (if_neg h)

/-- The state after the text of a request was handed to `send`. -/
def written (kind : RtspRequest) (text : List UInt8) (sent : Bool) (s : SatipRTSP) : SatipRTSP :=
  (write kind (requestConfig s kind) text sent s).2

/-- The request that is recorded then. -/
def writtenRequest (kind : RtspRequest) (text : List UInt8) (s : SatipRTSP) : Request where
  kind := kind
  cseq := s.rtspCseq
  sessionId := s.rtspSessionId
  streamId := s.rtspStreamId
  config := s.config
  text := text

/-- The outcomes of `sendRequest`. -/
inductive Sending (now : Timespec) (kind : RtspRequest) (s : SatipRTSP) :
    Result × SatipRTSP → Prop where
  | busy (hwait : s.waitResponse = true) : Sending now kind s (.failed, s)
  | sent (hwait : s.waitResponse = false) (text : List UInt8) (htext : Carries kind s text)
    (hsession : SessionKnown kind s) :
    Sending now kind s
      (.ok, awaitResponse now kind (written kind text true (stopTimerKeepAliveMessage s)))
  | lost (hwait : s.waitResponse = false) (text : List UInt8) (htext : Carries kind s text)
    (hsession : SessionKnown kind s) :
    Sending now kind s
      (.error,
        resetConnect now true (written kind text false (stopTimerKeepAliveMessage s)))
  | refused (hwait : s.waitResponse = false) :
    Sending now kind s (.error, resetConnect now true (stopTimerKeepAliveMessage s))

theorem sendRequest_sending : Sending now kind s (sendRequest now kind sent s) := by
  unfold sendRequest
  by_cases hwait : s.waitResponse = true
  · rw [if_pos hwait]
    exact .busy hwait
  · rw [if_neg hwait]
    have hidle : s.waitResponse = false := by simpa using hwait
    rcases sendKind_cases kind sent (stopTimerKeepAliveMessage s) with
      ⟨text, htext, hsession, heq⟩ | heq
    · rw [heq]
      cases sent with
      | true => exact .sent hidle text htext hsession
      | false => exact .lost hidle text htext hsession
    · rw [heq]
      exact .refused hidle

@[simp]
theorem rtspStatus_attempt : (attempt s).rtspStatus = s.rtspStatus := by
  unfold attempt
  split <;> rfl

@[simp]
theorem rtspRequest_attempt : (attempt s).rtspRequest = s.rtspRequest := by
  unfold attempt
  split <;> rfl

@[simp]
theorem waitResponse_attempt : (attempt s).waitResponse = s.waitResponse := by
  unfold attempt
  split <;> rfl

@[simp]
theorem config_attempt : (attempt s).config = s.config := by
  unfold attempt
  split <;> rfl

@[simp]
theorem rtspCseq_attempt : (attempt s).rtspCseq = s.rtspCseq := by
  unfold attempt
  split <;> rfl

@[simp]
theorem trace_attempt : (attempt s).trace = s.trace := by
  unfold attempt
  split <;> rfl

@[simp]
theorem timerKeepAlive_attempt : (attempt s).timerKeepAlive = s.timerKeepAlive := by
  unfold attempt
  split <;> rfl

/-- The outcomes of `sendAndMove`. -/
theorem sendAndMove_cases (status : RtspStatus) :
    (sendAndMove now kind status sent s = (sendRequest now kind sent s).2 ∧
        (sendRequest now kind sent s).1 ≠ .ok) ∨
      (sendAndMove now kind status sent s =
          { (sendRequest now kind sent s).2 with rtspStatus := status } ∧
        (sendRequest now kind sent s).1 = .ok) := by
  unfold sendAndMove
  by_cases hres : (sendRequest now kind sent s).1 = .ok
  · exact Or.inr ⟨if_pos hres, hres⟩
  · exact Or.inl ⟨if_neg hres, hres⟩

end SatipClient.RTSP
