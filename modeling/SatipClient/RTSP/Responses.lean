import Mathlib.Data.List.DropRight
import SatipClient.RTSP.State

/-!
# Responses

`handleResponse` and what is under it, and `handlePollEvents`.  The loop of `handleResponse`
looks at the front of the receive buffer: each `round` takes one interleaved frame or one
response off it and goes on, or stops with a result.  `none` is an access outside the receive
block or outside `session_id`.

The two variables that survive from one round to the next are the result so far and the status
code, which keeps its value when `sscanf` does not match.
-/

namespace SatipClient.RTSP

open CString (ascii ofBytes strstr strchr isspace strtol longToInt scanInt)
open Memory (load store moveDown)

/-- `$`, which starts an interleaved frame. -/
abbrev dollar : UInt8 := 36

/-- `\r\n\r\n` -/
abbrev blankLine : List UInt8 := [13, 10, 13, 10]

/-- The bytes that were received and not yet taken off the buffer. -/
def received (s : SatipRTSP) : List UInt8 := load s.rxData s.rxDataPos.toNat

/-- `rtpTcpData`, which always returns 0.  RTCP reports only change the signal values. -/
def rtpTcpData (data : List UInt8) (s : SatipRTSP) : Option SatipRTSP :=
  let s := record (.frame data) s
  if data.length ≤ 4 + 12 then some s
  else if data[1]? = some 0 then
    (Config.stepPsi (.processTS (data.drop (4 + 12))) s.config).map fun config ↦
      { s with config := config }
  else some s

/-- How a round of the loop in `handleResponse` ends. -/
inductive Round where
  | stop (res : Result) (s : SatipRTSP)
  | again (res : Result) (resCode : ℤ) (s : SatipRTSP)

/-- Take `size` bytes off the buffer. -/
def consume (size : ℕ) (s : SatipRTSP) : SatipRTSP :=
  { s with
    rxData := moveDown s.rxData size (s.rxDataPos.toNat - size)
    rxDataPos := s.rxDataPos - size }

/-- The length of the interleaved frame at the front of the buffer. -/
def frameSize (s : SatipRTSP) : ℕ := 4 + ((s.rxData 2).toNat <<< 8 ||| (s.rxData 3).toNat)

/-- The body of the `while` loop, where the buffer starts with `$`. -/
def frameRound (now : Timespec) (res : Result) (resCode : ℤ) (s : SatipRTSP) : Option Round :=
  if isTcpData s = false then some (.stop .error s)
  else if s.rxDataPos < 4 then some (.stop .ok s)
  else if s.rxDataPos < frameSize s then some (.stop .ok s)
  else
    (rtpTcpData (load s.rxData (frameSize s)) (startTimerResetConnect now 4000 s)).map fun next ↦
      .again res resCode (consume (frameSize s) next)

/-- The status code that `sscanf(text, "RTSP/%*s %d", ..)` finds. -/
def statusCode (text : List UInt8) : Option ℤ :=
  if ascii "RTSP/" <+: text then
    let word := (text.drop 5).dropWhile isspace
    if (word.takeWhile fun byte ↦ !isspace byte) = [] then none
    else scanInt (word.dropWhile fun byte ↦ !isspace byte)
  else none

/-- Where the value of a `Session` header starts: behind the colon and the blanks. -/
def sessionValue (text : List UInt8) : Option (List UInt8) :=
  ((strstr (ascii "Session") text).bind (strchr 58)).map fun ptr ↦ (ptr.drop 1).dropWhile isspace

/-- The session id at the front of that value: up to `;` or the end of the line, trimmed. -/
def trimSessionId (value : List UInt8) : List UInt8 :=
  (value.takeWhile fun byte ↦ byte ≠ 59 ∧ byte ≠ 10).rdropWhile isspace

/-- The number behind a name and a separator. -/
def numberBehind (name : String) (separator : UInt8) (text : List UInt8) : Option ℤ :=
  ((strstr (ascii name) text).bind (strchr separator)).map fun ptr ↦
    longToInt (strtol (ptr.drop 1))

/-- `handleResponseSetup`; the whole rest of the text is copied to the 1024 bytes of
`session_id`. -/
def handleResponseSetup (text : List UInt8) (s : SatipRTSP) : Option (Result × SatipRTSP) :=
  match sessionValue text with
  | none => some (.error, s)
  | some value =>
    if 1024 < value.length + 1 then none
    else
      let s :=
        { s with
          rtspSessionId := trimSessionId value
          rtspTimeout := (numberBehind "timeout" 61 text).getD s.rtspTimeout }
      match numberBehind "com.ses.streamID" 58 text with
      | none => some (.error, s)
      | some streamId => some (.responseComplete, { s with rtspStreamId := streamId })

/-- The `switch` over the outstanding request; without one the response is skipped. -/
def handleByRequest (text : List UInt8) (res : Result) (s : SatipRTSP) :
    Option (Result × SatipRTSP) :=
  match s.rtspRequest with
  | .none | .describe => some (res, s)
  | .option | .play | .teardown => some (.responseComplete, s)
  | .setup => handleResponseSetup text s

/-- Take the response to the outstanding request off the buffer. -/
def consumeResponse (size : ℕ) (s : SatipRTSP) : SatipRTSP :=
  { s with
    rxData := moveDown s.rxData size (s.rxDataPos.toNat - size)
    rxDataPos := s.rxDataPos - size
    rtspRequest := .none }

/-- The end of a round that took a response of `size` bytes: go on if there is more. -/
def complete (size : ℕ) (res : Result) (resCode : ℤ) (s : SatipRTSP) : Round :=
  if 0 < s.rxDataPos - size then .again res resCode (consumeResponse size s)
  else .stop res (consumeResponse size s)

/-- A response was received and none is waited for any more. -/
def answered (bytes : List UInt8) (s : SatipRTSP) : SatipRTSP :=
  record (.response bytes) { s with waitResponse := false }

/-- The part of the loop behind the blank line that ends a response of `size` bytes. -/
def responseRound (now : Timespec) (text : List UInt8) (size : ℕ) (res : Result) (resCode : ℤ)
    (s : SatipRTSP) : Option Round :=
  let s := answered (text.take size) s
  if s.rtspRequest = .describe then
    some (complete size .responseComplete resCode (stopTimerResetConnect s))
  else
    let resCode := (statusCode text).getD resCode
    if resCode ≠ 200 then some (.stop .error (resetConnect now true { s with rxDataPos := 0 }))
    else
      (handleByRequest text res s).map fun (res, s) ↦
        if res = .error then .stop res (resetConnect now true s)
        else if res = .responseComplete then
          complete size res resCode (stopTimerResetConnect s)
        else complete size res resCode s

/-- The length of the response at the front of a string: up to its first blank line. -/
def responseSize (text : List UInt8) : Option ℕ :=
  (strstr blankLine text).map fun found ↦ 4 + (text.length - found.length)

/-- The buffer with the terminating NUL behind the received bytes. -/
def terminated (s : SatipRTSP) : SatipRTSP :=
  { s with rxData := store s.rxData s.rxDataPos.toNat [0] }

/-- The part of the loop behind the `while`, where the buffer starts with text. -/
def textRound (now : Timespec) (res : Result) (resCode : ℤ) (s : SatipRTSP) : Option Round :=
  if s.rxDataPos < 0 ∨ s.rxDataLen ≤ s.rxDataPos then none
  else
    let text := ofBytes (received (terminated s))
    match responseSize text with
    | none => some (.stop .ok (terminated s))
    | some size => responseRound now text size res resCode (terminated s)

/-- One round of the loop in `handleResponse`. -/
def round (now : Timespec) (res : Result) (resCode : ℤ) (s : SatipRTSP) : Option Round :=
  if s.rxData 0 = dollar then frameRound now res resCode s else textRound now res resCode s

/-! ## Every round takes something off the buffer -/

theorem rxDataPos_rtpTcpData {data : List UInt8} {s next : SatipRTSP}
    (h : rtpTcpData data s = some next) : next.rxDataPos = s.rxDataPos := by
  simp only [rtpTcpData] at h
  split_ifs at h
  · rw [← Option.some.inj h]
    rfl
  · obtain ⟨config, _, rfl⟩ := Option.map_eq_some_iff.mp h
    rfl
  · rw [← Option.some.inj h]
    rfl

theorem four_le_of_responseSize {text : List UInt8} {size : ℕ} (h : responseSize text = some size) :
    4 ≤ size := by
  obtain ⟨found, _, rfl⟩ := Option.map_eq_some_iff.mp h
  exact Nat.le_add_right 4 _

/-- A frame is taken off the buffer when it is complete. -/
theorem frameRound_again {now : Timespec} {res res' : Result} {resCode resCode' : ℤ}
    {s next : SatipRTSP}
    (h : frameRound now res resCode s = some (.again res' resCode' next)) :
    res' = res ∧ resCode' = resCode ∧ isTcpData s = true ∧ (frameSize s : ℤ) ≤ s.rxDataPos ∧
      ∃ mid,
        rtpTcpData (load s.rxData (frameSize s)) (startTimerResetConnect now 4000 s) = some mid ∧
        next = consume (frameSize s) mid := by
  unfold frameRound at h
  split_ifs at h with hudp _ hshort
  · cases h
  · cases h
  · cases h
  · obtain ⟨mid, hmid, hnext⟩ := Option.map_eq_some_iff.mp h
    cases hnext
    exact ⟨rfl, rfl, by simpa using hudp, by omega, mid, hmid, rfl⟩

theorem complete_again {size : ℕ} {res res' : Result} {resCode resCode' : ℤ} {s next : SatipRTSP}
    (h : complete size res resCode s = .again res' resCode' next) :
    res' = res ∧ resCode' = resCode ∧ 0 < s.rxDataPos - size ∧ next = consumeResponse size s := by
  unfold complete at h
  split_ifs at h with hmore
  cases h
  exact ⟨rfl, rfl, hmore, rfl⟩

/-- The session as a SETUP response describes it. -/
def withSession (sessionId : List UInt8) (timeout streamId : ℤ) (s : SatipRTSP) : SatipRTSP :=
  { s with rtspSessionId := sessionId, rtspTimeout := timeout, rtspStreamId := streamId }

/-- `handleResponseSetup` changes what is known of the session, and only that. -/
theorem handleResponseSetup_cases {text : List UInt8} {res : Result} {s next : SatipRTSP}
    (h : handleResponseSetup text s = some (res, next)) :
    (res = .error ∨ res = .responseComplete) ∧
      ∃ sessionId timeout streamId, next = withSession sessionId timeout streamId s := by
  unfold handleResponseSetup at h
  split at h
  case h_1 =>
    cases h
    exact ⟨Or.inl rfl, s.rtspSessionId, s.rtspTimeout, s.rtspStreamId, rfl⟩
  case h_2 value _ =>
    split_ifs at h
    dsimp only at h
    split at h
    case h_1 =>
      cases h
      exact ⟨Or.inl rfl, _, _, s.rtspStreamId, rfl⟩
    case h_2 streamId _ =>
      cases h
      exact ⟨Or.inr rfl, _, _, streamId, rfl⟩

/-- The result of a response: it is skipped, or it is an error or complete. -/
theorem handleByRequest_cases {text : List UInt8} {res res' : Result} {s next : SatipRTSP}
    (h : handleByRequest text res s = some (res', next)) :
    (res' = res ∨ res' = .error ∨ res' = .responseComplete) ∧
      ∃ sessionId timeout streamId, next = withSession sessionId timeout streamId s := by
  have hsame : s = withSession s.rtspSessionId s.rtspTimeout s.rtspStreamId s := rfl
  unfold handleByRequest at h
  split at h
  case h_6 =>
    obtain ⟨hres, hnext⟩ := handleResponseSetup_cases h
    exact ⟨Or.inr hres, hnext⟩
  case h_1 | h_2 =>
    cases h
    exact ⟨Or.inl rfl, _, _, _, hsame⟩
  case h_3 | h_4 | h_5 =>
    cases h
    exact ⟨Or.inr (Or.inr rfl), _, _, _, hsame⟩

/-- Only SETUP looks at the response. -/
theorem fst_handleByRequest {text : List UInt8} {res res' : Result} {s next : SatipRTSP}
    (h : handleByRequest text res s = some (res', next)) (hsetup : s.rtspRequest ≠ .setup)
    (hnone : s.rtspRequest ≠ .none) (hdescribe : s.rtspRequest ≠ .describe) :
    res' = .responseComplete := by
  unfold handleByRequest at h
  split at h
  case h_1 hreq => exact absurd hreq hnone
  case h_2 hreq => exact absurd hreq hdescribe
  case h_6 hreq => exact absurd hreq hsetup
  all_goals
    cases h
    rfl

/-- The session that a response to SETUP describes: its id and its stream id. -/
def describedSession (text : List UInt8) : Option (List UInt8 × ℤ) :=
  match sessionValue text, numberBehind "com.ses.streamID" 58 text with
  | some value, some streamId => some (trimSessionId value, streamId)
  | _, _ => none

/-- The session after a response: SETUP describes it, the others leave it alone. -/
def SessionAfter (s : SatipRTSP) (text sessionId : List UInt8) (streamId : ℤ) : Prop :=
  if s.rtspRequest = .setup then describedSession text = some (sessionId, streamId)
  else sessionId = s.rtspSessionId ∧ streamId = s.rtspStreamId

theorem sessionAfter_of_ne {s : SatipRTSP} (h : s.rtspRequest ≠ .setup) (text : List UInt8) :
    SessionAfter s text s.rtspSessionId s.rtspStreamId := by
  rw [SessionAfter, if_neg h]
  exact ⟨rfl, rfl⟩

theorem sessionAfter_of_handleByRequest {text sessionId : List UInt8} {res : Result}
    {timeout streamId : ℤ} {s : SatipRTSP}
    (h : handleByRequest text res s =
      some (.responseComplete, withSession sessionId timeout streamId s)) :
    SessionAfter s text sessionId streamId := by
  have hsame {res' : Result}
      (heq : some (res', s) = some (.responseComplete, withSession sessionId timeout streamId s)) :
      sessionId = s.rtspSessionId ∧ streamId = s.rtspStreamId := by
    have hnext : s = withSession sessionId timeout streamId s :=
      congrArg Prod.snd (Option.some.inj heq)
    exact ⟨(congrArg SatipRTSP.rtspSessionId hnext).symm,
      (congrArg SatipRTSP.rtspStreamId hnext).symm⟩
  unfold handleByRequest at h
  cases hrequest : s.rtspRequest <;> rw [hrequest] at h
  case setup =>
    rw [SessionAfter, if_pos hrequest, describedSession]
    dsimp only at h
    unfold handleResponseSetup at h
    cases hvalue : sessionValue text with
    | none =>
      rw [hvalue] at h
      cases h
    | some value =>
      rw [hvalue] at h
      dsimp only at h
      split_ifs at h
      cases hstream : numberBehind "com.ses.streamID" 58 text with
      | none =>
        rw [hstream] at h
        cases h
      | some number =>
        rw [hstream] at h
        have hnext := congrArg Prod.snd (Option.some.inj h)
        have hid := congrArg SatipRTSP.rtspSessionId hnext
        have hnumber := congrArg SatipRTSP.rtspStreamId hnext
        exact congrArg some (Prod.ext hid hnumber)
  all_goals
    rw [SessionAfter, if_neg (by simp [hrequest])]
    exact hsame h

/-- What a response leads to, when the result so far is an error or complete, as it always is: a
reset, or a complete response is taken off the buffer and the watchdog stopped.  Only the response
to a DESCRIBE is accepted whatever its status code is, and a response that nothing was sent for
is accepted behind another one only. -/
theorem responseRound_cases {now : Timespec} {text : List UInt8} {size : ℕ} {res : Result}
    {resCode : ℤ} {s : SatipRTSP} {r : Round} (hres : res = .error ∨ res = .responseComplete)
    (h : responseRound now text size res resCode s = some r) :
    ∃ sessionId timeout streamId,
      (r = .stop .error
            (resetConnect now true (withSession sessionId timeout streamId
              (answered (text.take size) s))) ∧
          ((statusCode text).getD resCode ≠ 200 ∨ s.rtspRequest = .setup ∨
            s.rtspRequest = .none)) ∨
        ∃ resCode', r = complete size .responseComplete resCode'
            (stopTimerResetConnect (withSession sessionId timeout streamId
              (answered (text.take size) s))) ∧
          (s.rtspRequest = .describe ∨
            resCode' = 200 ∧ (statusCode text).getD resCode = 200) ∧
          (s.rtspRequest = .none → res = .responseComplete) ∧
          SessionAfter s text sessionId streamId := by
  unfold responseRound at h
  dsimp only at h
  have hsame : (answered (text.take size) s).rtspRequest = s.rtspRequest := rfl
  rw [hsame] at h
  split_ifs at h with hdescribe hcode
  · exact ⟨s.rtspSessionId, s.rtspTimeout, s.rtspStreamId,
      Or.inr ⟨resCode, (Option.some.inj h).symm, Or.inl hdescribe, by simp [hdescribe],
        sessionAfter_of_ne (by simp [hdescribe]) text⟩⟩
  · exact ⟨s.rtspSessionId, s.rtspTimeout, s.rtspStreamId,
      Or.inl ⟨(Option.some.inj h).symm, Or.inl hcode⟩⟩
  · have hok : (statusCode text).getD resCode = 200 := not_not.mp hcode
    obtain ⟨⟨res', mid⟩, hmid, hround⟩ := Option.map_eq_some_iff.mp h
    obtain ⟨hcases, sessionId, timeout, streamId, rfl⟩ := handleByRequest_cases hmid
    have hskipped (hnone : s.rtspRequest = .none) : res' = res := by
      have hnone' : (answered (text.take size) s).rtspRequest = .none := hnone
      rw [handleByRequest, hnone'] at hmid
      exact (congrArg Prod.fst (Option.some.inj hmid)).symm
    have hres' : res' = .error ∨ res' = .responseComplete := by
      rcases hcases with rfl | hother
      · exact hres
      · exact hother
    refine ⟨sessionId, timeout, streamId, ?_⟩
    rcases hres' with rfl | rfl
    · refine Or.inl ⟨hround.symm, Or.inr ?_⟩
      by_contra hother
      obtain ⟨hsetup, hnone⟩ := not_or.mp hother
      cases fst_handleByRequest hmid hsetup hnone hdescribe
    · have hsession : SessionAfter (answered (text.take size) s) text sessionId streamId :=
        sessionAfter_of_handleByRequest hmid
      exact Or.inr ⟨_, hround.symm, Or.inr ⟨hok, hok⟩, fun hnone ↦ (hskipped hnone).symm, hsession⟩

theorem rxDataPos_of_responseRound_again {now : Timespec} {text : List UInt8} {size : ℕ}
    {res res' : Result} {resCode resCode' : ℤ} {s next : SatipRTSP}
    (h : responseRound now text size res resCode s = some (.again res' resCode' next)) :
    next.rxDataPos = s.rxDataPos - size ∧ 0 < next.rxDataPos := by
  unfold responseRound at h
  dsimp only at h
  split_ifs at h
  · obtain ⟨_, _, hmore, rfl⟩ := complete_again (Option.some.inj h)
    exact ⟨rfl, hmore⟩
  · cases h
  · obtain ⟨⟨res'', mid⟩, hmid, hround⟩ := Option.map_eq_some_iff.mp h
    obtain ⟨_, sessionId, timeout, streamId, rfl⟩ := handleByRequest_cases hmid
    dsimp only at hround
    split_ifs at hround
    · obtain ⟨_, _, hmore, rfl⟩ := complete_again hround
      exact ⟨rfl, hmore⟩
    · obtain ⟨_, _, hmore, rfl⟩ := complete_again hround
      exact ⟨rfl, hmore⟩

theorem rxDataPos_lt_of_again {now : Timespec} {res res' : Result} {resCode resCode' : ℤ}
    {s next : SatipRTSP} (h : round now res resCode s = some (.again res' resCode' next)) :
    next.rxDataPos.toNat < s.rxDataPos.toNat := by
  unfold round at h
  split_ifs at h
  · obtain ⟨_, _, _, hsize, mid, hmid, rfl⟩ := frameRound_again h
    have hpos : mid.rxDataPos = (startTimerResetConnect now 4000 s).rxDataPos :=
      rxDataPos_rtpTcpData hmid
    have hsame : (startTimerResetConnect now 4000 s).rxDataPos = s.rxDataPos := rfl
    have hfour : 4 ≤ frameSize s := Nat.le_add_right 4 _
    change (mid.rxDataPos - frameSize s).toNat < s.rxDataPos.toNat
    rw [hpos, hsame]
    omega
  · unfold textRound at h
    split_ifs at h
    dsimp only at h
    split at h
    case h_1 => cases h
    case h_2 size hsize =>
      have hfour : 4 ≤ size := four_le_of_responseSize hsize
      obtain ⟨hpos, hmore⟩ := rxDataPos_of_responseRound_again h
      have hstart : (terminated s).rxDataPos = s.rxDataPos := rfl
      omega

/-! ## Receiving -/

/-- The loop of `handleResponse`. -/
def loop (now : Timespec) (res : Result) (resCode : ℤ) (s : SatipRTSP) :
    Option (Result × SatipRTSP) :=
  match _h : round now res resCode s with
  | none => none
  | some (.stop res' s') => some (res', s')
  | some (.again res' resCode' next) => loop now res' resCode' next
termination_by s.rxDataPos.toNat
decreasing_by exact rxDataPos_lt_of_again _h

/-- What `recv` finds: an error, or the bytes that are available; none are available when the
server closed the connection. -/
inductive Recv where
  | failure
  | bytes (available : List UInt8)

/-- The size of the buffer that is handed to `recv`. -/
def room (s : SatipRTSP) : ℤ := s.rxDataLen - s.rxDataPos - 1

/-- The state with another receive buffer. -/
def withBuffer (rxData : Memory.Block) (rxDataPos : ℤ) (s : SatipRTSP) : SatipRTSP :=
  { s with rxData := rxData, rxDataPos := rxDataPos }

/-- `handleResponse`; the result -1 of a failed `recv` is added to the position like a length. -/
def handleResponse (now : Timespec) (recv : Recv) (s : SatipRTSP) :
    Option (Result × SatipRTSP) :=
  if room s = 0 then some (.error, withBuffer s.rxData 0 s)
  else
    match recv with
    | .failure => loop now .error 0 (withBuffer s.rxData (s.rxDataPos - 1) s)
    | .bytes available =>
      let data := available.take (room s).toNat
      if data = [] then some (.error, s)
      else if s.rxDataPos < 0 then none
      else
        loop now .error 0
          (withBuffer (store s.rxData s.rxDataPos.toNat data) (s.rxDataPos + data.length) s)

/-- The events that `poll` reports for the socket; `broken` is any of `POLLHUP`, `POLLERR` and
`POLLNVAL`. -/
structure PollEvents where
  broken : Bool := false
  pollin : Bool := false
  pollout : Bool := false
  deriving DecidableEq

/-- What the case `status` of `handlePollEvents` does with the result of `handleResponse`. -/
def advance (now : Timespec) (status : RtspStatus) (res : Result) (s : SatipRTSP) : SatipRTSP :=
  if res = .responseComplete then
    match status with
    | .sessionEstablishing => { s with rtspStatus := .sessionPlaying }
    | .sessionPlaying => cancelReconnect { s with rtspStatus := .sessionTransmitting }
    | .sessionTeardowning => resetConnect now false s
    | .configWaiting | .serverConnecting | .sessionTransmitting => s
  else s

/-- Read responses, where the session status asks for it. -/
def readResponse (now : Timespec) (events : PollEvents) (recv : Recv) (s : SatipRTSP) :
    Option SatipRTSP :=
  if events.pollin then
    (handleResponse now recv s).map fun (res, next) ↦ advance now s.rtspStatus res next
  else some s

/-- The connection is made. -/
def startSession (s : SatipRTSP) : SatipRTSP :=
  { s with
    timerResetConnect := s.timerResetConnect.stop
    rtspStatus := .sessionEstablishing }

/-- `handlePollEvents` -/
def handlePollEvents (now : Timespec) (events : PollEvents) (recv : Recv) (s : SatipRTSP) :
    Option SatipRTSP :=
  if events.broken then some (resetConnect now true s)
  else
    match s.rtspStatus with
    | .configWaiting => some s
    | .serverConnecting => if events.pollout then some (startSession s) else some s
    | .sessionEstablishing | .sessionPlaying | .sessionTransmitting | .sessionTeardowning =>
      readResponse now events recv s

/-- The loop, one round unfolded. -/
theorem loop_eq (now : Timespec) (res : Result) (resCode : ℤ) (s : SatipRTSP) :
    loop now res resCode s = (round now res resCode s).bind fun
      | .stop res' s' => some (res', s')
      | .again res' resCode' next => loop now res' resCode' next := by
  rw [loop]
  split <;> simp_all

/-- A round goes on in a state that meets `Inv`, or stops with an outcome that meets `Final`. -/
def Round.Meets (Inv : Result → ℤ → SatipRTSP → Prop) (Final : Result → SatipRTSP → Prop) :
    Round → Prop
  | .stop res s => Final res s
  | .again res resCode s => Inv res resCode s

/-- What every round keeps, the loop keeps, and it stops as its last round stops. -/
theorem loop_invariant {now : Timespec} (Inv : Result → ℤ → SatipRTSP → Prop)
    (Final : Result → SatipRTSP → Prop)
    (hmeets : ∀ res resCode s r, Inv res resCode s → round now res resCode s = some r →
      r.Meets Inv Final)
    {res res' : Result} {resCode : ℤ} {s next : SatipRTSP} (hinv : Inv res resCode s)
    (h : loop now res resCode s = some (res', next)) : Final res' next := by
  induction res, resCode, s using loop.induct now with
  | case1 res resCode s hround =>
    rw [loop_eq, hround] at h
    cases h
  | case2 res resCode s res'' s'' hround =>
    rw [loop_eq, hround] at h
    cases h
    exact hmeets res resCode s _ hinv hround
  | case3 res resCode s res'' resCode'' mid hround ih =>
    rw [loop_eq, hround] at h
    exact ih (hmeets res resCode s _ hinv hround) h

end SatipClient.RTSP
