import SatipClient.Config.Requested
import SatipClient.RTSP.Responses

/-!
# The received bytes as messages

What the server sends is a sequence of interleaved frames and responses.  `firstMessage` is the
complete message at the front of some bytes, and the three lemmas `round_of_none`,
`round_of_frame` and `round_of_response` say that a round of the loop in `handleResponse` does
what the first message of the received bytes asks for.
-/

namespace SatipClient.RTSP

open CString (ofBytes)
open Memory (load store moveDown)

/-- A complete message and its length. -/
inductive Message where
  | frame (size : ℕ)
  | response (size : ℕ)
  deriving DecidableEq

/-- The length of the interleaved frame that starts with these bytes. -/
def frameLength (bytes : List UInt8) : ℕ :=
  4 + ((bytes.getD 2 0).toNat <<< 8 ||| (bytes.getD 3 0).toNat)

/-- The complete message at the front; without TCP data there are no frames. -/
def firstMessage (tcp : Bool) (bytes : List UInt8) : Option Message :=
  if bytes.head? = some dollar then
    if tcp = true ∧ 4 ≤ bytes.length ∧ frameLength bytes ≤ bytes.length then
      some (.frame (frameLength bytes))
    else none
  else (responseSize (ofBytes bytes)).map .response

theorem firstMessage_eq_frame_iff {tcp : Bool} {bytes : List UInt8} {size : ℕ} :
    firstMessage tcp bytes = some (.frame size) ↔
      bytes.head? = some dollar ∧ tcp = true ∧ 4 ≤ bytes.length ∧ frameLength bytes = size ∧
        size ≤ bytes.length := by
  unfold firstMessage
  split_ifs with hdollar hframe
  · rw [Option.some_inj, Message.frame.injEq]
    constructor
    · rintro rfl
      exact ⟨hdollar, hframe.1, hframe.2.1, rfl, hframe.2.2⟩
    · rintro ⟨_, _, _, hsize, _⟩
      exact hsize
  · simp only [false_iff]
    rintro ⟨_, htcp, hfour, rfl, hle⟩
    exact hframe ⟨htcp, hfour, hle⟩
  · simp [hdollar]

theorem firstMessage_eq_response_iff {tcp : Bool} {bytes : List UInt8} {size : ℕ} :
    firstMessage tcp bytes = some (.response size) ↔
      bytes.head? ≠ some dollar ∧ responseSize (ofBytes bytes) = some size := by
  unfold firstMessage
  split_ifs with hdollar hframe
  · simp [hdollar]
  · simp [hdollar]
  · simp [hdollar]

theorem responseSize_le {text : List UInt8} {size : ℕ} (h : responseSize text = some size) :
    size ≤ text.length := by
  obtain ⟨found, hfound, rfl⟩ := Option.map_eq_some_iff.mp h
  have hfour : 4 ≤ found.length := (CString.strstr_starts hfound).length_le
  have hle : found.length ≤ text.length := (CString.strstr_isSuffix hfound).length_le
  omega

theorem length_ofBytes_le (bytes : List UInt8) : (ofBytes bytes).length ≤ bytes.length :=
  (List.takeWhile_prefix _).length_le

/-- A complete message is not empty and lies within the bytes. -/
theorem firstMessage_bounds {tcp : Bool} {bytes : List UInt8} {size : ℕ}
    (h : firstMessage tcp bytes = some (.frame size) ∨
      firstMessage tcp bytes = some (.response size)) : 4 ≤ size ∧ size ≤ bytes.length := by
  rcases h with hframe | hresponse
  · obtain ⟨_, _, _, rfl, hle⟩ := firstMessage_eq_frame_iff.mp hframe
    exact ⟨Nat.le_add_right 4 _, hle⟩
  · have hsize := (firstMessage_eq_response_iff.mp hresponse).2
    exact ⟨four_le_of_responseSize hsize, (responseSize_le hsize).trans (length_ofBytes_le bytes)⟩

/-! ## The receive buffer -/

@[simp]
theorem length_received (s : SatipRTSP) : (received s).length = s.rxDataPos.toNat :=
  Memory.length_load _ _

@[simp]
theorem received_terminated (s : SatipRTSP) : received (terminated s) = received s :=
  Memory.load_store_of_le _ le_rfl _

/-- Taking the first bytes off the buffer. -/
theorem load_taken (s : SatipRTSP) {size : ℕ} (h : (size : ℤ) ≤ s.rxDataPos) :
    load (moveDown s.rxData size (s.rxDataPos.toNat - size)) (s.rxDataPos - size).toNat =
      (received s).drop size := by
  obtain ⟨rest, hrest⟩ := Nat.exists_eq_add_of_le (show size ≤ s.rxDataPos.toNat by omega)
  have hleft : (s.rxDataPos - size).toNat = s.rxDataPos.toNat - size := by omega
  rw [hleft, hrest, Nat.add_sub_cancel_left, Memory.load_moveDown, received, hrest]

theorem received_consume {s : SatipRTSP} {size : ℕ} (h : (size : ℤ) ≤ s.rxDataPos) :
    received (consume size s) = (received s).drop size := load_taken s h

theorem received_consumeResponse {s : SatipRTSP} {size : ℕ} (h : (size : ℤ) ≤ s.rxDataPos) :
    received (consumeResponse size s) = (received s).drop size := load_taken s h

theorem take_received {s : SatipRTSP} {size : ℕ} (h : (size : ℤ) ≤ s.rxDataPos) :
    (received s).take size = load s.rxData size :=
  Memory.take_load _ (by omega)

/-- Behind the received bytes, the first byte of the buffer is the first one received. -/
theorem head?_received {s : SatipRTSP} (h : 0 < s.rxDataPos) :
    (received s).head? = some (s.rxData 0) := by
  rw [List.head?_eq_getElem?]
  exact Memory.getElem?_load _ (by omega)

theorem frameLength_received {s : SatipRTSP} (h : 4 ≤ s.rxDataPos) :
    frameLength (received s) = frameSize s := by
  have hbyte (index : ℕ) (hindex : index < 4) : (received s).getD index 0 = s.rxData index := by
    rw [List.getD_eq_getElem?_getD, received, Memory.getElem?_load _ (by omega)]
    rfl
  rw [frameLength, frameSize, hbyte 2 (by omega), hbyte 3 (by omega)]

theorem head?_received_ne {s : SatipRTSP} (h : s.rxData 0 ≠ dollar) :
    (received s).head? ≠ some dollar := by
  by_cases hpos : 0 < s.rxDataPos
  · rw [head?_received hpos]
    simpa using h
  · have hempty : (received s).length = 0 := by
      rw [length_received]
      omega
    rw [List.length_eq_zero_iff.mp hempty]
    simp

/-- A frame that is there in full is the message at the front. -/
theorem firstMessage_of_dollar {s : SatipRTSP} (hdollar : s.rxData 0 = dollar)
    (htcp : ¬ isTcpData s = false) (hfour : ¬ s.rxDataPos < 4)
    (hfits : ¬ s.rxDataPos < frameSize s) :
    firstMessage (isTcpData s) (received s) = some (.frame (frameSize s)) := by
  have hhead : (received s).head? = some dollar := by
    rw [head?_received (by omega), hdollar]
  apply firstMessage_eq_frame_iff.mpr
  rw [length_received, frameLength_received (by omega)]
  exact ⟨hhead, by simpa using htcp, by omega, rfl, by omega⟩

/-- Without a frame at the front, a message that is not there yet is a response. -/
theorem responseSize_of_none {s : SatipRTSP} (hdollar : s.rxData 0 ≠ dollar)
    (h : firstMessage (isTcpData s) (received s) = none) :
    responseSize (ofBytes (received s)) = none := by
  rw [firstMessage, if_neg (head?_received_ne hdollar)] at h
  simpa using h

/-! ## The rounds -/

section round

variable (now : Timespec) (res : Result) (resCode : ℤ) {s : SatipRTSP}

/-- Without a complete message the loop stops and waits for more. -/
theorem round_of_none (h : firstMessage (isTcpData s) (received s) = none) {r : Round}
    (hround : round now res resCode s = some r) :
    ∃ res' s', r = .stop res' s' ∧ (s' = s ∨ s' = terminated s) ∧
      (res' = .ok ∨ res' = .error ∧ isTcpData s = false) := by
  unfold round at hround
  split_ifs at hround with hdollar
  · unfold frameRound at hround
    split_ifs at hround with hudp hfour hshort
    · exact ⟨.error, s, (Option.some.inj hround).symm, Or.inl rfl, Or.inr ⟨rfl, hudp⟩⟩
    · exact ⟨.ok, s, (Option.some.inj hround).symm, Or.inl rfl, Or.inl rfl⟩
    · exact ⟨.ok, s, (Option.some.inj hround).symm, Or.inl rfl, Or.inl rfl⟩
    · rw [firstMessage_of_dollar hdollar hudp hfour hshort] at h
      cases h
  · unfold textRound at hround
    dsimp only at hround
    rw [received_terminated, responseSize_of_none hdollar h] at hround
    split_ifs at hround
    exact ⟨.ok, terminated s, (Option.some.inj hround).symm, Or.inr rfl, Or.inl rfl⟩

/-- Within the buffer, the loop then stops without a fault. -/
theorem exists_round_of_none (h : firstMessage (isTcpData s) (received s) = none)
    (hpos : 0 ≤ s.rxDataPos) (hlen : s.rxDataPos < s.rxDataLen) :
    ∃ r, round now res resCode s = some r := by
  unfold round
  by_cases hdollar : s.rxData 0 = dollar
  · rw [if_pos hdollar]
    unfold frameRound
    split_ifs with hudp hfour hshort
    · exact ⟨_, rfl⟩
    · exact ⟨_, rfl⟩
    · exact ⟨_, rfl⟩
    · rw [firstMessage_of_dollar hdollar hudp hfour hshort] at h
      cases h
  · rw [if_neg hdollar, textRound, if_neg (by omega)]
    dsimp only
    rw [received_terminated, responseSize_of_none hdollar h]
    exact ⟨_, rfl⟩

/-- A complete frame is handed to the RTP side, which restarts the watchdog. -/
theorem round_of_frame {size : ℕ}
    (h : firstMessage (isTcpData s) (received s) = some (.frame size)) :
    round now res resCode s =
      (rtpTcpData ((received s).take size) (startTimerResetConnect now 4000 s)).map fun next ↦
        .again res resCode (consume size next) := by
  obtain ⟨hhead, htcp, hfour, hsize, hle⟩ := firstMessage_eq_frame_iff.mp h
  rw [length_received] at hfour hle
  have hpos : 4 ≤ s.rxDataPos := by omega
  have hdollar : s.rxData 0 = dollar := by
    rw [head?_received (by omega)] at hhead
    exact Option.some.inj hhead
  rw [frameLength_received hpos] at hsize
  have hudp : ¬isTcpData s = false := by simp [htcp]
  rw [round, if_pos hdollar, frameRound, if_neg hudp, if_neg (by omega), if_neg (by omega), hsize,
    take_received (by omega)]

/-- A complete response is handled. -/
theorem round_of_response {size : ℕ}
    (h : firstMessage (isTcpData s) (received s) = some (.response size)) :
    round now res resCode s =
      if (s.rxDataLen : ℤ) ≤ s.rxDataPos then none
      else responseRound now (ofBytes (received s)) size res resCode (terminated s) := by
  obtain ⟨hhead, hsize⟩ := firstMessage_eq_response_iff.mp h
  have hle : 4 ≤ s.rxDataPos.toNat := by
    have hbounds := firstMessage_bounds (Or.inr h)
    rw [length_received] at hbounds
    omega
  have hdollar : s.rxData 0 ≠ dollar := by
    rw [head?_received (by omega)] at hhead
    simpa using hhead
  rw [round, if_neg hdollar, textRound]
  dsimp only
  rw [received_terminated, hsize]
  have hnonneg : ¬s.rxDataPos < 0 := by omega
  simp only [hnonneg, false_or]

/-- A reset forgets what a response said of the session. -/
theorem dropConnection_answered (bytes sessionId : List UInt8) (timeout streamId : ℤ)
    (s : SatipRTSP) :
    dropConnection (withSession sessionId timeout streamId (answered bytes s)) =
      dropConnection (record (.response bytes) s) := by
  simp only [dropConnection, withSession, answered, record]

/-- The first response in the buffer, when it has `size` bytes. -/
def firstResponse (size : ℕ) (s : SatipRTSP) : List UInt8 := (ofBytes (received s)).take size

/-- The state after a response of `size` bytes was accepted. -/
def afterResponse (size : ℕ) (sessionId : List UInt8) (timeout streamId : ℤ) (s : SatipRTSP) :
    SatipRTSP :=
  { s with
    rxData := moveDown (terminated s).rxData size (s.rxDataPos.toNat - size)
    rxDataPos := s.rxDataPos - size
    rtspRequest := .none
    rtspSessionId := sessionId
    rtspTimeout := timeout
    rtspStreamId := streamId
    waitResponse := false
    timerResetConnect := s.timerResetConnect.stop
    trace := s.trace ++ [.response (firstResponse size s)] }

theorem afterResponse_eq (size : ℕ) (sessionId : List UInt8) (timeout streamId : ℤ)
    (s : SatipRTSP) :
    consumeResponse size (stopTimerResetConnect
        (withSession sessionId timeout streamId
          (answered (firstResponse size s) (terminated s)))) =
      afterResponse size sessionId timeout streamId s := by
  simp only [afterResponse, consumeResponse, stopTimerResetConnect, withSession, answered,
    terminated, record]

theorem received_afterResponse {s : SatipRTSP} {size : ℕ} (h : (size : ℤ) ≤ s.rxDataPos)
    (sessionId : List UInt8) (timeout streamId : ℤ) :
    received (afterResponse size sessionId timeout streamId s) = (received s).drop size := by
  have htaken : received (consumeResponse size (terminated s)) = (received s).drop size := by
    rw [received_consumeResponse (s := terminated s) h, received_terminated]
  exact htaken

/-- A frame changes the configuration only where the parser does. -/
theorem rtpTcpData_cases {data : List UInt8} {s next : SatipRTSP}
    (h : rtpTcpData data s = some next) :
    ∃ config, next = withConfig config [.frame data] s ∧ config.status = s.config.status ∧
      config.settings = s.config.settings := by
  unfold rtpTcpData at h
  dsimp only at h
  split_ifs at h
  · obtain rfl := Option.some.inj h
    exact ⟨s.config, rfl, rfl, rfl⟩
  · obtain ⟨config, hconfig, rfl⟩ := Option.map_eq_some_iff.mp h
    obtain ⟨psi, caPids, rfl | rfl⟩ := Config.stepPsi_cases hconfig
    · exact ⟨_, rfl, rfl, rfl⟩
    · exact ⟨_, rfl, rfl, rfl⟩
  · obtain rfl := Option.some.inj h
    exact ⟨s.config, rfl, rfl, rfl⟩

/-- A complete message was received. -/
theorem size_le_rxDataPos {s : SatipRTSP} {size : ℕ}
    (h : firstMessage (isTcpData s) (received s) = some (.frame size) ∨
      firstMessage (isTcpData s) (received s) = some (.response size)) :
    (size : ℤ) ≤ s.rxDataPos := by
  have hbounds := firstMessage_bounds h
  rw [length_received] at hbounds
  omega

/-- The buffer and the mode after a frame was taken off. -/
theorem received_after_frame {now : Timespec} {s next : SatipRTSP} {data : List UInt8} {size : ℕ}
    (hmessage : firstMessage (isTcpData s) (received s) = some (.frame size))
    (h : rtpTcpData data (startTimerResetConnect now 4000 s) = some next) :
    received (consume size next) = (received s).drop size ∧
      isTcpData (consume size next) = isTcpData s := by
  obtain ⟨config, rfl, _, hsettings⟩ := rtpTcpData_cases h
  have hsize : (size : ℤ) ≤ s.rxDataPos := size_le_rxDataPos (Or.inl hmessage)
  exact ⟨received_consume hsize, congrArg Config.Settings.tcpdata hsettings⟩

/-- What a round of the loop can do. -/
inductive RoundCase (now : Timespec) (res : Result) (resCode : ℤ) (s : SatipRTSP) :
    Round → Prop where
  | wait (res' : Result) (s' : SatipRTSP)
    (hmessage : firstMessage (isTcpData s) (received s) = none)
    (hs' : s' = s ∨ s' = terminated s)
    (hres' : res' = .ok ∨ res' = .error ∧ isTcpData s = false) :
    RoundCase now res resCode s (.stop res' s')
  | frame (size : ℕ) (next : SatipRTSP)
    (hmessage : firstMessage (isTcpData s) (received s) = some (.frame size))
    (hnext : rtpTcpData ((received s).take size) (startTimerResetConnect now 4000 s) = some next) :
    RoundCase now res resCode s (.again res resCode (consume size next))
  | reset (size : ℕ)
    (hmessage : firstMessage (isTcpData s) (received s) = some (.response size))
    (hwhy : (statusCode (ofBytes (received s))).getD resCode ≠ 200 ∨ s.rtspRequest = .setup ∨
      s.rtspRequest = .none) :
    RoundCase now res resCode s
      (.stop .error (resetConnect now true
        (record (.response (firstResponse size s)) (terminated s))))
  | more (size : ℕ) (sessionId : List UInt8) (timeout streamId resCode' : ℤ)
    (hmessage : firstMessage (isTcpData s) (received s) = some (.response size))
    (hcode : s.rtspRequest = .describe ∨
      resCode' = 200 ∧ (statusCode (ofBytes (received s))).getD resCode = 200)
    (hrequest : s.rtspRequest = .none → res = .responseComplete)
    (hmore : (size : ℤ) < s.rxDataPos)
    (hsession : SessionAfter s (ofBytes (received s)) sessionId streamId) :
    RoundCase now res resCode s
      (.again .responseComplete resCode' (afterResponse size sessionId timeout streamId s))
  | last (size : ℕ) (sessionId : List UInt8) (timeout streamId : ℤ)
    (hmessage : firstMessage (isTcpData s) (received s) = some (.response size))
    (hrequest : s.rtspRequest = .none → res = .responseComplete) (hlast : s.rxDataPos ≤ size)
    (hsession : SessionAfter s (ofBytes (received s)) sessionId streamId) :
    RoundCase now res resCode s
      (.stop .responseComplete (afterResponse size sessionId timeout streamId s))

theorem roundCase_of_round {r : Round} (hres : res = .error ∨ res = .responseComplete)
    (hround : round now res resCode s = some r) : RoundCase now res resCode s r := by
  cases hmessage : firstMessage (isTcpData s) (received s) with
  | none =>
    obtain ⟨res', s', rfl, hs', hres'⟩ := round_of_none now res resCode hmessage hround
    exact .wait res' s' hmessage hs' hres'
  | some message =>
    cases message with
    | frame size =>
      rw [round_of_frame now res resCode hmessage] at hround
      obtain ⟨next, hnext, rfl⟩ := Option.map_eq_some_iff.mp hround
      exact .frame size next hmessage hnext
    | response size =>
      rw [round_of_response now res resCode hmessage] at hround
      split_ifs at hround
      obtain ⟨sessionId, timeout, streamId,
          ⟨rfl, hwhy⟩ | ⟨resCode', rfl, hcode, hrequest, hsession⟩⟩ :=
        responseRound_cases hres hround
      · have hforgotten := dropConnection_answered (firstResponse size s) sessionId timeout
          streamId (terminated s)
        change RoundCase now res resCode s (.stop .error (resetConnect now true
          (withSession sessionId timeout streamId
            (answered (firstResponse size s) (terminated s)))))
        rw [resetConnect, hforgotten]
        exact .reset size hmessage hwhy
      · have hpos : (stopTimerResetConnect (withSession sessionId timeout streamId
            (answered (firstResponse size s) (terminated s)))).rxDataPos = s.rxDataPos := by
          simp only [stopTimerResetConnect, withSession, answered, terminated, record]
        change RoundCase now res resCode s (complete size .responseComplete resCode'
          (stopTimerResetConnect (withSession sessionId timeout streamId
            (answered (firstResponse size s) (terminated s)))))
        rw [complete, afterResponse_eq, hpos]
        split_ifs with hmore
        · exact .more size sessionId timeout streamId resCode' hmessage hcode hrequest (by omega)
            hsession
        · exact .last size sessionId timeout streamId hmessage hrequest (by omega) hsession

end round

/-- The rule for the loop: each thing a round can do keeps the invariant or ends as wanted. -/
theorem loop_rule {now : Timespec} (Inv : Result → ℤ → SatipRTSP → Prop)
    (Final : Result → SatipRTSP → Prop)
    (hmeets : ∀ res resCode s r, Inv res resCode s → RoundCase now res resCode s r →
      r.Meets Inv Final)
    {res : Result} {s next : SatipRTSP} (hinv : Inv .error 0 s)
    (h : loop now .error 0 s = some (res, next)) : Final res next := by
  -- the result so far is an error or complete in every round, which is what a case needs
  apply loop_invariant
    (fun res resCode s ↦ (res = .error ∨ res = .responseComplete) ∧ Inv res resCode s) Final
    _ ⟨Or.inl rfl, hinv⟩ h
  rintro res resCode s r ⟨hres, hs⟩ hround
  have hcase : RoundCase now res resCode s r := roundCase_of_round now res resCode hres hround
  have hr : r.Meets Inv Final := hmeets res resCode s r hs hcase
  cases hcase with
  | wait => exact hr
  | frame => exact ⟨hres, hr⟩
  | reset => exact hr
  | more => exact ⟨Or.inr rfl, hr⟩
  | last => exact hr

/-! ## Receiving -/

/-- What `recv` adds to the received bytes; an error takes the last one away. -/
def receivedWith (recv : Recv) (s : SatipRTSP) : List UInt8 :=
  match recv with
  | .failure => load s.rxData (s.rxDataPos - 1).toNat
  | .bytes available => received s ++ available.take (room s).toNat

theorem received_push {s : SatipRTSP} (h : 0 ≤ s.rxDataPos) (data : List UInt8) :
    received (withBuffer (store s.rxData s.rxDataPos.toNat data) (s.rxDataPos + data.length) s) =
      received s ++ data := by
  have hpos : (s.rxDataPos + data.length).toNat = s.rxDataPos.toNat + data.length := by omega
  change load _ (s.rxDataPos + data.length).toNat = _
  rw [hpos]
  exact Memory.load_store _ _ _

/-- The outcomes of `handleResponse`: nothing is received, or the loop runs on what was received.
Until then only the receive buffer has changed. -/
theorem handleResponse_cases {now : Timespec} {recv : Recv} {res : Result} {s next : SatipRTSP}
    (h : handleResponse now recv s = some (res, next)) :
    (res = .error ∧ ∃ rxDataPos, next = withBuffer s.rxData rxDataPos s) ∨
      ∃ rxData rxDataPos, received (withBuffer rxData rxDataPos s) = receivedWith recv s ∧
        loop now .error 0 (withBuffer rxData rxDataPos s) = some (res, next) := by
  unfold handleResponse at h
  by_cases hroom : room s = 0
  · rw [if_pos hroom] at h
    cases h
    exact Or.inl ⟨rfl, 0, rfl⟩
  · rw [if_neg hroom] at h
    cases recv with
    | failure => exact Or.inr ⟨s.rxData, s.rxDataPos - 1, rfl, h⟩
    | bytes available =>
      dsimp only at h
      split_ifs at h
      · cases h
        exact Or.inl ⟨rfl, s.rxDataPos, rfl⟩
      · exact Or.inr ⟨_, _, received_push (by omega) _, h⟩

theorem advance_of_ne {now : Timespec} {status : RtspStatus} {res : Result} {s : SatipRTSP}
    (h : res ≠ .responseComplete) : advance now status res s = s := if_neg h

/-- Responses are read in this status. -/
def Reads (status : RtspStatus) : Prop := status ≠ .configWaiting ∧ status ≠ .serverConnecting

/-- Where responses are read and there is something to read, `handleResponse` is called. -/
theorem handlePollEvents_of_reads {now : Timespec} {events : PollEvents} {recv : Recv}
    {s : SatipRTSP} (hopen : events.broken = false) (hpollin : events.pollin = true)
    (hreads : Reads s.rtspStatus) :
    handlePollEvents now events recv s = (handleResponse now recv s).map fun (res, next) ↦
      advance now s.rtspStatus res next := by
  unfold handlePollEvents
  rw [if_neg (by simp [hopen])]
  cases hstatus : s.rtspStatus with
  | configWaiting => exact absurd hstatus hreads.1
  | serverConnecting => exact absurd hstatus hreads.2
  | sessionEstablishing | sessionPlaying | sessionTransmitting | sessionTeardowning =>
    dsimp only
    rw [readResponse, if_pos hpollin, hstatus]

/-- What `handlePollEvents` can do. -/
inductive PollCase (now : Timespec) (events : PollEvents) (recv : Recv) (s : SatipRTSP) :
    SatipRTSP → Prop where
  | broken (hbroken : events.broken = true) :
    PollCase now events recv s (resetConnect now true s)
  | idle (hopen : events.broken = false) : PollCase now events recv s s
  | ready (hopen : events.broken = false) (hstatus : s.rtspStatus = .serverConnecting) :
    PollCase now events recv s (startSession s)
  | read (hopen : events.broken = false) (hpollin : events.pollin = true)
    (hwaiting : s.rtspStatus ≠ .configWaiting) (hconnecting : s.rtspStatus ≠ .serverConnecting)
    (res : Result) (mid : SatipRTSP) (hmid : handleResponse now recv s = some (res, mid)) :
    PollCase now events recv s (advance now s.rtspStatus res mid)

theorem pollCase_of_handlePollEvents {now : Timespec} {events : PollEvents} {recv : Recv}
    {s next : SatipRTSP} (h : handlePollEvents now events recv s = some next) :
    PollCase now events recv s next := by
  unfold handlePollEvents at h
  by_cases hbroken : events.broken = true
  · rw [if_pos hbroken] at h
    obtain rfl := Option.some.inj h
    exact .broken hbroken
  rw [if_neg hbroken] at h
  have hopen : events.broken = false := by simpa using hbroken
  have hread (hwaiting : s.rtspStatus ≠ .configWaiting)
      (hconnecting : s.rtspStatus ≠ .serverConnecting)
      (hresponse : readResponse now events recv s = some next) :
      PollCase now events recv s next := by
    unfold readResponse at hresponse
    split_ifs at hresponse with hpollin
    · obtain ⟨⟨res, mid⟩, hmid, rfl⟩ := Option.map_eq_some_iff.mp hresponse
      exact .read hopen hpollin hwaiting hconnecting res mid hmid
    · obtain rfl := Option.some.inj hresponse
      exact .idle hopen
  cases hstatus : s.rtspStatus <;> rw [hstatus] at h <;> dsimp only at h
  case configWaiting =>
    obtain rfl := Option.some.inj h
    exact .idle hopen
  case serverConnecting =>
    split_ifs at h
    · obtain rfl := Option.some.inj h
      exact .ready hopen hstatus
    · obtain rfl := Option.some.inj h
      exact .idle hopen
  all_goals exact hread (by simp [hstatus]) (by simp [hstatus]) h

end SatipClient.RTSP
