import SatipClient.RTSP.Status

/-!
# Errors in receiving

`handleResponse` answers with an error on several paths, and the caller does not look at it.  A
response that is not accepted resets the connection.  The connection is left as it is where the
server has closed it, where the receive buffer is full, and where outside of TCP data mode a `$`
comes up at the front of the buffer; `error_resets_iff` says that these are all.
-/

namespace SatipClient.RTSP

open CString (ascii ofBytes)
open Memory (load)

variable {s next : SatipRTSP} {now : Timespec} {recv : Recv}

/-! ## What is left of the connection -/

/-- A retry is pending. -/
def RetryPending (s : SatipRTSP) : Prop :=
  s.timerReconnect.active = true ∨ s.config.status = .changed

/-- The connection was reset, and is made again unless the tuner is released. -/
structure TornDown (s : SatipRTSP) : Prop where
  socket : s.fd = none
  status : s.rtspStatus = .configWaiting
  idle : s.waitResponse = false
  retry : s.config.status = .invalid ∨ RetryPending s

theorem tornDown_resetConnect (now : Timespec) (s : SatipRTSP) :
    TornDown (resetConnect now true s) := by
  refine ⟨fd_resetConnect true, rtspStatus_resetConnect now true s,
    waitResponse_resetConnect now true s, ?_⟩
  rcases resetConnect_cases now true s with ⟨heq, hauto | hinvalid | hnew⟩ | ⟨heq, _⟩
  · cases hauto
  · rw [heq]
    exact Or.inl hinvalid
  · rw [heq]
    exact Or.inr (Or.inr hnew.1)
  · rw [heq]
    exact Or.inr (Or.inl rfl)

/-! ## Responses that are accepted -/

/-- A response is accepted, `res` and `resCode` being the result and the status code of the rounds
before it. -/
def Accepts (request : RtspRequest) (res : Result) (resCode : ℤ) (text : List UInt8) : Prop :=
  (statusCode text).getD resCode = 200 ∧ (request = .none → res = .responseComplete) ∧
    (request = .setup → (describedSession text).isSome)

/-- A `$` comes up at the front of the bytes, directly or behind responses that are accepted. -/
inductive Stray : RtspRequest → Result → ℤ → List UInt8 → Prop where
  | front (request : RtspRequest) (res : Result) (resCode : ℤ) (bytes : List UInt8)
    (hdollar : bytes.head? = some dollar) : Stray request res resCode bytes
  | behind (request : RtspRequest) (res : Result) (resCode : ℤ) (bytes : List UInt8) (size : ℕ)
    (hsize : responseSize (ofBytes bytes) = some size)
    (haccepts : Accepts request res resCode (ofBytes bytes))
    (hrest : Stray .none .responseComplete 200 (bytes.drop size)) :
    Stray request res resCode bytes

/-- Whether a `$` comes up is decided behind the first response. -/
theorem stray_iff_of_accepts {request : RtspRequest} {res : Result} {resCode : ℤ}
    {bytes : List UInt8} {size : ℕ} (hhead : bytes.head? ≠ some dollar)
    (hsize : responseSize (ofBytes bytes) = some size)
    (haccepts : Accepts request res resCode (ofBytes bytes)) :
    Stray request res resCode bytes ↔ Stray .none .responseComplete 200 (bytes.drop size) := by
  constructor
  · intro h
    cases h with
    | front _ _ _ _ hdollar => exact absurd hdollar hhead
    | behind _ _ _ _ size' hsize' _ hrest =>
      obtain rfl : size' = size := Option.some.inj (hsize'.symm.trans hsize)
      exact hrest
  · exact .behind request res resCode bytes size hsize haccepts

theorem not_stray_of_not_accepts {request : RtspRequest} {res : Result} {resCode : ℤ}
    {bytes : List UInt8} (hhead : bytes.head? ≠ some dollar)
    (haccepts : ¬Accepts request res resCode (ofBytes bytes)) :
    ¬Stray request res resCode bytes := by
  intro h
  cases h with
  | front _ _ _ _ hdollar => exact hhead hdollar
  | behind _ _ _ _ _ _ haccepts' _ => exact haccepts haccepts'

/-- An accepted response completes the request. -/
theorem handleByRequest_of_accepts {text : List UInt8} {res res' : Result} {resCode : ℤ}
    (haccepts : Accepts s.rtspRequest res resCode text) (hdescribe : s.rtspRequest ≠ .describe)
    (h : handleByRequest text res s = some (res', next)) : res' = .responseComplete := by
  obtain ⟨_, hnone, hsetup⟩ := haccepts
  by_cases hskipped : s.rtspRequest = .none
  · rw [handleByRequest, hskipped] at h
    exact (congrArg Prod.fst (Option.some.inj h)).symm.trans (hnone hskipped)
  by_cases hrequest : s.rtspRequest = .setup
  · rw [handleByRequest, hrequest] at h
    have hdescribed : (describedSession text).isSome := hsetup hrequest
    unfold describedSession at hdescribed
    dsimp only at h
    unfold handleResponseSetup at h
    cases hvalue : sessionValue text with
    | none => simp [hvalue] at hdescribed
    | some value =>
      cases hstream : numberBehind "com.ses.streamID" 58 text with
      | none => simp [hvalue, hstream] at hdescribed
      | some streamId =>
        rw [hvalue] at h
        dsimp only at h
        split_ifs at h
        rw [hstream] at h
        exact (congrArg Prod.fst (Option.some.inj h)).symm
  · exact fst_handleByRequest h hrequest hskipped hdescribe

/-- Only a response that is not accepted ends the loop with an error. -/
theorem not_accepts_of_error {text : List UInt8} {size : ℕ} {res : Result} {resCode : ℤ}
    (hdescribe : s.rtspRequest ≠ .describe)
    (h : responseRound now text size res resCode s = some (.stop .error next)) :
    ¬Accepts s.rtspRequest res resCode text := by
  intro haccepts
  have hsame : (answered (text.take size) s).rtspRequest = s.rtspRequest := rfl
  unfold responseRound at h
  dsimp only at h
  rw [hsame, if_neg hdescribe, if_neg (not_not.mpr haccepts.1)] at h
  obtain ⟨⟨res', mid⟩, hmid, hround⟩ := Option.map_eq_some_iff.mp h
  obtain rfl : res' = .responseComplete :=
    handleByRequest_of_accepts (s := answered (text.take size) s) haccepts hdescribe hmid
  dsimp only at hround
  rw [if_neg (by simp), if_pos rfl, complete] at hround
  split_ifs at hround
  cases hround

/-! ## The loop -/

/-- The bytes at the front of the buffer: the loop looks at the first one even when nothing is
received. -/
def frontBytes (s : SatipRTSP) : List UInt8 := load s.rxData (max 1 s.rxDataPos).toNat

theorem frontBytes_eq (h : 0 < s.rxDataPos) : frontBytes s = received s := by
  rw [frontBytes, received, max_eq_right (by omega)]

theorem head?_frontBytes (s : SatipRTSP) : (frontBytes s).head? = some (s.rxData 0) := by
  rw [List.head?_eq_getElem?]
  exact Memory.getElem?_load _ (by omega)

/-- Outside of TCP data mode the loop stops in front of a `$`. -/
theorem round_of_dollar (hudp : isTcpData s = false) (hdollar : s.rxData 0 = dollar)
    (res : Result) (resCode : ℤ) : round now res resCode s = some (.stop .error s) := by
  rw [round, if_pos hdollar, frameRound, if_pos hudp]

/-- In front of text the loop stops with an error only at a response that is not accepted. -/
theorem round_error {res : Result} {resCode : ℤ} (hdollar : s.rxData 0 ≠ dollar)
    (hdescribe : s.rtspRequest ≠ .describe)
    (h : round now res resCode s = some (.stop .error next)) :
    ¬Accepts s.rtspRequest res resCode (ofBytes (received s)) := by
  rw [round, if_neg hdollar, textRound] at h
  dsimp only at h
  split_ifs at h
  rw [received_terminated] at h
  cases hsize : responseSize (ofBytes (received s)) with
  | none =>
    rw [hsize] at h
    cases h
  | some size =>
    rw [hsize] at h
    exact not_accepts_of_error (s := terminated s) hdescribe h

/-- How an error leaves the connection: as it was in front of a `$`, and torn down otherwise. -/
def ErrorLeaves (stray : Prop) (status : RtspStatus) (res : Result) (s : SatipRTSP) : Prop :=
  res = .error → (stray → s.rtspStatus = status) ∧ (¬stray → TornDown s)

theorem loop_udp (hudp : isTcpData s = false) (hdescribe : s.rtspRequest ≠ .describe)
    {res : Result} (h : loop now .error 0 s = some (res, next)) :
    ErrorLeaves (Stray s.rtspRequest .error 0 (frontBytes s)) s.rtspStatus res next := by
  refine loop_invariant
    (fun res resCode mid ↦ (res = .error ∨ res = .responseComplete) ∧ isTcpData mid = false ∧
      mid.rtspRequest ≠ .describe ∧ mid.rtspStatus = s.rtspStatus ∧
      (Stray mid.rtspRequest res resCode (frontBytes mid) ↔
        Stray s.rtspRequest .error 0 (frontBytes s)))
    (ErrorLeaves (Stray s.rtspRequest .error 0 (frontBytes s)) s.rtspStatus) ?_
    ⟨Or.inl rfl, hudp, hdescribe, rfl, Iff.rfl⟩ h
  rintro res resCode mid r ⟨hres, hudp, hdescribe, hstatus, hstray⟩ hround
  by_cases hdollar : mid.rxData 0 = dollar
  · rw [round_of_dollar hudp hdollar] at hround
    obtain rfl := Option.some.inj hround
    have hfront : (frontBytes mid).head? = some dollar := by rw [head?_frontBytes, hdollar]
    intro _
    exact ⟨fun _ ↦ hstatus, fun hnot ↦ absurd (hstray.mp (.front _ _ _ _ hfront)) hnot⟩
  have hhead : (frontBytes mid).head? ≠ some dollar := by
    rw [head?_frontBytes]
    simpa using hdollar
  have hcase : RoundCase now res resCode mid r := roundCase_of_round now res resCode hres hround
  cases hcase with
  | wait res' s' hmessage hs' hres' =>
    rintro rfl
    -- without a message the loop waits for more
    have hsize : responseSize (ofBytes (received mid)) = none := by
      rw [firstMessage, if_neg (head?_received_ne hdollar)] at hmessage
      simpa using hmessage
    rw [round, if_neg hdollar, textRound] at hround
    dsimp only at hround
    rw [received_terminated, hsize] at hround
    split_ifs at hround
    cases hround
  | frame size _ hmessage =>
    obtain ⟨hreceived, _⟩ := firstMessage_eq_frame_iff.mp hmessage
    exact absurd hreceived (head?_received_ne hdollar)
  | reset size hmessage =>
    have hsize : (size : ℤ) ≤ mid.rxDataPos := size_le_rxDataPos (Or.inr hmessage)
    have hfour : 4 ≤ size := (firstMessage_bounds (Or.inr hmessage)).1
    have hnot : ¬Stray mid.rtspRequest res resCode (frontBytes mid) := by
      apply not_stray_of_not_accepts hhead
      rw [frontBytes_eq (by omega)]
      exact round_error hdollar hdescribe hround
    intro _
    exact ⟨fun hyes ↦ absurd (hstray.mpr hyes) hnot, fun _ ↦ tornDown_resetConnect now _⟩
  | more size sessionId timeout streamId resCode' hmessage hcode hrequest hmore hsession =>
    have hfour : 4 ≤ size := (firstMessage_bounds (Or.inr hmessage)).1
    obtain ⟨hcode', hstatusCode⟩ := hcode.resolve_left hdescribe
    subst hcode'
    have haccepts : Accepts mid.rtspRequest res resCode (ofBytes (received mid)) := by
      refine ⟨hstatusCode, hrequest, ?_⟩
      intro hsetup
      rw [SessionAfter, if_pos hsetup] at hsession
      simp [hsession]
    have hsize : responseSize (ofBytes (received mid)) = some size :=
      (firstMessage_eq_response_iff.mp hmessage).2
    have hbytes : frontBytes mid = received mid := frontBytes_eq (by omega)
    have hrest : frontBytes (afterResponse size sessionId timeout streamId mid) =
        (received mid).drop size := by
      rw [frontBytes_eq]
      · exact received_afterResponse (by omega) sessionId timeout streamId
      · exact Int.sub_pos_of_lt hmore
    have hdescribe : (afterResponse size sessionId timeout streamId mid).rtspRequest ≠ .describe :=
      fun hrequest ↦ by cases hrequest
    refine ⟨Or.inr rfl, hudp, hdescribe, hstatus, ?_⟩
    rw [← hstray, hrest, hbytes]
    rw [hbytes] at hhead
    exact (stray_iff_of_accepts hhead hsize haccepts).symm
  | last =>
    intro herror
    cases herror

theorem loop_tcp (htcp : isTcpData s = true) {res : Result}
    (h : loop now .error 0 s = some (res, next)) : res = .error → TornDown next := by
  refine loop_rule (fun _ _ mid ↦ isTcpData mid = true) (fun res mid ↦ res = .error → TornDown mid)
    ?_ htcp h
  intro res resCode mid r hmid hcase
  cases hcase with
  | wait res' s' _ _ hres' =>
    rintro rfl
    rcases hres' with hok | ⟨_, hudp⟩
    · cases hok
    · rw [hmid] at hudp
      cases hudp
  | frame size after hmessage hafter => exact (received_after_frame hmessage hafter).2.trans hmid
  | reset => exact fun _ ↦ tornDown_resetConnect now _
  | more => exact hmid
  | last =>
    intro herror
    cases herror

/-! ## Receiving -/

/-- What the loop of `handleResponse` looks at; a failed `recv` takes a byte away. -/
def lookedAt (recv : Recv) (s : SatipRTSP) : List UInt8 :=
  match recv with
  | .failure => load s.rxData (max 1 (s.rxDataPos - 1)).toNat
  | .bytes available => received s ++ available.take (room s).toNat

/-- `recv` returns 0. -/
def Closed (recv : Recv) (s : SatipRTSP) : Prop :=
  ∃ available, recv = .bytes available ∧ available.take (room s).toNat = []

/-- The errors that do not reset the connection. -/
def Unreset (recv : Recv) (s : SatipRTSP) : Prop :=
  room s = 0 ∨ Closed recv s ∨
    (isTcpData s = false ∧ Stray s.rtspRequest .error 0 (lookedAt recv s))

/-- What an error of the loop leaves, in both data modes. -/
theorem loop_error (hdescribe : s.rtspRequest ≠ .describe)
    (h : loop now .error 0 s = some (.error, next)) :
    (isTcpData s = false ∧ Stray s.rtspRequest .error 0 (frontBytes s) →
        next.rtspStatus = s.rtspStatus) ∧
      (¬(isTcpData s = false ∧ Stray s.rtspRequest .error 0 (frontBytes s)) → TornDown next) := by
  cases hmode : isTcpData s with
  | false => simpa using loop_udp hmode hdescribe h rfl
  | true => simpa using loop_tcp hmode h rfl

/-- An error leaves the session in its status, or the connection is torn down. -/
theorem handleResponse_error (hdescribe : s.rtspRequest ≠ .describe)
    (h : handleResponse now recv s = some (.error, next)) :
    (Unreset recv s → next.rtspStatus = s.rtspStatus) ∧ (¬Unreset recv s → TornDown next) := by
  have hkept (hwhy : Unreset recv s) (hnext : next.rtspStatus = s.rtspStatus) :
      (Unreset recv s → next.rtspStatus = s.rtspStatus) ∧ (¬Unreset recv s → TornDown next) :=
    ⟨fun _ ↦ hnext, fun hnot ↦ absurd hwhy hnot⟩
  have hrun {rxData : Memory.Block} {rxDataPos : ℤ} (hroom : room s ≠ 0)
      (hopen : ¬Closed recv s)
      (hloop : loop now .error 0 (withBuffer rxData rxDataPos s) = some (.error, next))
      (hfront : frontBytes (withBuffer rxData rxDataPos s) = lookedAt recv s) :
      (Unreset recv s → next.rtspStatus = s.rtspStatus) ∧ (¬Unreset recv s → TornDown next) := by
    have hiff : Unreset recv s ↔ isTcpData (withBuffer rxData rxDataPos s) = false ∧
        Stray s.rtspRequest .error 0 (frontBytes (withBuffer rxData rxDataPos s)) := by
      rw [hfront, Unreset]
      simp only [hroom, hopen, false_or]
      exact Iff.rfl
    rw [hiff]
    exact loop_error (s := withBuffer rxData rxDataPos s) hdescribe hloop
  unfold handleResponse at h
  by_cases hroom : room s = 0
  · rw [if_pos hroom] at h
    cases h
    exact hkept (Or.inl hroom) rfl
  rw [if_neg hroom] at h
  cases recv with
  | failure => exact hrun hroom (by rintro ⟨_, hsame, _⟩; cases hsame) h rfl
  | bytes available =>
    dsimp only at h
    by_cases hnil : available.take (room s).toNat = []
    · rw [if_pos hnil] at h
      cases h
      exact hkept (Or.inr (Or.inl ⟨available, rfl, hnil⟩)) rfl
    · rw [if_neg hnil] at h
      split_ifs at h with hneg
      have hpositive : 0 < (available.take (room s).toNat).length := List.length_pos_iff.mpr hnil
      refine hrun hroom ?_ h ?_
      · rintro ⟨available', hsame, hnone⟩
        obtain rfl := Recv.bytes.inj hsame
        exact hnil hnone
      · rw [frontBytes_eq]
        · exact received_push (by omega) _
        · change 0 < s.rxDataPos + _
          omega

/-- An error of `handleResponse` tears the connection down exactly when it is not one of the three
that are not looked at: a full buffer, a connection closed by the server, and a `$` outside of
TCP data mode. -/
theorem error_resets_iff {events : PollEvents} {mid : SatipRTSP} (hs : Reachable s)
    (hopen : events.broken = false) (hpollin : events.pollin = true) (hreads : Reads s.rtspStatus)
    (herror : handleResponse now recv s = some (.error, mid))
    (hnext : handlePollEvents now events recv s = some next) :
    TornDown next ↔ ¬Unreset recv s := by
  rw [handlePollEvents_of_reads hopen hpollin hreads, herror] at hnext
  obtain rfl : mid = next := Option.some.inj hnext
  obtain ⟨hkept, hreset⟩ := handleResponse_error hs.rtspRequest_ne_describe herror
  constructor
  · intro htorn hunreset
    exact hreads.1 ((hkept hunreset).symm.trans htorn.status)
  · exact hreset

/-- A response that refuses the request. -/
def refusal : List UInt8 := ascii "RTSP/1.0 404 Not Found\r\n\r\n"

theorem error_resets_iff_refusal :
    ∃ s mid next, Runs.run step udpArgs.start setupRun = some s ∧
      handleResponse {} (.bytes refusal) s = some (.error, mid) ∧
      handlePollEvents {} { pollin := true } (.bytes refusal) s = some next ∧ TornDown next := by
  have hrun : ∃ s, Runs.run step udpArgs.start setupRun = some s ∧
      s.rtspStatus = .sessionEstablishing ∧ room s = 2047 ∧ received s = [] :=
    ⟨_, rfl, rfl, rfl, rfl⟩
  obtain ⟨s, hs, hstatus, hroom, hreceived⟩ := hrun
  have herror : ((Runs.run step udpArgs.start setupRun).bind fun s ↦
      (handleResponse {} (.bytes refusal) s).map Prod.fst) = some .error := by decide +kernel
  rw [hs] at herror
  obtain ⟨⟨res, mid⟩, hmid, hres⟩ := Option.map_eq_some_iff.mp herror
  obtain rfl : res = .error := hres
  have hreads : Reads s.rtspStatus := by
    rw [hstatus]
    exact ⟨nofun, nofun⟩
  have hnext : handlePollEvents {} { pollin := true } (.bytes refusal) s = some mid := by
    rw [handlePollEvents_of_reads rfl rfl hreads, hmid]
    rfl
  refine ⟨s, mid, mid, hs, hmid, hnext, ?_⟩
  apply (error_resets_iff ⟨udpArgs, setupRun, hs⟩ rfl rfl hreads hmid hnext).mpr
  rintro (hfull | ⟨available, hsame, hnone⟩ | ⟨_, hstray⟩)
  · omega
  · obtain rfl := Recv.bytes.inj hsame
    rw [hroom] at hnone
    revert hnone
    decide
  · have hlooked : lookedAt (.bytes refusal) s = refusal := by
      rw [lookedAt, hreceived, hroom]
      decide +kernel
    rw [hlooked] at hstray
    refine not_stray_of_not_accepts (by decide) ?_ hstray
    rintro ⟨hcode, _⟩
    revert hcode
    decide +kernel

/-! ## Where it fails -/

/-- In answer to a SETUP, `recv` leads to an error that leaves the connection as it is. -/
def LeavesConnection (recv : Recv) : Prop :=
  ∃ s mid next, Runs.run step udpArgs.start setupRun = some s ∧
    handleResponse {} recv s = some (.error, mid) ∧
    handlePollEvents {} { pollin := true } recv s = some next ∧
    next.rtspStatus = .sessionEstablishing ∧ next.fd = some 3 ∧ ¬TornDown next

theorem leavesConnection_of_outcome {recv : Recv}
    (h : ((Runs.run step udpArgs.start setupRun).bind fun s ↦ (handleResponse {} recv s).bind
        fun out ↦ (handlePollEvents {} { pollin := true } recv s).map fun next ↦
          (out.1, next.rtspStatus, next.fd)) = some (.error, .sessionEstablishing, some 3)) :
    LeavesConnection recv := by
  obtain ⟨s, hs, hrest⟩ := Option.bind_eq_some_iff.mp h
  obtain ⟨⟨res, mid⟩, hmid, hrest⟩ := Option.bind_eq_some_iff.mp hrest
  obtain ⟨next, hnext, hsame⟩ := Option.map_eq_some_iff.mp hrest
  simp only [Prod.mk.injEq] at hsame
  obtain ⟨rfl, hstatus, hfd⟩ := hsame
  refine ⟨s, mid, next, hs, hmid, hnext, hstatus, hfd, ?_⟩
  intro htorn
  have hnone : next.fd = none := htorn.socket
  rw [hfd] at hnone
  cases hnone

/-- The connection stays where the server has closed it, and in front of a `$`. -/
theorem not_error_resets : LeavesConnection (.bytes []) ∧ LeavesConnection (.bytes [dollar]) := by
  constructor
  · apply leavesConnection_of_outcome
    decide +kernel
  · apply leavesConnection_of_outcome
    decide +kernel

end SatipClient.RTSP
