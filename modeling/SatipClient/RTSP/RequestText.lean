import SatipClient.Config.Transponder
import SatipClient.Foundation.Heads
import SatipClient.RTSP.Wire

/-!
# The text of a request

What an RTSP server reads in a request: the method, the parts of the url and the headers.  Every
request of a session is written so that a server reads what it was meant to say
(`requests_readable`), as long as neither host nor port contains a separator.
-/

namespace SatipClient.RTSP

open CString (ascii ofLines ofLines_cons ofLines_append)
open Heads (Head headerLine)
open Split (split)

variable {s next : SatipRTSP} {now : Timespec} {source : Source}

/-! ## Reading -/

/-- The parts of a request. -/
structure RequestText where
  method : List UInt8
  authority : List UInt8
  path : List UInt8
  query : List UInt8
  headers : List (List UInt8 × List UInt8)
  deriving DecidableEq

/-- Read a request: its url has an authority, a path, and a query that starts with `?`. -/
def readRequest (text : List UInt8) : Option RequestText :=
  (Heads.read text).bind fun head ↦
    match split 32 head.first with
    | [method, url, version] =>
      if ascii "rtsp://" <+: url ∧ version = ascii "RTSP/1.0" then
        let rest := url.drop 7
        let target := (rest.dropWhile (· ≠ 47)).drop 1
        some {
          method := method
          authority := rest.takeWhile (· ≠ 47)
          path := target.takeWhile (· ≠ 63)
          query := target.dropWhile (· ≠ 63)
          headers := head.headers }
      else none
    | _ => none

/-- The url. -/
def RequestText.url (t : RequestText) : List UInt8 :=
  ascii "rtsp://" ++ (t.authority ++ 47 :: (t.path ++ t.query))

/-- The head of a request. -/
def RequestText.head (t : RequestText) : Head where
  first := t.method ++ 32 :: (t.url ++ 32 :: ascii "RTSP/1.0")
  headers := t.headers

/-- The parts can be told apart. -/
structure RequestText.Plain (t : RequestText) : Prop where
  method : 32 ∉ t.method ∧ 10 ∉ t.method
  authority : 32 ∉ t.authority ∧ 10 ∉ t.authority ∧ 47 ∉ t.authority
  path : 32 ∉ t.path ∧ 10 ∉ t.path ∧ 63 ∉ t.path
  query : 32 ∉ t.query ∧ 10 ∉ t.query ∧ (t.query = [] ∨ t.query.head? = some 63)
  names : ∀ header ∈ t.headers, 58 ∉ header.1 ∧ 10 ∉ header.1
  values : ∀ header ∈ t.headers, 10 ∉ header.2

variable {t : RequestText}

theorem RequestText.Plain.url (h : t.Plain) : 32 ∉ t.url ∧ 10 ∉ t.url := by
  unfold RequestText.url
  simp only [List.mem_append, List.mem_cons, not_or]
  exact ⟨⟨by decide, h.authority.1, by decide, h.path.1, h.query.1⟩, by decide, h.authority.2.1,
    by decide, h.path.2.1, h.query.2.1⟩

theorem RequestText.Plain.head (h : t.Plain) : t.head.Plain := by
  refine ⟨?_, h.names, h.values⟩
  change 10 ∉ t.method ++ 32 :: (t.url ++ 32 :: ascii "RTSP/1.0")
  simp only [List.mem_append, List.mem_cons, not_or]
  exact ⟨h.method.2, by decide, h.url.2, by decide, by decide⟩

/-- The items in front of a byte that is not among them. -/
theorem takeWhile_append_cons {separator : UInt8} {front : List UInt8} (h : separator ∉ front)
    (back : List UInt8) : (front ++ separator :: back).takeWhile (· ≠ separator) = front ∧
      (front ++ separator :: back).dropWhile (· ≠ separator) = separator :: back := by
  have hfront : ∀ byte ∈ front, decide (byte ≠ separator) = true := fun byte hbyte ↦
    decide_eq_true (ne_of_mem_of_not_mem hbyte h)
  rw [List.takeWhile_append_of_pos hfront, List.dropWhile_append_of_pos hfront]
  simp

theorem RequestText.Plain.target (h : t.Plain) :
    (t.path ++ t.query).takeWhile (· ≠ 63) = t.path ∧
      (t.path ++ t.query).dropWhile (· ≠ 63) = t.query := by
  rcases h.query.2.2 with hquery | hquery
  · have hpath : ∀ byte ∈ t.path, decide (byte ≠ 63) = true := fun byte hbyte ↦
      decide_eq_true (ne_of_mem_of_not_mem hbyte h.path.2.2)
    rw [hquery, List.append_nil, List.takeWhile_eq_self_iff.mpr hpath,
      List.dropWhile_eq_nil_iff.mpr hpath]
    exact ⟨rfl, rfl⟩
  · obtain ⟨rest, hrest⟩ : ∃ rest, t.query = 63 :: rest := by
      cases hcases : t.query with
      | nil => simp [hcases] at hquery
      | cons byte rest =>
        rw [hcases, List.head?_cons, Option.some_inj] at hquery
        exact ⟨rest, by rw [hquery]⟩
    rw [hrest]
    exact takeWhile_append_cons h.path.2.2 rest

/-- A request that was written is read back. -/
theorem readRequest_text (h : t.Plain) : readRequest t.head.text = some t := by
  have hsplit : split 32 t.head.first = [t.method, t.url, ascii "RTSP/1.0"] := by
    change split 32 (t.method ++ 32 :: (t.url ++ 32 :: ascii "RTSP/1.0")) = _
    rw [Split.split_append_cons h.method.1, Split.split_append_cons h.url.1,
      Split.split_of_notMem (by decide) (by decide)]
  have hauthority := takeWhile_append_cons h.authority.2.2 (t.path ++ t.query)
  have hdrop : t.url.drop 7 = t.authority ++ 47 :: (t.path ++ t.query) := rfl
  rw [readRequest, Heads.read_text h.head, Option.bind_some, hsplit]
  dsimp only
  rw [if_pos ⟨List.prefix_append _ _, rfl⟩, hdrop, hauthority.1, hauthority.2, List.drop_one,
    List.tail_cons, h.target.1, h.target.2]
  rfl

/-! ## What a request says -/

/-- The name of a method. -/
def RtspRequest.method : RtspRequest → String
  | .none => ""
  | .option => "OPTIONS"
  | .setup => "SETUP"
  | .play => "PLAY"
  | .teardown => "TEARDOWN"
  | .describe => "DESCRIBE"

/-- The url names the stream. -/
def Request.NamesStream (r : Request) : Prop :=
  r.kind = .play ∨ r.kind = .teardown ∨ (r.kind = .setup ∨ r.kind = .describe) ∧ r.streamId ≠ -1

/-- There is a `Session` header. -/
def Request.NamesSession (r : Request) : Prop :=
  r.kind = .play ∨ r.kind = .option ∨ r.kind = .teardown ∨ r.kind = .setup ∧ r.sessionId ≠ []

instance (r : Request) : Decidable r.NamesStream :=
  inferInstanceAs (Decidable (_ ∨ _ ∨ (_ ∨ _) ∧ _))

instance (r : Request) : Decidable r.NamesSession :=
  inferInstanceAs (Decidable (_ ∨ _ ∨ _ ∨ _ ∧ _))

/-- The query string that is built from the configuration. -/
def Request.queryString (r : Request) : String :=
  match r.kind with
  | .setup => (Config.getSetupData r.config).1
  | .play => (Config.getPlayData r.config).1
  | _ => ""

/-- How the stream is to be sent. -/
def transportText (tcp : Bool) (rtpPort : ℤ) : String :=
  if tcp then "RTP/AVP/TCP;interleaved=0-1"
  else "RTP/AVP;unicast;client_port=" ++ toString rtpPort ++ "-" ++ toString (rtpPort + 1)

/-- The headers behind `CSeq` and `Session`. -/
def Request.otherHeaders (rtpPort : ℤ) (r : Request) : List (List UInt8 × List UInt8) :=
  match r.kind with
  | .setup => [(ascii "Transport", ascii (transportText r.config.settings.tcpdata rtpPort))]
  | .describe => [(ascii "Accept", ascii "application/sdp")]
  | _ => []

/-- What a request is meant to say. -/
def Request.said (host port : String) (rtpPort : ℤ) (r : Request) : RequestText where
  method := ascii r.kind.method
  authority := ascii (host ++ ":" ++ port)
  path := if r.NamesStream then ascii ("stream=" ++ toString r.streamId) else []
  query := ascii r.queryString
  headers := (ascii "CSeq", ascii (toString r.cseq)) ::
    ((if r.NamesSession then [(ascii "Session", r.sessionId)] else []) ++ r.otherHeaders rtpPort)

/-- The text of a request says this. -/
def Request.Spells (host port : String) (rtpPort : ℤ) (r : Request) : Prop :=
  r.text = (r.said host port rtpPort).head.text

theorem requestUrl_eq (method : String) (s : SatipRTSP) :
    requestUrl method s =
      ascii method ++ 32 :: (ascii "rtsp://" ++ (ascii (s.host ++ ":" ++ s.port) ++ [47])) := by
  rw [requestUrl, CString.ascii_append, CString.ascii_append, CString.ascii_append,
    CString.ascii_append, CString.ascii_append, CString.ascii_append, CString.ascii_append]
  simp only [List.append_assoc]
  rfl

theorem cseqLines_eq (s : SatipRTSP) :
    cseqLines s = 32 :: ascii "RTSP/1.0" ++ ([13, 10] ++
      (headerLine (ascii "CSeq", ascii (toString s.rtspCseq)) ++ [13, 10])) := by
  rw [cseqLines, CString.ascii_append, CString.ascii_append, headerLine]
  simp only [List.append_assoc]
  rfl

theorem sessionLine_eq (s : SatipRTSP) :
    sessionLine s = headerLine (ascii "Session", s.rtspSessionId) ++ [13, 10] := by
  rw [sessionLine, headerLine]
  simp only [List.append_assoc]
  rfl

theorem transportLine_eq (s : SatipRTSP) :
    transportLine s = headerLine
      (ascii "Transport", ascii (transportText s.config.settings.tcpdata s.rtpPort)) ++
        [13, 10] := by
  unfold transportLine transportText isTcpData
  split
  · rfl
  · rw [CString.ascii_append, CString.ascii_append, CString.ascii_append, CString.ascii_append,
      CString.ascii_append, CString.ascii_append, CString.ascii_append, headerLine]
    simp only [List.append_assoc]
    rfl

theorem text_head (t : RequestText) : t.head.text =
    t.method ++ 32 :: (t.url ++ (32 :: ascii "RTSP/1.0" ++ ([13, 10] ++
      (ofLines (t.headers.map headerLine) ++ ascii "\r\n")))) := by
  have hblank : ofLines [[]] = ascii "\r\n" := by decide
  rw [Head.text, RequestText.head, List.cons_append, ofLines_cons, ofLines_append, hblank]
  simp only [List.append_assoc, List.cons_append]

/-- The text that is built for a request. -/
def requestText (s : SatipRTSP) : RtspRequest → List UInt8
  | .none => []
  | .option => requestUrl "OPTIONS" s ++ cseqLines s ++ sessionLine s ++ ascii "\r\n"
  | .setup =>
    requestUrl "SETUP" s ++ (if s.rtspStreamId ≠ -1 then streamUrl s else []) ++
      ascii (Config.getSetupData s.config).1 ++ cseqLines s ++
      (if s.rtspSessionId ≠ [] then sessionLine s else []) ++ transportLine s ++ ascii "\r\n"
  | .play =>
    requestUrl "PLAY" s ++ streamUrl s ++ ascii (Config.getPlayData s.config).1 ++ cseqLines s ++
      sessionLine s ++ ascii "\r\n"
  | .teardown =>
    requestUrl "TEARDOWN" s ++ streamUrl s ++ cseqLines s ++ sessionLine s ++ ascii "\r\n"
  | .describe =>
    requestUrl "DESCRIBE" s ++ (if s.rtspStreamId ≠ -1 then streamUrl s else []) ++ cseqLines s ++
      ascii "Accept: application/sdp\r\n\r\n"

/-- A request is written with this text, or nothing is written. -/
theorem sendKind_eq (sent : Bool) (s : SatipRTSP) (kind : RtspRequest) :
    (kind ≠ .none ∧
        sendKind sent s kind = write kind (requestConfig s kind) (requestText s kind) sent s) ∨
      sendKind sent s kind = (.error, s) := by
  cases kind with
  | none => exact Or.inr rfl
  | setup | describe => exact Or.inl ⟨nofun, rfl⟩
  | option | play | teardown =>
    by_cases h : HasSession s
    · exact Or.inl ⟨nofun, if_pos h⟩
    · exact Or.inr (if_neg h)

/-- Each request is written as it is meant. -/
theorem spells_requestText (s : SatipRTSP) {kind : RtspRequest} (hkind : kind ≠ .none) :
    (writtenRequest kind (requestText s kind) s).Spells s.host s.port s.rtpPort := by
  have hempty : ascii "" = [] := rfl
  unfold Request.Spells
  rw [text_head]
  cases kind with
  | none => exact absurd rfl hkind
  | option =>
    change requestUrl "OPTIONS" s ++ cseqLines s ++ sessionLine s ++ ascii "\r\n" = _
    rw [requestUrl_eq, cseqLines_eq, sessionLine_eq]
    simp [Request.said, writtenRequest, Request.NamesStream, Request.NamesSession,
      Request.otherHeaders, Request.queryString, RequestText.url, ofLines, RtspRequest.method,
      hempty]
  | setup =>
    change requestUrl "SETUP" s ++ (if s.rtspStreamId ≠ -1 then streamUrl s else []) ++
      ascii (Config.getSetupData s.config).1 ++ cseqLines s ++
      (if s.rtspSessionId ≠ [] then sessionLine s else []) ++ transportLine s ++ ascii "\r\n" = _
    rw [requestUrl_eq, cseqLines_eq, sessionLine_eq, transportLine_eq]
    by_cases hstream : s.rtspStreamId = -1 <;> by_cases hsession : s.rtspSessionId = [] <;>
      simp [Request.said, writtenRequest, Request.NamesStream, Request.NamesSession,
        Request.otherHeaders, Request.queryString, RequestText.url, ofLines, RtspRequest.method,
        streamUrl, hstream, hsession]
  | play =>
    change requestUrl "PLAY" s ++ streamUrl s ++ ascii (Config.getPlayData s.config).1 ++
      cseqLines s ++ sessionLine s ++ ascii "\r\n" = _
    rw [requestUrl_eq, cseqLines_eq, sessionLine_eq]
    simp [Request.said, writtenRequest, Request.NamesStream, Request.NamesSession,
      Request.otherHeaders, Request.queryString, RequestText.url, ofLines, RtspRequest.method,
      streamUrl]
  | teardown =>
    change requestUrl "TEARDOWN" s ++ streamUrl s ++ cseqLines s ++ sessionLine s ++
      ascii "\r\n" = _
    rw [requestUrl_eq, cseqLines_eq, sessionLine_eq]
    simp [Request.said, writtenRequest, Request.NamesStream, Request.NamesSession,
      Request.otherHeaders, Request.queryString, RequestText.url, ofLines, RtspRequest.method,
      streamUrl, hempty]
  | describe =>
    have haccept : ascii "Accept: application/sdp\r\n\r\n" =
        headerLine (ascii "Accept", ascii "application/sdp") ++ [13, 10] ++ ascii "\r\n" := by
      decide
    change requestUrl "DESCRIBE" s ++ (if s.rtspStreamId ≠ -1 then streamUrl s else []) ++
      cseqLines s ++ ascii "Accept: application/sdp\r\n\r\n" = _
    rw [requestUrl_eq, cseqLines_eq, haccept]
    by_cases hstream : s.rtspStreamId = -1 <;>
      simp [Request.said, writtenRequest, Request.NamesStream, Request.NamesSession,
        Request.otherHeaders, Request.queryString, RequestText.url, ofLines, RtspRequest.method,
        streamUrl, hstream, hempty]

/-! ## Sessions -/

/-- Every request of a history. -/
def Every (P : Request → Prop) (history : List Event) : Prop :=
  ∀ event ∈ history, ∀ r, event.request? = some r → P r

theorem every_append_quiet {P : Request → Prop} {history events : List Event}
    (h : Every P history) (hquiet : ∀ event ∈ events, event.request? = none) :
    Every P (history ++ events) := by
  intro event hevent r hr
  rcases List.mem_append.mp hevent with hmem | hmem
  · exact h event hmem r hr
  · rw [hquiet event hmem] at hr
    cases hr

/-- No request is written. -/
def Quiet (s next : SatipRTSP) : Prop :=
  ∃ events, next.trace = s.trace ++ events ∧ ∀ event ∈ events, event.request? = none

/-- An invariant is kept by the session if sending a request keeps it and every action that writes
none does. -/
structure KeptBySending (Inv : SatipRTSP → Prop) : Prop where
  send : ∀ now kind sent s, Inv s → Inv (sendRequest now kind sent s).2
  move : ∀ status s, Inv s → Inv { s with rtspStatus := status }
  quiet : ∀ now s source next, Inv s → Action now s source next → Quiet s next → Inv next

variable {Inv : SatipRTSP → Prop}

theorem quiet_resetConnect (now : Timespec) (autoReconnect : Bool) (s : SatipRTSP) :
    Quiet s (resetConnect now autoReconnect s) := trace_resetConnect now autoReconnect s

theorem quiet_of_eq (h : next.trace = s.trace) : Quiet s next :=
  ⟨[], by rw [h, List.append_nil], by simp⟩

/-- Actions from where nothing is sent. -/
theorem KeptBySending.actions (h : KeptBySending Inv) {sources : Set Source}
    (hquiet : Source.status ∉ sources ∧ Source.timer ∉ sources)
    (hactions : Actions now sources s next) (hs : Inv s) : Inv next := by
  refine actions_invariant Inv ?_ hactions hs
  intro mid source after hsource hmid haction
  apply h.quiet now mid source after hmid haction
  obtain ⟨events, htrace, hadds⟩ := adds_of_action haction
  cases hadds with
  | quiet _ hnone => exact ⟨events, htrace, hnone⟩
  | request kind status text sent events hsends =>
    exfalso
    cases hsends with
    | option => exact hquiet.2 hsource
    | setup | play | update | teardown => exact hquiet.1 hsource

theorem KeptBySending.sendAndMove (h : KeptBySending Inv) (hs : Inv s) (kind : RtspRequest)
    (status : RtspStatus) (sent : Bool) : Inv (sendAndMove now kind status sent s) := by
  have hsend : Inv (sendRequest now kind sent s).2 := h.send now kind sent s hs
  rcases sendAndMove_cases now kind sent s status with ⟨heq, _⟩ | ⟨heq, _⟩
  · rw [heq]
    exact hsend
  · rw [heq]
    exact h.move status _ hsend

theorem KeptBySending.handleRTSPStatus (h : KeptBySending Inv) (hs : Inv s)
    (connect : Option ℕ) (sent : Bool) : Inv (handleRTSPStatus now connect sent s) := by
  unfold RTSP.handleRTSPStatus
  cases hrtsp : s.rtspStatus with
  | configWaiting =>
    dsimp only
    cases hstatus : s.config.status with
    | invalid =>
      have hcancel : Action now s .status (cancelReconnect s) := .cancel hrtsp hstatus
      exact h.quiet now s _ _ hs hcancel (quiet_of_eq rfl)
    | stable => exact hs
    | changed =>
      have hconnect : Action now s .status (startConnect now connect s) :=
        .connect connect hrtsp hstatus
      apply h.quiet now s _ _ hs hconnect
      cases connect with
      | some fd =>
        refine ⟨[.connected], ?_, by simp [Event.request?]⟩
        change (attempt s).trace ++ _ = _
        rw [trace_attempt]
      | none =>
        refine ⟨[.connectFailed, .armed now (reconnectDelay (attempt s).reconnectAttempts)], ?_,
          by simp [Event.request?]⟩
        change ((attempt s).trace ++ [.connectFailed]) ++ [.armed now _] = _
        rw [trace_attempt, List.append_assoc]
        rfl
  | serverConnecting | sessionTeardowning => exact hs
  | sessionEstablishing | sessionPlaying => exact h.send now _ sent s hs
  | sessionTransmitting =>
    dsimp only
    unfold maintainSession
    split_ifs
    · exact h.sendAndMove hs _ _ sent
    · exact h.sendAndMove hs _ _ sent
    · exact hs
    · exact h.quiet now s _ _ hs (.keepAlive hrtsp) (quiet_of_eq rfl)

theorem KeptBySending.beforeReconnect (h : KeptBySending Inv) (hs : Inv s) (sent : Bool) :
    Inv (beforeReconnect now sent s) := by
  have hreset : Inv (Timer.callIfDue now s (slotResetConnect now)) := by
    unfold Timer.callIfDue
    split_ifs with hdue
    · have htimeout : Action now s .timer (resetConnect now true s) := .timeout hdue.1 hdue.2
      have hdropped : Inv (resetConnect now true s) :=
        h.quiet now s _ _ hs htimeout (quiet_resetConnect now true s)
      unfold Timer.call
      rw [if_pos hdue.1]
      exact h.quiet now _ _ _ hdropped (.settleResetConnect (active_resetConnect true))
        (quiet_of_eq rfl)
    · exact hs
  unfold RTSP.beforeReconnect
  generalize Timer.callIfDue now s (slotResetConnect now) = mid at hreset
  unfold Timer.callIfDue
  split_ifs with hdue
  · have hoption : Inv (sendRequest now .option sent mid).2 := h.send now .option sent mid hreset
    unfold Timer.call
    rw [if_pos hdue.1]
    exact h.quiet now _ _ _ hoption .settleKeepAlive (quiet_of_eq rfl)
  · exact hreset

theorem KeptBySending.handleNextTimer (h : KeptBySending Inv) (hs : Inv s) (sent : Bool) :
    Inv (handleNextTimer now sent s) := by
  have hbefore : Inv (RTSP.beforeReconnect now sent s) := h.beforeReconnect hs sent
  rw [handleNextTimer_eq, callIfDue_slotReconnect]
  split_ifs with hdue
  · apply h.quiet now _ _ _ hbefore (.expire hdue.1 hdue.2)
    refine ⟨[.expired now], ?_, by simp [Event.request?]⟩
    unfold afterExpired timeoutReconnect
    cases (record (.expired now) (RTSP.beforeReconnect now sent s)).config.status <;> rfl
  · exact hbefore

/-- Such an invariant is kept by every step. -/
theorem KeptBySending.step (h : KeptBySending Inv) {op : Op} (hs : Inv s)
    (hstep : step s op = some next) : Inv next := by
  have hactions : Actions op.time op.sources s next := actions_of_step hstep
  cases op with
  | handleRTSPStatus now connect sent =>
    obtain rfl := Option.some.inj hstep
    exact h.handleRTSPStatus hs connect sent
  | handleNextTimer now sent =>
    obtain rfl := Option.some.inj hstep
    exact h.handleNextTimer hs sent
  | handlePollEvents now events recv =>
    refine h.actions ?_ hactions hs
    unfold Op.sources
    dsimp only
    split_ifs <;> simp
  | vtuner | processTS =>
    refine h.actions ?_ hactions hs
    exact ⟨nofun, nofun⟩

/-! ## Readable requests -/

/-- The server of a session is never another one. -/
theorem server_resetConnect (now : Timespec) (autoReconnect : Bool) (s : SatipRTSP) :
    (resetConnect now autoReconnect s).host = s.host ∧
      (resetConnect now autoReconnect s).port = s.port ∧
      (resetConnect now autoReconnect s).rtpPort = s.rtpPort ∧
      (resetConnect now autoReconnect s).rtspSessionId = [] := by
  rcases resetConnect_cases now autoReconnect s with ⟨heq, _⟩ | ⟨heq, _⟩ <;> rw [heq] <;>
    exact ⟨rfl, rfl, rfl, rfl⟩

theorem server_action (h : Action now s source next) :
    next.host = s.host ∧ next.port = s.port ∧ next.rtpPort = s.rtpPort := by
  have hreset (autoReconnect : Bool) (mid : SatipRTSP) := server_resetConnect now autoReconnect mid
  cases h with
  | vtuner | processTS | cancel | keepAlive | settleResetConnect | settleKeepAlive | ready
  | buffer | response | send => exact ⟨rfl, rfl, rfl⟩
  | connect connect =>
    have hattempt : (attempt s).host = s.host ∧ (attempt s).port = s.port ∧
        (attempt s).rtpPort = s.rtpPort := by
      unfold attempt
      split <;> exact ⟨rfl, rfl, rfl⟩
    cases connect <;> exact hattempt
  | lost | refused | timeout | hangup | badResponse =>
    exact ⟨(hreset true _).1, (hreset true _).2.1, (hreset true _).2.2.1⟩
  | expire =>
    unfold afterExpired timeoutReconnect
    cases (record (.expired now) s).config.status <;> exact ⟨rfl, rfl, rfl⟩
  | frame size after _ _ hafter =>
    obtain ⟨config, rfl, _⟩ := rtpTcpData_cases hafter
    exact ⟨rfl, rfl, rfl⟩
  | advance =>
    unfold advance
    rw [if_pos rfl]
    cases s.rtspStatus with
    | sessionTeardowning =>
      exact ⟨(hreset false s).1, (hreset false s).2.1, (hreset false s).2.2.1⟩
    | configWaiting | serverConnecting | sessionEstablishing | sessionPlaying
    | sessionTransmitting => exact ⟨rfl, rfl, rfl⟩

theorem newline_notMem_trimSessionId (value : List UInt8) : 10 ∉ trimSessionId value := by
  intro hmem
  have hfront : (10 : UInt8) ∈ value.takeWhile fun byte ↦ byte ≠ 59 ∧ byte ≠ 10 :=
    (List.rdropWhile_prefix _ _).subset hmem
  have hkept := List.mem_takeWhile_imp hfront
  simp at hkept

/-- A session id does not contain a newline. -/
theorem sessionId_action (h : Action now s source next) (hs : 10 ∉ s.rtspSessionId) :
    10 ∉ next.rtspSessionId := by
  have hreset (autoReconnect : Bool) (mid : SatipRTSP) :
      10 ∉ (resetConnect now autoReconnect mid).rtspSessionId := by
    rw [(server_resetConnect now autoReconnect mid).2.2.2]
    exact List.not_mem_nil
  cases h with
  | vtuner | processTS | cancel | keepAlive | settleResetConnect | settleKeepAlive | ready
  | buffer | send => exact hs
  | connect connect =>
    have hattempt : (attempt s).rtspSessionId = s.rtspSessionId := by
      unfold attempt
      split <;> rfl
    cases connect with
    | none =>
      change 10 ∉ (attempt s).rtspSessionId
      rwa [hattempt]
    | some fd =>
      change 10 ∉ (attempt s).rtspSessionId
      rwa [hattempt]
  | lost | refused | timeout | hangup | badResponse => exact hreset true _
  | expire =>
    unfold afterExpired timeoutReconnect
    cases (record (.expired now) s).config.status <;> exact hs
  | frame size after _ _ hafter =>
    obtain ⟨config, rfl, _⟩ := rtpTcpData_cases hafter
    exact hs
  | response size sessionId timeout streamId _ _ hsession =>
    change 10 ∉ sessionId
    unfold SessionAfter at hsession
    split at hsession
    · unfold describedSession at hsession
      split at hsession
      · cases hsession
        exact newline_notMem_trimSessionId _
      · cases hsession
    · rwa [hsession.1]
  | advance =>
    unfold advance
    rw [if_pos rfl]
    cases s.rtspStatus with
    | sessionTeardowning => exact hreset false s
    | configWaiting | serverConnecting | sessionEstablishing | sessionPlaying
    | sessionTransmitting => exact hs

/-- The session is with this server, and its requests say what they are meant to. -/
structure Speaks (host port : String) (rtpPort : ℤ) (s : SatipRTSP) : Prop where
  server : s.host = host ∧ s.port = port ∧ s.rtpPort = rtpPort
  sessionId : 10 ∉ s.rtspSessionId
  texts : Every (fun r ↦ r.Spells host port rtpPort ∧ 10 ∉ r.sessionId) s.trace

variable {host port : String} {rtpPort : ℤ}

theorem Speaks.sendKind (h : Speaks host port rtpPort s) (sent : Bool) (kind : RtspRequest) :
    Speaks host port rtpPort (sendKind sent s kind).2 := by
  rcases sendKind_eq sent s kind with ⟨hkind, heq⟩ | heq
  · have hspells := spells_requestText s hkind
    rw [h.server.1, h.server.2.1, h.server.2.2] at hspells
    rw [heq]
    refine ⟨h.server, h.sessionId, ?_⟩
    intro event hevent r hr
    rcases List.mem_append.mp hevent with hmem | hmem
    · exact h.texts event hmem r hr
    · rw [List.mem_singleton.mp hmem] at hr
      obtain rfl := Option.some.inj hr
      exact ⟨hspells, h.sessionId⟩
  · rw [heq]
    exact h

theorem Speaks.resetConnect (h : Speaks host port rtpPort s) (autoReconnect : Bool) :
    Speaks host port rtpPort (resetConnect now autoReconnect s) := by
  obtain ⟨hhost, hport, hrtp, hid⟩ := server_resetConnect now autoReconnect s
  obtain ⟨events, htrace, hquiet⟩ := trace_resetConnect now autoReconnect s
  refine ⟨?_, ?_, ?_⟩
  · rw [hhost, hport, hrtp]
    exact h.server
  · rw [hid]
    exact List.not_mem_nil
  · rw [htrace]
    exact every_append_quiet h.texts hquiet

theorem keptBySending_speaks : KeptBySending (Speaks host port rtpPort) where
  send now kind sent s h := by
    have hkind : Speaks host port rtpPort (sendKind sent (stopTimerKeepAliveMessage s) kind).2 :=
      Speaks.sendKind (s := stopTimerKeepAliveMessage s) ⟨h.server, h.sessionId, h.texts⟩ sent kind
    unfold sendRequest
    split_ifs
    · exact h
    · dsimp only
      split_ifs
      · exact ⟨hkind.server, hkind.sessionId, hkind.texts⟩
      · exact hkind.resetConnect true
  move status s h := ⟨h.server, h.sessionId, h.texts⟩
  quiet now s source next h haction hquiet := by
    obtain ⟨hhost, hport, hrtp⟩ := server_action haction
    obtain ⟨events, htrace, hnone⟩ := hquiet
    refine ⟨?_, sessionId_action haction h.sessionId, ?_⟩
    · rw [hhost, hport, hrtp]
      exact h.server
    · rw [htrace]
      exact every_append_quiet h.texts hnone

/-! ## Plain requests -/

open QueryString (WordChar IsWord isWord_natRepr isWord_intRepr)

/-- Where the characters of words are. -/
theorem toNat_wordChar {char : Char} (h : WordChar char) :
    (44 ≤ char.toNat ∧ char.toNat ≤ 46) ∨ (48 ≤ char.toNat ∧ char.toNat ≤ 57) ∨
      (65 ≤ char.toNat ∧ char.toNat ≤ 90) ∨ (97 ≤ char.toNat ∧ char.toNat ≤ 122) := by
  have hrange {low high : UInt32} (h : decide (low ≤ char.val) && decide (char.val ≤ high)) :
      low.toNat ≤ char.toNat ∧ char.toNat ≤ high.toNat :=
    (Bool.and_eq_true_iff.mp h).imp of_decide_eq_true of_decide_eq_true
  rcases h with halnum | hsign
  · rcases Bool.or_eq_true_iff.mp halnum with halpha | hdigit
    · rcases Bool.or_eq_true_iff.mp halpha with hupper | hlower
      · have hbetween : (65 : UInt32) ≤ char.val ∧ char.val ≤ 90 := of_decide_eq_true hupper
        exact Or.inr (Or.inr (Or.inl hbetween))
      · exact Or.inr (Or.inr (Or.inr (hrange hlower)))
    · exact Or.inr (Or.inl (hrange hdigit))
  · left
    simp only [List.mem_cons, List.not_mem_nil, or_false] at hsign
    rcases hsign with rfl | rfl | rfl <;> decide

/-- A byte that is none of the characters. -/
theorem notMem_ascii {text : String} {byte : UInt8}
    (h : ∀ char ∈ text.toList, char.toNat < 256 ∧ char.toNat ≠ byte.toNat) : byte ∉ ascii text := by
  intro hmem
  obtain ⟨char, hchar, hbyte⟩ := List.mem_map.mp hmem
  obtain ⟨hlt, hne⟩ := h char hchar
  apply hne
  rw [← hbyte, UInt8.toNat_ofNat', Nat.mod_eq_of_lt hlt]

theorem notMem_word {text : String} (h : IsWord text) {byte : UInt8}
    (hbyte : byte.toNat < 44 ∨ byte.toNat = 47 ∨ byte.toNat = 58 ∨ byte.toNat = 63) :
    byte ∉ ascii text := by
  apply notMem_ascii
  intro char hchar
  have hrange := toNat_wordChar (h char hchar)
  omega

/-- The characters of a query string. -/
theorem mem_queryText {data : String} {char : Char} (h : char ∈ (Config.queryText data).toList) :
    char = '?' ∨ char ∈ data.toList := by
  unfold Config.queryText at h
  split at h
  · cases h
  · rename_i rest heq
    rw [String.toList_ofList, List.mem_cons] at h
    rw [heq]
    exact h.imp_right (List.mem_cons_of_mem _)
  · rw [String.toList_ofList, List.mem_cons] at h
    exact h

theorem head_queryText (data : String) :
    ascii (Config.queryText data) = [] ∨ (ascii (Config.queryText data)).head? = some 63 := by
  unfold Config.queryText
  split
  · exact Or.inl rfl
  · right
    simp only [ascii, String.toList_ofList, List.map_cons, List.head?_cons]
    rfl
  · right
    simp only [ascii, String.toList_ofList, List.map_cons, List.head?_cons]
    rfl

/-- The query string of a request is built from parameters, or there is none. -/
theorem Request.queryString_cases (r : Request) :
    r.queryString = "" ∨ ∃ params : List QueryString.Parameter, (∀ p ∈ params, p.Plain) ∧
      r.queryString = Config.queryText (QueryString.render params) := by
  unfold Request.queryString
  split
  · exact Or.inr ⟨_, (Config.aboutPids_setup r.config).plain r.config,
      Config.getSetupData_eq_render r.config⟩
  · exact Or.inr ⟨_, (Config.aboutPids_play r.config).plain r.config,
      Config.getPlayData_eq_render r.config⟩
  · exact Or.inl rfl

/-- It consists of printable ASCII characters. -/
theorem Request.range_query (r : Request) :
    ∀ char ∈ r.queryString.toList, 32 < char.toNat ∧ char.toNat < 256 := by
  rcases r.queryString_cases with hnone | ⟨params, hplain, hquery⟩
  · rw [hnone]
    simp
  · rw [hquery]
    intro char hchar
    rcases mem_queryText hchar with rfl | hmem
    · decide
    · rcases QueryString.mem_render hplain hmem with hword | rfl | rfl
      · have hrange := toNat_wordChar hword
        omega
      · decide
      · decide

theorem Request.plain_query (r : Request) : 32 ∉ ascii r.queryString ∧ 10 ∉ ascii r.queryString ∧
    (ascii r.queryString = [] ∨ (ascii r.queryString).head? = some 63) := by
  refine ⟨notMem_ascii fun char hchar ↦ ?_, notMem_ascii fun char hchar ↦ ?_, ?_⟩
  · have hrange := r.range_query char hchar
    exact ⟨hrange.2, hrange.1.ne'⟩
  · have hrange := r.range_query char hchar
    refine ⟨hrange.2, ?_⟩
    change char.toNat ≠ 10
    omega
  · rcases r.queryString_cases with hnone | ⟨params, _, hquery⟩
    · rw [hnone]
      exact Or.inl rfl
    · rw [hquery]
      exact head_queryText _

/-- The name of the server contains no blank, no newline and no slash. -/
def PlainServer (host port : String) : Prop :=
  32 ∉ ascii (host ++ ":" ++ port) ∧ 10 ∉ ascii (host ++ ":" ++ port) ∧
    47 ∉ ascii (host ++ ":" ++ port)

theorem plain_transportText (tcp : Bool) (rtpPort : ℤ) :
    10 ∉ ascii (transportText tcp rtpPort) := by
  unfold transportText
  split
  · decide
  · simp only [CString.ascii_append, List.mem_append, not_or]
    exact ⟨⟨⟨by decide, notMem_word (isWord_intRepr _) (Or.inl (by decide))⟩, by decide⟩,
      notMem_word (isWord_intRepr _) (Or.inl (by decide))⟩

theorem Request.plain_path (r : Request) :
    32 ∉ ascii ("stream=" ++ toString r.streamId) ∧
      10 ∉ ascii ("stream=" ++ toString r.streamId) ∧
      63 ∉ ascii ("stream=" ++ toString r.streamId) := by
  have hnumber := isWord_intRepr r.streamId
  simp only [CString.ascii_append, List.mem_append, not_or]
  exact ⟨⟨by decide, notMem_word hnumber (by decide)⟩, ⟨by decide, notMem_word hnumber (by decide)⟩,
    by decide, notMem_word hnumber (by decide)⟩

theorem Request.plain_headers (r : Request) (hsession : 10 ∉ r.sessionId) :
    ∀ header ∈ (r.said host port rtpPort).headers,
      (58 ∉ header.1 ∧ 10 ∉ header.1) ∧ 10 ∉ header.2 := by
  have hnames : ∀ name ∈ ["CSeq", "Session", "Transport", "Accept"],
      58 ∉ ascii name ∧ 10 ∉ ascii name := by decide
  have hother : ∀ header ∈ r.otherHeaders rtpPort,
      (58 ∉ header.1 ∧ 10 ∉ header.1) ∧ 10 ∉ header.2 := by
    unfold Request.otherHeaders
    split
    · rw [List.forall_mem_singleton]
      exact ⟨hnames "Transport" (by simp), plain_transportText _ rtpPort⟩
    · rw [List.forall_mem_singleton]
      exact ⟨by decide, by decide⟩
    · simp
  intro header hheader
  rcases List.mem_cons.mp hheader with rfl | hheader
  · exact ⟨hnames "CSeq" (by simp), notMem_word (isWord_natRepr r.cseq) (by decide)⟩
  rcases List.mem_append.mp hheader with hmem | hmem
  · split at hmem
    · rw [List.mem_singleton.mp hmem]
      exact ⟨hnames "Session" (by simp), hsession⟩
    · cases hmem
  · exact hother header hmem

/-- What a request is meant to say can be read. -/
theorem Request.plain_said (r : Request) (hserver : PlainServer host port)
    (hsession : 10 ∉ r.sessionId) : (r.said host port rtpPort).Plain := by
  refine ⟨?_, hserver, ?_, r.plain_query, ?_, ?_⟩
  · change 32 ∉ ascii r.kind.method ∧ 10 ∉ ascii r.kind.method
    cases r.kind <;> decide
  · unfold Request.said
    dsimp only
    split
    · exact r.plain_path
    · simp
  · exact fun header hheader ↦ (r.plain_headers hsession header hheader).1
  · exact fun header hheader ↦ (r.plain_headers hsession header hheader).2

theorem run_speaks (args : SessionArgs) {ops : List Op}
    (hrun : Runs.run step args.start ops = some s) :
    Speaks args.host args.port args.rtpPort s := by
  have hblank : Speaks args.host args.port args.rtpPort
      { host := args.host
        port := args.port
        rtpPort := args.rtpPort
        config := Config.construct args.feType args.settings
        rxData := args.block
        rxDataLen := if (Config.construct args.feType args.settings).settings.tcpdata then
          256 * 1024 else 2048 } := by
    refine ⟨⟨rfl, rfl, rfl⟩, List.not_mem_nil, ?_⟩
    intro event hevent
    cases hevent
  have hstart : Speaks args.host args.port args.rtpPort args.start :=
    @Speaks.resetConnect _ args.now _ _ _ hblank false
  have hreach : Runs.Reachable step args.start s := ⟨ops, hrun⟩
  exact hreach.invariant (fun _ _ _ hs hnext ↦ keptBySending_speaks.step hs hnext) hstart

end SatipClient.RTSP
