import SatipClient.Foundation.History
import SatipClient.RTSP.Status
import SatipClient.RTSP.Watchdog

/-!
# The requests of a connection

An observer of the wire sees connections being made and dropped, requests and responses.
`wire_disciplined` says what it can rely on: a request is only written while none is outstanding,
the first one is a SETUP, `CSeq` counts them, and the others name the session that the latest
SETUP response of the same connection describes.  An OPTIONS names the session but no stream.
-/

namespace SatipClient.RTSP

open CString (ascii ofBytes strstr strchr isspace strtol longToInt)
open History (Each)

variable {s next : SatipRTSP} {now : Timespec} {source : Source}

/-! ## The observer -/

/-- A connection as it is seen on the wire. -/
structure Connection where
  /-- how many requests were written -/
  requests : ℕ := 0
  outstanding : RtspRequest := .none
  /-- the latest response to a SETUP -/
  setup : Option (List UInt8) := none

/-- What an event does to the connection. -/
def observe : Option Connection → Event → Option Connection
  | _, .connected => some {}
  | _, .disconnected => none
  | some c, .request r _ => some { c with requests := c.requests + 1, outstanding := r.kind }
  | some c, .response bytes =>
    some { c with
      outstanding := .none
      setup := if c.outstanding = .setup then some bytes else c.setup }
  | c, _ => c

/-- The connection behind a history. -/
def connection (history : List Event) : Option Connection := history.foldl observe none

/-- The event changes nothing that the observer looks at. -/
def Event.Unobserved (event : Event) : Prop := ∀ c, observe c event = c

theorem connection_append (history events : List Event) :
    connection (history ++ events) = events.foldl observe (connection history) :=
  List.foldl_append

theorem connection_unobserved {events : List Event} (h : ∀ event ∈ events, event.Unobserved)
    (history : List Event) : connection (history ++ events) = connection history := by
  rw [connection_append]
  generalize connection history = c
  induction events with
  | nil => rfl
  | cons event events ih =>
    rw [List.foldl_cons, h event List.mem_cons_self c]
    exact ih fun other hother ↦ h other (List.mem_cons_of_mem event hother)

theorem unobserved_of_vtuner {call : VtunerCall} {event : Event} (h : event ∈ call.events) :
    event.Unobserved := by
  rcases VtunerCall.mem_events h with rfl | rfl <;> rintro ⟨⟩ <;> rfl

theorem connection_resetConnect (now : Timespec) (autoReconnect : Bool) (s : SatipRTSP) :
    connection (resetConnect now autoReconnect s).trace = none := by
  rcases resetConnect_cases now autoReconnect s with ⟨heq, _⟩ | ⟨heq, _⟩
  · rw [heq]
    change connection (s.trace ++ [.disconnected]) = none
    rw [connection_append]
    rfl
  · rw [heq]
    change connection ((s.trace ++ [.disconnected]) ++ [.armed now _]) = none
    rw [List.append_assoc, connection_append]
    rfl

/-! ## Sessions that a response describes -/

/-- The response describes the session by itself, whatever follows it in the buffer. -/
def Describes (response : List UInt8) (sessionId : List UInt8) (streamId : ℤ) : Prop :=
  ∀ more, describedSession (response ++ more) = some (sessionId, streamId)

/-- What is behind the name of a header and a separator, without leading blanks. -/
def headerValue (name : String) (separator : UInt8) (text : List UInt8) : Option (List UInt8) :=
  ((strstr (ascii name) text).bind (strchr separator)).map fun ptr ↦ (ptr.drop 1).dropWhile isspace

theorem headerValue_append {name : String} {separator : UInt8} {text value : List UInt8}
    (h : headerValue name separator text = some value) (hvalue : value ≠ []) (more : List UInt8) :
    headerValue name separator (text ++ more) = some (value ++ more) := by
  obtain ⟨ptr, hptr, rfl⟩ := Option.map_eq_some_iff.mp h
  obtain ⟨found, hfound, hcolon⟩ := Option.bind_eq_some_iff.mp hptr
  have hdrop : (ptr ++ more).drop 1 = ptr.drop 1 ++ more := by
    cases ptr with
    | nil => exact absurd rfl hvalue
    | cons byte rest => rfl
  rw [headerValue, CString.strstr_append hfound, Option.bind_some, CString.strchr_append hcolon,
    Option.map_some, hdrop, CString.dropWhile_append_of_ne hvalue]

theorem headerValue_isSuffix {name : String} {separator : UInt8} {text value : List UInt8}
    (h : headerValue name separator text = some value) : value <:+ text := by
  obtain ⟨ptr, hptr, rfl⟩ := Option.map_eq_some_iff.mp h
  obtain ⟨found, hfound, hcolon⟩ := Option.bind_eq_some_iff.mp hptr
  exact (List.dropWhile_suffix _).trans ((List.drop_suffix 1 ptr).trans
    ((CString.strchr_isSuffix hcolon).trans (CString.strstr_isSuffix hfound)))

theorem strtol_dropWhile (text : List UInt8) : strtol (text.dropWhile isspace) = strtol text := by
  simp only [strtol, List.dropWhile_idempotent]

theorem numberBehind_eq (name : String) (separator : UInt8) (text : List UInt8) :
    numberBehind name separator text =
      (headerValue name separator text).map fun value ↦ longToInt (strtol value) := by
  rw [numberBehind, headerValue, Option.map_map]
  congr 1
  funext ptr
  exact congrArg longToInt (strtol_dropWhile (ptr.drop 1)).symm

/-- A response with both headers, neither of them blank, describes the session by itself. -/
theorem describes_of_headers {response value number : List UInt8}
    (hend : response.getLast? = some 10) (hsession : headerValue "Session" 58 response = some value)
    (hvalue : value ≠ []) (hstream : headerValue "com.ses.streamID" 58 response = some number)
    (hnumber : number ≠ []) :
    Describes response (trimSessionId value) (longToInt (strtol number)) := by
  have hlast {rest : List UInt8} (hrest : rest <:+ response) (hne : rest ≠ []) :
      rest.getLast? = some 10 := by
    obtain ⟨front, rfl⟩ := hrest
    rwa [List.getLast?_append_of_ne_nil _ hne] at hend
  have hnewline : (10 : UInt8) ∈ value :=
    List.mem_of_getLast? (hlast (headerValue_isSuffix hsession) hvalue)
  intro more
  have hid : trimSessionId (value ++ more) = trimSessionId value := by
    rw [trimSessionId, CString.takeWhile_append_of_mem hnewline (by decide), trimSessionId]
  have hblanks : number.dropWhile isspace ≠ [] := by
    obtain ⟨ptr, _, rfl⟩ := Option.map_eq_some_iff.mp hstream
    rwa [List.dropWhile_idempotent]
  have hstrtol : strtol (number ++ more) = strtol number :=
    CString.strtol_append (hlast (headerValue_isSuffix hstream) hnumber) (by decide) (by decide)
      hblanks more
  have hsession' : sessionValue (response ++ more) = some (value ++ more) :=
    headerValue_append hsession hvalue more
  have hstream' := headerValue_append hstream hnumber more
  rw [describedSession, hsession', numberBehind_eq, hstream', Option.map_some]
  dsimp only
  rw [hid, hstrtol]

/-! ## The client and the observer -/

/-- What the client knows agrees with what the observer has seen. -/
structure Matches (s : SatipRTSP) (c : Connection) : Prop where
  cseq : s.rtspCseq = c.requests + 1
  request : s.rtspRequest = c.outstanding
  counted : c.outstanding ≠ .none ∨ c.setup ≠ none → 0 < c.requests
  known : HasSession s → c.setup ≠ none
  named : ∀ response sessionId streamId, c.setup = some response →
    Describes response sessionId streamId →
    s.rtspSessionId = sessionId ∧ s.rtspStreamId = streamId

/-- Where there is no connection, nothing was seen. -/
def seen (history : List Event) : Connection := (connection history).getD {}

/-- A request is written as it should be. -/
structure Disciplined (c : Connection) (r : Request) : Prop where
  cseq : r.cseq = c.requests + 1
  alone : c.outstanding = .none
  kind : r.kind = .setup ∨ r.kind = .play ∨ r.kind = .option ∨ r.kind = .teardown
  first : c.requests = 0 → r.kind = .setup
  names : r.kind ≠ .setup → ∃ response, c.setup = some response ∧
    ∀ sessionId streamId, Describes response sessionId streamId →
      r.sessionId = sessionId ∧ r.streamId = streamId

/-- The same for an event: the request is written on a connection. -/
def InOrder (front : List Event) (event : Event) : Prop :=
  ∀ r, event.request? = some r → ∃ c, connection front = some c ∧ Disciplined c r

theorem inOrder_of_quiet {event : Event} (h : event.request? = none) (front : List Event) :
    InOrder front event := by
  intro r hr
  rw [h] at hr
  cases hr

/-- The client keeps to the wire discipline. -/
structure WireOk (s : SatipRTSP) : Prop where
  session : SessionOk s
  waits : WaitsForRequest s
  socket : connection s.trace = none ↔ s.fd = none
  agrees : Matches s (seen s.trace)
  inOrder : Each InOrder s.trace

theorem seen_of_connection {history : List Event} {c : Connection}
    (h : connection history = some c) : seen history = c := by
  rw [seen, h]
  rfl

/-- On a connection, the client agrees with the observer. -/
theorem WireOk.connected (h : WireOk s) (hrtsp : s.rtspStatus ≠ .configWaiting) :
    ∃ c, connection s.trace = some c ∧ Matches s c := by
  cases hc : connection s.trace with
  | none => exact absurd (h.session.socket.mp (h.socket.mp hc)) hrtsp
  | some c =>
    have hagrees : Matches s (seen s.trace) := h.agrees
    rw [seen_of_connection hc] at hagrees
    exact ⟨c, rfl, hagrees⟩

theorem WireOk.fd_ne_none (h : WireOk s) {c : Connection} (hc : connection s.trace = some c) :
    s.fd ≠ none := by
  intro hfd
  rw [h.socket.mpr hfd] at hc
  cases hc

/-- What the client knows of the connection is unchanged, and nothing was seen. -/
theorem WireOk.congr (h : WireOk s) (events : List Event) (hsession : SessionOk next)
    (hwaits : WaitsForRequest next) (hfd : next.fd = s.fd) (hcseq : next.rtspCseq = s.rtspCseq)
    (hrequest : next.rtspRequest = s.rtspRequest) (hid : next.rtspSessionId = s.rtspSessionId)
    (hstream : next.rtspStreamId = s.rtspStreamId) (htrace : next.trace = s.trace ++ events)
    (hevents : ∀ event ∈ events, event.Unobserved ∧ event.request? = none) : WireOk next := by
  have hsame : connection next.trace = connection s.trace := by
    rw [htrace]
    exact connection_unobserved (fun event hevent ↦ (hevents event hevent).1) s.trace
  refine ⟨hsession, hwaits, ?_, ?_, ?_⟩
  · rw [hsame, hfd]
    exact h.socket
  · have hseen : seen next.trace = seen s.trace := by rw [seen, hsame, seen]
    obtain ⟨hcount, houtstanding, hcounted, hknown, hnamed⟩ := h.agrees
    rw [hseen]
    refine ⟨hcseq.trans hcount, hrequest.trans houtstanding, hcounted, ?_, ?_⟩
    · unfold HasSession
      rw [hid, hstream]
      exact hknown
    · rw [hid, hstream]
      exact hnamed
  · rw [htrace]
    exact h.inOrder.append fun event hevent ↦ inOrder_of_quiet (hevents event hevent).2

/-- A reset connection agrees with an observer that has seen nothing. -/
theorem matches_resetConnect (now : Timespec) (autoReconnect : Bool) (s : SatipRTSP) :
    Matches (resetConnect now autoReconnect s) {} := by
  have hforgotten : (resetConnect now autoReconnect s).rtspCseq = 1 ∧
      (resetConnect now autoReconnect s).rtspRequest = .none ∧
      (resetConnect now autoReconnect s).rtspStreamId = -1 := by
    rcases resetConnect_cases now autoReconnect s with ⟨heq, _⟩ | ⟨heq, _⟩ <;> rw [heq] <;>
      exact ⟨rfl, rfl, rfl⟩
  obtain ⟨hcseq, hrequest, hstream⟩ := hforgotten
  refine ⟨hcseq, hrequest, by simp, fun hknown ↦ absurd hstream hknown.1, by simp⟩

theorem wireOk_resetConnect (now : Timespec) (autoReconnect : Bool) (h : Each InOrder s.trace) :
    WireOk (resetConnect now autoReconnect s) := by
  have hnone : connection (resetConnect now autoReconnect s).trace = none :=
    connection_resetConnect now autoReconnect s
  obtain ⟨events, htrace, hquiet⟩ := trace_resetConnect now autoReconnect s
  refine ⟨sessionOk_resetConnect now autoReconnect, waitsForRequest_resetConnect _ _ _, ?_, ?_, ?_⟩
  · exact iff_of_true hnone (fd_resetConnect autoReconnect)
  · rw [seen, hnone]
    exact matches_resetConnect now autoReconnect s
  · rw [htrace]
    exact h.append fun event hevent ↦ inOrder_of_quiet (hquiet event hevent)

/-! ## Requests -/

/-- The request that is written fits what was seen. -/
theorem WireOk.disciplined (h : WireOk s) {kind : RtspRequest} {status : RtspStatus}
    (hsends : Sends s source kind status) (hwait : s.waitResponse = false)
    (hknown : SessionKnown kind s) (text : List UInt8) :
    ∃ c, connection s.trace = some c ∧ Matches s c ∧
      Disciplined c (writtenRequest kind text s) := by
  obtain ⟨c, hc, hmatches⟩ := h.connected (h.session.sends hsends).1
  have hdescribe : kind ≠ .describe := (h.session.sends hsends).2.2.ne_describe
  have hsetup (hkind : kind ≠ .setup) : c.setup ≠ none := by
    rcases hknown with hsame | hsame | hsession
    · exact absurd hsame hkind
    · exact absurd hsame hdescribe
    · exact hmatches.known hsession
  refine ⟨c, hc, hmatches, hmatches.cseq, ?_, ?_, ?_, ?_⟩
  · rw [← hmatches.request]
    exact h.waits.mpr hwait
  · change kind = .setup ∨ kind = .play ∨ kind = .option ∨ kind = .teardown
    cases (h.session.sends hsends).2.2 <;> simp
  · intro hnone
    by_contra hkind
    have hpositive : 0 < c.requests := hmatches.counted (Or.inr (hsetup hkind))
    omega
  · intro hkind
    obtain ⟨response, hresponse⟩ := Option.ne_none_iff_exists'.mp (hsetup hkind)
    exact ⟨response, hresponse, fun sessionId streamId ↦
      hmatches.named response sessionId streamId hresponse⟩

/-- One more request keeps the order. -/
theorem WireOk.inOrder_request (h : WireOk s) {kind : RtspRequest} {status : RtspStatus}
    (hsends : Sends s source kind status) (hwait : s.waitResponse = false)
    (hknown : SessionKnown kind s) (text : List UInt8) (sent : Bool) :
    Each InOrder (s.trace ++ [.request (writtenRequest kind text s) sent]) := by
  apply h.inOrder.snoc
  intro r hr
  obtain rfl : writtenRequest kind text s = r := Option.some.inj hr
  obtain ⟨c, hc, _, hdisciplined⟩ := h.disciplined hsends hwait hknown text
  exact ⟨c, hc, hdisciplined⟩

theorem WireOk.send (h : WireOk s) {kind : RtspRequest} {status : RtspStatus}
    {text : List UInt8} (hsends : Sends s source kind status) (hwait : s.waitResponse = false)
    (hknown : SessionKnown kind s) (hsession : SessionOk (afterSent now kind status text s))
    (hwaits : WaitsForRequest (afterSent now kind status text s)) :
    WireOk (afterSent now kind status text s) := by
  obtain ⟨c, hc, hmatches, _⟩ := h.disciplined hsends hwait hknown text
  have hseen : connection (s.trace ++ [.request (writtenRequest kind text s) true]) =
      some { c with requests := c.requests + 1, outstanding := kind } := by
    rw [connection_append, hc]
    rfl
  have htrace : (afterSent now kind status text s).trace =
      s.trace ++ [.request (writtenRequest kind text s) true] := rfl
  refine ⟨hsession, hwaits, ?_, ?_, h.inOrder_request hsends hwait hknown text true⟩
  · rw [htrace, hseen]
    exact iff_of_false nofun (h.fd_ne_none hc)
  · rw [htrace, seen_of_connection hseen]
    refine ⟨congrArg (· + 1) hmatches.cseq, rfl, fun _ ↦ Nat.succ_pos _, hmatches.known, ?_⟩
    exact hmatches.named

/-! ## Responses -/

/-- The text of the first response is the front of what is searched. -/
theorem ofBytes_received_eq (size : ℕ) (s : SatipRTSP) :
    ofBytes (received s) = firstResponse size s ++ (ofBytes (received s)).drop size :=
  (List.take_append_drop size _).symm

theorem WireOk.response (h : WireOk s) {size : ℕ} {sessionId : List UInt8} {timeout streamId : ℤ}
    (hreads : Reads s.rtspStatus)
    (hafter : SessionAfter s (ofBytes (received s)) sessionId streamId)
    (hsession : SessionOk (afterResponse size sessionId timeout streamId s))
    (hwaits : WaitsForRequest (afterResponse size sessionId timeout streamId s)) :
    WireOk (afterResponse size sessionId timeout streamId s) := by
  obtain ⟨c, hc, hmatches⟩ := h.connected hreads.1
  have hseen : connection (s.trace ++ [.response (firstResponse size s)]) =
      some { c with
        outstanding := .none
        setup := if c.outstanding = .setup then some (firstResponse size s) else c.setup } := by
    rw [connection_append, hc]
    rfl
  have htrace : (afterResponse size sessionId timeout streamId s).trace =
      s.trace ++ [.response (firstResponse size s)] := rfl
  refine ⟨hsession, hwaits, ?_, ?_, h.inOrder.snoc (inOrder_of_quiet rfl _)⟩
  · rw [htrace, hseen]
    exact iff_of_false nofun (h.fd_ne_none hc)
  · rw [htrace, seen_of_connection hseen]
    by_cases hsetup : c.outstanding = .setup
    · have hdescribed : describedSession (ofBytes (received s)) = some (sessionId, streamId) := by
        rw [SessionAfter, if_pos (hmatches.request.trans hsetup)] at hafter
        exact hafter
      have hpositive : 0 < c.requests := hmatches.counted (Or.inl (by simp [hsetup]))
      simp only [if_pos hsetup]
      refine ⟨hmatches.cseq, rfl, fun _ ↦ hpositive, fun _ ↦ (by simp), ?_⟩
      intro response sessionId' streamId' hresponse hdescribes
      obtain rfl := Option.some.inj hresponse
      have hsame := hdescribes ((ofBytes (received s)).drop size)
      rw [← ofBytes_received_eq, hdescribed] at hsame
      obtain ⟨hid, hstream⟩ := Prod.mk.inj (Option.some.inj hsame)
      exact ⟨hid, hstream⟩
    · obtain ⟨rfl, rfl⟩ : sessionId = s.rtspSessionId ∧ streamId = s.rtspStreamId := by
        rw [SessionAfter, if_neg (by rw [hmatches.request]; exact hsetup)] at hafter
        exact hafter
      simp only [if_neg hsetup]
      refine ⟨hmatches.cseq, rfl, ?_, hmatches.known, hmatches.named⟩
      rintro (hnone | hanswered)
      · exact absurd rfl hnone
      · exact hmatches.counted (Or.inr hanswered)

theorem WireOk.connect (h : WireOk s) (hrtsp : s.rtspStatus = .configWaiting)
    (connect : Option ℕ) (hsession : SessionOk (startConnect now connect s))
    (hwaits : WaitsForRequest (startConnect now connect s)) :
    WireOk (startConnect now connect s) := by
  have hattempt : (attempt s).fd = s.fd ∧ (attempt s).rtspSessionId = s.rtspSessionId ∧
      (attempt s).rtspStreamId = s.rtspStreamId := by
    unfold attempt
    split <;> exact ⟨rfl, rfl, rfl⟩
  obtain ⟨hfd, hid, hstream⟩ := hattempt
  have hnone : connection s.trace = none := h.socket.mpr (h.session.socket.mpr hrtsp)
  cases connect with
  | none =>
    refine h.congr [.connectFailed, .armed now (reconnectDelay (attempt s).reconnectAttempts)]
      hsession hwaits hfd (rtspCseq_attempt s) (rtspRequest_attempt s) hid hstream ?_ ?_
    · change ((attempt s).trace ++ [.connectFailed]) ++ [.armed now _] = _
      rw [trace_attempt, List.append_assoc]
      rfl
    · simp only [List.mem_cons, List.not_mem_nil, or_false, forall_eq_or_imp, forall_eq]
      refine ⟨⟨?_, rfl⟩, ?_, rfl⟩ <;> rintro ⟨⟩ <;> rfl
  | some fd =>
    have htrace : (startConnect now (some fd) s).trace = s.trace ++ [.connected] := by
      change (attempt s).trace ++ [.connected] = _
      rw [trace_attempt]
    have hseen : connection (s.trace ++ [.connected]) = some {} := by
      rw [connection_append, hnone]
      rfl
    refine ⟨hsession, hwaits, ?_, ?_, ?_⟩
    · rw [htrace, hseen]
      exact iff_of_false nofun nofun
    · have hagrees : Matches s (seen s.trace) := h.agrees
      rw [seen, hnone] at hagrees
      rw [htrace, seen_of_connection hseen]
      obtain ⟨hcseq, hrequest, hcounted, hknown, hnamed⟩ := hagrees
      refine ⟨(rtspCseq_attempt s).trans hcseq, (rtspRequest_attempt s).trans hrequest, hcounted,
        ?_, by simp⟩
      intro hsession
      apply hknown
      unfold HasSession at hsession ⊢
      rw [← hid, ← hstream]
      exact hsession
    · rw [htrace]
      exact h.inOrder.snoc (inOrder_of_quiet rfl _)

theorem WireOk.action (h : WireOk s) (haction : Action now s source next) : WireOk next := by
  have hsession : SessionOk next := h.session.action haction
  have hwaits : WaitsForRequest next := h.waits.action haction
  have hnone : s.trace = s.trace ++ [] := (List.append_nil _).symm
  have hreset (mid : SatipRTSP) (hmid : Each InOrder mid.trace) (autoReconnect : Bool) :
      WireOk (resetConnect now autoReconnect mid) := wireOk_resetConnect now autoReconnect hmid
  cases haction with
  | vtuner call =>
    refine h.congr call.events hsession hwaits rfl rfl rfl rfl rfl rfl ?_
    intro event hevent
    refine ⟨unobserved_of_vtuner hevent, ?_⟩
    rcases VtunerCall.mem_events hevent with rfl | rfl <;> rfl
  | processTS => exact h.congr [] hsession hwaits rfl rfl rfl rfl rfl rfl (by simp)
  | cancel | keepAlive | settleResetConnect | settleKeepAlive | ready | buffer =>
    exact h.congr [] hsession hwaits rfl rfl rfl rfl rfl hnone (by simp)
  | connect connect hrtsp => exact h.connect hrtsp connect hsession hwaits
  | send source kind status text hsends hwait htext hknown =>
    exact h.send hsends hwait hknown hsession hwaits
  | lost source kind status text hsends hwait htext hknown =>
    exact hreset _ (h.inOrder_request hsends hwait hknown text false) true
  | refused => exact hreset (stopTimerKeepAliveMessage s) h.inOrder true
  | timeout | hangup => exact hreset s h.inOrder true
  | badResponse size =>
    exact hreset (record (.response (firstResponse size s)) (terminated s))
      (h.inOrder.snoc (inOrder_of_quiet rfl _)) true
  | expire =>
    have hevents : ∀ event ∈ [Event.expired now], event.Unobserved ∧ event.request? = none := by
      simp only [List.mem_singleton, forall_eq]
      refine ⟨?_, rfl⟩
      rintro ⟨⟩ <;> rfl
    unfold afterExpired timeoutReconnect at hsession hwaits ⊢
    cases hstatus : (record (.expired now) s).config.status with
    | invalid | changed | stable =>
      rw [hstatus] at hsession hwaits
      exact h.congr _ hsession hwaits rfl rfl rfl rfl rfl rfl hevents
  | frame size after _ _ hafter =>
    obtain ⟨config, rfl, _⟩ := rtpTcpData_cases hafter
    refine h.congr [.frame ((received s).take size)] hsession hwaits rfl rfl rfl rfl rfl rfl ?_
    simp only [List.mem_singleton, forall_eq]
    refine ⟨?_, rfl⟩
    rintro ⟨⟩ <;> rfl
  | response size sessionId timeout streamId hreads _ hafter =>
    exact h.response hreads hafter hsession hwaits
  | advance =>
    unfold advance at hsession hwaits ⊢
    rw [if_pos rfl] at hsession hwaits ⊢
    cases hstatus : s.rtspStatus <;> rw [hstatus] at hsession hwaits
    case sessionTeardowning => exact hreset s h.inOrder false
    all_goals exact h.congr [] hsession hwaits rfl rfl rfl rfl rfl hnone (by simp)

/-- What the client writes agrees with what the observer sees. -/
theorem Reachable.wireOk (h : Reachable s) : WireOk s := by
  refine Reachable.of_actions WireOk (fun _ _ _ _ hs haction ↦ hs.action haction) ?_ h
  intro args
  exact wireOk_resetConnect args.now false History.each_nil

/-! ## The text of a request -/

/-- The header that numbers a request. -/
def cseqHeader (number : ℕ) : List UInt8 := ascii ("CSeq: " ++ toString number ++ "\r\n")

/-- The header that names the session. -/
def sessionHeader (sessionId : List UInt8) : List UInt8 :=
  ascii "Session: " ++ sessionId ++ ascii "\r\n"

/-- The part of the url that names the stream. -/
def streamPath (streamId : ℤ) : List UInt8 := ascii ("stream=" ++ toString streamId)

/-- The text says what was recorded of the request. -/
structure Request.Legible (r : Request) : Prop where
  cseq : cseqHeader r.cseq <:+: r.text
  session : r.kind = .play ∨ r.kind = .option ∨ r.kind = .teardown →
    sessionHeader r.sessionId <:+: r.text
  stream : r.kind = .play ∨ r.kind = .teardown → streamPath r.streamId <:+: r.text

/-- All requests are legible. -/
def Legible (history : List Event) : Prop :=
  ∀ event ∈ history, ∀ r, event.request? = some r → r.Legible

theorem legible_append_quiet {history events : List Event} (h : Legible history)
    (hquiet : ∀ event ∈ events, event.request? = none) : Legible (history ++ events) := by
  intro event hevent r hr
  rcases List.mem_append.mp hevent with hmem | hmem
  · exact h event hmem r hr
  · rw [hquiet event hmem] at hr
    cases hr

theorem legible_resetConnect (autoReconnect : Bool) (h : Legible s.trace) :
    Legible (resetConnect now autoReconnect s).trace := by
  obtain ⟨events, htrace, hquiet⟩ := trace_resetConnect now autoReconnect s
  rw [htrace]
  exact legible_append_quiet h hquiet

theorem cseqHeader_mem_cseqLines (s : SatipRTSP) : cseqHeader s.rtspCseq <:+: cseqLines s := by
  refine ⟨ascii " RTSP/1.0\r\n", [], ?_⟩
  rw [List.append_nil, cseqHeader, ← CString.ascii_append, cseqLines, ← String.append_assoc,
    ← String.append_assoc]
  rfl

theorem legible_write {kind : RtspRequest} {config : Config.SatipConfig} {text : List UInt8}
    (h : Legible s.trace) (hcseq : cseqLines s <:+: text)
    (hsession : kind = .play ∨ kind = .option ∨ kind = .teardown → sessionLine s <:+: text)
    (hstream : kind = .play ∨ kind = .teardown → streamUrl s <:+: text) (sent : Bool) :
    Legible (write kind config text sent s).2.trace := by
  intro event hevent r hr
  rcases List.mem_append.mp hevent with hmem | hmem
  · exact h event hmem r hr
  · rw [List.mem_singleton.mp hmem] at hr
    obtain rfl := Option.some.inj hr
    exact ⟨(cseqHeader_mem_cseqLines s).trans hcseq, hsession, hstream⟩

/-- A part of the front is a part of the whole. -/
theorem infix_append_left {part front : List UInt8} (h : part <:+: front) (back : List UInt8) :
    part <:+: front ++ back := h.trans (List.prefix_append front back).isInfix

theorem infix_append_right (front part : List UInt8) : part <:+: front ++ part :=
  (List.suffix_append front part).isInfix

theorem legible_sendKind (h : Legible s.trace) (sent : Bool) (kind : RtspRequest) :
    Legible (sendKind sent s kind).2.trace := by
  cases kind with
  | none => exact h
  | describe =>
    apply legible_write h
    · exact infix_append_left (infix_append_right _ _) _
    · simp
    · simp
  | setup =>
    apply legible_write h
    · exact infix_append_left (infix_append_left (infix_append_left (infix_append_right _ _) _) _) _
    · simp
    · simp
  | option =>
    change Legible (sendOption sent s).2.trace
    unfold sendOption
    split_ifs
    · apply legible_write h
      · exact infix_append_left (infix_append_left (infix_append_right _ _) _) _
      · exact fun _ ↦ infix_append_left (infix_append_right _ _) _
      · simp
    · exact h
  | play =>
    change Legible (sendPlay sent s).2.trace
    unfold sendPlay
    split_ifs
    · apply legible_write h
      · exact infix_append_left (infix_append_left (infix_append_right _ _) _) _
      · exact fun _ ↦ infix_append_left (infix_append_right _ _) _
      · exact fun _ ↦ infix_append_left (infix_append_left (infix_append_left (infix_append_left
          (infix_append_right _ _) _) _) _) _
    · exact h
  | teardown =>
    change Legible (sendTearDown sent s).2.trace
    unfold sendTearDown
    split_ifs
    · apply legible_write h
      · exact infix_append_left (infix_append_left (infix_append_right _ _) _) _
      · exact fun _ ↦ infix_append_left (infix_append_right _ _) _
      · exact fun _ ↦ infix_append_left (infix_append_left (infix_append_left
          (infix_append_right _ _) _) _) _
    · exact h

theorem legible_sendRequest (h : Legible s.trace) (kind : RtspRequest) (sent : Bool) :
    Legible (sendRequest now kind sent s).2.trace := by
  unfold sendRequest
  split_ifs
  · exact h
  · have hkind : Legible (sendKind sent (stopTimerKeepAliveMessage s) kind).2.trace :=
      legible_sendKind (s := stopTimerKeepAliveMessage s) h sent kind
    dsimp only
    split_ifs
    · exact hkind
    · exact legible_resetConnect true hkind

theorem legible_sendAndMove (h : Legible s.trace) (kind : RtspRequest) (status : RtspStatus)
    (sent : Bool) : Legible (sendAndMove now kind status sent s).trace := by
  have hsend : Legible (sendRequest now kind sent s).2.trace := legible_sendRequest h kind sent
  rcases sendAndMove_cases now kind sent s status with ⟨heq, _⟩ | ⟨heq, _⟩ <;> rw [heq] <;>
    exact hsend

theorem legible_handleRTSPStatus (h : Legible s.trace) (connect : Option ℕ) (sent : Bool) :
    Legible (handleRTSPStatus now connect sent s).trace := by
  have hattempt : Legible (attempt s).trace := by
    rw [trace_attempt]
    exact h
  unfold handleRTSPStatus
  cases s.rtspStatus with
  | configWaiting =>
    dsimp only
    cases s.config.status with
    | invalid | stable => exact h
    | changed =>
      cases connect with
      | some fd => exact legible_append_quiet hattempt (by simp [Event.request?])
      | none =>
        have hfailed : Legible ((attempt s).trace ++ [.connectFailed]) :=
          legible_append_quiet hattempt (by simp [Event.request?])
        exact legible_append_quiet hfailed (by simp [Event.request?])
  | serverConnecting | sessionTeardowning => exact h
  | sessionEstablishing | sessionPlaying => exact legible_sendRequest h _ sent
  | sessionTransmitting =>
    dsimp only
    unfold maintainSession
    split_ifs
    · exact legible_sendAndMove h _ _ sent
    · exact legible_sendAndMove h _ _ sent
    · exact h
    · exact h

theorem legible_handleNextTimer (h : Legible s.trace) (sent : Bool) :
    Legible (handleNextTimer now sent s).trace := by
  refine @handleNextTimer_rule (fun mid ↦ Legible mid.trace) now sent ?_ ?_ ?_ s h
  · exact fun _ hmid ↦ legible_resetConnect true hmid
  · exact fun _ hmid _ ↦ legible_sendRequest hmid .option sent
  · intro mid hmid
    have hexpired : Legible (mid.trace ++ [.expired now]) :=
      legible_append_quiet hmid (by simp [Event.request?])
    change Legible (timeoutReconnect (record (.expired now) mid)).trace
    unfold timeoutReconnect
    split <;> exact hexpired

/-- Actions that send nothing. -/
theorem legible_of_quiet {sources : Set Source} (h : Legible s.trace)
    (hquiet : Source.status ∉ sources ∧ Source.timer ∉ sources)
    (hactions : Actions now sources s next) : Legible next.trace := by
  refine actions_invariant (fun mid ↦ Legible mid.trace) ?_ hactions h
  intro mid source after hsource hmid haction
  obtain ⟨events, htrace, hadds⟩ := adds_of_action haction
  rw [htrace]
  cases hadds with
  | quiet _ hnone => exact legible_append_quiet hmid hnone
  | request kind status text sent events hsends =>
    exfalso
    cases hsends with
    | option => exact hquiet.2 hsource
    | setup | play | update | teardown => exact hquiet.1 hsource

theorem legible_step {op : Op} (h : Legible s.trace) (hnext : step s op = some next) :
    Legible next.trace := by
  have hactions : Actions op.time op.sources s next := actions_of_step hnext
  cases op with
  | handleRTSPStatus now connect sent =>
    obtain rfl := Option.some.inj hnext
    exact legible_handleRTSPStatus h connect sent
  | handleNextTimer now sent =>
    obtain rfl := Option.some.inj hnext
    exact legible_handleNextTimer h sent
  | handlePollEvents now events recv =>
    refine legible_of_quiet h ?_ hactions
    unfold Op.sources
    dsimp only
    split_ifs <;> simp
  | vtuner call =>
    refine legible_of_quiet h ?_ hactions
    exact ⟨nofun, nofun⟩
  | processTS data =>
    refine legible_of_quiet h ?_ hactions
    exact ⟨nofun, nofun⟩

/-- All requests of a session are legible. -/
theorem Reachable.legible (h : Reachable s) : Legible s.trace := by
  obtain ⟨args, hreach⟩ := h
  have hstart : Legible args.start.trace := by
    apply legible_resetConnect
    simp [Legible]
  exact hreach.invariant (fun _ _ _ hs hnext ↦ legible_step hs hnext) hstart

/-! ## The discipline -/

/-- A stream is set up and played. -/
def playRun : List Op :=
  setupRun ++ [receive setupResponse, .handleRTSPStatus {} none true]

theorem describes_setupResponse : Describes setupResponse (ascii "1") 1 := by
  have hsession : headerValue "Session" 58 setupResponse =
      some (ascii "1;timeout=60\r\ncom.ses.streamID: 1\r\n\r\n") := by decide +kernel
  have hstream : headerValue "com.ses.streamID" 58 setupResponse =
      some (ascii "1\r\n\r\n") := by decide +kernel
  exact describes_of_headers (by decide +kernel) hsession (by decide) hstream (by decide)

/-- The stream is played, and later the keep alive timer expires. -/
def optionRun : List Op :=
  playRun ++ [receive plainResponse, .handleRTSPStatus {} none true,
    .handleNextTimer { sec := 100 } true]

end SatipClient.RTSP
