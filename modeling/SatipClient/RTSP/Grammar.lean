import Mathlib.Computability.DFA
import SatipClient.Foundation.History
import SatipClient.RTSP.Wire

/-!
# The requests of a session

The requests that are written on one connection, in order, form a word: a SETUP, which may be
repeated, then PLAYs and OPTIONS that begin with a PLAY, and at the end at most one TEARDOWN
(`requests_methods`).  The automaton of these words is the session as the server sees it; the status
of the client says where in it a connection is (`StageOf`).
-/

namespace SatipClient.RTSP

open History (Each)

/-! ## The words -/

/-- How far a session is, as the server sees it. -/
inductive Stage where
  | opened
  | settingUp
  | playing
  | closing
  /-- a request came that has no place in a session -/
  | broken
  deriving DecidableEq

/-- The session as an automaton that reads requests. -/
def sessionDFA : DFA RtspRequest Stage where
  start := .opened
  accept := {stage | stage ≠ .broken}
  step
    | .opened, .setup | .settingUp, .setup => .settingUp
    | .settingUp, .play | .playing, .play | .playing, .option => .playing
    | .playing, .teardown => .closing
    | _, _ => .broken

/-- One or more SETUPs. -/
def setupPart : Language RtspRequest := {[.setup]} * KStar.kstar {[.setup]}

/-- A PLAY with further ones and OPTIONS behind it. -/
def playPart : Language RtspRequest := {[.play]} * KStar.kstar ({[.play]} + {[.option]})

/-- The words of a session, as a regular expression. -/
def methods : Language RtspRequest := 1 + setupPart * (1 + playPart * (1 + {[.teardown]}))

/-- The words that lead to a stage. -/
def wordsTo : Stage → Language RtspRequest
  | .opened => 1
  | .settingUp => setupPart
  | .playing => setupPart * playPart
  | .closing => setupPart * playPart * {[.teardown]}
  | .broken => ⊤

theorem mem_kstar_snoc {l : Language RtspRequest} {word : List RtspRequest} {kind : RtspRequest}
    (hword : word ∈ KStar.kstar l) (hkind : [kind] ∈ l) : word ++ [kind] ∈ KStar.kstar l := by
  rw [← kstar_mul_kstar]
  exact Language.append_mem_mul hword ((le_kstar : l ≤ KStar.kstar l) hkind)

/-- A word of a repeated part may be continued. -/
theorem mem_mul_kstar_snoc {front l : Language RtspRequest} {word : List RtspRequest}
    {kind : RtspRequest} (hword : word ∈ front * KStar.kstar l) (hkind : [kind] ∈ l) :
    word ++ [kind] ∈ front * KStar.kstar l := by
  obtain ⟨first, hfirst, rest, hrest, rfl⟩ := Language.mem_mul.mp hword
  rw [List.append_assoc]
  exact Language.append_mem_mul hfirst (mem_kstar_snoc hrest hkind)

theorem mem_setupPart_one : [.setup] ∈ setupPart :=
  Language.mem_mul.mpr ⟨[.setup], rfl, [], Language.nil_mem_kstar _, rfl⟩

theorem mem_playPart_one : [.play] ∈ playPart :=
  Language.mem_mul.mpr ⟨[.play], rfl, [], Language.nil_mem_kstar _, rfl⟩

/-- Another request in the playing part. -/
theorem mem_playing_snoc {word : List RtspRequest} {kind : RtspRequest}
    (hword : word ∈ setupPart * playPart)
    (hkind : [kind] ∈ ({[.play]} + {[.option]} : Language RtspRequest)) :
    word ++ [kind] ∈ setupPart * playPart := by
  obtain ⟨front, hfront, rest, hrest, rfl⟩ := Language.mem_mul.mp hword
  rw [List.append_assoc]
  exact Language.append_mem_mul hfront (mem_mul_kstar_snoc hrest hkind)

/-- Reading a request leads from the words of one stage to those of the next. -/
theorem mem_wordsTo_step {stage : Stage} {word : List RtspRequest} (hword : word ∈ wordsTo stage)
    (kind : RtspRequest) : word ++ [kind] ∈ wordsTo (sessionDFA.step stage kind) := by
  cases stage with
  | opened =>
    obtain rfl : word = [] := hword
    cases kind with
    | setup => exact mem_setupPart_one
    | none | option | play | teardown | describe => trivial
  | settingUp =>
    cases kind with
    | setup => exact mem_mul_kstar_snoc hword rfl
    | play => exact Language.append_mem_mul hword mem_playPart_one
    | none | option | teardown | describe => trivial
  | playing =>
    cases kind with
    | play => exact mem_playing_snoc hword (Or.inl rfl)
    | option => exact mem_playing_snoc hword (Or.inr rfl)
    | teardown => exact Language.append_mem_mul hword rfl
    | none | setup | describe => trivial
  | closing | broken => trivial

theorem mem_wordsTo_eval (word : List RtspRequest) : word ∈ wordsTo (sessionDFA.eval word) := by
  induction word using List.reverseRecOn with
  | nil => rfl
  | append_singleton word kind ih =>
    rw [DFA.eval_append_singleton]
    exact mem_wordsTo_step ih kind

/-- What the automaton accepts is a word of the expression. -/
theorem mem_methods_of_accepts {word : List RtspRequest} (h : sessionDFA.eval word ≠ .broken) :
    word ∈ methods := by
  have hnil {front : List RtspRequest} {l m : Language RtspRequest} (hfront : front ∈ l) :
      front ∈ l * (1 + m) := by
    rw [← List.append_nil front]
    exact Language.append_mem_mul hfront (Or.inl rfl)
  have hword : word ∈ wordsTo (sessionDFA.eval word) := mem_wordsTo_eval word
  cases hstage : sessionDFA.eval word with
  | broken => exact absurd hstage h
  | opened =>
    rw [hstage] at hword
    exact Or.inl hword
  | settingUp =>
    rw [hstage] at hword
    exact Or.inr (hnil hword)
  | playing =>
    rw [hstage] at hword
    obtain ⟨front, hfront, rest, hrest, rfl⟩ := Language.mem_mul.mp hword
    exact Or.inr (Language.append_mem_mul hfront (Or.inr (hnil hrest)))
  | closing =>
    rw [hstage] at hword
    obtain ⟨front, hfront, last, hlast, rfl⟩ := Language.mem_mul.mp hword
    obtain ⟨setups, hsetups, plays, hplays, rfl⟩ := Language.mem_mul.mp hfront
    rw [List.append_assoc]
    exact Or.inr (Language.append_mem_mul hsetups
      (Or.inr (Language.append_mem_mul hplays (Or.inr hlast))))

/-! ## The words of a history -/

/-- What an event makes of the word of its connection. -/
def readEvent : List RtspRequest → Event → List RtspRequest
  | _, .connected | _, .disconnected => []
  | word, .request r _ => word ++ [r.kind]
  | word, _ => word

/-- The requests that were written on the connection, in order. -/
def requests (history : List Event) : List RtspRequest := history.foldl readEvent []

/-- The stage behind a history. -/
def stage (history : List Event) : Stage := sessionDFA.eval (requests history)

/-- The event belongs to no word. -/
def Event.Silent (event : Event) : Prop := ∀ word, readEvent word event = word

theorem stage_silent {events : List Event} (h : ∀ event ∈ events, event.Silent)
    (history : List Event) : stage (history ++ events) = stage history := by
  have hsame : requests (history ++ events) = requests history := by
    rw [requests, List.foldl_append, ← requests]
    generalize requests history = word
    induction events with
    | nil => rfl
    | cons event events ih =>
      rw [List.foldl_cons, h event List.mem_cons_self word]
      exact ih fun other hother ↦ h other (List.mem_cons_of_mem event hother)
  rw [stage, hsame, stage]

theorem stage_request (history : List Event) (r : Request) (sent : Bool) :
    stage (history ++ [.request r sent]) = sessionDFA.step (stage history) r.kind := by
  rw [stage, requests, List.foldl_append]
  exact DFA.eval_append_singleton _ _ _

theorem stage_disconnected (history : List Event) :
    stage (history ++ [.disconnected]) = .opened := by
  rw [stage, requests, List.foldl_append]
  rfl

variable {s next : SatipRTSP} {now : Timespec} {source : Source}

/-- No event takes the session to a stage that it does not have. -/
def Sound (front : List Event) (event : Event) : Prop := stage (front ++ [event]) ≠ .broken

theorem each_sound_silent {history events : List Event} (h : Each Sound history)
    (hstage : stage history ≠ .broken) (hevents : ∀ event ∈ events, event.Silent) :
    Each Sound (history ++ events) := by
  induction events using List.reverseRecOn with
  | nil => simpa using h
  | append_singleton events event ih =>
    have hfront : ∀ other ∈ events, other.Silent := fun other hother ↦
      hevents other (List.mem_append_left [event] hother)
    rw [← List.append_assoc]
    apply (ih hfront).snoc
    rw [Sound, List.append_assoc, stage_silent hevents]
    exact hstage

/-- What a reset adds: the connection is gone. -/
theorem events_resetConnect (now : Timespec) (autoReconnect : Bool) (s : SatipRTSP) :
    ∃ events, (resetConnect now autoReconnect s).trace = (s.trace ++ [.disconnected]) ++ events ∧
      ∀ event ∈ events, event.Silent := by
  rcases resetConnect_cases now autoReconnect s with ⟨heq, _⟩ | ⟨heq, _⟩
  · exact ⟨[], by rw [heq, List.append_nil]; rfl, by simp⟩
  · refine ⟨[.armed now (reconnectDelay s.reconnectAttempts)], by rw [heq]; rfl, ?_⟩
    intro event hevent
    rw [List.mem_singleton.mp hevent]
    exact fun _ ↦ rfl

/-! ## The client -/

/-- The stages of a connection in each status of the client, and whether it waits for a response. -/
inductive StageOf : RtspStatus → Bool → Stage → Prop where
  | waiting (wait : Bool) : StageOf .configWaiting wait .opened
  | connecting (wait : Bool) : StageOf .serverConnecting wait .opened
  | fresh : StageOf .sessionEstablishing false .opened
  | settingUp (wait : Bool) : StageOf .sessionEstablishing wait .settingUp
  | ready : StageOf .sessionPlaying false .settingUp
  | playing (wait : Bool) : StageOf .sessionPlaying wait .playing
  | transmitting (wait : Bool) : StageOf .sessionTransmitting wait .playing
  | closing (wait : Bool) : StageOf .sessionTeardowning wait .closing

/-- The requests written so far are in order, and the next one will be. -/
structure Ordered (s : SatipRTSP) : Prop where
  session : SessionOk s
  waits : WaitsForRequest s
  fits : StageOf s.rtspStatus s.waitResponse (stage s.trace)
  sound : Each Sound s.trace

theorem StageOf.ne_broken {status : RtspStatus} {wait : Bool} {stage : Stage}
    (h : StageOf status wait stage) : stage ≠ .broken := by
  cases h <;> nofun

theorem StageOf.idle {status : RtspStatus} {wait : Bool} {stage : Stage}
    (h : StageOf status wait stage) : StageOf status false stage := by
  cases h with
  | fresh => exact .fresh
  | ready => exact .ready
  | waiting | connecting | settingUp | playing | transmitting | closing => constructor

/-- The request that is sent is the one the session needs. -/
theorem StageOf.sends (h : SessionOk s)
    (hfits : StageOf s.rtspStatus s.waitResponse (stage s.trace)) {kind : RtspRequest}
    {status : RtspStatus} (hsends : Sends s source kind status) :
    StageOf status true (sessionDFA.step (stage s.trace) kind) := by
  cases hsends with
  | setup hstatus =>
    rw [hstatus] at hfits
    generalize stage s.trace = stage, s.waitResponse = wait at hfits
    cases hfits <;> exact .settingUp true
  | play hstatus =>
    rw [hstatus] at hfits
    generalize stage s.trace = stage, s.waitResponse = wait at hfits
    cases hfits <;> exact .playing true
  | update hstatus =>
    rw [hstatus] at hfits
    generalize stage s.trace = stage, s.waitResponse = wait at hfits
    cases hfits
    exact .playing true
  | teardown hstatus =>
    rw [hstatus] at hfits
    generalize stage s.trace = stage, s.waitResponse = wait at hfits
    cases hfits
    exact .closing true
  | option hactive =>
    rw [h.keepAlive hactive] at hfits ⊢
    generalize stage s.trace = stage, s.waitResponse = wait at hfits
    cases hfits
    exact .transmitting true

theorem Ordered.of_silent (h : Ordered s) (events : List Event) (hsession : SessionOk next)
    (hwaits : WaitsForRequest next) (hstatus : next.rtspStatus = s.rtspStatus)
    (hwait : next.waitResponse = s.waitResponse) (htrace : next.trace = s.trace ++ events)
    (hevents : ∀ event ∈ events, event.Silent) : Ordered next := by
  refine ⟨hsession, hwaits, ?_, ?_⟩
  · rw [hstatus, hwait, htrace, stage_silent hevents]
    exact h.fits
  · rw [htrace]
    exact each_sound_silent h.sound h.fits.ne_broken hevents

theorem ordered_resetConnect (now : Timespec) (autoReconnect : Bool) (h : Each Sound s.trace) :
    Ordered (resetConnect now autoReconnect s) := by
  obtain ⟨events, htrace, hevents⟩ := events_resetConnect now autoReconnect s
  have hstage : stage (s.trace ++ [.disconnected]) = .opened := stage_disconnected s.trace
  have hsound : Each Sound (s.trace ++ [.disconnected]) := h.snoc (by rw [Sound, hstage]; nofun)
  refine ⟨sessionOk_resetConnect now autoReconnect, waitsForRequest_resetConnect _ _ _, ?_, ?_⟩
  · rw [rtspStatus_resetConnect, htrace, stage_silent hevents, hstage]
    exact .waiting _
  · rw [htrace]
    exact each_sound_silent hsound (by rw [hstage]; nofun) hevents

/-- One more request. -/
theorem Ordered.sound_request (h : Ordered s) {kind : RtspRequest} {status : RtspStatus}
    (hsends : Sends s source kind status) (text : List UInt8) (sent : Bool) :
    Each Sound (s.trace ++ [.request (writtenRequest kind text s) sent]) := by
  apply h.sound.snoc
  rw [Sound, stage_request]
  exact (StageOf.sends h.session h.fits hsends).ne_broken

theorem Ordered.send (h : Ordered s) {kind : RtspRequest} {status : RtspStatus}
    {text : List UInt8} (hsends : Sends s source kind status)
    (hsession : SessionOk (afterSent now kind status text s))
    (hwaits : WaitsForRequest (afterSent now kind status text s)) :
    Ordered (afterSent now kind status text s) := by
  refine ⟨hsession, hwaits, ?_, h.sound_request hsends text true⟩
  change StageOf status true (stage (s.trace ++ [.request (writtenRequest kind text s) true]))
  rw [stage_request]
  exact StageOf.sends h.session h.fits hsends

theorem silent_of_vtuner {call : VtunerCall} {event : Event} (h : event ∈ call.events) :
    event.Silent := by
  rcases VtunerCall.mem_events h with rfl | rfl <;> exact fun _ ↦ rfl

theorem Ordered.connect (h : Ordered s) (connect : Option ℕ)
    (hsession : SessionOk (startConnect now connect s))
    (hwaits : WaitsForRequest (startConnect now connect s)) :
    Ordered (startConnect now connect s) := by
  cases connect with
  | none =>
    refine h.of_silent [.connectFailed, .armed now (reconnectDelay (attempt s).reconnectAttempts)]
      hsession hwaits (rtspStatus_attempt s) (waitResponse_attempt s) ?_ ?_
    · change ((attempt s).trace ++ [.connectFailed]) ++ [.armed now _] = _
      rw [trace_attempt, List.append_assoc]
      rfl
    · simp only [List.mem_cons, List.not_mem_nil, or_false, forall_eq_or_imp, forall_eq]
      exact ⟨fun _ ↦ rfl, fun _ ↦ rfl⟩
  | some fd =>
    have htrace : (startConnect now (some fd) s).trace = s.trace ++ [.connected] := by
      change (attempt s).trace ++ [.connected] = _
      rw [trace_attempt]
    have hstage : stage (s.trace ++ [.connected]) = .opened := by
      rw [stage, requests, List.foldl_append]
      rfl
    refine ⟨hsession, hwaits, ?_, ?_⟩
    · rw [htrace, hstage]
      exact .connecting _
    · rw [htrace]
      exact h.sound.snoc (by rw [Sound, hstage]; nofun)

/-- Every action keeps the order, except that behind a complete response the order also needs the
response to be one that was waited for. -/
theorem Ordered.action (h : Ordered s) (haction : Action now s source next)
    (hsource : source ≠ .completion) : Ordered next := by
  have hsession : SessionOk next := h.session.action haction
  have hwaits : WaitsForRequest next := h.waits.action haction
  have hnone : s.trace = s.trace ++ [] := (List.append_nil _).symm
  have hreset (mid : SatipRTSP) (hmid : Each Sound mid.trace) (autoReconnect : Bool) :
      Ordered (resetConnect now autoReconnect mid) := ordered_resetConnect now autoReconnect hmid
  cases haction with
  | vtuner call =>
    exact h.of_silent call.events hsession hwaits rfl rfl rfl fun _ hevent ↦
      silent_of_vtuner hevent
  | processTS => exact h.of_silent [] hsession hwaits rfl rfl rfl (by simp)
  | cancel | keepAlive | settleResetConnect | settleKeepAlive | buffer =>
    exact h.of_silent [] hsession hwaits rfl rfl hnone (by simp)
  | ready hrtsp =>
    refine ⟨hsession, hwaits, ?_, h.sound⟩
    have hwait : s.waitResponse = false := h.session.wait_eq_false (Or.inr hrtsp)
    have hfits : StageOf .serverConnecting s.waitResponse (stage s.trace) := hrtsp ▸ h.fits
    change StageOf .sessionEstablishing s.waitResponse (stage s.trace)
    rw [hwait]
    generalize stage s.trace = stage at hfits
    cases hfits
    exact .fresh
  | connect connect => exact h.connect connect hsession hwaits
  | send source kind status text hsends => exact h.send hsends hsession hwaits
  | lost source kind status text hsends =>
    exact hreset _ (h.sound_request hsends text false) true
  | refused => exact hreset (stopTimerKeepAliveMessage s) h.sound true
  | timeout | hangup => exact hreset s h.sound true
  | badResponse size =>
    exact hreset (record (.response (firstResponse size s)) (terminated s))
      (each_sound_silent h.sound h.fits.ne_broken (by
        intro event hevent
        rw [List.mem_singleton.mp hevent]
        exact fun _ ↦ rfl)) true
  | expire =>
    have hevents : ∀ event ∈ [Event.expired now], event.Silent := by
      simp only [List.mem_singleton, forall_eq]
      exact fun _ ↦ rfl
    unfold afterExpired timeoutReconnect at hsession hwaits ⊢
    cases hstatus : (record (.expired now) s).config.status with
    | invalid | changed | stable =>
      rw [hstatus] at hsession hwaits
      exact h.of_silent _ hsession hwaits rfl rfl rfl hevents
  | frame size after _ _ hafter =>
    obtain ⟨config, rfl, _⟩ := rtpTcpData_cases hafter
    refine h.of_silent [.frame ((received s).take size)] hsession hwaits rfl rfl rfl ?_
    simp only [List.mem_singleton, forall_eq]
    exact fun _ ↦ rfl
  | response size =>
    have hsilent : ∀ event ∈ [Event.response (firstResponse size s)], event.Silent := by
      simp only [List.mem_singleton, forall_eq]
      exact fun _ ↦ rfl
    refine ⟨hsession, hwaits, ?_, each_sound_silent h.sound h.fits.ne_broken hsilent⟩
    change StageOf s.rtspStatus false (stage (s.trace ++ [.response (firstResponse size s)]))
    rw [stage_silent hsilent]
    exact h.fits.idle
  | advance => exact absurd rfl hsource

/-! ## Complete responses -/

theorem StageOf.stage_of_silent {mid : SatipRTSP} {events : List Event} {wait : Bool}
    (h : StageOf mid.rtspStatus wait (stage mid.trace)) (hstatus : next.rtspStatus = mid.rtspStatus)
    (htrace : next.trace = mid.trace ++ events) (hevents : ∀ event ∈ events, event.Silent) :
    StageOf next.rtspStatus wait (stage next.trace) := by
  rw [hstatus, htrace, stage_silent hevents]
  exact h

/-- The loop of `handleResponse` keeps the order, and it only gets to a complete response where one
was waited for. -/
theorem Ordered.loop (h : Ordered s) (hreads : Reads s.rtspStatus) {res : Result}
    (hloop : loop now .error 0 s = some (res, next)) :
    Ordered next ∧ (res = .responseComplete → StageOf s.rtspStatus true (stage next.trace)) := by
  -- a request is outstanding until the first response, which is when the result changes
  refine loop_rule (fun res _ mid ↦ Ordered mid ∧ mid.rtspStatus = s.rtspStatus ∧
      (StageOf mid.rtspStatus true (stage mid.trace) ∨ res = .error ∧ mid.rtspRequest = .none))
    (fun res mid ↦ Ordered mid ∧
      (res = .responseComplete → StageOf s.rtspStatus true (stage mid.trace))) ?_ ?_ hloop
  · rintro res resCode mid r ⟨hmid, hstatus, hwaited⟩ hcase
    rw [← hstatus] at hreads ⊢
    have hordered {after : SatipRTSP} (haction : Action now mid .receive after) : Ordered after :=
      hmid.action haction nofun
    have hresponse (size : ℕ) (sessionId : List UInt8) (timeout streamId : ℤ)
        (hfits : StageOf mid.rtspStatus true (stage mid.trace)) :
        StageOf mid.rtspStatus true
          (stage (afterResponse size sessionId timeout streamId mid).trace) := by
      apply @StageOf.stage_of_silent (afterResponse size sessionId timeout streamId mid) mid
        [.response (firstResponse size mid)] true hfits rfl rfl
      simp only [List.mem_singleton, forall_eq]
      exact fun _ ↦ rfl
    have hknown (hrequest : mid.rtspRequest = .none → res = .responseComplete) :
        StageOf mid.rtspStatus true (stage mid.trace) := by
      rcases hwaited with hfits | ⟨herror, hnone⟩
      · exact hfits
      · cases herror.symm.trans (hrequest hnone)
    cases hcase with
    | wait res' s' _ hs' hres' =>
      have hnot : res' = .responseComplete → StageOf mid.rtspStatus true (stage s'.trace) := by
        rintro rfl
        rcases hres' with hok | ⟨herror, _⟩
        · cases hok
        · cases herror
      rcases hs' with rfl | rfl
      · exact ⟨hmid, hnot⟩
      · exact ⟨hordered (.buffer _ _ hreads), hnot⟩
    | frame size after hmessage hafter =>
      refine ⟨hordered (.frame size after hreads hmessage hafter), ?_⟩
      obtain ⟨config, rfl, _⟩ := rtpTcpData_cases hafter
      refine ⟨rfl, ?_⟩
      rcases hwaited with hfits | hnone
      · refine Or.inl (hfits.stage_of_silent rfl rfl ?_)
        simp only [List.mem_singleton, forall_eq]
        exact fun _ ↦ rfl
      · exact Or.inr hnone
    | reset size hmessage =>
      exact ⟨hordered (.badResponse size hreads hmessage), nofun⟩
    | more size sessionId timeout streamId _ hmessage _ hrequest _ hsession =>
      exact ⟨hordered (.response size sessionId timeout streamId hreads hmessage hsession), rfl,
        Or.inl (hresponse size sessionId timeout streamId (hknown hrequest))⟩
    | last size sessionId timeout streamId hmessage hrequest _ hsession =>
      exact ⟨hordered (.response size sessionId timeout streamId hreads hmessage hsession),
        fun _ ↦ hresponse size sessionId timeout streamId (hknown hrequest)⟩
  · refine ⟨h, rfl, ?_⟩
    cases hwait : s.waitResponse with
    | true => exact Or.inl (hwait ▸ h.fits)
    | false => exact Or.inr ⟨rfl, h.waits.mpr hwait⟩

/-- Behind the response that was waited for, the session moves on. -/
theorem Ordered.advance (h : Ordered s) (hreads : Reads s.rtspStatus)
    (hwait : s.waitResponse = false) (hrequest : s.rtspRequest = .none)
    (hfits : StageOf s.rtspStatus true (stage s.trace)) :
    Ordered (advance now s.rtspStatus .responseComplete s) := by
  have haction : Action now s .completion (RTSP.advance now s.rtspStatus .responseComplete s) :=
    .advance hreads hwait hrequest
  have hsession := h.session.action haction
  have hwaits := h.waits.action haction
  unfold RTSP.advance at hsession hwaits ⊢
  rw [if_pos rfl] at hsession hwaits ⊢
  cases hstatus : s.rtspStatus with
  | configWaiting | serverConnecting | sessionTransmitting => exact h
  | sessionTeardowning => exact ordered_resetConnect now false h.sound
  | sessionEstablishing =>
    rw [hstatus] at hsession hwaits hfits
    refine ⟨hsession, hwaits, ?_, h.sound⟩
    change StageOf .sessionPlaying s.waitResponse (stage s.trace)
    rw [hwait]
    generalize stage s.trace = stage at hfits
    cases hfits
    exact .ready
  | sessionPlaying =>
    rw [hstatus] at hsession hwaits hfits
    refine ⟨hsession, hwaits, ?_, h.sound⟩
    change StageOf .sessionTransmitting s.waitResponse (stage s.trace)
    generalize stage s.trace = stage at hfits
    cases hfits
    exact .transmitting _

theorem Ordered.read (h : Ordered s) {recv : Recv} {res : Result} (hreads : Reads s.rtspStatus)
    (hread : handleResponse now recv s = some (res, next)) :
    Ordered (RTSP.advance now s.rtspStatus res next) := by
  obtain ⟨_, hcomplete⟩ := actions_of_handleResponse hreads hread
  have hbuffer (rxData : Memory.Block) (rxDataPos : ℤ) :
      Ordered (withBuffer rxData rxDataPos s) := by
    have haction : Action now s .receive (withBuffer rxData rxDataPos s) :=
      .buffer rxData rxDataPos hreads
    exact h.action haction nofun
  have hnext : Ordered next ∧
      (res = .responseComplete → StageOf s.rtspStatus true (stage next.trace)) := by
    rcases handleResponse_cases hread with ⟨rfl, rxDataPos, rfl⟩ | ⟨rxData, rxDataPos, _, hloop⟩
    · exact ⟨hbuffer s.rxData rxDataPos, nofun⟩
    · exact (hbuffer rxData rxDataPos).loop hreads hloop
  by_cases hres : res = .responseComplete
  · subst hres
    obtain ⟨hstatus, hwait, hrequest⟩ := hcomplete rfl
    have hfits := hnext.2 rfl
    rw [← hstatus] at hreads hfits ⊢
    exact hnext.1.advance hreads hwait hrequest hfits
  · rw [advance_of_ne hres]
    exact hnext.1

/-! ## Sessions -/

theorem Ordered.step {op : Op} (h : Ordered s) (hstep : step s op = some next) : Ordered next := by
  have hactions : Actions op.time op.sources s next := actions_of_step hstep
  have hother (hsources : Source.completion ∉ op.sources) : Ordered next :=
    actions_invariant Ordered (fun mid source after hsource hmid haction ↦
      hmid.action haction (fun heq ↦ hsources (heq ▸ hsource))) hactions h
  cases op with
  | handleRTSPStatus | vtuner | processTS => exact hother nofun
  | handleNextTimer => exact hother (by simp [Op.sources])
  | handlePollEvents now events recv =>
    have hcase : PollCase now events recv s next := pollCase_of_handlePollEvents hstep
    cases hcase with
    | broken hbroken => exact ordered_resetConnect now true h.sound
    | idle => exact h
    | ready hopen hstatus =>
      have haction : Action now s .receive (startSession s) := .ready hstatus
      exact h.action haction nofun
    | read hopen _ hwaiting hconnecting res mid hmid => exact h.read ⟨hwaiting, hconnecting⟩ hmid

theorem Reachable.ordered (h : Reachable s) : Ordered s := by
  obtain ⟨args, hreach⟩ := h
  exact hreach.invariant (fun _ _ _ hs hnext ↦ hs.step hnext)
    (ordered_resetConnect args.now false History.each_nil)

/-- At any time the requests that were written on the connection are, in order, the beginning of a
session: SETUPs, then PLAYs and OPTIONS that begin with a PLAY, then a TEARDOWN and nothing more. -/
theorem requests_methods (h : Reachable s) {front : List Event} (hfront : front <+: s.trace) :
    requests front ∈ methods := by
  obtain ⟨back, hback⟩ := hfront
  rcases List.eq_nil_or_concat front with rfl | ⟨init, event, rfl⟩
  · exact Or.inl rfl
  · rw [List.concat_eq_append] at hback ⊢
    apply mem_methods_of_accepts
    apply h.ordered.sound init event back
    rw [← hback, List.append_assoc]
    rfl

theorem requests_methods_optionRun :
    ∃ s, Runs.run step udpArgs.start optionRun = some s ∧
      requests s.trace = [.setup, .play, .option] ∧ requests s.trace ∈ methods := by
  have hrun : (Runs.run step udpArgs.start optionRun).map (fun s ↦ requests s.trace) =
      some [.setup, .play, .option] := by decide +kernel
  obtain ⟨s, hs, hrequests⟩ := Option.map_eq_some_iff.mp hrun
  exact ⟨s, hs, hrequests, requests_methods ⟨udpArgs, optionRun, hs⟩ (List.prefix_refl _)⟩

end SatipClient.RTSP
