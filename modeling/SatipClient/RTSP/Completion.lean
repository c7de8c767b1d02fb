import SatipClient.RTSP.Frames
import SatipClient.RTSP.Watchdog

/-!
# Completing a response

In TCP data mode a response is followed by stream data, and how both are cut into the results of
`recv` is up to the network.  `completes_iff` says when the session moves on all the same: exactly
when one of the results ends where the response ends.  Otherwise the loop of `handleResponse`
takes the response off the buffer, goes on with what follows it and answers that it waits for
more, whatever it completed before.
-/

namespace SatipClient.RTSP

open CString (ofBytes strstr isspace)

variable {s next : SatipRTSP} {now : Timespec}

/-! ## What the server sends -/

/-- One complete response. -/
def IsResponse (bytes : List UInt8) : Prop :=
  firstMessage true bytes = some (.response bytes.length)

/-- A response is text that ends with its first blank line. -/
theorem IsResponse.text {bytes : List UInt8} (h : IsResponse bytes) :
    bytes.head? ≠ some dollar ∧ 0 ∉ bytes ∧ strstr blankLine bytes = some blankLine := by
  obtain ⟨hhead, hsize⟩ := firstMessage_eq_response_iff.mp h
  obtain ⟨found, hfound, hlen⟩ := Option.map_eq_some_iff.mp hsize
  have hstarts : blankLine <+: found := CString.strstr_starts hfound
  have hfour : blankLine.length ≤ found.length := hstarts.length_le
  have hle : found.length ≤ (ofBytes bytes).length := (CString.strstr_isSuffix hfound).length_le
  have hwithin : (ofBytes bytes).length ≤ bytes.length := length_ofBytes_le bytes
  have hfoundlen : blankLine.length = found.length := by
    change 4 = found.length
    change 4 ≤ found.length at hfour
    omega
  have hblank : blankLine = found := hstarts.eq_of_length hfoundlen
  have hwhole : ofBytes bytes = bytes := by
    apply (List.takeWhile_prefix _).eq_of_length
    change (ofBytes bytes).length = bytes.length
    change 4 = found.length at hfoundlen
    omega
  refine ⟨hhead, ?_, ?_⟩
  · rw [← hwhole]
    exact CString.notMem_ofBytes bytes
  · rw [hwhole, ← hblank] at hfound
    exact hfound

theorem IsResponse.ne_nil {bytes : List UInt8} (h : IsResponse bytes) : bytes ≠ [] := by
  rintro rfl
  cases h

/-- Whatever follows it, a response is the first message. -/
theorem IsResponse.firstMessage_append {response : List UInt8} (h : IsResponse response)
    (tcp : Bool) (more : List UInt8) :
    firstMessage tcp (response ++ more) = some (.response response.length) := by
  obtain ⟨hhead, hnul, hfound⟩ := h.text
  apply firstMessage_eq_response_iff.mpr
  constructor
  · rw [List.head?_append]
    cases response with
    | nil => exact absurd rfl h.ne_nil
    | cons byte rest => exact hhead
  · have hend : blankLine.length ≤ response.length := (CString.strstr_isSuffix hfound).length_le
    change 4 ≤ response.length at hend
    rw [CString.ofBytes_append hnul, responseSize, CString.strstr_append hfound]
    simp only [Option.map_some, List.length_append, Option.some_inj]
    change 4 + (response.length + (ofBytes more).length - (4 + (ofBytes more).length)) =
      response.length
    omega

/-- A part of a response is no message yet. -/
theorem IsResponse.firstMessage_part {front back : List UInt8} (h : IsResponse (front ++ back))
    (hback : back ≠ []) (tcp : Bool) : firstMessage tcp front = none := by
  obtain ⟨hhead, hnul, hfound⟩ := h.text
  have hnul' : 0 ∉ front := fun hmem ↦ hnul (List.mem_append_left back hmem)
  have hnone : strstr blankLine front = none := CString.strstr_of_append_eq hback hfound
  have hhead' : front.head? ≠ some dollar := by
    cases front with
    | nil => simp
    | cons byte rest => exact hhead
  rw [firstMessage, if_neg hhead', responseSize, CString.ofBytes_of_notMem hnul', hnone]
  rfl

/-- The status code of a response is the same whatever follows. -/
theorem statusCode_append {response : List UInt8} (h : IsResponse response) {code : ℤ}
    (hcode : statusCode response = some code) (more : List UInt8) :
    statusCode (response ++ more) = some code := by
  have hlast : response.getLast? = some 10 := by
    obtain ⟨front, hfront⟩ := CString.strstr_isSuffix h.text.2.2
    rw [← hfront, List.getLast?_append_of_ne_nil _ (by simp)]
    rfl
  -- every rest of the response that is looked at ends with the newline
  have hsuffix {rest : List UInt8} (hrest : rest <:+ response) (hne : rest ≠ []) :
      rest.getLast? = some 10 := by
    obtain ⟨front, rfl⟩ := hrest
    rw [List.getLast?_append_of_ne_nil _ hne] at hlast
    exact hlast
  unfold statusCode at hcode ⊢
  dsimp only at hcode ⊢
  split_ifs at hcode with hstarts hword
  have hfive : 5 ≤ response.length := hstarts.length_le
  have hdrop : (response ++ more).drop 5 = response.drop 5 ++ more :=
    List.drop_append_of_le_length hfive
  have hblanks : (response.drop 5).dropWhile isspace ≠ [] := by
    intro hnil
    simp [hnil] at hword
  have hwordlast : ((response.drop 5).dropWhile isspace).getLast? = some 10 :=
    hsuffix ((List.dropWhile_suffix _).trans (List.drop_suffix 5 response)) hblanks
  have htake := CString.takeWhile_append_of_mem (p := fun byte ↦ !isspace byte)
    (List.mem_of_getLast? hwordlast) (by decide) more
  have hnumber : ((response.drop 5).dropWhile isspace).dropWhile (fun byte ↦ !isspace byte) ≠
      [] := by
    intro hnil
    rw [hnil] at hcode
    cases hcode
  have hnumberlast := hsuffix ((List.dropWhile_suffix _).trans
    ((List.dropWhile_suffix _).trans (List.drop_suffix 5 response))) hnumber
  rw [if_pos (hstarts.trans (List.prefix_append response more)), hdrop,
    CString.dropWhile_append_of_ne hblanks, htake, if_neg hword,
    CString.dropWhile_append_of_ne hnumber]
  exact CString.scanInt_append hcode hnumberlast (by decide) more

/-! ## The frames behind it -/

/-- `handlePollEvents` is called with one result of `recv`, and no other event. -/
def readChunk (s : SatipRTSP) (chunk : Timespec × List UInt8) : Option SatipRTSP :=
  handlePollEvents chunk.1 { pollin := true } (.bytes chunk.2) s

/-- With `more` behind what was received, only frames are to come. -/
structure AwaitsFrames (more : List UInt8) (s : SatipRTSP) : Prop extends Decodes s where
  frames : Interleaved (received s ++ more)

/-- The loop takes all complete frames off the buffer and answers that it waits for more. -/
theorem loop_frames (now : Timespec) {more : List UInt8} (h : AwaitsFrames more s)
    (hlen : s.rxDataPos < s.rxDataLen) (res : Result) (resCode : ℤ) :
    ∃ next, loop now res resCode s = some (.ok, next) ∧ next.rtspStatus = s.rtspStatus ∧
      AwaitsFrames more next := by
  obtain ⟨frames, hframes, rest, hrest⟩ := h.frames
  rw [List.append_assoc] at hrest
  obtain ⟨done, todo, next, rfl, hloop, htaken⟩ :=
    loop_takes now res resCode h.toDecodes hlen hframes hrest
  refine ⟨next, hloop, htaken.same.rtsp, htaken.decodes, todo, ?_, rest, ?_⟩
  · exact fun f hf ↦ hframes f (List.mem_append_right done hf)
  · rw [List.append_assoc]
    exact htaken.bytes

theorem readChunk_of_reads (h : Reads s.rtspStatus) (chunk : Timespec × List UInt8) :
    readChunk s chunk = (handleResponse chunk.1 (.bytes chunk.2) s).map fun (res, next) ↦
      advance chunk.1 s.rtspStatus res next := handlePollEvents_of_reads rfl rfl h

theorem readChunk_of_waiting (h : s.rtspStatus = .configWaiting)
    (chunk : Timespec × List UInt8) : readChunk s chunk = some s := by
  unfold readChunk handlePollEvents
  dsimp only
  rw [if_neg (by simp), h]

theorem readChunk_eq {chunk : Timespec × List UInt8} (hreads : Reads s.rtspStatus)
    (hfits : Fits s chunk) (hpos : 0 ≤ s.rxDataPos) :
    readChunk s chunk = (loop chunk.1 .error 0 (push chunk.2 s)).map fun (res, next) ↦
      advance chunk.1 s.rtspStatus res next := by
  rw [readChunk_of_reads hreads, handleResponse_of_fits hfits, if_neg (by omega)]

theorem readChunk_of_neg {chunk : Timespec × List UInt8} (hreads : Reads s.rtspStatus)
    (hfits : Fits s chunk) (hpos : s.rxDataPos < 0) : readChunk s chunk = none := by
  rw [readChunk_of_reads hreads, handleResponse_of_fits hfits, if_pos hpos, Option.map_none]

theorem run_of_waiting (h : s.rtspStatus = .configWaiting)
    (chunks : List (Timespec × List UInt8)) : Runs.run readChunk s chunks = some s := by
  induction chunks with
  | nil => rfl
  | cons chunk chunks ih =>
    rw [Runs.run_cons, readChunk_of_waiting h]
    exact ih

/-- While only frames arrive, the status stays. -/
theorem run_frames {chunks : List (Timespec × List UInt8)} (hreads : Reads s.rtspStatus)
    (hs : AwaitsFrames (chunks.map Prod.snd).flatten s)
    (hfits : Runs.EachStep readChunk Fits s chunks) :
    ∃ finish, Runs.run readChunk s chunks = some finish ∧ finish.rtspStatus = s.rtspStatus := by
  induction chunks generalizing s with
  | nil => exact ⟨s, rfl, rfl⟩
  | cons chunk chunks ih =>
    have hreceived : received (push chunk.2 s) = received s ++ chunk.2 :=
      received_push_of_nonneg hs.nonneg chunk.2
    have hpush : AwaitsFrames (chunks.map Prod.snd).flatten (push chunk.2 s) := by
      refine ⟨hs.toDecodes.push chunk.2, ?_⟩
      rw [hreceived, List.append_assoc]
      exact hs.frames
    obtain ⟨next, hloop, hstatus, hnext⟩ :=
      loop_frames chunk.1 hpush (rxDataPos_push_lt hfits.1) .error 0
    have hread : readChunk s chunk = some next := by
      rw [readChunk_eq hreads hfits.1 hs.nonneg, hloop]
      rfl
    have hsame : next.rtspStatus = s.rtspStatus := hstatus
    obtain ⟨finish, hrun, hfinish⟩ := ih (hsame ▸ hreads) hnext (hfits.2 next hread)
    refine ⟨finish, ?_, hfinish.trans hsame⟩
    rw [Runs.run_cons, hread]
    exact hrun

/-! ## The response -/

/-- A response with status code 200 that the client accepts for a request: for SETUP it describes
a session, and what is behind `Session:` fits into the 1024 bytes it is copied to. -/
structure Accepted (request : RtspRequest) (response : List UInt8) : Prop where
  complete : IsResponse response
  code : statusCode response = some 200
  session : request = .setup → ∃ value streamId, sessionValue response = some value ∧
    value.length < 1024 ∧ numberBehind "com.ses.streamID" 58 response = some streamId

/-- The requests that a session waits with for a response. -/
structure Outstanding (s : SatipRTSP) : Prop where
  waiting : s.waitResponse = true
  sent : s.rtspStatus = .sessionEstablishing ∧ s.rtspRequest = .setup ∨
    s.rtspStatus = .sessionPlaying ∧ s.rtspRequest = .play ∨
    s.rtspStatus = .sessionTransmitting ∧ s.rtspRequest = .option ∨
    s.rtspStatus = .sessionTeardowning ∧ s.rtspRequest = .teardown

theorem Outstanding.reads (h : Outstanding s) : Reads s.rtspStatus := by
  unfold Reads
  rcases h.sent with ⟨hstatus, _⟩ | ⟨hstatus, _⟩ | ⟨hstatus, _⟩ | ⟨hstatus, _⟩ <;>
    rw [hstatus] <;> exact ⟨by simp, by simp⟩

theorem Outstanding.request (h : Outstanding s) :
    s.rtspRequest ≠ .none ∧ s.rtspRequest ≠ .describe := by
  rcases h.sent with ⟨_, hrequest⟩ | ⟨_, hrequest⟩ | ⟨_, hrequest⟩ | ⟨_, hrequest⟩ <;>
    rw [hrequest] <;> exact ⟨by simp, by simp⟩

theorem Outstanding.status_of_setup (h : Outstanding s) (hsetup : s.rtspRequest = .setup) :
    s.rtspStatus = .sessionEstablishing := by
  have hsent := h.sent
  rw [hsetup] at hsent
  simpa using hsent

/-- The session status that a response leads to. -/
def nextStatus : RtspStatus → RtspStatus
  | .sessionEstablishing => .sessionPlaying
  | .sessionPlaying => .sessionTransmitting
  | .sessionTeardowning => .configWaiting
  | .configWaiting => .configWaiting
  | .serverConnecting => .serverConnecting
  | .sessionTransmitting => .sessionTransmitting

theorem nextStatus_eq_self_iff {status : RtspStatus} (h : Reads status) :
    status = nextStatus status ↔ status = .sessionTransmitting := by
  cases status with
  | configWaiting => exact absurd rfl h.1
  | serverConnecting => exact absurd rfl h.2
  | sessionEstablishing | sessionPlaying | sessionTransmitting | sessionTeardowning =>
    simp [nextStatus]

theorem reads_nextStatus {status : RtspStatus} (h : Reads status)
    (hteardown : status ≠ .sessionTeardowning) : Reads (nextStatus status) := by
  cases status with
  | configWaiting => exact absurd rfl h.1
  | serverConnecting => exact absurd rfl h.2
  | sessionTeardowning => exact absurd rfl hteardown
  | sessionEstablishing | sessionPlaying | sessionTransmitting =>
    exact ⟨by simp [nextStatus], by simp [nextStatus]⟩

theorem rtspStatus_advance (h : Reads s.rtspStatus) :
    (advance now s.rtspStatus .responseComplete s).rtspStatus = nextStatus s.rtspStatus := by
  unfold advance
  rw [if_pos rfl]
  cases hstatus : s.rtspStatus with
  | configWaiting => exact absurd hstatus h.1
  | serverConnecting => exact absurd hstatus h.2
  | sessionEstablishing => rfl
  | sessionPlaying => rfl
  | sessionTransmitting => exact hstatus
  | sessionTeardowning => exact rtspStatus_resetConnect now false s

/-- An accepted response is complete; only SETUP minds what follows it. -/
theorem handleByRequest_accepted {response text : List UInt8}
    (h : Accepted s.rtspRequest response) (hnone : s.rtspRequest ≠ .none)
    (hdescribe : s.rtspRequest ≠ .describe) (htext : s.rtspRequest = .setup → text = response)
    (res : Result) :
    ∃ sessionId timeout streamId, handleByRequest text res s =
      some (.responseComplete, withSession sessionId timeout streamId s) := by
  unfold handleByRequest
  cases hrequest : s.rtspRequest with
  | none => exact absurd hrequest hnone
  | describe => exact absurd hrequest hdescribe
  | option | play | teardown => exact ⟨s.rtspSessionId, s.rtspTimeout, s.rtspStreamId, rfl⟩
  | setup =>
    obtain ⟨value, streamId, hvalue, hfits, hstream⟩ := h.session hrequest
    rw [htext hrequest]
    refine ⟨trimSessionId value, (numberBehind "timeout" 61 response).getD s.rtspTimeout,
      streamId, ?_⟩
    unfold handleResponseSetup
    rw [hvalue]
    dsimp only
    rw [if_neg (by omega), hstream]
    rfl

/-- The round that finds an accepted response with `more` behind it. -/
theorem round_of_accepted (now : Timespec) {response more : List UInt8}
    (h : Accepted s.rtspRequest response)
    (hnone : s.rtspRequest ≠ .none) (hdescribe : s.rtspRequest ≠ .describe)
    (hreceived : received s = response ++ more) (hlen : s.rxDataPos < s.rxDataLen)
    (hmore : s.rtspRequest = .setup → more = []) (res : Result) :
    ∃ sessionId timeout streamId, round now res 0 s = some
      (if more = [] then
        .stop .responseComplete (afterResponse response.length sessionId timeout streamId s)
      else
        .again .responseComplete 200
          (afterResponse response.length sessionId timeout streamId s)) := by
  have hmessage : firstMessage (isTcpData s) (received s) = some (.response response.length) := by
    rw [hreceived]
    exact h.complete.firstMessage_append _ more
  have htext : ofBytes (received s) = response ++ ofBytes more := by
    rw [hreceived, CString.ofBytes_append h.complete.text.2.1]
  have hsetup : s.rtspRequest = .setup → ofBytes (received s) = response := by
    intro hrequest
    rw [htext, hmore hrequest]
    exact List.append_nil response
  have hcode : statusCode (ofBytes (received s)) = some 200 := by
    rw [htext]
    exact statusCode_append h.complete h.code _
  obtain ⟨sessionId, timeout, streamId, hhandled⟩ :=
    handleByRequest_accepted (s := answered (firstResponse response.length s) (terminated s)) h
      hnone hdescribe hsetup res
  have hlength : response.length + more.length = s.rxDataPos.toNat := by
    rw [← length_received, hreceived, List.length_append]
  have hleft : 0 < s.rxDataPos - response.length ↔ more ≠ [] := by
    rw [← List.length_pos_iff]
    omega
  refine ⟨sessionId, timeout, streamId, ?_⟩
  have hpos : (stopTimerResetConnect (withSession sessionId timeout streamId
      (answered (firstResponse response.length s) (terminated s)))).rxDataPos =
        s.rxDataPos := by
    simp only [stopTimerResetConnect, withSession, answered, terminated, record]
  have hnot : (answered (firstResponse response.length s) (terminated s)).rtspRequest ≠
      .describe := hdescribe
  have hlist : (ofBytes (received s)).take response.length = firstResponse response.length s := rfl
  rw [round_of_response now res 0 hmessage, if_neg (by omega), responseRound, hlist]
  dsimp only
  rw [if_neg hnot, hcode, Option.getD_some, if_neg (by simp), hhandled]
  simp only [Option.map_some, if_true, if_false, reduceCtorEq, complete, afterResponse_eq, hpos,
    hleft, ite_not]

/-- The session has ended, or only frames are to come. -/
def Settled (more : List UInt8) (s : SatipRTSP) : Prop :=
  s.rtspStatus = .configWaiting ∨ Reads s.rtspStatus ∧ AwaitsFrames more s

/-- Then the status stays. -/
theorem Settled.run {chunks : List (Timespec × List UInt8)}
    (h : Settled (chunks.map Prod.snd).flatten s)
    (hfits : Runs.EachStep readChunk Fits s chunks) :
    ∃ finish, Runs.run readChunk s chunks = some finish ∧ finish.rtspStatus = s.rtspStatus := by
  rcases h with hwaiting | ⟨hreads, hframes⟩
  · exact ⟨s, run_of_waiting hwaiting chunks, rfl⟩
  · exact run_frames hreads hframes hfits

/-! ## One result of `recv` -/

section chunk

variable {chunk : Timespec × List UInt8} {response more rest : List UInt8}

/-- The response is not complete yet. -/
theorem readChunk_part (htcp : isTcpData s = true) (hs : Outstanding s)
    (hresponse : IsResponse response) (hbytes : received s ++ chunk.2 ++ rest = response)
    (hrest : rest ≠ []) (hpos : 0 ≤ s.rxDataPos) (hfits : Fits s chunk) :
    ∃ rxData, readChunk s chunk = some (withBuffer rxData (s.rxDataPos + chunk.2.length) s) ∧
      received (withBuffer rxData (s.rxDataPos + chunk.2.length) s) = received s ++ chunk.2 := by
  have hreceived : received (push chunk.2 s) = received s ++ chunk.2 :=
    received_push_of_nonneg hpos chunk.2
  have hmessage : firstMessage (isTcpData (push chunk.2 s)) (received (push chunk.2 s)) = none := by
    rw [hreceived]
    exact (hbytes ▸ hresponse).firstMessage_part hrest _
  have hnonneg : 0 ≤ (push chunk.2 s).rxDataPos := by
    change 0 ≤ s.rxDataPos + chunk.2.length
    omega
  obtain ⟨r, hround⟩ := exists_round_of_none chunk.1 .error 0 hmessage hnonneg
    (rxDataPos_push_lt hfits)
  obtain ⟨res, next, rfl, hnext, hres⟩ := round_of_none chunk.1 .error 0 hmessage hround
  have hok : res = .ok := by
    apply hres.resolve_right
    rintro ⟨_, hudp⟩
    cases hudp.symm.trans htcp
  subst hok
  have hread : readChunk s chunk = some next := by
    rw [readChunk_eq hs.reads hfits hpos, loop_eq, hround]
    rfl
  rcases hnext with rfl | rfl
  · exact ⟨_, hread, hreceived⟩
  · refine ⟨_, hread, ?_⟩
    rw [← hreceived]
    exact received_terminated (push chunk.2 s)

theorem awaitsFrames_afterResponse (hs : Decodes s) (hbytes : received s = response ++ more)
    (hframes : Interleaved (more ++ rest)) (sessionId : List UInt8) (timeout streamId : ℤ) :
    AwaitsFrames rest (afterResponse response.length sessionId timeout streamId s) := by
  have hlength : response.length + more.length = s.rxDataPos.toNat := by
    rw [← length_received, hbytes, List.length_append]
  have hnonneg : 0 ≤ s.rxDataPos := hs.nonneg
  refine ⟨⟨hs.tcp, hs.psiOk, ?_⟩, ?_⟩
  · change 0 ≤ s.rxDataPos - response.length
    omega
  · rw [received_afterResponse (by omega), hbytes, List.drop_left' rfl]
    exact hframes

/-- Advancing keeps what is still to be received. -/
theorem AwaitsFrames.advance (h : AwaitsFrames rest s)
    (hstatus : s.rtspStatus ≠ .sessionTeardowning) (res : Result) :
    AwaitsFrames rest (advance now s.rtspStatus res s) := by
  have hcongr {next : SatipRTSP} (hconfig : next.config = s.config)
      (hpos : next.rxDataPos = s.rxDataPos) (hdata : next.rxData = s.rxData) :
      AwaitsFrames rest next := by
    refine ⟨⟨?_, ?_, ?_⟩, ?_⟩
    · rw [isTcpData, hconfig]
      exact h.tcp
    · rw [hconfig]
      exact h.psiOk
    · rw [hpos]
      exact h.nonneg
    · rw [received, hpos, hdata]
      exact h.frames
  unfold RTSP.advance
  split_ifs
  · split
    · exact hcongr rfl rfl rfl
    · exact hcongr rfl rfl rfl
    · exact absurd ‹_› hstatus
    · exact h
    · exact h
    · exact h
  · exact h

/-- The response is complete, and nothing follows in this result. -/
theorem readChunk_exact (htcp : isTcpData s = true) (hpsi : Config.PsiOk s.config)
    (hs : Outstanding s) (hresponse : Accepted s.rtspRequest response)
    (hbytes : received s ++ chunk.2 = response) (hframes : Interleaved rest)
    (hpos : 0 ≤ s.rxDataPos) (hfits : Fits s chunk) :
    ∃ next, readChunk s chunk = some next ∧ next.rtspStatus = nextStatus s.rtspStatus ∧
      Settled rest next := by
  have hreceived : received (push chunk.2 s) = response ++ [] := by
    rw [received_push_of_nonneg hpos, hbytes, List.append_nil]
  obtain ⟨sessionId, timeout, streamId, hround⟩ := round_of_accepted chunk.1
    (s := push chunk.2 s) hresponse hs.request.1 hs.request.2 hreceived (rxDataPos_push_lt hfits)
    (fun _ ↦ rfl) .error
  rw [if_pos rfl] at hround
  have hdecodes : Decodes (push chunk.2 s) := Decodes.push ⟨htcp, hpsi, hpos⟩ chunk.2
  have hawaits : AwaitsFrames rest
      (afterResponse response.length sessionId timeout streamId (push chunk.2 s)) :=
    awaitsFrames_afterResponse hdecodes hreceived hframes sessionId timeout streamId
  have hstatus : (afterResponse response.length sessionId timeout streamId
      (push chunk.2 s)).rtspStatus = s.rtspStatus := rfl
  have hnext : (RTSP.advance chunk.1 s.rtspStatus .responseComplete
      (afterResponse response.length sessionId timeout streamId (push chunk.2 s))).rtspStatus =
        nextStatus s.rtspStatus := by
    rw [← hstatus]
    exact rtspStatus_advance hs.reads
  refine ⟨_, ?_, hnext, ?_⟩
  · rw [readChunk_eq hs.reads hfits hpos, loop_eq, hround]
    rfl
  · by_cases hteardown : s.rtspStatus = .sessionTeardowning
    · left
      rw [hnext, hteardown]
      rfl
    · right
      rw [hnext]
      rw [← hstatus] at hteardown ⊢
      exact ⟨reads_nextStatus hs.reads hteardown, hawaits.advance hteardown .responseComplete⟩

/-- Something follows the response in this result: the client waits on, whatever it accepted. -/
theorem readChunk_behind (htcp : isTcpData s = true) (hpsi : Config.PsiOk s.config)
    (hs : Outstanding s) (hresponse : Accepted s.rtspRequest response)
    (hbytes : received s ++ chunk.2 = response ++ more) (hmore : more ≠ [])
    (hframes : Interleaved (more ++ rest)) (hpos : 0 ≤ s.rxDataPos) (hfits : Fits s chunk)
    (hsetup : s.rtspRequest ≠ .setup) :
    ∃ next, readChunk s chunk = some next ∧ next.rtspStatus = s.rtspStatus ∧
      Settled rest next := by
  have hreceived : received (push chunk.2 s) = response ++ more := by
    rw [received_push_of_nonneg hpos, hbytes]
  obtain ⟨sessionId, timeout, streamId, hround⟩ := round_of_accepted chunk.1
    (s := push chunk.2 s) hresponse hs.request.1 hs.request.2 hreceived (rxDataPos_push_lt hfits)
    (fun hrequest ↦ absurd hrequest hsetup) .error
  rw [if_neg hmore] at hround
  have hdecodes : Decodes (push chunk.2 s) := Decodes.push ⟨htcp, hpsi, hpos⟩ chunk.2
  have hawaits : AwaitsFrames rest
      (afterResponse response.length sessionId timeout streamId (push chunk.2 s)) :=
    awaitsFrames_afterResponse hdecodes hreceived hframes sessionId timeout streamId
  have hlen : (afterResponse response.length sessionId timeout streamId
      (push chunk.2 s)).rxDataPos < s.rxDataLen := by
    have hbelow := rxDataPos_push_lt hfits
    change (push chunk.2 s).rxDataPos - response.length < s.rxDataLen
    change (push chunk.2 s).rxDataPos < s.rxDataLen at hbelow
    omega
  obtain ⟨next, hloop, hstatus, hnext⟩ :=
    loop_frames chunk.1 hawaits hlen .responseComplete 200
  have hsame : next.rtspStatus = s.rtspStatus := hstatus
  refine ⟨next, ?_, hsame, Or.inr ⟨hsame ▸ hs.reads, hnext⟩⟩
  rw [readChunk_eq hs.reads hfits hpos, loop_eq, hround, Option.bind_some]
  dsimp only
  rw [hloop]
  rfl

/-- What follows the response to a SETUP may even be taken for a part of it. -/
theorem readChunk_behind_setup {next : SatipRTSP} (htcp : isTcpData s = true)
    (hpsi : Config.PsiOk s.config) (hs : Outstanding s) (hresponse : IsResponse response)
    (hbytes : received s ++ chunk.2 = response ++ more) (hmore : more ≠ [])
    (hframes : Interleaved (more ++ rest)) (hpos : 0 ≤ s.rxDataPos) (hfits : Fits s chunk)
    (hnext : readChunk s chunk = some next) :
    (next.rtspStatus = .configWaiting ∨ next.rtspStatus = s.rtspStatus) ∧
      Settled rest next := by
  have hreceived : received (push chunk.2 s) = response ++ more := by
    rw [received_push_of_nonneg hpos, hbytes]
  have hmessage : firstMessage (isTcpData (push chunk.2 s)) (received (push chunk.2 s)) =
      some (.response response.length) := by
    rw [hreceived]
    exact hresponse.firstMessage_append _ more
  have hlength : response.length + more.length = (push chunk.2 s).rxDataPos.toNat := by
    rw [← length_received, hreceived, List.length_append]
  have hlong : 0 < more.length := List.length_pos_iff.mpr hmore
  rw [readChunk_eq hs.reads hfits hpos, loop_eq, Option.map_eq_some_iff] at hnext
  obtain ⟨⟨res, mid⟩, hmid, rfl⟩ := hnext
  obtain ⟨r, hround, hr⟩ := Option.bind_eq_some_iff.mp hmid
  have hcase := roundCase_of_round chunk.1 .error 0 (Or.inl rfl) hround
  cases hcase with
  | wait _ _ hnone => cases hnone.symm.trans hmessage
  | frame _ _ hframe => cases hframe.symm.trans hmessage
  | reset size =>
    cases hr
    dsimp only
    rw [advance_of_ne (by simp)]
    have hreset := rtspStatus_resetConnect chunk.1 true
      (record (.response (firstResponse size (push chunk.2 s))) (terminated (push chunk.2 s)))
    exact ⟨Or.inl hreset, Or.inl hreset⟩
  | more size sessionId timeout streamId resCode' hsize =>
    cases hsize.symm.trans hmessage
    have hdecodes : Decodes (push chunk.2 s) := Decodes.push ⟨htcp, hpsi, hpos⟩ chunk.2
    have hawaits : AwaitsFrames rest
        (afterResponse response.length sessionId timeout streamId (push chunk.2 s)) :=
      awaitsFrames_afterResponse hdecodes hreceived hframes sessionId timeout streamId
    have hlen : (afterResponse response.length sessionId timeout streamId
        (push chunk.2 s)).rxDataPos < s.rxDataLen := by
      have hbelow := rxDataPos_push_lt hfits
      change (push chunk.2 s).rxDataPos - response.length < s.rxDataLen
      change (push chunk.2 s).rxDataPos < s.rxDataLen at hbelow
      omega
    obtain ⟨after, hloop, hstatus, hafter⟩ :=
      loop_frames chunk.1 hawaits hlen .responseComplete resCode'
    dsimp only at hr
    rw [hloop] at hr
    cases hr
    dsimp only
    rw [advance_of_ne (by simp)]
    have hsame : mid.rtspStatus = s.rtspStatus := hstatus
    exact ⟨Or.inr hsame, Or.inr ⟨hsame ▸ hs.reads, hafter⟩⟩
  | last size _ _ _ hsize _ hlast =>
    cases hsize.symm.trans hmessage
    omega

end chunk

/-! ## All results of `recv` -/

/-- The bytes received before, with some of the results, are exactly the response. -/
def CutBehind (response before : List UInt8) (chunks : List (Timespec × List UInt8)) : Prop :=
  ∃ front back, chunks = front ++ back ∧ before ++ (front.map Prod.snd).flatten = response

theorem cutBehind_cons {response before : List UInt8} {chunk : Timespec × List UInt8}
    {chunks : List (Timespec × List UInt8)} (h : before ≠ response) :
    CutBehind response before (chunk :: chunks) ↔
      CutBehind response (before ++ chunk.2) chunks := by
  constructor
  · rintro ⟨front, back, hchunks, hcut⟩
    cases front with
    | nil => exact absurd (by simpa using hcut) h
    | cons first front =>
      obtain ⟨rfl, rfl⟩ := List.cons_eq_cons.mp hchunks
      refine ⟨front, back, rfl, ?_⟩
      simpa using hcut
  · rintro ⟨front, back, rfl, hcut⟩
    refine ⟨chunk :: front, back, rfl, ?_⟩
    simpa using hcut

theorem not_cutBehind {response before : List UInt8} {chunks : List (Timespec × List UInt8)}
    (h : response.length < before.length) : ¬CutBehind response before chunks := by
  rintro ⟨front, back, _, rfl⟩
  rw [List.length_append] at h
  omega

theorem cutBehind_self (response : List UInt8) (chunks : List (Timespec × List UInt8)) :
    CutBehind response response chunks := ⟨[], chunks, rfl, List.append_nil response⟩

/-- With something behind the response in the same result, only a session that stays in its
status makes the transition. -/
theorem completes_behind_iff {response more : List UInt8} {chunk : Timespec × List UInt8}
    {chunks : List (Timespec × List UInt8)} (htcp : isTcpData s = true)
    (hpsi : Config.PsiOk s.config) (hs : Outstanding s)
    (hresponse : Accepted s.rtspRequest response)
    (hframes : Interleaved (more ++ (chunks.map Prod.snd).flatten))
    (hbytes : received s ++ chunk.2 = response ++ more) (hmore : more ≠ [])
    (hpos : 0 ≤ s.rxDataPos) (hfits : Runs.EachStep readChunk Fits s (chunk :: chunks)) :
    (∃ finish, Runs.run readChunk s (chunk :: chunks) = some finish ∧
        finish.rtspStatus = nextStatus s.rtspStatus) ↔ s.rtspStatus = .sessionTransmitting := by
  rw [← nextStatus_eq_self_iff hs.reads, Runs.run_cons]
  by_cases hsetup : s.rtspRequest = .setup
  · have hstatus : s.rtspStatus = .sessionEstablishing := hs.status_of_setup hsetup
    rw [hstatus]
    refine iff_of_false ?_ (by simp [nextStatus])
    rintro ⟨finish, hrun, hfinish⟩
    obtain ⟨next, hread, hrest⟩ := Option.bind_eq_some_iff.mp hrun
    obtain ⟨hnext, hsettled⟩ := readChunk_behind_setup htcp hpsi hs hresponse.complete hbytes
      hmore hframes hpos hfits.1 hread
    obtain ⟨finish', hrun', hfinish'⟩ := hsettled.run (hfits.2 next hread)
    rw [hrest] at hrun'
    obtain rfl := Option.some.inj hrun'
    rw [← hfinish', hfinish, hstatus] at hnext
    simp [nextStatus] at hnext
  · obtain ⟨next, hread, hstatus, hsettled⟩ :=
      readChunk_behind htcp hpsi hs hresponse hbytes hmore hframes hpos hfits.1 hsetup
    obtain ⟨finish, hrun, hfinish⟩ := hsettled.run (hfits.2 next hread)
    rw [hread, Option.bind_some, hrun, ← hstatus, ← hfinish]
    simp

/-- The session makes the transition of an accepted response exactly when one of the results of
`recv` ends where the response ends, which only a session that stays in its status can do
without; and nothing must have moved the buffer's position below its start. -/
theorem completes_iff {response stream : List UInt8} {chunks : List (Timespec × List UInt8)}
    (htcp : isTcpData s = true) (hpsi : Config.PsiOk s.config) (hs : Outstanding s)
    (hresponse : Accepted s.rtspRequest response) (hstream : Interleaved stream)
    (hbytes : received s ++ (chunks.map Prod.snd).flatten = response ++ stream)
    (hpart : (received s).length < response.length)
    (hfits : Runs.EachStep readChunk Fits s chunks) :
    (∃ finish, Runs.run readChunk s chunks = some finish ∧
        finish.rtspStatus = nextStatus s.rtspStatus) ↔
      0 ≤ s.rxDataPos ∧ (s.rtspStatus = .sessionTransmitting ∨
        ∃ front back, chunks = front ++ back ∧
          received s ++ (front.map Prod.snd).flatten = response) := by
  change _ ↔ 0 ≤ s.rxDataPos ∧ (_ ∨ CutBehind response (received s) chunks)
  induction chunks generalizing s with
  | nil =>
    have hlength := congrArg List.length hbytes
    simp only [List.map_nil, List.flatten_nil, List.append_nil, List.length_append] at hlength
    omega
  | cons chunk chunks ih =>
    have hne : received s ≠ response := by
      rintro rfl
      exact lt_irrefl _ hpart
    rw [List.map_cons, List.flatten_cons, ← List.append_assoc] at hbytes
    rw [Runs.run_cons, cutBehind_cons hne]
    by_cases hpos : s.rxDataPos < 0
    · rw [readChunk_of_neg hs.reads hfits.1 hpos]
      simp [hpos]
    have hnonneg : 0 ≤ s.rxDataPos := not_lt.mp hpos
    by_cases hexact : received s ++ chunk.2 = response
    · -- this result ends where the response ends
      rw [hexact] at hbytes ⊢
      rw [← List.append_cancel_left hbytes] at hstream
      obtain ⟨next, hread, hstatus, hnext⟩ :=
        readChunk_exact htcp hpsi hs hresponse hexact hstream hnonneg hfits.1
      obtain ⟨finish, hrun, hfinish⟩ := hnext.run (hfits.2 next hread)
      rw [hread, Option.bind_some]
      exact iff_of_true ⟨finish, hrun, hfinish.trans hstatus⟩
        ⟨hnonneg, Or.inr (cutBehind_self response chunks)⟩
    rcases List.append_eq_append_iff.mp hbytes with ⟨rest, hrest, hchunks⟩ | ⟨more, hmore, hframes⟩
    · -- a part of the response is still to come
      have hrestne : rest ≠ [] := by
        rintro rfl
        rw [List.append_nil] at hrest
        exact hexact hrest.symm
      obtain ⟨rxData, hread, hreceived⟩ :=
        readChunk_part htcp hs hresponse.complete hrest.symm hrestne hnonneg hfits.1
      have hshort : (received s ++ chunk.2).length < response.length := by
        have hmissing : 0 < rest.length := List.length_pos_iff.mpr hrestne
        have hlength := congrArg List.length hrest
        rw [List.length_append] at hlength
        omega
      rw [← hreceived] at hbytes hshort ⊢
      rw [hread, Option.bind_some]
      have hrun := ih (s := withBuffer rxData (s.rxDataPos + chunk.2.length) s) htcp hpsi
        ⟨hs.waiting, hs.sent⟩ hresponse hbytes hshort (hfits.2 _ hread)
      have hpos' : 0 ≤ s.rxDataPos + chunk.2.length := by omega
      exact hrun.trans (and_congr_left' (iff_of_true hpos' hnonneg))
    · -- something follows the response in this result
      have hmorene : more ≠ [] := by
        rintro rfl
        rw [List.append_nil] at hmore
        exact hexact hmore
      have hlong : response.length < (received s ++ chunk.2).length := by
        rw [hmore, List.length_append]
        exact Nat.lt_add_of_pos_right (List.length_pos_iff.mpr hmorene)
      rw [hframes] at hstream
      have hcut : ¬CutBehind response (received s ++ chunk.2) chunks := not_cutBehind hlong
      simp only [hcut, or_false, hnonneg, true_and]
      rw [← Runs.run_cons]
      exact completes_behind_iff htcp hpsi hs hresponse hstream hmore hmorene hnonneg hfits

/-- A result of `recv` that ends with a response, and one that holds more. -/
def responseChunks : List (Timespec × List UInt8) :=
  [({}, plainResponse), ({}, [dollar])]

def cutChunks : List (Timespec × List UInt8) := [({}, plainResponse ++ [dollar])]

theorem isResponse_plainResponse : IsResponse plainResponse := by
  unfold IsResponse
  decide +kernel

theorem interleaved_dollar : Interleaved [dollar] := by
  refine ⟨[encodeFrame 0 []], ?_, [0, 0, 0], by decide⟩
  intro f hf
  obtain rfl := List.mem_singleton.mp hf
  exact isFrame_encodeFrame 0 (by decide)

theorem accepted_plainResponse : Accepted .teardown plainResponse where
  complete := isResponse_plainResponse
  code := by decide +kernel
  session hsetup := by cases hsetup

/-- The state behind `teardownRun`, which is where the responses arrive. -/
theorem exists_teardown (chunks : List (Timespec × List UInt8)) (status : Option RtspStatus)
    (hfits : (Runs.run step tcpArgs.start teardownRun).map
        (fun s ↦ decide (Runs.EachStep readChunk Fits s chunks)) = some true)
    (hstatus : ((Runs.run step tcpArgs.start teardownRun).bind fun s ↦
        (Runs.run readChunk s chunks).map SatipRTSP.rtspStatus) = status) :
    ∃ s, Reachable s ∧ isTcpData s = true ∧ Outstanding s ∧ s.rtspRequest = .teardown ∧
      s.rtspStatus = .sessionTeardowning ∧ received s = [] ∧ s.rxDataPos = 0 ∧
      Runs.EachStep readChunk Fits s chunks ∧
      (Runs.run readChunk s chunks).map SatipRTSP.rtspStatus = status := by
  have hend : (Runs.run step tcpArgs.start teardownRun).map
      (fun s ↦ (isTcpData s, s.waitResponse, s.rtspRequest, s.rtspStatus, s.rxDataPos)) =
        some (true, true, .teardown, .sessionTeardowning, 0) := by
    decide +kernel
  obtain ⟨s, hrun, hs⟩ := Option.map_eq_some_iff.mp hend
  simp only [Prod.mk.injEq] at hs
  obtain ⟨htcp, hwait, hrequest, hteardown, hpos⟩ := hs
  rw [hrun] at hfits hstatus
  have hreceived : received s = [] := by
    rw [received, hpos]
    rfl
  have houtstanding : Outstanding s := ⟨hwait, Or.inr (Or.inr (Or.inr ⟨hteardown, hrequest⟩))⟩
  exact ⟨s, ⟨tcpArgs, teardownRun, hrun⟩, htcp, houtstanding, hrequest, hteardown, hreceived,
    hpos, of_decide_eq_true (Option.some.inj hfits), hstatus⟩

/-- A response and a frame that is cut short, in two results: the session ends. -/
theorem completes_iff_responseChunks :
    ∃ s finish, Reachable s ∧ Runs.run readChunk s responseChunks = some finish ∧
      finish.rtspStatus = nextStatus s.rtspStatus := by
  obtain ⟨s, hreach, htcp, hs, hrequest, _, hreceived, hpos, hfits, _⟩ :=
    exists_teardown responseChunks _ (by decide +kernel) rfl
  have haccepted : Accepted s.rtspRequest plainResponse := hrequest ▸ accepted_plainResponse
  have hbytes : received s ++ (responseChunks.map Prod.snd).flatten =
      plainResponse ++ [dollar] := by
    rw [hreceived]
    rfl
  have hpart : (received s).length < plainResponse.length := by
    rw [hreceived]
    decide
  have hcut : ∃ front back, responseChunks = front ++ back ∧
      received s ++ (front.map Prod.snd).flatten = plainResponse := by
    refine ⟨[({}, plainResponse)], [({}, [dollar])], rfl, ?_⟩
    rw [hreceived]
    rfl
  have hcompletes := (completes_iff htcp hreach.psiOk hs haccepted interleaved_dollar hbytes hpart
    hfits).mpr ⟨hpos.ge, Or.inr hcut⟩
  obtain ⟨finish, hrun, hfinish⟩ := hcompletes
  exact ⟨s, finish, hreach, hrun, hfinish⟩

/-- In one result, the session stays where it is. -/
theorem not_completes :
    ¬∀ (s : SatipRTSP) (response stream : List UInt8) (chunks : List (Timespec × List UInt8)),
      Reachable s → isTcpData s = true → Outstanding s → received s = [] →
      Accepted s.rtspRequest response → Interleaved stream →
      (chunks.map Prod.snd).flatten = response ++ stream →
      Runs.EachStep readChunk Fits s chunks →
      ∃ finish, Runs.run readChunk s chunks = some finish ∧
        finish.rtspStatus = nextStatus s.rtspStatus := by
  intro hall
  obtain ⟨s, hreach, htcp, hs, hrequest, hteardown, hreceived, _, hfits, hstatus⟩ :=
    exists_teardown cutChunks (some .sessionTeardowning) (by decide +kernel) (by decide +kernel)
  have haccepted : Accepted s.rtspRequest plainResponse := hrequest ▸ accepted_plainResponse
  obtain ⟨finish, hrun, hfinish⟩ := hall s plainResponse [dollar] cutChunks hreach htcp hs
    hreceived haccepted interleaved_dollar rfl hfits
  rw [hrun, Option.map_some, hfinish, hteardown] at hstatus
  cases hstatus

end SatipClient.RTSP
