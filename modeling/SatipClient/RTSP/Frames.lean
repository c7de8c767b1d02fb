import SatipClient.RTSP.Simulation

/-!
# Interleaved frames

In TCP data mode the stream arrives as frames between the responses, cut into the results of
`recv` wherever the network likes.  `loop_takes` says that the loop of `handleResponse` hands the
complete frames at the front of the buffer to the RTP side and keeps the rest, and
`frames_lossless` that no byte of the stream is lost, doubled or moved.
-/

namespace SatipClient.RTSP

open Memory (store)

variable {s next : SatipRTSP} {now : Timespec}

/-! ## Frames -/

/-- A frame: `$`, the channel, the length of the payload in two bytes, the payload. -/
def encodeFrame (channel : UInt8) (payload : List UInt8) : List UInt8 :=
  dollar :: channel :: (payload.length / 256).toUInt8 :: (payload.length % 256).toUInt8 :: payload

/-- A complete interleaved frame. -/
def IsFrame (bytes : List UInt8) : Prop :=
  bytes.head? = some dollar ∧ 4 ≤ bytes.length ∧ frameLength bytes = bytes.length

theorem isFrame_encodeFrame (channel : UInt8) {payload : List UInt8} (h : payload.length < 65536) :
    IsFrame (encodeFrame channel payload) := by
  have hhigh : (payload.length / 256).toUInt8.toNat = payload.length / 256 := by
    rw [Nat.toUInt8_eq, UInt8.toNat_ofNat']
    omega
  have hlow : (payload.length % 256).toUInt8.toNat = payload.length % 256 := by
    rw [Nat.toUInt8_eq, UInt8.toNat_ofNat']
    omega
  have hor : (payload.length / 256) <<< 8 ||| payload.length % 256 = payload.length := by
    rw [← Nat.shiftLeft_add_eq_or_of_lt (Nat.mod_lt _ (by decide) : payload.length % 256 < 2 ^ 8),
      Nat.shiftLeft_eq]
    omega
  refine ⟨rfl, Nat.le_add_left 4 _, ?_⟩
  change 4 + ((payload.length / 256).toUInt8.toNat <<< 8 |||
    (payload.length % 256).toUInt8.toNat) = payload.length + 4
  rw [hhigh, hlow, hor, Nat.add_comm]

/-- The length of a frame is written in its first four bytes. -/
theorem frameLength_append {front : List UInt8} (h : 4 ≤ front.length) (back : List UInt8) :
    frameLength (front ++ back) = frameLength front := by
  have hbyte (index : ℕ) (hindex : index < 4) :
      (front ++ back).getD index 0 = front.getD index 0 := by
    rw [List.getD_append _ _ _ _ (by omega)]
  rw [frameLength, frameLength, hbyte 2 (by omega), hbyte 3 (by omega)]

/-- A frame is the first message, whatever follows. -/
theorem IsFrame.firstMessage_append {frame : List UInt8} (h : IsFrame frame) (more : List UInt8) :
    firstMessage true (frame ++ more) = some (.frame frame.length) := by
  obtain ⟨hhead, hfour, hlength⟩ := h
  apply firstMessage_eq_frame_iff.mpr
  rw [frameLength_append hfour, List.length_append, List.head?_append, hhead]
  exact ⟨rfl, rfl, by omega, hlength, by omega⟩

/-- A part of a frame is no message yet. -/
theorem IsFrame.firstMessage_part {front back : List UInt8} (h : IsFrame (front ++ back))
    (hback : back ≠ []) : firstMessage true front = none := by
  obtain ⟨hhead, _, hlength⟩ := h
  cases front with
  | nil => rfl
  | cons byte rest =>
    have hdollar : (byte :: rest).head? = some dollar := hhead
    have hmissing : 0 < back.length := List.length_pos_iff.mpr hback
    rw [firstMessage, if_pos hdollar, if_neg]
    rintro ⟨_, hfour, hle⟩
    rw [frameLength_append hfour, List.length_append] at hlength
    omega

/-- Interleaved frames, the last one possibly cut short. -/
def Interleaved (bytes : List UInt8) : Prop :=
  ∃ frames : List (List UInt8), (∀ f ∈ frames, IsFrame f) ∧ bytes <+: frames.flatten

/-! ## Taking frames off the buffer -/

theorem exists_rtpTcpData (h : Config.PsiOk s.config) (data : List UInt8) :
    ∃ next, rtpTcpData data s = some next ∧ Config.PsiOk next.config := by
  unfold rtpTcpData
  dsimp only
  split_ifs
  · exact ⟨_, rfl, h⟩
  · obtain ⟨config, hconfig, hok⟩ :=
      Config.exists_stepPsi (.processTS (data.drop (4 + 12))) h
    have hstep : Config.stepPsi (.processTS (data.drop (4 + 12))) (record (.frame data) s).config =
        some config := hconfig
    exact ⟨_, by rw [hstep]; rfl, hok⟩
  · exact ⟨_, rfl, h⟩

/-- Stream data can be taken off the buffer. -/
structure Decodes (s : SatipRTSP) : Prop where
  tcp : isTcpData s = true
  psiOk : Config.PsiOk s.config
  nonneg : 0 ≤ s.rxDataPos

/-- What taking frames leaves alone. -/
structure SameSession (s next : SatipRTSP) : Prop where
  rtsp : next.rtspStatus = s.rtspStatus
  rxDataLen : next.rxDataLen = s.rxDataLen

/-- One frame is taken off the buffer. -/
theorem round_takes (now : Timespec) (res : Result) (resCode : ℤ) (hs : Decodes s)
    {frame more : List UInt8} (hframe : IsFrame frame) (hreceived : received s = frame ++ more) :
    ∃ next, round now res resCode s = some (.again res resCode next) ∧ Decodes next ∧
      SameSession s next ∧ next.trace = s.trace ++ [.frame frame] ∧ received next = more ∧
      next.rxDataPos < s.rxDataPos := by
  have hmessage : firstMessage (isTcpData s) (received s) = some (.frame frame.length) := by
    rw [hs.tcp, hreceived]
    exact hframe.firstMessage_append more
  have htake : (received s).take frame.length = frame := by rw [hreceived, List.take_left' rfl]
  have hpsi : Config.PsiOk (startTimerResetConnect now 4000 s).config := hs.psiOk
  have hlength : frame.length + more.length = s.rxDataPos.toNat := by
    rw [← length_received, hreceived, List.length_append]
  have hfour : 4 ≤ frame.length := hframe.2.1
  obtain ⟨after, hafter, hok⟩ := exists_rtpTcpData hpsi frame
  rw [← htake] at hafter
  obtain ⟨hrest, htcp⟩ := received_after_frame hmessage hafter
  have hround : round now res resCode s =
      some (.again res resCode (consume frame.length after)) := by
    rw [round_of_frame now res resCode hmessage, hafter]
    rfl
  obtain ⟨config, rfl, _⟩ := rtpTcpData_cases hafter
  rw [htake] at hround hrest htcp hok
  refine ⟨_, hround, ⟨htcp.trans hs.tcp, hok, ?_⟩, ⟨rfl, rfl⟩, rfl, ?_, ?_⟩
  · change 0 ≤ s.rxDataPos - frame.length
    omega
  · rw [hrest, hreceived, List.drop_left' rfl]
  · change s.rxDataPos - frame.length < s.rxDataPos
    omega

/-- Without a complete message the loop waits for more. -/
theorem loop_waits (now : Timespec) (res : Result) (resCode : ℤ) (hs : Decodes s)
    (hlen : s.rxDataPos < s.rxDataLen) (hmessage : firstMessage true (received s) = none) :
    ∃ next, loop now res resCode s = some (.ok, next) ∧ Decodes next ∧ SameSession s next ∧
      next.trace = s.trace ∧ received next = received s := by
  rw [← hs.tcp] at hmessage
  obtain ⟨r, hround⟩ := exists_round_of_none now res resCode hmessage hs.nonneg hlen
  obtain ⟨res', next, rfl, hnext, hres'⟩ := round_of_none now res resCode hmessage hround
  have hok : res' = .ok := by
    apply hres'.resolve_right
    rintro ⟨_, hudp⟩
    cases hudp.symm.trans hs.tcp
  subst hok
  refine ⟨next, by rw [loop_eq, hround]; rfl, ?_⟩
  rcases hnext with rfl | rfl
  · exact ⟨hs, ⟨rfl, rfl⟩, rfl, rfl⟩
  · exact ⟨⟨hs.tcp, hs.psiOk, hs.nonneg⟩, ⟨rfl, rfl⟩, rfl, received_terminated s⟩

/-- The frames `done` were taken off the buffer, which holds a part of the next one. -/
structure Taken (s : SatipRTSP) (done todo : List (List UInt8)) (rest : List UInt8)
    (next : SatipRTSP) : Prop where
  decodes : Decodes next
  same : SameSession s next
  trace : next.trace = s.trace ++ done.map .frame
  bytes : received next ++ rest = todo.flatten
  part : ∀ f ∈ todo.head?, (received next).length < f.length

/-- The loop takes all complete frames off the buffer, hands them over in order and answers that
it waits for the rest of the next one; by induction on the frames of the stream. -/
theorem loop_takes (now : Timespec) (res : Result) (resCode : ℤ) (hs : Decodes s)
    (hlen : s.rxDataPos < s.rxDataLen) {frames : List (List UInt8)} {rest : List UInt8}
    (hframes : ∀ f ∈ frames, IsFrame f) (hbytes : received s ++ rest = frames.flatten) :
    ∃ done todo next, frames = done ++ todo ∧ loop now res resCode s = some (.ok, next) ∧
      Taken s done todo rest next := by
  induction frames generalizing s with
  | nil =>
    have hempty : received s = [] := (List.append_eq_nil_iff.mp hbytes).1
    obtain ⟨next, hloop, hnext, hsame, htrace, hreceived⟩ :=
      loop_waits now res resCode hs hlen (by rw [hempty]; rfl)
    refine ⟨[], [], next, rfl, hloop, hnext, hsame, ?_, ?_, by simp⟩
    · rw [htrace, List.map_nil, List.append_nil]
    · rw [hreceived, hbytes]
  | cons frame frames ih =>
    have hframe : IsFrame frame := hframes frame List.mem_cons_self
    have hpart {more : List UInt8} (hmore : more ≠ []) (hrest : frame = received s ++ more) :
        ∃ done todo next, frame :: frames = done ++ todo ∧
          loop now res resCode s = some (.ok, next) ∧ Taken s done todo rest next := by
      obtain ⟨next, hloop, hnext, hsame, htrace, hreceived⟩ :=
        loop_waits now res resCode hs hlen ((hrest ▸ hframe).firstMessage_part hmore)
      refine ⟨[], frame :: frames, next, rfl, hloop, hnext, hsame, ?_, ?_, ?_⟩
      · rw [htrace, List.map_nil, List.append_nil]
      · rw [hreceived, hbytes]
      · have hmissing : 0 < more.length := List.length_pos_iff.mpr hmore
        intro f hf
        obtain rfl : frame = f := Option.some.inj hf
        rw [hreceived, hrest, List.length_append]
        exact Nat.lt_add_of_pos_right hmissing
    have hwhole {more : List UInt8} (hreceived : received s = frame ++ more)
        (hrest : more ++ rest = frames.flatten) :
        ∃ done todo next, frame :: frames = done ++ todo ∧
          loop now res resCode s = some (.ok, next) ∧ Taken s done todo rest next := by
      obtain ⟨mid, hround, hmid, hsame, htrace, hmore, hpos⟩ :=
        round_takes now res resCode hs hframe hreceived
      have hmidlen : mid.rxDataPos < mid.rxDataLen := by
        rw [hsame.rxDataLen]
        omega
      obtain ⟨done, todo, next, rfl, hloop, htaken⟩ := ih hmid hmidlen
        (fun f hf ↦ hframes f (List.mem_cons_of_mem frame hf)) (by rw [hmore, hrest])
      refine ⟨frame :: done, todo, next, rfl, ?_, htaken.decodes, ?_, ?_, htaken.bytes,
        htaken.part⟩
      · rw [loop_eq, hround]
        exact hloop
      · exact ⟨htaken.same.rtsp.trans hsame.rtsp, htaken.same.rxDataLen.trans hsame.rxDataLen⟩
      · rw [htaken.trace, htrace, List.append_assoc]
        rfl
    rw [List.flatten_cons] at hbytes
    rcases List.append_eq_append_iff.mp hbytes with ⟨more, hmore, hrest⟩ | ⟨more, hmore, hrest⟩
    · by_cases hempty : more = []
      · subst hempty
        rw [List.append_nil] at hmore
        have hstart : received s = frame ++ [] := by rw [hmore, List.append_nil]
        exact hwhole hstart hrest
      · exact hpart hempty hmore
    · exact hwhole hmore hrest.symm

/-! ## The results of `recv` -/

/-- `recv` returned these bytes. -/
def Fits (s : SatipRTSP) (chunk : Timespec × List UInt8) : Prop :=
  chunk.2 ≠ [] ∧ (chunk.2.length : ℤ) ≤ room s

instance (s : SatipRTSP) (chunk : Timespec × List UInt8) : Decidable (Fits s chunk) := by
  unfold Fits
  infer_instance

/-- The state in which the loop finds the bytes. -/
def push (data : List UInt8) (s : SatipRTSP) : SatipRTSP :=
  withBuffer (store s.rxData s.rxDataPos.toNat data) (s.rxDataPos + data.length) s

/-- The bytes are put behind those received before; in front of the buffer this is a fault. -/
theorem handleResponse_of_fits {chunk : Timespec × List UInt8} (h : Fits s chunk) :
    handleResponse chunk.1 (.bytes chunk.2) s =
      if s.rxDataPos < 0 then none else loop chunk.1 .error 0 (push chunk.2 s) := by
  obtain ⟨hne, hroom⟩ := h
  have hlength : 0 < chunk.2.length := List.length_pos_iff.mpr hne
  have htake : chunk.2.take (room s).toNat = chunk.2 := by
    apply List.take_of_length_le
    omega
  unfold handleResponse
  dsimp only
  rw [if_neg (by omega), htake, if_neg hne]
  rfl

theorem received_push_of_nonneg (h : 0 ≤ s.rxDataPos) (data : List UInt8) :
    received (push data s) = received s ++ data := received_push h data

theorem rxDataPos_push_lt {chunk : Timespec × List UInt8} (h : Fits s chunk) :
    (push chunk.2 s).rxDataPos < (push chunk.2 s).rxDataLen := by
  have hroom : (chunk.2.length : ℤ) ≤ s.rxDataLen - s.rxDataPos - 1 := h.2
  change s.rxDataPos + chunk.2.length < s.rxDataLen
  omega

theorem Decodes.push (h : Decodes s) (data : List UInt8) : Decodes (push data s) where
  tcp := h.tcp
  psiOk := h.psiOk
  nonneg := by
    have hnonneg : 0 ≤ s.rxDataPos := h.nonneg
    change 0 ≤ s.rxDataPos + data.length
    omega

/-! ## No byte is lost -/

/-- `handleResponse` is called with one result of `recv`, and answers that it waits for more. -/
def readFrames (s : SatipRTSP) (chunk : Timespec × List UInt8) : Option SatipRTSP :=
  (handleResponse chunk.1 (.bytes chunk.2) s).bind fun (res, next) ↦
    if res = .ok then some next else none

theorem readFrames_eq {chunk : Timespec × List UInt8} (h : Fits s chunk) (hpos : 0 ≤ s.rxDataPos)
    (hloop : loop chunk.1 .error 0 (push chunk.2 s) = some (.ok, next)) :
    readFrames s chunk = some next := by
  rw [readFrames, handleResponse_of_fits h, if_neg (by omega), hloop]
  rfl

/-- By induction on the results of `recv`, each of which may complete any number of frames. -/
theorem run_takes {chunks : List (Timespec × List UInt8)} (hs : Decodes s)
    {frames : List (List UInt8)} {rest : List UInt8} (hframes : ∀ f ∈ frames, IsFrame f)
    (hbytes : received s ++ (chunks.map Prod.snd).flatten ++ rest = frames.flatten)
    (hpart : ∀ f ∈ frames.head?, (received s).length < f.length)
    (hfits : Runs.EachStep readFrames Fits s chunks) :
    ∃ done todo finish, frames = done ++ todo ∧ Runs.run readFrames s chunks = some finish ∧
      Taken s done todo rest finish := by
  induction chunks generalizing s frames with
  | nil =>
    rw [List.map_nil, List.flatten_nil, List.append_nil] at hbytes
    refine ⟨[], frames, s, rfl, rfl, hs, ⟨rfl, rfl⟩, ?_, hbytes, hpart⟩
    rw [List.map_nil, List.append_nil]
  | cons chunk chunks ih =>
    have hreceived : received (push chunk.2 s) = received s ++ chunk.2 :=
      received_push_of_nonneg hs.nonneg chunk.2
    rw [List.map_cons, List.flatten_cons, ← List.append_assoc, ← hreceived, List.append_assoc]
      at hbytes
    obtain ⟨done, todo, next, rfl, hloop, htaken⟩ := loop_takes chunk.1 .error 0
      (hs.push chunk.2) (rxDataPos_push_lt hfits.1) hframes hbytes
    have hread : readFrames s chunk = some next := readFrames_eq hfits.1 hs.nonneg hloop
    obtain ⟨done', todo', finish, rfl, hrun, htaken'⟩ := ih htaken.decodes
      (fun f hf ↦ hframes f (List.mem_append_right done hf))
      (by rw [List.append_assoc]; exact htaken.bytes) htaken.part (hfits.2 next hread)
    refine ⟨done ++ done', todo', finish, by rw [List.append_assoc], ?_, htaken'.decodes, ?_, ?_,
      htaken'.bytes, htaken'.part⟩
    · rw [Runs.run_cons, hread]
      exact hrun
    · exact ⟨htaken'.same.rtsp.trans htaken.same.rtsp,
        htaken'.same.rxDataLen.trans htaken.same.rxDataLen⟩
    · have htrace : next.trace = s.trace ++ done.map .frame := htaken.trace
      rw [htaken'.trace, htrace, List.map_append, List.append_assoc]

/-- All of a stream of whole frames is handed over. -/
theorem run_takes_all {chunks : List (Timespec × List UInt8)} (hs : Decodes s)
    (hempty : received s = []) {frames : List (List UInt8)} (hframes : ∀ f ∈ frames, IsFrame f)
    (hbytes : (chunks.map Prod.snd).flatten = frames.flatten)
    (hfits : Runs.EachStep readFrames Fits s chunks) :
    ∃ finish, Runs.run readFrames s chunks = some finish ∧
      finish.trace = s.trace ++ frames.map .frame := by
  have hpart : ∀ f ∈ frames.head?, (received s).length < f.length := by
    intro f hf
    have hfour : 4 ≤ f.length := (hframes f (List.mem_of_mem_head? hf)).2.1
    rw [hempty]
    exact Nat.lt_of_lt_of_le (by simp) hfour
  have hall : received s ++ (chunks.map Prod.snd).flatten ++ [] = frames.flatten := by
    rw [hempty, List.nil_append, List.append_nil, hbytes]
  obtain ⟨done, todo, finish, rfl, hrun, htaken⟩ := run_takes hs hframes hall hpart hfits
  have hdone : todo = [] := by
    cases todo with
    | nil => rfl
    | cons f todo =>
      have hshort : (received finish).length < f.length := htaken.part f rfl
      have hlong := congrArg List.length htaken.bytes
      rw [List.append_nil, List.flatten_cons, List.length_append] at hlong
      omega
  rw [hdone, List.append_nil]
  exact ⟨finish, hrun, htaken.trace⟩

/-- In TCP data mode, starting with an empty buffer, whatever frames the server sends and however
they are cut into results of `recv`: no call fails, the frames completed so far were handed to
`rtpTcpData`, each once and in order, and the buffer holds the beginning of the next frame and
has room for more. -/
theorem frames_lossless (h : Reachable s) (htcp : isTcpData s = true) (hempty : s.rxDataPos = 0)
    {frames : List (UInt8 × List UInt8)} (hframes : ∀ f ∈ frames, f.2.length < 65536)
    {chunks : List (Timespec × List UInt8)} {rest : List UInt8}
    (hbytes : (chunks.map Prod.snd).flatten ++ rest =
      (frames.map fun f ↦ encodeFrame f.1 f.2).flatten)
    (hfits : Runs.EachStep readFrames Fits s chunks) :
    ∃ done todo finish, frames = done ++ todo ∧ Runs.run readFrames s chunks = some finish ∧
      finish.trace = s.trace ++ done.map (fun f ↦ .frame (encodeFrame f.1 f.2)) ∧
      received finish ++ rest = (todo.map fun f ↦ encodeFrame f.1 f.2).flatten ∧
      (∀ f ∈ todo.head?, (received finish).length < (encodeFrame f.1 f.2).length) ∧
      0 < room finish := by
  have hreceived : received s = [] := by
    rw [received, hempty]
    rfl
  have hs : Decodes s := ⟨htcp, h.psiOk, hempty.ge⟩
  have hall : ∀ f ∈ frames.map (fun f ↦ encodeFrame f.1 f.2), IsFrame f := by
    intro f hf
    obtain ⟨⟨channel, payload⟩, hmem, rfl⟩ := List.mem_map.mp hf
    exact isFrame_encodeFrame channel (hframes _ hmem)
  have hpart : ∀ f ∈ (frames.map fun f ↦ encodeFrame f.1 f.2).head?,
      (received s).length < f.length := by
    intro f hf
    rw [hreceived]
    have hfour : 4 ≤ f.length := (hall f (List.mem_of_mem_head? hf)).2.1
    exact Nat.lt_of_lt_of_le (by simp) hfour
  obtain ⟨done, todo, finish, hsplit, hrun, htaken⟩ :=
    run_takes hs hall (by rw [hreceived]; exact hbytes) hpart hfits
  obtain ⟨front, back, rfl, rfl, rfl⟩ := List.map_eq_append_iff.mp hsplit
  refine ⟨front, back, finish, rfl, hrun, ?_, htaken.bytes, ?_, ?_⟩
  · rw [htaken.trace, List.map_map]
    rfl
  · intro f hf
    apply htaken.part
    rw [List.head?_map, Option.mem_def.mp hf]
    rfl
  · have hsize : finish.rxDataLen = 256 * 1024 := by
      rw [htaken.same.rxDataLen, h.rxDataLen, htcp]
      rfl
    have hlong : (received finish).length < 65540 := by
      cases back with
      | nil =>
        have hnil : received finish = [] := (List.append_eq_nil_iff.mp htaken.bytes).1
        rw [hnil]
        simp
      | cons f back =>
        have hnext : (received finish).length < (encodeFrame f.1 f.2).length :=
          htaken.part _ rfl
        have hpayload : f.2.length < 65536 :=
          hframes f (List.mem_append_right front List.mem_cons_self)
        change (received finish).length < f.2.length + 4 at hnext
        omega
    have hnonneg : 0 ≤ finish.rxDataPos := htaken.decodes.nonneg
    rw [length_received] at hlong
    rw [room, hsize]
    omega

/-- Two frames, cut in a header and in a payload. -/
def frameChunks : List (Timespec × List UInt8) :=
  [({}, [36, 0]), ({}, [0, 2, 1, 2, 36, 1, 0, 3, 9])]

theorem frames_lossless_frameChunks :
    ∃ done todo finish, [(0, [1, 2]), (1, [9, 8, 7])] = done ++ todo ∧
      Runs.run readFrames tcpArgs.start frameChunks = some finish ∧
      finish.trace = tcpArgs.start.trace ++ done.map (fun f ↦ .frame (encodeFrame f.1 f.2)) ∧
      received finish ++ [8, 7] = (todo.map fun f ↦ encodeFrame f.1 f.2).flatten ∧
      (∀ f ∈ todo.head?, (received finish).length < (encodeFrame f.1 f.2).length) ∧
      0 < room finish := by
  have hreach : Reachable tcpArgs.start := ⟨tcpArgs, .refl step tcpArgs.start⟩
  have hfits : Runs.EachStep readFrames Fits tcpArgs.start frameChunks := by decide +kernel
  exact frames_lossless hreach rfl rfl (by decide) (by decide) hfits

end SatipClient.RTSP
