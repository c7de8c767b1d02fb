import SatipClient.RTP.State
import SatipClient.RTSP.Frames

/-!
# The two ways of stream data

The same RTP packets, once as UDP datagrams and once interleaved in the RTSP connection.  Both
receivers pass on what is behind the RTP header, but only `rtpDump` looks whether a TS packet
starts there, so they agree just on packets where one does (`receivers_agree_iff`).
-/

namespace SatipClient.RTP

open Memory (Block load store offset)
open RTSP (SatipRTSP encodeFrame isTcpData readFrames)

/-- The results of `write` are such that `size` bytes are written. -/
def Completes : List WriteResult → ℕ → Prop
  | [], size => size = 0
  | .wrote count :: results, size => 0 < count ∧ Completes results (size - count)
  | .interrupted :: results, size => Completes results size
  | .failed :: _, _ => False

/-- The stream data of the round can be written. -/
def DumpRound.Succeeds (round : DumpRound) : Prop :=
  ∀ packet ∈ round.rtp, Completes round.results (packet.length - 12)

/-- The stream data of the frame can be written. -/
def TcpFrame.Succeeds (frame : TcpFrame) : Prop := Completes frame.results (frame.size - 4 - 12)

/-- The bytes of the frame. -/
def TcpFrame.bytes (frame : TcpFrame) : List UInt8 := load frame.data frame.size

/-- What is behind the RTP headers of some packets, where a receiver accepts it. -/
def payloads (accepts : List UInt8 → Bool) (packets : List (List UInt8)) : List (List UInt8) :=
  (packets.map (·.drop 12)).filter accepts

/-- The stream data that `rtpDump` passes on: those that start with a TS packet. -/
def dumpPayloads (packets : List (List UInt8)) : List (List UInt8) :=
  payloads (fun payload ↦ payload.head? = some 0x47) packets

/-- The stream data that `rtpTcpData` passes on: whatever there is. -/
def tcpPayloads (packets : List (List UInt8)) : List (List UInt8) :=
  payloads (fun payload ↦ payload ≠ []) packets

/-- All of the stream data reach the device and the parser. -/
def passOn (payloads : List (List UInt8)) (s : SatipRTP) : SatipRTP :=
  { s with
    written := s.written ++ payloads.flatten
    processed := if s.hasPsi then s.processed ++ payloads else s.processed }

/-- The state without its signal values. -/
def withoutSignal (s : SatipRTP) : SatipRTP := { s with signal := none }

/-! ## Writing -/

/-- By induction on the results. -/
theorem write_of_completes {results : List WriteResult} {buffer : List UInt8}
    (h : Completes results buffer.length) : write results buffer = buffer := by
  induction results generalizing buffer with
  | nil => exact (List.length_eq_zero_iff.mp h).symm
  | cons result results ih =>
    cases result with
    | wrote count =>
      obtain ⟨hpos, hrest⟩ := h
      rw [← List.length_drop] at hrest
      rw [write, if_neg (Nat.ne_of_gt hpos), ih hrest, List.take_append_drop]
    | interrupted => exact ih h
    | failed => exact h.elim

theorem passOn_nil (s : SatipRTP) : passOn [] s = s := by
  simp [passOn]

theorem passOn_append (front back : List (List UInt8)) (s : SatipRTP) :
    passOn (front ++ back) s = passOn back (passOn front s) := by
  unfold passOn
  cases s.hasPsi <;> simp

theorem deliver_of_completes {results : List WriteResult} {bytes : List UInt8}
    (h : Completes results bytes.length) (s : SatipRTP) :
    deliver results bytes s = passOn [bytes] s := by
  rw [deliver, passOn, write_of_completes h, List.flatten_singleton]

theorem withoutSignal_passOn (payloads : List (List UInt8)) (s : SatipRTP) :
    withoutSignal (passOn payloads s) = passOn payloads (withoutSignal s) := rfl

/-! ## One packet -/

section Packet

variable {packet : List UInt8}

theorem drop_ne_nil_iff : packet.drop 12 ≠ [] ↔ 12 < packet.length := by
  rw [Ne, List.drop_eq_nil_iff, Nat.not_le]

theorem dumpPayloads_singleton (packet : List UInt8) :
    dumpPayloads [packet] = if packet[12]? = some 0x47 then [packet.drop 12] else [] := by
  by_cases h : packet[12]? = some 0x47 <;> simp [dumpPayloads, payloads, h]

theorem tcpPayloads_singleton (packet : List UInt8) :
    tcpPayloads [packet] = if 12 < packet.length then [packet.drop 12] else [] := by
  by_cases h : 12 < packet.length <;> simp [tcpPayloads, payloads, h]

theorem payloads_cons (accepts : List UInt8 → Bool) (packet : List UInt8)
    (packets : List (List UInt8)) :
    payloads accepts (packet :: packets) =
      payloads accepts [packet] ++ payloads accepts packets := by
  rw [payloads, payloads, payloads, ← List.filter_append, ← List.map_append]
  rfl

/-- A datagram is passed on if a TS packet starts behind its header. -/
theorem dumpRtp_packet {round : DumpRound} (hrtp : round.rtp = some packet)
    (hsize : packet.length ≤ bufferSize) (hsucceeds : round.Succeeds) (rxData : Block)
    (s : SatipRTP) : (dumpRtp round rxData s).2 = passOn (dumpPayloads [packet]) s := by
  have htake : packet.take bufferSize = packet := List.take_of_length_le hsize
  have hload : load (store rxData 0 packet) packet.length = packet :=
    Memory.load_store_zero rxData packet
  have hsync : 12 < packet.length ∧ store rxData 0 packet 12 = 0x47 ↔
      packet[12]? = some 0x47 := by
    by_cases hlong : 12 < packet.length
    · have hbyte := Memory.getElem?_load (store rxData 0 packet) hlong
      rw [hload] at hbyte
      rw [hbyte, Option.some_inj]
      exact and_iff_right hlong
    · rw [List.getElem?_eq_none (Nat.le_of_not_lt hlong)]
      simp [hlong]
  rw [dumpRtp, hrtp]
  dsimp only
  rw [htake]
  by_cases hstarts : packet[12]? = some 0x47
  · have hpassed := hsync.mpr hstarts
    rw [if_pos hpassed, Memory.load_offset_sub _ hpassed.1.le, hload, dumpPayloads_singleton,
      if_pos hstarts]
    apply deliver_of_completes
    rw [List.length_drop]
    exact hsucceeds packet hrtp
  · rw [if_neg (mt hsync.mp hstarts), dumpPayloads_singleton, if_neg hstarts, passOn_nil]

/-- An interleaved packet is passed on if there is something behind its header. -/
theorem rtpTcpData_packet {frame : TcpFrame} (hframe : frame.bytes = encodeFrame 0 packet)
    (hsucceeds : frame.Succeeds) (s : SatipRTP) :
    rtpTcpData s frame = passOn (tcpPayloads [packet]) s := by
  have hlength : frame.size = packet.length + 4 := by
    have hboth := congrArg List.length hframe
    rw [TcpFrame.bytes, Memory.length_load] at hboth
    exact hboth
  by_cases hlong : 12 < packet.length
  · have hchannel : frame.data 1 = 0 := by
      have hbyte : frame.bytes[1]? = some (frame.data 1) :=
        Memory.getElem?_load frame.data (by omega)
      rw [hframe] at hbyte
      exact (Option.some.inj hbyte).symm
    have hpayload : load (offset frame.data (4 + 12)) (frame.size - 4 - 12) = packet.drop 12 := by
      rw [Nat.sub_sub, Memory.load_offset_sub _ (by omega), ← TcpFrame.bytes, hframe]
      rfl
    rw [rtpTcpData, if_neg (by omega), if_pos hchannel, hpayload, tcpPayloads_singleton,
      if_pos hlong]
    apply deliver_of_completes
    rw [List.length_drop]
    have hrest : packet.length - 12 = frame.size - 4 - 12 := by omega
    rw [hrest]
    exact hsucceeds
  · rw [rtpTcpData, if_pos (by omega), tcpPayloads_singleton, if_neg hlong, passOn_nil]

end Packet

/-! ## Any number of packets -/

/-- Reports change nothing but the signal values. -/
theorem withoutSignal_dumpRtcp (round : DumpRound) (rxData : Block) (s : SatipRTP) :
    withoutSignal (dumpRtcp round rxData s).2 = withoutSignal s := by
  unfold dumpRtcp
  cases round.rtcp with
  | none => rfl
  | some datagram =>
    dsimp only
    split
    · rfl
    · rfl

/-- By induction on the rounds; those without a datagram on the RTP socket pass nothing on. -/
theorem withoutSignal_rtpDump {rounds : List DumpRound}
    (hsizes : ∀ packet ∈ rounds.filterMap (·.rtp), packet.length ≤ bufferSize)
    (hsucceed : ∀ round ∈ rounds, round.Succeeds) (rxData : Block) (s : SatipRTP) :
    withoutSignal (rtpDump rxData rounds s) =
      passOn (dumpPayloads (rounds.filterMap (·.rtp))) (withoutSignal s) := by
  induction rounds generalizing rxData s with
  | nil => exact (passOn_nil _).symm
  | cons round rounds ih =>
    have hstep : rtpDump rxData (round :: rounds) s =
        rtpDump (dumpRound (rxData, s) round).1 rounds (dumpRound (rxData, s) round).2 := rfl
    have hrest : ∀ r ∈ rounds, r.Succeeds := fun r hr ↦ hsucceed r (List.mem_cons_of_mem round hr)
    have hround : withoutSignal (dumpRound (rxData, s) round).2 =
        withoutSignal (dumpRtp round rxData s).2 := withoutSignal_dumpRtcp round _ _
    cases hrtp : round.rtp with
    | none =>
      have hnothing : (dumpRtp round rxData s).2 = s := by rw [dumpRtp, hrtp]
      rw [List.filterMap_cons_none hrtp] at hsizes ⊢
      rw [hstep, ih hsizes hrest, hround, hnothing]
    | some packet =>
      rw [List.filterMap_cons_some hrtp] at hsizes ⊢
      have hpacket := dumpRtp_packet hrtp (hsizes packet List.mem_cons_self)
        (hsucceed round List.mem_cons_self) rxData s
      have hsizes' := fun other hother ↦ hsizes other (List.mem_cons_of_mem packet hother)
      calc withoutSignal (rtpDump rxData (round :: rounds) s) =
            passOn (dumpPayloads (rounds.filterMap (·.rtp)))
              (withoutSignal (dumpRound (rxData, s) round).2) := by rw [hstep, ih hsizes' hrest]
        _ = passOn (dumpPayloads (rounds.filterMap (·.rtp)))
              (passOn (dumpPayloads [packet]) (withoutSignal s)) := by
            rw [hround, hpacket, withoutSignal_passOn]
        _ = passOn (dumpPayloads (packet :: rounds.filterMap (·.rtp))) (withoutSignal s) := by
            rw [← passOn_append]
            exact congrArg (passOn · _) (payloads_cons _ packet _).symm

/-- By induction on the frames. -/
theorem foldl_rtpTcpData {frames : List TcpFrame} {packets : List (List UInt8)}
    (hframes : frames.map TcpFrame.bytes = packets.map (encodeFrame 0))
    (hsucceed : ∀ frame ∈ frames, frame.Succeeds) (s : SatipRTP) :
    frames.foldl rtpTcpData s = passOn (tcpPayloads packets) s := by
  induction frames generalizing packets s with
  | nil =>
    obtain rfl : packets = [] := List.map_eq_nil_iff.mp hframes.symm
    exact (passOn_nil s).symm
  | cons frame frames ih =>
    cases packets with
    | nil => cases hframes
    | cons packet packets =>
      obtain ⟨hframe, hrest⟩ := List.cons.inj hframes
      have hfirst := rtpTcpData_packet hframe (hsucceed frame List.mem_cons_self) s
      have hsucceed' := fun other hother ↦ hsucceed other (List.mem_cons_of_mem frame hother)
      calc (frame :: frames).foldl rtpTcpData s =
            passOn (tcpPayloads packets) (rtpTcpData s frame) :=
            ih hrest hsucceed' (rtpTcpData s frame)
        _ = passOn (tcpPayloads packets) (passOn (tcpPayloads [packet]) s) := by rw [hfirst]
        _ = passOn (tcpPayloads (packet :: packets)) s := by
            rw [← passOn_append]
            exact congrArg (passOn · s) (payloads_cons _ packet packets).symm

/-! ## The parser of the RTSP client -/

/-- The RTSP client feeds its parser with what `rtpTcpData` passes on. -/
theorem rtsp_rtpTcpData_eq (frame : TcpFrame) (rtsp : SatipRTSP) :
    RTSP.rtpTcpData frame.bytes rtsp =
      ((rtpTcpData { hasPsi := true } frame).processed.foldlM
        (fun config bytes ↦ Config.stepPsi (.processTS bytes) config) rtsp.config).map
          fun config ↦ { RTSP.record (.frame frame.bytes) rtsp with config := config } := by
  have hlength : frame.bytes.length = frame.size := Memory.length_load frame.data frame.size
  by_cases hshort : frame.size ≤ 4 + 12
  · have hnothing : rtpTcpData { hasPsi := true } frame = { hasPsi := true } := if_pos hshort
    rw [RTSP.rtpTcpData, hnothing]
    dsimp only
    rw [if_pos (by omega)]
    rfl
  · have hchannel : frame.bytes[1]? = some 0 ↔ frame.data 1 = 0 := by
      rw [TcpFrame.bytes, Memory.getElem?_load frame.data (by omega), Option.some_inj]
    rw [RTSP.rtpTcpData, rtpTcpData, if_neg hshort]
    dsimp only
    rw [if_neg (by omega)]
    by_cases hstream : frame.data 1 = 0
    · have hpayload : load (offset frame.data (4 + 12)) (frame.size - 4 - 12) =
          frame.bytes.drop (4 + 12) := by
        rw [Nat.sub_sub, Memory.load_offset_sub _ (by omega)]
        rfl
      rw [if_pos (hchannel.mpr hstream), if_pos hstream, hpayload]
      simp [deliver, RTSP.record]
    · rw [if_neg (mt hchannel.mp hstream), if_neg hstream]
      split <;> rfl

/-! ## Agreement -/

/-- Of two filters the narrower one loses something as soon as it drops a list that is kept by the
other and is not empty. -/
theorem flatten_filter_eq_iff {α : Type} {p q : List α → Bool} (himp : ∀ x, p x → q x)
    (hne : ∀ x, q x → x ≠ []) (l : List (List α)) :
    (l.filter p).flatten = (l.filter q).flatten ↔ ∀ x ∈ l, q x → p x := by
  induction l with
  | nil => simp
  | cons x l ih =>
    have hle : (l.filter p).flatten.length ≤ (l.filter q).flatten.length :=
      (List.monotone_filter_right l himp).flatten.length_le
    rw [List.forall_mem_cons, ← ih]
    by_cases hp : p x
    · have hq := himp x hp
      rw [List.filter_cons_of_pos hp, List.filter_cons_of_pos hq, List.flatten_cons,
        List.flatten_cons, List.append_cancel_left_eq]
      exact (and_iff_right fun _ ↦ hp).symm
    · by_cases hq : q x
      · have hpos : 0 < x.length := List.length_pos_iff.mpr (hne x hq)
        rw [List.filter_cons_of_neg hp, List.filter_cons_of_pos hq, List.flatten_cons]
        constructor
        · intro hsame
          have hlength := congrArg List.length hsame
          rw [List.length_append] at hlength
          omega
        · intro h
          exact absurd (h.1 hq) hp
      · rw [List.filter_cons_of_neg hp, List.filter_cons_of_neg hq]
        exact (and_iff_right fun h ↦ absurd h hq).symm

/-- A TS packet starts behind the header of the RTP packet, if there is anything. -/
def StartsTs (packet : List UInt8) : Prop := 12 < packet.length → packet[12]? = some 0x47

theorem flatten_payloads_eq_iff (packets : List (List UInt8)) :
    (dumpPayloads packets).flatten = (tcpPayloads packets).flatten ↔
      ∀ packet ∈ packets, StartsTs packet := by
  have himp : ∀ payload : List UInt8, decide (payload.head? = some 0x47) →
      decide (payload ≠ []) := by
    intro payload hstarts
    cases payload with
    | nil => simp at hstarts
    | cons byte payload => simp
  have hne : ∀ payload : List UInt8, decide (payload ≠ []) → payload ≠ [] :=
    fun _ h ↦ of_decide_eq_true h
  rw [dumpPayloads, tcpPayloads, payloads, payloads, flatten_filter_eq_iff himp hne,
    List.forall_mem_map]
  simp only [decide_eq_true_eq, drop_ne_nil_iff, List.head?_drop, StartsTs]

/-- The payloads are the same when they start with TS packets. -/
theorem payloads_eq {packets : List (List UInt8)} (h : ∀ packet ∈ packets, StartsTs packet) :
    dumpPayloads packets = tcpPayloads packets := by
  apply List.filter_congr
  intro payload hpayload
  obtain ⟨packet, hpacket, rfl⟩ := List.mem_map.mp hpayload
  have hstarts : packet[12]? = some 0x47 ↔ 12 < packet.length :=
    ⟨fun hbyte ↦ (List.getElem?_eq_some_iff.mp hbyte).1, h packet hpacket⟩
  rw [decide_eq_decide, List.head?_drop, drop_ne_nil_iff, hstarts]

/-- The same packets on both ways give the same output just when they start with TS packets. -/
theorem outputs_eq_iff {packets : List (List UInt8)}
    (hpackets : ∀ packet ∈ packets, packet.length ≤ bufferSize) {rounds : List DumpRound}
    (hrounds : rounds.filterMap (·.rtp) = packets) (hudp : ∀ round ∈ rounds, round.Succeeds)
    {frames : List TcpFrame} (hframes : frames.map TcpFrame.bytes = packets.map (encodeFrame 0))
    (htcp : ∀ frame ∈ frames, frame.Succeeds) (rxData : Block) (s : SatipRTP) :
    ((rtpDump rxData rounds s).written = (frames.foldl rtpTcpData s).written ∧
        (rtpDump rxData rounds s).processed = (frames.foldl rtpTcpData s).processed) ↔
      ∀ packet ∈ packets, StartsTs packet := by
  subst hrounds
  have hdump := withoutSignal_rtpDump hpackets hudp rxData s
  have hdumpWritten : (rtpDump rxData rounds s).written =
      s.written ++ (dumpPayloads (rounds.filterMap (·.rtp))).flatten :=
    congrArg SatipRTP.written hdump
  have hdumpProcessed := congrArg SatipRTP.processed hdump
  rw [hdumpWritten, foldl_rtpTcpData hframes htcp]
  constructor
  · rintro ⟨hwritten, -⟩
    exact (flatten_payloads_eq_iff _).mp (List.append_cancel_left hwritten)
  · intro hstart
    rw [payloads_eq hstart] at hdumpProcessed ⊢
    exact ⟨rfl, hdumpProcessed⟩

/-- The RTSP client hands the frames of the packets over as they were sent. -/
theorem frames_handed {rtsp : SatipRTSP} (h : RTSP.Reachable rtsp) (htcp : isTcpData rtsp = true)
    (hempty : rtsp.rxDataPos = 0) {packets : List (List UInt8)}
    (hpackets : ∀ packet ∈ packets, packet.length ≤ bufferSize)
    {chunks : List (Timespec × List UInt8)}
    (hbytes : (chunks.map Prod.snd).flatten = (packets.map (encodeFrame 0)).flatten)
    (hfits : Runs.EachStep readFrames RTSP.Fits rtsp chunks) :
    ∃ finish, Runs.run readFrames rtsp chunks = some finish ∧
      finish.trace = rtsp.trace ++ (packets.map (encodeFrame 0)).map .frame := by
  have hframes : ∀ frame ∈ packets.map (encodeFrame 0), RTSP.IsFrame frame := by
    intro frame hframe
    obtain ⟨packet, hpacket, rfl⟩ := List.mem_map.mp hframe
    exact RTSP.isFrame_encodeFrame 0 (Nat.lt_of_le_of_lt (hpackets packet hpacket) (by decide))
  have hreceived : RTSP.received rtsp = [] := by
    rw [RTSP.received, hempty]
    rfl
  exact RTSP.run_takes_all ⟨htcp, h.psiOk, hempty.ge⟩ hreceived hframes hbytes hfits

/-- Packets of at most 1328 bytes, once as datagrams among any reports, once in interleaved frames
that arrive in any pieces: device and parser get the same bytes just when all packets start with TS
packets. -/
theorem receivers_agree_iff {rtsp : SatipRTSP} (h : RTSP.Reachable rtsp)
    (htcp : isTcpData rtsp = true) (hempty : rtsp.rxDataPos = 0) {packets : List (List UInt8)}
    (hpackets : ∀ packet ∈ packets, packet.length ≤ bufferSize)
    {chunks : List (Timespec × List UInt8)}
    (hbytes : (chunks.map Prod.snd).flatten = (packets.map (encodeFrame 0)).flatten)
    (hfits : Runs.EachStep readFrames RTSP.Fits rtsp chunks) {rounds : List DumpRound}
    (hrounds : rounds.filterMap (·.rtp) = packets) (hudp : ∀ round ∈ rounds, round.Succeeds)
    (rxData : Block) (s : SatipRTP) :
    ∃ finish, Runs.run readFrames rtsp chunks = some finish ∧
      ∀ frames : List TcpFrame, (∀ frame ∈ frames, frame.Succeeds) →
        finish.trace = rtsp.trace ++ (frames.map TcpFrame.bytes).map .frame →
        (((rtpDump rxData rounds s).written = (frames.foldl rtpTcpData s).written ∧
            (rtpDump rxData rounds s).processed = (frames.foldl rtpTcpData s).processed) ↔
          ∀ packet ∈ packets, StartsTs packet) := by
  obtain ⟨finish, hrun, htrace⟩ := frames_handed h htcp hempty hpackets hbytes hfits
  refine ⟨finish, hrun, fun frames hsucceed hhanded ↦ ?_⟩
  have hevents := List.append_cancel_left (hhanded.symm.trans htrace)
  have hframes : frames.map TcpFrame.bytes = packets.map (encodeFrame 0) :=
    (List.map_inj_right fun _ _ hsame ↦ RTSP.Event.frame.inj hsame).mp hevents
  exact outputs_eq_iff hpackets hrounds hudp hframes hsucceed rxData s

/-- A packet of one byte, as a frame in the receive buffer and as a datagram. -/
def byteFrame (byte : UInt8) : TcpFrame where
  data := store (fun _ ↦ 0) 0 (encodeFrame 0 (List.replicate 12 0 ++ [byte]))
  size := 17
  results := [.wrote 1]

def byteRound (byte : UInt8) : DumpRound where
  rtp := some (List.replicate 12 0 ++ [byte])
  results := [.wrote 1]

theorem receivers_agree_iff_byteRound :
    ∃ finish, Runs.run readFrames RTSP.tcpArgs.start
        [({}, encodeFrame 0 (List.replicate 12 0 ++ [0x47]))] = some finish ∧
      ∀ frames : List TcpFrame, (∀ frame ∈ frames, frame.Succeeds) →
        finish.trace = RTSP.tcpArgs.start.trace ++ (frames.map TcpFrame.bytes).map .frame →
        (((rtpDump (fun _ ↦ 0) [byteRound 0x47] { hasPsi := true }).written =
              (frames.foldl rtpTcpData { hasPsi := true }).written ∧
            (rtpDump (fun _ ↦ 0) [byteRound 0x47] { hasPsi := true }).processed =
              (frames.foldl rtpTcpData { hasPsi := true }).processed) ↔
          ∀ packet ∈ [List.replicate 12 0 ++ [0x47]], StartsTs packet) := by
  have hreach : RTSP.Reachable RTSP.tcpArgs.start :=
    ⟨RTSP.tcpArgs, .refl RTSP.step RTSP.tcpArgs.start⟩
  have hfits : Runs.EachStep readFrames RTSP.Fits RTSP.tcpArgs.start
      [({}, encodeFrame 0 (List.replicate 12 0 ++ [0x47]))] := by decide +kernel
  have hudp : ∀ round ∈ [byteRound 0x47], round.Succeeds := by
    simp [DumpRound.Succeeds, byteRound, Completes]
  exact receivers_agree_iff hreach rfl rfl (by decide) (by decide) hfits rfl hudp _ _

/-- A packet without a TS packet: the device gets it from `rtpTcpData` alone. -/
theorem not_receivers_agree :
    (∃ finish, Runs.run readFrames RTSP.tcpArgs.start
        [({}, encodeFrame 0 (List.replicate 12 0 ++ [0]))] = some finish ∧
      finish.trace = RTSP.tcpArgs.start.trace ++ [.frame (byteFrame 0).bytes]) ∧
    (byteFrame 0).Succeeds ∧ (byteRound 0).Succeeds ∧
    (rtpDump (fun _ ↦ 0) [byteRound 0] { hasPsi := true }).written ≠
      ([byteFrame 0].foldl rtpTcpData { hasPsi := true }).written := by
  have hreach : RTSP.Reachable RTSP.tcpArgs.start :=
    ⟨RTSP.tcpArgs, .refl RTSP.step RTSP.tcpArgs.start⟩
  have hfits : Runs.EachStep readFrames RTSP.Fits RTSP.tcpArgs.start
      [({}, encodeFrame 0 (List.replicate 12 0 ++ [0]))] := by decide +kernel
  have hhanded := @frames_handed _ hreach rfl rfl [List.replicate 12 0 ++ [0]] (by decide) _
    (by decide) hfits
  refine ⟨hhanded, ?_, ?_, by decide⟩
  · simp [TcpFrame.Succeeds, byteFrame, Completes]
  · simp [DumpRound.Succeeds, byteRound, Completes]

end SatipClient.RTP
