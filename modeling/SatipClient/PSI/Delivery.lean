import SatipClient.PSI.Receiving

/-!
# Delivering a section

Whatever section a sender has for a watched pid, there are packets that hand over this section and
nothing else (`exists_delivery`): one that starts it and as many as it takes to carry the rest, with
stuffing behind its end.  The parser is then where `handleSection` and `settle` take it, so that a
carousel can be sent in any order, section by section.
-/

namespace SatipClient.PSI

open Checked

/-! ## Packets with a given payload -/

/-- A packet without an adaptation field; `start` is its `payload_unit_start_indicator`. -/
def packetWith (start : Bool) (pid : ℕ) (payload : List UInt8) : List UInt8 :=
  [0x47, UInt8.ofNat ((if start then 0x40 else 0) ||| pid >>> 8), UInt8.ofNat pid, 0x10] ++ payload

variable {start : Bool} {pid : ℕ} {payload bytes : List UInt8}

theorem isPacket_packetWith (h : payload.length = 184) :
    IsPacket (packetWith start pid payload) := by
  constructor
  · rw [packetWith, List.length_append, h]
    rfl
  · rfl

/-- The byte that holds the start indicator and the high bits of the pid. -/
theorem byteAt_packetWith :
    byteAt (packetWith start pid payload) 1 =
      some (((if start then 0x40 else 0) ||| pid >>> 8) % 256) :=
  congrArg some UInt8.toNat_ofNat'

theorem highBits_lt (hpid : pid < 8192) : pid >>> 8 < 32 := by
  rw [Nat.shiftRight_eq_div_pow]
  omega

/-- The bits of a header byte that belong to the pid. -/
theorem pidBits_of_lt {high : ℕ} (h : high < 32) :
    ((if start then 0x40 else 0) ||| high) % 256 &&& 0x1f = high := by
  cases start <;> (revert h; revert high; decide)

/-- A pid of 13 bits can be read back. -/
theorem packetPid_packetWith (hpid : pid < 8192) :
    packetPid (packetWith start pid payload) = some pid := by
  have hlow : byteAt (packetWith start pid payload) 2 = some (pid % 256) :=
    congrArg some UInt8.toNat_ofNat'
  have hread : packetPid (packetWith start pid payload) =
      some (pidOfBytes (((if start then 0x40 else 0) ||| pid >>> 8) % 256) (pid % 256)) := by
    rw [packetPid, byteAt_packetWith, hlow]
    rfl
  rw [hread, pidOfBytes, pidBits_of_lt (highBits_lt hpid),
    ← Nat.shiftLeft_add_eq_or_of_lt (Nat.mod_lt _ (by decide)), Nat.shiftLeft_eq,
    Nat.shiftRight_eq_div_pow]
  congr 1
  omega

theorem payloadStart_packetWith : payloadStart (packetWith start pid payload) = some (some 4) :=
  rfl

/-- A packet that continues a section. -/
theorem packetPayload_continued (hpid : pid < 8192) :
    PacketPayload (packetWith false pid payload) (some (.continued payload)) := by
  have hbit : ∀ high < 32, (0 ||| high) % 256 &&& 0x40 = 0 := by decide
  exact PacketPayload.continued payloadStart_packetWith byteAt_packetWith
    (hbit _ (highBits_lt hpid))

/-- A packet in which a section starts. -/
theorem packetPayload_starting (hpid : pid < 8192) :
    PacketPayload (packetWith true pid (0 :: bytes)) (some (.starting [] bytes)) := by
  have hbit : ∀ high < 32, (0x40 ||| high) % 256 &&& 0x40 ≠ 0 := by decide
  exact PacketPayload.starting payloadStart_packetWith byteAt_packetWith
    (hbit _ (highBits_lt hpid)) rfl rfl

/-- These bytes as a payload of that size, with stuffing behind them. -/
def padded (size : ℕ) (bytes : List UInt8) : List UInt8 :=
  bytes ++ stuffing (size - bytes.length)

theorem length_padded {size : ℕ} (h : bytes.length ≤ size) : (padded size bytes).length = size := by
  rw [padded, List.length_append, stuffing, List.length_replicate]
  omega

/-! ## What a delivery does -/

/-- The parser is where `handleSection` and `settle` take it, and nothing is left in the assembler;
the packets were counted. -/
def Delivered (s : SatipPSI) (pid : ℕ) (sec : List UInt8) (next : SatipPSI) : Prop :=
  pendingOf next pid = [] ∧ ∃ tables assembler tsPackets,
    s.tables.handleSection pid sec = some tables ∧
      next = settle { s with
        tables := tables
        trace := s.trace ++ [.handleSection s.tables pid sec]
        assembler := assembler
        tsPackets := tsPackets }

variable {s next : SatipPSI} {sec begun left p : List UInt8} {secs : List (List UInt8)}

/-- A packet that continues what the assembler holds. -/
theorem processPacket_carries {carried : Payload} (hp : IsPacket p) (hpid : packetPid p = some pid)
    (hpayload : PacketPayload p (some carried))
    (hcarry : Carries (pendingOf s pid) carried secs left) (hwatch : pid ∈ s.watchedPids)
    (hs : AssemblersOk s) :
    processPacket p s =
      (handleAll pid secs (countPacket s)).map fun mid ↦ settle (keepPending pid left mid) := by
  rw [processPacket_watched hp.1 hpid (hpayload.packetFeeds_eq hp.1) carried.feeds_ne_nil hwatch hs]
  simp only [Option.elim_some, hcarry.assembleAll_eq]

/-- A packet that completes no section is only counted and its bytes are kept. -/
theorem processPacket_unfinished {carried : Payload} (hp : IsPacket p)
    (hpid : packetPid p = some pid) (hpayload : PacketPayload p (some carried))
    (hcarry : Carries (pendingOf s pid) carried [] left) (hwatch : pid ∈ s.watchedPids)
    (hs : AssemblersOk s) (hclean : s.tables.dirty = false) :
    processPacket p s = some (keepPending pid left (countPacket s)) := by
  rw [processPacket_carries hp hpid hpayload hcarry hwatch hs]
  exact congrArg some (settle_of_not_dirty (s := keepPending pid left (countPacket s)) hclean)

theorem pendingOf_settle_eq_nil (h : pendingOf s pid = []) : pendingOf (settle s) pid = [] := by
  unfold settle
  split
  · rw [pendingOf, recompute_assembler, eraseUnlisted]
    split
    · exact h
    · rfl
  · exact h

/-- The packet that completes the section delivers it. -/
theorem delivered_of_completed {carried : Payload} (hp : IsPacket p)
    (hpid : packetPid p = some pid) (hpayload : PacketPayload p (some carried))
    (hcarry : Carries (pendingOf s pid) carried [sec] []) (hwatch : pid ∈ s.watchedPids)
    (hs : AssemblersOk s) (h : processPacket p s = some next) : Delivered s pid sec next := by
  rw [processPacket_carries hp hpid hpayload hcarry hwatch hs, Option.map_eq_some_iff] at h
  obtain ⟨mid, hmid, rfl⟩ := h
  rw [handleAll_cons, Option.bind_eq_some_iff] at hmid
  obtain ⟨after, hafter, hmid⟩ := hmid
  obtain rfl := Option.some.inj hmid
  obtain ⟨tables, htables, rfl⟩ := exists_tables_of_handleSection hafter
  exact ⟨pendingOf_settle_eq_nil (pendingOf_keepPending pid [] _), tables, _, _, htables, rfl⟩

/-- The packets before did nothing but to fill the assembler. -/
theorem Delivered.of_keepPending
    (h : Delivered (keepPending pid left (countPacket s)) pid sec next) :
    Delivered s pid sec next := h

/-! ## Packets for a section -/

/-- The rest of a section, cut into packets. -/
theorem exists_delivery_of_begun {rest : List UInt8} (hpid : pid < 8192) (hs : AssemblersOk s)
    (hwatch : pid ∈ s.watchedPids) (hclean : s.tables.dirty = false)
    (hbegun : pendingOf s pid = begun) (hne : begun ≠ []) (hrest : rest ≠ [])
    (hsec : Sendable (begun ++ rest)) :
    ∃ packets, (∀ p ∈ packets, IsPacket p) ∧ ∃ next, processAll packets s = some next ∧
      Delivered s pid (begun ++ rest) next := by
  induction hlen : rest.length using Nat.strong_induction_on generalizing s begun rest with
  | _ n ih =>
    by_cases hlast : rest.length ≤ 184
    · -- What is left fits into one packet.
      have hp : IsPacket (packetWith false pid (padded 184 rest)) :=
        isPacket_packetWith (length_padded hlast)
      obtain ⟨next, hnext, -⟩ := exists_processPacket hp.1 hs
      have hcarry : Carries (pendingOf s pid) (.continued (padded 184 rest)) [begun ++ rest]
          [] := by
        rw [hbegun]
        exact Carries.completed _ hne hrest hsec
      have hdelivered := delivered_of_completed hp (packetPid_packetWith hpid)
        (packetPayload_continued hpid) hcarry hwatch hs hnext
      exact ⟨[_], by simpa using hp, next, by simp [hnext], hdelivered⟩
    · have hback : rest.drop 184 ≠ [] := by
        rw [ne_eq, List.drop_eq_nil_iff]
        exact hlast
      have hsplit : begun ++ rest.take 184 ++ rest.drop 184 = begun ++ rest := by
        rw [List.append_assoc, List.take_append_drop]
      have hp : IsPacket (packetWith false pid (rest.take 184)) :=
        isPacket_packetWith (List.length_take_of_le (Nat.le_of_not_le hlast))
      have hcarry : Carries (pendingOf s pid) (.continued (rest.take 184)) []
          (begun ++ rest.take 184) := by
        rw [hbegun]
        exact Carries.within hne hback (by rwa [hsplit])
      have hfirst := processPacket_unfinished hp (packetPid_packetWith hpid)
        (packetPayload_continued hpid) hcarry hwatch hs hclean
      obtain ⟨mid, hmid, hok⟩ := exists_processPacket hp.1 hs
      obtain rfl := Option.some.inj (hmid.symm.trans hfirst)
      have hshorter : (rest.drop 184).length < n := by
        rw [List.length_drop]
        omega
      obtain ⟨packets, hpackets, next, hnext, hdelivered⟩ := ih _ hshorter
        (s := keepPending pid (begun ++ rest.take 184) (countPacket s)) hok hwatch hclean
        (pendingOf_keepPending _ _ _) (by simp [hne]) hback (hsplit ▸ hsec) rfl
      rw [hsplit] at hdelivered
      refine ⟨_ :: packets, List.forall_mem_cons.mpr ⟨hp, hpackets⟩, next, ?_,
        hdelivered.of_keepPending⟩
      rw [processAll_cons, hfirst, Option.bind_some, hnext]

/-- A section can be delivered in packets of its own. -/
theorem exists_packets (hpid : pid < 8192) (hs : AssemblersOk s) (hwatch : pid ∈ s.watchedPids)
    (hclean : s.tables.dirty = false) (hidle : pendingOf s pid = []) (hsec : Sendable sec) :
    ∃ packets, (∀ p ∈ packets, IsPacket p) ∧ ∃ next, processAll packets s = some next ∧
      Delivered s pid sec next := by
  by_cases hlast : sec.length ≤ 183
  · have hp : IsPacket (packetWith true pid (0 :: padded 183 sec)) :=
      isPacket_packetWith (by rw [List.length_cons, length_padded hlast])
    obtain ⟨next, hnext, -⟩ := exists_processPacket hp.1 hs
    have hstarts : Starts ([sec].flatten ++ stuffing (183 - sec.length)) [sec] [] :=
      Starts.stuffed _ (List.cons_ne_nil _ _) (by simpa using hsec)
    rw [List.flatten_singleton] at hstarts
    have hcarry : Carries (pendingOf s pid) (.starting [] (padded 183 sec)) [sec] [] :=
      hidle ▸ Carries.started Ends.idle hstarts
    have hdelivered := delivered_of_completed hp (packetPid_packetWith hpid)
      (packetPayload_starting hpid) hcarry hwatch hs hnext
    exact ⟨[_], by simpa using hp, next, by simp [hnext], hdelivered⟩
  · have hfront : sec.take 183 ≠ [] := by
      rw [ne_eq, List.take_eq_nil_iff]
      rintro (h | rfl)
      · cases h
      · exact hlast (Nat.zero_le _)
    have hback : sec.drop 183 ≠ [] := by
      rw [ne_eq, List.drop_eq_nil_iff]
      exact hlast
    have hp : IsPacket (packetWith true pid (0 :: sec.take 183)) := by
      apply isPacket_packetWith
      rw [List.length_cons, List.length_take_of_le (Nat.le_of_not_le hlast)]
    have hsplit : Sendable (sec.take 183 ++ sec.drop 183) := by rwa [List.take_append_drop]
    have hstarts : Starts (([] : List (List UInt8)).flatten ++ sec.take 183) [] (sec.take 183) :=
      Starts.unfinished (by simp) hfront hback hsplit
    have hcarry : Carries (pendingOf s pid) (.starting [] (sec.take 183)) [] (sec.take 183) :=
      hidle ▸ Carries.started Ends.idle hstarts
    have hfirst := processPacket_unfinished hp (packetPid_packetWith hpid)
      (packetPayload_starting hpid) hcarry hwatch hs hclean
    obtain ⟨mid, hmid, hok⟩ := exists_processPacket hp.1 hs
    obtain rfl := Option.some.inj (hmid.symm.trans hfirst)
    obtain ⟨packets, hpackets, next, hnext, hdelivered⟩ := exists_delivery_of_begun
      (s := keepPending pid (sec.take 183) (countPacket s)) hpid hok hwatch hclean
      (pendingOf_keepPending _ _ _) hfront hback hsplit
    rw [List.take_append_drop] at hdelivered
    refine ⟨_ :: packets, List.forall_mem_cons.mpr ⟨hp, hpackets⟩, next, ?_,
      hdelivered.of_keepPending⟩
    rw [processAll_cons, hfirst, Option.bind_some, hnext]

theorem Delivered.handed (h : Delivered s pid sec next) :
    handed next.trace = PSI.handed s.trace ++ [(pid, sec)] := by
  obtain ⟨-, tables, assembler, tsPackets, -, rfl⟩ := h
  rw [handed_settle, handed_append]
  rfl

/-- A section of a watched pid can be delivered to a parser that has nothing pending there. -/
theorem exists_delivery (hs : Reachable s) (hpid : pid < 8192) (hwatch : pid ∈ s.watchedPids)
    (hidle : pendingOf s pid = []) (hsec : Sendable sec) :
    ∃ next, Receives s [(pid, sec)] next ∧ Delivered s pid sec next := by
  obtain ⟨packets, hpackets, next, hnext, hdelivered⟩ :=
    exists_packets hpid hs.assemblersOk hwatch hs.not_dirty hidle hsec
  have hbuffers : ∀ p ∈ [packets].flatten, IsPacket p := by simpa using hpackets
  have hrun := run_buffers hbuffers s
  rw [List.flatten_singleton, hnext] at hrun
  exact ⟨next, ⟨[packets.flatten], by simpa using hrun, hdelivered.handed⟩, hdelivered⟩

end SatipClient.PSI
