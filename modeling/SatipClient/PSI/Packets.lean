import SatipClient.PSI.Assembler

/-!
# Packets as calls of `feed`

A TS packet of a watched pid amounts to at most two calls of `feed`: one for the tail of the
section in progress, one for the bytes behind the pointer field.  `packetFeeds` reads these
calls off the packet alone, and `processPacket_eq` says that `processPacket` makes exactly
them.  Together with the abstract assembler this gives the effect of a packet in one line
(`processPacket_watched`).
-/

namespace SatipClient.PSI

open Checked

/-- The pid of a packet. -/
def packetPid (p : List UInt8) : Option ℕ := do
  let b1 ← byteAt p 1
  let b2 ← byteAt p 2
  some (pidOfBytes b1 b2)

/-- The position of the payload; `none` inside when the packet is scrambled or has none. -/
def payloadStart (p : List UInt8) : Option (Option ℕ) := do
  let b3 ← byteAt p 3
  let afc := (b3 >>> 4) &&& 0x03
  if b3 &&& 0xc0 ≠ 0 ∨ afc = 0 ∨ afc = 2 then some none
  else do
    let pos ← payloadPos p afc
    if tsPacketSize ≤ pos then some none else some (some pos)

/-- The calls `feed(pid, buf, allow_start)` that a packet of a watched pid makes. -/
def packetFeeds (p : List UInt8) : Option (List (List UInt8 × Bool)) := do
  let b1 ← byteAt p 1
  let start ← payloadStart p
  match start with
  | none => some []
  | some pos =>
    if b1 &&& 0x40 ≠ 0 then do
      let ptr ← byteAt p pos
      if tsPacketSize < pos + 1 + ptr then some []
      else
        some ((if 0 < ptr then [((p.drop (pos + 1)).take ptr, false)] else []) ++
          [(p.drop (pos + 1 + ptr), true)])
    else some [(p.drop pos, false)]

/-- Make the calls in order. -/
def feedAll (pid : ℕ) (feeds : List (List UInt8 × Bool)) (s : SatipPSI) : Option SatipPSI :=
  feeds.foldlM (fun s call ↦ feed pid call.1 call.2 s) s

@[simp]
theorem feedAll_nil (pid : ℕ) : feedAll pid [] = some := rfl

@[simp]
theorem feedAll_cons (pid : ℕ) (call : List UInt8 × Bool) (feeds : List (List UInt8 × Bool))
    (s : SatipPSI) :
    feedAll pid (call :: feeds) s = (feed pid call.1 call.2 s).bind (feedAll pid feeds) := by
  simp only [feedAll, List.foldlM_cons, Option.bind_eq_bind]
  rfl

/-- A packet that was counted. -/
def countPacket (s : SatipPSI) : SatipPSI := { s with tsPackets := s.tsPackets + 1 }

variable {p : List UInt8}

theorem exists_packetPid (hp : p.length = tsPacketSize) : ∃ pid, packetPid p = some pid := by
  simp only [tsPacketSize] at hp
  obtain ⟨b1, _, h1⟩ := exists_byteAt (show 1 < p.length by omega)
  obtain ⟨b2, _, h2⟩ := exists_byteAt (show 2 < p.length by omega)
  exact ⟨_, by simp [packetPid, h1, h2]; rfl⟩

theorem exists_payloadPos (h : 4 < p.length) (afc : ℕ) : ∃ pos, payloadPos p afc = some pos := by
  obtain ⟨b4, _, h4⟩ := exists_byteAt h
  by_cases hafc : afc = 3
  · exact ⟨4 + 1 + b4, by rw [payloadPos, if_pos hafc, h4]; rfl⟩
  · exact ⟨4, by rw [payloadPos, if_neg hafc]⟩

theorem exists_payloadStart (hp : p.length = tsPacketSize) :
    ∃ start, payloadStart p = some start ∧ ∀ pos ∈ start, pos < tsPacketSize := by
  simp only [tsPacketSize] at hp
  obtain ⟨b3, _, h3⟩ := exists_byteAt (show 3 < p.length by omega)
  by_cases hskip : b3 &&& 0xc0 ≠ 0 ∨ (b3 >>> 4) &&& 0x03 = 0 ∨ (b3 >>> 4) &&& 0x03 = 2
  · exact ⟨none, by simp only [payloadStart, h3, Option.bind_eq_bind, Option.bind_some, hskip,
      if_true], by simp⟩
  obtain ⟨pos, hpos⟩ := exists_payloadPos (show 4 < p.length by omega) ((b3 >>> 4) &&& 0x03)
  by_cases hend : tsPacketSize ≤ pos
  · exact ⟨none, by simp only [payloadStart, h3, Option.bind_eq_bind, Option.bind_some, hskip,
      if_false, hpos, hend, if_true], by simp⟩
  · refine ⟨some pos, by simp only [payloadStart, h3, Option.bind_eq_bind, Option.bind_some,
      hskip, if_false, hpos, hend], ?_⟩
    intro pos' hmem
    obtain rfl := Option.some.inj hmem
    exact Nat.lt_of_not_le hend

theorem exists_packetFeeds (hp : p.length = tsPacketSize) :
    ∃ feeds, packetFeeds p = some feeds := by
  obtain ⟨start, hstart, hpos⟩ := exists_payloadStart hp
  obtain ⟨b1, _, h1⟩ := exists_byteAt (show 1 < p.length by simp only [tsPacketSize] at hp; omega)
  cases start with
  | none => exact ⟨[], by simp [packetFeeds, h1, hstart]⟩
  | some pos =>
    obtain ⟨ptr, _, hptr⟩ := exists_byteAt (show pos < p.length by rw [hp]; exact hpos pos rfl)
    simp only [packetFeeds, h1, hstart, Option.bind_eq_bind, Option.bind_some, hptr]
    split_ifs <;> exact ⟨_, rfl⟩

/-- `processPacket` makes the calls of `feed` that the packet asks for, then settles. -/
theorem processPacket_eq (hp : p.length = tsPacketSize) {pid : ℕ} (hpid : packetPid p = some pid)
    {feeds : List (List UInt8 × Bool)} (hfeeds : packetFeeds p = some feeds) (s : SatipPSI) :
    processPacket p s =
      if pid ∉ s.watchedPids ∨ feeds = [] then some (countPacket s)
      else (feedAll pid feeds (countPacket s)).map settle := by
  obtain ⟨start, hstart, hpos⟩ := exists_payloadStart hp
  obtain ⟨b1, _, h1⟩ := exists_byteAt (show 1 < p.length by simp only [tsPacketSize] at hp; omega)
  obtain ⟨b2, _, h2⟩ := exists_byteAt (show 2 < p.length by simp only [tsPacketSize] at hp; omega)
  obtain ⟨b3, _, h3⟩ := exists_byteAt (show 3 < p.length by simp only [tsPacketSize] at hp; omega)
  have hpid' : pidOfBytes b1 b2 = pid := by
    simpa [packetPid, h1, h2] using hpid
  unfold processPacket
  simp only [h1, h2, h3, Option.bind_eq_bind, Option.bind_some, hpid']
  by_cases hwatch : pid ∈ s.watchedPids
  swap
  · simp [hwatch, countPacket]
  simp only [hwatch, not_true_eq_false, if_false, false_or]
  unfold payloadStart at hstart
  simp only [h3, Option.bind_eq_bind, Option.bind_some] at hstart
  unfold packetFeeds payloadStart at hfeeds
  simp only [h1, h3, Option.bind_eq_bind, Option.bind_some] at hfeeds
  by_cases hskip : b3 &&& 0xc0 ≠ 0 ∨ (b3 >>> 4) &&& 0x03 = 0 ∨ (b3 >>> 4) &&& 0x03 = 2
  · simp only [hskip, if_true, Option.bind_some, Option.some.injEq] at hfeeds
    simp only [hskip, if_true, hfeeds.symm, countPacket]
  simp only [hskip, if_false] at hstart hfeeds ⊢
  cases hread : payloadPos p ((b3 >>> 4) &&& 0x03) with
  | none => simp [hread] at hstart
  | some pos =>
    simp only [hread, Option.bind_some] at hstart hfeeds ⊢
    by_cases hend : tsPacketSize ≤ pos
    · simp only [hend, if_true, Option.bind_some, Option.some.injEq] at hfeeds
      simp only [hend, if_true, hfeeds.symm, countPacket]
    simp only [hend, if_false, Option.bind_some] at hfeeds ⊢
    by_cases hpusi : b1 &&& 0x40 ≠ 0
    · simp only [hpusi, if_true, ne_eq, not_false_eq_true] at hfeeds ⊢
      obtain ⟨ptr, _, hptr⟩ := exists_byteAt (show pos < p.length by rw [hp]; omega)
      simp only [hptr, Option.bind_some] at hfeeds ⊢
      by_cases hover : tsPacketSize < pos + 1 + ptr
      · simp only [hover, if_true, Option.some.injEq] at hfeeds
        simp only [hover, if_true, hfeeds.symm, countPacket]
      simp only [hover, if_false, Option.some.injEq] at hfeeds ⊢
      subst hfeeds
      have htail := slice_of_le (show pos + 1 + ptr ≤ p.length by rw [hp]; omega)
      have hrest : slice p (pos + 1 + ptr) (tsPacketSize - (pos + 1 + ptr)) =
          some (p.drop (pos + 1 + ptr)) := by
        rw [← hp]
        exact slice_to_end (by rw [hp]; omega)
      rw [htail, hrest]
      by_cases hzero : 0 < ptr
      · simp [hzero, countPacket, Option.bind_assoc, Option.map_eq_bind]
      · simp [hzero, countPacket, Option.map_eq_bind]
    · simp only [hpusi, if_false] at hfeeds ⊢
      obtain rfl := Option.some.inj hfeeds
      have hrest : slice p pos (tsPacketSize - pos) = some (p.drop pos) := by
        rw [← hp]
        exact slice_to_end (by rw [hp]; omega)
      rw [hrest]
      simp [countPacket, Option.map_eq_bind]

/-! ## The effect of a packet -/

/-- Every assembler is one the abstract assembler can be in. -/
def AssemblersOk (s : SatipPSI) : Prop :=
  ∀ pid sa, s.assembler pid = some sa → ∃ data, Pending data ∧ sa = ofPending data

/-- The bytes of the section in progress on a pid. -/
def pendingOf (s : SatipPSI) (pid : ℕ) : List UInt8 := ((s.assembler pid).getD {}).data

/-- Leave `data` in the assembler of a pid. -/
def keepPending (pid : ℕ) (data : List UInt8) (s : SatipPSI) : SatipPSI :=
  { s with assembler := Function.update s.assembler pid (some (ofPending data)) }

/-- The abstract assembler over several calls of `feed`. -/
def assembleAll : List (List UInt8 × Bool) → List UInt8 → List UInt8 × List (List UInt8)
  | [], data => (data, [])
  | call :: calls, data =>
    let first := assemble call.2 call.1 data
    let next := assembleAll calls first.1
    (next.1, first.2 ++ next.2)

theorem AssemblersOk.getD {s : SatipPSI} (h : AssemblersOk s) (pid : ℕ) :
    Pending (pendingOf s pid) ∧ (s.assembler pid).getD {} = ofPending (pendingOf s pid) := by
  unfold pendingOf
  cases hsa : s.assembler pid with
  | none => exact ⟨pending_nil, rfl⟩
  | some sa =>
    obtain ⟨data, hdata, rfl⟩ := h pid sa hsa
    exact ⟨hdata, rfl⟩

@[simp]
theorem pendingOf_keepPending (pid : ℕ) (data : List UInt8) (s : SatipPSI) :
    pendingOf (keepPending pid data s) pid = data := by
  simp [pendingOf, keepPending, ofPending]

theorem pendingOf_keepPending_of_ne {pid other : ℕ} (h : other ≠ pid) (data : List UInt8)
    (s : SatipPSI) : pendingOf (keepPending pid data s) other = pendingOf s other := by
  simp [pendingOf, keepPending, Function.update_of_ne h]

theorem AssemblersOk.keepPending {s : SatipPSI} (h : AssemblersOk s) (pid : ℕ)
    {data : List UInt8} (hdata : Pending data) : AssemblersOk (keepPending pid data s) := by
  intro other sa hsa
  by_cases hother : other = pid
  · subst hother
    simp only [PSI.keepPending, Function.update_self, Option.some.injEq] at hsa
    exact ⟨data, hdata, hsa.symm⟩
  · simp only [PSI.keepPending, Function.update_of_ne hother] at hsa
    exact h other sa hsa

@[simp]
theorem keepPending_keepPending (pid : ℕ) (first second : List UInt8) (s : SatipPSI) :
    keepPending pid second (keepPending pid first s) = keepPending pid second s := by
  simp [keepPending]

theorem pending_assembleAll (feeds : List (List UInt8 × Bool)) {data : List UInt8}
    (h : Pending data) : Pending (assembleAll feeds data).1 := by
  induction feeds generalizing data with
  | nil => exact h
  | cons call calls ih => exact ih (pending_assemble call.2 call.1 h)

theorem isSection_of_mem_assembleAll {feeds : List (List UInt8 × Bool)} {data sec : List UInt8}
    (h : sec ∈ (assembleAll feeds data).2) : IsSection sec := by
  induction feeds generalizing data with
  | nil => cases h
  | cons call calls ih =>
    rcases List.mem_append.mp h with hfirst | hnext
    · exact isSection_of_mem_assemble hfirst
    · exact ih hnext

/-- `handleSection` changes the tables and is recorded; the rest of the parser stays. -/
theorem handleSection_eq (pid : ℕ) (sec : List UInt8) (s : SatipPSI) :
    handleSection pid sec s = (s.tables.handleSection pid sec).map fun tables ↦
      { s with tables := tables, trace := s.trace ++ [.handleSection s.tables pid sec] } := by
  simp only [handleSection, Option.bind_eq_bind, Option.map_eq_bind]
  rfl

theorem exists_tables_of_handleSection {pid : ℕ} {sec : List UInt8} {s next : SatipPSI}
    (h : handleSection pid sec s = some next) :
    ∃ tables, s.tables.handleSection pid sec = some tables ∧
      next = { s with tables := tables
                      trace := s.trace ++ [.handleSection s.tables pid sec] } := by
  rw [handleSection_eq, Option.map_eq_some_iff] at h
  obtain ⟨tables, htables, rfl⟩ := h
  exact ⟨tables, htables, rfl⟩

theorem handleSection_keepPending (pid other : ℕ) (sec data : List UInt8) (s : SatipPSI) :
    handleSection pid sec (keepPending other data s) =
      (handleSection pid sec s).map (keepPending other data) := by
  simp only [handleSection_eq, Option.map_map]
  rfl

theorem handleAll_keepPending (pid other : ℕ) (secs : List (List UInt8)) (data : List UInt8)
    (s : SatipPSI) :
    handleAll pid secs (keepPending other data s) =
      (handleAll pid secs s).map (keepPending other data) := by
  induction secs generalizing s with
  | nil => rfl
  | cons sec secs ih =>
    rw [handleAll_cons, handleAll_cons, handleSection_keepPending, Option.map_bind,
      Option.bind_map]
    congr 1
    funext next
    exact ih next

theorem handleAll_frame {pid : ℕ} {secs : List (List UInt8)} {s next : SatipPSI}
    (h : handleAll pid secs s = some next) :
    next = { s with tables := next.tables, trace := next.trace } := by
  refine handleAll_rule (motive := fun mid ↦
    mid = { s with tables := mid.tables, trace := mid.trace }) ?_ rfl h
  intro mid sec after hmid hafter
  obtain ⟨tables, -, rfl⟩ := exists_tables_of_handleSection hafter
  rw [hmid]

theorem AssemblersOk.handleAll {pid : ℕ} {secs : List (List UInt8)} {s next : SatipPSI}
    (h : AssemblersOk s) (hnext : handleAll pid secs s = some next) : AssemblersOk next := by
  rw [handleAll_frame hnext]
  exact h

theorem handed_handleAll {pid : ℕ} {secs : List (List UInt8)} {s next : SatipPSI}
    (h : handleAll pid secs s = some next) :
    handed next.trace = handed s.trace ++ secs.map (Prod.mk pid) := by
  induction secs generalizing s with
  | nil =>
    obtain rfl := Option.some.inj h
    simp
  | cons sec secs ih =>
    rw [handleAll_cons, Option.bind_eq_some_iff] at h
    obtain ⟨mid, hmid, hnext⟩ := h
    obtain ⟨tables, -, rfl⟩ := exists_tables_of_handleSection hmid
    rw [ih hnext]
    simp [handed]

theorem feed_eq {s : SatipPSI} (h : AssemblersOk s) (pid : ℕ) (buf : List UInt8)
    (allowStart : Bool) :
    feed pid buf allowStart s =
      (handleAll pid (assemble allowStart buf (pendingOf s pid)).2 s).map
        (keepPending pid (assemble allowStart buf (pendingOf s pid)).1) := by
  obtain ⟨hpending, hsa⟩ := h.getD pid
  simp only [feed, hsa, feedFrom_ofPending allowStart pid buf s hpending, assembleAndHandle,
    Option.bind_eq_bind, Option.map_eq_bind, Option.bind_assoc, Function.comp_apply,
    Option.bind_some]
  apply Option.bind_congr
  intro next hnext
  rw [keepPending]

theorem feedAll_eq {s : SatipPSI} (h : AssemblersOk s) (pid : ℕ)
    {feeds : List (List UInt8 × Bool)} (hfeeds : feeds ≠ []) :
    feedAll pid feeds s =
      (handleAll pid (assembleAll feeds (pendingOf s pid)).2 s).map
        (keepPending pid (assembleAll feeds (pendingOf s pid)).1) := by
  induction feeds generalizing s with
  | nil => exact absurd rfl hfeeds
  | cons call calls ih =>
    rw [feedAll_cons, feed_eq h, assembleAll]
    rcases List.eq_nil_or_concat calls with rfl | hcalls
    · simp [assembleAll]
    have hne : calls ≠ [] := by
      obtain ⟨front, last, rfl⟩ := hcalls
      simp
    rw [handleAll_append, Option.bind_map, Option.map_bind]
    apply Option.bind_congr
    intro next hnext
    have hpending := pending_assemble call.2 call.1 (h.getD pid).1
    simp only [Function.comp_apply]
    rw [ih ((h.handleAll hnext).keepPending pid hpending) hne, pendingOf_keepPending,
      handleAll_keepPending, Option.map_map]
    congr 1
    funext last
    simp

/-- A packet of a watched pid: the abstract assembler runs over its calls of `feed`, the
sections it emits are handed over, and the parser settles. -/
theorem processPacket_watched (hp : p.length = tsPacketSize) {pid : ℕ}
    (hpid : packetPid p = some pid) {feeds : List (List UInt8 × Bool)}
    (hfeeds : packetFeeds p = some feeds) (hne : feeds ≠ []) {s : SatipPSI}
    (hwatch : pid ∈ s.watchedPids) (hs : AssemblersOk s) :
    processPacket p s =
      (handleAll pid (assembleAll feeds (pendingOf s pid)).2 (countPacket s)).map fun next ↦
        settle (keepPending pid (assembleAll feeds (pendingOf s pid)).1 next) := by
  have hcount : AssemblersOk (countPacket s) := hs
  rw [processPacket_eq hp hpid hfeeds, if_neg (by simp [hwatch, hne]), feedAll_eq hcount pid hne,
    Option.map_map]
  rfl

/-- A packet of another pid, or without anything to feed, is only counted. -/
theorem processPacket_skipped (hp : p.length = tsPacketSize) {pid : ℕ}
    (hpid : packetPid p = some pid) {feeds : List (List UInt8 × Bool)}
    (hfeeds : packetFeeds p = some feeds) {s : SatipPSI}
    (hskip : pid ∉ s.watchedPids ∨ feeds = []) : processPacket p s = some (countPacket s) := by
  rw [processPacket_eq hp hpid hfeeds, if_pos hskip]

@[simp]
theorem processTS_nil (s : SatipPSI) : processTS [] s = some s := by
  rw [processTS, if_neg (by simp)]

/-- `processTS` handles the first packet of an aligned buffer and goes on with the rest. -/
theorem processTS_packet (hp : p.length = tsPacketSize) (hsync : byteAt p 0 = some 0x47)
    (rest : List UInt8) (s : SatipPSI) :
    processTS (p ++ rest) s = (processPacket p s).bind (processTS rest) := by
  have hsize : tsPacketSize ≤ (p ++ rest).length := by
    rw [List.length_append, hp]
    exact Nat.le_add_right _ _
  rw [processTS, if_pos hsize, List.take_left' hp, List.drop_left' hp, hsync]
  rfl

end SatipClient.PSI
