import SatipClient.PSI.Consistency

/-!
# Resynchronisation at a pointer field

A packet with a pointer field says where the next section starts.  `feed` does not use it to
restart the assembler: bytes of an unfinished section that the tail did not complete swallow
the start of the new one.  `resync_iff` says exactly when the addressed section is nevertheless
the one handed over next, for every reachable parser.
-/

namespace SatipClient.PSI

open Checked

/-! ## What is left when the tail has been fed -/

theorem not_pending_of_bogus {front : List UInt8} (h : Bogus front) (back : List UInt8) :
    ¬ Pending (front ++ back) := by
  obtain ⟨size, hsize, hnot⟩ := h
  have hthree := length_of_sectionSize hsize
  intro hpending
  rcases hpending with hshort | ⟨size', hsize', hok, -⟩
  · rw [List.length_append] at hshort
    omega
  · rw [sectionSize_append hthree, hsize] at hsize'
    obtain rfl := Option.some.inj hsize'
    exact hnot hok

theorem not_pending_of_isSection {front : List UInt8} (h : IsSection front) (back : List UInt8) :
    ¬ Pending (front ++ back) := by
  have hthree := length_of_sectionSize h.1
  intro hpending
  rcases hpending with hshort | ⟨size, hsize, -, hlt⟩
  · rw [List.length_append] at hshort
    omega
  · rw [sectionSize_append hthree, h.1] at hsize
    obtain rfl := Option.some.inj hsize
    rw [List.length_append] at hlt
    omega

/-- A tail that leaves the section unfinished is appended to it. -/
theorem assemble_tail_of_pending {data tail : List UInt8} (hdata : data ≠ [])
    (h : Pending (data ++ tail)) : (assemble false tail data).1 = data ++ tail := by
  induction tail generalizing data with
  | nil => simp [assemble]
  | cons byte rest ih =>
    have hsplit : data ++ byte :: rest = (data ++ [byte]) ++ rest := by simp
    rw [hsplit] at h ⊢
    have hbogus : ¬ Bogus (data ++ [byte]) := fun hbogus ↦ not_pending_of_bogus hbogus rest h
    have hsection : ¬ IsSection (data ++ [byte]) :=
      fun hsection ↦ not_pending_of_isSection hsection rest h
    rw [assemble, if_neg (by simp [hdata]), if_neg hbogus, if_neg hsection]
    exact ih (by simp) h

/-- Any other tail leaves the assembler idle. -/
theorem assemble_tail_of_not_pending {data tail : List UInt8} (hdata : Pending data)
    (h : ¬ Pending (data ++ tail)) : (assemble false tail data).1 = [] := by
  induction tail generalizing data with
  | nil => exact absurd (by simpa using hdata) h
  | cons byte rest ih =>
    by_cases hempty : data = []
    · subst hempty
      rw [assemble_idle]
    rw [assemble, if_neg (by simp [hempty])]
    by_cases hbogus : Bogus (data ++ [byte])
    · rw [if_pos hbogus]
    rw [if_neg hbogus]
    by_cases hsection : IsSection (data ++ [byte])
    · rw [if_pos hsection, assemble_idle]
    · rw [if_neg hsection]
      exact ih (pending_concat hdata byte hbogus hsection) (by simpa using h)

/-! ## The first section behind the pointer -/

/-- The first section emitted consists of what was collected and the bytes that follow. -/
theorem first_of_assemble {allowStart : Bool} {bytes data sec : List UInt8}
    {rest : List (List UInt8)} (h : (assemble allowStart bytes data).2 = sec :: rest) :
    sec <+: data ++ bytes := by
  induction bytes generalizing data with
  | nil => simp [assemble] at h
  | cons byte bytes ih =>
    have hsplit : data ++ byte :: bytes = (data ++ [byte]) ++ bytes := by simp
    rw [assemble] at h
    split_ifs at h with hstop hbogus hsection
    · rw [hsplit, ← (List.cons.inj h).1]
      exact List.prefix_append _ _
    · rw [hsplit]
      exact ih h

/-- With `data` collected, the section that starts here is the next one emitted exactly when
`data` and the section begin with the bytes of the section itself. -/
theorem first_of_assemble_iff {data sec : List UInt8} (hdata : Pending data)
    (hsec : Sendable sec) (after : List UInt8) :
    (∃ rest, (assemble true (sec ++ after) data).2 = sec :: rest) ↔
      (data ++ sec).take sec.length = sec := by
  constructor
  · intro hfirst
    obtain ⟨rest, hrest⟩ := hfirst
    have hwhole : sec <+: (data ++ sec) ++ after := by
      simpa using first_of_assemble hrest
    have htake := List.prefix_iff_eq_take.mp hwhole
    rw [List.take_append_of_le_length (by simp)] at htake
    exact htake.symm
  · intro htake
    have hinit : sec <+: data ++ sec := List.prefix_iff_eq_take.mpr htake.symm
    have hnot : ¬ sec <+: data := by
      intro hinside
      obtain ⟨back, rfl⟩ := hinside
      exact not_pending_of_isSection hsec.isSection back hdata
    obtain ⟨chunk, rfl⟩ : data <+: sec :=
      (List.prefix_or_prefix_of_prefix hinit (List.prefix_append data sec)).resolve_left hnot
    have hchunk : chunk ≠ [] := by
      intro hempty
      subst hempty
      exact hnot (by simp)
    have hidle : data = [] → true = true ∧ chunk.head? ≠ some 0xff := by
      intro hempty
      subst hempty
      exact ⟨rfl, hsec.table_id⟩
    obtain ⟨back, hback⟩ : chunk <+: data ++ chunk :=
      (List.prefix_append_right_inj data).mp hinit
    have hbytes : data ++ chunk ++ after = chunk ++ (back ++ after) := by
      rw [← hback, List.append_assoc]
    rw [hbytes, assemble_complete true hsec.isSection hchunk hidle]
    exact ⟨_, rfl⟩

/-- The same with a tail fed before. -/
theorem first_behind_tail_iff {data tail sec : List UInt8} (hdata : Pending data)
    (hsec : Sendable sec) (after : List UInt8) :
    (∃ rest, (assemble true (sec ++ after) (assemble false tail data).1).2 = sec :: rest) ↔
      data = [] ∨ ¬ Pending (data ++ tail) ∨ (data ++ tail ++ sec).take sec.length = sec := by
  rw [first_of_assemble_iff (pending_assemble false tail hdata) hsec after]
  by_cases hempty : data = []
  · simp [hempty, assemble_idle]
  by_cases hpending : Pending (data ++ tail)
  · rw [assemble_tail_of_pending hempty hpending]
    simp [hempty, hpending]
  · rw [assemble_tail_of_not_pending hdata hpending]
    simp [hpending]

/-! ## Packets -/

/-- The packet belongs to `pid` and carries a payload whose pointer field passes over `tail` to a
section that lies wholly inside the packet. -/
structure Addresses (p : List UInt8) (pid : ℕ) (tail sec after : List UInt8) : Prop where
  isPacket : IsPacket p
  packetPid_eq : packetPid p = some pid
  payload : PacketPayload p (some (.starting tail (sec ++ after)))
  sendable : Sendable sec

variable {p tail sec after : List UInt8} {pid : ℕ}

/-- What the assembler makes of a payload with a pointer field. -/
theorem assembleAll_starting (tail bytes data : List UInt8) :
    (assembleAll (Payload.starting tail bytes).feeds data).2 =
      (assemble false tail data).2 ++ (assemble true bytes (assemble false tail data).1).2 := by
  by_cases htail : 0 < tail.length
  · simp [Payload.feeds, htail, assembleAll]
  · obtain rfl : tail = [] := List.eq_nil_of_length_eq_zero (Nat.eq_zero_of_not_pos htail)
    simp [Payload.feeds, assembleAll, assemble]

/-- For every reachable parser and every packet whose pointer field addresses a section: that
section is the next one handed over behind the tail exactly when no section is in progress
there, or what is in progress happens to continue as the section itself begins. -/
theorem resync_iff {s : SatipPSI} (hs : Reachable s) (hwatch : pid ∈ s.watchedPids)
    (h : Addresses p pid tail sec after) :
    ∃ mid next, feed pid tail false s = some mid ∧ processTS p s = some next ∧
      ((∃ rest, handed next.trace = handed mid.trace ++ (pid, sec) :: rest) ↔
        pendingOf s pid = [] ∨ ¬ Pending (pendingOf s pid ++ tail) ∨
          (pendingOf s pid ++ tail ++ sec).take sec.length = sec) := by
  have hok := hs.assemblersOk
  have hpending := (hok.getD pid).1
  have htailsections : ∀ sec ∈ (assemble false tail (pendingOf s pid)).2, IsSection sec :=
    fun sec hsec ↦ isSection_of_mem_assemble hsec
  obtain ⟨fed, hfed⟩ := exists_handleAll pid htailsections s
  obtain ⟨hp, hsync⟩ := h.isPacket
  obtain ⟨next, hnext, -⟩ := exists_processPacket hp hok
  refine ⟨_, next, by rw [feed_eq hok, hfed, Option.map_some], ?_, ?_⟩
  · have hpacket := processTS_packet hp hsync [] s
    rw [List.append_nil] at hpacket
    rw [hpacket, hnext, Option.bind_some, processTS_nil]
  have hmid : handed fed.trace = handed s.trace ++
      (assemble false tail (pendingOf s pid)).2.map (Prod.mk pid) := handed_handleAll hfed
  have hfeeds : packetFeeds p = some (Payload.starting tail (sec ++ after)).feeds :=
    h.payload.packetFeeds_eq hp
  have hhanded := handed_processPacket hp h.packetPid_eq hfeeds (Payload.feeds_ne_nil _) hwatch
    hok hnext
  rw [assembleAll_starting, List.map_append, ← List.append_assoc, ← hmid] at hhanded
  rw [← first_behind_tail_iff hpending h.sendable after, hhanded]
  constructor
  · intro hfirst
    obtain ⟨rest, hrest⟩ := hfirst
    have hmap := List.append_cancel_left hrest
    obtain ⟨first, others, heq, hfirst, -⟩ := List.map_eq_cons_iff.mp hmap
    obtain rfl : first = sec := (Prod.mk.inj hfirst).2
    exact ⟨others, heq⟩
  · intro hfirst
    obtain ⟨rest, hrest⟩ := hfirst
    rw [hrest]
    exact ⟨rest.map (Prod.mk pid), rfl⟩

/-- A packet that starts a long PAT section; the packets with the rest of it may get lost. -/
def longSectionPacket : List UInt8 :=
  [0x47, 0x40, 0x00, 0x10, 0x00, 0x00, 0xb3, 0xff] ++ List.replicate 180 0

theorem addresses_packetOf :
    Addresses (packetOf 0 patSection) 0 [] patSection (stuffing 167) where
  isPacket := by unfold IsPacket; decide +kernel
  packetPid_eq := by decide
  payload := packetPayload_packetOf
  sendable := ⟨by decide, by decide⟩

/-- After a loss in the middle of a long section, the next PAT is swallowed whole. -/
theorem not_resync :
    ¬ ∀ s p pid tail sec after, Reachable s → pid ∈ s.watchedPids →
      Addresses p pid tail sec after →
        ∃ next front rest, processTS p s = some next ∧
          handed next.trace = handed s.trace ++ front ++ (pid, sec) :: rest := by
  intro h
  have hrun : (processTS longSectionPacket (construct true false ∅)).map
      (fun s ↦ (s.watchedPids, (processTS (packetOf 0 patSection) s).map
        fun next ↦ handed next.trace)) = some ({0}, some []) := by
    decide +kernel
  obtain ⟨s, hs, hfields⟩ := Option.map_eq_some_iff.mp hrun
  have hreach : Reachable s :=
    ⟨true, false, ∅, [.processTS longSectionPacket], by rw [Runs.run_cons, step, hs]; rfl⟩
  have hwatch : 0 ∈ s.watchedPids := by
    rw [(Prod.mk.inj hfields).1]
    decide
  obtain ⟨next, front, rest, hnext, hhanded⟩ :=
    h s _ 0 [] patSection _ hreach hwatch addresses_packetOf
  have hnone := (Prod.mk.inj hfields).2
  rw [hnext, Option.map_some, Option.some.injEq, hhanded] at hnone
  simp at hnone

theorem resync_iff_construct :
    ∃ mid next, feed 0 [] false (construct true false ∅) = some mid ∧
      processTS (packetOf 0 patSection) (construct true false ∅) = some next ∧
        ∃ rest, handed next.trace = handed mid.trace ++ (0, patSection) :: rest := by
  have hreach : Reachable (construct true false ∅) :=
    ⟨true, false, ∅, Runs.Reachable.refl step _⟩
  obtain ⟨mid, next, hmid, hnext, hiff⟩ := resync_iff hreach (by decide) addresses_packetOf
  exact ⟨mid, next, hmid, hnext, hiff.mpr (Or.inl (by decide))⟩

end SatipClient.PSI
