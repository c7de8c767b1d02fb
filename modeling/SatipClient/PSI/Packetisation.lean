import SatipClient.PSI.Safety

/-!
# Packetisation and assembly

How a sender spreads sections over the TS packets of one pid, and that the parser inverts it.
`Carries` describes one packet: the section in progress is continued or completed, sections
that start behind the pointer field follow each other directly, the last of them may be left
unfinished, and stuffing fills a packet only behind a completed section.  `Packetises` strings
packets together, and `run_packetised` is the round trip: whatever other packets come in
between and however the packets are cut into buffers, exactly the sections sent are handed to
`handleSection`, in order.
-/

namespace SatipClient.PSI

open Checked

/-! ## One packet -/

/-- The payload of a packet, with the bytes the pointer field passes over set apart. -/
inductive Payload where
  | continued (bytes : List UInt8)
  | starting (tail bytes : List UInt8)

/-- The calls of `feed` for a payload. -/
def Payload.feeds : Payload → List (List UInt8 × Bool)
  | .continued bytes => [(bytes, false)]
  | .starting tail bytes => (if 0 < tail.length then [(tail, false)] else []) ++ [(bytes, true)]

/-- A packet of 188 bytes that starts with the sync byte. -/
def IsPacket (p : List UInt8) : Prop := p.length = tsPacketSize ∧ byteAt p 0 = some 0x47

/-- The payload a packet carries, if it carries one that is not scrambled. -/
inductive PacketPayload (p : List UInt8) : Option Payload → Prop where
  | absent : payloadStart p = some none → PacketPayload p none
  | continued {pos value : ℕ} : payloadStart p = some (some pos) → byteAt p 1 = some value →
      value &&& 0x40 = 0 → PacketPayload p (some (.continued (p.drop pos)))
  | starting {pos value : ℕ} {tail bytes : List UInt8} : payloadStart p = some (some pos) →
      byteAt p 1 = some value → value &&& 0x40 ≠ 0 → byteAt p pos = some tail.length →
      p.drop (pos + 1) = tail ++ bytes → PacketPayload p (some (.starting tail bytes))

/-- A section that may be sent: its size is acceptable and its table id is not stuffing. -/
structure Sendable (sec : List UInt8) : Prop where
  isSection : IsSection sec
  table_id : sec.head? ≠ some 0xff

/-- Stuffing bytes. -/
def stuffing (n : ℕ) : List UInt8 := List.replicate n 0xff

/-- The tail of a packet completes the section in progress, if there is one. -/
inductive Ends : List UInt8 → List UInt8 → List (List UInt8) → Prop where
  | idle : Ends [] [] []
  | completed {begun tail : List UInt8} : begun ≠ [] → tail ≠ [] → Sendable (begun ++ tail) →
      Ends begun tail [begun ++ tail]

/-- Sections that start in a packet: whole ones and stuffing, or whole ones and the front of one
that the packet does not complete. -/
inductive Starts : List UInt8 → List (List UInt8) → List UInt8 → Prop where
  | stuffed {whole : List (List UInt8)} (n : ℕ) : whole ≠ [] → (∀ sec ∈ whole, Sendable sec) →
      Starts (whole.flatten ++ stuffing n) whole []
  | unfinished {whole : List (List UInt8)} {front back : List UInt8} :
      (∀ sec ∈ whole, Sendable sec) → front ≠ [] → back ≠ [] → Sendable (front ++ back) →
      Starts (whole.flatten ++ front) whole front

/-- With `begun` of a section sent before, the payload completes these sections and leaves that
much of the next one sent. -/
inductive Carries : List UInt8 → Payload → List (List UInt8) → List UInt8 → Prop where
  | stuffed (n : ℕ) : Carries [] (.continued (stuffing n)) [] []
  | within {begun chunk back : List UInt8} : begun ≠ [] → back ≠ [] →
      Sendable (begun ++ chunk ++ back) → Carries begun (.continued chunk) [] (begun ++ chunk)
  | completed {begun chunk : List UInt8} (n : ℕ) : begun ≠ [] → chunk ≠ [] →
      Sendable (begun ++ chunk) →
      Carries begun (.continued (chunk ++ stuffing n)) [begun ++ chunk] []
  | started {begun tail bytes left : List UInt8} {ended whole : List (List UInt8)} :
      Ends begun tail ended → Starts bytes whole left →
      Carries begun (.starting tail bytes) (ended ++ whole) left

/-- The packets of one pid carry these sections, in order. -/
inductive Packetises : List UInt8 → List (List UInt8) → List (List UInt8) → List UInt8 → Prop where
  | done (begun : List UInt8) : Packetises begun [] [] begun
  | skipped {begun left p : List UInt8} {ps secs : List (List UInt8)} : PacketPayload p none →
      Packetises begun ps secs left → Packetises begun (p :: ps) secs left
  | carried {begun mid left p : List UInt8} {payload : Payload}
      {ps ended secs : List (List UInt8)} : PacketPayload p (some payload) →
      Carries begun payload ended mid → Packetises mid ps secs left →
      Packetises begun (p :: ps) (ended ++ secs) left

/-! ## The assembler on a packet -/

theorem assemble_idle (bytes : List UInt8) : assemble false bytes [] = ([], []) := by
  cases bytes <;> simp [assemble]

theorem assemble_stuffing (allowStart : Bool) (n : ℕ) :
    assemble allowStart (stuffing n) [] = ([], []) := by
  cases n <;> simp [stuffing, assemble, List.replicate_succ]

/-- Whole sections behind a pointer field are emitted one after the other. -/
theorem assemble_whole {whole : List (List UInt8)} (h : ∀ sec ∈ whole, Sendable sec)
    (rest : List UInt8) :
    assemble true (whole.flatten ++ rest) [] =
      ((assemble true rest []).1, whole ++ (assemble true rest []).2) := by
  induction whole with
  | nil => simp
  | cons sec whole ih =>
    have hsec := h sec List.mem_cons_self
    have hwhole : ∀ other ∈ whole, Sendable other :=
      fun other hother ↦ h other (List.mem_cons_of_mem sec hother)
    have hne : sec ≠ [] := by
      intro hempty
      have hsize := hsec.isSection.2.1
      simp [hempty] at hsize
    have hidle : ([] : List UInt8) = [] → true = true ∧ sec.head? ≠ some 0xff :=
      fun _ ↦ ⟨rfl, hsec.table_id⟩
    rw [List.flatten_cons, List.append_assoc,
      assemble_complete true (by simpa using hsec.isSection) hne hidle, ih hwhole]
    rfl

theorem Ends.assemble_eq {begun tail : List UInt8} {ended : List (List UInt8)}
    (h : Ends begun tail ended) : assemble false tail begun = ([], ended) := by
  cases h with
  | idle => exact assemble_idle []
  | completed hbegun htail hsec =>
    have hcomplete := assemble_complete false hsec.isSection htail
      (fun hempty ↦ absurd hempty hbegun) []
    rwa [List.append_nil] at hcomplete

theorem Starts.assemble_eq {bytes left : List UInt8} {whole : List (List UInt8)}
    (h : Starts bytes whole left) : assemble true bytes [] = (left, whole) := by
  cases h with
  | stuffed n hne hwhole => rw [assemble_whole hwhole, assemble_stuffing, List.append_nil]
  | unfinished hwhole hfront hback hsec =>
    have hwithin : assemble true (left ++ []) [] = assemble true [] ([] ++ left) :=
      assemble_within true (by simpa using hsec.isSection) hback
        (fun _ ↦ ⟨rfl, hsec.table_id⟩) []
    rw [List.append_nil] at hwithin
    rw [assemble_whole hwhole, hwithin]
    simp [assemble]

/-- The assembler inverts one payload. -/
theorem Carries.assembleAll_eq {begun left : List UInt8} {payload : Payload}
    {secs : List (List UInt8)} (h : Carries begun payload secs left) :
    assembleAll payload.feeds begun = (left, secs) := by
  cases h with
  | stuffed n => simp [Payload.feeds, assembleAll, assemble_idle]
  | @within _ chunk back hbegun hback hsec =>
    have hwithin : assemble false (chunk ++ []) begun = assemble false [] (begun ++ chunk) :=
      assemble_within false hsec.isSection hback (fun hempty ↦ absurd hempty hbegun) []
    rw [List.append_nil] at hwithin
    simp [Payload.feeds, assembleAll, hwithin, assemble]
  | completed n hbegun hchunk hsec =>
    simp only [Payload.feeds, assembleAll, assemble_complete false hsec.isSection hchunk
      (fun hempty ↦ absurd hempty hbegun), assemble_stuffing, List.append_nil]
  | @started _ tail _ _ _ _ hends hstarts =>
    have hended := hends.assemble_eq
    have hstarted := hstarts.assemble_eq
    by_cases htail : 0 < tail.length
    · simp [Payload.feeds, htail, assembleAll, hended, hstarted]
    · obtain rfl : tail = [] := List.eq_nil_of_length_eq_zero (Nat.eq_zero_of_not_pos htail)
      obtain ⟨rfl, rfl⟩ : begun = [] ∧ _ = [] := by simpa [assemble] using hended
      simp [Payload.feeds, assembleAll, hstarted]

theorem Payload.feeds_ne_nil (payload : Payload) : payload.feeds ≠ [] := by
  cases payload <;> simp [Payload.feeds]

variable {p : List UInt8} {pid : ℕ}

/-- The calls of `feed` that a packet makes are those of its payload. -/
theorem PacketPayload.packetFeeds_eq {payload : Option Payload} (h : PacketPayload p payload)
    (hp : p.length = tsPacketSize) : packetFeeds p = some (payload.elim [] Payload.feeds) := by
  cases h with
  | absent hnone =>
    obtain ⟨value, -, hvalue⟩ := exists_byteAt
      (show 1 < p.length by simp only [tsPacketSize] at hp; omega)
    simp [packetFeeds, hvalue, hnone]
  | continued hpos hvalue hbit =>
    simp [packetFeeds, hvalue, hpos, hbit, Payload.feeds]
  | @starting pos value tail bytes hpos hvalue hbit hptr hdrop =>
    obtain ⟨start, hstart, hinside⟩ := exists_payloadStart hp
    have hlt : pos < tsPacketSize := by
      rw [hpos] at hstart
      exact hinside pos (Option.some.inj hstart).symm
    have hfits : ¬ tsPacketSize < pos + 1 + tail.length := by
      have hlength := congrArg List.length hdrop
      rw [List.length_drop, hp, List.length_append] at hlength
      omega
    have hbytes : p.drop (pos + 1 + tail.length) = bytes := by
      rw [← List.drop_drop, hdrop, List.drop_left]
    have htail : (p.drop (pos + 1)).take tail.length = tail := by
      rw [hdrop, List.take_left]
    simp [packetFeeds, hvalue, hpos, hptr, hbit, hfits, hbytes, htail, Payload.feeds]

/-! ## The parser on a packet -/

theorem handedOn_eq (pid : ℕ) (trace : List Event) :
    handedOn pid trace =
      (handed trace).filterMap fun call ↦ if call.1 = pid then some call.2 else none := by
  rw [handedOn, handed, List.filterMap_filterMap]
  congr 1
  funext event
  cases event <;> rfl

theorem handedOn_of_handed {front back : List Event} {other : ℕ} {secs : List (List UInt8)}
    (h : handed back = handed front ++ secs.map (Prod.mk other)) (pid : ℕ) :
    handedOn pid back = handedOn pid front ++ if other = pid then secs else [] := by
  rw [handedOn_eq, handedOn_eq, h, List.filterMap_append, List.filterMap_map]
  congr 1
  by_cases hother : other = pid <;> simp [hother]

theorem pendingOf_settle {s : SatipPSI} (hwatch : pid ∈ (settle s).watchedPids) :
    pendingOf (settle s) pid = pendingOf s pid := by
  unfold settle at hwatch ⊢
  by_cases hdirty : s.tables.dirty
  · rw [if_pos hdirty] at hwatch ⊢
    rw [recompute_watchedPids] at hwatch
    rw [pendingOf, recompute_assembler, eraseUnlisted_of_mem _ hwatch, pendingOf]
  · rw [if_neg hdirty]

theorem pendingOf_handleAll {other : ℕ} {secs : List (List UInt8)} {s next : SatipPSI}
    (h : handleAll other secs s = some next) : pendingOf next pid = pendingOf s pid := by
  rw [handleAll_frame h]
  rfl

/-- The sections that a packet of a watched pid hands over. -/
theorem handed_processPacket {feeds : List (List UInt8 × Bool)} {s next : SatipPSI}
    (hp : p.length = tsPacketSize) (hpid : packetPid p = some pid)
    (hfeeds : packetFeeds p = some feeds) (hne : feeds ≠ []) (hwatch : pid ∈ s.watchedPids)
    (hs : AssemblersOk s) (h : processPacket p s = some next) :
    handed next.trace =
      handed s.trace ++ (assembleAll feeds (pendingOf s pid)).2.map (Prod.mk pid) := by
  rw [processPacket_watched hp hpid hfeeds hne hwatch hs, Option.map_eq_some_iff] at h
  obtain ⟨mid, hmid, rfl⟩ := h
  have hhanded := handed_handleAll (s := countPacket s) hmid
  rw [handed_settle]
  exact hhanded

/-- A packet of this pid moves its assembler on. -/
theorem pendingOf_processPacket {feeds : List (List UInt8 × Bool)} {s next : SatipPSI}
    (hp : p.length = tsPacketSize) (hpid : packetPid p = some pid)
    (hfeeds : packetFeeds p = some feeds) (hne : feeds ≠ []) (hwatch : pid ∈ s.watchedPids)
    (hs : AssemblersOk s) (h : processPacket p s = some next) (hstays : pid ∈ next.watchedPids) :
    pendingOf next pid = (assembleAll feeds (pendingOf s pid)).1 := by
  rw [processPacket_watched hp hpid hfeeds hne hwatch hs, Option.map_eq_some_iff] at h
  obtain ⟨mid, hmid, rfl⟩ := h
  rw [pendingOf_settle hstays, pendingOf_keepPending]

/-- A packet of this pid that continues what its assembler holds hands over the sections it
completes. -/
theorem processPacket_carried {payload : Payload} {left : List UInt8} {secs : List (List UInt8)}
    {s next : SatipPSI} (hp : p.length = tsPacketSize) (hpid : packetPid p = some pid)
    (hpayload : PacketPayload p (some payload))
    (hcarry : Carries (pendingOf s pid) payload secs left) (hwatch : pid ∈ s.watchedPids)
    (hs : AssemblersOk s) (h : processPacket p s = some next) (hstays : pid ∈ next.watchedPids) :
    pendingOf next pid = left ∧ handedOn pid next.trace = handedOn pid s.trace ++ secs := by
  have hfeeds : packetFeeds p = some payload.feeds := hpayload.packetFeeds_eq hp
  have hne := payload.feeds_ne_nil
  have hhanded := handed_processPacket hp hpid hfeeds hne hwatch hs h
  have hpending := pendingOf_processPacket hp hpid hfeeds hne hwatch hs h hstays
  rw [hcarry.assembleAll_eq] at hhanded hpending
  exact ⟨hpending, by rw [handedOn_of_handed hhanded, if_pos rfl]⟩

/-- A packet of another pid leaves the assembler of a pid that stays watched alone, and hands
nothing over for it. -/
theorem processPacket_other {other : ℕ} {s next : SatipPSI} (hp : p.length = tsPacketSize)
    (hpid : packetPid p = some other) (hother : other ≠ pid) (hs : AssemblersOk s)
    (h : processPacket p s = some next) (hstays : pid ∈ next.watchedPids) :
    pendingOf next pid = pendingOf s pid ∧ handedOn pid next.trace = handedOn pid s.trace := by
  obtain ⟨feeds, hfeeds⟩ := exists_packetFeeds hp
  by_cases hskip : other ∉ s.watchedPids ∨ feeds = []
  · rw [processPacket_skipped hp hpid hfeeds hskip] at h
    obtain rfl := Option.some.inj h
    exact ⟨rfl, rfl⟩
  · obtain ⟨hwatch, hne⟩ := not_or.mp hskip
    have hhanded := handed_processPacket hp hpid hfeeds hne (not_not.mp hwatch) hs h
    constructor
    · rw [processPacket_watched hp hpid hfeeds hne (not_not.mp hwatch) hs,
        Option.map_eq_some_iff] at h
      obtain ⟨mid, hmid, rfl⟩ := h
      rw [pendingOf_settle hstays, pendingOf_keepPending_of_ne hother.symm,
        pendingOf_handleAll hmid]
      rfl
    · rw [handedOn_of_handed hhanded, if_neg hother, List.append_nil]

/-! ## Runs -/

/-- Process packets one after the other. -/
def processAll (packets : List (List UInt8)) (s : SatipPSI) : Option SatipPSI :=
  packets.foldlM (fun s p ↦ processPacket p s) s

/-- The packets of one pid. -/
def onPid (pid : ℕ) (packets : List (List UInt8)) : List (List UInt8) :=
  packets.filter fun p ↦ packetPid p = some pid

@[simp]
theorem processAll_nil (s : SatipPSI) : processAll [] s = some s := rfl

@[simp]
theorem processAll_cons (p : List UInt8) (packets : List (List UInt8)) (s : SatipPSI) :
    processAll (p :: packets) s = (processPacket p s).bind (processAll packets) := by
  simp only [processAll, List.foldlM_cons, Option.bind_eq_bind]
  rfl

theorem processAll_append (front back : List (List UInt8)) (s : SatipPSI) :
    processAll (front ++ back) s = (processAll front s).bind (processAll back) := by
  simp only [processAll, List.foldlM_append, Option.bind_eq_bind]
  rfl

/-- A buffer of whole packets is processed packet by packet. -/
theorem processTS_flatten {packets : List (List UInt8)} (h : ∀ p ∈ packets, IsPacket p)
    (s : SatipPSI) : processTS packets.flatten s = processAll packets s := by
  induction packets generalizing s with
  | nil => simp
  | cons p packets ih =>
    obtain ⟨hp, hsync⟩ := h p List.mem_cons_self
    rw [List.flatten_cons, processTS_packet hp hsync, processAll_cons]
    congr 1
    funext next
    exact ih (fun q hq ↦ h q (List.mem_cons_of_mem p hq)) next

/-- How the packets are cut into buffers makes no difference. -/
theorem run_buffers {buffers : List (List (List UInt8))}
    (h : ∀ p ∈ buffers.flatten, IsPacket p) (s : SatipPSI) :
    Runs.run step s (buffers.map fun buffer ↦ .processTS buffer.flatten) =
      processAll buffers.flatten s := by
  induction buffers generalizing s with
  | nil => rfl
  | cons buffer buffers ih =>
    rw [List.flatten_cons] at h ⊢
    rw [List.map_cons, Runs.run_cons, processAll_append]
    have hbuffer := processTS_flatten (fun p hp ↦ h p (List.mem_append_left _ hp)) s
    rw [step, hbuffer]
    congr 1
    funext next
    exact ih (fun p hp ↦ h p (List.mem_append_right _ hp)) next

theorem exists_processAll {packets : List (List UInt8)} (h : ∀ p ∈ packets, IsPacket p)
    {s : SatipPSI} (hs : AssemblersOk s) :
    ∃ next, processAll packets s = some next ∧ AssemblersOk next := by
  rw [← processTS_flatten h]
  exact exists_processTS _ hs

/-- The pid is watched before every one of the packets and after the last. -/
def StaysWatched (pid : ℕ) (packets : List (List UInt8)) (s : SatipPSI) : Prop :=
  ∀ front, front <+: packets → ∀ mid, processAll front s = some mid → pid ∈ mid.watchedPids

theorem StaysWatched.head {packets : List (List UInt8)} {s : SatipPSI}
    (h : StaysWatched pid packets s) : pid ∈ s.watchedPids :=
  h [] List.nil_prefix s rfl

theorem StaysWatched.tail {packets : List (List UInt8)} {s next : SatipPSI}
    (h : StaysWatched pid (p :: packets) s) (hnext : processPacket p s = some next) :
    StaysWatched pid packets next := by
  intro front hfront mid hmid
  apply h (p :: front) ((List.cons_prefix_cons).mpr ⟨rfl, hfront⟩)
  rw [processAll_cons, hnext, Option.bind_some, hmid]

/-- Packets that carry these sections on one pid, among others, hand them over for it and leave
the unfinished section in the assembler. -/
theorem processAll_packetised {packets secs : List (List UInt8)} {begun left : List UInt8}
    (hpackets : ∀ p ∈ packets, IsPacket p)
    (hcarry : Packetises begun (onPid pid packets) secs left) {s next : SatipPSI}
    (hs : AssemblersOk s) (hbegun : pendingOf s pid = begun)
    (hwatch : StaysWatched pid packets s) (h : processAll packets s = some next) :
    pendingOf next pid = left ∧ handedOn pid next.trace = handedOn pid s.trace ++ secs := by
  induction packets generalizing s begun secs with
  | nil =>
    obtain rfl := Option.some.inj h
    cases hcarry
    exact ⟨hbegun, (List.append_nil _).symm⟩
  | cons p packets ih =>
    have hp := (hpackets p List.mem_cons_self).1
    have hrest : ∀ q ∈ packets, IsPacket q := fun q hq ↦ hpackets q (List.mem_cons_of_mem p hq)
    rw [processAll_cons, Option.bind_eq_some_iff] at h
    obtain ⟨mid, hmid, hnext⟩ := h
    obtain ⟨mid', hmid', hok⟩ := exists_processPacket hp hs
    obtain rfl := Option.some.inj (hmid.symm.trans hmid')
    have hstays := hwatch.tail hmid
    by_cases hown : packetPid p = some pid
    · rw [onPid, List.filter_cons_of_pos (by simpa using hown)] at hcarry
      cases hcarry with
      | skipped hpayload hcarry =>
        have hskip := processPacket_skipped hp hown (hpayload.packetFeeds_eq hp)
          (s := s) (Or.inr rfl)
        obtain rfl := Option.some.inj (hmid.symm.trans hskip)
        exact ih (s := countPacket s) hrest hcarry hok hbegun hstays hnext
      | carried hpayload hpart hcarry =>
        subst hbegun
        obtain ⟨hpending, hhanded⟩ := processPacket_carried hp hown hpayload hpart hwatch.head hs
          hmid hstays.head
        obtain ⟨hleft, hlast⟩ := ih hrest hcarry hok hpending hstays hnext
        exact ⟨hleft, by rw [hlast, hhanded, List.append_assoc]⟩
    · rw [onPid, List.filter_cons_of_neg (by simpa using hown)] at hcarry
      obtain ⟨other, hother⟩ := exists_packetPid hp
      have hne : other ≠ pid := by
        intro heq
        exact hown (heq ▸ hother)
      obtain ⟨hsame, htrace⟩ := processPacket_other hp hother hne hs hmid hstays.head
      rw [← htrace]
      exact ih hrest hcarry hok (hsame.trans hbegun) hstays hnext

/-- Assembly inverts packetisation: whatever packets of other pids come in between and however
the packets are cut into buffers, a parser whose assembler is idle hands over exactly the
sections sent on a pid that stays watched, in order. -/
theorem run_packetised (buffers : List (List (List UInt8))) {secs : List (List UInt8)}
    (hpackets : ∀ p ∈ buffers.flatten, IsPacket p)
    (hcarry : Packetises [] (onPid pid buffers.flatten) secs []) {s : SatipPSI}
    (hs : Reachable s) (hidle : pendingOf s pid = [])
    (hwatch : StaysWatched pid buffers.flatten s) :
    ∃ next, Runs.run step s (buffers.map fun buffer ↦ .processTS buffer.flatten) = some next ∧
      handedOn pid next.trace = handedOn pid s.trace ++ secs := by
  obtain ⟨next, hnext, -⟩ := exists_processAll hpackets hs.assemblersOk
  have hrun := (run_buffers hpackets s).trans hnext
  exact ⟨next, hrun,
    (processAll_packetised hpackets hcarry hs.assemblersOk hidle hwatch hnext).2⟩

/-- One section in a packet of its own, followed by stuffing. -/
def packetOf (pid : UInt8) (sec : List UInt8) : List UInt8 :=
  [0x47, 0x40, pid, 0x10, 0x00] ++ sec ++ List.replicate (183 - sec.length) 0xff

/-- A PAT of version 0 with one program on pid 100. -/
def patSection : List UInt8 := [0, 176, 13, 0, 1, 193, 0, 0, 0, 1, 224, 100, 133, 65, 47, 234]

theorem packetPayload_packetOf :
    PacketPayload (packetOf 0 patSection) (some (.starting [] (patSection ++ stuffing 167))) :=
  @PacketPayload.starting _ 4 64 [] _ (by decide) (by decide) (by decide) (by decide)
    (by decide +kernel)

theorem run_packetised_pat :
    ∃ next, Runs.run step (construct true false ∅)
        [.processTS (packetOf 0 patSection ++ packetOf 100 patSection)] = some next ∧
      handedOn 0 next.trace = [patSection] := by
  have hstarts : Starts ([patSection].flatten ++ stuffing 167) [patSection] [] := by
    apply Starts.stuffed 167 (by simp)
    intro sec hsec
    obtain rfl := List.mem_singleton.mp hsec
    exact ⟨by decide, by decide⟩
  rw [List.flatten_singleton] at hstarts
  have hcarry : Packetises [] (onPid 0 [packetOf 0 patSection, packetOf 100 patSection])
      [patSection] [] := by
    have honly : onPid 0 [packetOf 0 patSection, packetOf 100 patSection] =
        [packetOf 0 patSection] := by
      decide +kernel
    rw [honly]
    exact Packetises.carried packetPayload_packetOf (Carries.started Ends.idle hstarts)
      (Packetises.done [])
  have hpackets : ∀ p ∈ [[packetOf 0 patSection, packetOf 100 patSection]].flatten, IsPacket p := by
    unfold IsPacket
    decide +kernel
  have hwatch : StaysWatched 0 [packetOf 0 patSection, packetOf 100 patSection]
      (construct true false ∅) := by
    have hall : ∀ front ∈ [packetOf 0 patSection, packetOf 100 patSection].inits,
        (processAll front (construct true false ∅)).all fun mid ↦ 0 ∈ mid.watchedPids := by
      decide +kernel
    intro front hfront mid hmid
    have hmem := hall front ((List.mem_inits front _).mpr hfront)
    rw [hmid] at hmem
    simpa using hmem
  obtain ⟨next, hrun, hhanded⟩ := run_packetised
    [[packetOf 0 patSection, packetOf 100 patSection]] hpackets hcarry
    ⟨true, false, ∅, Runs.Reachable.refl step _⟩ rfl hwatch
  refine ⟨next, by simpa using hrun, ?_⟩
  rw [hhanded]
  rfl

end SatipClient.PSI
