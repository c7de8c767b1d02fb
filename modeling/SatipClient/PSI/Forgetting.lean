import SatipClient.PSI.Receiving

/-!
# What a reset forgets

Two parsers that differ in nothing but their statistics (`Alike`) stay so through every operation,
and hand over the same sections (`InStep.step`), even when one of them is not given the packets that
are only counted.  A reset makes any two parsers with the same settings alike, and so it leaves
nothing of what was before (`exists_run_of_reset`).
-/

namespace SatipClient.PSI

open Checked

namespace Tables

/-- The tables with other statistics. -/
def withCounts (t : Tables) (sections crcErrors : ℕ) : Tables :=
  { t with sections := sections, crcErrors := crcErrors }

variable {t next : Tables} {pid : ℕ} {sec : List UInt8} (sections crcErrors : ℕ)

theorem parsePAT_withCounts (hsec : 12 ≤ sec.length) (h : parsePAT sec t = some next) :
    parsePAT sec (t.withCounts sections crcErrors) = some (next.withCounts sections crcErrors) := by
  obtain ⟨flags, number, pids, hflags, hnumber, hpids, rfl⟩ := parsePAT_cases h
  obtain ⟨other, hother⟩ := exists_parsePAT hsec (t.withCounts sections crcErrors)
  obtain ⟨flags', number', pids', hflags', hnumber', hpids', rfl⟩ := parsePAT_cases hother
  obtain rfl := Option.some.inj (hflags.symm.trans hflags')
  obtain rfl := Option.some.inj (hnumber.symm.trans hnumber')
  obtain rfl := Option.some.inj (hpids.symm.trans hpids')
  exact hother

theorem parseCAT_withCounts (hsec : 12 ≤ sec.length) (h : parseCAT sec t = some next) :
    parseCAT sec (t.withCounts sections crcErrors) = some (next.withCounts sections crcErrors) := by
  obtain ⟨flags, number, descriptors, pids, hflags, hnumber, hdescriptors, hpids, rfl⟩ :=
    parseCAT_cases h
  obtain ⟨other, hother⟩ := exists_parseCAT hsec (t.withCounts sections crcErrors)
  obtain ⟨flags', number', descriptors', pids', hflags', hnumber', hdescriptors', hpids', rfl⟩ :=
    parseCAT_cases hother
  obtain rfl := Option.some.inj (hflags.symm.trans hflags')
  obtain rfl := Option.some.inj (hnumber.symm.trans hnumber')
  obtain rfl := Option.some.inj (hdescriptors.symm.trans hdescriptors')
  obtain rfl := Option.some.inj (hpids.symm.trans hpids')
  exact hother

theorem parsePMT_withCounts (hsec : 12 ≤ sec.length) (h : parsePMT pid sec t = some next) :
    parsePMT pid sec (t.withCounts sections crcErrors) =
      some (next.withCounts sections crcErrors) := by
  obtain ⟨other, hother⟩ := exists_parsePMT hsec (t.withCounts sections crcErrors) pid
  have hstored : (t.withCounts sections crcErrors).pmtStored pid sec = t.pmtStored pid sec := rfl
  rcases parsePMT_cases h with ⟨hnone, rfl⟩ | ⟨version, ecmPids, esPids, hsome, rfl⟩ <;>
    rcases parsePMT_cases hother with ⟨hnone', rfl⟩ | ⟨version', ecmPids', esPids', hsome', rfl⟩
  · exact hother
  · rw [hstored, hnone] at hsome'
    cases hsome'
  · rw [hstored, hsome] at hnone'
    cases hnone'
  · rw [hstored, hsome] at hsome'
    obtain ⟨rfl, rfl, rfl⟩ : version = version' ∧ ecmPids = ecmPids' ∧ esPids = esPids' := by
      simpa using hsome'
    exact hother

theorem dispatch_withCounts (hsec : 12 ≤ sec.length) (h : dispatch pid sec t = some next) :
    dispatch pid sec (t.withCounts sections crcErrors) =
      some (next.withCounts sections crcErrors) := by
  simp only [dispatch, Option.bind_eq_bind, Option.bind_eq_some_iff] at h ⊢
  obtain ⟨tableId, htableId, h⟩ := h
  refine ⟨tableId, htableId, ?_⟩
  split_ifs at h ⊢
  · exact parsePAT_withCounts sections crcErrors hsec h
  · rw [← Option.some.inj h]
  · exact parseCAT_withCounts sections crcErrors hsec h
  · rw [← Option.some.inj h]
  · exact parsePMT_withCounts sections crcErrors hsec h
  · rw [← Option.some.inj h]

/-- The statistics make no difference to what a section does. -/
theorem handleSection_withCounts (hsec : 12 ≤ sec.length)
    (h : handleSection pid sec t = some next) :
    ∃ sections' crcErrors', handleSection pid sec (t.withCounts sections crcErrors) =
      some (next.withCounts sections' crcErrors') := by
  simp only [handleSection, Option.bind_eq_bind, Option.bind_eq_some_iff] at h ⊢
  obtain ⟨syntaxByte, hsyntax, h⟩ := h
  split_ifs at h with hbit hcrc
  · refine ⟨sections, crcErrors, syntaxByte, hsyntax, ?_⟩
    rw [if_pos hbit, ← Option.some.inj h]
  · refine ⟨sections, crcErrors + 1, syntaxByte, hsyntax, ?_⟩
    rw [if_neg hbit, if_pos hcrc, ← Option.some.inj h]
    rfl
  · obtain ⟨flags, hflags, h⟩ := Option.bind_eq_some_iff.mp h
    refine ⟨sections + 1, crcErrors, syntaxByte, hsyntax, ?_⟩
    rw [if_neg hbit, if_neg hcrc, Option.bind_eq_some_iff]
    refine ⟨flags, hflags, ?_⟩
    split_ifs at h ⊢
    · rw [← Option.some.inj h]
      rfl
    · have hdispatch := dispatch_withCounts (sections + 1) crcErrors hsec h
      exact hdispatch

end Tables

/-- The two parsers differ in nothing but their statistics and what was recorded. -/
structure Alike (s s' : SatipPSI) : Prop where
  hasCfg : s'.hasCfg = s.hasCfg
  tables : ∃ sections crcErrors, s'.tables = s.tables.withCounts sections crcErrors
  watchedPids : s'.watchedPids = s.watchedPids
  derivedPids : s'.derivedPids = s.derivedPids
  assembler : s'.assembler = s.assembler

/-- They are alike and have handed over the same sections since. -/
structure InStep (start start' s s' : SatipPSI) : Prop where
  alike : Alike s s'
  handed : ∃ received, PSI.handed s.trace = PSI.handed start.trace ++ received ∧
    PSI.handed s'.trace = PSI.handed start'.trace ++ received

variable {start start' s s' next : SatipPSI} {pid : ℕ}

theorem InStep.handleSection (h : InStep start start' s s') {sec : List UInt8}
    (hsec : 12 ≤ sec.length) (hnext : handleSection pid sec s = some next) :
    ∃ next', handleSection pid sec s' = some next' ∧ InStep start start' next next' := by
  obtain ⟨tables, htables, rfl⟩ := exists_tables_of_handleSection hnext
  obtain ⟨sections, crcErrors, heq⟩ := h.alike.tables
  obtain ⟨sections', crcErrors', htables'⟩ :=
    Tables.handleSection_withCounts sections crcErrors hsec htables
  obtain ⟨received, hhanded, hhanded'⟩ := h.handed
  rw [handleSection_eq, heq, htables', Option.map_some]
  refine ⟨_, rfl, ⟨h.alike.hasCfg, ⟨sections', crcErrors', rfl⟩, h.alike.watchedPids,
    h.alike.derivedPids, h.alike.assembler⟩, received ++ [(pid, sec)], ?_, ?_⟩
  · rw [handed_append, hhanded, List.append_assoc]
    rfl
  · rw [handed_append, hhanded', List.append_assoc]
    rfl

theorem InStep.handleAll (h : InStep start start' s s') {secs : List (List UInt8)}
    (hsecs : ∀ sec ∈ secs, IsSection sec) (hnext : handleAll pid secs s = some next) :
    ∃ next', handleAll pid secs s' = some next' ∧ InStep start start' next next' := by
  induction secs generalizing s s' with
  | nil =>
    obtain rfl := Option.some.inj hnext
    exact ⟨s', rfl, h⟩
  | cons sec secs ih =>
    rw [handleAll_cons, Option.bind_eq_some_iff] at hnext
    obtain ⟨mid, hmid, hnext⟩ := hnext
    obtain ⟨mid', hmid', hinstep⟩ := h.handleSection (hsecs sec List.mem_cons_self).2.1 hmid
    rw [handleAll_cons, hmid', Option.bind_some]
    exact ih hinstep (fun other hother ↦ hsecs other (List.mem_cons_of_mem _ hother)) hnext

/-- `recompute` leaves them alike, even when it has not before. -/
theorem InStep.recompute (hcfg : s'.hasCfg = s.hasCfg)
    (htables : ∃ sections crcErrors, s'.tables = s.tables.withCounts sections crcErrors)
    (hassembler : s'.assembler = s.assembler)
    (hhanded : ∃ received, PSI.handed s.trace = PSI.handed start.trace ++ received ∧
      PSI.handed s'.trace = PSI.handed start'.trace ++ received) :
    InStep start start' (recompute s) (recompute s') := by
  obtain ⟨sections, crcErrors, heq⟩ := htables
  refine ⟨⟨?_, ⟨sections, crcErrors, ?_⟩, ?_, ?_, ?_⟩, ?_⟩
  · rw [recompute_hasCfg, recompute_hasCfg, hcfg]
  · rw [recompute_tables, recompute_tables, heq]
  · rw [recompute_watchedPids, recompute_watchedPids, heq]
    rfl
  · rw [recompute_derivedPids, recompute_derivedPids, heq]
    rfl
  · rw [recompute_assembler, recompute_assembler, heq, hassembler]
    rfl
  · simpa using hhanded

theorem InStep.settle (h : InStep start start' s s') :
    InStep start start' (settle s) (settle s') := by
  obtain ⟨sections, crcErrors, heq⟩ := h.alike.tables
  have hdirty : s'.tables.dirty = s.tables.dirty := by rw [heq]; rfl
  unfold PSI.settle
  rw [hdirty]
  split
  · refine InStep.recompute h.alike.hasCfg ⟨sections, crcErrors, ?_⟩ h.alike.assembler h.handed
    dsimp only
    rw [heq]
    rfl
  · exact h

theorem InStep.countPacket (h : InStep start start' s s') :
    InStep start start' (countPacket s) (countPacket s') :=
  ⟨⟨h.alike.hasCfg, h.alike.tables, h.alike.watchedPids, h.alike.derivedPids,
    h.alike.assembler⟩, h.handed⟩

theorem InStep.keepPending (h : InStep start start' s s') (pid : ℕ) (data : List UInt8) :
    InStep start start' (keepPending pid data s) (keepPending pid data s') := by
  refine ⟨⟨h.alike.hasCfg, h.alike.tables, h.alike.watchedPids, h.alike.derivedPids, ?_⟩,
    h.handed⟩
  unfold PSI.keepPending
  dsimp only
  rw [h.alike.assembler]

theorem Alike.assemblersOk (h : Alike s s') (hs : AssemblersOk s) : AssemblersOk s' := by
  unfold AssemblersOk at hs ⊢
  rwa [h.assembler]

theorem InStep.processPacket (h : InStep start start' s s') (hs : AssemblersOk s)
    {p : List UInt8} (hp : p.length = tsPacketSize) (hnext : processPacket p s = some next) :
    ∃ next', processPacket p s' = some next' ∧ InStep start start' next next' := by
  have hs' : AssemblersOk s' := h.alike.assemblersOk hs
  obtain ⟨pid, hpid⟩ := exists_packetPid hp
  obtain ⟨feeds, hfeeds⟩ := exists_packetFeeds hp
  by_cases hskip : pid ∉ s.watchedPids ∨ feeds = []
  · have hskip' : pid ∉ s'.watchedPids ∨ feeds = [] := by rwa [h.alike.watchedPids]
    rw [processPacket_skipped hp hpid hfeeds hskip] at hnext
    rw [processPacket_skipped hp hpid hfeeds hskip']
    obtain rfl := Option.some.inj hnext
    exact ⟨_, rfl, h.countPacket⟩
  · obtain ⟨hwatch, hne⟩ := not_or.mp hskip
    have hwatch' : pid ∈ s'.watchedPids := by
      rw [h.alike.watchedPids]
      exact not_not.mp hwatch
    have hpending : pendingOf s' pid = pendingOf s pid := by
      rw [pendingOf, pendingOf, h.alike.assembler]
    rw [processPacket_watched hp hpid hfeeds hne (not_not.mp hwatch) hs,
      Option.map_eq_some_iff] at hnext
    obtain ⟨mid, hmid, rfl⟩ := hnext
    obtain ⟨mid', hmid', hinstep⟩ := h.countPacket.handleAll
      (fun sec hsec ↦ isSection_of_mem_assembleAll hsec) hmid
    rw [processPacket_watched hp hpid hfeeds hne hwatch' hs', hpending, hmid', Option.map_some]
    exact ⟨_, rfl, (hinstep.keepPending pid _).settle⟩

/-- A buffer without those of its packets that are not to be kept.  What is behind a packet that is
not aligned stays. -/
def filterPackets (keep : List UInt8 → Bool) (data : List UInt8) : List UInt8 :=
  if tsPacketSize ≤ data.length then
    if byteAt (data.take tsPacketSize) 0 = some 0x47 then
      if keep (data.take tsPacketSize) then
        data.take tsPacketSize ++ filterPackets keep (data.drop tsPacketSize)
      else filterPackets keep (data.drop tsPacketSize)
    else data
  else data
termination_by data.length
decreasing_by all_goals simp only [tsPacketSize] at *; simp only [List.length_drop]; omega

/-- A buffer starts with an aligned packet, or nothing is done with it. -/
theorem packet_cases (data : List UInt8) :
    (∃ p rest, data = p ++ rest ∧ p.length = tsPacketSize ∧ byteAt p 0 = some 0x47) ∨
      (∀ s, processTS data s = some s) ∧ ∀ keep, filterPackets keep data = data := by
  by_cases hsize : tsPacketSize ≤ data.length
  · have hp : (data.take tsPacketSize).length = tsPacketSize := by
      rw [List.length_take]
      exact Nat.min_eq_left hsize
    obtain ⟨sync, -, hsync⟩ := exists_byteAt
      (show 0 < (data.take tsPacketSize).length by rw [hp]; norm_num)
    by_cases haligned : sync = 0x47
    · left
      exact ⟨_, _, (List.take_append_drop tsPacketSize data).symm, hp, by rw [hsync, haligned]⟩
    · right
      refine ⟨fun s ↦ ?_, fun keep ↦ ?_⟩
      · rw [processTS, if_pos hsize, hsync]
        exact if_pos haligned
      · rw [filterPackets, if_pos hsize, if_neg (by rw [hsync]; simpa using haligned)]
  · right
    refine ⟨fun s ↦ ?_, fun keep ↦ ?_⟩
    · rw [processTS, if_neg hsize]
    · rw [filterPackets, if_neg hsize]

theorem filterPackets_packet (keep : List UInt8 → Bool) {p : List UInt8}
    (hp : p.length = tsPacketSize) (hsync : byteAt p 0 = some 0x47) (rest : List UInt8) :
    filterPackets keep (p ++ rest) =
      if keep p then p ++ filterPackets keep rest else filterPackets keep rest := by
  have hsize : tsPacketSize ≤ (p ++ rest).length := by
    rw [List.length_append, hp]
    exact Nat.le_add_right _ _
  rw [filterPackets, if_pos hsize, List.take_left' hp, List.drop_left' hp, if_pos hsync]

theorem filterPackets_true (data : List UInt8) : filterPackets (fun _ ↦ true) data = data := by
  induction hlen : data.length using Nat.strong_induction_on generalizing data with
  | _ n ih =>
    rcases packet_cases data with ⟨p, rest, rfl, hp, hsync⟩ | ⟨-, hstop⟩
    · have hshorter : rest.length < n := by
        rw [← hlen, List.length_append, hp]
        simp [tsPacketSize]
      rw [filterPackets_packet _ hp hsync, if_pos rfl, ih _ hshorter rest rfl]
    · exact hstop _

/-- Packets that are only counted make no difference. -/
theorem InStep.processTS_filter {keep : List UInt8 → Bool}
    (hdrop : ∀ p s, p.length = tsPacketSize → keep p = false →
      PSI.processPacket p s = some (PSI.countPacket s))
    (h : InStep start start' s s') (hs : AssemblersOk s) {data : List UInt8}
    (hnext : processTS data s = some next) :
    ∃ next', processTS (filterPackets keep data) s' = some next' ∧
      InStep start start' next next' := by
  induction hlen : data.length using Nat.strong_induction_on generalizing data s s' with
  | _ n ih =>
    rcases packet_cases data with ⟨p, rest, rfl, hp, hsync⟩ | ⟨hstop, hkeep⟩
    swap
    · rw [hstop] at hnext
      rw [hkeep, hstop]
      obtain rfl := Option.some.inj hnext
      exact ⟨s', rfl, h⟩
    have hshorter : rest.length < n := by
      rw [← hlen, List.length_append, hp]
      simp [tsPacketSize]
    rw [processTS_packet hp hsync, Option.bind_eq_some_iff] at hnext
    obtain ⟨mid, hmid, hnext⟩ := hnext
    have hok : AssemblersOk mid := by
      obtain ⟨mid', hmid', hok⟩ := exists_processPacket hp hs
      obtain rfl := Option.some.inj (hmid.symm.trans hmid')
      exact hok
    rw [filterPackets_packet keep hp hsync]
    cases hkeep : keep p with
    | true =>
      obtain ⟨mid', hmid', hinstep⟩ := h.processPacket hs hp hmid
      rw [if_pos rfl, processTS_packet hp hsync, hmid', Option.bind_some]
      exact ih _ hshorter hinstep hok hnext rfl
    | false =>
      -- The packet is counted on one side only.
      rw [hdrop p s hp hkeep] at hmid
      obtain rfl := Option.some.inj hmid
      rw [if_neg (by simp)]
      have hinstep : InStep start start' (PSI.countPacket s) s' :=
        ⟨⟨h.alike.hasCfg, h.alike.tables, h.alike.watchedPids, h.alike.derivedPids,
          h.alike.assembler⟩, h.handed⟩
      exact ih _ hshorter hinstep hok hnext rfl

theorem InStep.setJoinedPids (h : InStep start start' s s') (pids : Finset ℕ) :
    InStep start start' (setJoinedPids pids s) (setJoinedPids pids s') := by
  obtain ⟨sections, crcErrors, heq⟩ := h.alike.tables
  have hjoined : s'.tables.joinedPids = s.tables.joinedPids := by rw [heq]; rfl
  unfold PSI.setJoinedPids
  rw [hjoined]
  split
  · refine InStep.recompute h.alike.hasCfg ⟨sections, crcErrors, ?_⟩ h.alike.assembler h.handed
    dsimp only
    rw [heq]
    rfl
  · exact h

/-- A reset makes parsers with the same settings alike, whatever they were before. -/
theorem InStep.reset (hcfg : s'.hasCfg = s.hasCfg)
    (hemm : s'.tables.emmEnabled = s.tables.emmEnabled)
    (hfilter : s'.tables.caidFilter = s.tables.caidFilter)
    (hhanded : ∃ received, PSI.handed s.trace = PSI.handed start.trace ++ received ∧
      PSI.handed s'.trace = PSI.handed start'.trace ++ received) :
    InStep start start' (reset s) (reset s') := by
  refine InStep.recompute hcfg ⟨s'.tables.sections, s'.tables.crcErrors, ?_⟩ rfl hhanded
  unfold clearState
  dsimp only
  rw [hemm, hfilter]
  rfl

/-- An operation without those of its packets that are not to be kept. -/
def Op.filterPackets (keep : List UInt8 → Bool) : Op → Op
  | .processTS data => .processTS (PSI.filterPackets keep data)
  | op => op

theorem InStep.step {keep : List UInt8 → Bool}
    (hdrop : ∀ p s, p.length = tsPacketSize → keep p = false →
      PSI.processPacket p s = some (PSI.countPacket s))
    (h : InStep start start' s s') (hs : AssemblersOk s) {op : Op}
    (hnext : step s op = some next) :
    ∃ next', PSI.step s' (op.filterPackets keep) = some next' ∧
      InStep start start' next next' := by
  cases op with
  | reset =>
    obtain rfl := Option.some.inj hnext
    obtain ⟨sections, crcErrors, heq⟩ := h.alike.tables
    exact ⟨_, rfl, InStep.reset h.alike.hasCfg (by rw [heq]; rfl) (by rw [heq]; rfl) h.handed⟩
  | setJoinedPids pids =>
    obtain rfl := Option.some.inj hnext
    exact ⟨_, rfl, h.setJoinedPids pids⟩
  | processTS data => exact h.processTS_filter hdrop hs hnext

/-- Over whole runs. -/
theorem InStep.run {keep : List UInt8 → Bool}
    (hdrop : ∀ p s, p.length = tsPacketSize → keep p = false →
      PSI.processPacket p s = some (PSI.countPacket s))
    (h : InStep start start' s s') (hs : AssemblersOk s) {ops : List Op}
    (hrun : Runs.run PSI.step s ops = some next) :
    ∃ next', Runs.run PSI.step s' (ops.map (Op.filterPackets keep)) = some next' ∧
      InStep start start' next next' := by
  induction ops generalizing s s' with
  | nil =>
    obtain rfl := Option.some.inj hrun
    exact ⟨s', rfl, h⟩
  | cons op ops ih =>
    rw [Runs.run_cons, Option.bind_eq_some_iff] at hrun
    obtain ⟨mid, hmid, hrest⟩ := hrun
    obtain ⟨mid', hmid', hinstep⟩ := h.step hdrop hs hmid
    have hok : AssemblersOk mid := by
      obtain ⟨other, hother, hok⟩ := exists_step op hs
      obtain rfl := Option.some.inj (hmid.symm.trans hother)
      exact hok
    rw [List.map_cons, Runs.run_cons, hmid', Option.bind_some]
    exact ih hinstep hok hrest

theorem Op.filterPackets_true (op : Op) : op.filterPackets (fun _ ↦ true) = op := by
  cases op with
  | processTS data => exact congrArg Op.processTS (PSI.filterPackets_true data)
  | _ => rfl

/-- Whatever two parsers with the same settings were before, they stay alike after a reset. -/
theorem exists_run_of_reset (hcfg : s'.hasCfg = s.hasCfg)
    (hemm : s'.tables.emmEnabled = s.tables.emmEnabled)
    (hfilter : s'.tables.caidFilter = s.tables.caidFilter) (ops : List Op) :
    ∃ t t', Runs.run PSI.step (PSI.reset s) ops = some t ∧
      Runs.run PSI.step (PSI.reset s') ops = some t' ∧ InStep s s' t t' := by
  have hnothing : ∃ received, PSI.handed s.trace = PSI.handed s.trace ++ received ∧
      PSI.handed s'.trace = PSI.handed s'.trace ++ received :=
    ⟨[], (List.append_nil _).symm, (List.append_nil _).symm⟩
  have hreset : InStep s s' (PSI.reset s) (PSI.reset s') :=
    InStep.reset hcfg hemm hfilter hnothing
  obtain ⟨t, hrun, -⟩ := Runs.run_total (fun _ op ↦ exists_step op) (assemblersOk_reset s) ops
  have hdrop : ∀ p u, p.length = tsPacketSize → (fun _ : List UInt8 ↦ true) p = false →
      PSI.processPacket p u = some (PSI.countPacket u) := by
    intro p u _ hkeep
    cases hkeep
  obtain ⟨t', hrun', hinstep⟩ := hreset.run hdrop (assemblersOk_reset s) hrun
  have hsame : ops.map (Op.filterPackets fun _ ↦ true) = ops := by
    rw [funext Op.filterPackets_true, List.map_id']
  rw [hsame] at hrun'
  exact ⟨t, t', hrun, hrun', hinstep⟩

end SatipClient.PSI
