import SatipClient.PSI.Packets

/-!
# Memory safety of the PSI parser

No public operation of the parser faults, whatever bytes arrive and in whatever order it is
called.  Each parsing loop reads below the length it was given; the assembler invariant
carries this through a run, since only whole sections of at least 12 bytes reach
`handleSection`.
-/

namespace SatipClient.PSI

open Checked

/-! ## The section parsers -/

namespace Tables

theorem exists_caDescriptor (caidFilter : Finset ℕ) {p : List UInt8} {pos dlen : ℕ}
    (h : pos + 2 + dlen ≤ p.length) (tag : ℕ) (out : Finset ℕ) :
    ∃ out', caDescriptor caidFilter p pos tag dlen out = some out' := by
  unfold caDescriptor
  by_cases hca : tag = 0x09 ∧ 4 ≤ dlen
  · obtain ⟨b2, _, h2⟩ := exists_byteAt (show pos + 2 < p.length by omega)
    obtain ⟨b3, _, h3⟩ := exists_byteAt (show pos + 3 < p.length by omega)
    obtain ⟨b4, _, h4⟩ := exists_byteAt (show pos + 4 < p.length by omega)
    obtain ⟨b5, _, h5⟩ := exists_byteAt (show pos + 5 < p.length by omega)
    simp only [hca, and_self, if_true, h2, h3, h4, h5, Option.bind_eq_bind, Option.bind_some]
    split <;> exact ⟨_, rfl⟩
  · exact ⟨out, if_neg hca⟩

theorem exists_collectCaDescriptorsFrom (caidFilter : Finset ℕ) (p : List UInt8) (pos : ℕ)
    (out : Finset ℕ) :
    ∃ out', collectCaDescriptorsFrom caidFilter p pos out = some out' := by
  induction hleft : p.length - pos using Nat.strong_induction_on generalizing pos out with
  | _ n ih =>
    unfold collectCaDescriptorsFrom
    by_cases hpos : pos + 2 ≤ p.length
    · obtain ⟨tag, _, htag⟩ := exists_byteAt (show pos < p.length by omega)
      obtain ⟨dlen, _, hdlen⟩ := exists_byteAt (show pos + 1 < p.length by omega)
      simp only [hpos, if_true, htag, hdlen, Option.bind_eq_bind, Option.bind_some]
      by_cases hend : p.length < pos + 2 + dlen
      · exact ⟨out, if_pos hend⟩
      · obtain ⟨out', hout⟩ :=
          exists_caDescriptor caidFilter (Nat.le_of_not_lt hend) tag out
        rw [if_neg hend, hout, Option.bind_some]
        exact ih _ (by omega) _ out' rfl
    · exact ⟨out, if_neg hpos⟩

theorem exists_collectCaDescriptors (caidFilter : Finset ℕ) (p : List UInt8) (out : Finset ℕ) :
    ∃ out', collectCaDescriptors caidFilter p out = some out' :=
  exists_collectCaDescriptorsFrom caidFilter p 0 out

theorem exists_patProgramsFrom (sec : List UInt8) (i : ℕ) (pmtPids : Finset ℕ) :
    ∃ pmtPids', patProgramsFrom sec i pmtPids = some pmtPids' := by
  induction hleft : sec.length - i using Nat.strong_induction_on generalizing i pmtPids with
  | _ n ih =>
    unfold patProgramsFrom
    by_cases hi : i + 4 + 4 ≤ sec.length
    · obtain ⟨b0, _, h0⟩ := exists_byteAt (show i < sec.length by omega)
      obtain ⟨b1, _, h1⟩ := exists_byteAt (show i + 1 < sec.length by omega)
      obtain ⟨b2, _, h2⟩ := exists_byteAt (show i + 2 < sec.length by omega)
      obtain ⟨b3, _, h3⟩ := exists_byteAt (show i + 3 < sec.length by omega)
      simp only [hi, if_true, h0, h1, h2, h3, Option.bind_eq_bind, Option.bind_some]
      split <;> exact ih _ (by omega) _ _ rfl
    · exact ⟨pmtPids, if_neg hi⟩

theorem exists_pmtStreamsFrom (caidFilter : Finset ℕ) (sec : List UInt8) {fin : ℕ}
    (hfin : fin ≤ sec.length) (pos : ℕ) (ecmPids esPids : Finset ℕ) :
    ∃ found, pmtStreamsFrom caidFilter sec fin pos ecmPids esPids = some found := by
  induction hleft : fin - pos using Nat.strong_induction_on generalizing pos ecmPids esPids with
  | _ n ih =>
    unfold pmtStreamsFrom
    by_cases hpos : pos + 5 ≤ fin
    · obtain ⟨b1, _, h1⟩ := exists_byteAt (show pos + 1 < sec.length by omega)
      obtain ⟨b2, _, h2⟩ := exists_byteAt (show pos + 2 < sec.length by omega)
      obtain ⟨b3, _, h3⟩ := exists_byteAt (show pos + 3 < sec.length by omega)
      obtain ⟨b4, _, h4⟩ := exists_byteAt (show pos + 4 < sec.length by omega)
      simp only [hpos, if_true, h1, h2, h3, h4, Option.bind_eq_bind, Option.bind_some]
      by_cases hend : fin < pos + 5 + lengthOfBytes b3 b4
      · exact ⟨_, if_pos hend⟩
      · obtain ⟨part, _, hpart⟩ :=
          exists_slice (show pos + 5 + lengthOfBytes b3 b4 ≤ sec.length by omega)
        obtain ⟨ecm, hecm⟩ := exists_collectCaDescriptors caidFilter part ecmPids
        rw [if_neg hend, hpart, Option.bind_some, hecm, Option.bind_some]
        exact ih _ (by omega) _ _ _ rfl
    · exact ⟨_, if_neg hpos⟩

theorem exists_pmtContents (caidFilter : Finset ℕ) {sec : List UInt8} {programInfoLength : ℕ}
    (h : 12 + programInfoLength + 4 ≤ sec.length) :
    ∃ found, pmtContents caidFilter sec programInfoLength = some found := by
  obtain ⟨part, _, hpart⟩ := exists_slice (show 12 + programInfoLength ≤ sec.length by omega)
  obtain ⟨ecm, hecm⟩ := exists_collectCaDescriptors caidFilter part ∅
  obtain ⟨found, hfound⟩ := exists_pmtStreamsFrom caidFilter sec (Nat.sub_le sec.length 4)
    (12 + programInfoLength) ecm ∅
  exact ⟨found, by simp only [pmtContents, hpart, Option.bind_eq_bind, Option.bind_some, hecm,
    hfound]⟩

variable {sec : List UInt8} (hsec : 12 ≤ sec.length) (t : Tables)
include hsec

theorem exists_parsePAT : ∃ t', parsePAT sec t = some t' := by
  obtain ⟨b5, _, h5⟩ := exists_byteAt (show 5 < sec.length by omega)
  obtain ⟨b6, _, h6⟩ := exists_byteAt (show 6 < sec.length by omega)
  obtain ⟨pmtPids, hpmt⟩ := exists_patProgramsFrom sec 8 ∅
  simp only [parsePAT, h5, h6, hpmt, Option.bind_eq_bind, Option.bind_some]
  split_ifs <;> exact ⟨_, rfl⟩

theorem exists_parseCAT : ∃ t', parseCAT sec t = some t' := by
  obtain ⟨b5, _, h5⟩ := exists_byteAt (show 5 < sec.length by omega)
  obtain ⟨b6, _, h6⟩ := exists_byteAt (show 6 < sec.length by omega)
  obtain ⟨part, _, hpart⟩ := exists_slice (show 8 + (sec.length - 4 - 8) ≤ sec.length by omega)
  simp only [parseCAT, h5, h6, hpart, Option.bind_eq_bind, Option.bind_some]
  obtain ⟨emmPids, hemm⟩ := exists_collectCaDescriptors
    (if t.catVersion ≠ some ((b5 >>> 1) &&& 0x1f) then
      { t with catSections := fun _ ↦ none, catVersion := some ((b5 >>> 1) &&& 0x1f) }
    else t).caidFilter part ∅
  rw [hemm, Option.bind_some]
  split_ifs <;> exact ⟨_, rfl⟩

theorem exists_parsePMT (pid : ℕ) : ∃ t', parsePMT pid sec t = some t' := by
  obtain ⟨b3, _, h3⟩ := exists_byteAt (show 3 < sec.length by omega)
  obtain ⟨b4, _, h4⟩ := exists_byteAt (show 4 < sec.length by omega)
  obtain ⟨b5, _, h5⟩ := exists_byteAt (show 5 < sec.length by omega)
  obtain ⟨b10, _, h10⟩ := exists_byteAt (show 10 < sec.length by omega)
  obtain ⟨b11, _, h11⟩ := exists_byteAt (show 11 < sec.length by omega)
  simp only [parsePMT, h3, h4, h5, h10, h11, Option.bind_eq_bind, Option.bind_some]
  by_cases hversion : ((t.pmt pid).getD {}).version = some ((b5 >>> 1) &&& 0x1f)
  · exact ⟨_, if_pos hversion⟩
  by_cases hshort : sec.length < 12 + 4
  · exact ⟨_, by rw [if_neg hversion, if_pos hshort]⟩
  by_cases hinfo : sec.length < 12 + lengthOfBytes b10 b11 + 4
  · exact ⟨_, by rw [if_neg hversion, if_neg hshort, if_pos hinfo]⟩
  · obtain ⟨⟨ecm, es⟩, hfound⟩ :=
      exists_pmtContents t.caidFilter (Nat.le_of_not_lt hinfo)
    rw [if_neg hversion, if_neg hshort, if_neg hinfo, hfound, Option.bind_some]
    split_ifs <;> exact ⟨_, rfl⟩

theorem exists_dispatch (pid : ℕ) : ∃ t', dispatch pid sec t = some t' := by
  obtain ⟨b0, _, h0⟩ := exists_byteAt (show 0 < sec.length by omega)
  simp only [dispatch, h0, Option.bind_eq_bind, Option.bind_some]
  split_ifs
  · exact exists_parsePAT hsec t
  · exact ⟨t, rfl⟩
  · exact exists_parseCAT hsec t
  · exact ⟨t, rfl⟩
  · exact exists_parsePMT hsec t pid
  · exact ⟨t, rfl⟩

theorem exists_handleSection (pid : ℕ) : ∃ t', t.handleSection pid sec = some t' := by
  obtain ⟨b1, _, h1⟩ := exists_byteAt (show 1 < sec.length by omega)
  obtain ⟨b5, _, h5⟩ := exists_byteAt (show 5 < sec.length by omega)
  simp only [Tables.handleSection, h1, h5, Option.bind_eq_bind, Option.bind_some]
  split_ifs
  · exact ⟨t, rfl⟩
  · exact ⟨_, rfl⟩
  · exact ⟨_, rfl⟩
  · exact exists_dispatch hsec _ pid

end Tables

/-! ## The assembler and the packet loop -/

theorem exists_handleAll (pid : ℕ) {secs : List (List UInt8)} (h : ∀ sec ∈ secs, IsSection sec)
    (s : SatipPSI) : ∃ next, handleAll pid secs s = some next := by
  induction secs generalizing s with
  | nil => exact ⟨s, rfl⟩
  | cons sec secs ih =>
    obtain ⟨tables, htables⟩ :=
      Tables.exists_handleSection (h sec List.mem_cons_self).2.1 s.tables pid
    rw [handleAll_cons, handleSection_eq, htables, Option.map_some, Option.bind_some]
    exact ih (fun other hother ↦ h other (List.mem_cons_of_mem _ hother)) _

theorem exists_feedAll {s : SatipPSI} (h : AssemblersOk s) (pid : ℕ)
    (feeds : List (List UInt8 × Bool)) :
    ∃ next, feedAll pid feeds s = some next ∧ AssemblersOk next := by
  by_cases hfeeds : feeds = []
  · subst hfeeds
    exact ⟨s, rfl, h⟩
  · have hsections : ∀ sec ∈ (assembleAll feeds (pendingOf s pid)).2, IsSection sec :=
      fun sec hsec ↦ isSection_of_mem_assembleAll hsec
    obtain ⟨next, hnext⟩ := exists_handleAll pid hsections s
    refine ⟨_, by rw [feedAll_eq h pid hfeeds, hnext, Option.map_some], ?_⟩
    exact (h.handleAll hnext).keepPending pid (pending_assembleAll feeds (h.getD pid).1)

theorem AssemblersOk.recompute {s : SatipPSI} (h : AssemblersOk s) :
    AssemblersOk (recompute s) := by
  intro pid sa hsa
  rw [recompute_assembler, eraseUnlisted_eq_some_iff] at hsa
  exact h pid sa hsa.2

theorem AssemblersOk.settle {s : SatipPSI} (h : AssemblersOk s) : AssemblersOk (settle s) := by
  unfold PSI.settle
  split
  · exact AssemblersOk.recompute (s := { s with tables := { s.tables with dirty := false } }) h
  · exact h

theorem exists_processPacket {p : List UInt8} (hp : p.length = tsPacketSize) {s : SatipPSI}
    (h : AssemblersOk s) : ∃ next, processPacket p s = some next ∧ AssemblersOk next := by
  obtain ⟨pid, hpid⟩ := exists_packetPid hp
  obtain ⟨feeds, hfeeds⟩ := exists_packetFeeds hp
  have hcount : AssemblersOk (countPacket s) := h
  rw [processPacket_eq hp hpid hfeeds]
  split_ifs
  · exact ⟨_, rfl, hcount⟩
  · obtain ⟨next, hnext, hok⟩ := exists_feedAll hcount pid feeds
    exact ⟨_, by rw [hnext]; rfl, hok.settle⟩

theorem exists_processTS (data : List UInt8) {s : SatipPSI} (h : AssemblersOk s) :
    ∃ next, processTS data s = some next ∧ AssemblersOk next := by
  induction hlen : data.length using Nat.strong_induction_on generalizing data s with
  | _ n ih =>
    unfold processTS
    by_cases hsize : tsPacketSize ≤ data.length
    · have hp : (data.take tsPacketSize).length = tsPacketSize := by
        rw [List.length_take]
        exact Nat.min_eq_left hsize
      obtain ⟨sync, _, hsync⟩ := exists_byteAt
        (show 0 < (data.take tsPacketSize).length by rw [hp]; norm_num)
      rw [if_pos hsize, hsync]
      simp only [Option.bind_eq_bind, Option.bind_some]
      by_cases haligned : sync = 0x47
      · obtain ⟨mid, hmid, hok⟩ := exists_processPacket hp h
        rw [if_neg (by simpa using haligned), hmid, Option.bind_some]
        refine ih _ ?_ _ hok rfl
        simp only [List.length_drop, tsPacketSize] at hsize ⊢
        omega
      · exact ⟨s, if_pos haligned, h⟩
    · exact ⟨s, if_neg hsize, h⟩

/-! ## Runs -/

theorem assemblersOk_reset (s : SatipPSI) : AssemblersOk (reset s) := by
  apply AssemblersOk.recompute
  intro pid sa hsa
  cases hsa

theorem assemblersOk_construct (hasCfg emmEnabled : Bool) (caidFilter : Finset ℕ) :
    AssemblersOk (construct hasCfg emmEnabled caidFilter) :=
  assemblersOk_reset _

theorem AssemblersOk.setJoinedPids {s : SatipPSI} (h : AssemblersOk s) (pids : Finset ℕ) :
    AssemblersOk (setJoinedPids pids s) := by
  unfold PSI.setJoinedPids
  split
  · exact AssemblersOk.recompute (s := { s with tables := { s.tables with joinedPids := pids } }) h
  · exact h

theorem exists_step {s : SatipPSI} (op : Op) (h : AssemblersOk s) :
    ∃ next, step s op = some next ∧ AssemblersOk next := by
  cases op with
  | reset => exact ⟨_, rfl, assemblersOk_reset s⟩
  | setJoinedPids pids => exact ⟨_, rfl, h.setJoinedPids pids⟩
  | processTS data => exact exists_processTS data h

/-- Every reachable parser has assemblers the abstract assembler can be in. -/
theorem Reachable.assemblersOk {s : SatipPSI} (h : Reachable s) : AssemblersOk s := by
  obtain ⟨hasCfg, emmEnabled, caidFilter, hreach⟩ := h
  exact hreach.invariant_of_exists (fun _ op ↦ exists_step op)
    (assemblersOk_construct hasCfg emmEnabled caidFilter)

/-- The bounds an assembler keeps between two calls of `feed`. -/
def SectionAssembler.Bounded (sa : SectionAssembler) : Prop :=
  (sa.expected = 0 ∧ sa.data.length < 3) ∨
    (3 ≤ sa.data.length ∧ sa.data.length < sa.expected ∧ sa.expected ≤ psiMaxSectionLen)

theorem bounded_ofPending {data : List UInt8} (h : Pending data) : (ofPending data).Bounded := by
  rcases h with hshort | ⟨size, hsize, hok, hlt⟩
  · rw [ofPending_of_lt hshort]
    exact Or.inl ⟨rfl, hshort⟩
  · rw [ofPending_of_size hsize]
    exact Or.inr ⟨length_of_sectionSize hsize, hlt, hok.2⟩

theorem AssemblersOk.bounded {s : SatipPSI} (h : AssemblersOk s) {pid : ℕ} {sa : SectionAssembler}
    (hsa : s.assembler pid = some sa) : sa.Bounded := by
  obtain ⟨data, hdata, rfl⟩ := h pid sa hsa
  exact bounded_ofPending hdata

/-- No run of the public operations reads outside the buffer, the packet or the section it was
given, or writes behind an assembler's `data`, and between any two calls of `feed`, those
within one packet included, every assembler is within its bounds. -/
theorem run_memory_safe (hasCfg emmEnabled : Bool) (caidFilter : Finset ℕ) (ops : List Op) :
    ∃ s, Runs.run step (construct hasCfg emmEnabled caidFilter) ops = some s ∧
      (∀ pid sa, s.assembler pid = some sa → sa.Bounded) ∧
      ∀ pid feeds, ∃ next, feedAll pid feeds s = some next ∧
        ∀ pid' sa, next.assembler pid' = some sa → sa.Bounded := by
  obtain ⟨s, hrun, hok⟩ := Runs.run_total (fun s op ↦ exists_step op)
    (assemblersOk_construct hasCfg emmEnabled caidFilter) ops
  refine ⟨s, hrun, fun pid sa ↦ hok.bounded, fun pid feeds ↦ ?_⟩
  obtain ⟨next, hnext, hnextok⟩ := exists_feedAll hok pid feeds
  exact ⟨next, hnext, fun pid' sa ↦ hnextok.bounded⟩

end SatipClient.PSI
