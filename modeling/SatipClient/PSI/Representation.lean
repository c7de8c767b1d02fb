import SatipClient.Foundation.BoundedSet
import SatipClient.PSI.Announced
import SatipClient.PSI.Receiving

/-!
# The representation invariant

What the parser knows is spread over containers that are brought in step at different times:
`parsePAT` prunes the services as soon as its table changes, the watched set and the assemblers
follow only when `recompute` runs, at the end of the packet.  `Tables.Ok` is what holds of the
tables at any time, `Representation` what holds between two public operations.
-/

namespace SatipClient.PSI

namespace Tables

/-- What every section keeps. -/
structure Ok (t : Tables) : Prop where
  patPmtPids : t.patPmtPids = sectionUnion t.patSections
  emmPids : t.emmPids = sectionUnion t.catSections
  patNumber : ∀ number pids, t.patSections number = some pids → number < 256
  catNumber : ∀ number pids, t.catSections number = some pids → number < 256
  pmt : ∀ pid info, t.pmt pid = some info → pid ∈ t.patPmtPids
  learned : t.Learned Usable Usable Usable Usable

variable {t t' : Tables} {pid : ℕ} {sec : List UInt8}

/-- Whatever a section announces, only usable pids are taken from it. -/
theorem announces_usable (caidFilter : Finset ℕ) (pid : ℕ) (sec : List UInt8) :
    Announces Usable Usable Usable Usable caidFilter pid sec :=
  ⟨fun _ _ _ h _ ↦ h, fun _ _ _ h _ ↦ h, fun _ _ _ _ h _ ↦ h, fun _ _ _ _ h _ ↦ h⟩

theorem number_lt_of_enter {known : Option ℕ} {stored : ℕ → Option (Finset ℕ)}
    {version number place : ℕ} {pids found : Finset ℕ}
    (hstored : ∀ number pids, stored number = some pids → number < 256) (hnumber : number < 256)
    (h : enter known stored version number pids place = some found) : place < 256 := by
  rcases enter_cases h with ⟨rfl, -⟩ | ⟨-, hold⟩
  · exact hnumber
  · exact hstored place found hold

/-- A section of a pid that the parser watches keeps the tables in order. -/
theorem Ok.handleSection (h : t.Ok) (hsec : 12 ≤ sec.length)
    (hlisted : pid ≠ psiPidPat → pid ≠ psiPidCat → pid ∈ t.patPmtPids)
    (hhandle : handleSection pid sec t = some t') : t'.Ok := by
  have hlearned : t'.Learned Usable Usable Usable Usable :=
    h.learned.handleSection hsec (announces_usable _ _ _) hhandle
  rcases handleSection_cases hhandle with rfl | rfl | rfl | ⟨hpid, htable, hparse⟩ |
    ⟨hpid, htable, hparse⟩ | ⟨hpat, hcat, htable, hparse⟩
  case inl | inr.inl | inr.inr.inl =>
    exact ⟨h.patPmtPids, h.emmPids, h.patNumber, h.catNumber, h.pmt, hlearned⟩
  · obtain ⟨flags, number, pids, -, hnumber, -, rfl⟩ := parsePAT_cases hparse
    refine ⟨rfl, h.emmPids, fun _ _ ↦ number_lt_of_enter h.patNumber (Checked.byteAt_lt hnumber),
      h.catNumber, fun other info hinfo ↦ ?_, hlearned⟩
    unfold withPatSection at hinfo ⊢
    dsimp only at hinfo ⊢
    split_ifs at hinfo with hall
    · rw [hall]
      exact h.pmt other info hinfo
    · exact ((eraseUnlisted_eq_some_iff _ _ _ _).mp hinfo).1
  · obtain ⟨flags, number, descriptors, pids, -, hnumber, -, -, rfl⟩ := parseCAT_cases hparse
    exact ⟨h.patPmtPids, rfl, h.patNumber,
      fun _ _ ↦ number_lt_of_enter h.catNumber (Checked.byteAt_lt hnumber), h.pmt, hlearned⟩
  · have hentry : ∀ other info, t'.pmt other = some info → other ∈ t.patPmtPids := by
      intro other info hinfo
      by_cases hother : other = pid
      · rw [hother]
        exact hlisted hpat hcat
      · rw [(parsePMT_frame hother hparse).1] at hinfo
        exact h.pmt other info hinfo
    rcases parsePMT_cases hparse with ⟨-, rfl⟩ | ⟨version, ecmPids, esPids, -, rfl⟩
    · exact ⟨h.patPmtPids, h.emmPids, h.patNumber, h.catNumber, hentry, hlearned⟩
    · exact ⟨h.patPmtPids, h.emmPids, h.patNumber, h.catNumber, hentry, hlearned⟩

/-- It does not depend on the joined pids. -/
theorem Ok.of_flags (h : t.Ok) (joinedPids : Finset ℕ) (dirty : Bool) :
    Ok { t with joinedPids := joinedPids, dirty := dirty } :=
  ⟨h.patPmtPids, h.emmPids, h.patNumber, h.catNumber, h.pmt, h.learned.pmt, h.learned.emm,
    h.learned.ecm, h.learned.es⟩

/-- A section that changes what is to be watched says so. -/
theorem watchSet_of_handleSection (hhandle : handleSection pid sec t = some t')
    (hclean : t'.dirty = false) : t.dirty = false ∧ t'.watchSet = t.watchSet := by
  rcases handleSection_cases hhandle with rfl | rfl | rfl | ⟨-, -, hparse⟩ | ⟨-, -, hparse⟩ |
    ⟨-, -, -, hparse⟩
  case inl | inr.inl | inr.inr.inl => exact ⟨hclean, rfl⟩
  · obtain ⟨flags, number, pids, -, -, -, rfl⟩ := parsePAT_cases hparse
    obtain ⟨hdirty, hsame⟩ := Bool.or_eq_false_iff.mp hclean
    have hpids := not_not.mp (of_decide_eq_false hsame)
    refine ⟨hdirty, ?_⟩
    unfold watchSet withPatSection
    dsimp only
    rw [hpids]
    rfl
  · obtain ⟨flags, number, descriptors, pids, -, -, -, -, rfl⟩ := parseCAT_cases hparse
    exact ⟨(Bool.or_eq_false_iff.mp hclean).1, rfl⟩
  · rcases parsePMT_cases hparse with ⟨-, rfl⟩ | ⟨version, ecmPids, esPids, -, rfl⟩
    · exact ⟨hclean, rfl⟩
    · exact ⟨(Bool.or_eq_false_iff.mp hclean).1, rfl⟩

/-- Only PAT sections change the list of the services. -/
theorem patPmtPids_of_handleSection (hpid : pid ≠ psiPidPat)
    (hhandle : handleSection pid sec t = some t') : t'.patPmtPids = t.patPmtPids := by
  rcases handleSection_cases hhandle with rfl | rfl | rfl | ⟨hpat, -⟩ | ⟨-, -, hparse⟩ |
    ⟨-, -, -, hparse⟩
  case inl | inr.inl | inr.inr.inl => rfl
  · exact absurd hpat hpid
  · obtain ⟨flags, number, descriptors, pids, -, -, -, -, rfl⟩ := parseCAT_cases hparse
    rfl
  · rcases parsePMT_cases hparse with ⟨-, rfl⟩ | ⟨version, ecmPids, esPids, -, rfl⟩ <;> rfl

end Tables

/-- The invariant between two public operations. -/
structure Representation (s : SatipPSI) : Prop where
  dirty : s.tables.dirty = false
  patPmtPids : ∀ pid, pid ∈ s.tables.patPmtPids ↔
    ∃ number pids, s.tables.patSections number = some pids ∧ pid ∈ pids
  emmPids : ∀ pid, pid ∈ s.tables.emmPids ↔
    ∃ number pids, s.tables.catSections number = some pids ∧ pid ∈ pids
  watchedPids : s.watchedPids =
    {psiPidPat} ∪ (if s.tables.emmEnabled then {psiPidCat} else ∅) ∪ s.tables.patPmtPids
  assembler : ∀ pid sa, s.assembler pid = some sa → pid ∈ s.watchedPids
  pmt : ∀ pid info, s.tables.pmt pid = some info → pid ∈ s.tables.patPmtPids
  usablePmt : ∀ pid ∈ s.tables.patPmtPids, Usable pid
  usableEmm : ∀ pid ∈ s.tables.emmPids, Usable pid
  usableService : ∀ pid info, s.tables.pmt pid = some info →
    ∀ found ∈ info.ecmPids ∪ info.esPids, Usable found
  derivedPids : s.derivedPids.card ≤ psiMaxDerivedPids

/-- What holds between two packets, in the terms of the code. -/
structure Settled (s : SatipPSI) : Prop where
  dirty : s.tables.dirty = false
  tables : s.tables.Ok
  watchedPids : s.watchedPids = s.tables.watchSet
  assembler : ∀ pid sa, s.assembler pid = some sa → pid ∈ s.watchedPids
  derivedPids : s.derivedPids.card ≤ psiMaxDerivedPids

theorem truncatePids_eq_smallest (derived : Finset ℕ) :
    truncatePids derived = BoundedSet.smallest psiMaxDerivedPids derived := by
  unfold truncatePids
  split
  · rfl
  · exact (BoundedSet.smallest_of_card_le (Nat.le_of_not_lt ‹_›)).symm

theorem card_truncatePids_le (derived : Finset ℕ) :
    (truncatePids derived).card ≤ psiMaxDerivedPids := by
  rw [truncatePids_eq_smallest]
  exact BoundedSet.card_smallest_le _ _

theorem truncatePids_subset (derived : Finset ℕ) : truncatePids derived ⊆ derived := by
  rw [truncatePids_eq_smallest]
  exact BoundedSet.smallest_subset _ _

theorem mem_sectionUnion_iff {sections : ℕ → Option (Finset ℕ)} {pid : ℕ}
    (hnumber : ∀ number pids, sections number = some pids → number < 256) :
    pid ∈ Tables.sectionUnion sections ↔
      ∃ number pids, sections number = some pids ∧ pid ∈ pids := by
  rw [Tables.sectionUnion, Finset.mem_biUnion]
  constructor
  · rintro ⟨number, -, hpid⟩
    cases hstored : sections number with
    | none => simp [hstored] at hpid
    | some pids => exact ⟨number, pids, hstored, by rwa [hstored] at hpid⟩
  · rintro ⟨number, pids, hstored, hpid⟩
    exact ⟨number, Finset.mem_range.mpr (hnumber number pids hstored), by rwa [hstored]⟩

theorem Settled.representation {s : SatipPSI} (h : Settled s) : Representation s where
  dirty := h.dirty
  patPmtPids pid := by
    rw [h.tables.patPmtPids]
    exact mem_sectionUnion_iff h.tables.patNumber
  emmPids pid := by
    rw [h.tables.emmPids]
    exact mem_sectionUnion_iff h.tables.catNumber
  watchedPids := by
    rw [h.watchedPids, Tables.watchSet, Finset.insert_eq]
  assembler := h.assembler
  pmt := h.tables.pmt
  usablePmt pid hpid := by
    rw [h.tables.patPmtPids, mem_sectionUnion_iff h.tables.patNumber] at hpid
    obtain ⟨number, pids, hstored, hmem⟩ := hpid
    exact h.tables.learned.pmt number pids hstored pid hmem
  usableEmm pid hpid := by
    rw [h.tables.emmPids, mem_sectionUnion_iff h.tables.catNumber] at hpid
    obtain ⟨number, pids, hstored, hmem⟩ := hpid
    exact h.tables.learned.emm number pids hstored pid hmem
  usableService pid info hinfo found hfound := by
    rcases Finset.mem_union.mp hfound with hecm | hes
    · exact h.tables.learned.ecm pid info hinfo found hecm
    · exact h.tables.learned.es pid info hinfo found hes
  derivedPids := h.derivedPids

/-- `recompute` brings the caches in step with the tables. -/
theorem settled_recompute {s : SatipPSI} (hdirty : s.tables.dirty = false) (htables : s.tables.Ok) :
    Settled (recompute s) where
  dirty := by rwa [recompute_tables]
  tables := by rwa [recompute_tables]
  watchedPids := by rw [recompute_watchedPids, recompute_tables]
  assembler pid sa hsa := by
    rw [recompute_assembler, eraseUnlisted_eq_some_iff] at hsa
    rw [recompute_watchedPids]
    exact hsa.1
  derivedPids := by
    rw [recompute_derivedPids]
    exact card_truncatePids_le _

/-- While the sections of a packet are handled, only the watched set may be behind. -/
structure Midway (pid : ℕ) (s : SatipPSI) : Prop where
  tables : s.tables.Ok
  watchedPids : s.tables.dirty = false → s.watchedPids = s.tables.watchSet
  listed : pid ≠ psiPidPat → pid ≠ psiPidCat → pid ∈ s.tables.patPmtPids

variable {s next : SatipPSI} {pid : ℕ}

/-- The pid of a packet is that of the PAT, of the CAT or of a listed service. -/
theorem Settled.midway (h : Settled s) (hwatch : pid ∈ s.watchedPids) : Midway pid s where
  tables := h.tables
  watchedPids _ := h.watchedPids
  listed hpat hcat := by
    rw [h.watchedPids, Tables.watchSet] at hwatch
    rcases Finset.mem_union.mp hwatch with hfixed | hlisted
    · split at hfixed <;> simp_all
    · exact hlisted

theorem Midway.handleSection (h : Midway pid s) {sec : List UInt8} (hsec : 12 ≤ sec.length)
    (hnext : handleSection pid sec s = some next) : Midway pid next := by
  obtain ⟨tables, htables, rfl⟩ := exists_tables_of_handleSection hnext
  refine ⟨h.tables.handleSection hsec h.listed htables, fun hclean ↦ ?_, fun hpat hcat ↦ ?_⟩
  · obtain ⟨hdirty, hsame⟩ := Tables.watchSet_of_handleSection htables hclean
    exact (h.watchedPids hdirty).trans hsame.symm
  · show pid ∈ tables.patPmtPids
    rw [Tables.patPmtPids_of_handleSection hpat htables]
    exact h.listed hpat hcat

/-- A packet of a watched pid leaves the parser settled. -/
theorem Settled.packet (h : Settled s) (hwatch : pid ∈ s.watchedPids) {secs : List (List UInt8)}
    (hsecs : ∀ sec ∈ secs, IsSection sec) (hall : handleAll pid secs s = some next)
    (data : List UInt8) : Settled (settle (keepPending pid data next)) := by
  have hmid : Midway pid next := by
    refine handleAll_rule_of_mem ?_ (h.midway hwatch) hall
    intro mid sec hsec after hmid hafter
    exact hmid.handleSection (hsecs sec hsec).2.1 hafter
  rw [handleAll_frame hall] at hmid ⊢
  unfold settle
  split
  case isTrue hdirty =>
    exact settled_recompute rfl (hmid.tables.of_flags _ _)
  case isFalse hdirty =>
    have hclean := Bool.eq_false_of_not_eq_true hdirty
    refine ⟨hclean, hmid.tables, hmid.watchedPids hclean, fun other sa hsa ↦ ?_, h.derivedPids⟩
    rcases update_eq_some hsa with ⟨rfl, -⟩ | ⟨-, hold⟩
    · exact hwatch
    · exact h.assembler other sa hold

theorem settled_reset (s : SatipPSI) : Settled (reset s) := by
  refine settled_recompute rfl ⟨?_, ?_, ?_, ?_, ?_, ?_, ?_, ?_, ?_⟩
  case refine_1 | refine_2 =>
    ext pid
    simp [clearState, Tables.sectionUnion]
  all_goals simp [clearState]

theorem Settled.setJoinedPids (h : Settled s) (pids : Finset ℕ) :
    Settled (setJoinedPids pids s) := by
  unfold PSI.setJoinedPids
  split
  · exact settled_recompute h.dirty (h.tables.of_flags _ _)
  · exact h

theorem Settled.countPacket (h : Settled s) : Settled (countPacket s) :=
  ⟨h.dirty, h.tables, h.watchedPids, h.assembler, h.derivedPids⟩

theorem Reachable.settled (hs : Reachable s) : Settled s := by
  refine hs.packet_invariant (motive := Settled) ?_ ?_ ?_ ?_ ?_
  · intro hasCfg emmEnabled caidFilter
    exact settled_reset _
  · intro s _
    exact settled_reset s
  · intro s pids h
    exact h.setJoinedPids pids
  · intro s h
    exact h.countPacket
  · intro s pid secs data mid h hwatch hsecs hmid
    exact h.packet hwatch hsecs hmid data

/-- In every state reached between public operations the containers agree with each other and hold
nothing but pids that a table may name, and the derived set stays below its limit. -/
theorem run_representation (hasCfg emmEnabled : Bool) (caidFilter : Finset ℕ) (ops : List Op) :
    ∃ s, Runs.run step (construct hasCfg emmEnabled caidFilter) ops = some s ∧
      Representation s := by
  obtain ⟨s, hrun, -⟩ := Runs.run_total (fun s op ↦ exists_step op)
    (assemblersOk_construct hasCfg emmEnabled caidFilter) ops
  have hreach : Reachable s := ⟨hasCfg, emmEnabled, caidFilter, ops, hrun⟩
  exact ⟨s, hrun, hreach.settled.representation⟩

end SatipClient.PSI
