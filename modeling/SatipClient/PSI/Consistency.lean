import SatipClient.PSI.Effects
import SatipClient.PSI.Packetisation

/-!
# The derived set stays up to date

`m_derived_pids` caches the set that `recompute` computes from the tables and the joined pids.
Between two packets the cache is up to date (`Fresh`); within one it may be behind as long as
`m_dirty` says so.  Every section keeps this except one: a PMT section that changes only which
elementary streams a service carries, `Tables.SilentEsChange`.  A run without one ends with the
set that belongs to its tables (`run_consistent`).
-/

namespace SatipClient.PSI

/-! ## Packets one at a time -/

/-- What a packet does to the parser: it is counted, and when its pid is watched the sections it
completes are handled before the parser settles. -/
theorem processPacket_cases {p : List UInt8} (hp : p.length = tsPacketSize) {s next : SatipPSI}
    (hs : AssemblersOk s) (h : processPacket p s = some next) :
    next = countPacket s ∨
      ∃ pid secs data mid, pid ∈ s.watchedPids ∧ (∀ sec ∈ secs, IsSection sec) ∧
        handleAll pid secs (countPacket s) = some mid ∧
        next = settle (keepPending pid data mid) := by
  obtain ⟨pid, hpid⟩ := exists_packetPid hp
  obtain ⟨feeds, hfeeds⟩ := exists_packetFeeds hp
  by_cases hskip : pid ∉ s.watchedPids ∨ feeds = []
  · rw [processPacket_skipped hp hpid hfeeds hskip] at h
    exact Or.inl (Option.some.inj h).symm
  · obtain ⟨hwatch, hne⟩ := not_or.mp hskip
    rw [processPacket_watched hp hpid hfeeds hne (not_not.mp hwatch) hs,
      Option.map_eq_some_iff] at h
    obtain ⟨mid, hmid, rfl⟩ := h
    exact Or.inr ⟨pid, _, _, mid, not_not.mp hwatch,
      fun sec hsec ↦ isSection_of_mem_assembleAll hsec, hmid, rfl⟩

/-- What every packet keeps, a buffer of packets keeps. -/
theorem processTS_invariant {Inv : SatipPSI → Prop}
    (hpacket : ∀ p s next, p.length = tsPacketSize → Inv s → processPacket p s = some next →
      Inv next) {data : List UInt8} {s next : SatipPSI} (hs : Inv s)
    (h : processTS data s = some next) : Inv next := by
  induction hlen : data.length using Nat.strong_induction_on generalizing data s with
  | _ n ih =>
    unfold processTS at h
    by_cases hsize : tsPacketSize ≤ data.length
    · rw [if_pos hsize] at h
      obtain ⟨sync, -, h⟩ := Option.bind_eq_some_iff.mp h
      by_cases haligned : sync ≠ 0x47
      · rw [if_pos haligned] at h
        rwa [← Option.some.inj h]
      · rw [if_neg haligned] at h
        obtain ⟨mid, hmid, h⟩ := Option.bind_eq_some_iff.mp h
        have hp : (data.take tsPacketSize).length = tsPacketSize := by
          rw [List.length_take]
          exact Nat.min_eq_left hsize
        have hshorter : (data.drop tsPacketSize).length < n := by
          rw [List.length_drop, hlen]
          simp only [tsPacketSize] at hsize ⊢
          omega
        exact ih _ hshorter (hpacket _ s mid hp hs hmid) h rfl
    · rw [if_neg hsize] at h
      rwa [← Option.some.inj h]

/-! ## The invariant -/

/-- A call of `handleSection` with a section that `parsePMT` fails to report. -/
def Event.Silent : Event → Prop
  | .handleSection before pid sec => before.SilentEsChange pid sec
  | .setCaPids _ => False

instance : DecidablePred Event.Silent
  | .handleSection before pid sec => inferInstanceAs (Decidable (before.SilentEsChange pid sec))
  | .setCaPids _ => inferInstanceAs (Decidable False)

/-- No section handled so far was one that `parsePMT` fails to report. -/
def NoSilentChange (trace : List Event) : Prop :=
  ∀ event ∈ trace, ¬ event.Silent

instance (trace : List Event) : Decidable (NoSilentChange trace) :=
  inferInstanceAs (Decidable (∀ event ∈ trace, ¬ event.Silent))

/-- The cached sets belong to the tables. -/
structure Fresh (s : SatipPSI) : Prop where
  dirty : s.tables.dirty = false
  derivedPids : s.derivedPids = s.tables.caPids
  watchedPids : s.watchedPids = s.tables.watchSet

/-- The cached sets belong to the tables or are known not to. -/
def FreshOrDirty (s : SatipPSI) : Prop := s.tables.dirty = true ∨ Fresh s

theorem handleSection_freshOrDirty {pid : ℕ} {sec : List UInt8} {s next : SatipPSI}
    (hs : FreshOrDirty s) (hquiet : ¬ s.tables.SilentEsChange pid sec)
    (h : handleSection pid sec s = some next) : FreshOrDirty next := by
  obtain ⟨tables, htables, rfl⟩ := exists_tables_of_handleSection h
  rcases Tables.handleSection_effect htables with hdirty | hsame | hsilent
  · exact Or.inl hdirty
  · rcases hs with hdirty | hfresh
    · left
      rw [← hdirty]
      exact hsame.dirty
    · right
      exact ⟨hsame.dirty.trans hfresh.dirty, hfresh.derivedPids.trans hsame.caPids_eq.symm,
        hfresh.watchedPids.trans hsame.watchSet_eq.symm⟩
  · exact absurd hsilent hquiet

theorem handleAll_trace {pid : ℕ} {secs : List (List UInt8)} {s next : SatipPSI}
    (h : handleAll pid secs s = some next) : s.trace <+: next.trace := by
  refine handleAll_rule (motive := fun mid ↦ s.trace <+: mid.trace) ?_ List.prefix_rfl h
  intro mid sec after hmid hafter
  obtain ⟨tables, -, rfl⟩ := exists_tables_of_handleSection hafter
  exact hmid.trans (List.prefix_append mid.trace _)

theorem NoSilentChange.mono {front whole : List Event} (h : NoSilentChange whole)
    (hgrows : front <+: whole) : NoSilentChange front :=
  fun event hmem ↦ h event (hgrows.mem hmem)

theorem handleAll_freshOrDirty {pid : ℕ} {secs : List (List UInt8)} {s next : SatipPSI}
    (hs : FreshOrDirty s) (h : handleAll pid secs s = some next)
    (hquiet : NoSilentChange next.trace) : FreshOrDirty next := by
  refine handleAll_rule (motive := fun mid ↦ NoSilentChange mid.trace → FreshOrDirty mid) ?_
    (fun _ ↦ hs) h hquiet
  intro mid sec after hmid hafter hquietafter
  obtain ⟨tables, -, heq⟩ := exists_tables_of_handleSection hafter
  have htrace : after.trace = mid.trace ++ [.handleSection mid.tables pid sec] := by rw [heq]
  rw [htrace] at hquietafter
  have hmidfresh : FreshOrDirty mid := hmid (hquietafter.mono (List.prefix_append mid.trace _))
  have hquietsec : ¬ mid.tables.SilentEsChange pid sec :=
    hquietafter (.handleSection mid.tables pid sec) (by simp)
  exact handleSection_freshOrDirty hmidfresh hquietsec hafter

theorem fresh_recompute {s : SatipPSI} (h : s.tables.dirty = false) : Fresh (recompute s) := by
  constructor <;> simp [h]

theorem FreshOrDirty.settle {s : SatipPSI} (h : FreshOrDirty s) : Fresh (settle s) := by
  unfold PSI.settle
  rcases h with hdirty | hfresh
  · rw [if_pos hdirty]
    exact fresh_recompute rfl
  · rw [if_neg (by simp [hfresh.dirty])]
    exact hfresh

theorem prefix_recompute (s : SatipPSI) : s.trace <+: (recompute s).trace := by
  rw [recompute_trace]
  exact List.prefix_append _ _

theorem prefix_settle (s : SatipPSI) : s.trace <+: (settle s).trace := by
  unfold settle
  split
  · exact prefix_recompute { s with tables := { s.tables with dirty := false } }
  · exact List.prefix_rfl

/-- What holds between two packets: the cached sets belong to the tables, unless a section was
handled that is not reported. -/
def Consistent (s : SatipPSI) : Prop :=
  AssemblersOk s ∧ (NoSilentChange s.trace → Fresh s)

theorem processPacket_consistent {p : List UInt8} (hp : p.length = tsPacketSize)
    {s next : SatipPSI} (hs : Consistent s) (h : processPacket p s = some next) :
    Consistent next := by
  obtain ⟨next', hnext', hok⟩ := exists_processPacket hp hs.1
  rw [h] at hnext'
  obtain rfl := Option.some.inj hnext'
  refine ⟨hok, fun hquiet ↦ ?_⟩
  rcases processPacket_cases hp hs.1 h with rfl | ⟨pid, secs, data, mid, -, -, hmid, rfl⟩
  · obtain ⟨hdirty, hderived, hwatched⟩ := hs.2 hquiet
    exact ⟨hdirty, hderived, hwatched⟩
  · have hquietmid : NoSilentChange mid.trace :=
      hquiet.mono (prefix_settle (keepPending pid data mid))
    have hgrows : s.trace <+: mid.trace := handleAll_trace (s := countPacket s) hmid
    obtain ⟨hdirty, hderived, hwatched⟩ := hs.2 (hquietmid.mono hgrows)
    have hcount : FreshOrDirty (countPacket s) := Or.inr ⟨hdirty, hderived, hwatched⟩
    have hfresh : FreshOrDirty (keepPending pid data mid) :=
      (handleAll_freshOrDirty hcount hmid hquietmid).imp id
        fun hmid ↦ ⟨hmid.dirty, hmid.derivedPids, hmid.watchedPids⟩
    exact hfresh.settle

theorem step_consistent {s next : SatipPSI} (op : Op) (hs : Consistent s)
    (h : step s op = some next) : Consistent next := by
  cases op with
  | reset =>
    obtain rfl := Option.some.inj h
    exact ⟨assemblersOk_reset s, fun _ ↦ fresh_recompute rfl⟩
  | setJoinedPids pids =>
    obtain rfl := Option.some.inj h
    refine ⟨hs.1.setJoinedPids pids, fun hquiet ↦ ?_⟩
    unfold setJoinedPids at hquiet ⊢
    by_cases hpids : pids ≠ s.tables.joinedPids
    · rw [if_pos hpids] at hquiet ⊢
      have hgrows := prefix_recompute { s with tables := { s.tables with joinedPids := pids } }
      have hfresh := hs.2 (hquiet.mono hgrows)
      exact fresh_recompute hfresh.dirty
    · rw [if_neg hpids] at hquiet ⊢
      exact hs.2 hquiet
  | processTS data =>
    exact processTS_invariant (fun p s next hp hs h ↦ processPacket_consistent hp hs h) hs h

/-- In every run of the public operations in which no section was a silent change of the
elementary streams, the derived set is the one that `recompute` computes from the tables. -/
theorem run_consistent (hasCfg emmEnabled : Bool) (caidFilter : Finset ℕ) (ops : List Op)
    {s : SatipPSI} (hrun : Runs.run step (construct hasCfg emmEnabled caidFilter) ops = some s)
    (hquiet : NoSilentChange s.trace) : s.derivedPids = s.tables.caPids := by
  have hconsistent : Consistent s := by
    apply Runs.Reachable.invariant (fun s op next hs h ↦ step_consistent op hs h) ?_ ⟨ops, hrun⟩
    exact ⟨assemblersOk_construct hasCfg emmEnabled caidFilter, fun _ ↦ fresh_recompute rfl⟩
  exact (hconsistent.2 hquiet).derivedPids

/-- A PMT of version 0 with elementary stream 101 and no CA descriptor. -/
def freePmtSection : List UInt8 :=
  [2, 176, 18, 0, 1, 193, 0, 0, 225, 1, 240, 0, 2, 224, 101, 240, 0, 82, 195, 202, 23]

/-- The same PMT with ECM pid 500. -/
def scrambledPmtSection : List UInt8 :=
  [2, 176, 24, 0, 1, 193, 0, 0, 225, 1, 240, 6, 9, 4, 24, 51, 225, 244, 2, 224, 101, 240, 0, 223,
    60, 220, 216]

/-- A free service whose elementary stream was joined before its PMT arrived. -/
def silentRun : List Op :=
  [.processTS (packetOf 0 patSection), .setJoinedPids {101},
    .processTS (packetOf 100 freePmtSection)]

/-- The same with a scrambled service. -/
def reportedRun : List Op :=
  [.processTS (packetOf 0 patSection), .setJoinedPids {101},
    .processTS (packetOf 100 scrambledPmtSection)]

/-- The free service is active and its PMT pid belongs to the derived set, but nothing asked for
`recompute`. -/
theorem not_run_consistent :
    ¬ ∀ hasCfg emmEnabled caidFilter ops s,
      Runs.run step (construct hasCfg emmEnabled caidFilter) ops = some s →
        s.derivedPids = s.tables.caPids := by
  intro h
  have hsets : (Runs.run step (construct true false ∅) silentRun).map
      (fun s ↦ (s.derivedPids, s.tables.caPids)) = some ({0}, {0, 100}) := by
    decide +kernel
  obtain ⟨s, hrun, hs⟩ := Option.map_eq_some_iff.mp hsets
  have hequal := h _ _ _ _ s hrun
  rw [(Prod.mk.inj hs).1, (Prod.mk.inj hs).2] at hequal
  revert hequal
  decide

theorem run_consistent_reportedRun :
    ∃ s, Runs.run step (construct true false ∅) reportedRun = some s ∧
      s.tables.caPids = {0, 100, 500} ∧ s.derivedPids = s.tables.caPids := by
  have hsets : (Runs.run step (construct true false ∅) reportedRun).map
      (fun s ↦ (s.tables.caPids, decide (NoSilentChange s.trace))) =
        some ({0, 100, 500}, true) := by
    decide +kernel
  obtain ⟨s, hrun, hs⟩ := Option.map_eq_some_iff.mp hsets
  have hquiet : NoSilentChange s.trace := of_decide_eq_true (Prod.mk.inj hs).2
  exact ⟨s, hrun, (Prod.mk.inj hs).1, run_consistent true false ∅ reportedRun hrun hquiet⟩

end SatipClient.PSI
