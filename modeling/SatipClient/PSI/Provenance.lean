import Mathlib.Data.List.DropRight
import SatipClient.PSI.Forgetting
import SatipClient.PSI.Representation

/-!
# Where requested pids come from

Every pid of the derived set was announced by a section that the parser was handed (`Sourced`).
Together with what a reset forgets, and with scrambled packets making no difference, the sections
are those of the packets since the last reset that are not scrambled (`run_provenance`).
-/

namespace SatipClient.PSI

open Checked
open Tables (IsTable ListsPmtPid NamesEmmPid NamesEcmPid Learned Announces)

/-- A PAT section named this PMT pid for a program. -/
def AnnouncedPmt (received : List (ℕ × List UInt8)) (pid : ℕ) : Prop :=
  ∃ sec, (psiPidPat, sec) ∈ received ∧ IsTable sec 0x00 ∧ ListsPmtPid sec pid

/-- A CA descriptor of a CAT section named this pid. -/
def AnnouncedEmm (caidFilter : Finset ℕ) (received : List (ℕ × List UInt8)) (pid : ℕ) : Prop :=
  ∃ sec, (psiPidCat, sec) ∈ received ∧ IsTable sec 0x01 ∧ NamesEmmPid caidFilter sec pid

/-- A CA descriptor of a PMT section named this pid. -/
def AnnouncedEcm (caidFilter : Finset ℕ) (received : List (ℕ × List UInt8)) (pid : ℕ) : Prop :=
  ∃ pmtPid sec, (pmtPid, sec) ∈ received ∧ pmtPid ≠ psiPidPat ∧ pmtPid ≠ psiPidCat ∧
    IsTable sec 0x02 ∧ NamesEcmPid caidFilter sec pid

/-- There is a reason in these sections to request the pid. -/
def Sourced (emmEnabled : Bool) (caidFilter : Finset ℕ) (received : List (ℕ × List UInt8))
    (pid : ℕ) : Prop :=
  pid = psiPidPat ∨ (pid = psiPidCat ∧ emmEnabled = true) ∨ AnnouncedPmt received pid ∨
    (emmEnabled = true ∧ AnnouncedEmm caidFilter received pid) ∨
    AnnouncedEcm caidFilter received pid

section Mono

variable {received more : List (ℕ × List UInt8)} (hmore : received ⊆ more) {pid : ℕ}

include hmore

theorem AnnouncedPmt.mono (h : AnnouncedPmt received pid) : AnnouncedPmt more pid := by
  obtain ⟨sec, hsec, hlists⟩ := h
  exact ⟨sec, hmore hsec, hlists⟩

theorem AnnouncedEmm.mono {caidFilter : Finset ℕ} (h : AnnouncedEmm caidFilter received pid) :
    AnnouncedEmm caidFilter more pid := by
  obtain ⟨sec, hsec, hnames⟩ := h
  exact ⟨sec, hmore hsec, hnames⟩

theorem AnnouncedEcm.mono {caidFilter : Finset ℕ} (h : AnnouncedEcm caidFilter received pid) :
    AnnouncedEcm caidFilter more pid := by
  obtain ⟨pmtPid, sec, hsec, hnames⟩ := h
  exact ⟨pmtPid, sec, hmore hsec, hnames⟩

theorem Sourced.mono {emmEnabled : Bool} {caidFilter : Finset ℕ}
    (h : Sourced emmEnabled caidFilter received pid) : Sourced emmEnabled caidFilter more pid := by
  rcases h with hpat | hcat | hpmt | ⟨hemm, hannounced⟩ | hecm
  · exact Or.inl hpat
  · exact Or.inr (Or.inl hcat)
  · exact Or.inr (Or.inr (Or.inl (hpmt.mono hmore)))
  · exact Or.inr (Or.inr (Or.inr (Or.inl ⟨hemm, hannounced.mono hmore⟩)))
  · exact Or.inr (Or.inr (Or.inr (Or.inr (hecm.mono hmore))))

end Mono

/-- The tables have learned nothing but what these sections announced. -/
def Tables.LearnedFrom (received : List (ℕ × List UInt8)) (t : Tables) : Prop :=
  t.Learned (AnnouncedPmt received) (AnnouncedEmm t.caidFilter received)
    (AnnouncedEcm t.caidFilter received) fun _ ↦ True

/-- What `recompute` derives from such tables has a reason. -/
theorem Tables.LearnedFrom.sourced {received : List (ℕ × List UInt8)} {t : Tables}
    (h : t.LearnedFrom received) (hok : t.Ok) {pid : ℕ} (hpid : pid ∈ t.caPids) :
    Sourced t.emmEnabled t.caidFilter received pid := by
  have hwanted : pid ∈ t.wantedPids := truncatePids_subset t.wantedPids hpid
  rw [Tables.wantedPids, Finset.mem_union, Finset.mem_insert, Finset.mem_biUnion] at hwanted
  rcases hwanted with (rfl | hemm) | ⟨pmtPid, hactive, hservice⟩
  · exact Or.inl rfl
  · split at hemm
    case isFalse => simp at hemm
    case isTrue henabled =>
      rcases Finset.mem_insert.mp hemm with rfl | hemm
      · exact Or.inr (Or.inl ⟨rfl, henabled⟩)
      · rw [hok.emmPids, mem_sectionUnion_iff hok.catNumber] at hemm
        obtain ⟨number, pids, hstored, hmem⟩ := hemm
        exact Or.inr (Or.inr (Or.inr (Or.inl ⟨henabled, h.emm number pids hstored pid hmem⟩)))
  · rw [Tables.servicePids, Finset.mem_insert] at hservice
    rcases hservice with rfl | hecm
    · have hlisted := (Finset.mem_filter.mp hactive).1
      rw [hok.patPmtPids, mem_sectionUnion_iff hok.patNumber] at hlisted
      obtain ⟨number, pids, hstored, hmem⟩ := hlisted
      exact Or.inr (Or.inr (Or.inl (h.pmt number pids hstored pid hmem)))
    · cases hinfo : t.pmt pmtPid with
      | none => simp [hinfo] at hecm
      | some info =>
        rw [hinfo] at hecm
        exact Or.inr (Or.inr (Or.inr (Or.inr (h.ecm pmtPid info hinfo pid hecm))))

/-- A section that is handed over announces what is learned from it. -/
theorem Tables.LearnedFrom.handleSection {received : List (ℕ × List UInt8)} {t t' : Tables}
    {pid : ℕ} {sec : List UInt8} (h : t.LearnedFrom received) (hsec : 12 ≤ sec.length)
    (hhandle : Tables.handleSection pid sec t = some t') :
    t'.LearnedFrom (received ++ [(pid, sec)]) := by
  have hmore : received ⊆ received ++ [(pid, sec)] := List.subset_append_left _ _
  have hlast : (pid, sec) ∈ received ++ [(pid, sec)] := by simp
  have hannounces : Announces (AnnouncedPmt (received ++ [(pid, sec)]))
      (AnnouncedEmm t.caidFilter (received ++ [(pid, sec)]))
      (AnnouncedEcm t.caidFilter (received ++ [(pid, sec)])) (fun _ ↦ True) t.caidFilter pid
      sec := by
    refine ⟨?_, ?_, ?_, fun _ _ _ _ _ _ ↦ trivial⟩
    · rintro rfl htable listed - hlists
      exact ⟨sec, hlast, htable, hlists⟩
    · rintro rfl htable named - hnames
      exact ⟨sec, hlast, htable, hnames⟩
    · intro hpat hcat htable named _ hnames
      exact ⟨pid, sec, hlast, hpat, hcat, htable, hnames⟩
  have hgrown : t.Learned (AnnouncedPmt (received ++ [(pid, sec)]))
      (AnnouncedEmm t.caidFilter (received ++ [(pid, sec)]))
      (AnnouncedEcm t.caidFilter (received ++ [(pid, sec)])) fun _ ↦ True :=
    h.mono (fun _ ↦ AnnouncedPmt.mono hmore) (fun _ ↦ AnnouncedEmm.mono hmore)
      (fun _ ↦ AnnouncedEcm.mono hmore) fun _ ↦ id
  unfold Tables.LearnedFrom
  rw [(Tables.handleSection_settings hhandle).2.1]
  exact hgrown.handleSection hsec hannounces hhandle

/-- What the parser knows and what it requests was announced to it. -/
structure Provenance (s : SatipPSI) : Prop where
  settled : Settled s
  learned : s.tables.LearnedFrom (handed s.trace)
  derived : ∀ pid ∈ s.derivedPids,
    Sourced s.tables.emmEnabled s.tables.caidFilter (handed s.trace) pid

variable {s next : SatipPSI} {pid : ℕ}

theorem provenance_recompute (hdirty : s.tables.dirty = false) (hok : s.tables.Ok)
    (hlearned : s.tables.LearnedFrom (handed s.trace)) : Provenance (recompute s) where
  settled := settled_recompute hdirty hok
  learned := by
    rw [recompute_tables, handed_recompute]
    exact hlearned
  derived pid hpid := by
    rw [recompute_derivedPids] at hpid
    rw [recompute_tables, handed_recompute]
    exact hlearned.sourced hok hpid

theorem provenance_reset (s : SatipPSI) : Provenance (reset s) := by
  have hsettled := settled_reset s
  have hok := hsettled.tables
  rw [reset, recompute_tables] at hok
  apply provenance_recompute rfl hok
  refine ⟨?_, ?_, ?_, ?_⟩ <;> simp [clearState]

theorem Provenance.setJoinedPids (h : Provenance s) (pids : Finset ℕ) :
    Provenance (setJoinedPids pids s) := by
  unfold PSI.setJoinedPids
  split
  · exact provenance_recompute h.settled.dirty (h.settled.tables.of_flags _ _)
      ⟨h.learned.pmt, h.learned.emm, h.learned.ecm, h.learned.es⟩
  · exact h

theorem Provenance.packet (h : Provenance s) (hwatch : pid ∈ s.watchedPids)
    {secs : List (List UInt8)} (hsecs : ∀ sec ∈ secs, IsSection sec)
    (hall : handleAll pid secs s = some next) (data : List UInt8) :
    Provenance (settle (keepPending pid data next)) := by
  have hsettled := h.settled.packet hwatch hsecs hall data
  have hlearned : next.tables.LearnedFrom (handed next.trace) := by
    refine handleAll_rule_of_mem (motive := fun mid ↦ mid.tables.LearnedFrom (handed mid.trace))
      ?_ h.learned hall
    intro mid sec hsec after hmid hafter
    obtain ⟨tables, htables, rfl⟩ := exists_tables_of_handleSection hafter
    rw [handed_append]
    exact hmid.handleSection (hsecs sec hsec).2.1 htables
  have hfollows : Follows s next := by
    refine handleAll_rule (motive := Follows s) ?_ (Follows.refl s) hall
    intro mid sec after hmid hafter
    exact hmid.trans (follows_handleSection hafter)
  have hok : (settle (keepPending pid data next)).tables.Ok := hsettled.tables
  unfold settle at hsettled hok ⊢
  split
  case isTrue hdirty =>
    rw [if_pos hdirty, recompute_tables] at hok
    exact provenance_recompute rfl hok ⟨hlearned.pmt, hlearned.emm, hlearned.ecm, hlearned.es⟩
  case isFalse hclean =>
    rw [if_neg hclean] at hsettled
    refine ⟨hsettled, hlearned, fun found hfound ↦ ?_⟩
    have hkept : found ∈ s.derivedPids := by
      rw [handleAll_frame hall] at hfound
      exact hfound
    obtain ⟨more, hmore⟩ := hfollows.trace
    have hsubset : handed s.trace ⊆ handed next.trace := by
      rw [← hmore, handed_append]
      exact List.subset_append_left _ _
    have hsourced := (h.derived found hkept).mono hsubset
    rw [← hfollows.emmEnabled, ← hfollows.caidFilter] at hsourced
    exact hsourced

theorem Reachable.provenance (hs : Reachable s) : Provenance s := by
  refine hs.packet_invariant (motive := Provenance) ?_ ?_ ?_ ?_ ?_
  · intro hasCfg emmEnabled caidFilter
    exact provenance_reset _
  · intro s _
    exact provenance_reset s
  · intro s pids h
    exact h.setJoinedPids pids
  · intro s h
    exact ⟨h.settled.countPacket, h.learned, h.derived⟩
  · intro s pid secs data mid h hwatch hsecs hmid
    exact h.packet hwatch hsecs hmid data

/-! ## Since the last reset -/

def Op.isReset : Op → Bool
  | .reset => true
  | _ => false

/-- The operations behind the last reset, or all of them. -/
def sinceReset (ops : List Op) : List Op := ops.rtakeWhile fun op ↦ !op.isReset

/-- The `transport_scrambling_control` of a packet is not zero. -/
def isScrambled (p : List UInt8) : Bool :=
  (byteAt p 3).elim false fun b3 ↦ decide (b3 &&& 0xc0 ≠ 0)

/-- A scrambled packet is only counted. -/
theorem processPacket_scrambled {p : List UInt8} (s : SatipPSI) (hp : p.length = tsPacketSize)
    (h : isScrambled p = true) : processPacket p s = some (countPacket s) := by
  obtain ⟨pid, hpid⟩ := exists_packetPid hp
  obtain ⟨feeds, hfeeds⟩ := exists_packetFeeds hp
  have hnone : feeds = [] := by
    obtain ⟨b1, -, h1⟩ :=
      exists_byteAt (show 1 < p.length by simp only [tsPacketSize] at hp; omega)
    obtain ⟨b3, -, h3⟩ :=
      exists_byteAt (show 3 < p.length by simp only [tsPacketSize] at hp; omega)
    have hbits : b3 &&& 0xc0 ≠ 0 := by simpa [isScrambled, h3] using h
    have hstart : payloadStart p = some none := by
      simp [payloadStart, h3, hbits]
    simpa [packetFeeds, h1, hstart] using hfeeds.symm
  exact processPacket_skipped hp hpid hfeeds (Or.inr hnone)

/-- The run behind the last reset starts from a parser with the same settings. -/
theorem exists_reset_of_run {ops : List Op} (h : Runs.run step (reset s) ops = some next) :
    ∃ before, before.hasCfg = s.hasCfg ∧ before.tables.emmEnabled = s.tables.emmEnabled ∧
      before.tables.caidFilter = s.tables.caidFilter ∧
      Runs.run step (reset before) (sinceReset ops) = some next := by
  induction ops using List.reverseRecOn generalizing next with
  | nil => exact ⟨s, rfl, rfl, rfl, h⟩
  | append_singleton ops op ih =>
    obtain ⟨mid, hmid, hlast⟩ := (Runs.run_append_eq_some_iff step _ _ _ _).mp h
    have hnext : step mid op = some next := by simpa using hlast
    cases hop : op.isReset with
    | true =>
      obtain rfl : op = .reset := by cases op <;> simp_all [Op.isReset]
      obtain rfl := Option.some.inj hnext
      obtain ⟨hcfg, hemm, hfilter⟩ := settings_run (assemblersOk_reset s) hmid
      rw [hasCfg_reset] at hcfg
      rw [tables_reset] at hemm hfilter
      refine ⟨mid, hcfg, hemm, hfilter, ?_⟩
      rw [sinceReset, List.rtakeWhile_concat_neg _ _ _ (by simp [Op.isReset])]
      rfl
    | false =>
      obtain ⟨before, hcfg, hemm, hfilter, hrun⟩ := ih hmid
      refine ⟨before, hcfg, hemm, hfilter, ?_⟩
      rw [sinceReset, List.rtakeWhile_concat_pos _ _ _ (by simp [hop])]
      exact (Runs.run_append_eq_some_iff step _ _ _ _).mpr ⟨mid, hrun, hlast⟩

/-- A new parser that is given nothing but the packets since the last reset, and no scrambled ones,
derives the same set, and the sections it is handed announced every pid of it. -/
theorem run_provenance (hasCfg emmEnabled : Bool) (caidFilter : Finset ℕ) (ops : List Op) :
    ∃ s fresh, Runs.run step (construct hasCfg emmEnabled caidFilter) ops = some s ∧
      Runs.run step (construct hasCfg emmEnabled caidFilter)
        ((sinceReset ops).map (Op.filterPackets fun p ↦ !isScrambled p)) = some fresh ∧
      fresh.derivedPids = s.derivedPids ∧ handed fresh.trace <:+ handed s.trace ∧
      ∀ pid ∈ s.derivedPids, Sourced emmEnabled caidFilter (handed fresh.trace) pid := by
  obtain ⟨s, hrun, -⟩ := Runs.run_total (fun _ op ↦ exists_step op)
    (assemblersOk_construct hasCfg emmEnabled caidFilter) ops
  let new : SatipPSI :=
    { hasCfg := hasCfg, tables := { emmEnabled := emmEnabled, caidFilter := caidFilter } }
  have hnew : construct hasCfg emmEnabled caidFilter = reset new := rfl
  obtain ⟨before, hcfg, hemm, hfilter, hback⟩ := exists_reset_of_run (hnew ▸ hrun)
  have hreset : InStep before new (reset before) (reset new) :=
    InStep.reset hcfg.symm hemm.symm hfilter.symm
      ⟨[], (List.append_nil _).symm, (List.append_nil _).symm⟩
  have hdrop : ∀ p u, p.length = tsPacketSize → (!isScrambled p) = false →
      processPacket p u = some (countPacket u) := by
    intro p u hp hkeep
    exact processPacket_scrambled u hp (by simpa using hkeep)
  obtain ⟨fresh, hfresh, hinstep⟩ := hreset.run hdrop (assemblersOk_reset before) hback
  have hprovenance : Provenance fresh :=
    Reachable.provenance ⟨hasCfg, emmEnabled, caidFilter, _, hfresh⟩
  obtain ⟨-, hemmfresh, hfilterfresh⟩ :=
    settings_run (assemblersOk_construct hasCfg emmEnabled caidFilter) hfresh
  obtain ⟨received, hhanded, hhandedfresh⟩ := hinstep.handed
  refine ⟨s, fresh, hrun, hfresh, hinstep.alike.derivedPids, ?_, fun pid hpid ↦ ?_⟩
  · rw [hhanded, hhandedfresh]
    exact List.suffix_append _ _
  · have hsourced := hprovenance.derived pid (hinstep.alike.derivedPids ▸ hpid)
    rw [hemmfresh, hfilterfresh, hnew, tables_reset] at hsourced
    exact hsourced

end SatipClient.PSI
