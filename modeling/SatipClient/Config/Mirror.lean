import SatipClient.Config.Safety
import SatipClient.PSI.Forgetting

/-!
# What the configuration and its parser know of each other

Each side keeps a copy of a set that belongs to the other: the parser the joined pids, the
configuration the CA pids.  Both skip a notification when they believe that nothing has changed.
The copies agree in every run of calls that go through the configuration (`run_mirrored`): the
parser hears of every change of the active pids, and the CA pids are the last set it reported.
A reset of the parser leaves neither side anything of what was before (`reset_forgets`).
-/

namespace SatipClient.Config

open PSI (SatipPSI lastReport)

variable {s next : SatipConfig}

/-- The set in force after some reports is the last one. -/
theorem caPids_applyReports (reported : List (Finset ℕ)) (s : SatipConfig) :
    (applyReports reported s).caPids = reported.getLast?.getD s.caPids := by
  induction reported generalizing s with
  | nil => rfl
  | cons pids reported ih =>
    rw [applyReports_cons, ih, caPids_setCaPids, List.getLast?_cons, Option.getD_some]

/-- The parser tells what it reported since. -/
theorem lastReport_of_prefix {old new : SatipPSI} (h : old.trace <+: new.trace) :
    lastReport new.trace = (newReports old new).getLast?.getD (lastReport old.trace) := by
  obtain ⟨more, hmore⟩ := h
  have hreports : newReports old new = PSI.reports more := by
    rw [newReports, ← hmore, List.drop_left]
  rw [hreports, lastReport, lastReport, ← hmore, PSI.reports_append, List.getLast?_append]
  cases (PSI.reports more).getLast? <;> rfl

/-- The two copies agree with the sets they are copies of. -/
structure Mirrors (s : SatipConfig) (psi : SatipPSI) : Prop where
  psi_eq : s.psi = some psi
  reachable : PSI.Reachable psi
  hasCfg : psi.hasCfg = true
  joinedPids : psi.tables.joinedPids = collectActivePids s.pidList
  caPids : s.caPids = lastReport psi.trace

/-- The configuration takes over what an operation of the parser reports. -/
theorem mirrors_adopt {old new : SatipPSI} (hca : s.caPids = lastReport old.trace)
    (hnew : PSI.Reachable new) (hcfg : new.hasCfg = true) (htrace : old.trace <+: new.trace)
    (hjoined : new.tables.joinedPids = collectActivePids s.pidList) :
    Mirrors (adopt old new s) new where
  psi_eq := by
    rw [adopt, applyReports_frame]
  reachable := hnew
  hasCfg := hcfg
  joinedPids := by
    rw [adopt, pidList_applyReports]
    exact hjoined
  caPids := by
    rw [adopt, caPids_applyReports, lastReport_of_prefix htrace, ← hca]

/-- Nothing that is copied has changed. -/
theorem Mirrors.of_eq {psi : SatipPSI} (h : Mirrors s psi) (hpsi : next.psi = s.psi)
    (hpids : collectActivePids next.pidList = collectActivePids s.pidList)
    (hca : next.caPids = s.caPids) : Mirrors next psi where
  psi_eq := hpsi.trans h.psi_eq
  reachable := h.reachable
  hasCfg := h.hasCfg
  joinedPids := h.joinedPids.trans hpids.symm
  caPids := hca.trans h.caPids

/-- The two copies agree. -/
def Mirrored (s : SatipConfig) : Prop := ∃ psi, Mirrors s psi

theorem Mirrored.of_eq (h : Mirrored s) (hpsi : next.psi = s.psi)
    (hpids : collectActivePids next.pidList = collectActivePids s.pidList)
    (hca : next.caPids = s.caPids) : Mirrored next := by
  obtain ⟨psi, hmirrors⟩ := h
  exact ⟨psi, hmirrors.of_eq hpsi hpids hca⟩

/-- The calls from outside: the parser is reset and told the joined pids by the configuration, and
the configuration is told the CA pids by the parser. -/
def Op.FromOutside : Op → Prop
  | .setCaPids _ => False
  | .psi .reset => False
  | .psi (.setJoinedPids _) => False
  | _ => True

theorem Mirrored.updatePidList (h : Mirrored s) (new : List UInt16) :
    Mirrored (updatePidList new s) := by
  obtain ⟨psi, hmirrors⟩ := h
  set updated := updatePidStatus
    { s with pidList := updateSlots (new.map UInt16.toNat) s.pidList } with hupdated
  have hpsi : updated.psi = some psi := hmirrors.psi_eq
  have hnotify : Config.updatePidList new s =
      adopt psi (PSI.setJoinedPids (collectActivePids updated.pidList) psi) updated := by
    rw [Config.updatePidList, ← hupdated, notifyPidList, hpsi]
  rw [hnotify]
  refine ⟨_, mirrors_adopt hmirrors.caPids ?_ ?_ (PSI.prefix_setJoinedPids _ psi) ?_⟩
  · exact hmirrors.reachable.step (.setJoinedPids _) rfl
  · rw [PSI.hasCfg_setJoinedPids]
    exact hmirrors.hasCfg
  · rw [PSI.tables_setJoinedPids]

theorem Mirrored.clearProperty (h : Mirrored s) : Mirrored (clearProperty s) := by
  obtain ⟨psi, hmirrors⟩ := h
  have hpsi : (clearParams s).psi = some psi := hmirrors.psi_eq
  have hreset : Config.clearProperty s = adopt psi (PSI.reset psi) (clearParams s) := by
    rw [Config.clearProperty, resetPsi, hpsi]
  rw [hreset]
  refine ⟨_, mirrors_adopt hmirrors.caPids ?_ ?_ (PSI.prefix_reset psi) ?_⟩
  · exact hmirrors.reachable.step .reset rfl
  · rw [PSI.hasCfg_reset]
    exact hmirrors.hasCfg
  · rw [PSI.tables_reset]
    exact (collectActivePids_clearPidList s.pidList).symm

theorem Mirrored.processTS (h : Mirrored s) {data : List UInt8}
    (hnext : stepPsi (.processTS data) s = some next) : Mirrored next := by
  obtain ⟨psi, hmirrors⟩ := h
  unfold stepPsi at hnext
  rw [hmirrors.psi_eq] at hnext
  obtain ⟨new, hnew, rfl⟩ := Option.map_eq_some_iff.mp hnext
  have hfollows := PSI.follows_processTS hmirrors.reachable.assemblersOk hnew
  refine ⟨new, mirrors_adopt hmirrors.caPids ?_ ?_ hfollows.trace ?_⟩
  · exact hmirrors.reachable.step (.processTS data) hnew
  · exact hfollows.hasCfg.trans hmirrors.hasCfg
  · exact hfollows.joinedPids.trans hmirrors.joinedPids

theorem Mirrored.commitPids (h : Mirrored s) : Mirrored (commitPids s) :=
  h.of_eq rfl (collectActivePids_commitPidStates s.pidList) rfl

theorem Mirrored.startPlay (h : Mirrored s) : Mirrored (startPlay s) := by
  unfold Config.startPlay
  rw [takeTuning_frame]
  split
  · exact h.of_eq rfl rfl rfl
  · exact h

theorem step_mirrored {op : Op} (h : Mirrored s) (hop : op.FromOutside)
    (hnext : step s op = some next) : Mirrored next := by
  cases op with
  | updatePidList new =>
    obtain rfl := Option.some.inj hnext
    exact h.updatePidList new
  | setCaPids pids => exact hop.elim
  | psi op =>
    cases op with
    | reset => exact hop.elim
    | setJoinedPids pids => exact hop.elim
    | processTS data => exact h.processTS hnext
  | clearProperty =>
    obtain rfl := Option.some.inj hnext
    exact h.clearProperty
  | setVoltage voltage =>
    obtain rfl := Option.some.inj hnext
    unfold setVoltage
    split_ifs <;> exact h.of_eq rfl rfl rfl
  | setParam param =>
    obtain rfl := Option.some.inj hnext
    cases param <;> exact h.of_eq rfl rfl rfl
  | setChannelChanged | setChannelRetry =>
    obtain rfl := Option.some.inj hnext
    exact h.of_eq rfl rfl rfl
  | clearChannelChanged =>
    obtain rfl := Option.some.inj hnext
    unfold clearChannelChanged
    split
    · exact h.of_eq rfl rfl rfl
    · exact h
  | getSetupData =>
    obtain rfl := Option.some.inj hnext
    rw [snd_getSetupData, takeTuning_frame]
    apply Mirrored.commitPids
    exact h.of_eq rfl rfl rfl
  | getPlayData =>
    obtain rfl := Option.some.inj hnext
    rw [snd_getPlayData]
    split
    · exact h.startPlay.commitPids
    · exact h.startPlay

/-- The parser reports its first set when it is built. -/
theorem mirrored_construct (feType : ℤ) {settings : Settings} (hca : settings.caPids = true) :
    Mirrored (construct feType settings) := by
  let psi := PSI.construct true settings.caEmm settings.caCaids
  have hbuilt : construct feType settings = applyReports (PSI.reports psi.trace)
      { clearParams { feType := feType, settings := settings } with psi := some psi } := if_pos hca
  rw [hbuilt]
  refine ⟨psi, ?_, ?_, ?_, ?_, ?_⟩
  · rw [applyReports_frame]
  · exact ⟨true, settings.caEmm, settings.caCaids, Runs.Reachable.refl PSI.step _⟩
  · exact PSI.hasCfg_reset _
  · rw [pidList_applyReports]
    calc
      psi.tables.joinedPids = ∅ := by rw [show psi = PSI.reset _ from rfl, PSI.tables_reset]
      _ = _ := (collectActivePids_clearPidList _).symm
  · exact caPids_applyReports _ _

/-- With the CA pids enabled, the parser knows the active pids and the configuration the derived
set, whatever calls were made. -/
theorem run_mirrored (feType : ℤ) (settings : Settings) (hca : settings.caPids = true)
    (ops : List Op) (hops : ∀ op ∈ ops, op.FromOutside) :
    ∃ s psi, Runs.run step (construct feType settings) ops = some s ∧ s.psi = some psi ∧
      psi.tables.joinedPids = collectActivePids s.pidList ∧ s.caPids = psi.derivedPids := by
  obtain ⟨s, hrun, -⟩ := Runs.run_total (fun _ op ↦ exists_step op)
    (psiOk_construct feType settings) ops
  have houtside : Runs.EachStep step (fun _ op ↦ op.FromOutside) (construct feType settings) ops :=
    Runs.eachStep_of_forall_mem step (fun op hop _ ↦ hops op hop) _
  obtain ⟨psi, hmirrors⟩ := Runs.run_invariant (fun _ _ _ hs hop hnext ↦ step_mirrored hs hop hnext)
    (mirrored_construct feType hca) houtside hrun
  refine ⟨s, psi, hrun, hmirrors.psi_eq, hmirrors.joinedPids, ?_⟩
  calc
    s.caPids = lastReport psi.trace := hmirrors.caPids
    _ = psi.derivedPids := hmirrors.reachable.reported hmirrors.hasCfg

/-- A service is joined, its tables arrive, it is requested, and the tuner is tuned away. -/
def mirroredRun : List Op :=
  [.updatePidList [101], .psi (.processTS (PSI.packetOf 0 PSI.patSection)),
    .psi (.processTS (PSI.packetOf 100 PSI.scrambledPmtSection)), .getPlayData, .clearProperty,
    .getSetupData]

theorem run_mirrored_mirroredRun :
    ∃ s psi, Runs.run step (construct 0 { caPids := true }) mirroredRun = some s ∧
      s.psi = some psi ∧ psi.tables.joinedPids = collectActivePids s.pidList ∧
      s.caPids = psi.derivedPids := by
  have houtside : ∀ op ∈ mirroredRun, op.FromOutside := by
    simp [mirroredRun, Op.FromOutside]
  exact run_mirrored 0 { caPids := true } rfl mirroredRun houtside

/-! ## After a reset -/

/-- What a configuration holds after all reports of a parser is settled by what the parser now
derives, and by whether it reports at all. -/
theorem caPids_of_reports {psi : SatipPSI} (hpsi : PSI.Reachable psi) {s : SatipConfig}
    (hs : s.caPids = ∅) : (applyReports (PSI.reports psi.trace) s).caPids =
      if psi.hasCfg then psi.derivedPids else ∅ := by
  rw [caPids_applyReports, hs]
  cases hcfg : psi.hasCfg with
  | false =>
    rw [hpsi.reports_eq_nil hcfg]
    rfl
  | true => exact hpsi.reported hcfg

/-- The same calls after a reset of two parsers with the same settings give the same tables, the
same derived set and, at the configurations that were told all reports, the same CA pids. -/
theorem reset_forgets {first second : SatipPSI} (hfirst : PSI.Reachable first)
    (hsecond : PSI.Reachable second) (hcfg : second.hasCfg = first.hasCfg)
    (hemm : second.tables.emmEnabled = first.tables.emmEnabled)
    (hfilter : second.tables.caidFilter = first.tables.caidFilter)
    {cfg cfg' : SatipConfig} (hempty : cfg.caPids = ∅) (hempty' : cfg'.caPids = ∅)
    (ops : List PSI.Op) :
    ∃ s s', Runs.run PSI.step (PSI.reset first) ops = some s ∧
      Runs.run PSI.step (PSI.reset second) ops = some s' ∧
      s'.watchedPids = s.watchedPids ∧ s'.tables.pmt = s.tables.pmt ∧
      s'.tables.patSections = s.tables.patSections ∧
      s'.tables.catSections = s.tables.catSections ∧ s'.tables.emmPids = s.tables.emmPids ∧
      s'.tables.patPmtPids = s.tables.patPmtPids ∧ s'.assembler = s.assembler ∧
      s'.derivedPids = s.derivedPids ∧
      (applyReports (PSI.reports s'.trace) cfg').caPids =
        (applyReports (PSI.reports s.trace) cfg).caPids := by
  obtain ⟨s, s', hrun, hrun', hinstep⟩ := PSI.exists_run_of_reset hcfg hemm hfilter ops
  obtain ⟨sections, crcErrors, htables⟩ := hinstep.alike.tables
  have hreach : PSI.Reachable s := (hfirst.step .reset rfl).run hrun
  have hreach' : PSI.Reachable s' := (hsecond.step .reset rfl).run hrun'
  refine ⟨s, s', hrun, hrun', hinstep.alike.watchedPids, ?pmt, ?patSections, ?catSections, ?emmPids,
    ?patPmtPids, hinstep.alike.assembler, hinstep.alike.derivedPids, ?_⟩
  case pmt | patSections | catSections | emmPids | patPmtPids =>
    rw [htables]
    rfl
  calc
    (applyReports (PSI.reports s'.trace) cfg').caPids =
        if s'.hasCfg then s'.derivedPids else ∅ := caPids_of_reports hreach' hempty'
    _ = if s.hasCfg then s.derivedPids else ∅ := by
      rw [hinstep.alike.hasCfg, hinstep.alike.derivedPids]
    _ = (applyReports (PSI.reports s.trace) cfg).caPids := (caPids_of_reports hreach hempty).symm

/-- A service is joined and its PAT has arrived. -/
def serviceOps : List PSI.Op :=
  [.setJoinedPids {101}, .processTS (PSI.packetOf 0 PSI.patSection)]

/-- One parser has seen a service, the other is new. -/
theorem reset_forgets_serviceOps : ∃ first s s',
    Runs.run PSI.step (PSI.construct true false ∅) serviceOps = some first ∧
      Runs.run PSI.step (PSI.reset first) serviceOps = some s ∧
      Runs.run PSI.step (PSI.reset (PSI.construct true false ∅)) serviceOps = some s' ∧
      s'.watchedPids = s.watchedPids ∧ s'.derivedPids = s.derivedPids ∧
      (applyReports (PSI.reports s'.trace) (construct 0 {})).caPids =
        (applyReports (PSI.reports s.trace) (construct 0 {})).caPids := by
  have hnew : PSI.Reachable (PSI.construct true false ∅) :=
    ⟨true, false, ∅, Runs.Reachable.refl PSI.step _⟩
  obtain ⟨first, hrun, -⟩ :=
    Runs.run_total (fun _ op ↦ PSI.exists_step op) hnew.assemblersOk serviceOps
  have hsettings : (Runs.run PSI.step (PSI.construct true false ∅) serviceOps).map (fun s ↦
      decide (s.hasCfg = true ∧ s.tables.emmEnabled = false ∧ s.tables.caidFilter = ∅)) =
        some true := by decide +kernel
  rw [hrun] at hsettings
  obtain ⟨hcfg, hemm, hfilter⟩ := of_decide_eq_true (Option.some.inj hsettings)
  have hempty : (construct 0 {}).caPids = ∅ := rfl
  obtain ⟨s, s', hs, hs', hwatched, -, -, -, -, -, -, hderived, hca⟩ :=
    reset_forgets (hnew.run hrun) hnew hcfg.symm hemm.symm hfilter.symm hempty hempty serviceOps
  exact ⟨first, s, s', hrun, hs, hs', hwatched, hderived, hca⟩

end SatipClient.Config
