import SatipClient.Config.Requested
import SatipClient.PSI.Safety

/-!
# The configuration never faults

The only operation of `satipConfig` that reads raw bytes is the parser's, so a run of the
configuration is as safe as the parser it holds.
-/

namespace SatipClient.Config

open PSI (SatipPSI AssemblersOk)

variable {s next : SatipConfig}

/-- The parser, if there is one, is in a state in which it does not fault. -/
def PsiOk (s : SatipConfig) : Prop := ∀ psi, s.psi = some psi → AssemblersOk psi

theorem psi_applyReports (reported : List (Finset ℕ)) (s : SatipConfig) :
    (applyReports reported s).psi = s.psi := by rw [applyReports_frame]

theorem psi_adopt (old new : SatipPSI) (s : SatipConfig) : (adopt old new s).psi = some new :=
  psi_applyReports _ _

theorem psiOk_adopt {new : SatipPSI} (h : AssemblersOk new) (old : SatipPSI) (s : SatipConfig) :
    PsiOk (adopt old new s) := by
  intro psi hpsi
  rw [psi_adopt] at hpsi
  obtain rfl := Option.some.inj hpsi
  exact h

theorem PsiOk.of_psi_eq (h : PsiOk s) (hpsi : next.psi = s.psi) : PsiOk next := by
  intro psi hnext
  exact h psi (hpsi ▸ hnext)

theorem exists_stepPsi (op : PSI.Op) (h : PsiOk s) :
    ∃ next, stepPsi op s = some next ∧ PsiOk next := by
  unfold stepPsi
  cases hpsi : s.psi with
  | none => exact ⟨s, rfl, h⟩
  | some psi =>
    obtain ⟨new, hnew, hok⟩ := PSI.exists_step op (h psi hpsi)
    exact ⟨adopt psi new s, by simp [hnew], psiOk_adopt hok psi s⟩

theorem PsiOk.resetPsi (h : PsiOk s) : PsiOk (resetPsi s) := by
  unfold Config.resetPsi
  cases s.psi with
  | none => exact h
  | some psi => exact psiOk_adopt (PSI.assemblersOk_reset psi) psi s

theorem PsiOk.notifyPidList (h : PsiOk s) : PsiOk (notifyPidList s) := by
  unfold Config.notifyPidList
  cases hpsi : s.psi with
  | none => exact h
  | some psi => exact psiOk_adopt ((h psi hpsi).setJoinedPids _) psi s

theorem psi_takeTuning (s : SatipConfig) : (takeTuning s).psi = s.psi := by rw [takeTuning_frame]

theorem psi_startPlay (s : SatipConfig) : (startPlay s).psi = s.psi := by
  unfold startPlay
  split
  · exact psi_takeTuning s
  · rfl

/-- Every operation succeeds and leaves the parser in such a state. -/
theorem exists_step (op : Op) (h : PsiOk s) : ∃ next, step s op = some next ∧ PsiOk next := by
  cases op with
  | psi op => exact exists_stepPsi op h
  | updatePidList new =>
    refine ⟨_, rfl, PsiOk.notifyPidList ?_⟩
    exact h.of_psi_eq rfl
  | clearProperty =>
    refine ⟨_, rfl, PsiOk.resetPsi ?_⟩
    exact h.of_psi_eq rfl
  | setCaPids pids =>
    refine ⟨_, rfl, h.of_psi_eq ?_⟩
    unfold setCaPids
    split <;> rfl
  | setVoltage voltage =>
    refine ⟨_, rfl, h.of_psi_eq ?_⟩
    unfold setVoltage
    split_ifs <;> rfl
  | setParam param =>
    refine ⟨_, rfl, h.of_psi_eq ?_⟩
    cases param <;> rfl
  | setChannelChanged => exact ⟨_, rfl, h.of_psi_eq rfl⟩
  | setChannelRetry => exact ⟨_, rfl, h.of_psi_eq rfl⟩
  | clearChannelChanged =>
    refine ⟨_, rfl, h.of_psi_eq ?_⟩
    unfold clearChannelChanged
    split <;> rfl
  | getSetupData =>
    refine ⟨_, rfl, h.of_psi_eq ?_⟩
    exact psi_takeTuning s
  | getPlayData =>
    refine ⟨_, rfl, h.of_psi_eq ?_⟩
    rw [snd_getPlayData]
    split
    · exact psi_startPlay s
    · exact psi_startPlay s

theorem psiOk_construct (feType : ℤ) (settings : Settings) :
    PsiOk (construct feType settings) := by
  have hclear : PsiOk (clearProperty { feType := feType, settings := settings }) := by
    apply PsiOk.resetPsi
    intro psi hpsi
    cases hpsi
  unfold construct
  dsimp only
  split_ifs
  · intro psi hpsi
    rw [psi_applyReports] at hpsi
    obtain rfl := Option.some.inj hpsi
    exact PSI.assemblersOk_construct _ _ _
  · exact hclear

theorem Reachable.psiOk (h : Reachable s) : PsiOk s := by
  obtain ⟨feType, settings, hreach⟩ := h
  exact hreach.invariant_of_exists (fun _ op ↦ exists_step op) (psiOk_construct feType settings)

/-- The settings are those that the configuration was built with. -/
theorem settings_step {op : Op} (h : step s op = some next) : next.settings = s.settings := by
  cases op with
  | psi op => obtain ⟨psi, caPids, rfl | rfl⟩ := stepPsi_cases h <;> rfl
  | updatePidList new =>
    obtain rfl := Option.some.inj h
    unfold updatePidList
    obtain ⟨psi, caPids, heq | heq⟩ := notifyPidList_cases (updatePidStatus
      { s with pidList := updateSlots (new.map UInt16.toNat) s.pidList }) <;>
    · rw [heq]
      rfl
  | clearProperty =>
    obtain rfl := Option.some.inj h
    unfold clearProperty
    obtain ⟨psi, caPids, heq | heq⟩ := resetPsi_cases (clearParams s) <;>
    · rw [heq]
      rfl
  | setCaPids pids =>
    obtain rfl := Option.some.inj h
    unfold setCaPids
    split <;> rfl
  | setVoltage voltage =>
    obtain rfl := Option.some.inj h
    unfold setVoltage
    split_ifs <;> rfl
  | setParam param =>
    obtain rfl := Option.some.inj h
    cases param <;> rfl
  | setChannelChanged | setChannelRetry =>
    obtain rfl := Option.some.inj h
    rfl
  | clearChannelChanged =>
    obtain rfl := Option.some.inj h
    unfold clearChannelChanged
    split <;> rfl
  | getSetupData =>
    obtain rfl := Option.some.inj h
    rw [snd_getSetupData, takeTuning_frame]
    rfl
  | getPlayData =>
    obtain rfl := Option.some.inj h
    have hstart : (startPlay s).settings = s.settings := by
      unfold startPlay
      rw [takeTuning_frame]
      split <;> rfl
    rw [snd_getPlayData]
    split
    · exact hstart
    · exact hstart

theorem settings_of_reachable (h : Runs.Reachable step s next) : next.settings = s.settings := by
  obtain ⟨ops, hrun⟩ := h
  induction ops generalizing s with
  | nil =>
    obtain rfl := Option.some.inj hrun
    rfl
  | cons op ops ih =>
    rw [Runs.run_cons, Option.bind_eq_some_iff] at hrun
    obtain ⟨mid, hmid, hrest⟩ := hrun
    exact (ih hrest).trans (settings_step hmid)

theorem settings_construct (feType : ℤ) (settings : Settings) :
    (construct feType settings).settings = settings := by
  have hstep : step { feType := feType, settings := settings } .clearProperty =
      some (clearProperty { feType := feType, settings := settings }) := rfl
  have hcleared : (clearProperty { feType := feType, settings := settings }).settings = settings :=
    settings_step hstep
  unfold construct
  dsimp only
  split_ifs
  · rw [applyReports_frame]
    exact hcleared
  · exact hcleared

/-- No run of the operations of the configuration faults. -/
theorem run_safe (feType : ℤ) (settings : Settings) (ops : List Op) :
    ∃ s, Runs.run step (construct feType settings) ops = some s := by
  obtain ⟨s, hrun, _⟩ := Runs.run_total (fun _ op ↦ exists_step op)
    (psiOk_construct feType settings) ops
  exact ⟨s, hrun⟩

end SatipClient.Config
