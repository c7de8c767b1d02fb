import SatipClient.Config.State

/-!
# What the configuration requests

Two results over runs of the configuration.  `updatePidList_eq_iff` says when the active pids
are exactly those of the last kernel list.  `run_requested` says that no pid change goes
unrequested: unless a change is pending, the pids requested from the server are the active pids
and the CA pids.  The invariant behind it compares the requested pids with the committed ones,
which only a request moves (`Synced`).  Two places break it: `clearProperty` forgets what was
requested while the CA pids stay, and a PLAY with tuning parameters forgets it without
requesting anything when no pid change is pending.
-/

namespace SatipClient.Config

open PSI (SatipPSI)

variable {s next : SatipConfig}

/-! ## Reports of the parser -/

@[simp]
theorem applyReports_nil (s : SatipConfig) : applyReports [] s = s := rfl

@[simp]
theorem applyReports_cons (pids : Finset ℕ) (reported : List (Finset ℕ)) (s : SatipConfig) :
    applyReports (pids :: reported) s = applyReports reported (setCaPids pids s) := rfl

theorem setCaPids_of_ne {pids : Finset ℕ} (h : pids ≠ s.caPids) :
    setCaPids pids s = { s with caPids := pids, caDirty := true } := if_pos h

theorem setCaPids_of_eq {pids : Finset ℕ} (h : pids = s.caPids) : setCaPids pids s = s :=
  if_neg (not_not.mpr h)

theorem caPids_setCaPids (pids : Finset ℕ) (s : SatipConfig) :
    (setCaPids pids s).caPids = pids := by
  by_cases hpids : pids = s.caPids
  · rw [setCaPids_of_eq hpids, hpids]
  · rw [setCaPids_of_ne hpids]

/-- Reports change the CA pids and mark the change; nothing else. -/
theorem applyReports_frame (reported : List (Finset ℕ)) (s : SatipConfig) :
    applyReports reported s =
      { s with
        caPids := (applyReports reported s).caPids
        caDirty := (applyReports reported s).caDirty } := by
  induction reported generalizing s with
  | nil => rfl
  | cons pids reported ih =>
    rw [applyReports_cons]
    by_cases hpids : pids = s.caPids
    · rw [setCaPids_of_eq hpids]
      exact ih s
    · rw [setCaPids_of_ne hpids]
      exact ih { s with caPids := pids, caDirty := true }

@[simp]
theorem pidList_applyReports (reported : List (Finset ℕ)) (s : SatipConfig) :
    (applyReports reported s).pidList = s.pidList := by rw [applyReports_frame]

@[simp]
theorem status_applyReports (reported : List (Finset ℕ)) (s : SatipConfig) :
    (applyReports reported s).status = s.status := by rw [applyReports_frame]

@[simp]
theorem pidStatus_applyReports (reported : List (Finset ℕ)) (s : SatipConfig) :
    (applyReports reported s).pidStatus = s.pidStatus := by rw [applyReports_frame]

/-- A change that was marked stays marked. -/
theorem caDirty_applyReports (reported : List (Finset ℕ)) {s : SatipConfig}
    (h : s.caDirty = true) : (applyReports reported s).caDirty = true := by
  induction reported generalizing s with
  | nil => exact h
  | cons pids reported ih =>
    rw [applyReports_cons]
    by_cases hpids : pids = s.caPids
    · rw [setCaPids_of_eq hpids]
      exact ih h
    · rw [setCaPids_of_ne hpids]
      exact ih rfl

/-- The CA pids change only when the change is marked. -/
theorem applyReports_marks (reported : List (Finset ℕ)) (s : SatipConfig) :
    (applyReports reported s).caDirty = true ∨ applyReports reported s = s := by
  induction reported with
  | nil => exact Or.inr rfl
  | cons pids reported ih =>
    rw [applyReports_cons]
    by_cases hpids : pids = s.caPids
    · rw [setCaPids_of_eq hpids]
      exact ih
    · rw [setCaPids_of_ne hpids]
      exact Or.inl (caDirty_applyReports reported rfl)

/-- A report of another set is marked. -/
theorem caDirty_applyReports_of_mem {reported : List (Finset ℕ)} {pids : Finset ℕ}
    (hmem : pids ∈ reported) (hpids : pids ≠ s.caPids) :
    (applyReports reported s).caDirty = true := by
  induction reported with
  | nil => cases hmem
  | cons first reported ih =>
    rw [applyReports_cons]
    by_cases hfirst : first = s.caPids
    · rw [setCaPids_of_eq hfirst]
      rcases List.mem_cons.mp hmem with rfl | hrest
      · exact absurd hfirst hpids
      · exact ih hrest
    · rw [setCaPids_of_ne hfirst]
      exact caDirty_applyReports reported rfl

/-- What an operation of the parser does to the configuration: apart from the parser itself only
the CA pids change, and when they do it is marked. -/
theorem adopt_cases (old new : SatipPSI) (s : SatipConfig) :
    adopt old new s =
        { s with psi := some new, caPids := (adopt old new s).caPids, caDirty := true } ∨
      adopt old new s = { s with psi := some new } := by
  rcases applyReports_marks (newReports old new) { s with psi := some new } with hdirty | hsame
  · left
    have hframe := applyReports_frame (newReports old new) { s with psi := some new }
    rw [hdirty] at hframe
    exact hframe
  · exact Or.inr hsame

/-- The same for the operations that the configuration itself calls. -/
theorem notifyPidList_cases (s : SatipConfig) :
    ∃ psi caPids, notifyPidList s = { s with psi := psi, caPids := caPids, caDirty := true } ∨
      notifyPidList s = { s with psi := psi } := by
  unfold notifyPidList
  cases hpsi : s.psi with
  | none => exact ⟨s.psi, ∅, Or.inr rfl⟩
  | some psi => exact ⟨_, _, adopt_cases psi _ s⟩

theorem resetPsi_cases (s : SatipConfig) :
    ∃ psi caPids, resetPsi s = { s with psi := psi, caPids := caPids, caDirty := true } ∨
      resetPsi s = { s with psi := psi } := by
  unfold resetPsi
  cases hpsi : s.psi with
  | none => exact ⟨s.psi, ∅, Or.inr rfl⟩
  | some psi => exact ⟨_, _, adopt_cases psi _ s⟩

theorem stepPsi_cases {op : PSI.Op} (h : stepPsi op s = some next) :
    ∃ psi caPids, next = { s with psi := psi, caPids := caPids, caDirty := true } ∨
      next = { s with psi := psi } := by
  unfold stepPsi at h
  cases hpsi : s.psi with
  | none =>
    rw [hpsi] at h
    exact ⟨s.psi, ∅, Or.inr (Option.some.inj h).symm⟩
  | some psi =>
    rw [hpsi] at h
    obtain ⟨new, -, rfl⟩ := Option.map_eq_some_iff.mp h
    exact ⟨_, _, adopt_cases psi new s⟩

/-! ## The active pids -/

theorem pidList_updatePidList (new : List UInt16) (s : SatipConfig) :
    (updatePidList new s).pidList = updateSlots (new.map UInt16.toNat) s.pidList := by
  unfold updatePidList
  obtain ⟨psi, caPids, hcase | hcase⟩ := notifyPidList_cases (updatePidStatus
    { s with pidList := updateSlots (new.map UInt16.toNat) s.pidList }) <;>
  · rw [hcase]
    rfl

/-- A PLAY commits the pids when a pid change is pending, a SETUP in any case. -/
def Commits (s : SatipConfig) (op : Op) : Prop :=
  op = .getSetupData ∨ op = .getPlayData ∧ getPidStatus s = .changed

/-- The slots after an operation. -/
def slotsAfter (s : SatipConfig) : Op → List PidElem
  | .updatePidList new => updateSlots (new.map UInt16.toNat) s.pidList
  | .clearProperty => clearPidList s.pidList
  | .getSetupData => commitPidStates s.pidList
  | .getPlayData =>
    if getPidStatus s = .changed then commitPidStates s.pidList else s.pidList
  | _ => s.pidList

theorem pidList_step {op : Op} (h : step s op = some next) : next.pidList = slotsAfter s op := by
  cases op with
  | updatePidList new =>
    obtain rfl := Option.some.inj h
    exact pidList_updatePidList new s
  | setCaPids pids =>
    obtain rfl := Option.some.inj h
    unfold setCaPids
    split <;> rfl
  | psi op =>
    obtain ⟨psi, caPids, rfl | rfl⟩ := stepPsi_cases h <;> rfl
  | clearProperty =>
    obtain rfl := Option.some.inj h
    unfold clearProperty
    obtain ⟨psi, caPids, hcase | hcase⟩ := resetPsi_cases (clearParams s)
    · rw [hcase]
      rfl
    · rw [hcase]
      rfl
  | setVoltage voltage =>
    obtain rfl := Option.some.inj h
    unfold setVoltage
    split_ifs <;> rfl
  | setParam param =>
    obtain rfl := Option.some.inj h
    cases param <;> rfl
  | setChannelChanged | setChannelRetry =>
    obtain rfl := Option.some.inj h
    rfl
  | clearChannelChanged =>
    obtain rfl := Option.some.inj h
    unfold clearChannelChanged
    split_ifs <;> rfl
  | getSetupData =>
    obtain rfl := Option.some.inj h
    rw [snd_getSetupData, pidList_commitPids, pidList_takeTuning]
    rfl
  | getPlayData =>
    obtain rfl := Option.some.inj h
    rw [snd_getPlayData, getPidStatus_startPlay, slotsAfter]
    split
    · rw [pidList_commitPids, pidList_startPlay]
    · exact pidList_startPlay s

theorem step_slotsOk {op : Op} (hs : SlotsOk s.pidList) (h : step s op = some next) :
    SlotsOk next.pidList := by
  rw [pidList_step h]
  cases op with
  | updatePidList new => exact hs.updateSlots _
  | clearProperty => exact hs.clearPidList
  | getSetupData => exact hs.commitPidStates
  | getPlayData =>
    rw [slotsAfter]
    split
    · exact hs.commitPidStates
    · exact hs
  | setCaPids | psi | setVoltage | setParam | setChannelChanged | setChannelRetry
  | clearChannelChanged => exact hs

theorem slotsOk_construct (feType : ℤ) (settings : Settings) :
    SlotsOk (construct feType settings).pidList := by
  have hclear : SlotsOk (clearProperty { feType := feType, settings := settings }).pidList :=
    slotsOk_replicate.clearPidList
  unfold construct
  split
  · rw [pidList_applyReports]
    exact hclear
  · exact hclear

theorem Reachable.slotsOk (h : Reachable s) : SlotsOk s.pidList := by
  obtain ⟨feType, settings, hreach⟩ := h
  exact hreach.invariant (fun _ _ _ hs hnext ↦ step_slotsOk hs hnext)
    (slotsOk_construct feType settings)

/-- After `updatePidList` the active pids are exactly the pids of the kernel list if and only if
the table has room for them beside all the pids it holds, those awaiting deletion included. -/
theorem updatePidList_eq_iff (hs : Reachable s) (new : List UInt16) :
    collectActivePids (updatePidList new s).pidList =
        (listedPids (new.map UInt16.toNat)).toFinset ↔
      (heldPids s.pidList ∪ (listedPids (new.map UInt16.toNat)).toFinset).card ≤ maxPids := by
  rw [pidList_updatePidList]
  exact collectActivePids_updateSlots_eq_iff hs.slotsOk _

/-- A kernel list of consecutive pids that fills the table. -/
def fullList (first : ℕ) : List UInt16 := (List.range maxPids).map fun i ↦ (first + i).toUInt16

/-- The add pass finds no free slot although the delete pass is about to vacate all of them. -/
theorem not_updatePidList_eq :
    ¬ ∀ s new, Reachable s → new.length = maxPids →
      collectActivePids (updatePidList new s).pidList =
        (listedPids (new.map UInt16.toNat)).toFinset := by
  intro h
  have hreach : Reachable (getSetupData (updatePidList (fullList 1) (construct 0 {}))).2 :=
    ⟨0, {}, [.updatePidList (fullList 1), .getSetupData], rfl⟩
  have hequal := h _ (fullList 101) hreach (by decide)
  revert hequal
  decide +kernel

theorem updatePidList_eq_iff_fullList :
    collectActivePids (updatePidList (fullList 1) (construct 0 {})).pidList =
      (listedPids ((fullList 1).map UInt16.toNat)).toFinset := by
  have hreach : Reachable (construct 0 {}) := ⟨0, {}, Runs.Reachable.refl step _⟩
  exact (updatePidList_eq_iff hreach (fullList 1)).mpr (by decide +kernel)

/-! ## The requested pids -/

/-- The committed pids and the CA pids were requested, or a change of the CA pids is pending. -/
def Synced (s : SatipConfig) : Prop :=
  s.caDirty = true ∨ s.requestedPids = committedPids s.pidList ∪ s.caPids

/-- CA pids that nobody requested, and nothing says so. -/
def Voided (s : SatipConfig) : Prop :=
  s.caDirty = false ∧ s.requestedPids = ∅ ∧ s.caPids ≠ ∅

instance (s : SatipConfig) : Decidable (Voided s) := by
  unfold Voided; infer_instance

/-- A reset of the parser reports another set than the current one. -/
def ResetReports (s : SatipConfig) : Prop :=
  ∃ psi ∈ s.psi, ∃ pids ∈ newReports psi (PSI.reset psi), pids ≠ s.caPids

instance (s : SatipConfig) : Decidable (ResetReports s) := by
  unfold ResetReports; infer_instance

/-- The operation does not take the pids out of the request without asking for them again.
While the channel is stable `clearProperty` may only do so when the CA pids are empty, a change
of them is pending or the reset of the parser brings one; a channel may not become stable with
its request void; and a PLAY with tuning parameters needs a pid change to be pending unless there
are no pids. -/
def KeepsRequest (s : SatipConfig) : Op → Prop
  | .clearProperty => s.status = .stable → s.caDirty = true ∨ s.caPids = ∅ ∨ ResetReports s
  | .clearChannelChanged => s.status = .changed → ¬ Voided s
  | .getPlayData => s.status = .changed → getPidStatus s = .stationary → wantedPids s = ∅
  | _ => True

instance (s : SatipConfig) (op : Op) : Decidable (KeepsRequest s op) := by
  cases op <;> unfold KeepsRequest <;> infer_instance

/-- The invariant of such runs. -/
structure RequestOk (s : SatipConfig) : Prop where
  pending : s.pidStatus = .stationary → ¬ hasPending s.pidList
  request : Synced s ∨ Voided s ∧ s.status ≠ .stable

/-- What the parser reports keeps the invariant. -/
theorem RequestOk.of_psi (hs : RequestOk s) {psi : Option SatipPSI} {caPids : Finset ℕ}
    (h : next = { s with psi := psi, caPids := caPids, caDirty := true } ∨
      next = { s with psi := psi }) : RequestOk next := by
  rcases h with rfl | rfl
  · exact ⟨hs.pending, Or.inl (Or.inl rfl)⟩
  · exact ⟨hs.pending, hs.request⟩

theorem RequestOk.applyReports (hs : RequestOk s) (reported : List (Finset ℕ)) :
    RequestOk (applyReports reported s) := by
  rcases applyReports_marks reported s with hdirty | hsame
  · exact ⟨by simpa using hs.pending, Or.inl (Or.inl hdirty)⟩
  · rwa [hsame]

theorem requestOk_commitPids (s : SatipConfig) : RequestOk (commitPids s) where
  pending _ := not_hasPending_commitPidStates s.pidList
  request := by
    left; right
    show wantedPids s = committedPids (commitPidStates s.pidList) ∪ s.caPids
    rw [committedPids_commitPidStates]
    rfl

theorem RequestOk.updatePidList (hs : RequestOk s) (new : List UInt16) :
    RequestOk (updatePidList new s) := by
  have hupdated : RequestOk (updatePidStatus
      { s with pidList := updateSlots (new.map UInt16.toNat) s.pidList }) := by
    constructor
    · intro hstationary hpending
      simp only [updatePidStatus, ite_eq_right_iff, reduceCtorEq, imp_false] at hstationary
      exact hstationary hpending
    · have hrequest := hs.request
      unfold Synced at hrequest ⊢
      rwa [← committedPids_updateSlots (new.map UInt16.toNat)] at hrequest
  obtain ⟨psi, caPids, hcases⟩ := notifyPidList_cases (updatePidStatus
    { s with pidList := updateSlots (new.map UInt16.toNat) s.pidList })
  exact hupdated.of_psi hcases

theorem caDirty_resetPsi_of_reports (h : ResetReports s) :
    (clearProperty s).caDirty = true := by
  obtain ⟨psi, hpsi, pids, hmem, hne⟩ := h
  rw [Option.mem_def] at hpsi
  unfold clearProperty resetPsi clearParams
  rw [hpsi]
  exact caDirty_applyReports_of_mem hmem hne

/-- `clearProperty` leaves the request void when the CA pids stay and nothing marks them. -/
theorem RequestOk.clearProperty (hkept : KeepsRequest s .clearProperty) :
    RequestOk (clearProperty s) := by
  have hpending := not_hasPending_clearPidList s.pidList
  have hmarked := caDirty_resetPsi_of_reports (s := s)
  unfold Config.clearProperty at hmarked ⊢
  obtain ⟨psi, caPids, hcase | hcase⟩ := resetPsi_cases (clearParams s) <;> rw [hcase] at hmarked ⊢
  · exact ⟨fun _ ↦ hpending, Or.inl (Or.inl rfl)⟩
  refine ⟨fun _ ↦ hpending, ?_⟩
  by_cases hdirty : s.caDirty = true
  · exact Or.inl (Or.inl hdirty)
  by_cases hempty : s.caPids = ∅
  · left; right
    show ∅ = committedPids (clearPidList s.pidList) ∪ s.caPids
    rw [committedPids_clearPidList, hempty, Finset.union_empty]
  · right
    refine ⟨⟨Bool.eq_false_iff.mpr hdirty, rfl, hempty⟩, ?_⟩
    intro hstable
    rcases hkept hstable with hd | he | hreports
    · exact hdirty hd
    · exact hempty he
    · exact hdirty (hmarked hreports)

/-- A PLAY requests everything when a pid change is pending. -/
theorem RequestOk.getPlayData (hs : RequestOk s) (hkept : KeepsRequest s .getPlayData) :
    RequestOk (getPlayData s).2 := by
  rw [snd_getPlayData, getPidStatus_startPlay]
  by_cases hstatus : getPidStatus s = .changed
  · rw [if_pos hstatus]
    exact requestOk_commitPids _
  rw [if_neg hstatus]
  by_cases hchanged : s.status = .changed
  swap
  · rwa [startPlay_of_ne hchanged]
  have hstationary : getPidStatus s = .stationary := by
    cases hcase : getPidStatus s <;> simp_all
  obtain ⟨hactive, hca⟩ := Finset.union_eq_empty.mp (hkept hchanged hstationary)
  have hpending := hs.pending ((getPidStatus_eq_stationary s).mp hstationary).1
  rw [startPlay_of_changed hchanged, takeTuning_frame]
  refine ⟨fun _ ↦ hpending, Or.inl (Or.inr ?_)⟩
  show ∅ = committedPids s.pidList ∪ s.caPids
  rw [← collectActivePids_of_not_hasPending hpending, hactive, hca, Finset.union_empty]

theorem step_requestOk {op : Op} (hs : RequestOk s) (hkept : KeepsRequest s op)
    (h : step s op = some next) : RequestOk next := by
  cases op with
  | updatePidList new =>
    obtain rfl := Option.some.inj h
    exact hs.updatePidList new
  | setCaPids pids =>
    obtain rfl := Option.some.inj h
    show RequestOk (setCaPids pids s)
    by_cases hpids : pids = s.caPids
    · rwa [setCaPids_of_eq hpids]
    · rw [setCaPids_of_ne hpids]
      exact ⟨hs.pending, Or.inl (Or.inl rfl)⟩
  | psi op =>
    obtain ⟨psi, caPids, hcases⟩ := stepPsi_cases h
    exact hs.of_psi hcases
  | clearProperty =>
    obtain rfl := Option.some.inj h
    exact RequestOk.clearProperty hkept
  | setVoltage voltage =>
    obtain rfl := Option.some.inj h
    show RequestOk (setVoltage voltage s)
    unfold setVoltage
    split_ifs
    · exact ⟨hs.pending, hs.request⟩
    · exact ⟨hs.pending, hs.request⟩
    · exact ⟨hs.pending, hs.request.imp id fun hvoid ↦ ⟨hvoid.1, by simp⟩⟩
  | setParam param =>
    obtain rfl := Option.some.inj h
    cases param <;> exact ⟨hs.pending, hs.request⟩
  | setChannelChanged =>
    obtain rfl := Option.some.inj h
    exact ⟨hs.pending, hs.request.imp id fun hvoid ↦ ⟨hvoid.1, by simp [setChannelChanged]⟩⟩
  | setChannelRetry =>
    obtain rfl := Option.some.inj h
    exact ⟨hs.pending, hs.request.imp id fun hvoid ↦ ⟨hvoid.1, by simp [setChannelRetry]⟩⟩
  | clearChannelChanged =>
    obtain rfl := Option.some.inj h
    show RequestOk (clearChannelChanged s)
    unfold clearChannelChanged
    by_cases hchanged : s.status = .changed
    · rw [if_pos hchanged]
      exact ⟨hs.pending, Or.inl (hs.request.resolve_right fun hvoid ↦ hkept hchanged hvoid.1)⟩
    · rwa [if_neg hchanged]
  | getSetupData =>
    obtain rfl := Option.some.inj h
    exact requestOk_commitPids _
  | getPlayData =>
    obtain rfl := Option.some.inj h
    exact hs.getPlayData hkept

theorem requestOk_construct (feType : ℤ) (settings : Settings) :
    RequestOk (construct feType settings) := by
  have hclear : RequestOk (clearProperty { feType := feType, settings := settings }) :=
    RequestOk.clearProperty fun _ ↦ Or.inr (Or.inl rfl)
  unfold construct
  split
  · have hpsi : RequestOk { clearProperty { feType := feType, settings := settings } with
        psi := some (PSI.construct true settings.caEmm settings.caCaids) } :=
      ⟨hclear.pending, hclear.request⟩
    exact hpsi.applyReports _
  · exact hclear

/-- No pid change goes unrequested: in every run whose operations keep the request, once the
channel is stable and no pid change is pending, the pids requested from the server are the
active pids and the CA pids. -/
theorem run_requested (feType : ℤ) (settings : Settings) (ops : List Op) {s : SatipConfig}
    (hrun : Runs.run step (construct feType settings) ops = some s)
    (hkept : Runs.EachStep step KeepsRequest (construct feType settings) ops)
    (hstable : s.status = .stable) (hstationary : getPidStatus s = .stationary) :
    s.requestedPids = collectActivePids s.pidList ∪ s.caPids := by
  have hs : RequestOk s := Runs.run_invariant (fun _ _ _ hs hkept h ↦ step_requestOk hs hkept h)
    (requestOk_construct feType settings) hkept hrun
  obtain ⟨hpidStatus, hdirty⟩ := (getPidStatus_eq_stationary s).mp hstationary
  have hsynced : Synced s := hs.request.resolve_right fun hvoid ↦ hvoid.2 hstable
  calc
    s.requestedPids = committedPids s.pidList ∪ s.caPids :=
      hsynced.resolve_left (by simp [hdirty])
    _ = collectActivePids s.pidList ∪ s.caPids := by
      rw [collectActivePids_of_not_hasPending (hs.pending hpidStatus)]

/-- A tune whose PLAY goes out while no pid change is pending. -/
def forgottenRun : List Op :=
  [.updatePidList [100], .setChannelChanged, .getSetupData, .setChannelChanged, .getPlayData]

/-- A tune with a pid that was added since. -/
def requestedRun : List Op :=
  [.updatePidList [100], .setChannelChanged, .getSetupData, .setChannelChanged,
    .updatePidList [100, 200], .getPlayData]

/-- The PLAY makes the server forget pid 100, and nothing asks for it again. -/
theorem not_run_requested :
    ¬ ∀ feType settings ops s, Runs.run step (construct feType settings) ops = some s →
      Op.getSetupData ∈ ops → s.status = .stable → getPidStatus s = .stationary →
        s.requestedPids = collectActivePids s.pidList ∪ s.caPids := by
  intro h
  have hfields : (Runs.run step (construct 0 {}) forgottenRun).map (fun s ↦
      (s.status, getPidStatus s, s.requestedPids, collectActivePids s.pidList ∪ s.caPids)) =
        some (.stable, .stationary, ∅, {100}) := by
    decide +kernel
  obtain ⟨s, hrun, hs⟩ := Option.map_eq_some_iff.mp hfields
  simp only [Prod.mk.injEq] at hs
  obtain ⟨hstable, hstationary, hrequested, hwanted⟩ := hs
  have hequal := h 0 {} forgottenRun s hrun (by simp [forgottenRun]) hstable hstationary
  rw [hrequested, hwanted] at hequal
  revert hequal
  decide

theorem run_requested_requestedRun :
    ∃ s, Runs.run step (construct 0 {}) requestedRun = some s ∧
      s.requestedPids = collectActivePids s.pidList ∪ s.caPids := by
  have hkept : Runs.EachStep step KeepsRequest (construct 0 {}) requestedRun := by
    decide +kernel
  have hfields : (Runs.run step (construct 0 {}) requestedRun).map (fun s ↦
      (s.status, getPidStatus s)) = some (.stable, .stationary) := by
    decide +kernel
  obtain ⟨s, hrun, hs⟩ := Option.map_eq_some_iff.mp hfields
  exact ⟨s, hrun, run_requested 0 {} requestedRun hrun hkept (Prod.mk.inj hs).1
    (Prod.mk.inj hs).2⟩

end SatipClient.Config
