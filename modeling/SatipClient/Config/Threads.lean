import SatipClient.Config.Requested

/-!
# The RTP thread and the session thread

The RTP thread reports CA pids while the session thread writes requests.  The two share the CA
pids and the flag that marks a change of them, each access of which holds `m_ca_lock`.  The system
takes such a critical section, and whatever the session thread does between two of them, as one
step.  The flag is tested in one critical section and cleared in another, together with the copy
that the request is made from; so a clean flag means that the last copy is the current one, in every
interleaving (`no_update_lost`).
-/

namespace SatipClient.Config.Threads

open Config (SatipConfig)

/-- Where the session thread is. -/
inductive Pc where
  | idle
  /-- in `getPidStatus`, before the lock is taken -/
  | testing
  /-- in the `getPidStatus` of `getPlayData`, before the lock is taken -/
  | playTesting
  /-- before `addCaPids`, with the active pids collected -/
  | merging (pids : Finset ℕ)
  /-- behind `addCaPids` -/
  | committing (pids : Finset ℕ)
  deriving DecidableEq

/-- The configuration, where the session thread is in it, and the CA pids that `addCaPids` merged
last. -/
structure System where
  config : SatipConfig
  pc : Pc := .idle
  merged : Finset ℕ := ∅

/-- A call of the RTP thread, a call that the session thread begins, or its next step in the call it
is in. -/
inductive Action where
  | setCaPids (pids : Finset ℕ)
  | getPidStatus
  | getSetupData
  | getPlayData
  | proceed

/-- `collectActivePids(pids)` -/
def collect (s : SatipConfig) : Pc := .merging (collectActivePids s.pidList)

/-- The next step of the session thread. -/
def proceed (σ : System) : Option System :=
  match σ.pc with
  | .idle => none
  | .testing => some { σ with pc := .idle }
  | .playTesting => some { σ with pc := if σ.config.caDirty then collect σ.config else .idle }
  | .merging pids =>
    some
      { config := { σ.config with caDirty := false }
        pc := .committing (pids ∪ σ.config.caPids)
        merged := σ.config.caPids }
  | .committing pids =>
    some
      { σ with
        config := updatePidStatus
          { σ.config with
            pidList := commitPidStates σ.config.pidList
            requestedPids := pids }
        pc := .idle }

/-- The session thread begins a call: it runs up to the first critical section. -/
def enter (σ : System) : Action → System
  | .getPidStatus => { σ with pc := if σ.config.pidStatus = .changed then .idle else .testing }
  | .getSetupData => { σ with config := takeTuning σ.config, pc := collect (takeTuning σ.config) }
  | .getPlayData =>
    { σ with
      config := startPlay σ.config
      pc := if (startPlay σ.config).pidStatus = .changed then collect (startPlay σ.config)
        else .playTesting }
  | .setCaPids _ | .proceed => σ

/-- One step of the system; the session thread begins a call when it is in none. -/
def step (σ : System) : Action → Option System
  | .setCaPids pids => some { σ with config := setCaPids pids σ.config }
  | .proceed => proceed σ
  | call =>
    match σ.pc with
    | .idle => some (enter σ call)
    | _ => none

/-- Nothing was reported yet. -/
def start (s : SatipConfig) : System where
  config := { s with caPids := ∅, caDirty := false }

/-- The set reported last, empty before the first report. -/
def lastReported (actions : List Action) : Finset ℕ :=
  (actions.filterMap fun
    | .setCaPids pids => some pids
    | _ => none).getLast?.getD ∅

/-- A step of the session thread. -/
def Action.OfSession : Action → Prop
  | .setCaPids _ => False
  | _ => True

variable {σ next : System}

/-! ## The calls, uninterrupted -/

theorem run_getSetupData (s : SatipConfig) (merged : Finset ℕ) :
    Runs.run step { config := s, merged := merged } [.getSetupData, .proceed, .proceed] =
      some { config := (Config.getSetupData s).2, merged := (takeTuning s).caPids } := rfl

theorem run_getPlayData (s : SatipConfig) (merged : Finset ℕ) :
    ∃ count merged', Runs.run step { config := s, merged := merged }
      (.getPlayData :: List.replicate count .proceed) =
        some { config := (Config.getPlayData s).2, merged := merged' } := by
  rw [snd_getPlayData]
  by_cases hpid : (startPlay s).pidStatus = .changed
  · have hchanged : Config.getPidStatus (startPlay s) = .changed := if_pos hpid
    refine ⟨2, (startPlay s).caPids, ?_⟩
    rw [if_pos hchanged, Runs.run_cons]
    simp only [step, enter, hpid, if_true]
    rfl
  cases hdirty : (startPlay s).caDirty with
  | true =>
    have hchanged : Config.getPidStatus (startPlay s) = .changed := by
      rw [Config.getPidStatus, if_neg hpid, if_pos hdirty]
    refine ⟨3, (startPlay s).caPids, ?_⟩
    rw [if_pos hchanged, Runs.run_cons]
    simp only [step, enter, hpid, if_false, List.replicate, Runs.run_cons, proceed, hdirty, if_true,
      collect, Option.bind_some]
    rfl
  | false =>
    have hstationary : Config.getPidStatus (startPlay s) ≠ .changed := by
      rw [Config.getPidStatus, if_neg hpid, if_neg (by simp [hdirty])]
      simp
    refine ⟨1, merged, ?_⟩
    rw [if_neg hstationary, Runs.run_cons]
    simp [step, enter, hpid, proceed, hdirty]

/-! ## The invariant -/

/-- The pids that are requested once the session thread has made its next step. -/
def requestedNext (σ : System) : Finset ℕ :=
  match σ.pc with
  | .committing pids => pids
  | _ => σ.config.requestedPids

theorem requestedNext_of_ne (h : ∀ pids, σ.pc ≠ .committing pids) :
    requestedNext σ = σ.config.requestedPids := by
  unfold requestedNext
  split
  case h_1 pids hpc => exact absurd hpc (h pids)
  case h_2 => rfl

/-- The invariant. -/
structure Inv (σ : System) : Prop where
  clean : σ.config.caDirty = false → σ.config.caPids = σ.merged
  requested : σ.merged ⊆ requestedNext σ
  untuned : σ.config.status = .changed → σ.merged = ∅ ∧ (σ.pc = .idle ∨ σ.pc = .testing)

theorem inv_start (s : SatipConfig) : Inv (start s) :=
  ⟨fun _ ↦ rfl, Finset.empty_subset _, fun _ ↦ ⟨rfl, Or.inl rfl⟩⟩

theorem status_takeTuning_ne (s : SatipConfig) : (takeTuning s).status ≠ .changed := by
  unfold takeTuning
  split
  · simp
  · assumption

theorem status_startPlay_ne (s : SatipConfig) : (startPlay s).status ≠ .changed := by
  unfold startPlay
  split
  · exact status_takeTuning_ne s
  · assumption

/-- A PLAY with tuning parameters forgets what was requested, another one touches nothing. -/
theorem startPlay_fields (s : SatipConfig) :
    (startPlay s).caPids = s.caPids ∧ (startPlay s).caDirty = s.caDirty ∧
      (s.status = .changed ∨ (startPlay s).requestedPids = s.requestedPids) := by
  by_cases hchanged : s.status = .changed
  · rw [startPlay_of_changed hchanged, takeTuning_frame]
    exact ⟨rfl, rfl, Or.inl hchanged⟩
  · rw [startPlay_of_ne hchanged]
    exact ⟨rfl, rfl, Or.inr rfl⟩

theorem Inv.setCaPids (h : Inv σ) (pids : Finset ℕ) :
    Inv { σ with config := setCaPids pids σ.config } := by
  by_cases hpids : pids = σ.config.caPids
  · rw [setCaPids_of_eq hpids]
    exact h
  · rw [setCaPids_of_ne hpids]
    exact ⟨fun hclean ↦ absurd hclean (by simp), h.requested, h.untuned⟩

theorem Inv.enter (h : Inv σ) (hidle : σ.pc = .idle) (call : Action) : Inv (enter σ call) := by
  have hrequested : σ.merged ⊆ σ.config.requestedPids := by
    have hnext := h.requested
    rwa [requestedNext, hidle] at hnext
  cases call with
  | setCaPids pids => exact h
  | proceed => exact h
  | getPidStatus =>
    unfold Threads.enter
    dsimp only
    split_ifs
    · exact ⟨h.clean, hrequested, fun hchanged ↦ ⟨(h.untuned hchanged).1, Or.inl rfl⟩⟩
    · exact ⟨h.clean, hrequested, fun hchanged ↦ ⟨(h.untuned hchanged).1, Or.inr rfl⟩⟩
  | getSetupData =>
    refine ⟨?_, ?_, fun hchanged ↦ absurd hchanged (status_takeTuning_ne _)⟩
    · unfold Threads.enter
      rw [takeTuning_frame]
      exact h.clean
    · unfold Threads.enter
      rw [takeTuning_frame]
      exact hrequested
  | getPlayData =>
    obtain ⟨hca, hdirty, hkept⟩ := startPlay_fields σ.config
    have hmerged : σ.merged ⊆ (startPlay σ.config).requestedPids := by
      rcases hkept with hchanged | hsame
      · rw [(h.untuned hchanged).1]
        exact Finset.empty_subset _
      · rwa [hsame]
    refine ⟨?_, ?_, fun hchanged ↦ absurd hchanged (status_startPlay_ne _)⟩
    · unfold Threads.enter
      rw [hca, hdirty]
      exact h.clean
    · rw [requestedNext_of_ne]
      · exact hmerged
      · intro pids
        unfold Threads.enter collect
        dsimp only
        split_ifs <;> simp

theorem Inv.proceed (h : Inv σ) (hnext : proceed σ = some next) : Inv next := by
  have hrequested := h.requested
  unfold requestedNext at hrequested
  unfold Threads.proceed at hnext
  cases hpc : σ.pc with
  | idle =>
    rw [hpc] at hnext
    cases hnext
  | testing =>
    rw [hpc] at hnext hrequested
    obtain rfl := Option.some.inj hnext
    exact ⟨h.clean, hrequested, fun hchanged ↦ ⟨(h.untuned hchanged).1, Or.inl rfl⟩⟩
  | playTesting =>
    rw [hpc] at hnext hrequested
    obtain rfl := Option.some.inj hnext
    have htuned : σ.config.status ≠ .changed := fun hchanged ↦ by
      simpa [hpc] using (h.untuned hchanged).2
    refine ⟨h.clean, ?_, fun hchanged ↦ absurd hchanged htuned⟩
    rw [requestedNext_of_ne]
    · exact hrequested
    · intro pids
      unfold collect
      dsimp only
      split_ifs <;> simp
  | merging pids =>
    rw [hpc] at hnext
    obtain rfl := Option.some.inj hnext
    have htuned : σ.config.status ≠ .changed := fun hchanged ↦ by
      simpa [hpc] using (h.untuned hchanged).2
    exact ⟨fun _ ↦ rfl, Finset.subset_union_right, fun hchanged ↦ absurd hchanged htuned⟩
  | committing pids =>
    rw [hpc] at hnext hrequested
    obtain rfl := Option.some.inj hnext
    have htuned : σ.config.status ≠ .changed := fun hchanged ↦ by
      simpa [hpc] using (h.untuned hchanged).2
    exact ⟨h.clean, hrequested, fun hchanged ↦ absurd hchanged htuned⟩

/-- A step of the session thread is the next one of its call, or it begins a call. -/
theorem step_cases {action : Action} (hnext : step σ action = some next) :
    (∃ pids, action = .setCaPids pids ∧ next = { σ with config := setCaPids pids σ.config }) ∨
      (action = .proceed ∧ proceed σ = some next) ∨
      (action.OfSession ∧ action ≠ .proceed ∧ σ.pc = .idle ∧ next = enter σ action) := by
  cases action with
  | setCaPids pids => exact Or.inl ⟨pids, rfl, (Option.some.inj hnext).symm⟩
  | proceed => exact Or.inr (Or.inl ⟨rfl, hnext⟩)
  | getPidStatus | getSetupData | getPlayData =>
    unfold step at hnext
    cases hpc : σ.pc with
    | idle =>
      simp only [hpc] at hnext
      exact Or.inr (Or.inr ⟨trivial, by simp, rfl, (Option.some.inj hnext).symm⟩)
    | _ =>
      simp only [hpc] at hnext
      cases hnext

theorem step_inv {action : Action} (h : Inv σ) (hnext : step σ action = some next) : Inv next := by
  rcases step_cases hnext with ⟨pids, -, rfl⟩ | ⟨-, hproceed⟩ | ⟨-, -, hidle, rfl⟩
  · exact h.setCaPids pids
  · exact h.proceed hproceed
  · exact h.enter hidle action

/-! ## The CA pids in force -/

/-- What an action reports. -/
def Action.reported : Action → Option (Finset ℕ)
  | .setCaPids pids => some pids
  | _ => none

theorem lastReported_append_singleton (actions : List Action) (action : Action) :
    lastReported (actions ++ [action]) = action.reported.getD (lastReported actions) := by
  cases action <;> simp [lastReported, Action.reported, List.filterMap_append]

theorem caPids_enter (σ : System) (call : Action) :
    (enter σ call).config.caPids = σ.config.caPids ∧
      (enter σ call).config.caDirty = σ.config.caDirty := by
  obtain ⟨hca, hdirty, -⟩ := startPlay_fields σ.config
  cases call with
  | getPlayData => exact ⟨hca, hdirty⟩
  | getSetupData =>
    unfold enter
    rw [takeTuning_frame]
    exact ⟨rfl, rfl⟩
  | setCaPids | getPidStatus | proceed => exact ⟨rfl, rfl⟩

theorem caPids_proceed (hnext : proceed σ = some next) :
    next.config.caPids = σ.config.caPids := by
  unfold proceed at hnext
  cases hpc : σ.pc with
  | idle =>
    rw [hpc] at hnext
    cases hnext
  | testing | playTesting | merging =>
    rw [hpc] at hnext
    rw [← Option.some.inj hnext]
  | committing pids =>
    rw [hpc] at hnext
    rw [← Option.some.inj hnext]
    rfl

theorem caPids_step {action : Action} (hnext : step σ action = some next) :
    next.config.caPids = action.reported.getD σ.config.caPids := by
  rcases step_cases hnext with ⟨pids, rfl, rfl⟩ | ⟨rfl, hproceed⟩ | ⟨hsession, -, -, rfl⟩
  · exact caPids_setCaPids pids σ.config
  · exact caPids_proceed hproceed
  · cases action with
    | setCaPids pids => exact hsession.elim
    | _ => exact (caPids_enter σ _).1

/-- The CA pids in force are those of the last report. -/
theorem caPids_run {s : SatipConfig} {actions : List Action}
    (hrun : Runs.run step (start s) actions = some σ) : σ.config.caPids = lastReported actions := by
  induction actions using List.reverseRecOn generalizing σ with
  | nil => rw [← Option.some.inj hrun]; rfl
  | append_singleton actions action ih =>
    obtain ⟨mid, hmid, hlast⟩ := (Runs.run_append_eq_some_iff step _ _ _ _).mp hrun
    have hstep : step mid action = some σ := by simpa using hlast
    rw [caPids_step hstep, ih hmid, lastReported_append_singleton]

/-! ## A call that merges them -/

/-- No change of the CA pids is marked, or the session thread is on its way to merge them. -/
def Merges (σ : System) : Prop :=
  σ.config.caDirty = false ∨ σ.pc = .playTesting ∨ ∃ pids, σ.pc = .merging pids

theorem merges_enter {call : Action} (hcall : call = .getSetupData ∨ call = .getPlayData)
    (σ : System) : Merges (enter σ call) := by
  right
  rcases hcall with rfl | rfl
  · exact Or.inr ⟨_, rfl⟩
  · unfold enter collect
    dsimp only
    split_ifs
    · exact Or.inr ⟨_, rfl⟩
    · exact Or.inl rfl

theorem Merges.proceed (h : Merges σ) (hnext : proceed σ = some next) : Merges next := by
  unfold Threads.proceed at hnext
  cases hpc : σ.pc with
  | idle =>
    rw [hpc] at hnext
    cases hnext
  | testing | committing =>
    rw [hpc] at hnext
    have hclean : σ.config.caDirty = false := by simpa [Merges, hpc] using h
    obtain rfl := Option.some.inj hnext
    exact Or.inl hclean
  | playTesting =>
    rw [hpc] at hnext
    obtain rfl := Option.some.inj hnext
    unfold Merges collect
    cases hdirty : σ.config.caDirty <;> simp
  | merging pids =>
    rw [hpc] at hnext
    obtain rfl := Option.some.inj hnext
    exact Or.inl rfl

/-- The session thread alone does not mark a change. -/
theorem Merges.step {action : Action} (h : Merges σ) (hsession : action.OfSession)
    (hnext : step σ action = some next) : Merges next := by
  rcases step_cases hnext with ⟨pids, rfl, -⟩ | ⟨-, hproceed⟩ | ⟨-, -, hidle, rfl⟩
  · exact hsession.elim
  · exact h.proceed hproceed
  · have hclean : σ.config.caDirty = false := by simpa [Merges, hidle] using h
    exact Or.inl ((caPids_enter σ action).2.trans hclean)

/-- What the session thread keeps in such a call and behind it. -/
def Settles (pids : Finset ℕ) (σ : System) : Prop :=
  Inv σ ∧ Merges σ ∧ σ.config.caPids = pids

theorem Settles.session {pids : Finset ℕ} {action : Action} (h : Settles pids σ)
    (hsession : action.OfSession) (hnext : step σ action = some next) : Settles pids next := by
  obtain ⟨hinv, hmerges, hca⟩ := h
  refine ⟨step_inv hinv hnext, hmerges.step hsession hnext, ?_⟩
  have hreported : action.reported = none := by
    cases action with
    | setCaPids other => exact hsession.elim
    | _ => rfl
  rw [caPids_step hnext, hreported]
  exact hca

/-- What holds at the end of a call that began after the last report. -/
theorem subset_requestedPids (h : Inv σ) (hmerges : Merges σ) (hidle : σ.pc = .idle) :
    σ.config.caPids ⊆ σ.config.requestedPids := by
  have hclean : σ.config.caDirty = false := by simpa [Merges, hidle] using hmerges
  calc
    σ.config.caPids = σ.merged := h.clean hclean
    _ ⊆ requestedNext σ := h.requested
    _ = σ.config.requestedPids := requestedNext_of_ne (by simp [hidle])

/-- In every interleaving of reports with the calls of the session thread, a clean flag means that
the CA pids are those merged last, and a request that begins when the reports have stopped has, at
its end, requested what was reported last. -/
theorem no_update_lost (s : SatipConfig) (actions : List Action) (σ : System)
    (hrun : Runs.run step (start s) actions = some σ) :
    (σ.config.caDirty = false → σ.config.caPids = σ.merged) ∧
      ∀ call rest finish, (call = .getSetupData ∨ call = .getPlayData) →
        (∀ action ∈ rest, action.OfSession) → Runs.run step σ (call :: rest) = some finish →
          finish.pc = .idle → lastReported actions ⊆ finish.config.requestedPids := by
  have hinv : Inv σ :=
    Runs.Reachable.invariant (fun _ _ _ h hnext ↦ step_inv h hnext) (inv_start s) ⟨actions, hrun⟩
  refine ⟨hinv.clean, fun call rest finish hcall hrest hfinish hidle ↦ ?_⟩
  rw [Runs.run_cons, Option.bind_eq_some_iff] at hfinish
  obtain ⟨begun, hbegin, hend⟩ := hfinish
  have hcallof : call.OfSession ∧ call.reported = none := by
    rcases hcall with rfl | rfl <;> exact ⟨trivial, rfl⟩
  have hbegun : Settles σ.config.caPids begun := by
    refine ⟨step_inv hinv hbegin, ?_, ?_⟩
    · rcases step_cases hbegin with ⟨pids, rfl, -⟩ | ⟨rfl, -⟩ | ⟨-, -, -, rfl⟩
      · exact hcallof.1.elim
      · simp at hcall
      · exact merges_enter hcall σ
    · rw [caPids_step hbegin, hcallof.2]
      rfl
  have hsession : Runs.EachStep step (fun _ action ↦ action.OfSession) begun rest :=
    Runs.eachStep_of_forall_mem step (fun action hmem _ ↦ hrest action hmem) begun
  obtain ⟨hinvend, hmerges, hca⟩ := Runs.run_invariant
    (fun t action t' ht hof hnext ↦ ht.session hof hnext) hbegun hsession hend
  rw [← caPids_run hrun, ← hca]
  exact subset_requestedPids hinvend hmerges hidle

/-- A report comes in while the session thread writes a PLAY, behind the copy of the CA pids. -/
def lateReport : List Action :=
  [.setCaPids {0, 100}, .getPlayData, .proceed, .proceed, .setCaPids {0, 100, 500}, .proceed]

theorem no_update_lost_lateReport :
    ∃ σ finish, Runs.run step (start { feType := 0, settings := {} }) lateReport = some σ ∧
      Runs.run step σ [.getPlayData, .proceed, .proceed, .proceed] = some finish ∧
      lastReported lateReport ⊆ finish.config.requestedPids := by
  have hruns : ((Runs.run step (start { feType := 0, settings := {} }) lateReport).bind fun σ ↦
      (Runs.run step σ [.getPlayData, .proceed, .proceed, .proceed]).map fun finish ↦
        decide (finish.pc = .idle)) = some true := by
    decide +kernel
  obtain ⟨σ, hrun, hruns⟩ := Option.bind_eq_some_iff.mp hruns
  obtain ⟨finish, hfinish, hidle⟩ := Option.map_eq_some_iff.mp hruns
  refine ⟨σ, finish, hrun, hfinish, ?_⟩
  exact (no_update_lost _ lateReport σ hrun).2 .getPlayData _ finish (Or.inr rfl)
    (by simp [Action.OfSession]) hfinish (of_decide_eq_true hidle)

end SatipClient.Config.Threads
