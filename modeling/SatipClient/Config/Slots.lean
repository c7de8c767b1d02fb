import SatipClient.Config.Requested

/-!
# The slots between two commits

A pid that was committed keeps its slot until the next commit, whatever the kernel lists in between
add and drop: the search for a free slot passes by the slots that are in use, and the two passes
only move its status between VALID and DELETE (`slots_kept`).
-/

namespace SatipClient.Config

variable {slots : List PidElem} {new : List ℕ} {pid newPid i : ℕ} {status : PidElemStatus}

/-! ## One list -/

/-- The status of a committed pid is one of these until the next commit. -/
def KeptStatus (status : PidElemStatus) : Prop := status = .vaild ∨ status = .delete

/-- Replacing one slot leaves the others. -/
theorem getElem?_middle_of_ne {front back : List PidElem} {slot other : PidElem}
    (h : i ≠ front.length) : (front ++ slot :: back)[i]? = (front ++ other :: back)[i]? := by
  rcases Nat.lt_or_gt_of_ne h with hlt | hgt
  · rw [List.getElem?_append_left hlt, List.getElem?_append_left hlt]
  · rw [List.getElem?_append_right hgt.le, List.getElem?_append_right hgt.le]
    obtain ⟨more, hmore⟩ := Nat.exists_eq_add_of_lt hgt
    have hsub : i - front.length = more + 1 := by omega
    rw [hsub, List.getElem?_cons_succ, List.getElem?_cons_succ]

/-- A round of the add pass brings the pid back if it is its own. -/
theorem getElem?_addPid (h : slots[i]? = some ⟨some pid, status⟩) (hstatus : KeptStatus status)
    (hpid : newPid < 0x2000) :
    (addPid slots newPid)[i]? = some ⟨some pid, if pid = newPid then .vaild else status⟩ := by
  have hne : (∀ slot ∈ slots, slot.pid ≠ some newPid) → pid ≠ newPid := fun hnew hsame ↦
    hnew _ (List.mem_of_getElem? h) (congrArg some hsame)
  rcases addPid_cases slots hpid with ⟨-, heq⟩ | ⟨hnew, -, heq⟩ |
    ⟨hnew, front, old, back, rfl, hold, heq⟩
  · rw [heq, List.getElem?_map, h, Option.map_some, Option.some_inj]
    unfold addFound
    by_cases hsame : pid = newPid
    · subst hsame
      rcases hstatus with rfl | rfl <;> simp
    · simp [hsame]
  · rw [heq, h, if_neg (hne hnew)]
  · have hplace : i ≠ front.length := by
      rintro rfl
      rw [List.getElem?_append_right (Nat.le_refl _), Nat.sub_self, List.getElem?_cons_zero,
        Option.some_inj] at h
      rw [h] at hold
      rcases hstatus with rfl | rfl <;> cases hold
    rw [heq, if_neg (hne hnew), ← h]
    exact getElem?_middle_of_ne hplace

theorem getElem?_addPass (h : slots[i]? = some ⟨some pid, status⟩) (hstatus : KeptStatus status)
    (hpid : pid < 0x2000) (new : List ℕ) :
    (new.foldl addPid slots)[i]? = some ⟨some pid, if pid ∈ new then .vaild else status⟩ := by
  induction new generalizing slots status with
  | nil => simpa using h
  | cons newPid new ih =>
    rw [List.foldl_cons]
    by_cases hnew : newPid < 0x2000
    · have hnext : KeptStatus (if pid = newPid then .vaild else status) := by
        split
        · exact Or.inl rfl
        · exact hstatus
      rw [ih (getElem?_addPid h hstatus hnew) hnext]
      by_cases hmem : pid ∈ new <;> simp [hmem]
    · have hne : pid ≠ newPid := by omega
      rw [addPid_of_not_lt hnew, ih h hstatus]
      simp [hne]

/-- After both passes the pid is VALID if the list has it and awaits its deletion otherwise. -/
theorem getElem?_updateSlots (h : slots[i]? = some ⟨some pid, status⟩)
    (hstatus : KeptStatus status) (hpid : pid < 0x2000) (new : List ℕ) :
    (updateSlots new slots)[i]? = some ⟨some pid, if pid ∈ new then .vaild else .delete⟩ := by
  rw [updateSlots, List.getElem?_map, getElem?_addPass h hstatus hpid, Option.map_some,
    Option.some_inj]
  unfold deleteUnlisted
  by_cases hmem : pid ∈ new
  · simp [hmem, hpid]
  · rcases hstatus with rfl | rfl <;> simp [hmem, hpid]

/-! ## Any operations in between -/

/-- The kernel list that an operation brings. -/
def kernelList : Op → Option (List UInt16)
  | .updatePidList new => some new
  | _ => none

/-- The last kernel list among these operations, if there is one. -/
def lastList (ops : List Op) : Option (List UInt16) := (ops.filterMap kernelList).getLast?

/-- No kernel list came, or the last one has the pid. -/
def StillListed (pid : ℕ) (ops : List Op) : Prop :=
  ∀ new ∈ lastList ops, pid ∈ new.map UInt16.toNat

instance (pid : ℕ) (ops : List Op) : Decidable (StillListed pid ops) :=
  inferInstanceAs (Decidable (∀ new ∈ lastList ops, pid ∈ new.map UInt16.toNat))

theorem lastList_append (ops : List Op) (op : Op) :
    lastList (ops ++ [op]) = (kernelList op).or (lastList ops) := by
  unfold lastList
  rw [List.filterMap_append]
  cases hlist : kernelList op <;> simp [hlist]

theorem stillListed_append_of_none {op : Op} (h : kernelList op = none) (ops : List Op) :
    StillListed pid (ops ++ [op]) ↔ StillListed pid ops := by
  rw [StillListed, lastList_append, h, Option.none_or, StillListed]

theorem stillListed_append_of_some {op : Op} {new : List UInt16} (h : kernelList op = some new)
    (ops : List Op) : StillListed pid (ops ++ [op]) ↔ pid ∈ new.map UInt16.toNat := by
  rw [StillListed, lastList_append, h, Option.some_or]
  simp

variable {s next : SatipConfig}

/-- An operation that neither commits nor clears leaves the slots alone or brings a list. -/
theorem pidList_step_of_not_commits {op : Op} (hcommits : ¬ Commits s op)
    (hclear : op ≠ .clearProperty) (h : step s op = some next) :
    next.pidList = (kernelList op).elim s.pidList fun new ↦
      updateSlots (new.map UInt16.toNat) s.pidList := by
  rw [pidList_step h]
  cases op with
  | updatePidList new => rfl
  | clearProperty => exact absurd rfl hclear
  | getSetupData => exact absurd (Or.inl rfl) hcommits
  | getPlayData => exact if_neg fun hchanged ↦ hcommits (Or.inr ⟨rfl, hchanged⟩)
  | setCaPids | psi | setVoltage | setParam | setChannelChanged | setChannelRetry
  | clearChannelChanged => rfl

/-- The slot of a committed pid, whatever happens until the next commit. -/
theorem getElem?_run {ops : List Op} (h : s.pidList[i]? = some ⟨some pid, .vaild⟩)
    (hpid : pid < 0x2000)
    (hops : Runs.EachStep step (fun s op ↦ ¬ Commits s op ∧ op ≠ .clearProperty) s ops)
    (hrun : Runs.run step s ops = some next) :
    next.pidList[i]? = some ⟨some pid, if StillListed pid ops then .vaild else .delete⟩ := by
  induction ops using List.reverseRecOn generalizing next with
  | nil =>
    obtain rfl := Option.some.inj hrun
    simpa [StillListed, lastList] using h
  | append_singleton ops op ih =>
    obtain ⟨mid, hmid, hlast⟩ := (Runs.run_append_eq_some_iff step _ _ _ _).mp hrun
    have hstep : step mid op = some next := by simpa using hlast
    obtain ⟨hcommits, hclear⟩ := Runs.EachStep.of_run hops hmid
    have hbefore := ih hops.of_append hmid
    rw [pidList_step_of_not_commits hcommits hclear hstep]
    cases hlist : kernelList op with
    | none =>
      simp only [stillListed_append_of_none hlist]
      exact hbefore
    | some new =>
      have hstatus : KeptStatus (if StillListed pid ops then .vaild else .delete) := by
        split
        · exact Or.inl rfl
        · exact Or.inr rfl
      simp only [stillListed_append_of_some hlist]
      exact getElem?_updateSlots hbefore hstatus hpid (new.map UInt16.toNat)

/-- No two slots hold the same pid. -/
theorem SlotsOk.index_inj (h : SlotsOk slots) {i j : ℕ} {slot other : PidElem}
    (hslot : slots[i]? = some slot) (hother : slots[j]? = some other) (hpid : slot.pid = some pid)
    (hsame : other.pid = some pid) : i = j := by
  have hnodup := h.nodup
  rw [List.Nodup, List.pairwise_filterMap, List.pairwise_iff_getElem] at hnodup
  obtain ⟨hi, rfl⟩ := List.getElem?_eq_some_iff.mp hslot
  obtain ⟨hj, rfl⟩ := List.getElem?_eq_some_iff.mp hother
  rcases Nat.lt_trichotomy i j with hlt | heq | hgt
  · exact absurd rfl (hnodup i j hi hj hlt pid hpid pid hsame)
  · exact heq
  · exact absurd rfl (hnodup j i hj hi hgt pid hsame pid hpid)

/-- In every reachable state no two slots hold the same pid and every slot in use holds a 13-bit
pid.  A pid that a commit left VALID keeps its slot until the next commit or `clearProperty`: it is
VALID if no kernel list came since or the last one has it, and DELETE otherwise. -/
theorem slots_kept (hs : Reachable s) :
    (∀ (i j : ℕ) (slot other : PidElem) (pid : ℕ), s.pidList[i]? = some slot →
        s.pidList[j]? = some other → slot.pid = some pid → other.pid = some pid → i = j) ∧
      (∀ slot ∈ s.pidList, slot.status ≠ .invalid → ∃ pid < 0x2000, slot.pid = some pid) ∧
      ∀ op after, Commits s op → step s op = some after →
        ∀ i pid : ℕ, after.pidList[i]? = some ⟨some pid, .vaild⟩ → ∀ ops next,
          Runs.EachStep step (fun s op ↦ ¬ Commits s op ∧ op ≠ .clearProperty) after ops →
            Runs.run step after ops = some next →
              next.pidList[i]? =
                some ⟨some pid, if StillListed pid ops then .vaild else .delete⟩ := by
  refine ⟨?_, ?_, ?_⟩
  · intro i j slot other pid hslot hother hpid hsame
    exact hs.slotsOk.index_inj hslot hother hpid hsame
  · intro slot hslot hused
    obtain ⟨pid, hpid⟩ := Option.ne_none_iff_exists'.mp (hs.slotsOk.exists_pid slot hslot hused)
    exact ⟨pid, hs.slotsOk.pid_lt slot hslot pid hpid, hpid⟩
  · intro op after _ hafter i pid hslot ops next hops hrun
    have hok := step_slotsOk hs.slotsOk hafter
    have hpid := hok.pid_lt _ (List.mem_of_getElem? hslot) pid rfl
    exact getElem?_run hslot hpid hops hrun

/-- Two pids are committed; then both are dropped and one of them comes back. -/
theorem slots_kept_twoPids :
    ∃ after next, Runs.run step (construct 0 {}) [.updatePidList [100, 101], .getSetupData] =
        some after ∧
      Runs.run step after [.updatePidList [], .updatePidList [101, 101, 102]] = some next ∧
      next.pidList[0]? = some ⟨some 100, .delete⟩ ∧
      next.pidList[1]? = some ⟨some 101, .vaild⟩ := by
  let s := updatePidList [100, 101] (construct 0 {})
  let after := (getSetupData s).2
  let ops : List Op := [.updatePidList [], .updatePidList [101, 101, 102]]
  have hreach : Reachable s := ⟨0, {}, [.updatePidList [100, 101]], rfl⟩
  have hops : Runs.EachStep step (fun s op ↦ ¬ Commits s op ∧ op ≠ .clearProperty) after ops := by
    apply Runs.eachStep_of_forall_mem
    intro op hop s
    rcases List.mem_pair.mp hop with rfl | rfl <;> simp [Commits]
  obtain ⟨-, -, hkept⟩ := slots_kept hreach
  have hslots : after.pidList[0]? = some ⟨some 100, .vaild⟩ ∧
      after.pidList[1]? = some ⟨some 101, .vaild⟩ := by
    decide +kernel
  have hfirst := hkept .getSetupData after (Or.inl rfl) rfl 0 100 hslots.1 ops _ hops rfl
  have hsecond := hkept .getSetupData after (Or.inl rfl) rfl 1 101 hslots.2 ops _ hops rfl
  exact ⟨after, _, rfl, rfl, hfirst, hsecond⟩

end SatipClient.Config
