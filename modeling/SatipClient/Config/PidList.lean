import Mathlib.Data.Finset.Dedup
import SatipClient.Foundation.BoundedSet

/-!
# The pid list

The table `m_pid_list` of `satipConfig`: `MAX_PIDS` slots, each with a pid and a status.  A slot
that was never used holds `-1` in the source and no pid here.  The loops over the slots only
ever change the slot they look at, so each is a map over the list; the search for a free slot
is `fillFirst`.

Seen from outside the table is three sets of pids, by the status of the slot that holds them.
`updateSlots` is computed on these sets (`collectActivePids_updateSlots`): the pids held form a set
of bounded size into which the new list is entered before anything is taken out.
-/

namespace SatipClient.Config

open BoundedSet

/-- `MAX_PIDS` -/
abbrev maxPids : ℕ := 30

/-- `t_pid_elem_status` -/
inductive PidElemStatus where
  | add
  | delete
  | vaild
  | invalid
  deriving DecidableEq

/-- `pid_elem` -/
structure PidElem where
  pid : Option ℕ := none
  status : PidElemStatus := .invalid
  deriving DecidableEq

/-- What the add pass of `updatePidList` does to a slot that holds the new pid. -/
def addFound (newPid : ℕ) (slot : PidElem) : PidElem :=
  if slot.pid = some newPid then
    match slot.status with
    | .add => slot
    | .delete => { slot with status := .vaild }
    | .vaild => slot
    | .invalid => { slot with status := .add }
  else slot

/-- The first slot that is not in use takes the new pid.  In a full list it is dropped. -/
def fillFirst (newPid : ℕ) : List PidElem → List PidElem
  | [] => []
  | slot :: rest =>
    if slot.status = .invalid then { pid := some newPid, status := .add } :: rest
    else slot :: fillFirst newPid rest

/-- One round of the add pass. -/
def addPid (slots : List PidElem) (newPid : ℕ) : List PidElem :=
  if 0x2000 ≤ newPid then slots
  else if ∃ slot ∈ slots, slot.pid = some newPid then slots.map (addFound newPid)
  else fillFirst newPid slots

/-- What the delete pass does to one slot. -/
def deleteUnlisted (new : List ℕ) (slot : PidElem) : PidElem :=
  if (∃ pid ∈ slot.pid, 0x2000 ≤ pid) ∨
      ∃ newPid ∈ new, newPid < 0x2000 ∧ slot.pid = some newPid then
    slot
  else
    match slot.status with
    | .add => { slot with status := .invalid }
    | .delete => slot
    | .vaild => { slot with status := .delete }
    | .invalid => slot

/-- The two passes of `updatePidList` over the slots. -/
def updateSlots (new : List ℕ) (slots : List PidElem) : List PidElem :=
  (new.foldl addPid slots).map (deleteUnlisted new)

/-- `clearPidList`, which keeps the pids. -/
def clearPidList (slots : List PidElem) : List PidElem :=
  slots.map fun slot ↦ { slot with status := .invalid }

/-- What `commitPidStates` does to one slot. -/
def commitState (slot : PidElem) : PidElem :=
  match slot.status with
  | .add => { slot with status := .vaild }
  | .delete => { slot with status := .invalid }
  | .vaild => slot
  | .invalid => slot

/-- `commitPidStates` -/
def commitPidStates (slots : List PidElem) : List PidElem := slots.map commitState

/-- The pids of the slots whose status is one of these. -/
def pidsWith (statuses : List PidElemStatus) (slots : List PidElem) : Finset ℕ :=
  (slots.filterMap fun slot ↦ if slot.status ∈ statuses then slot.pid else none).toFinset

/-- `collectActivePids` -/
def collectActivePids (slots : List PidElem) : Finset ℕ := pidsWith [.add, .vaild] slots

/-- The pids in use. -/
def heldPids (slots : List PidElem) : Finset ℕ := pidsWith [.add, .delete, .vaild] slots

/-- The pids that await their deletion on the server. -/
def leavingPids (slots : List PidElem) : Finset ℕ := pidsWith [.delete] slots

/-- The pids that were active at the last commit. -/
def committedPids (slots : List PidElem) : Finset ℕ := pidsWith [.delete, .vaild] slots

/-- Some slot has a status the server does not know of yet. -/
def hasPending (slots : List PidElem) : Prop :=
  ∃ slot ∈ slots, slot.status = .add ∨ slot.status = .delete

instance (slots : List PidElem) : Decidable (hasPending slots) :=
  inferInstanceAs (Decidable (∃ slot ∈ slots, slot.status = .add ∨ slot.status = .delete))

/-- The entries of a kernel list that are pids. -/
def listedPids (new : List ℕ) : List ℕ := new.filter (· < 0x2000)

/-- What holds of the slots in every state. -/
structure SlotsOk (slots : List PidElem) : Prop where
  length_eq : slots.length = maxPids
  nodup : (slots.filterMap PidElem.pid).Nodup
  exists_pid : ∀ slot ∈ slots, slot.status ≠ .invalid → slot.pid ≠ none
  pid_lt : ∀ slot ∈ slots, ∀ pid ∈ slot.pid, pid < 0x2000

/-! ## The sets -/

variable {slots : List PidElem} {new : List ℕ} {statuses : List PidElemStatus} {pid newPid : ℕ}

theorem mem_pidsWith :
    pid ∈ pidsWith statuses slots ↔
      ∃ slot ∈ slots, slot.status ∈ statuses ∧ slot.pid = some pid := by
  simp [pidsWith, List.mem_filterMap]

/-- A slot of another status does not count. -/
theorem pidsWith_middle_of_notMem {front back : List PidElem} {slot : PidElem}
    (h : slot.status ∉ statuses) :
    pidsWith statuses (front ++ slot :: back) = pidsWith statuses (front ++ back) := by
  simp [pidsWith, List.filterMap_append, h]

/-- A slot of one of these statuses counts. -/
theorem pidsWith_middle_of_mem {front back : List PidElem} {slot : PidElem}
    (h : slot.status ∈ statuses) (hpid : slot.pid = some pid) :
    pidsWith statuses (front ++ slot :: back) = insert pid (pidsWith statuses (front ++ back)) := by
  simp [pidsWith, List.filterMap_append, h, hpid]

theorem mem_collectActivePids :
    pid ∈ collectActivePids slots ↔
      ∃ slot ∈ slots, (slot.status = .add ∨ slot.status = .vaild) ∧ slot.pid = some pid := by
  simp [collectActivePids, mem_pidsWith]

theorem mem_heldPids :
    pid ∈ heldPids slots ↔ ∃ slot ∈ slots, slot.status ≠ .invalid ∧ slot.pid = some pid := by
  rw [heldPids, mem_pidsWith]
  apply exists_congr
  intro slot
  cases slot.status <;> simp

theorem mem_leavingPids :
    pid ∈ leavingPids slots ↔ ∃ slot ∈ slots, slot.status = .delete ∧ slot.pid = some pid := by
  simp [leavingPids, mem_pidsWith]

theorem mem_committedPids :
    pid ∈ committedPids slots ↔
      ∃ slot ∈ slots, (slot.status = .delete ∨ slot.status = .vaild) ∧ slot.pid = some pid := by
  simp [committedPids, mem_pidsWith]

/-- No two slots hold the same pid. -/
theorem inj_of_nodup (h : (slots.filterMap PidElem.pid).Nodup) {first second : PidElem}
    (hfirst : first ∈ slots) (hsecond : second ∈ slots) (hfirstpid : first.pid = some pid)
    (hsecondpid : second.pid = some pid) : first = second := by
  induction slots with
  | nil => cases hfirst
  | cons slot rest ih =>
    have hrest : (rest.filterMap PidElem.pid).Nodup :=
      h.sublist ((List.sublist_cons_self slot rest).filterMap _)
    have hnotMem : ∀ other ∈ rest, slot.pid = some pid → other.pid ≠ some pid := by
      intro other hother hslot hpid
      rw [List.filterMap_cons_some hslot, List.nodup_cons] at h
      exact h.1 (List.mem_filterMap.mpr ⟨other, hother, hpid⟩)
    rcases List.mem_cons.mp hfirst with rfl | hfirstrest <;>
      rcases List.mem_cons.mp hsecond with rfl | hsecondrest
    · rfl
    · exact absurd hsecondpid (hnotMem second hsecondrest hfirstpid)
    · exact absurd hfirstpid (hnotMem first hfirstrest hsecondpid)
    · exact ih hrest hfirstrest hsecondrest

/-- Without pids held twice, the active pids are those held that do not await their deletion. -/
theorem collectActivePids_eq (h : SlotsOk slots) :
    collectActivePids slots = heldPids slots \ leavingPids slots := by
  ext pid
  rw [mem_collectActivePids, Finset.mem_sdiff, mem_heldPids, mem_leavingPids]
  constructor
  · intro hactive
    obtain ⟨slot, hslot, hstatus, hpid⟩ := hactive
    refine ⟨⟨slot, hslot, by rcases hstatus with h | h <;> simp [h], hpid⟩, ?_⟩
    intro hleaving
    obtain ⟨other, hother, hdelete, hotherpid⟩ := hleaving
    have hsame : slot = other := inj_of_nodup h.nodup hslot hother hpid hotherpid
    subst hsame
    rcases hstatus with h | h <;> simp [h] at hdelete
  · intro hheld
    obtain ⟨⟨slot, hslot, hstatus, hpid⟩, hleaving⟩ := hheld
    refine ⟨slot, hslot, ?_, hpid⟩
    have hdelete : slot.status ≠ .delete := fun hdelete ↦ hleaving ⟨slot, hslot, hdelete, hpid⟩
    cases hcase : slot.status <;> simp_all

/-! ## The add pass -/

@[simp]
theorem pid_addFound (newPid : ℕ) (slot : PidElem) : (addFound newPid slot).pid = slot.pid := by
  unfold addFound
  split
  · split <;> rfl
  · rfl

theorem status_addFound_ne_invalid (newPid : ℕ) (slot : PidElem) :
    (addFound newPid slot).status ≠ .invalid ↔
      slot.status ≠ .invalid ∨ slot.pid = some newPid := by
  unfold addFound
  by_cases hpid : slot.pid = some newPid <;> cases hstatus : slot.status <;> simp [hpid, hstatus]

theorem status_addFound_delete (newPid : ℕ) (slot : PidElem) :
    (addFound newPid slot).status = .delete ↔
      slot.status = .delete ∧ slot.pid ≠ some newPid := by
  unfold addFound
  by_cases hpid : slot.pid = some newPid <;> cases hstatus : slot.status <;> simp [hpid, hstatus]

theorem status_addFound_committed (newPid : ℕ) (slot : PidElem) :
    ((addFound newPid slot).status = .delete ∨ (addFound newPid slot).status = .vaild) ↔
      slot.status = .delete ∨ slot.status = .vaild := by
  unfold addFound
  by_cases hpid : slot.pid = some newPid <;> cases hstatus : slot.status <;> simp [hpid, hstatus]

/-- Either no slot is free, or the new pid replaces what one free slot holds. -/
theorem fillFirst_cases (newPid : ℕ) (slots : List PidElem) :
    ((∀ slot ∈ slots, slot.status ≠ .invalid) ∧ fillFirst newPid slots = slots) ∨
      ∃ front old back, slots = front ++ old :: back ∧ old.status = .invalid ∧
        fillFirst newPid slots = front ++ { pid := some newPid, status := .add } :: back := by
  induction slots with
  | nil => exact Or.inl ⟨by simp, rfl⟩
  | cons slot rest ih =>
    by_cases hfree : slot.status = .invalid
    · exact Or.inr ⟨[], slot, rest, rfl, hfree, by simp [fillFirst, hfree]⟩
    rcases ih with ⟨hfull, hrest⟩ | ⟨front, old, back, hsplit, hold, hrest⟩
    · left
      refine ⟨?_, by simp [fillFirst, hfree, hrest]⟩
      intro other hother
      rcases List.mem_cons.mp hother with rfl | hother
      · exact hfree
      · exact hfull other hother
    · right
      exact ⟨slot :: front, old, back, by rw [hsplit]; rfl, hold, by simp [fillFirst, hfree, hrest]⟩

/-- The three outcomes of one round of the add pass. -/
theorem addPid_cases (slots : List PidElem) (h : newPid < 0x2000) :
    ((∃ slot ∈ slots, slot.pid = some newPid) ∧
        addPid slots newPid = slots.map (addFound newPid)) ∨
      ((∀ slot ∈ slots, slot.pid ≠ some newPid) ∧ (∀ slot ∈ slots, slot.status ≠ .invalid) ∧
        addPid slots newPid = slots) ∨
      ((∀ slot ∈ slots, slot.pid ≠ some newPid) ∧ ∃ front old back,
        slots = front ++ old :: back ∧ old.status = .invalid ∧
          addPid slots newPid = front ++ { pid := some newPid, status := .add } :: back) := by
  unfold addPid
  rw [if_neg (Nat.not_le.mpr h)]
  by_cases hfound : ∃ slot ∈ slots, slot.pid = some newPid
  · exact Or.inl ⟨hfound, if_pos hfound⟩
  rw [if_neg hfound]
  have hnew : ∀ slot ∈ slots, slot.pid ≠ some newPid := by
    intro slot hslot hpid
    exact hfound ⟨slot, hslot, hpid⟩
  rcases fillFirst_cases newPid slots with hfull | hfree
  · exact Or.inr (Or.inl ⟨hnew, hfull⟩)
  · exact Or.inr (Or.inr ⟨hnew, hfree⟩)

theorem notMem_pidsWith (statuses : List PidElemStatus) (h : ∀ slot ∈ slots, slot.pid ≠ some pid) :
    pid ∉ pidsWith statuses slots := by
  intro hmem
  obtain ⟨slot, hslot, -, hpid⟩ := mem_pidsWith.mp hmem
  exact h slot hslot hpid

theorem leavingPids_addPid (slots : List PidElem) (h : newPid < 0x2000) :
    leavingPids (addPid slots newPid) = (leavingPids slots).erase newPid := by
  rcases addPid_cases slots h with ⟨-, heq⟩ | ⟨hnew, -, heq⟩ |
    ⟨hnew, front, old, back, rfl, hold, heq⟩
  · rw [heq]
    ext pid
    rw [Finset.mem_erase, mem_leavingPids, mem_leavingPids]
    simp only [List.mem_map, exists_exists_and_eq_and, status_addFound_delete, pid_addFound]
    constructor
    · intro hleaving
      obtain ⟨slot, hslot, ⟨hdelete, hne⟩, hpid⟩ := hleaving
      exact ⟨fun heq ↦ hne (heq ▸ hpid), slot, hslot, hdelete, hpid⟩
    · intro hleaving
      obtain ⟨hne, slot, hslot, hdelete, hpid⟩ := hleaving
      refine ⟨slot, hslot, ⟨hdelete, ?_⟩, hpid⟩
      rw [hpid]
      exact fun heq ↦ hne (Option.some.inj heq)
  · rw [heq]
    exact (Finset.erase_eq_of_notMem (notMem_pidsWith [.delete] hnew)).symm
  · have hfree := Finset.erase_eq_of_notMem (notMem_pidsWith [.delete] hnew)
    rw [heq, leavingPids, leavingPids, hfree, pidsWith_middle_of_notMem (by simp),
      pidsWith_middle_of_notMem (by simp [hold])]

theorem committedPids_addPid (slots : List PidElem) (newPid : ℕ) :
    committedPids (addPid slots newPid) = committedPids slots := by
  by_cases h : newPid < 0x2000
  swap
  · rw [addPid, if_pos (Nat.not_lt.mp h)]
  rcases addPid_cases slots h with ⟨-, heq⟩ | ⟨-, -, heq⟩ | ⟨-, front, old, back, rfl, hold, heq⟩
  · rw [heq]
    ext pid
    rw [mem_committedPids, mem_committedPids]
    simp only [List.mem_map, exists_exists_and_eq_and, status_addFound_committed, pid_addFound]
  · rw [heq]
  · rw [heq, committedPids, committedPids, pidsWith_middle_of_notMem (by simp),
      pidsWith_middle_of_notMem (by simp [hold])]

/-- A slot that is not in use leaves room in the set of pids held. -/
theorem card_heldPids_lt (h : SlotsOk slots) {slot : PidElem} (hslot : slot ∈ slots)
    (hfree : slot.status = .invalid) : (heldPids slots).card < maxPids := by
  obtain ⟨front, back, rfl⟩ := List.append_of_mem hslot
  rw [heldPids, pidsWith_middle_of_notMem (by simp [hfree])]
  calc
    _ ≤ ((front ++ back).filterMap _).length := List.toFinset_card_le _
    _ ≤ (front ++ back).length := List.length_filterMap_le _ _
    _ < (front ++ slot :: back).length := by simp
    _ = maxPids := h.length_eq

theorem card_heldPids_le (h : SlotsOk slots) : (heldPids slots).card ≤ maxPids := by
  calc
    _ ≤ (slots.filterMap _).length := List.toFinset_card_le _
    _ ≤ slots.length := List.length_filterMap_le _ _
    _ = maxPids := h.length_eq

/-- When every slot is in use, as many pids are held. -/
theorem card_heldPids_of_full (h : SlotsOk slots) (hfull : ∀ slot ∈ slots, slot.status ≠ .invalid) :
    (heldPids slots).card = maxPids := by
  have hstatuses : ∀ slot ∈ slots, slot.status ∈ [PidElemStatus.add, .delete, .vaild] := by
    intro slot hslot
    have hne := hfull slot hslot
    cases hstatus : slot.status <;> simp_all
  have hpids : heldPids slots = (slots.filterMap PidElem.pid).toFinset := by
    rw [heldPids, pidsWith]
    congr 1
    apply List.filterMap_congr
    intro slot hslot
    rw [if_pos (hstatuses slot hslot)]
  have hlength : (slots.filterMap PidElem.pid).length = slots.length := by
    rw [List.length_filterMap_eq_countP, List.countP_eq_length]
    intro slot hslot
    exact Option.isSome_iff_ne_none.mpr (h.exists_pid slot hslot (hfull slot hslot))
  rw [hpids, List.toFinset_card_of_nodup h.nodup, hlength, h.length_eq]

/-- On the pids held, a round of the add pass is an insertion into a set of bounded size. -/
theorem heldPids_addPid (h : SlotsOk slots) (hpid : newPid < 0x2000) :
    heldPids (addPid slots newPid) = boundedInsert maxPids (heldPids slots) newPid := by
  rcases addPid_cases slots hpid with ⟨hfound, heq⟩ | ⟨hnew, hfull, heq⟩ |
    ⟨hnew, front, old, back, rfl, hold, heq⟩
  · obtain ⟨slot, hslot, hslotpid⟩ := hfound
    have hroom : newPid ∈ heldPids slots ∨ (heldPids slots).card < maxPids := by
      by_cases hfree : slot.status = .invalid
      · exact Or.inr (card_heldPids_lt h hslot hfree)
      · exact Or.inl (mem_heldPids.mpr ⟨slot, hslot, hfree, hslotpid⟩)
    rw [heq, boundedInsert_of_room hroom]
    ext pid
    rw [Finset.mem_insert, mem_heldPids, mem_heldPids]
    simp only [List.mem_map, exists_exists_and_eq_and, status_addFound_ne_invalid, pid_addFound]
    constructor
    · intro hheld
      obtain ⟨other, hother, hstatus | hsame, hotherpid⟩ := hheld
      · exact Or.inr ⟨other, hother, hstatus, hotherpid⟩
      · exact Or.inl (Option.some.inj (hotherpid.symm.trans hsame))
    · intro hheld
      rcases hheld with rfl | ⟨other, hother, hstatus, hotherpid⟩
      · exact ⟨slot, hslot, Or.inr hslotpid, hslotpid⟩
      · exact ⟨other, hother, Or.inl hstatus, hotherpid⟩
  · rw [heq]
    exact (boundedInsert_of_full (notMem_pidsWith _ hnew) (card_heldPids_of_full h hfull).ge).symm
  · have hroom := card_heldPids_lt h (List.mem_append_right front List.mem_cons_self) hold
    rw [boundedInsert_of_room (Or.inr hroom), heq, heldPids, heldPids,
      pidsWith_middle_of_mem (by simp) rfl, pidsWith_middle_of_notMem (by simp [hold])]

/-! ## The invariant of the slots -/

/-- A change of statuses keeps the invariant when every slot it puts to use holds a pid. -/
theorem SlotsOk.map (h : SlotsOk slots) {f : PidElem → PidElem}
    (hpid : ∀ slot, (f slot).pid = slot.pid)
    (hused : ∀ slot ∈ slots, (f slot).status ≠ .invalid → slot.pid ≠ none) :
    SlotsOk (slots.map f) where
  length_eq := by rw [List.length_map, h.length_eq]
  nodup := by
    rw [List.filterMap_map]
    have hsame : PidElem.pid ∘ f = PidElem.pid := funext hpid
    rw [hsame]
    exact h.nodup
  exists_pid := by
    intro slot hslot hstatus
    obtain ⟨old, hold, rfl⟩ := List.mem_map.mp hslot
    rw [hpid]
    exact hused old hold hstatus
  pid_lt := by
    intro slot hslot pid hmem
    obtain ⟨old, hold, rfl⟩ := List.mem_map.mp hslot
    rw [hpid] at hmem
    exact h.pid_lt old hold pid hmem

theorem slotsOk_replicate : SlotsOk (List.replicate maxPids {}) where
  length_eq := List.length_replicate
  nodup := by decide
  exists_pid := by
    intro slot hslot hstatus
    rw [List.eq_of_mem_replicate hslot] at hstatus
    exact absurd rfl hstatus
  pid_lt := by
    intro slot hslot pid hmem
    rw [List.eq_of_mem_replicate hslot] at hmem
    cases hmem

/-- A pid that no slot holds may replace what a slot holds. -/
theorem SlotsOk.replace {front back : List PidElem} {old : PidElem}
    (h : SlotsOk (front ++ old :: back))
    (hnew : ∀ slot ∈ front ++ old :: back, slot.pid ≠ some newPid) (hpid : newPid < 0x2000) :
    SlotsOk (front ++ { pid := some newPid, status := .add } :: back) where
  length_eq := by
    have hlength := h.length_eq
    simpa using hlength
  nodup := by
    have hrest : ((front ++ back).filterMap PidElem.pid).Nodup := by
      have hsublist := ((List.sublist_cons_self old back).append_left front).filterMap PidElem.pid
      exact List.Nodup.sublist hsublist h.nodup
    have hnotMem : newPid ∉ (front ++ back).filterMap PidElem.pid := by
      intro hmem
      obtain ⟨slot, hslot, hslotpid⟩ := List.mem_filterMap.mp hmem
      exact hnew slot (((List.sublist_cons_self old back).append_left front).subset hslot) hslotpid
    rw [List.filterMap_append] at hrest hnotMem
    simp only [List.filterMap_append, List.filterMap_cons]
    rw [List.nodup_middle, List.nodup_cons]
    exact ⟨hnotMem, hrest⟩
  exists_pid := by
    intro slot hslot hstatus
    rcases List.mem_append.mp hslot with hfront | hback
    · exact h.exists_pid slot (List.mem_append_left _ hfront) hstatus
    rcases List.mem_cons.mp hback with rfl | hback
    · simp
    · exact h.exists_pid slot (List.mem_append_right _ (List.mem_cons_of_mem _ hback)) hstatus
  pid_lt := by
    intro slot hslot pid hmem
    rcases List.mem_append.mp hslot with hfront | hback
    · exact h.pid_lt slot (List.mem_append_left _ hfront) pid hmem
    rcases List.mem_cons.mp hback with rfl | hback
    · obtain rfl := Option.some.inj hmem
      exact hpid
    · exact h.pid_lt slot (List.mem_append_right _ (List.mem_cons_of_mem _ hback)) pid hmem

theorem SlotsOk.addPid (h : SlotsOk slots) (newPid : ℕ) : SlotsOk (addPid slots newPid) := by
  by_cases hpid : newPid < 0x2000
  swap
  · rwa [Config.addPid, if_pos (Nat.not_lt.mp hpid)]
  rcases addPid_cases slots hpid with ⟨-, heq⟩ | ⟨-, -, heq⟩ | ⟨hnew, front, old, back, rfl, -, heq⟩
  · rw [heq]
    apply h.map (pid_addFound newPid)
    intro slot hslot hstatus
    rcases (status_addFound_ne_invalid newPid slot).mp hstatus with hused | hsame
    · exact h.exists_pid slot hslot hused
    · simp [hsame]
  · rwa [heq]
  · rw [heq]
    exact h.replace hnew hpid

theorem SlotsOk.addPass (h : SlotsOk slots) (new : List ℕ) :
    SlotsOk (new.foldl Config.addPid slots) := by
  induction new generalizing slots with
  | nil => exact h
  | cons newPid new ih => exact ih (h.addPid newPid)

/-! ## Both passes -/

theorem addPid_of_not_lt (h : ¬ newPid < 0x2000) : addPid slots newPid = slots :=
  if_pos (Nat.not_lt.mp h)

/-- The add pass on the pids held. -/
theorem heldPids_addPass (h : SlotsOk slots) (new : List ℕ) :
    heldPids (new.foldl addPid slots) =
      boundedUnion maxPids (heldPids slots) (listedPids new) := by
  induction new generalizing slots with
  | nil => rfl
  | cons newPid new ih =>
    rw [List.foldl_cons, ih (h.addPid newPid)]
    by_cases hpid : newPid < 0x2000
    · rw [listedPids, listedPids, List.filter_cons_of_pos (by simpa using hpid),
        boundedUnion_cons, heldPids_addPid h hpid]
    · rw [listedPids, listedPids, List.filter_cons_of_neg (by simpa using hpid),
        addPid_of_not_lt hpid]

/-- The add pass on the pids that await their deletion. -/
theorem leavingPids_addPass (slots : List PidElem) (new : List ℕ) :
    leavingPids (new.foldl addPid slots) = leavingPids slots \ (listedPids new).toFinset := by
  induction new generalizing slots with
  | nil => simp [listedPids]
  | cons newPid new ih =>
    rw [List.foldl_cons, ih]
    by_cases hpid : newPid < 0x2000
    · rw [listedPids, listedPids, List.filter_cons_of_pos (by simpa using hpid),
        leavingPids_addPid slots hpid, List.toFinset_cons, Finset.sdiff_insert,
        Finset.erase_sdiff_comm]
    · rw [listedPids, listedPids, List.filter_cons_of_neg (by simpa using hpid),
        addPid_of_not_lt hpid]

theorem committedPids_addPass (slots : List PidElem) (new : List ℕ) :
    committedPids (new.foldl addPid slots) = committedPids slots := by
  induction new generalizing slots with
  | nil => rfl
  | cons newPid new ih => rw [List.foldl_cons, ih, committedPids_addPid]

@[simp]
theorem pid_deleteUnlisted (new : List ℕ) (slot : PidElem) :
    (deleteUnlisted new slot).pid = slot.pid := by
  unfold deleteUnlisted
  split
  · rfl
  · split <;> rfl

theorem status_deleteUnlisted_committed (new : List ℕ) (slot : PidElem) :
    ((deleteUnlisted new slot).status = .delete ∨ (deleteUnlisted new slot).status = .vaild) ↔
      slot.status = .delete ∨ slot.status = .vaild := by
  unfold deleteUnlisted
  split
  · rfl
  · cases hstatus : slot.status <;> simp [hstatus]

theorem status_deleteUnlisted_ne_invalid {slot : PidElem}
    (h : (deleteUnlisted new slot).status ≠ .invalid) : slot.status ≠ .invalid := by
  intro hinvalid
  apply h
  unfold deleteUnlisted
  split
  · exact hinvalid
  · simp [hinvalid]

/-- A pid of the list stays active, any other active pid does not. -/
theorem status_deleteUnlisted_active {slot : PidElem} (hslot : slot.pid = some pid)
    (hpid : pid < 0x2000) :
    ((deleteUnlisted new slot).status = .add ∨ (deleteUnlisted new slot).status = .vaild) ↔
      (slot.status = .add ∨ slot.status = .vaild) ∧ pid ∈ new := by
  have hcond : ((∃ p ∈ slot.pid, 0x2000 ≤ p) ∨
      ∃ newPid ∈ new, newPid < 0x2000 ∧ slot.pid = some newPid) ↔ pid ∈ new := by
    simp only [hslot, Option.mem_some_iff, Option.some.injEq]
    constructor
    · intro hcase
      rcases hcase with ⟨p, rfl, hp⟩ | ⟨newPid, hmem, -, rfl⟩
      · omega
      · exact hmem
    · intro hmem
      exact Or.inr ⟨pid, hmem, hpid, rfl⟩
  unfold deleteUnlisted
  by_cases hmem : pid ∈ new
  · rw [if_pos (hcond.mpr hmem)]
    simp [hmem]
  · rw [if_neg (mt hcond.mp hmem)]
    cases hstatus : slot.status <;> simp [hstatus, hmem]

theorem SlotsOk.updateSlots (h : SlotsOk slots) (new : List ℕ) :
    SlotsOk (updateSlots new slots) := by
  apply (h.addPass new).map (pid_deleteUnlisted new)
  intro slot hslot hstatus
  exact (h.addPass new).exists_pid slot hslot (status_deleteUnlisted_ne_invalid hstatus)

/-- `updatePidList` never changes what was committed. -/
theorem committedPids_updateSlots (new : List ℕ) (slots : List PidElem) :
    committedPids (updateSlots new slots) = committedPids slots := by
  rw [← committedPids_addPass slots new]
  ext pid
  simp only [updateSlots, mem_committedPids, List.mem_map, exists_exists_and_eq_and,
    status_deleteUnlisted_committed, pid_deleteUnlisted]

/-- The active pids after `updatePidList`: those of the list that the table could take in. -/
theorem collectActivePids_updateSlots (h : SlotsOk slots) (new : List ℕ) :
    collectActivePids (updateSlots new slots) =
      boundedUnion maxPids (heldPids slots) (listedPids new) ∩ (listedPids new).toFinset := by
  have hactive : collectActivePids (new.foldl addPid slots) =
      boundedUnion maxPids (heldPids slots) (listedPids new) \
        (leavingPids slots \ (listedPids new).toFinset) := by
    rw [collectActivePids_eq (h.addPass new), heldPids_addPass h, leavingPids_addPass]
  have hdelete : collectActivePids (updateSlots new slots) =
      collectActivePids (new.foldl addPid slots) ∩ (listedPids new).toFinset := by
    ext pid
    rw [Finset.mem_inter, mem_collectActivePids, mem_collectActivePids]
    simp only [updateSlots, List.mem_map, exists_exists_and_eq_and, pid_deleteUnlisted,
      listedPids, List.mem_toFinset, List.mem_filter, decide_eq_true_eq]
    constructor
    · intro hmem
      obtain ⟨slot, hslot, hstatus, hpid⟩ := hmem
      have hlt := (h.addPass new).pid_lt slot hslot pid hpid
      obtain ⟨hbefore, hlisted⟩ := (status_deleteUnlisted_active hpid hlt).mp hstatus
      exact ⟨⟨slot, hslot, hbefore, hpid⟩, hlisted, hlt⟩
    · intro hmem
      obtain ⟨⟨slot, hslot, hstatus, hpid⟩, hlisted, hlt⟩ := hmem
      exact ⟨slot, hslot, (status_deleteUnlisted_active hpid hlt).mpr ⟨hstatus, hlisted⟩, hpid⟩
  rw [hdelete, hactive]
  ext pid
  simp only [Finset.mem_inter, Finset.mem_sdiff]
  tauto

/-- Exactly the pids of the list are active afterwards if and only if the table has room for them
beside all pids it holds, those that await their deletion included. -/
theorem collectActivePids_updateSlots_eq_iff (h : SlotsOk slots) (new : List ℕ) :
    collectActivePids (updateSlots new slots) = (listedPids new).toFinset ↔
      (heldPids slots ∪ (listedPids new).toFinset).card ≤ maxPids := by
  rw [collectActivePids_updateSlots h, Finset.inter_eq_right]
  exact subset_boundedUnion_iff (card_heldPids_le h) (listedPids new)

/-! ## Clearing and committing -/

theorem SlotsOk.clearPidList (h : SlotsOk slots) : SlotsOk (clearPidList slots) :=
  h.map (fun _ ↦ rfl) fun _ _ hstatus ↦ absurd rfl hstatus

@[simp]
theorem pid_commitState (slot : PidElem) : (commitState slot).pid = slot.pid := by
  unfold commitState
  split <;> rfl

theorem status_commitState (slot : PidElem) :
    (commitState slot).status =
      if slot.status = .add ∨ slot.status = .vaild then .vaild else .invalid := by
  unfold commitState
  cases hstatus : slot.status <;> simp [hstatus]

theorem SlotsOk.commitPidStates (h : SlotsOk slots) : SlotsOk (commitPidStates slots) := by
  apply h.map pid_commitState
  intro slot hslot hstatus
  apply h.exists_pid slot hslot
  intro hinvalid
  simp [commitState, hinvalid] at hstatus

@[simp]
theorem collectActivePids_clearPidList (slots : List PidElem) :
    collectActivePids (clearPidList slots) = ∅ := by
  ext pid
  simp [mem_collectActivePids, clearPidList]

@[simp]
theorem committedPids_clearPidList (slots : List PidElem) :
    committedPids (clearPidList slots) = ∅ := by
  ext pid
  simp [mem_committedPids, clearPidList]

/-- Committing keeps the active pids. -/
@[simp]
theorem collectActivePids_commitPidStates (slots : List PidElem) :
    collectActivePids (commitPidStates slots) = collectActivePids slots := by
  ext pid
  simp only [commitPidStates, mem_collectActivePids, List.mem_map, exists_exists_and_eq_and,
    pid_commitState, status_commitState]
  apply exists_congr
  intro slot
  split <;> simp_all

/-- Afterwards the active pids are the committed ones. -/
@[simp]
theorem committedPids_commitPidStates (slots : List PidElem) :
    committedPids (commitPidStates slots) = collectActivePids slots := by
  ext pid
  simp only [commitPidStates, mem_committedPids, mem_collectActivePids, List.mem_map,
    exists_exists_and_eq_and, pid_commitState, status_commitState]
  apply exists_congr
  intro slot
  split <;> simp_all

/-- With nothing pending the active pids are the committed ones. -/
theorem collectActivePids_of_not_hasPending (h : ¬ hasPending slots) :
    collectActivePids slots = committedPids slots := by
  ext pid
  rw [mem_collectActivePids, mem_committedPids]
  apply exists_congr
  intro slot
  apply and_congr_right
  intro hslot
  have hne : slot.status ≠ .add ∧ slot.status ≠ .delete :=
    ⟨fun hadd ↦ h ⟨slot, hslot, Or.inl hadd⟩, fun hdelete ↦ h ⟨slot, hslot, Or.inr hdelete⟩⟩
  simp [hne.1, hne.2]

theorem not_hasPending_commitPidStates (slots : List PidElem) :
    ¬ hasPending (commitPidStates slots) := by
  intro hpending
  obtain ⟨slot, hslot, hstatus⟩ := hpending
  obtain ⟨old, -, rfl⟩ := List.mem_map.mp hslot
  rw [status_commitState] at hstatus
  split at hstatus <;> simp at hstatus

theorem not_hasPending_clearPidList (slots : List PidElem) : ¬ hasPending (clearPidList slots) := by
  simp [hasPending, clearPidList]

end SatipClient.Config
