import SatipClient.Config.ServerPids

/-!
# The difference that a PLAY requests

A PLAY names the pids that are wanted and not requested in `addpids`, and those that are requested
and not wanted in `delpids`, each of them once (`getPlayData_diff`).  With that the wanted pids are
the requested ones and nothing is pending.
-/

namespace SatipClient.Config

open QueryString

/-- What the parameters of this name say. -/
def valuesOf (name : String) (parameters : List (List Char)) : List (List Char) :=
  parameters.filterMap fun field ↦ if key field = name.toList then some (value field) else none

/-- The pids that a query string lists under this name, in order. -/
def parsedPids (name query : String) : List ℕ := (valuesOf name (queryFields query)).flatMap numbers

/-- A list of pids as the value of a parameter, which is left out when there are none. -/
def listText (pids : Finset ℕ) : List (List Char) :=
  if pids = ∅ then [] else [(joinNumbers pids).toList]

/-- The query string of a PLAY adds and deletes these pids. -/
structure PlayDiff (query : String) (added deleted : Finset ℕ) : Prop where
  addpids : parsedPids "addpids" query = added.sort (· ≤ ·)
  delpids : parsedPids "delpids" query = deleted.sort (· ≤ ·)
  addpids_text : valuesOf "addpids" (queryFields query) = listText added
  delpids_text : valuesOf "delpids" (queryFields query) = listText deleted
  begins : query = "" ∨ query.toList.head? = some '?'
  not_empty : ∀ field ∈ queryFields query, key field ≠ [] ∧ value field ≠ []

theorem valuesOf_append (name : String) (front back : List (List Char)) :
    valuesOf name (front ++ back) = valuesOf name front ++ valuesOf name back :=
  List.filterMap_append

/-- The list is read back as it was written. -/
theorem flatMap_numbers_listText (pids : Finset ℕ) :
    (listText pids).flatMap numbers = pids.sort (· ≤ ·) := by
  unfold listText
  split
  · rename_i hempty
    rw [hempty, Finset.sort_empty, List.flatMap_nil]
  · rename_i hpids
    rw [List.flatMap_singleton, numbers_joinNumbers hpids]

theorem valuesOf_of_isTuning {text name : String} (h : IsTuning text)
    (hname : name.toList ∈ ["pids".toList, "addpids".toList, "delpids".toList]) :
    valuesOf name (fields text) = [] := by
  rw [valuesOf, List.filterMap_eq_nil_iff]
  intro field hfield
  rw [if_neg]
  intro hkey
  exact h.2 field hfield (hkey ▸ hname)

theorem valuesOf_pidsText {name param : String}
    (hname : name.toList = '&' :: (param.toList ++ ['=']))
    (hplain : '&' ∉ param.toList ∧ '=' ∉ param.toList) (other : String) (pids : Finset ℕ) :
    valuesOf other (fields (pidsText name pids)) = if param = other then listText pids else [] := by
  by_cases hpids : pids = ∅
  · subst hpids
    simp [pidsText, valuesOf, listText]
  · rw [fields_pidsText hname hplain.1 hpids, valuesOf, List.filterMap_cons, key_eq hplain.2,
      value_eq hplain.2]
    by_cases hother : param = other
    · subst hother
      simp [listText, hpids]
    · have hne : param.toList ≠ other.toList := fun h ↦ hother (String.toList_inj.mp h)
      simp [hother, hne]

theorem joinNumbers_ne_nil {pids : Finset ℕ} (h : pids ≠ ∅) : (joinNumbers pids).toList ≠ [] := by
  obtain ⟨first, rest, hsort⟩ := List.exists_cons_of_ne_nil (sort_ne_nil h)
  rw [joinNumbers, String.toList_intercalate, hsort]
  cases rest with
  | nil => simp
  | cons second rest =>
    simp only [List.map_cons, List.intercalate_cons_cons, List.append_assoc]
    exact List.append_ne_nil_of_left_ne_nil (natRepr_ne_nil first) _

/-- No parameter that lists pids is empty. -/
theorem not_empty_of_mem_pidsText {name param : String}
    (hname : name.toList = '&' :: (param.toList ++ ['=']))
    (hplain : '&' ∉ param.toList ∧ '=' ∉ param.toList) (hparam : param.toList ≠ [])
    {pids : Finset ℕ} {field : List Char} (h : field ∈ fields (pidsText name pids)) :
    key field ≠ [] ∧ value field ≠ [] := by
  by_cases hpids : pids = ∅
  · simp [pidsText, hpids] at h
  · rw [fields_pidsText hname hplain.1 hpids, List.mem_singleton] at h
    rw [h, key_eq hplain.2, value_eq hplain.2]
    exact ⟨hparam, joinNumbers_ne_nil hpids⟩

theorem queryText_begins (data : String) :
    queryText data = "" ∨ (queryText data).toList.head? = some '?' := by
  unfold queryText
  split
  · exact Or.inl rfl
  · exact Or.inr (by simp)
  · exact Or.inr (by simp)

variable {s : SatipConfig}

/-- The text of a PLAY with a pid change pending. -/
theorem playDiff_queryText (s : SatipConfig) :
    PlayDiff (queryText (tuningText s ++ playPidsText (startPlay s)))
      (wantedPids s \ (startPlay s).requestedPids)
      ((startPlay s).requestedPids \ wantedPids s) := by
  have htuning := isTuning_tuningText s
  have hfields : queryFields (queryText (tuningText s ++ playPidsText (startPlay s))) =
      fields (tuningText s) ++
        (fields (pidsText "&addpids=" (wantedPids s \ (startPlay s).requestedPids)) ++
          fields (pidsText "&delpids=" ((startPlay s).requestedPids \ wantedPids s))) := by
    rw [queryFields_queryText (htuning.1.append (joinable_playPidsText _)),
      fields_append (joinable_playPidsText _), fields_playPidsText, wantedPids_startPlay]
  have haddname : "&addpids=".toList = '&' :: ("addpids".toList ++ ['=']) := rfl
  have hdelname : "&delpids=".toList = '&' :: ("delpids".toList ++ ['=']) := rfl
  have hadd := valuesOf_pidsText haddname (by decide)
  have hdel := valuesOf_pidsText hdelname (by decide)
  have haddpids : valuesOf "addpids" (queryFields
      (queryText (tuningText s ++ playPidsText (startPlay s)))) =
        listText (wantedPids s \ (startPlay s).requestedPids) := by
    rw [hfields, valuesOf_append, valuesOf_append, hadd, hdel,
      valuesOf_of_isTuning htuning (by simp)]
    simp
  have hdelpids : valuesOf "delpids" (queryFields
      (queryText (tuningText s ++ playPidsText (startPlay s)))) =
        listText ((startPlay s).requestedPids \ wantedPids s) := by
    rw [hfields, valuesOf_append, valuesOf_append, hadd, hdel,
      valuesOf_of_isTuning htuning (by simp)]
    simp
  refine ⟨?_, ?_, haddpids, hdelpids, queryText_begins _, fun field hfield ↦ ?_⟩
  · rw [parsedPids, haddpids, flatMap_numbers_listText]
  · rw [parsedPids, hdelpids, flatMap_numbers_listText]
  · rw [hfields, List.mem_append, List.mem_append] at hfield
    rcases hfield with hfield | hfield | hfield
    · exact ((params_tuningText s).2 field hfield).2
    · exact not_empty_of_mem_pidsText haddname (by decide) (by decide) hfield
    · exact not_empty_of_mem_pidsText hdelname (by decide) (by decide) hfield

/-- Nothing is pending once these pids were requested. -/
structure Committed (wanted : Finset ℕ) (s next : SatipConfig) : Prop where
  requestedPids : next.requestedPids = wanted
  active : collectActivePids next.pidList = collectActivePids s.pidList
  no_pending : ∀ slot ∈ next.pidList, slot.status ≠ .add ∧ slot.status ≠ .delete
  stationary : getPidStatus next = .stationary

theorem committed_commitPids (s : SatipConfig) : Committed (wantedPids s) s (commitPids s) := by
  have hpending := not_hasPending_commitPidStates s.pidList
  refine ⟨rfl, collectActivePids_commitPidStates s.pidList, fun slot hslot ↦ ?_, ?_⟩
  · exact ⟨fun hadd ↦ hpending ⟨slot, hslot, Or.inl hadd⟩,
      fun hdelete ↦ hpending ⟨slot, hslot, Or.inr hdelete⟩⟩
  · rw [getPidStatus_eq_stationary]
    exact ⟨if_neg hpending, rfl⟩

/-- With a pid change pending, a PLAY adds what is wanted and not requested and deletes what is
requested and not wanted, where nothing counts as requested when it carries tuning parameters.
Afterwards the wanted pids are the requested ones, and nothing is pending. -/
theorem getPlayData_diff (h : getPidStatus s = .changed) :
    PlayDiff (getPlayData s).1
        (wantedPids s \ if s.status = .changed then ∅ else s.requestedPids)
        ((if s.status = .changed then ∅ else s.requestedPids) \ wantedPids s) ∧
      Committed (wantedPids s) s (getPlayData s).2 := by
  have hchanged : getPidStatus (startPlay s) = .changed := by rwa [getPidStatus_startPlay]
  have hplay : getPlayData s =
      (queryText (tuningText s ++ playPidsText (startPlay s)), commitPids (startPlay s)) :=
    if_pos hchanged
  rw [hplay, ← requestedPids_startPlay]
  refine ⟨playDiff_queryText s, ?_⟩
  have hcommitted := committed_commitPids (startPlay s)
  rw [wantedPids_startPlay] at hcommitted
  exact ⟨hcommitted.requestedPids, by rw [hcommitted.active, pidList_startPlay],
    hcommitted.no_pending, hcommitted.stationary⟩

/-- One pid is dropped while another is joined. -/
theorem getPlayData_diff_twoPids :
    ∃ s, (Runs.run step (construct 0 {})
        [.updatePidList [100, 101], .getSetupData, .updatePidList [101, 102]] = some s) ∧
      PlayDiff (getPlayData s).1 {102} {100} := by
  have hfields : (Runs.run step (construct 0 {})
      [.updatePidList [100, 101], .getSetupData, .updatePidList [101, 102]]).map (fun s ↦
        (getPidStatus s, s.status, s.requestedPids, wantedPids s)) =
          some (.changed, .invalid, {100, 101}, {101, 102}) := by
    decide +kernel
  obtain ⟨s, hrun, hs⟩ := Option.map_eq_some_iff.mp hfields
  simp only [Prod.mk.injEq] at hs
  obtain ⟨hchanged, hstatus, hrequested, hwanted⟩ := hs
  have hdiff := (getPlayData_diff hchanged).1
  rw [hstatus, hrequested, hwanted] at hdiff
  exact ⟨s, hrun, hdiff⟩

end SatipClient.Config
