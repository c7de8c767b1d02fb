import Mathlib.Data.List.Infix
import SatipClient.Foundation.Runs

/-!
# Histories

A history is a list of events, the last one at the end.  Many properties of a history say of each
event what the events before it must be; `Each` packages them, so that such a property is proved
where the event happens.
-/

namespace SatipClient.History

variable {Event : Type*} {P : List Event → Event → Prop} {history more : List Event}
  {event : Event}

/-- Every event meets a condition together with the events before it. -/
def Each (P : List Event → Event → Prop) (history : List Event) : Prop :=
  ∀ front event back, history = front ++ event :: back → P front event

theorem each_nil : Each P [] := by
  intro front event back hsplit
  simp at hsplit

/-- One more event has to meet the condition. -/
theorem Each.snoc (h : Each P history) (hevent : P history event) :
    Each P (history ++ [event]) := by
  intro front other back hsplit
  rcases List.eq_nil_or_concat back with rfl | ⟨back, last, rfl⟩
  · obtain ⟨rfl, hsame⟩ := List.append_inj' hsplit rfl
    obtain rfl : event = other := by simpa using hsame
    exact hevent
  · have hlonger : history ++ [event] = (front ++ other :: back) ++ [last] := by simp [hsplit]
    obtain ⟨hfront, _⟩ := List.append_inj' hlonger rfl
    exact h front other back hfront

/-- Events that meet the condition whatever was before them. -/
theorem Each.append (h : Each P history) (hmore : ∀ event ∈ more, ∀ front, P front event) :
    Each P (history ++ more) := by
  induction more using List.reverseRecOn with
  | nil => simpa using h
  | append_singleton more event ih =>
    rw [← List.append_assoc]
    apply Each.snoc
    · exact ih fun other hother ↦ hmore other (List.mem_append_left [event] hother)
    · exact hmore event (by simp) (history ++ more)

/-! ## Steps that record -/

section Records

variable {State Op : Type*} {step : State → Op → Option State} {trace : State → List Event}
  {s next : State} {ops : List Op}

/-- Every step adds events to the history, or none. -/
def Records (step : State → Op → Option State) (trace : State → List Event) : Prop :=
  ∀ s op next, step s op = some next → trace s <+: trace next

theorem Records.run (h : Records step trace) (hrun : Runs.run step s ops = some next) :
    trace s <+: trace next := by
  induction ops generalizing s with
  | nil =>
    obtain rfl := Option.some.inj hrun
    exact List.prefix_refl _
  | cons op ops ih =>
    rw [Runs.run_cons] at hrun
    obtain ⟨mid, hmid, hrest⟩ := Option.bind_eq_some_iff.mp hrun
    exact (h s op mid hmid).trans (ih hrest)

/-- An event that is new at the end of a run was recorded in one of its steps. -/
theorem Records.exists_step (h : Records step trace) (hrun : Runs.run step s ops = some next)
    {front back : List Event} (hsplit : trace next = front ++ event :: back)
    (hnew : (trace s).length ≤ front.length) :
    ∃ before op after mid last, ops = before ++ op :: after ∧
      Runs.run step s before = some mid ∧ step mid op = some last ∧ trace mid <+: front ∧
      front ++ [event] <+: trace last := by
  have hfront : front <+: trace next := ⟨event :: back, hsplit.symm⟩
  have hevent : front ++ [event] <+: trace next := ⟨back, by rw [hsplit]; simp⟩
  induction ops generalizing s with
  | nil =>
    obtain rfl := Option.some.inj hrun
    rw [hsplit, List.length_append, List.length_cons] at hnew
    omega
  | cons op ops ih =>
    rw [Runs.run_cons] at hrun
    obtain ⟨mid, hmid, hrest⟩ := Option.bind_eq_some_iff.mp hrun
    have hrecorded : trace mid <+: trace next := h.run hrest
    by_cases hhere : front.length < (trace mid).length
    · refine ⟨[], op, ops, s, mid, rfl, rfl, hmid, ?_, ?_⟩
      · exact List.prefix_of_prefix_length_le ((h s op mid hmid).trans hrecorded) hfront hnew
      · apply List.prefix_of_prefix_length_le hevent hrecorded
        rw [List.length_append, List.length_singleton]
        exact hhere
    · obtain ⟨before, other, after, mid', last, rfl, hbefore, hlast, hold, hgot⟩ :=
        ih hrest (Nat.le_of_not_lt hhere)
      refine ⟨op :: before, other, after, mid', last, rfl, ?_, hlast, hold, hgot⟩
      rw [Runs.run_cons, hmid]
      exact hbefore

end Records

end SatipClient.History
