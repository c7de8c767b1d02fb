import Mathlib.Order.Interval.Set.Nat
import Mathlib.Tactic.Common

/-!
# Fair runs

Threads that share a state make steps in any order.  In a fair run a thread that can go on for ever
without being blocked makes a step at some time.  Where every state has a thread whose step brings
the goal nearer, and no other thread moves the goal away or blocks that one, a fair run comes to
the goal (`Helps.eventually`).
-/

namespace SatipClient.Fairness

variable {State Thread : Type*} (Step : Thread → State → State → Prop)

/-- The thread can make a step. -/
def Enabled (thread : Thread) (s : State) : Prop := ∃ next, Step thread s next

/-- A run: at each time a thread makes a step, or nothing happens. -/
def IsRun (run : ℕ → State) : Prop :=
  ∀ n, run (n + 1) = run n ∨ ∃ thread, Step thread (run n) (run (n + 1))

/-- The thread makes a step at time `n`. -/
def Moves (thread : Thread) (run : ℕ → State) (n : ℕ) : Prop :=
  Step thread (run n) (run (n + 1))

/-- The thread is not passed over for ever. -/
def Fair (thread : Thread) (run : ℕ → State) : Prop :=
  ∀ start, (∀ n, start ≤ n → Enabled Step thread (run n)) → ∃ n, start ≤ n ∧ Moves Step thread run n

variable {Step} {run : ℕ → State}

/-- What every step keeps holds at all later times. -/
theorem IsRun.invariant {Inv : State → Prop} (hrun : IsRun Step run)
    (hstep : ∀ thread s next, Inv s → Step thread s next → Inv next) {start : ℕ}
    (hstart : Inv (run start)) {n : ℕ} (hn : start ≤ n) : Inv (run n) := by
  induction n, hn using Nat.le_induction with
  | base => exact hstart
  | succ n _ ih =>
    rcases hrun n with heq | ⟨thread, hthread⟩
    · rwa [heq]
    · exact hstep thread _ _ ih hthread

/-- A way to the goal: from every state that is not there, the step of `helper` makes `rank`
smaller; other threads do not make it larger, and while it stays the same the helper does.  What is
needed of the states only has to last up to the goal. -/
structure Helps (Step : Thread → State → State → Prop) (Inv Goal : State → Prop) (rank : State → ℕ)
    (helper : State → Thread) : Prop where
  step_inv : ∀ thread s next, Inv s → ¬Goal s → Step thread s next → Goal next ∨ Inv next
  enabled : ∀ s, Inv s → ¬Goal s → Enabled Step (helper s) s
  descends : ∀ s next, Inv s → ¬Goal s → Step (helper s) s next → Goal next ∨ rank next < rank s
  waits : ∀ thread s next, Inv s → ¬Goal s → Step thread s next →
    Goal next ∨ rank next < rank s ∨ (rank next = rank s ∧ helper next = helper s)

variable {Inv Goal : State → Prop} {rank : State → ℕ} {helper : State → Thread}

/-- From a state that is not the goal, a fair run comes to the goal or nearer to it. -/
theorem Helps.exists_nearer (h : Helps Step Inv Goal rank helper) (hrun : IsRun Step run)
    (hfair : ∀ s, Inv s → ¬Goal s → Fair Step (helper s) run) {start : ℕ}
    (hstart : Inv (run start)) (hgoal : ¬Goal (run start)) :
    ∃ n, start ≤ n ∧ (Goal (run n) ∨ Inv (run n) ∧ rank (run n) < rank (run start)) := by
  by_contra hnone
  have hfar : ∀ n, start ≤ n → ¬Goal (run n) := fun n hn hg ↦ hnone ⟨n, hn, Or.inl hg⟩
  have hsame : ∀ n, start ≤ n → Inv (run n) ∧
      rank (run n) = rank (run start) ∧ helper (run n) = helper (run start) := by
    intro n hn
    induction n, hn using Nat.le_induction with
    | base => exact ⟨hstart, rfl, rfl⟩
    | succ n hn ih =>
      obtain ⟨hinv, hrank, hhelper⟩ := ih
      rcases hrun n with heq | ⟨thread, hthread⟩
      · rw [heq]
        exact ⟨hinv, hrank, hhelper⟩
      · have hlater : start ≤ n + 1 := hn.trans n.le_succ
        have hinv' : Inv (run (n + 1)) :=
          (h.step_inv thread _ _ hinv (hfar n hn) hthread).resolve_left (hfar (n + 1) hlater)
        rcases h.waits thread _ _ hinv (hfar n hn) hthread with hg | hlt | hwaits
        · exact absurd hg (hfar (n + 1) hlater)
        · exact absurd ⟨n + 1, hlater, Or.inr ⟨hinv', hlt.trans_eq hrank⟩⟩ hnone
        · exact ⟨hinv', hwaits.1.trans hrank, hwaits.2.trans hhelper⟩
  have hable : ∀ n, start ≤ n → Enabled Step (helper (run start)) (run n) := by
    intro n hn
    rw [← (hsame n hn).2.2]
    exact h.enabled _ (hsame n hn).1 (hfar n hn)
  obtain ⟨n, hn, hmoves⟩ := hfair _ hstart hgoal start hable
  have hlater := hsame (n + 1) (hn.trans n.le_succ)
  rw [Moves, ← (hsame n hn).2.2] at hmoves
  rcases h.descends _ _ (hsame n hn).1 (hfar n hn) hmoves with hg | hlt
  · exact hfar (n + 1) (hn.trans n.le_succ) hg
  · rw [hlater.2.1, (hsame n hn).2.1] at hlt
    exact lt_irrefl _ hlt

/-- Every fair run comes to the goal. -/
theorem Helps.eventually (h : Helps Step Inv Goal rank helper) (hrun : IsRun Step run)
    (hfair : ∀ s, Inv s → ¬Goal s → Fair Step (helper s) run) {start : ℕ}
    (hstart : Inv (run start)) : ∃ n, start ≤ n ∧ Goal (run n) := by
  induction hrank : rank (run start) using Nat.strong_induction_on generalizing start with
  | _ value ih =>
    by_cases hgoal : Goal (run start)
    · exact ⟨start, le_rfl, hgoal⟩
    · obtain ⟨mid, hmid, hnear⟩ := h.exists_nearer hrun hfair hstart hgoal
      rcases hnear with hg | ⟨hinv, hlt⟩
      · exact ⟨mid, hmid, hg⟩
      · obtain ⟨n, hn, hg⟩ := ih (rank (run mid)) (hrank ▸ hlt) hinv rfl
        exact ⟨n, hmid.trans hn, hg⟩

/-! ## Replaying a schedule -/

section replay

variable {Op : Type*} (step : State → Op → Option State)

/-- The states of a schedule, in which a step that cannot be made is passed over; behind its end
nothing happens. -/
def replay (start : State) (ops : List Op) (n : ℕ) : State :=
  (ops.take n).foldl (fun s op ↦ (step s op).getD s) start

theorem replay_succ (start : State) (ops : List Op) (n : ℕ) :
    replay step start ops (n + 1) =
      (ops[n]?).elim (replay step start ops n) fun op ↦
        (step (replay step start ops n) op).getD (replay step start ops n) := by
  rw [replay, List.take_add_one, List.foldl_append]
  cases ops[n]? <;> rfl

/-- The schedule is a run if each of its steps is one that somebody may make. -/
theorem isRun_replay {May : State → Thread → Op → Prop} {start : State} {ops : List Op}
    (h : ∀ n op, ops[n]? = some op → ∃ thread, May (replay step start ops n) thread op) :
    IsRun (fun thread s next ↦ ∃ op, May s thread op ∧ step s op = some next)
      (replay step start ops) := by
  intro n
  rw [replay_succ]
  cases hop : ops[n]? with
  | none => exact Or.inl rfl
  | some op =>
    simp only [Option.elim_some]
    cases hstep : step (replay step start ops n) op with
    | none => exact Or.inl rfl
    | some next =>
      obtain ⟨thread, hmay⟩ := h n op hop
      exact Or.inr ⟨thread, op, hmay, by rw [hstep, Option.getD_some]⟩

theorem replay_of_le (start : State) (ops : List Op) {n : ℕ} (hn : ops.length ≤ n) :
    replay step start ops n = replay step start ops ops.length := by
  unfold replay
  rw [List.take_of_length_le hn, List.take_length]

end replay

/-- A run that comes to rest is fair. -/
theorem fair_of_rest {thread : Thread} {rest : ℕ}
    (h : ∀ n, rest ≤ n → ¬Enabled Step thread (run n)) : Fair Step thread run := by
  intro start hable
  have hlater : rest ≤ max start rest := le_max_right start rest
  exact absurd (hable _ (le_max_left start rest)) (h _ hlater)

end SatipClient.Fairness
