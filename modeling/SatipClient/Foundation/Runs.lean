import Mathlib.Data.List.Induction
import Mathlib.Tactic.Common

/-!
# Runs of partial step functions

A component is a state type with a step function `State → Op → Option State`; a step that
answers `none` is a fault and ends the run.  This file packages the two inductions every
component needs: an invariant kept by each step holds after every run, and a step function
that never faults under an invariant never faults in a run.  Both take an extra condition
on the steps, which may look at the state in which a step is made.
-/

namespace SatipClient.Runs

variable {State Op : Type*} (step : State → Op → Option State)

/-- Perform the operations in order, until one faults. -/
def run (start : State) (ops : List Op) : Option State := ops.foldlM step start

@[simp]
theorem run_nil (start : State) : run step start [] = some start := rfl

@[simp]
theorem run_cons (start : State) (op : Op) (ops : List Op) :
    run step start (op :: ops) = (step start op).bind fun next ↦ run step next ops := by
  simp only [run, List.foldlM_cons, Option.bind_eq_bind]

theorem run_append (start : State) (front back : List Op) :
    run step start (front ++ back) = (run step start front).bind fun mid ↦ run step mid back := by
  simp only [run, List.foldlM_append, Option.bind_eq_bind]

/-- A run splits at any point into two runs. -/
theorem run_append_eq_some_iff (start finish : State) (front back : List Op) :
    run step start (front ++ back) = some finish ↔
      ∃ mid, run step start front = some mid ∧ run step mid back = some finish := by
  rw [run_append, Option.bind_eq_some_iff]

/-- The states that some run from `start` ends in. -/
def Reachable (start finish : State) : Prop := ∃ ops, run step start ops = some finish

theorem Reachable.refl (start : State) : Reachable step start start := ⟨[], rfl⟩

theorem Reachable.run {step} {start mid finish : State} (h : Reachable step start mid)
    {ops : List Op} (hrun : run step mid ops = some finish) : Reachable step start finish := by
  obtain ⟨front, hfront⟩ := h
  exact ⟨front ++ ops, (run_append_eq_some_iff step _ _ _ _).mpr ⟨mid, hfront, hrun⟩⟩

theorem Reachable.trans {step : State → Op → Option State} {start mid finish : State}
    (hfront : Reachable step start mid) (hback : Reachable step mid finish) :
    Reachable step start finish := by
  obtain ⟨ops, hops⟩ := hback
  exact hfront.run hops

theorem Reachable.single {step : State → Op → Option State} {start finish : State} {op : Op}
    (h : step start op = some finish) : Reachable step start finish :=
  ⟨[op], by rw [run_cons, h]; rfl⟩

/-- Every operation of the run meets `Ok` in the state in which it is performed. -/
def EachStep (Ok : State → Op → Prop) : State → List Op → Prop
  | _, [] => True
  | start, op :: ops => Ok start op ∧ ∀ next, step start op = some next → EachStep Ok next ops

theorem eachStep_cons_of_some {Ok : State → Op → Prop} {start next : State} {op : Op}
    (h : step start op = some next) (ops : List Op) :
    EachStep step Ok start (op :: ops) ↔ Ok start op ∧ EachStep step Ok next ops := by
  simp [EachStep, h]

theorem eachStep_cons_of_none {Ok : State → Op → Prop} {start : State} {op : Op}
    (h : step start op = none) (ops : List Op) :
    EachStep step Ok start (op :: ops) ↔ Ok start op := by
  simp [EachStep, h]

instance decidableEachStep {Ok : State → Op → Prop} [hOk : ∀ s op, Decidable (Ok s op)] :
    ∀ (start : State) (ops : List Op), Decidable (EachStep step Ok start ops)
  | _, [] => isTrue trivial
  | start, op :: ops =>
    match hnext : step start op with
    | none => decidable_of_iff' _ (eachStep_cons_of_none step hnext ops)
    | some next =>
      have : Decidable (EachStep step Ok next ops) := decidableEachStep next ops
      decidable_of_iff' _ (eachStep_cons_of_some step hnext ops)

theorem eachStep_of_forall {Ok : State → Op → Prop} (h : ∀ s op, Ok s op) (start : State)
    (ops : List Op) : EachStep step Ok start ops := by
  induction ops generalizing start with
  | nil => trivial
  | cons op ops ih => exact ⟨h start op, fun next _ ↦ ih next⟩

theorem eachStep_of_forall_mem {Ok : State → Op → Prop} {ops : List Op}
    (h : ∀ op ∈ ops, ∀ s, Ok s op) (start : State) : EachStep step Ok start ops := by
  induction ops generalizing start with
  | nil => trivial
  | cons op ops ih =>
    refine ⟨h op List.mem_cons_self start, fun next _ ↦ ?_⟩
    exact ih (fun other hother ↦ h other (List.mem_cons_of_mem op hother)) next

variable {step}

theorem EachStep.and {Ok Fine : State → Op → Prop} {start : State} {ops : List Op}
    (hok : EachStep step Ok start ops) (hfine : EachStep step Fine start ops) :
    EachStep step (fun s op ↦ Ok s op ∧ Fine s op) start ops := by
  induction ops generalizing start with
  | nil => trivial
  | cons op ops ih =>
    exact ⟨⟨hok.1, hfine.1⟩, fun next hnext ↦ ih (hok.2 next hnext) (hfine.2 next hnext)⟩

/-- What every step of a run meets, the one behind any beginning of the run meets. -/
theorem EachStep.of_run {Ok : State → Op → Prop} {start mid : State} {front back : List Op}
    {op : Op}
    (h : EachStep step Ok start (front ++ op :: back)) (hrun : run step start front = some mid) :
    Ok mid op := by
  induction front generalizing start with
  | nil =>
    obtain rfl := Option.some.inj hrun
    exact h.1
  | cons first front ih =>
    rw [run_cons, Option.bind_eq_some_iff] at hrun
    obtain ⟨next, hnext, hrest⟩ := hrun
    exact ih (h.2 next hnext) hrest

/-- What every step of a run meets, every step of its beginning meets. -/
theorem EachStep.of_append {Ok : State → Op → Prop} {start : State} {front back : List Op}
    (h : EachStep step Ok start (front ++ back)) : EachStep step Ok start front := by
  induction front generalizing start with
  | nil => trivial
  | cons op front ih => exact ⟨h.1, fun next hnext ↦ ih (h.2 next hnext)⟩

/-- Under an invariant that the steps keep, two conditions that agree on each step agree on runs. -/
theorem eachStep_congr {Inv : State → Prop} {Ok Fine : State → Op → Prop}
    (hiff : ∀ s op, Inv s → (Ok s op ↔ Fine s op))
    (hstep : ∀ s op next, Inv s → Fine s op → step s op = some next → Inv next)
    {start : State} (hstart : Inv start) (ops : List Op) :
    EachStep step Ok start ops ↔ EachStep step Fine start ops := by
  induction ops generalizing start with
  | nil => exact Iff.rfl
  | cons op ops ih =>
    have hop := hiff start op hstart
    constructor
    · intro hok
      exact ⟨hop.mp hok.1, fun next hnext ↦
        (ih (hstep start op next hstart (hop.mp hok.1) hnext)).mp (hok.2 next hnext)⟩
    · intro hfine
      exact ⟨hop.mpr hfine.1, fun next hnext ↦
        (ih (hstep start op next hstart hfine.1 hnext)).mpr (hfine.2 next hnext)⟩

/-- An invariant kept by every admissible step holds wherever an admissible run ends. -/
theorem run_invariant {Inv : State → Prop} {Ok : State → Op → Prop}
    (hstep : ∀ s op next, Inv s → Ok s op → step s op = some next → Inv next)
    {start finish : State} {ops : List Op} (hstart : Inv start)
    (hok : EachStep step Ok start ops) (hrun : run step start ops = some finish) : Inv finish := by
  induction ops generalizing start with
  | nil =>
    obtain rfl := Option.some.inj hrun
    exact hstart
  | cons op ops ih =>
    rw [run_cons, Option.bind_eq_some_iff] at hrun
    obtain ⟨next, hnext, hrest⟩ := hrun
    exact ih (hstep start op next hstart hok.1 hnext) (hok.2 next hnext) hrest

/-- The unconditional form of `run_invariant`. -/
theorem Reachable.invariant {Inv : State → Prop}
    (hstep : ∀ s op next, Inv s → step s op = some next → Inv next)
    {start finish : State} (hstart : Inv start) (h : Reachable step start finish) : Inv finish := by
  obtain ⟨ops, hrun⟩ := h
  have hok : EachStep step (fun _ _ ↦ True) start ops :=
    eachStep_of_forall step (fun _ _ ↦ trivial) start ops
  exact run_invariant (fun s op next hinv _ ↦ hstep s op next hinv) hstart hok hrun

/-- A system that never faults under its invariant keeps the invariant. -/
theorem Reachable.invariant_of_exists {Inv : State → Prop}
    (hstep : ∀ s op, Inv s → ∃ next, step s op = some next ∧ Inv next)
    {start finish : State} (hstart : Inv start) (h : Reachable step start finish) : Inv finish := by
  refine h.invariant ?_ hstart
  intro s op next hs hnext
  obtain ⟨mid, hmid, hinv⟩ := hstep s op hs
  obtain rfl : next = mid := Option.some.inj (hnext.symm.trans hmid)
  exact hinv

/-- Where something holds that did not hold in the beginning, a step has brought it about, and what
that step achieved was kept since.  `Mark` is what such a step does, and `Kept` compares the state
behind it with a later one. -/
theorem exists_last_mark (Holds : State → Prop) (Mark Kept : State → Op → State → Prop)
    {start finish : State} {ops : List Op} (hstart : ¬Holds start)
    (hstep : ∀ s op next, Reachable step start s → step s op = some next → Holds next →
      (Mark s op next ∧ Kept next op next) ∨
        (Holds s ∧ ∀ after mark, Kept after mark s → Kept after mark next))
    (hrun : run step start ops = some finish) (h : Holds finish) :
    ∃ front op back before after, ops = front ++ op :: back ∧
      run step start front = some before ∧ step before op = some after ∧
      run step after back = some finish ∧ Mark before op after ∧ Kept after op finish := by
  induction ops using List.reverseRecOn generalizing finish with
  | nil =>
    obtain rfl := Option.some.inj hrun
    exact absurd h hstart
  | append_singleton ops op ih =>
    obtain ⟨mid, hmid, hlast⟩ := (run_append_eq_some_iff step _ _ _ _).mp hrun
    have hnext : step mid op = some finish := by simpa using hlast
    rcases hstep mid op finish ⟨ops, hmid⟩ hnext h with ⟨hmark, hkept⟩ | ⟨hholds, hkeeps⟩
    · exact ⟨ops, op, [], mid, finish, rfl, hmid, hnext, rfl, hmark, hkept⟩
    · obtain ⟨front, mark, back, before, after, rfl, hfront, hafter, hback, hmark, hkept⟩ :=
        ih hmid hholds
      refine ⟨front, mark, back ++ [op], before, after, by simp, hfront, hafter, ?_, hmark,
        hkeeps after mark hkept⟩
      exact (run_append_eq_some_iff step _ _ _ _).mpr ⟨mid, hback, hlast⟩

/-- Steps that never fault under an invariant they keep give runs that never fault. -/
theorem run_total {Inv : State → Prop}
    (hstep : ∀ s op, Inv s → ∃ next, step s op = some next ∧ Inv next)
    {start : State} (hstart : Inv start) (ops : List Op) :
    ∃ finish, run step start ops = some finish ∧ Inv finish := by
  induction ops generalizing start with
  | nil => exact ⟨start, rfl, hstart⟩
  | cons op ops ih =>
    obtain ⟨next, hnext, hinv⟩ := hstep start op hstart
    obtain ⟨finish, hrun, hfinish⟩ := ih hinv
    exact ⟨finish, by rw [run_cons, hnext]; exact hrun, hfinish⟩

end SatipClient.Runs
