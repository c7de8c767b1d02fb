import Mathlib.Data.List.Induction
import Mathlib.Data.List.Nodup
import SatipClient.Timer

/-!
# A sweep with handlers that start and stop timers

The timers of the list are told apart by their position, and a handler is any function that lists
the `start`s and `stop`s it makes, on its own timer or on others.  Each operation reads the clock
anew.  A timer that is started during the sweep stays started, also when the sweep has not reached
it yet; but `call` writes to the timer once more when its handler has returned, so a handler that
starts its own timer is overruled (`sweep_keeps_starts_iff`).
-/

namespace SatipClient.Timer

/-- An operation of a handler on the timer at position `target`; `start` reads the clock. -/
inductive TimerOp where
  | start (target : ℕ) (now : Timespec) (msec : ℤ) (single : Bool)
  | stop (target : ℕ)
  deriving DecidableEq

namespace TimerOp

/-- The timer that is operated on. -/
def target : TimerOp → ℕ
  | start target _ _ _ => target
  | stop target => target

/-- What becomes of the timers. -/
def apply (timers : List TimerElem) : TimerOp → List TimerElem
  | start target now msec single => timers.set target (.start now msec single)
  | stop target => timers.modify target TimerElem.stop

end TimerOp

/-- A recorded event of a sweep. -/
inductive SweepEvent where
  /-- the handler of a timer runs; `timer` is what the sweep found when it got there -/
  | called (index : ℕ) (timer : TimerElem)
  | operated (caller : ℕ) (op : TimerOp)
  deriving DecidableEq

/-- What a sweep works on: the timers, and the state of the program that the handlers belong to. -/
structure Sweep (World : Type*) where
  timers : List TimerElem
  world : World
  trace : List SweepEvent := []

/-- What a sweep meets. -/
structure Env (World : Type*) where
  /-- the time that `callNextTimer` reads -/
  now : Timespec
  /-- the time that `call` reads for each timer -/
  ts : ℕ → Timespec
  handler : ℕ → World → List TimerElem → List TimerOp × World

variable {World : Type*}

/-- The timer at a position of the list, and its handler. -/
def slotAt (env : Env World) (index : ℕ) : Slot (Sweep World) where
  get s := s.timers.getD index {}
  set timer s := { s with timers := s.timers.set index timer }
  handler s :=
    { timers := (env.handler index s.world s.timers).1.foldl TimerOp.apply s.timers
      world := (env.handler index s.world s.timers).2
      trace := s.trace ++ .called index (s.timers.getD index {}) ::
        (env.handler index s.world s.timers).1.map (.operated index) }

/-- One round of the loop in `callNextTimer`. -/
def sweepRound (env : Env World) (s : Sweep World) (index : ℕ) : Sweep World :=
  if ((slotAt env index).get s).active ∧ ((slotAt env index).get s).Due env.now then
    call (env.ts index) (slotAt env index) s
  else s

/-- `callNextTimer` -/
def sweep (env : Env World) (s : Sweep World) : Sweep World :=
  (List.range s.timers.length).foldl (sweepRound env) s

/-- Where the clock does not go on, the sweep is the one over slots. -/
theorem sweep_eq_callNextTimer {env : Env World} (hts : ∀ index, env.ts index = env.now)
    (s : Sweep World) :
    sweep env s = callNextTimer env.now ((List.range s.timers.length).map (slotAt env)) s := by
  have hround : (fun s index ↦ callIfDue env.now s (slotAt env index)) = sweepRound env := by
    funext s index
    rw [sweepRound, hts, callIfDue]
  rw [callNextTimer, List.foldl_map, hround, sweep]

/-- The timers whose handlers ran, in order. -/
def calledTimers (trace : List SweepEvent) : List ℕ :=
  trace.filterMap fun
    | .called index _ => some index
    | .operated _ _ => none

/-- The operation, if it is one on this timer, with the timer whose handler makes it. -/
def SweepEvent.opOn (target : ℕ) : SweepEvent → Option (ℕ × TimerOp)
  | .called _ _ => none
  | .operated caller op => if op.target = target then some (caller, op) else none

/-- The last operation on a timer. -/
def lastOp (target : ℕ) (trace : List SweepEvent) : Option (ℕ × TimerOp) :=
  (trace.filterMap (SweepEvent.opOn target)).getLast?

/-- The clock does not go back during the sweep, and the handlers know the timers of the list. -/
structure Env.Monotonic (env : Env World) : Prop where
  now_valid : env.now.Valid
  ts_valid : ∀ index, (env.ts index).Valid
  known : ∀ index world timers, ∀ op ∈ (env.handler index world timers).1,
    op.target < timers.length
  later : ∀ index world timers target now msec single,
    .start target now msec single ∈ (env.handler index world timers).1 →
      now.Valid ∧ env.now.nanos ≤ now.nanos

/-- A timer whose last operation was a start with a positive interval is active, with the deadline
that was computed then. -/
def KeepsStarts (final : Sweep World) : Prop :=
  ∀ target caller now msec single,
    lastOp target final.trace = some (caller, .start target now msec single) → 0 < msec →
      ∃ timer, final.timers[target]? = some timer ∧ timer.active = true ∧
        timer.ts = now.after msec

/-- Handlers that start their own timers, and leave it at that, start periodic ones, in no time. -/
def SelfStartsPeriodic (env : Env World) (final : Sweep World) : Prop :=
  ∀ target now msec single,
    lastOp target final.trace = some (target, .start target now msec single) → 0 < msec →
      single = false ∧ now = env.ts target

/-! ## Operations of one handler -/

section Operations

variable {timers : List TimerElem} {ops : List TimerOp} {target : ℕ}

@[simp]
theorem length_apply (timers : List TimerElem) (op : TimerOp) :
    (op.apply timers).length = timers.length := by
  cases op <;> simp [TimerOp.apply]

@[simp]
theorem length_foldl_apply (timers : List TimerElem) (ops : List TimerOp) :
    (ops.foldl TimerOp.apply timers).length = timers.length := by
  induction ops generalizing timers with
  | nil => rfl
  | cons op ops ih => rw [List.foldl_cons, ih, length_apply]

theorem getElem?_apply_of_ne {op : TimerOp} (h : op.target ≠ target) :
    (op.apply timers)[target]? = timers[target]? := by
  cases op with
  | start other now msec single => exact List.getElem?_set_ne h
  | stop other =>
    have hne : other ≠ target := h
    simp [TimerOp.apply, hne]

theorem lastOp_append (front back : List SweepEvent) :
    lastOp target (front ++ back) = (lastOp target back).or (lastOp target front) := by
  rw [lastOp, List.filterMap_append, List.getLast?_append, lastOp, lastOp]

theorem lastOp_called (index : ℕ) (timer : TimerElem) (trace : List SweepEvent) :
    lastOp target (.called index timer :: trace) = lastOp target trace := by
  rw [lastOp, List.filterMap_cons_none rfl, lastOp]

theorem lastOp_snoc (caller : ℕ) (ops : List TimerOp) (op : TimerOp) :
    lastOp target ((ops ++ [op]).map (.operated caller)) =
      if op.target = target then some (caller, op)
      else lastOp target (ops.map (.operated caller)) := by
  rw [List.map_append, lastOp_append]
  by_cases h : op.target = target <;> simp [lastOp, SweepEvent.opOn, h]

/-- The last operation is one of those the handler makes. -/
theorem mem_of_lastOp {caller other : ℕ} {op : TimerOp}
    (h : lastOp target (ops.map (.operated caller)) = some (other, op)) :
    other = caller ∧ op ∈ ops := by
  have hmem := List.mem_of_getLast? h
  obtain ⟨event, hevent, hop⟩ := List.mem_filterMap.mp hmem
  obtain ⟨made, hmade, rfl⟩ := List.mem_map.mp hevent
  simp only [SweepEvent.opOn] at hop
  split at hop
  · cases hop
    exact ⟨rfl, hmade⟩
  · cases hop

theorem getElem?_foldl_apply_of_none {caller : ℕ}
    (h : lastOp target (ops.map (.operated caller)) = none) :
    (ops.foldl TimerOp.apply timers)[target]? = timers[target]? := by
  induction ops using List.reverseRecOn with
  | nil => rfl
  | append_singleton ops op ih =>
    rw [lastOp_snoc] at h
    split at h
    case isTrue => cases h
    case isFalse hother =>
      rw [List.foldl_append, List.foldl_cons, List.foldl_nil, getElem?_apply_of_ne hother, ih h]

theorem getElem?_foldl_apply_of_start {caller other : ℕ} {now : Timespec} {msec : ℤ} {single : Bool}
    (h : lastOp target (ops.map (.operated caller)) = some (other, .start target now msec single))
    (hknown : target < timers.length) :
    (ops.foldl TimerOp.apply timers)[target]? = some (.start now msec single) := by
  induction ops using List.reverseRecOn with
  | nil => cases h
  | append_singleton ops op ih =>
    rw [List.foldl_append, List.foldl_cons, List.foldl_nil]
    rw [lastOp_snoc] at h
    split at h
    case isTrue =>
      cases h
      exact List.getElem?_set_self (by rwa [length_foldl_apply])
    case isFalse hother => rw [getElem?_apply_of_ne hother, ih h]

end Operations

/-! ## The sweep -/

section Sweeping

variable {env : Env World} {start s : Sweep World} {index : ℕ}

/-- What the timer at `target` is after a start by the handler of `caller`: `call` overrules the
handler of the timer itself. -/
def armedBy (env : Env World) (target caller : ℕ) (now : Timespec) (msec : ℤ) (single : Bool) :
    TimerElem :=
  if caller = target then (TimerElem.start now msec single).afterCall (env.ts target)
  else .start now msec single

/-- What holds when the sweep has got as far as the timer at `index`. -/
structure Swept (env : Env World) (size index : ℕ) (s : Sweep World) : Prop where
  length : s.timers.length = size
  called : ∀ caller timer, .called caller timer ∈ s.trace →
    timer.active = true ∧ timer.Due env.now
  once : (calledTimers s.trace).Nodup
  before : ∀ caller ∈ calledTimers s.trace, caller < index
  callers : ∀ target caller op, lastOp target s.trace = some (caller, op) → caller < index
  starts : ∀ target caller now msec single,
    lastOp target s.trace = some (caller, .start target now msec single) → 0 < msec →
      env.now.nanos ≤ now.nanos ∧ now.Valid ∧
        s.timers[target]? = some (armedBy env target caller now msec single)

theorem swept_zero (env : Env World) (timers : List TimerElem) (world : World) :
    Swept env timers.length 0 { timers := timers, world := world } where
  length := rfl
  called := by simp
  once := List.nodup_nil
  before := by simp [calledTimers]
  callers := by simp [lastOp]
  starts := by simp [lastOp]

/-- A timer that was started with a positive interval is not due in the same sweep. -/
theorem not_due_start {now read : Timespec} {msec : ℤ} (hnow : now.Valid) (hread : read.Valid)
    (hle : now.nanos ≤ read.nanos) (hmsec : 0 < msec) (single : Bool) :
    ¬(TimerElem.start read msec single).Due now := by
  intro hdue
  have hnanos : (read.after msec).nanos ≤ now.nanos :=
    TimerElem.nanos_le_of_due hnow (Timespec.nsec_after_lt hread.2 msec) hdue
  rw [Timespec.nanos_after] at hnanos
  omega

theorem calledTimers_operated (caller : ℕ) (ops : List TimerOp) :
    calledTimers (ops.map (.operated caller)) = [] := by
  induction ops with
  | nil => rfl
  | cons op ops ih => exact ih

/-- The step of the sweep where a handler runs. -/
theorem Swept.call {size : ℕ} (h : Swept env size index s) (hmono : env.Monotonic)
    (hindex : index < size) (hactive : (s.timers.getD index {}).active = true)
    (hdue : (s.timers.getD index {}).Due env.now) :
    Swept env size (index + 1) (Timer.call (env.ts index) (slotAt env index) s) := by
  set ops := (env.handler index s.world s.timers).1 with hops
  set mid := ops.foldl TimerOp.apply s.timers with hmid
  set last := (mid.getD index {}).afterCall (env.ts index) with hlast
  set events : List SweepEvent := .called index (s.timers.getD index {}) ::
    ops.map (.operated index) with hevents
  have hcall : Timer.call (env.ts index) (slotAt env index) s =
      { timers := mid.set index last
        world := (env.handler index s.world s.timers).2
        trace := s.trace ++ events } := if_pos hactive
  have hlength : mid.length = size := by rw [hmid, length_foldl_apply, h.length]
  have hcalled : calledTimers (s.trace ++ events) = calledTimers s.trace ++ [index] := by
    rw [calledTimers, List.filterMap_append, ← calledTimers, ← calledTimers]
    congr 1
    change index :: calledTimers (ops.map (.operated index)) = [index]
    rw [calledTimers_operated]
  have hlastOp (target : ℕ) : lastOp target (s.trace ++ events) =
      (lastOp target (ops.map (.operated index))).or (lastOp target s.trace) := by
    rw [lastOp_append, hevents, lastOp_called]
  rw [hcall]
  constructor
  case length => rw [List.length_set, hlength]
  case called =>
    intro caller timer hmem
    rcases List.mem_append.mp hmem with hold | hnew
    · exact h.called caller timer hold
    · simp only [hevents, List.mem_cons, SweepEvent.called.injEq, List.mem_map, reduceCtorEq,
        and_false, exists_false, or_false] at hnew
      rw [hnew.2]
      exact ⟨hactive, hdue⟩
  case once =>
    rw [hcalled, List.nodup_append_comm]
    have hnew : index ∉ calledTimers s.trace := fun hmem ↦ Nat.lt_irrefl _ (h.before index hmem)
    exact List.nodup_cons.mpr ⟨hnew, h.once⟩
  case before =>
    intro caller hmem
    rw [hcalled, List.mem_append, List.mem_singleton] at hmem
    rcases hmem with hold | rfl
    · exact Nat.lt_succ_of_lt (h.before caller hold)
    · exact Nat.lt_succ_self caller
  case callers =>
    intro target caller op hop
    rw [hlastOp, Option.or_eq_some_iff] at hop
    rcases hop with hnew | ⟨-, hold⟩
    · rw [(mem_of_lastOp hnew).1]
      exact Nat.lt_succ_self index
    · exact Nat.lt_succ_of_lt (h.callers target caller op hold)
  case starts =>
    intro target caller now msec single hop hmsec
    rw [hlastOp, Option.or_eq_some_iff] at hop
    rcases hop with hnew | ⟨hnone, hold⟩
    · obtain ⟨rfl, hmem⟩ := mem_of_lastOp hnew
      obtain ⟨hvalid, hlater⟩ := hmono.later _ _ _ _ _ _ _ hmem
      have hknown : target < s.timers.length := hmono.known _ _ _ _ hmem
      have hstarted := getElem?_foldl_apply_of_start hnew hknown
      rw [← hmid] at hstarted
      refine ⟨hlater, hvalid, ?_⟩
      by_cases hself : caller = target
      · subst hself
        have hfound : mid.getD caller {} = .start now msec single := by
          rw [List.getD_eq_getElem?_getD, hstarted, Option.getD_some]
        rw [armedBy, if_pos rfl, List.getElem?_set_self (hlength ▸ hindex), hlast, hfound]
      · rw [armedBy, if_neg hself, List.getElem?_set_ne hself, hstarted]
    · obtain ⟨hlater, hvalid, hstarted⟩ := h.starts target caller now msec single hold hmsec
      have hcaller : caller < index := h.callers target caller _ hold
      -- The timer reached here is not the started one, which would not be due.
      have hne : index ≠ target := by
        rintro rfl
        have hfound : s.timers.getD index {} = .start now msec single := by
          rw [List.getD_eq_getElem?_getD, hstarted, armedBy, if_neg (Nat.ne_of_lt hcaller),
            Option.getD_some]
        rw [hfound] at hdue
        exact not_due_start hmono.now_valid hvalid hlater hmsec single hdue
      refine ⟨hlater, hvalid, ?_⟩
      rw [List.getElem?_set_ne hne, hmid, getElem?_foldl_apply_of_none hnone, hstarted]

theorem Swept.succ {size : ℕ} (h : Swept env size index s) : Swept env size (index + 1) s :=
  { h with
    before := fun caller hmem ↦ Nat.lt_succ_of_lt (h.before caller hmem)
    callers := fun target caller op hop ↦ Nat.lt_succ_of_lt (h.callers target caller op hop) }

theorem Swept.sweepRound {size : ℕ} (h : Swept env size index s) (hmono : env.Monotonic)
    (hindex : index < size) : Swept env size (index + 1) (sweepRound env s index) := by
  unfold Timer.sweepRound
  split
  case isTrue hreached => exact h.call hmono hindex hreached.1 hreached.2
  case isFalse => exact h.succ

/-- By induction on the timers that the sweep has passed. -/
theorem swept_sweep (hmono : env.Monotonic) (timers : List TimerElem) (world : World) :
    Swept env timers.length timers.length
      (sweep env { timers := timers, world := world }) := by
  have hprefix (count : ℕ) (hcount : count ≤ timers.length) : Swept env timers.length count
      ((List.range count).foldl (sweepRound env) { timers := timers, world := world }) := by
    induction count with
    | zero => exact swept_zero env timers world
    | succ count ih =>
      rw [List.range_succ, List.foldl_append]
      exact (ih (Nat.le_of_succ_le hcount)).sweepRound hmono hcount
  exact hprefix timers.length (Nat.le_refl _)

theorem eq_of_nanos_eq {left right : Timespec} (hleft : left.Valid) (hright : right.Valid)
    (h : left.nanos = right.nanos) : left = right := by
  unfold Timespec.nanos at h
  unfold Timespec.Valid at hleft hright
  cases left
  cases right
  simp only [Timespec.mk.injEq] at *
  omega

theorem after_inj {left right : Timespec} (hleft : left.Valid) (hright : right.Valid) (msec : ℤ) :
    left.after msec = right.after msec ↔ left = right := by
  refine ⟨fun h ↦ eq_of_nanos_eq hleft hright ?_, fun h ↦ by rw [h]⟩
  have hnanos := congrArg Timespec.nanos h
  rw [Timespec.nanos_after, Timespec.nanos_after] at hnanos
  omega

/-- A start is overruled by `call` alone, and not where that computes the same. -/
theorem armedBy_iff {target caller : ℕ} {now : Timespec} (hnow : now.Valid)
    (hts : (env.ts target).Valid) (msec : ℤ) (single : Bool) :
    ((armedBy env target caller now msec single).active = true ∧
        (armedBy env target caller now msec single).ts = now.after msec) ↔
      (caller = target → single = false ∧ now = env.ts target) := by
  unfold armedBy
  by_cases hself : caller = target
  · rw [if_pos hself, TimerElem.afterCall]
    cases single with
    | true => simp [hself]
    | false =>
      have hsame : (env.ts target).after msec = now.after msec ↔ now = env.ts target :=
        (after_inj hts hnow msec).trans eq_comm
      simpa [hself, TimerElem.start] using hsame
  · rw [if_neg hself]
    exact iff_of_true ⟨rfl, rfl⟩ fun h ↦ absurd h hself

/-- In one sweep a handler runs once at most, and only for a timer that was active and past its
deadline when the sweep got there.  The timers started last are left as they were started just when
no handler starts its own timer, or it makes it periodic before the clock has gone on. -/
theorem sweep_keeps_starts_iff (hmono : env.Monotonic) (timers : List TimerElem) (world : World) :
    let final := sweep env { timers := timers, world := world }
    (calledTimers final.trace).Nodup ∧
      (∀ index timer, .called index timer ∈ final.trace →
        timer.active = true ∧ timer.Due env.now) ∧
      (KeepsStarts final ↔ SelfStartsPeriodic env final) := by
  have hswept := swept_sweep hmono timers world
  refine ⟨hswept.once, hswept.called, ?_⟩
  constructor
  · intro hkeeps target now msec single hop hmsec
    obtain ⟨-, hvalid, hstarted⟩ := hswept.starts target target now msec single hop hmsec
    obtain ⟨timer, htimer, hkept⟩ := hkeeps target target now msec single hop hmsec
    obtain rfl := Option.some.inj (hstarted.symm.trans htimer)
    exact (armedBy_iff hvalid (hmono.ts_valid target) msec single).mp hkept rfl
  · intro hself target caller now msec single hop hmsec
    obtain ⟨-, hvalid, hstarted⟩ := hswept.starts target caller now msec single hop hmsec
    refine ⟨_, hstarted, (armedBy_iff hvalid (hmono.ts_valid target) msec single).mpr ?_⟩
    rintro rfl
    exact hself caller now msec single hop hmsec

end Sweeping

/-- The handler of the first timer starts the timer at `target` for two seconds, in no time. -/
def startsTimer (target : ℕ) (single : Bool) : Env Unit where
  now := { sec := 10 }
  ts _ := { sec := 10 }
  handler index _ timers :=
    if index = 0 ∧ target < timers.length then ([.start target { sec := 10 } 2000 single], ())
    else ([], ())

theorem monotonic_startsTimer (target : ℕ) (single : Bool) :
    (startsTimer target single).Monotonic := by
  have hops (index : ℕ) (timers : List TimerElem) (op : TimerOp)
      (hop : op ∈ ((startsTimer target single).handler index () timers).1) :
      target < timers.length ∧ op = .start target { sec := 10 } 2000 single := by
    simp only [startsTimer] at hop
    split at hop
    case isTrue h => exact ⟨h.2, List.mem_singleton.mp hop⟩
    case isFalse => cases hop
  have hvalid : Timespec.Valid { sec := 10 } := by decide
  refine ⟨hvalid, fun _ ↦ hvalid, fun index _ timers op hop ↦ ?_,
    fun index _ timers target' now msec single' hop ↦ ?_⟩
  · obtain ⟨hlt, rfl⟩ := hops index timers op hop
    exact hlt
  · cases (hops index timers _ hop).2
    exact ⟨hvalid, Int.le_refl _⟩

/-- Two timers, the first of which is past its deadline. -/
def dueTimer : List TimerElem :=
  [{ interval := 1000, ts := { sec := 9 }, active := true, single := true }, {}]

theorem sweep_keeps_starts_iff_other :
    let final := sweep (startsTimer 1 true) { timers := dueTimer, world := () }
    (calledTimers final.trace).Nodup ∧
      (∀ index timer, .called index timer ∈ final.trace →
        timer.active = true ∧ timer.Due (startsTimer 1 true).now) ∧
      (KeepsStarts final ↔ SelfStartsPeriodic (startsTimer 1 true) final) :=
  sweep_keeps_starts_iff (monotonic_startsTimer 1 true) dueTimer ()

/-- A single-shot timer that its own handler starts again is stopped by the sweep. -/
theorem not_keepsStarts_self :
    (startsTimer 0 true).Monotonic ∧
      lastOp 0 (sweep (startsTimer 0 true) { timers := dueTimer, world := () }).trace =
        some (0, .start 0 { sec := 10 } 2000 true) ∧
      ((sweep (startsTimer 0 true) { timers := dueTimer, world := () }).timers[0]?.map
        TimerElem.active) = some false ∧
      ¬KeepsStarts (sweep (startsTimer 0 true) { timers := dueTimer, world := () }) := by
  have hop : lastOp 0 (sweep (startsTimer 0 true) { timers := dueTimer, world := () }).trace =
      some (0, .start 0 { sec := 10 } 2000 true) := by decide
  have hidle : ((sweep (startsTimer 0 true) { timers := dueTimer, world := () }).timers[0]?.map
      TimerElem.active) = some false := by decide
  refine ⟨monotonic_startsTimer 0 true, hop, hidle, fun hkeeps ↦ ?_⟩
  obtain ⟨timer, htimer, hactive, -⟩ := hkeeps 0 0 _ _ _ hop (by decide)
  rw [htimer, Option.map_some, hactive] at hidle
  cases hidle

end SatipClient.Timer
