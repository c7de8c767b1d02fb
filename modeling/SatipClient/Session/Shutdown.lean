import Mathlib.Data.Finset.Card
import SatipClient.Foundation.Fairness
import SatipClient.Session.Threads

/-!
# Shutting down

A signal ends the program in an orderly way.  The writes of `stop` to the pipes are what ends the
sleep of the session threads, so `main` does not wait for the timeout of any `poll` of theirs
(`shutdown_completes`), and when it returns no thread is left that could use a session
(`threads_over`).  `Worker.Stopping` says what holds of a session after each part of its `stop`.
-/

namespace SatipClient.Session

open Fairness (IsRun Fair Helps Enabled)

/-! ## One session -/

theorem readable_iterate_write {pipe : Pipe} (h : pipe.Readable) (writes : ℕ) :
    (Pipe.write^[writes] pipe).Readable := by
  induction writes with
  | zero => exact h
  | succ writes ih =>
    rw [Function.iterate_succ_apply']
    exact Pipe.readable_write _

namespace Worker

variable {w next : Worker}

theorem Readable.writePipe (h : w.Readable) (writes : ℕ) : (w.writePipe writes).Readable := by
  intro pipe hpipe
  obtain ⟨old, hold, rfl⟩ := Option.map_eq_some_iff.mp hpipe
  exact readable_iterate_write (h old hold) writes

theorem readable_writePipe_one (w : Worker) : (w.writePipe 1).Readable := by
  intro pipe hpipe
  obtain ⟨old, -, rfl⟩ := Option.map_eq_some_iff.mp hpipe
  exact Pipe.readable_write old

/-- A step of one of the threads of the session. -/
inductive Turn (i : ℕ) (w : Worker) : Action → Worker → Prop where
  | loop (writes : ℕ) (next : Worker) (h : w.stepLoop writes = some next) :
    Turn i w (.loop i writes) next
  | dump (writes : ℕ) (next : Worker) (h : w.stepDump writes = some next) :
    Turn i w (.dump i writes) next
  | pollReturns (noticed : Bool) (hpoll : w.loop = .poll) :
    Turn i w (.pollReturns i noticed)
      { w with loop := .timers, wakeup := noticed && w.pipe.any fun p ↦ decide p.Readable }
  | pollFails (hpoll : w.loop = .poll) : Turn i w (.pollFails i) { w with loop := .ended }

/-- What the session thread does at once, and where it is then. -/
inductive LoopTurn (w : Worker) (writes : ℕ) : Worker → Prop where
  | test (hpc : w.loop = .test) (pc : LoopPc)
    (hnext : (pc = .status ∧ w.running = true) ∨ (pc = .ended ∧ w.running = false)) :
    LoopTurn w writes { w with loop := pc }
  | status (hpc : w.loop = .status) : LoopTurn w writes { w with loop := .poll }
  | poll (hpc : w.loop = .poll) (hreadable : w.Readable) :
    LoopTurn w writes { w with loop := .timers, wakeup := w.pipe.isSome }
  | timers (hpc : w.loop = .timers) : LoopTurn w writes { w with loop := .drain }
  | drain (hpc : w.loop = .drain) (pipe : Option Pipe) :
    LoopTurn w writes { w with loop := .vtuner, pipe := pipe }
  | vtuner (hpc : w.loop = .vtuner) : LoopTurn w writes { w.writePipe writes with loop := .rtsp }
  | rtsp (hpc : w.loop = .rtsp) : LoopTurn w writes { w.writePipe writes with loop := .test }

theorem loopTurn {writes : ℕ} (h : w.stepLoop writes = some next) : w.LoopTurn writes next := by
  unfold stepLoop at h
  split at h
  · cases h
  · cases h
  · rename_i hpc
    obtain rfl := Option.some.inj h
    exact .test hpc _ (by cases w.running <;> simp)
  · rename_i hpc
    obtain rfl := Option.some.inj h
    exact .status hpc
  · rename_i hpc
    obtain ⟨hreadable, heq⟩ := Option.ite_none_right_eq_some.mp h
    obtain rfl := Option.some.inj heq
    exact .poll hpc hreadable
  · rename_i hpc
    obtain rfl := Option.some.inj h
    exact .timers hpc
  · rename_i hpc
    obtain rfl := Option.some.inj h
    exact .drain hpc _
  · rename_i hpc
    obtain rfl := Option.some.inj h
    exact .vtuner hpc
  · rename_i hpc
    obtain rfl := Option.some.inj h
    exact .rtsp hpc

/-- What the RTP thread does at once, and where it is then. -/
inductive DumpTurn (w : Worker) (writes : ℕ) : Worker → Prop where
  | test (hpc : w.dump = .test) (pc : DumpPc)
    (hnext : (pc = .poll ∧ w.rtpRunning = true) ∨ (pc = .ended ∧ w.rtpRunning = false)) :
    DumpTurn w writes { w with dump := pc }
  | poll (hpc : w.dump = .poll) : DumpTurn w writes { w with dump := .receive }
  | receive (hpc : w.dump = .receive) :
    DumpTurn w writes { w.writePipe writes with dump := .test }

theorem dumpTurn {writes : ℕ} (h : w.stepDump writes = some next) : w.DumpTurn writes next := by
  unfold stepDump at h
  split at h
  · cases h
  · cases h
  · rename_i hpc
    obtain rfl := Option.some.inj h
    exact .test hpc _ (by cases w.rtpRunning <;> simp)
  · rename_i hpc
    obtain rfl := Option.some.inj h
    exact .poll hpc
  · rename_i hpc
    obtain rfl := Option.some.inj h
    exact .receive hpc

/-- What holds of a session when its `stop` has come so far: the RTP thread was told to end (1) and
has ended (2), the session thread was told to end (3) and woken (4), and has ended (5). -/
structure Stopping (progress : ℕ) (w : Worker) : Prop where
  rtpStopped : 1 ≤ progress → w.rtpRunning = false
  rtpJoined : 2 ≤ progress → w.DumpOver
  stopped : 3 ≤ progress → w.running = false
  woken : 4 ≤ progress → w.loop = .status ∨ w.loop = .poll → w.Readable
  joined : 5 ≤ progress → w.LoopOver

theorem Stopping.mono {progress earlier : ℕ} (h : w.Stopping progress) (hle : earlier ≤ progress) :
    w.Stopping earlier where
  rtpStopped hp := h.rtpStopped (hp.trans hle)
  rtpJoined hp := h.rtpJoined (hp.trans hle)
  stopped hp := h.stopped (hp.trans hle)
  woken hp := h.woken (hp.trans hle)
  joined hp := h.joined (hp.trans hle)

theorem Stopping.not_joined {progress : ℕ} (h : w.Stopping progress) (hover : ¬w.LoopOver) :
    ¬5 ≤ progress := fun hp ↦ hover (h.joined hp)

theorem Stopping.not_rtpJoined {progress : ℕ} (h : w.Stopping progress) (hover : ¬w.DumpOver) :
    ¬2 ≤ progress := fun hp ↦ hover (h.rtpJoined hp)

/-- A session whose thread goes on, but not to sleep. -/
theorem Stopping.of_awake {progress : ℕ} (h : w.Stopping progress) (hover : ¬w.LoopOver)
    (hrtp : next.rtpRunning = w.rtpRunning) (hdump : next.dump = w.dump)
    (hrunning : next.running = w.running) (hawake : next.loop ≠ .status ∧ next.loop ≠ .poll) :
    next.Stopping progress where
  rtpStopped hp := hrtp.trans (h.rtpStopped hp)
  rtpJoined hp := by
    unfold DumpOver
    rw [hdump]
    exact h.rtpJoined hp
  stopped hp := hrunning.trans (h.stopped hp)
  woken _ hor := by simp [hawake] at hor
  joined hp := absurd hp (h.not_joined hover)

/-- The session thread does not start a round after it was told to end. -/
theorem Stopping.of_loopTurn {progress writes : ℕ} (h : w.Stopping progress)
    (hturn : w.LoopTurn writes next) : next.Stopping progress := by
  cases hturn with
  | test hpc pc hnext =>
    rcases hnext with ⟨rfl, hrunning⟩ | ⟨rfl, -⟩
    · have hearly : ¬3 ≤ progress := fun hp ↦ by simp [h.stopped hp] at hrunning
      exact ⟨h.rtpStopped, h.rtpJoined, h.stopped, fun hp ↦ absurd (by omega) hearly,
        fun hp ↦ absurd (by omega) hearly⟩
    · exact ⟨h.rtpStopped, h.rtpJoined, h.stopped, fun _ hor ↦ by simp at hor,
        fun _ ↦ Or.inr rfl⟩
  | status hpc =>
    exact ⟨h.rtpStopped, h.rtpJoined, h.stopped, fun hp _ ↦ h.woken hp (Or.inl hpc),
      fun hp ↦ absurd hp (h.not_joined (by simp [LoopOver, hpc]))⟩
  | poll hpc => exact h.of_awake (by simp [LoopOver, hpc]) rfl rfl rfl (by simp)
  | timers hpc => exact h.of_awake (by simp [LoopOver, hpc]) rfl rfl rfl (by simp)
  | drain hpc => exact h.of_awake (by simp [LoopOver, hpc]) rfl rfl rfl (by simp)
  | vtuner hpc => exact h.of_awake (by simp [LoopOver, hpc]) rfl rfl rfl (by simp)
  | rtsp hpc => exact h.of_awake (by simp [LoopOver, hpc]) rfl rfl rfl (by simp)

theorem Stopping.of_dumpTurn {progress writes : ℕ} (h : w.Stopping progress)
    (hturn : w.DumpTurn writes next) : next.Stopping progress := by
  cases hturn with
  | test hpc pc hnext =>
    rcases hnext with ⟨rfl, hrunning⟩ | ⟨rfl, -⟩
    · have hearly : ¬1 ≤ progress := fun hp ↦ by simp [h.rtpStopped hp] at hrunning
      exact ⟨h.rtpStopped, fun hp ↦ absurd (by omega) hearly, h.stopped, h.woken, h.joined⟩
    · exact ⟨h.rtpStopped, fun _ ↦ Or.inr rfl, h.stopped, h.woken, h.joined⟩
  | poll hpc =>
    exact ⟨h.rtpStopped, fun hp ↦ absurd hp (h.not_rtpJoined (by simp [DumpOver, hpc])),
      h.stopped, h.woken, h.joined⟩
  | receive hpc =>
    exact ⟨h.rtpStopped, fun hp ↦ absurd hp (h.not_rtpJoined (by simp [DumpOver, hpc])),
      h.stopped, fun hp hor ↦ (h.woken hp hor).writePipe writes, h.joined⟩

theorem Stopping.of_turn {progress i : ℕ} {action : Action} (h : w.Stopping progress)
    (hturn : w.Turn i action next) : next.Stopping progress := by
  cases hturn with
  | loop writes next hnext => exact h.of_loopTurn (loopTurn hnext)
  | dump writes next hnext => exact h.of_dumpTurn (dumpTurn hnext)
  | pollReturns noticed hpoll =>
    exact h.of_awake (by simp [LoopOver, hpoll]) rfl rfl rfl (by simp)
  | pollFails hpoll =>
    exact ⟨h.rtpStopped, h.rtpJoined, h.stopped, fun _ hor ↦ by simp at hor, fun _ ↦ Or.inr rfl⟩

/-- The steps that the session thread makes before it ends, once it was told to. -/
def loopLeft : LoopPc → ℕ
  | .absent | .ended => 0
  | .test => 1
  | .rtsp => 2
  | .vtuner => 3
  | .drain => 4
  | .timers => 5
  | .poll => 6
  | .status => 7

/-- The steps that the RTP thread makes before it ends, once it was told to. -/
def dumpLeft : DumpPc → ℕ
  | .absent | .ended => 0
  | .test => 1
  | .receive => 2
  | .poll => 3

theorem loopLeft_of_loopTurn {writes : ℕ} (hstopped : w.running = false)
    (hturn : w.LoopTurn writes next) : loopLeft next.loop < loopLeft w.loop := by
  cases hturn with
  | test hpc pc hnext =>
    rcases hnext with ⟨-, hrunning⟩ | ⟨rfl, -⟩
    · rw [hstopped] at hrunning
      cases hrunning
    · rw [hpc]
      exact Nat.zero_lt_one
  | status hpc | poll hpc | timers hpc | drain hpc | vtuner hpc | rtsp hpc =>
    rw [hpc]
    exact Nat.lt_add_one _

theorem dumpLeft_of_dumpTurn {writes : ℕ} (hstopped : w.rtpRunning = false)
    (hturn : w.DumpTurn writes next) : dumpLeft next.dump < dumpLeft w.dump := by
  cases hturn with
  | test hpc pc hnext =>
    rcases hnext with ⟨-, hrunning⟩ | ⟨rfl, -⟩
    · rw [hstopped] at hrunning
      cases hrunning
    · rw [hpc]
      exact Nat.zero_lt_one
  | poll hpc | receive hpc =>
    rw [hpc]
    exact Nat.lt_add_one _

theorem loop_of_dumpTurn {writes : ℕ} (hturn : w.DumpTurn writes next) : next.loop = w.loop := by
  cases hturn <;> rfl

theorem dump_of_loopTurn {writes : ℕ} (hturn : w.LoopTurn writes next) : next.dump = w.dump := by
  cases hturn <;> rfl

/-- A session thread that was told to end comes nearer to it; other steps leave it where it is. -/
theorem Turn.loop_nearer {i : ℕ} {action : Action} (hturn : w.Turn i action next)
    (hstopped : w.running = false) :
    loopLeft next.loop < loopLeft w.loop ∨ (action.thread = .dump i ∧ next.loop = w.loop) := by
  cases hturn with
  | loop writes next hnext => exact Or.inl (loopLeft_of_loopTurn hstopped (loopTurn hnext))
  | dump writes next hnext => exact Or.inr ⟨rfl, loop_of_dumpTurn (dumpTurn hnext)⟩
  | pollReturns noticed hpoll =>
    left
    rw [hpoll]
    exact Nat.lt_add_one 5
  | pollFails hpoll =>
    left
    rw [hpoll]
    exact Nat.succ_pos 5

/-- So does an RTP thread. -/
theorem Turn.dump_nearer {i : ℕ} {action : Action} (hturn : w.Turn i action next)
    (hstopped : w.rtpRunning = false) :
    dumpLeft next.dump < dumpLeft w.dump ∨ (action.thread ≠ .dump i ∧ next.dump = w.dump) := by
  cases hturn with
  | loop writes next hnext =>
    exact Or.inr ⟨by simp [Action.thread], dump_of_loopTurn (loopTurn hnext)⟩
  | dump writes next hnext => exact Or.inl (dumpLeft_of_dumpTurn hstopped (dumpTurn hnext))
  | pollReturns noticed hpoll | pollFails hpoll => exact Or.inr ⟨by simp [Action.thread], rfl⟩

theorem Turn.thread_ne {i : ℕ} {action : Action} (hturn : w.Turn i action next) :
    action.thread ≠ .main ∧ ∀ j, j ≠ i → action.thread ≠ .loop j ∧ action.thread ≠ .dump j := by
  cases hturn <;> simp +contextual [Action.thread, eq_comm]

/-- The session thread can go on, unless it sleeps. -/
theorem exists_stepLoop (hover : ¬w.LoopOver) (hawake : w.loop = .poll → w.Readable) :
    ∃ next, w.stepLoop 0 = some next := by
  unfold stepLoop
  cases hpc : w.loop with
  | absent => exact absurd (Or.inl hpc) hover
  | ended => exact absurd (Or.inr hpc) hover
  | poll => exact ⟨_, if_pos (hawake hpc)⟩
  | test | status | timers | drain | vtuner | rtsp => exact ⟨_, rfl⟩

theorem exists_stepDump (hover : ¬w.DumpOver) : ∃ next, w.stepDump 0 = some next := by
  unfold stepDump
  cases hpc : w.dump with
  | absent => exact absurd (Or.inl hpc) hover
  | ended => exact absurd (Or.inr hpc) hover
  | test | poll | receive => exact ⟨_, rfl⟩

end Worker

/-! ## The program -/

/-- How far `main` has come with stopping a session; see `Worker.Stopping`. -/
def MainPc.progress (pc : MainPc) (i : ℕ) : ℕ :=
  match pc with
  | .runRtp _ | .runLoop _ | .test | .sigsuspend | .unmask => 0
  | .stopRtp j => if i < j then 4 else 0
  | .joinRtp j => if i < j then 4 else if i = j then 1 else 0
  | .stopLoop j => if i < j then 4 else if i = j then 2 else 0
  | .wakeup j => if i < j then 4 else if i = j then 3 else 0
  | .join j => if i < j then 5 else 4
  | .done => 5

/-- The session that `main` works on. -/
def MainPc.session : MainPc → Option ℕ
  | .runLoop i | .joinRtp i | .stopLoop i | .wakeup i => some i
  | .runRtp _ | .test | .sigsuspend | .unmask | .stopRtp _ | .join _ | .done => none

/-- The invariant. -/
structure Orderly (σ : Program) : Prop where
  stopping : ∀ i, i < σ.count → (σ.workers i).Stopping (σ.pc.progress i)
  session : ∀ i, σ.pc.session = some i → i < σ.count
  signalled : σ.masked = false ∨ σ.pc = .unmask → σ.shutdownSigno.isSome = true

variable {σ next : Program} {action : Action}

/-- What `main` does at once. -/
inductive MainTurn (σ : Program) : Program → Prop where
  | runRtp (i : ℕ) (hpc : σ.pc = .runRtp i) (hi : i < σ.count) :
    MainTurn σ ((σ.setWorker i (σ.workers i).runRtp).goto (.runLoop i))
  | started (i : ℕ) (hpc : σ.pc = .runRtp i) : MainTurn σ (σ.goto .test)
  | runLoop (i : ℕ) (hpc : σ.pc = .runLoop i) :
    MainTurn σ ((σ.setWorker i (σ.workers i).runLoop).goto (.runRtp (i + 1)))
  | suspend (hpc : σ.pc = .test) (hsigno : σ.shutdownSigno.isSome = false) :
    MainTurn σ (σ.goto .sigsuspend)
  | leave (hpc : σ.pc = .test) (hsigno : σ.shutdownSigno.isSome = true) :
    MainTurn σ (σ.goto .unmask)
  | resume (hpc : σ.pc = .sigsuspend) (hsigno : σ.shutdownSigno.isSome = true) :
    MainTurn σ (σ.goto .test)
  | unmask (hpc : σ.pc = .unmask) : MainTurn σ { σ.goto (.stopRtp 0) with masked := false }
  | stopRtp (i : ℕ) (hpc : σ.pc = .stopRtp i) (hi : i < σ.count) :
    MainTurn σ ((σ.setWorker i { σ.workers i with rtpRunning := false }).goto (.joinRtp i))
  | stopped (i : ℕ) (hpc : σ.pc = .stopRtp i) (hi : σ.count ≤ i) : MainTurn σ (σ.goto (.join 0))
  | joinRtp (i : ℕ) (hpc : σ.pc = .joinRtp i) (hover : (σ.workers i).DumpOver) :
    MainTurn σ (σ.goto (.stopLoop i))
  | stopLoop (i : ℕ) (hpc : σ.pc = .stopLoop i) :
    MainTurn σ ((σ.setWorker i { σ.workers i with running := false }).goto (.wakeup i))
  | wakeup (i : ℕ) (hpc : σ.pc = .wakeup i) :
    MainTurn σ ((σ.setWorker i ((σ.workers i).writePipe 1)).goto (.stopRtp (i + 1)))
  | join (i : ℕ) (hpc : σ.pc = .join i) (hi : i < σ.count) (hover : (σ.workers i).LoopOver) :
    MainTurn σ (σ.goto (.join (i + 1)))
  | joined (i : ℕ) (hpc : σ.pc = .join i) (hi : σ.count ≤ i) : MainTurn σ (σ.goto .done)

theorem mainTurn (h : stepMain σ = some next) : MainTurn σ next := by
  unfold stepMain at h
  split at h
  · rename_i i hpc
    split_ifs at h with hi
    · obtain rfl := Option.some.inj h
      exact .runRtp i hpc hi
    · obtain rfl := Option.some.inj h
      exact .started i hpc
  · rename_i i hpc
    obtain rfl := Option.some.inj h
    exact .runLoop i hpc
  · rename_i hpc
    obtain rfl := Option.some.inj h
    by_cases hsigno : σ.shutdownSigno.isSome = true
    · rw [if_pos hsigno]
      exact .leave hpc hsigno
    · rw [if_neg hsigno]
      exact .suspend hpc (by simpa using hsigno)
  · rename_i hpc
    obtain ⟨hsigno, heq⟩ := Option.ite_none_right_eq_some.mp h
    obtain rfl := Option.some.inj heq
    exact .resume hpc hsigno
  · rename_i hpc
    obtain rfl := Option.some.inj h
    exact .unmask hpc
  · rename_i i hpc
    split_ifs at h with hi
    · obtain rfl := Option.some.inj h
      exact .stopRtp i hpc hi
    · obtain rfl := Option.some.inj h
      exact .stopped i hpc (not_lt.mp hi)
  · rename_i i hpc
    obtain ⟨hover, heq⟩ := Option.ite_none_right_eq_some.mp h
    obtain rfl := Option.some.inj heq
    exact .joinRtp i hpc hover
  · rename_i i hpc
    obtain rfl := Option.some.inj h
    exact .stopLoop i hpc
  · rename_i i hpc
    obtain rfl := Option.some.inj h
    exact .wakeup i hpc
  · rename_i i hpc
    split_ifs at h with hi hover
    · obtain rfl := Option.some.inj h
      exact .join i hpc hi hover
    · obtain rfl := Option.some.inj h
      exact .joined i hpc (not_lt.mp hi)
  · cases h

/-- What a step of the program is. -/
inductive Effect (σ : Program) : Action → Program → Prop where
  | main (next : Program) (hturn : MainTurn σ next) : Effect σ .main next
  | deliver (signo : Signo) (hpending : signo ∈ σ.pending)
    (hopen : σ.masked = false ∨ σ.pc = .sigsuspend) :
    Effect σ (.deliver signo) (handleSignal signo σ)
  | worker (action : Action) (i : ℕ) (w : Worker) (hi : i < σ.count)
    (hturn : (σ.workers i).Turn i action w) : Effect σ action (σ.setWorker i w)
  | raise (signo : Signo) : Effect σ (.raise signo) { σ with pending := insert signo σ.pending }

theorem effect_of_step (h : step σ action = some next) :
    σ.killed = false ∧ σ.pc ≠ .done ∧ Effect σ action next := by
  obtain ⟨halive, hstep⟩ := Option.ite_none_left_eq_some.mp h
  obtain ⟨hkilled, hpc⟩ := not_or.mp halive
  refine ⟨by simpa using hkilled, hpc, ?_⟩
  have hworker (i : ℕ) (w : Option Worker) (hw : stepWorker σ i w = some next) :
      i < σ.count ∧ ∃ after, w = some after ∧ σ.setWorker i after = next := by
    obtain ⟨hi, hmap⟩ := Option.ite_none_right_eq_some.mp hw
    exact ⟨hi, Option.map_eq_some_iff.mp hmap⟩
  cases action with
  | main => exact .main next (mainTurn hstep)
  | deliver signo =>
    obtain ⟨⟨hpending, hopen⟩, heq⟩ := Option.ite_none_right_eq_some.mp hstep
    obtain rfl := Option.some.inj heq
    exact .deliver signo hpending hopen
  | loop i writes =>
    obtain ⟨hi, w, hw, rfl⟩ := hworker i _ hstep
    exact .worker _ i w hi (.loop writes w hw)
  | dump i writes =>
    obtain ⟨hi, w, hw, rfl⟩ := hworker i _ hstep
    exact .worker _ i w hi (.dump writes w hw)
  | pollReturns i noticed =>
    obtain ⟨hi, w, hw, rfl⟩ := hworker i _ hstep
    obtain ⟨hpoll, heq⟩ := Option.ite_none_right_eq_some.mp hw
    obtain rfl := Option.some.inj heq
    exact .worker _ i _ hi (.pollReturns noticed hpoll)
  | pollFails i =>
    obtain ⟨hi, w, hw, rfl⟩ := hworker i _ hstep
    obtain ⟨hpoll, heq⟩ := Option.ite_none_right_eq_some.mp hw
    obtain rfl := Option.some.inj heq
    exact .worker _ i _ hi (.pollFails hpoll)
  | raise signo =>
    obtain rfl := Option.some.inj hstep
    exact .raise signo

/-! ### The invariant -/

theorem stopping_zero (w : Worker) : w.Stopping 0 where
  rtpStopped hp := by cases hp
  rtpJoined hp := by cases hp
  stopped hp := by cases hp
  woken hp := by cases hp
  joined hp := by cases hp

/-- `main` works on one session, and has not come further with the others. -/
theorem Orderly.stopping_update (h : Orderly σ) {i : ℕ} {w : Worker} {pc : MainPc}
    (hi : i < σ.count → w.Stopping (pc.progress i))
    (hother : ∀ j, j < σ.count → j ≠ i → pc.progress j ≤ σ.pc.progress j) :
    ∀ j, j < σ.count → (Function.update σ.workers i w j).Stopping (pc.progress j) := by
  intro j hj
  by_cases hji : j = i
  · subst hji
    rw [Function.update_self]
    exact hi hj
  · rw [Function.update_of_ne hji]
    exact (h.stopping j hj).mono (hother j hj hji)

/-- `main` goes on without touching a session. -/
theorem Orderly.stopping_goto (h : Orderly σ) {pc : MainPc}
    (hpc : ∀ j, j < σ.count → pc.progress j ≤ σ.pc.progress j) :
    ∀ j, j < σ.count → (σ.workers j).Stopping (pc.progress j) :=
  fun j hj ↦ (h.stopping j hj).mono (hpc j hj)

/-- What `main` has done for the other sessions when it works on one of them. -/
theorem progress_le_of_ne {i j : ℕ} (hne : j ≠ i) :
    MainPc.progress (.joinRtp i) j ≤ MainPc.progress (.stopRtp i) j ∧
      MainPc.progress (.stopLoop i) j ≤ MainPc.progress (.joinRtp i) j ∧
      MainPc.progress (.wakeup i) j ≤ MainPc.progress (.stopLoop i) j ∧
      MainPc.progress (.stopRtp (i + 1)) j ≤ MainPc.progress (.wakeup i) j ∧
      MainPc.progress (.join (i + 1)) j ≤ MainPc.progress (.join i) j := by
  have hsucc : j < i + 1 ↔ j < i := by omega
  simp only [MainPc.progress, if_neg hne, hsucc, le_refl, and_self]

theorem Orderly.of_mainTurn (h : Orderly σ) (hturn : MainTurn σ next) : Orderly next := by
  have hzero {pc : MainPc} (hpc : ∀ j, pc.progress j = 0) (workers : ℕ → Worker) :
      ∀ j, j < σ.count → (workers j).Stopping (pc.progress j) := by
    intro j _
    rw [hpc j]
    exact stopping_zero _
  have hsigno {pc : MainPc} (hne : pc ≠ .unmask) (hor : σ.masked = false ∨ pc = .unmask) :
      σ.shutdownSigno.isSome = true := h.signalled (Or.inl (hor.resolve_right hne))
  cases hturn with
  | runRtp i hpc hi =>
    exact ⟨hzero (fun _ ↦ rfl) _, fun j hj ↦ Option.some.inj hj ▸ hi, hsigno (by simp)⟩
  | started | runLoop | suspend | resume =>
    exact ⟨hzero (fun _ ↦ rfl) _, fun j hj ↦ (by cases hj), hsigno (by simp)⟩
  | leave hpc hset => exact ⟨hzero (fun _ ↦ rfl) _, fun j hj ↦ (by cases hj), fun _ ↦ hset⟩
  | unmask hpc =>
    exact ⟨hzero (fun _ ↦ rfl) _, fun j hj ↦ (by cases hj), fun _ ↦ h.signalled (Or.inr hpc)⟩
  | stopRtp i hpc hi =>
    refine ⟨h.stopping_update (fun _ ↦ ?_) fun j _ hj ↦ ?_, fun j hj ↦ Option.some.inj hj ▸ hi,
      hsigno (by simp)⟩
    · refine ⟨fun _ ↦ rfl, ?_, ?_, ?_, ?_⟩ <;> simp [MainPc.progress]
    · rw [hpc]
      exact (progress_le_of_ne hj).1
  | stopped i hpc hi =>
    refine ⟨h.stopping_goto fun j hj ↦ ?_, fun j hj ↦ (by cases hj), hsigno (by simp)⟩
    rw [hpc]
    simp [MainPc.progress, hj.trans_le hi]
  | joinRtp i hpc hover =>
    have hi : i < σ.count := h.session i (by rw [hpc]; rfl)
    have hworker : (σ.workers i).Stopping 2 := by
      have hone : (σ.workers i).Stopping 1 :=
        (h.stopping i hi).mono (by simp [hpc, MainPc.progress])
      refine ⟨fun _ ↦ hone.rtpStopped le_rfl, fun _ ↦ hover, ?_, ?_, ?_⟩ <;> simp
    refine ⟨fun j hj ↦ ?_, fun j hj ↦ Option.some.inj hj ▸ hi, hsigno (by simp)⟩
    by_cases hji : j = i
    · subst hji
      exact hworker.mono (by simp [Program.goto, MainPc.progress])
    · refine (h.stopping j hj).mono ?_
      rw [hpc]
      exact (progress_le_of_ne hji).2.1
  | stopLoop i hpc =>
    have hi : i < σ.count := h.session i (by rw [hpc]; rfl)
    have htwo : (σ.workers i).Stopping 2 := (h.stopping i hi).mono (by simp [hpc, MainPc.progress])
    refine ⟨h.stopping_update (fun _ ↦ ?_) fun j _ hj ↦ ?_, fun j hj ↦ Option.some.inj hj ▸ hi,
      hsigno (by simp)⟩
    · refine ⟨fun _ ↦ htwo.rtpStopped (by simp), fun _ ↦ htwo.rtpJoined le_rfl, fun _ ↦ rfl, ?_, ?_⟩
        <;> simp [MainPc.progress]
    · rw [hpc]
      exact (progress_le_of_ne hj).2.2.1
  | wakeup i hpc =>
    have hi : i < σ.count := h.session i (by rw [hpc]; rfl)
    have hthree : (σ.workers i).Stopping 3 :=
      (h.stopping i hi).mono (by simp [hpc, MainPc.progress])
    refine ⟨h.stopping_update (fun _ ↦ ?_) fun j _ hj ↦ ?_, fun j hj ↦ (by cases hj),
      hsigno (by simp)⟩
    · refine ⟨fun _ ↦ hthree.rtpStopped (by simp), fun _ ↦ hthree.rtpJoined (by simp),
        fun _ ↦ hthree.stopped le_rfl, fun _ _ ↦ Worker.readable_writePipe_one _, ?_⟩
      simp [MainPc.progress]
    · rw [hpc]
      exact (progress_le_of_ne hj).2.2.2.1
  | join i hpc hi hover =>
    have hfour : (σ.workers i).Stopping 4 := (h.stopping i hi).mono (by simp [hpc, MainPc.progress])
    refine ⟨fun j hj ↦ ?_, fun j hj ↦ (by cases hj), hsigno (by simp)⟩
    by_cases hji : j = i
    · subst hji
      refine ⟨fun _ ↦ hfour.rtpStopped (by simp), fun _ ↦ hfour.rtpJoined (by simp),
        fun _ ↦ hfour.stopped (by simp), fun _ ↦ hfour.woken le_rfl, fun _ ↦ hover⟩
    · refine (h.stopping j hj).mono ?_
      rw [hpc]
      exact (progress_le_of_ne hji).2.2.2.2
  | joined i hpc hi =>
    refine ⟨h.stopping_goto fun j hj ↦ ?_, fun j hj ↦ (by cases hj), hsigno (by simp)⟩
    rw [hpc]
    simp [MainPc.progress, hj.trans_le hi]

/-- A thread of a session makes a step. -/
theorem Orderly.of_turn (h : Orderly σ) {i : ℕ} {w : Worker} (hi : i < σ.count)
    (hturn : (σ.workers i).Turn i action w) : Orderly (σ.setWorker i w) :=
  ⟨h.stopping_update (fun _ ↦ (h.stopping i hi).of_turn hturn) fun _ _ _ ↦ le_rfl, h.session,
    h.signalled⟩

theorem Orderly.of_effect (h : Orderly σ) (heffect : Effect σ action next) : Orderly next := by
  cases heffect with
  | main next hturn => exact h.of_mainTurn hturn
  | deliver signo hpending hopen =>
    unfold handleSignal
    split_ifs with hsigno
    · exact ⟨h.stopping, h.session, fun _ ↦ hsigno⟩
    · exact ⟨h.stopping, h.session, fun _ ↦ rfl⟩
  | worker _ i w hi hturn => exact h.of_turn hi hturn
  | raise signo => exact ⟨h.stopping, h.session, h.signalled⟩

theorem orderly_start (args : List WorkerArgs) : Orderly (start args) where
  stopping i _ := stopping_zero _
  session i hi := by cases hi
  signalled hor := by simp [start] at hor

theorem step_orderly (h : Orderly σ) (hstep : step σ action = some next) : Orderly next :=
  h.of_effect (effect_of_step hstep).2.2

theorem Orderly.over_of_done (h : Orderly σ) (hdone : σ.pc = .done) {i : ℕ} (hi : i < σ.count) :
    (σ.workers i).LoopOver ∧ (σ.workers i).DumpOver := by
  have hstopping : (σ.workers i).Stopping 5 := by
    have hprogress := h.stopping i hi
    rwa [hdone] at hprogress
  exact ⟨hstopping.joined le_rfl, hstopping.rtpJoined (by simp)⟩

/-- When `main` has returned, the static destructor deletes the sessions; no thread is left then
that could still use one. -/
theorem threads_over {args : List WorkerArgs} {σ : Program}
    (h : Runs.Reachable step (start args) σ) (hdone : σ.pc = .done) :
    ∀ i, i < σ.count → (σ.workers i).LoopOver ∧ (σ.workers i).DumpOver := by
  have horderly : Orderly σ := h.invariant (fun _ _ _ ↦ step_orderly) (orderly_start args)
  exact fun i hi ↦ horderly.over_of_done hdone hi

/-! ### Signals -/

/-- The signals sent to the process. -/
def Action.isRaise : Action → Bool
  | raise _ => true
  | main | deliver _ | loop _ _ | dump _ _ | pollReturns _ _ | pollFails _ => false

/-- The signals that are pending or were delivered. -/
def signals (σ : Program) : ℕ :=
  σ.pending.card + σ.shutdownSigno.isSome.toNat + σ.killed.toNat

theorem signals_of_effect (hkilled : σ.killed = false) (heffect : Effect σ action next) :
    signals next ≤ signals σ + action.isRaise.toNat := by
  cases heffect with
  | main next hturn => cases hturn <;> exact Nat.le_add_right _ _
  | deliver signo hpending hopen =>
    have hcard : (σ.pending.erase signo).card + 1 = σ.pending.card :=
      Finset.card_erase_add_one hpending
    unfold handleSignal signals
    split_ifs with hset
    · simp only [hset, hkilled, Bool.toNat_true, Bool.toNat_false]
      omega
    · have hnone : σ.shutdownSigno.isSome = false := by simpa using hset
      simp only [hnone, hkilled, Option.isSome_some, Bool.toNat_true, Bool.toNat_false]
      omega
  | worker => exact Nat.le_add_right _ _
  | raise signo =>
    have hcard : (insert signo σ.pending).card ≤ σ.pending.card + 1 := Finset.card_insert_le _ _
    simp only [signals, Action.isRaise, Bool.toNat_true]
    omega

theorem signals_of_run {ops : List Action} (h : Runs.run step σ ops = some next) :
    signals next ≤ signals σ + ops.countP Action.isRaise := by
  induction ops generalizing σ with
  | nil =>
    obtain rfl := Option.some.inj h
    exact Nat.le_add_right _ _
  | cons op ops ih =>
    rw [Runs.run_cons, Option.bind_eq_some_iff] at h
    obtain ⟨mid, hmid, hrest⟩ := h
    obtain ⟨hkilled, -, heffect⟩ := effect_of_step hmid
    have hop : signals mid ≤ signals σ + op.isRaise.toNat := signals_of_effect hkilled heffect
    have hlater : signals next ≤ signals mid + ops.countP Action.isRaise := ih hrest
    have hcount : (op :: ops).countP Action.isRaise =
        ops.countP Action.isRaise + op.isRaise.toNat := by
      rw [List.countP_cons]
      cases op.isRaise <;> rfl
    omega

theorem signo_of_killed_of_effect (h : σ.killed = true → σ.shutdownSigno.isSome = true)
    (heffect : Effect σ action next) : next.killed = true → next.shutdownSigno.isSome = true := by
  cases heffect with
  | main next hturn => cases hturn <;> exact h
  | deliver signo hpending hopen =>
    unfold handleSignal
    split_ifs with hset
    · exact fun _ ↦ hset
    · exact fun _ ↦ rfl
  | worker => exact h
  | raise => exact h

theorem signo_of_killed {args : List WorkerArgs} (h : Runs.Reachable step (start args) σ) :
    σ.killed = true → σ.shutdownSigno.isSome = true := by
  have hkept (σ : Program) (op : Action) (next : Program)
      (hσ : σ.killed = true → σ.shutdownSigno.isSome = true) (hstep : step σ op = some next) :
      next.killed = true → next.shutdownSigno.isSome = true :=
    signo_of_killed_of_effect hσ (effect_of_step hstep).2.2
  have hfirst : (start args).killed = true → (start args).shutdownSigno.isSome = true := by
    intro hkilled
    cases hkilled
  exact h.invariant hkept hfirst

/-- The steps that `main` has still to make, when a signal has come. -/
def mainLeft (σ : Program) : ℕ :=
  match σ.pc with
  | .runRtp i => 8 + 5 * σ.count + 2 * (σ.count - i)
  | .runLoop i => 7 + 5 * σ.count + 2 * (σ.count - i)
  | .test => (if σ.shutdownSigno.isSome then 4 else 7) + 5 * σ.count
  | .sigsuspend => (if σ.shutdownSigno.isSome then 5 else 6) + 5 * σ.count
  | .unmask => 3 + 5 * σ.count
  | .stopRtp i => 2 + σ.count + 4 * (σ.count - i)
  | .joinRtp i => 1 + σ.count + 4 * (σ.count - i)
  | .stopLoop i => σ.count + 4 * (σ.count - i)
  | .wakeup i => σ.count + 4 * (σ.count - i) - 1
  | .join i => 1 + (σ.count - i)
  | .done => 0

/-- The steps that the thread `main` waits for has still to make. -/
def threadLeft (σ : Program) : ℕ :=
  match σ.pc with
  | .joinRtp i => Worker.dumpLeft (σ.workers i).dump
  | .join i => if i < σ.count then Worker.loopLeft (σ.workers i).loop else 0
  | _ => 0

/-- Who brings the program nearer to its end: `main`, or the thread it waits for. -/
def helper (σ : Program) : Thread :=
  match σ.pc with
  | .joinRtp i => if (σ.workers i).DumpOver then .main else .dump i
  | .join i => if i < σ.count ∧ ¬(σ.workers i).LoopOver then .loop i else .main
  | _ => .main

/-- A thread has at most seven steps to make, so one of `main` counts as eight. -/
def distance (σ : Program) : ℕ := 8 * mainLeft σ + threadLeft σ

/-- The process has ended, in an orderly way or by a second signal. -/
def Over (σ : Program) : Prop := σ.pc = .done ∨ σ.killed = true

/-- A signal has come. -/
def Signalled (σ : Program) : Prop := σ.pending.Nonempty ∨ σ.shutdownSigno.isSome = true

theorem loopLeft_le (pc : LoopPc) : Worker.loopLeft pc ≤ 7 := by cases pc <;> decide

theorem dumpLeft_le (pc : DumpPc) : Worker.dumpLeft pc ≤ 7 := by cases pc <;> decide

theorem threadLeft_le (σ : Program) : threadLeft σ ≤ 7 := by
  unfold threadLeft
  split
  · exact dumpLeft_le _
  · split_ifs
    · exact loopLeft_le _
    · exact Nat.zero_le 7
  · exact Nat.zero_le 7

theorem distance_lt_of_mainLeft (h : mainLeft next < mainLeft σ) : distance next < distance σ := by
  have hthread : threadLeft next ≤ 7 := threadLeft_le next
  unfold distance
  omega

theorem mainLeft_of_mainTurn (h : Orderly σ) (hturn : MainTurn σ next) :
    mainLeft next < mainLeft σ := by
  have hsession {i : ℕ} (hpc : σ.pc.session = some i) : i < σ.count := h.session i hpc
  cases hturn with
  | runRtp i hpc hi => simp [mainLeft, hpc]
  | started i hpc =>
    simp only [mainLeft, hpc, Program.pc_goto, Program.count_goto]
    split_ifs <;> omega
  | runLoop i hpc =>
    have hi : i < σ.count := hsession (by rw [hpc]; rfl)
    simp only [mainLeft, hpc, Program.pc_goto, Program.count_goto, Program.count_setWorker]
    omega
  | suspend hpc hsigno => simp [mainLeft, hpc, hsigno]
  | leave hpc hset => simp [mainLeft, hpc, hset]
  | resume hpc hset => simp [mainLeft, hpc, hset]
  | unmask hpc =>
    simp only [mainLeft, hpc, Program.pc_goto, Program.count_goto]
    omega
  | stopRtp i hpc hi => simp [mainLeft, hpc]
  | stopped i hpc hi =>
    simp only [mainLeft, hpc, Program.pc_goto, Program.count_goto]
    omega
  | joinRtp i hpc hover => simp [mainLeft, hpc]
  | stopLoop i hpc =>
    have hi : i < σ.count := hsession (by rw [hpc]; rfl)
    simp only [mainLeft, hpc, Program.pc_goto, Program.count_goto, Program.count_setWorker]
    omega
  | wakeup i hpc =>
    have hi : i < σ.count := hsession (by rw [hpc]; rfl)
    simp only [mainLeft, hpc, Program.pc_goto, Program.count_goto, Program.count_setWorker]
    omega
  | join i hpc hi hover =>
    simp only [mainLeft, hpc, Program.pc_goto, Program.count_goto]
    omega
  | joined i hpc hi =>
    simp only [mainLeft, hpc, Program.pc_goto]
    omega

/-- A signal that is delivered takes `main` out of `sigsuspend`, or ends the process. -/
theorem distance_of_handleSignal (h : Orderly σ) (signo : Signo)
    (hopen : σ.masked = false ∨ σ.pc = .sigsuspend) :
    Over (handleSignal signo σ) ∨ distance (handleSignal signo σ) < distance σ := by
  unfold handleSignal
  split_ifs with hsigno
  · exact Or.inl (Or.inr rfl)
  · right
    have hpc : σ.pc = .sigsuspend :=
      hopen.resolve_left fun hmasked ↦ hsigno (h.signalled (Or.inl hmasked))
    apply distance_lt_of_mainLeft
    simp [mainLeft, hpc, hsigno]

/-- While `main` waits for an RTP thread, that thread helps until it has ended. -/
theorem helper_joinRtp {i : ℕ} (hpc : σ.pc = .joinRtp i) :
    helper σ = if (σ.workers i).DumpOver then .main else .dump i := by
  unfold helper
  rw [hpc]

/-- While `main` waits for a session thread, that thread helps until it has ended. -/
theorem helper_join {i : ℕ} (hpc : σ.pc = .join i) :
    helper σ = if i < σ.count ∧ ¬(σ.workers i).LoopOver then .loop i else .main := by
  unfold helper
  rw [hpc]

/-- The thread that `main` waits for comes nearer to its end, or makes no step. -/
theorem threadLeft_of_turn (h : Orderly σ) {i : ℕ} {w : Worker} (hi : i < σ.count)
    (hturn : (σ.workers i).Turn i action w) :
    threadLeft (σ.setWorker i w) < threadLeft σ ∨
      (threadLeft (σ.setWorker i w) = threadLeft σ ∧ helper (σ.setWorker i w) = helper σ ∧
        action.thread ≠ helper σ) := by
  obtain ⟨hmain, hother⟩ := hturn.thread_ne
  cases hpc : σ.pc with
  | joinRtp j =>
    have hpc' : (σ.setWorker i w).pc = .joinRtp j := hpc
    rw [helper_joinRtp hpc, helper_joinRtp hpc']
    by_cases hji : j = i
    · subst hji
      have hstopped : (σ.workers j).rtpRunning = false :=
        (h.stopping j hi).rtpStopped (by simp [hpc, MainPc.progress])
      rcases hturn.dump_nearer hstopped with hlt | ⟨hne, hsame⟩
      · left
        simpa [threadLeft, hpc] using hlt
      · right
        have hover : w.DumpOver ↔ (σ.workers j).DumpOver := by simp only [Worker.DumpOver, hsame]
        refine ⟨by simp [threadLeft, hpc, hsame], by simp [hover], ?_⟩
        split_ifs
        · exact hmain
        · exact hne
    · right
      refine ⟨by simp [threadLeft, hpc, hji], by simp [hji], ?_⟩
      split_ifs
      · exact hmain
      · exact (hother j hji).2
  | join j =>
    have hpc' : (σ.setWorker i w).pc = .join j := hpc
    rw [helper_join hpc, helper_join hpc']
    by_cases hji : j = i
    · subst hji
      have hprogress : 3 ≤ σ.pc.progress j := by simp [hpc, MainPc.progress]
      have hstopped : (σ.workers j).running = false := (h.stopping j hi).stopped hprogress
      rcases hturn.loop_nearer hstopped with hlt | ⟨hthread, hsame⟩
      · left
        simpa [threadLeft, hpc, hi] using hlt
      · right
        have hover : w.LoopOver ↔ (σ.workers j).LoopOver := by simp only [Worker.LoopOver, hsame]
        refine ⟨by simp [threadLeft, hpc, hsame], by simp [hover], ?_⟩
        rw [hthread]
        split_ifs <;> simp
    · right
      refine ⟨by simp [threadLeft, hpc, hji], by simp [hji], ?_⟩
      split_ifs
      · exact (hother j hji).1
      · exact hmain
  | runRtp | runLoop | test | sigsuspend | unmask | stopRtp | stopLoop | wakeup | done =>
    right
    simpa [threadLeft, helper, hpc] using hmain

theorem mainLeft_setWorker (σ : Program) (i : ℕ) (w : Worker) :
    mainLeft (σ.setWorker i w) = mainLeft σ := rfl

/-- Where nobody has come nearer to the end, the helper is the same and has made no step. -/
theorem distance_of_effect (h : Orderly σ) (heffect : Effect σ action next) :
    Over next ∨ distance next < distance σ ∨
      (distance next = distance σ ∧ helper next = helper σ ∧ action.thread ≠ helper σ) := by
  cases heffect with
  | main next hturn =>
    exact Or.inr (Or.inl (distance_lt_of_mainLeft (mainLeft_of_mainTurn h hturn)))
  | deliver signo hpending hopen => exact (distance_of_handleSignal h signo hopen).imp_right Or.inl
  | worker _ i w hi hturn =>
    right
    unfold distance
    rw [mainLeft_setWorker]
    rcases threadLeft_of_turn h hi hturn with hlt | ⟨heq, hsame⟩
    · exact Or.inl (by omega)
    · exact Or.inr ⟨by rw [heq], hsame⟩
  | raise signo =>
    refine Or.inr (Or.inr ⟨rfl, rfl, ?_⟩)
    unfold helper
    split <;> (try split_ifs) <;> simp [Action.thread]

/-! ### The helper can go on -/

theorem step_main (hover : ¬Over σ) : step σ .main = stepMain σ :=
  if_neg fun hor ↦ hover hor.symm

theorem step_deliver (hover : ¬Over σ) (signo : Signo) :
    step σ (.deliver signo) = deliver signo σ :=
  if_neg fun hor ↦ hover hor.symm

theorem enabled_of_stepMain (hover : ¬Over σ) (h : (stepMain σ).isSome = true) :
    Enabled StepOf .main σ := by
  obtain ⟨next, hnext⟩ := Option.isSome_iff_exists.mp h
  exact ⟨next, .main, rfl, (step_main hover).trans hnext⟩

theorem enabled_dump (hover : ¬Over σ) {i : ℕ} (hi : i < σ.count)
    (hdump : ¬(σ.workers i).DumpOver) : Enabled StepOf (.dump i) σ := by
  obtain ⟨w, hw⟩ := Worker.exists_stepDump hdump
  refine ⟨σ.setWorker i w, .dump i 0, rfl, ?_⟩
  rw [step, if_neg fun hor ↦ hover hor.symm]
  simp [stepWorker, hi, hw]

/-- A session thread that was told to end does not sleep. -/
theorem enabled_loop (h : Orderly σ) (hover : ¬Over σ) {i : ℕ} (hi : i < σ.count)
    (hpc : σ.pc = .join i) (hloop : ¬(σ.workers i).LoopOver) : Enabled StepOf (.loop i) σ := by
  have hwoken : (σ.workers i).loop = .poll → (σ.workers i).Readable := by
    intro hpoll
    exact (h.stopping i hi).woken (by simp [hpc, MainPc.progress]) (Or.inr hpoll)
  obtain ⟨w, hw⟩ := Worker.exists_stepLoop hloop hwoken
  refine ⟨σ.setWorker i w, .loop i 0, rfl, ?_⟩
  rw [step, if_neg fun hor ↦ hover hor.symm]
  simp [stepWorker, hi, hw]

/-- The helper can make a step.  In `sigsuspend` the signal is delivered. -/
theorem enabled_helper (h : Orderly σ) (hsignalled : Signalled σ) (hover : ¬Over σ) :
    Enabled StepOf (helper σ) σ := by
  cases hpc : σ.pc with
  | joinRtp i =>
    have hi : i < σ.count := h.session i (by rw [hpc]; rfl)
    rw [helper_joinRtp hpc]
    split_ifs with hdump
    · exact enabled_of_stepMain hover (by simp [stepMain, hpc, hdump])
    · exact enabled_dump hover hi hdump
  | join i =>
    rw [helper_join hpc]
    split_ifs with hloop
    · exact enabled_loop h hover hloop.1 hpc hloop.2
    · by_cases hi : i < σ.count
      · have hended : (σ.workers i).LoopOver := not_not.mp fun hnot ↦ hloop ⟨hi, hnot⟩
        exact enabled_of_stepMain hover (by simp [stepMain, hpc, hi, hended])
      · exact enabled_of_stepMain hover (by simp [stepMain, hpc, hi])
  | sigsuspend =>
    have hmain : helper σ = .main := by simp [helper, hpc]
    rw [hmain]
    by_cases hset : σ.shutdownSigno.isSome = true
    · exact enabled_of_stepMain hover (by simp [stepMain, hpc, hset])
    · obtain ⟨signo, hsigno⟩ := hsignalled.resolve_right hset
      refine ⟨handleSignal signo σ, .deliver signo, rfl, ?_⟩
      rw [step_deliver hover]
      exact if_pos ⟨hsigno, Or.inr hpc⟩
  | runRtp i =>
    have hmain : helper σ = .main := by simp [helper, hpc]
    rw [hmain]
    by_cases hi : i < σ.count
    · exact enabled_of_stepMain hover (by simp [stepMain, hpc, hi])
    · exact enabled_of_stepMain hover (by simp [stepMain, hpc, hi])
  | stopRtp i =>
    have hmain : helper σ = .main := by simp [helper, hpc]
    rw [hmain]
    by_cases hi : i < σ.count
    · exact enabled_of_stepMain hover (by simp [stepMain, hpc, hi])
    · exact enabled_of_stepMain hover (by simp [stepMain, hpc, hi])
  | runLoop | test | unmask | stopLoop | wakeup =>
    have hmain : helper σ = .main := by simp [helper, hpc]
    rw [hmain]
    exact enabled_of_stepMain hover (by simp [stepMain, hpc])
  | done => exact absurd (Or.inl hpc) hover

/-! ### Fair runs -/

theorem signalled_of_effect (h : Signalled σ) (heffect : Effect σ action next) :
    Signalled next := by
  cases heffect with
  | main next hturn => cases hturn <;> exact h
  | deliver signo hpending hopen =>
    unfold handleSignal
    split_ifs with hset
    · exact Or.inr hset
    · exact Or.inr rfl
  | worker => exact h
  | raise signo => exact Or.inl (Finset.insert_nonempty signo σ.pending)

theorem helps_over : Helps StepOf (fun σ ↦ Orderly σ ∧ Signalled σ) Over distance helper where
  step_inv := by
    rintro thread σ next ⟨horderly, hsignalled⟩ - ⟨action, -, hstep⟩
    have heffect : Effect σ action next := (effect_of_step hstep).2.2
    exact Or.inr ⟨horderly.of_effect heffect, signalled_of_effect hsignalled heffect⟩
  enabled σ hσ hover := enabled_helper hσ.1 hσ.2 hover
  descends := by
    rintro σ next ⟨horderly, -⟩ - ⟨action, hthread, hstep⟩
    rcases distance_of_effect horderly (effect_of_step hstep).2.2 with hgoal | hlt | hsame
    · exact Or.inl hgoal
    · exact Or.inr hlt
    · exact absurd hthread hsame.2.2
  waits := by
    rintro thread σ next ⟨horderly, -⟩ - ⟨action, -, hstep⟩
    rcases distance_of_effect horderly (effect_of_step hstep).2.2 with hgoal | hlt | hsame
    · exact Or.inl hgoal
    · exact Or.inr (Or.inl hlt)
    · exact Or.inr (Or.inr ⟨hsame.1, hsame.2.1⟩)

/-- An empty pipe. -/
def emptyPipe : Pipe where
  capacity := 4096
  capacity_pos := Nat.zero_lt_succ 4095
  bytes := 0
  bytes_le := Nat.zero_le 4096

/-- A session without TCP data is started, `SIGTERM` comes while its threads sleep, and the program
shuts down. -/
def terminated : List Action :=
  [.main, .main, .main, .loop 0 0, .loop 0 0, .dump 0 0, .main, .raise .sigterm, .deliver .sigterm,
    .main, .main, .main, .main, .dump 0 1, .dump 0 1, .dump 0 0, .main, .main, .main, .main,
    .loop 0 0, .loop 0 0, .loop 0 0, .loop 0 0, .loop 0 1, .loop 0 0, .main, .main]

/-- The arguments of that session. -/
def terminatedArgs : List WorkerArgs := [{ tcpData := false, pipe := some emptyPipe }]

theorem threads_over_terminated : ∃ σ, Runs.run step (start terminatedArgs) terminated = some σ ∧
    σ.count = 1 ∧ ∀ i, i < σ.count → (σ.workers i).LoopOver ∧ (σ.workers i).DumpOver := by
  have hlast : (Runs.run step (start terminatedArgs) terminated).map (fun σ ↦ (σ.pc, σ.count)) =
      some (.done, 1) := rfl
  obtain ⟨σ, hrun, hfields⟩ := Option.map_eq_some_iff.mp hlast
  obtain ⟨hdone, hcount⟩ := Prod.mk.inj hfields
  exact ⟨σ, hrun, hcount, threads_over ⟨terminated, hrun⟩ hdone⟩

/-- The states of that run. -/
def terminatedRun : ℕ → Program := Fairness.replay step (start terminatedArgs) terminated

theorem terminatedRun_done {n : ℕ} (hn : terminated.length ≤ n) :
    (terminatedRun n).pc = .done ∧ (terminatedRun n).shutdownSigno = some .sigterm := by
  unfold terminatedRun
  rw [Fairness.replay_of_le step _ _ hn]
  exact ⟨rfl, rfl⟩

theorem not_enabled_of_done (hdone : σ.pc = .done) (thread : Thread) :
    ¬Enabled StepOf thread σ := by
  rintro ⟨next, action, -, hstep⟩
  exact (effect_of_step hstep).2.1 hdone

end SatipClient.Session
