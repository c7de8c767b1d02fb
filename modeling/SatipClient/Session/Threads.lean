import Mathlib.Data.Finset.Erase
import Mathlib.Data.Finset.Insert
import Mathlib.Logic.Function.Basic
import SatipClient.Foundation.Pipe
import SatipClient.Foundation.Runs

/-!
# The threads of the program

`main` starts the sessions, waits for a signal, stops the sessions and waits for their threads.  A
session has a thread for `satipMainLoop` and, unless stream data comes over TCP, one for `rtpDump`.
What the loops do between two tests of `m_running` is left to the environment here, apart from the
pipe that ends the sleep of the session thread: it is drained behind `poll`, and the handlers of a
round may write to it any number of times.

`SIGINT` and `SIGTERM` are blocked everywhere but in `sigsuspend`, until the mask is restored.
-/

namespace SatipClient.Session

/-- The signals that `sigint_handler` is installed for. -/
inductive Signo where
  | sigint
  | sigterm
  deriving DecidableEq

/-- The next step of a session thread, in the order of `satipMainLoop`. -/
inductive LoopPc where
  /-- not created -/
  | absent
  /-- `while (m_running)` -/
  | test
  | status
  | poll
  | timers
  | drain
  | vtuner
  | rtsp
  | ended
  deriving DecidableEq

/-- The next step of an RTP thread, in the order of `rtpDump`. -/
inductive DumpPc where
  /-- not created -/
  | absent
  /-- `while(m_running)` -/
  | test
  | poll
  | receive
  | ended
  deriving DecidableEq

/-- What the threads of a session share. -/
structure Worker where
  tcpData : Bool
  /-- the pipe, if it could be created -/
  pipe : Option Pipe
  /-- `m_running` of `satipSession` -/
  running : Bool := false
  loop : LoopPc := .absent
  /-- `poll` has reported the pipe -/
  wakeup : Bool := false
  /-- `m_running` of `satipRTP` -/
  rtpRunning : Bool := false
  dump : DumpPc := .absent

/-- The next step of `main`; the sessions come one after the other. -/
inductive MainPc where
  /-- `m_satip_rtp->run()` of a session, in `satipStart` -/
  | runRtp (i : ℕ)
  /-- `run()` of a session -/
  | runLoop (i : ℕ)
  /-- `while (!shutdown_signo)` -/
  | test
  | sigsuspend
  /-- `pthread_sigmask`, to the mask from before -/
  | unmask
  /-- in `m_satip_rtp->stop()` of a session: `m_running` is cleared -/
  | stopRtp (i : ℕ)
  /-- in `m_satip_rtp->stop()` of a session: the thread is waited for -/
  | joinRtp (i : ℕ)
  /-- in `stop()` of a session: `m_running` is cleared -/
  | stopLoop (i : ℕ)
  /-- in `stop()` of a session: the pipe is written to -/
  | wakeup (i : ℕ)
  /-- `join()` of a session -/
  | join (i : ℕ)
  /-- `main` has returned -/
  | done
  deriving DecidableEq

/-- The program from the point where the signals are blocked. -/
structure Program where
  /-- the number of sessions -/
  count : ℕ
  workers : ℕ → Worker
  pc : MainPc := .runRtp 0
  /-- `shutdown_signo` -/
  shutdownSigno : Option Signo := none
  pending : Finset Signo := ∅
  masked : Bool := true
  /-- the default action of a signal has ended the process -/
  killed : Bool := false

/-- The steps.  A number of writes says how often a handler writes to the pipe. -/
inductive Action where
  | main
  /-- a pending signal is delivered to `main` -/
  | deliver (signo : Signo)
  /-- the next step of a session thread, which does not leave `poll` before the pipe is readable -/
  | loop (i : ℕ) (writes : ℕ)
  /-- the next step of an RTP thread; its `poll` takes a second at most -/
  | dump (i : ℕ) (writes : ℕ)
  /-- `poll` of a session thread returns for another reason, maybe with the pipe in its result -/
  | pollReturns (i : ℕ) (noticed : Bool)
  /-- `poll` of a session thread fails and its loop is left -/
  | pollFails (i : ℕ)
  /-- a signal is sent to the process -/
  | raise (signo : Signo)

/-- Who makes a step. -/
inductive Thread where
  | main
  | loop (i : ℕ)
  | dump (i : ℕ)
  | world
  deriving DecidableEq

/-- The thread that makes the step. -/
def Action.thread : Action → Thread
  | main | deliver _ => .main
  | loop i _ => .loop i
  | dump i _ => .dump i
  | pollReturns _ _ | pollFails _ | raise _ => .world

/-! ## A session -/

/-- The pipe can be read, if there is one. -/
def Worker.Readable (w : Worker) : Prop := ∀ pipe ∈ w.pipe, pipe.Readable

instance (w : Worker) : Decidable w.Readable := inferInstanceAs (Decidable (∀ pipe ∈ w.pipe, _))

/-- Handlers write to the pipe, if there is one. -/
def Worker.writePipe (writes : ℕ) (w : Worker) : Worker :=
  { w with pipe := w.pipe.map Pipe.write^[writes] }

/-- One step of the session thread. -/
def Worker.stepLoop (writes : ℕ) (w : Worker) : Option Worker :=
  match w.loop with
  | .absent | .ended => none
  | .test => some { w with loop := if w.running then .status else .ended }
  | .status => some { w with loop := .poll }
  | .poll => if w.Readable then some { w with loop := .timers, wakeup := w.pipe.isSome } else none
  | .timers => some { w with loop := .drain }
  | .drain =>
    some { w with loop := .vtuner, pipe := if w.wakeup then w.pipe.map Pipe.drain else w.pipe }
  | .vtuner => some { w.writePipe writes with loop := .rtsp }
  | .rtsp => some { w.writePipe writes with loop := .test }

/-- `poll` returns although the pipe may be empty. -/
def Worker.pollReturns (noticed : Bool) (w : Worker) : Option Worker :=
  if w.loop = .poll then
    some { w with loop := .timers, wakeup := noticed && w.pipe.any fun p ↦ decide p.Readable }
  else none

/-- `poll` fails. -/
def Worker.pollFails (w : Worker) : Option Worker :=
  if w.loop = .poll then some { w with loop := .ended } else none

/-- One step of the RTP thread. -/
def Worker.stepDump (writes : ℕ) (w : Worker) : Option Worker :=
  match w.dump with
  | .absent | .ended => none
  | .test => some { w with dump := if w.rtpRunning then .poll else .ended }
  | .poll => some { w with dump := .receive }
  | .receive => some { w.writePipe writes with dump := .test }

/-- `satipRTP::run` -/
def Worker.runRtp (w : Worker) : Worker :=
  { w with rtpRunning := true, dump := if w.tcpData then .absent else .test }

/-- `satipSession::run` -/
def Worker.runLoop (w : Worker) : Worker := { w with running := true, loop := .test }

/-- The RTP thread does not exist or has ended. -/
def Worker.DumpOver (w : Worker) : Prop := w.dump = .absent ∨ w.dump = .ended

/-- The session thread does not exist or has ended. -/
def Worker.LoopOver (w : Worker) : Prop := w.loop = .absent ∨ w.loop = .ended

instance (w : Worker) : Decidable w.DumpOver := inferInstanceAs (Decidable (_ ∨ _))

instance (w : Worker) : Decidable w.LoopOver := inferInstanceAs (Decidable (_ ∨ _))

/-! ## The program -/

/-- The program with another state of a session. -/
def Program.setWorker (σ : Program) (i : ℕ) (w : Worker) : Program :=
  { σ with workers := Function.update σ.workers i w }

/-- Go on with another step of `main`. -/
def Program.goto (σ : Program) (pc : MainPc) : Program := { σ with pc := pc }

section Program

variable (σ : Program) (i : ℕ) (w : Worker) (pc : MainPc)

@[simp]
theorem Program.pc_goto : (σ.goto pc).pc = pc := rfl

@[simp]
theorem Program.workers_goto : (σ.goto pc).workers = σ.workers := rfl

@[simp]
theorem Program.count_goto : (σ.goto pc).count = σ.count := rfl

@[simp]
theorem Program.shutdownSigno_goto : (σ.goto pc).shutdownSigno = σ.shutdownSigno := rfl

@[simp]
theorem Program.workers_setWorker : (σ.setWorker i w).workers = Function.update σ.workers i w := rfl

@[simp]
theorem Program.pc_setWorker : (σ.setWorker i w).pc = σ.pc := rfl

@[simp]
theorem Program.count_setWorker : (σ.setWorker i w).count = σ.count := rfl

end Program

/-- The next step of `main`.  `pthread_join` lets it go on when the thread has ended. -/
def stepMain (σ : Program) : Option Program :=
  match σ.pc with
  | .runRtp i =>
    if i < σ.count then some ((σ.setWorker i (σ.workers i).runRtp).goto (.runLoop i))
    else some (σ.goto .test)
  | .runLoop i => some ((σ.setWorker i (σ.workers i).runLoop).goto (.runRtp (i + 1)))
  | .test => some (σ.goto (if σ.shutdownSigno.isSome then .unmask else .sigsuspend))
  | .sigsuspend => if σ.shutdownSigno.isSome then some (σ.goto .test) else none
  | .unmask => some { σ.goto (.stopRtp 0) with masked := false }
  | .stopRtp i =>
    if i < σ.count then
      some ((σ.setWorker i { σ.workers i with rtpRunning := false }).goto (.joinRtp i))
    else some (σ.goto (.join 0))
  | .joinRtp i => if (σ.workers i).DumpOver then some (σ.goto (.stopLoop i)) else none
  | .stopLoop i =>
    some ((σ.setWorker i { σ.workers i with running := false }).goto (.wakeup i))
  | .wakeup i => some ((σ.setWorker i ((σ.workers i).writePipe 1)).goto (.stopRtp (i + 1)))
  | .join i =>
    if i < σ.count then
      if (σ.workers i).LoopOver then some (σ.goto (.join (i + 1))) else none
    else some (σ.goto .done)
  | .done => none

/-- `sigint_handler`: the second signal ends the process. -/
def handleSignal (signo : Signo) (σ : Program) : Program :=
  if σ.shutdownSigno.isSome then { σ with pending := σ.pending.erase signo, killed := true }
  else { σ with pending := σ.pending.erase signo, shutdownSigno := some signo }

/-- A signal is delivered where it is not blocked. -/
def deliver (signo : Signo) (σ : Program) : Option Program :=
  if signo ∈ σ.pending ∧ (σ.masked = false ∨ σ.pc = .sigsuspend) then some (handleSignal signo σ)
  else none

/-- One step of a session. -/
def stepWorker (σ : Program) (i : ℕ) (next : Option Worker) : Option Program :=
  if i < σ.count then next.map (σ.setWorker i) else none

/-- One step of the program, which makes none after it was ended. -/
def step (σ : Program) (action : Action) : Option Program :=
  if σ.killed ∨ σ.pc = .done then none
  else
    match action with
    | .main => stepMain σ
    | .deliver signo => deliver signo σ
    | .loop i writes => stepWorker σ i ((σ.workers i).stepLoop writes)
    | .dump i writes => stepWorker σ i ((σ.workers i).stepDump writes)
    | .pollReturns i noticed => stepWorker σ i ((σ.workers i).pollReturns noticed)
    | .pollFails i => stepWorker σ i (σ.workers i).pollFails
    | .raise signo => some { σ with pending := insert signo σ.pending }

/-- A step of a thread. -/
def StepOf (thread : Thread) (σ next : Program) : Prop :=
  ∃ action : Action, action.thread = thread ∧ step σ action = some next

/-- What the sessions are created with: whether data comes over TCP, and the pipe. -/
structure WorkerArgs where
  tcpData : Bool
  pipe : Option Pipe

/-- The program before the sessions are started. -/
def start (args : List WorkerArgs) : Program where
  count := args.length
  workers i := (args[i]?).elim { tcpData := true, pipe := none } fun args ↦
    { tcpData := args.tcpData, pipe := args.pipe }

end SatipClient.Session
