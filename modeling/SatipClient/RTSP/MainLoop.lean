import SatipClient.Foundation.Pipe
import SatipClient.RTSP.Session

/-!
# The main loop

`satipMainLoop` as a state machine beside the RTP thread.  The session thread tests for pid changes
in `handleRTSPStatus` and then sleeps in `poll`; the RTP thread marks a change and then writes to
the pipe that ends the sleep.  The pipe is drained behind `poll`, before the test is made again, so
a change that the test has missed has its byte in the pipe or still to come (`no_lost_wakeup`).
-/

namespace SatipClient.RTSP.MainLoop

/-- The next step of the session thread. -/
inductive Pc where
  | status
  | poll
  | timers
  | drain
  | vtuner
  | rtsp
  /-- `poll` failed and the loop was left -/
  | left
  deriving DecidableEq

/-- What `poll` reports for the pipe, the vtuner device and the socket. -/
structure Revents where
  wakeup : Bool := false
  vtuner : Bool := false
  rtsp : PollEvents := {}
  deriving DecidableEq

/-- How `poll` returns, as far as the environment decides it. -/
inductive PollResult where
  | ready (vtuner : Bool) (rtsp : PollEvents)
  | timeout
  /-- `EINTR` -/
  | interrupted
  | failed

/-- Both threads.  `writing` says that the RTP thread is in `setCaPids`, behind the critical section
and in front of the write to the pipe; `unseen` is a ghost which says that `m_ca_dirty` was set
since `handleRTSPStatus` was called last. -/
structure System where
  session : SatipRTSP
  pc : Pc := .status
  pipe : Pipe
  revents : Revents := {}
  writing : Bool := false
  unseen : Bool := false

/-- The steps of the session thread, in the order of the loop, and the two steps of `setCaPids` on
the RTP thread. -/
inductive Action where
  | handleRTSPStatus (now : Timespec) (connect : Option ℕ) (sent : Bool)
  | poll (result : PollResult)
  | handleNextTimer (now : Timespec) (sent : Bool)
  | drain
  | vtunerEvent (calls : List VtunerCall)
  | handlePollEvents (now : Timespec) (recv : Recv)
  | setCaPids (pids : Finset ℕ)
  | wakeup

/-- The events reported for the socket, which is in the set only when some are asked for. -/
def socketEvents (s : SatipRTSP) (events : PollEvents) : PollEvents :=
  if getPollEvent s = {} then {} else events

/-- `poll`.  It does not return without an event before its time is up, and an event on the pipe
does not go away. -/
def poll (result : PollResult) (σ : System) : Option System :=
  match result with
  | .ready vtuner events =>
    let revents : Revents :=
      { wakeup := decide σ.pipe.Readable, vtuner := vtuner, rtsp := socketEvents σ.session events }
    if revents = {} then none else some { σ with pc := .timers, revents := revents }
  | .timeout =>
    if σ.pipe.Readable then none else some { σ with pc := .timers, revents := {} }
  | .interrupted => some { σ with pc := .timers, revents := {} }
  | .failed => some { σ with pc := .left }

/-- A call that the message of the vtuner device asks for.  Where it makes the parser report other
CA pids, it is the session thread itself that writes to the pipe. -/
def vtunerCall (call : VtunerCall) (σ : System) : Option System :=
  (configStep call.op call.events σ.session).map fun session ↦
    if session.config.caPids = σ.session.config.caPids then { σ with session := session }
    else { σ with session := session, pipe := σ.pipe.write, unseen := true }

/-- `vtunerEvent` -/
def vtunerEvent (calls : List VtunerCall) (σ : System) : Option System :=
  if σ.revents.vtuner then calls.foldlM (fun σ call ↦ vtunerCall call σ) σ else some σ

/-- `handlePollEvents`, when `poll` reported an event for the socket. -/
def socketEvent (now : Timespec) (recv : Recv) (σ : System) : Option System :=
  if σ.revents.rtsp = {} then some σ
  else (handlePollEvents now σ.revents.rtsp recv σ.session).map fun session ↦
    { σ with session := session }

/-- The critical section of `setCaPids` on the RTP thread. -/
def report (pids : Finset ℕ) (σ : System) : System :=
  let session := { σ.session with config := Config.setCaPids pids σ.session.config }
  if pids = σ.session.config.caPids then { σ with session := session }
  else { σ with session := session, writing := true, unseen := true }

/-- Go on with another step of the loop. -/
def goto (pc : Pc) (σ : System) : System := { σ with pc := pc }

/-- One step of a thread, where it is that thread's turn to make it. -/
def step (σ : System) : Action → Option System
  | .handleRTSPStatus now connect sent =>
    if σ.pc = .status then
      some { σ with session := handleRTSPStatus now connect sent σ.session, pc := .poll,
                    unseen := false }
    else none
  | .poll result => if σ.pc = .poll then poll result σ else none
  | .handleNextTimer now sent =>
    if σ.pc = .timers then
      some { σ with session := handleNextTimer now sent σ.session, pc := .drain }
    else none
  | .drain =>
    if σ.pc = .drain then
      some { σ with pipe := if σ.revents.wakeup then σ.pipe.drain else σ.pipe, pc := .vtuner }
    else none
  | .vtunerEvent calls =>
    if σ.pc = .vtuner then (vtunerEvent calls σ).map (goto .rtsp) else none
  | .handlePollEvents now recv =>
    if σ.pc = .rtsp then (socketEvent now recv σ).map (goto .status) else none
  | .setCaPids pids => if σ.writing then none else some (report pids σ)
  | .wakeup => if σ.writing then some { σ with pipe := σ.pipe.write, writing := false } else none

/-- The state in which the threads are started. -/
def start (args : SessionArgs) (pipe : Pipe) : System where
  session := args.start
  pipe := pipe

variable {σ next : System}

/-- The invariant: a change that the session thread is about to sleep over will end the sleep. -/
def Signalled (σ : System) : Prop :=
  σ.pc = .poll → σ.unseen = true → σ.pipe.Readable ∨ σ.writing = true

/-- `poll` lets the session thread go on, or the loop is left. -/
theorem pc_of_poll {result : PollResult} (h : poll result σ = some next) :
    next.pc = .timers ∨ next.pc = .left := by
  cases result with
  | ready vtuner events =>
    simp only [poll, Option.ite_none_left_eq_some, Option.some.injEq] at h
    obtain ⟨-, rfl⟩ := h
    exact Or.inl rfl
  | timeout =>
    simp only [poll, Option.ite_none_left_eq_some, Option.some.injEq] at h
    obtain ⟨-, rfl⟩ := h
    exact Or.inl rfl
  | interrupted =>
    obtain rfl := Option.some.inj h
    exact Or.inl rfl
  | failed =>
    obtain rfl := Option.some.inj h
    exact Or.inr rfl

/-- A step leads to `poll` from `handleRTSPStatus`, which has seen every change, or from `poll`
itself, where only the RTP thread moves. -/
theorem step_signalled {action : Action} (h : Signalled σ) (hnext : step σ action = some next) :
    Signalled next := by
  intro hpc hunseen
  cases action with
  | handleRTSPStatus now connect sent =>
    simp only [step, Option.ite_none_right_eq_some, Option.some.injEq] at hnext
    obtain ⟨-, rfl⟩ := hnext
    cases hunseen
  | poll result =>
    simp only [step, Option.ite_none_right_eq_some] at hnext
    rcases pc_of_poll hnext.2 with htimers | hleft
    · rw [htimers] at hpc
      cases hpc
    · rw [hleft] at hpc
      cases hpc
  | handleNextTimer now sent =>
    simp only [step, Option.ite_none_right_eq_some, Option.some.injEq] at hnext
    obtain ⟨-, rfl⟩ := hnext
    cases hpc
  | drain =>
    simp only [step, Option.ite_none_right_eq_some, Option.some.injEq] at hnext
    obtain ⟨-, rfl⟩ := hnext
    cases hpc
  | vtunerEvent calls =>
    simp only [step, Option.ite_none_right_eq_some, Option.map_eq_some_iff] at hnext
    obtain ⟨-, mid, -, rfl⟩ := hnext
    cases hpc
  | handlePollEvents now recv =>
    simp only [step, Option.ite_none_right_eq_some, Option.map_eq_some_iff] at hnext
    obtain ⟨-, mid, -, rfl⟩ := hnext
    cases hpc
  | setCaPids pids =>
    simp only [step, Option.ite_none_left_eq_some, Option.some.injEq] at hnext
    obtain ⟨hidle, rfl⟩ := hnext
    unfold report at hpc hunseen ⊢
    dsimp only at hpc hunseen ⊢
    split_ifs at hpc hunseen ⊢
    · exact h hpc hunseen
    · exact Or.inr rfl
  | wakeup =>
    simp only [step, Option.ite_none_right_eq_some, Option.some.injEq] at hnext
    obtain ⟨-, rfl⟩ := hnext
    exact Or.inl (Pipe.readable_write _)

/-- In every interleaving: when the session thread is about to sleep and a change was marked that
`handleRTSPStatus` has not seen, the pipe can be read or the RTP thread is about to write to it.  So
`poll` does not sleep until its time is up unless that write is still to come, and behind the write
it returns with the event of the pipe. -/
theorem no_lost_wakeup (args : SessionArgs) (pipe : Pipe) (actions : List Action) (σ : System)
    (hrun : Runs.run step (start args pipe) actions = some σ) (hpc : σ.pc = .poll)
    (hunseen : σ.unseen = true) :
    (σ.pipe.Readable ∨ σ.writing = true) ∧
      (σ.writing = false → step σ (.poll .timeout) = none) ∧
      (σ.writing = true → ∃ next, step σ .wakeup = some next ∧ next.pc = .poll ∧
        next.pipe.Readable ∧ step next (.poll .timeout) = none) := by
  have hsignalled : Signalled σ := Runs.Reachable.invariant
    (fun _ _ _ h hnext ↦ step_signalled h hnext) (fun _ h ↦ by cases h) ⟨actions, hrun⟩
  have hbyte : σ.pipe.Readable ∨ σ.writing = true := hsignalled hpc hunseen
  refine ⟨hbyte, fun hidle ↦ ?_, fun hwriting ↦ ?_⟩
  · have hreadable : σ.pipe.Readable := hbyte.resolve_right (by simp [hidle])
    simp [step, poll, hpc, hreadable]
  · refine ⟨{ σ with pipe := σ.pipe.write, writing := false }, ?_, hpc,
      Pipe.readable_write _, ?_⟩
    · simp [step, hwriting]
    · simp [step, poll, hpc, Pipe.readable_write]

/-- A pipe with room for one byte. -/
def smallPipe : Pipe where
  capacity := 1
  capacity_pos := Nat.one_pos
  bytes := 0
  bytes_le := Nat.zero_le 1

/-- A change is marked while the session thread goes to sleep. -/
def lateChange : List Action := [.handleRTSPStatus {} none true, .setCaPids {0, 100}]

theorem no_lost_wakeup_lateChange :
    ∃ σ next, Runs.run step (start udpArgs smallPipe) lateChange = some σ ∧
      step σ .wakeup = some next ∧ next.pipe.Readable ∧ step next (.poll .timeout) = none := by
  have hruns : (Runs.run step (start udpArgs smallPipe) lateChange).map (fun σ ↦
      decide (σ.pc = .poll ∧ σ.unseen = true ∧ σ.writing = true)) = some true := by
    decide +kernel
  obtain ⟨σ, hrun, hfields⟩ := Option.map_eq_some_iff.mp hruns
  obtain ⟨hpc, hunseen, hwriting⟩ := of_decide_eq_true hfields
  obtain ⟨next, hnext, -, hreadable, htimeout⟩ :=
    (no_lost_wakeup udpArgs smallPipe lateChange σ hrun hpc hunseen).2.2 hwriting
  exact ⟨σ, next, hrun, hnext, hreadable, htimeout⟩

end SatipClient.RTSP.MainLoop
