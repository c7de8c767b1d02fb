import Mathlib.Logic.Relation
import SatipClient.RTSP.MainLoop
import SatipClient.Session.Shutdown

/-!
# The main loop among the threads

What `satipMainLoop` and `setCaPids` do with the data of a session is a model of its own; what they
do with the pipe and where they are in their loops is what the threads of the program see of it.
Every step there is a sequence of steps of the threads of a running session (`turns_of_step`).
-/

namespace SatipClient.Session

open RTSP

/-- The place of the session thread; the test of `m_running` is made with `handleRTSPStatus`. -/
def loopPc : MainLoop.Pc → LoopPc
  | .status => .test
  | .poll => .poll
  | .timers => .timers
  | .drain => .drain
  | .vtuner => .vtuner
  | .rtsp => .rtsp
  | .left => .ended

/-- What the threads see of a session that was started and not stopped. -/
def view (σ : MainLoop.System) : Worker where
  tcpData := false
  pipe := some σ.pipe
  running := true
  loop := loopPc σ.pc
  wakeup := σ.revents.wakeup
  rtpRunning := true
  dump := .receive

/-- Steps of the threads of a session. -/
abbrev Turns : Worker → Worker → Prop :=
  Relation.ReflTransGen fun w next ↦ ∃ action, w.Turn 0 action next

variable {σ next : MainLoop.System}

theorem turn_loop {w after : Worker} (writes : ℕ) (h : w.stepLoop writes = some after) :
    Turns w after := .single ⟨.loop 0 writes, .loop writes after h⟩

theorem turn_dump {w after : Worker} (writes : ℕ) (h : w.stepDump writes = some after) :
    Turns w after := .single ⟨.dump 0 writes, .dump writes after h⟩

theorem turns_of_handleRTSPStatus (hpc : σ.pc = .status) (session : SatipRTSP) :
    Turns (view σ) (view { σ with session := session, pc := .poll, unseen := false }) := by
  have htest : (view σ).stepLoop 0 = some { view σ with loop := .status } := by
    simp [Worker.stepLoop, view, loopPc, hpc]
  exact (turn_loop 0 htest).trans (turn_loop 0 rfl)

/-- `poll` returns. -/
theorem turns_of_poll (hpc : σ.pc = .poll) {result : MainLoop.PollResult}
    (h : MainLoop.poll result σ = some next) : Turns (view σ) (view next) := by
  have hpoll : (view σ).loop = .poll := by simp [view, loopPc, hpc]
  have hreturns (noticed : Bool) : Turns (view σ)
      { view σ with loop := .timers, wakeup := noticed && decide σ.pipe.Readable } :=
    .single ⟨_, .pollReturns noticed hpoll⟩
  cases result with
  | ready vtuner events =>
    simp only [MainLoop.poll, Option.ite_none_left_eq_some, Option.some.injEq] at h
    obtain ⟨-, rfl⟩ := h
    exact hreturns true
  | timeout =>
    simp only [MainLoop.poll, Option.ite_none_left_eq_some, Option.some.injEq] at h
    obtain ⟨-, rfl⟩ := h
    exact hreturns false
  | interrupted =>
    obtain rfl := Option.some.inj h
    exact hreturns false
  | failed =>
    obtain rfl := Option.some.inj h
    exact .single ⟨_, .pollFails hpoll⟩

/-- The calls of a vtuner message leave the loop where it is and may write to the pipe. -/
theorem view_vtunerCalls {calls : List VtunerCall}
    (h : calls.foldlM (fun σ call ↦ MainLoop.vtunerCall call σ) σ = some next) :
    ∃ writes, view next = (view σ).writePipe writes ∧ next.pc = σ.pc := by
  induction calls generalizing σ with
  | nil =>
    obtain rfl := Option.some.inj h
    exact ⟨0, rfl, rfl⟩
  | cons call calls ih =>
    rw [List.foldlM_cons, Option.bind_eq_bind, Option.bind_eq_some_iff] at h
    obtain ⟨mid, hmid, hrest⟩ := h
    obtain ⟨writes, hview, hpc⟩ := ih hrest
    obtain ⟨session, -, rfl⟩ := Option.map_eq_some_iff.mp hmid
    split_ifs at hview hpc
    · exact ⟨writes, hview, hpc⟩
    · exact ⟨writes + 1, hview, hpc⟩

/-- A step of the main loop or of `setCaPids`, as the threads see it. -/
theorem turns_of_step {action : MainLoop.Action} (h : MainLoop.step σ action = some next) :
    Turns (view σ) (view next) := by
  cases action with
  | handleRTSPStatus now connect sent =>
    simp only [MainLoop.step, Option.ite_none_right_eq_some, Option.some.injEq] at h
    obtain ⟨hpc, rfl⟩ := h
    exact turns_of_handleRTSPStatus hpc _
  | poll result =>
    simp only [MainLoop.step, Option.ite_none_right_eq_some] at h
    exact turns_of_poll h.1 h.2
  | handleNextTimer now sent =>
    simp only [MainLoop.step, Option.ite_none_right_eq_some, Option.some.injEq] at h
    obtain ⟨hpc, rfl⟩ := h
    exact turn_loop 0 (by simp [Worker.stepLoop, view, loopPc, hpc])
  | drain =>
    simp only [MainLoop.step, Option.ite_none_right_eq_some, Option.some.injEq] at h
    obtain ⟨hpc, rfl⟩ := h
    refine turn_loop 0 ?_
    cases hwakeup : σ.revents.wakeup <;> simp [Worker.stepLoop, view, loopPc, hpc, hwakeup]
  | vtunerEvent calls =>
    simp only [MainLoop.step, Option.ite_none_right_eq_some, Option.map_eq_some_iff] at h
    obtain ⟨hpc, mid, hmid, rfl⟩ := h
    have hwrites : ∃ writes, view mid = (view σ).writePipe writes := by
      unfold MainLoop.vtunerEvent at hmid
      split_ifs at hmid
      · obtain ⟨writes, hview, -⟩ := view_vtunerCalls hmid
        exact ⟨writes, hview⟩
      · obtain rfl := Option.some.inj hmid
        exact ⟨0, rfl⟩
    obtain ⟨writes, hview⟩ := hwrites
    refine turn_loop writes ?_
    have hnext : view (MainLoop.goto .rtsp mid) = { view mid with loop := .rtsp } := rfl
    rw [hnext, hview]
    simp [Worker.stepLoop, view, loopPc, hpc]
  | handlePollEvents now recv =>
    simp only [MainLoop.step, Option.ite_none_right_eq_some, Option.map_eq_some_iff] at h
    obtain ⟨hpc, mid, hmid, rfl⟩ := h
    have hview : view mid = view σ := by
      unfold MainLoop.socketEvent at hmid
      split_ifs at hmid
      · obtain rfl := Option.some.inj hmid
        rfl
      · obtain ⟨session, -, rfl⟩ := Option.map_eq_some_iff.mp hmid
        rfl
    refine turn_loop 0 ?_
    have hnext : view (MainLoop.goto .status mid) = { view mid with loop := .test } := rfl
    rw [hnext, hview]
    simp [Worker.stepLoop, Worker.writePipe, view, loopPc, hpc]
  | setCaPids pids =>
    simp only [MainLoop.step, Option.ite_none_left_eq_some, Option.some.injEq] at h
    obtain ⟨-, rfl⟩ := h
    have hview : view (MainLoop.report pids σ) = view σ := by
      unfold MainLoop.report
      dsimp only
      split_ifs <;> rfl
    rw [hview]
  | wakeup =>
    simp only [MainLoop.step, Option.ite_none_right_eq_some, Option.some.injEq] at h
    obtain ⟨-, rfl⟩ := h
    -- the rest of the round of the RTP thread, up to the next packet
    exact ((turn_dump 1 rfl).trans (turn_dump 0 rfl)).trans (turn_dump 0 rfl)

/-- A run of the main loop, as the threads see it. -/
theorem turns_of_run {actions : List MainLoop.Action}
    (h : Runs.run MainLoop.step σ actions = some next) : Turns (view σ) (view next) := by
  induction actions generalizing σ with
  | nil =>
    obtain rfl := Option.some.inj h
    exact .refl
  | cons action actions ih =>
    rw [Runs.run_cons, Option.bind_eq_some_iff] at h
    obtain ⟨mid, hmid, hrest⟩ := h
    exact (turns_of_step hmid).trans (ih hrest)

end SatipClient.Session
