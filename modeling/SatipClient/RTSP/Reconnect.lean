import SatipClient.Config.Channel
import SatipClient.Foundation.Runs
import SatipClient.RTSP.State

/-!
# Reconnecting

What decides when the client connects is a small machine of its own: the channel, how far the
connection is, the generation that was attempted last, the number of delays so far, and the
reconnect timer.  `Move` lists what can happen to it and `perform` what it does then.  The machine
names nothing else of the session; that the session drives it is proved in `RTSP.Status`.
-/

namespace SatipClient.RTSP

open Config (Channel)

/-- How far the connection is. -/
inductive Phase where
  | idle
  | live
  /-- TEARDOWN was sent -/
  | closing
  deriving DecidableEq

/-- The state of reconnecting, with the events so far. -/
structure Reconnect where
  channel : Channel
  phase : Phase
  attempted : ℕ
  attempts : ℕ
  timer : TimerElem
  history : List Event

/-- What happens to the machine. -/
inductive Move where
  /-- an event that does not matter here -/
  | note (event : Event)
  | tune
  | release
  /-- a request with the tuning is built -/
  | take
  /-- `connectToServer` succeeds -/
  | connect
  /-- `connectToServer` fails -/
  | fail (now : Timespec)
  /-- the connection is lost -/
  | lose (now : Timespec)
  /-- a connection is found broken that was dropped before -/
  | stray (now : Timespec)
  /-- the session is over -/
  | close
  /-- a released tuner waits for nothing -/
  | cancel
  /-- the response to a PLAY is complete -/
  | complete
  /-- TEARDOWN is sent -/
  | leave
  | expire (now : Timespec)

/-- The events that do not matter for reconnecting. -/
def Event.Plain : Event → Prop
  | .request _ _ | .response _ | .frame _ => True
  | .channelChanged | .released | .connected | .connectFailed | .disconnected | .armed _ _
  | .expired _ => False

namespace Reconnect

/-- Record an event. -/
def note (event : Event) (r : Reconnect) : Reconnect := { r with history := r.history ++ [event] }

/-- No retry is scheduled and the next one is not delayed. -/
def cancel (r : Reconnect) : Reconnect := { r with attempts := 0, timer := r.timer.stop }

/-- There is a tune for which no connection was attempted yet. -/
def Unattempted (r : Reconnect) : Prop :=
  r.channel.status = .changed ∧ r.attempted < r.channel.generation

instance (r : Reconnect) : Decidable r.Unattempted := by unfold Unattempted; infer_instance

/-- The number of delays after one more. -/
def nextAttempts (attempts : ℕ) : ℕ :=
  if reconnectDelay attempts < 30000 then attempts + 1 else attempts

/-- The retained tuning is tried again later. -/
def retryLater (now : Timespec) (r : Reconnect) : Reconnect :=
  note (.armed now (reconnectDelay r.attempts))
    { r with
      channel := r.channel.take
      timer := .start now (reconnectDelay r.attempts) true
      attempts := nextAttempts r.attempts }

/-- The connection is dropped. -/
def drop (r : Reconnect) : Reconnect := note .disconnected { r with phase := .idle }

/-- The connection is dropped and, unless the tuner was released, made again: at once for a tune
that was not attempted, later otherwise. -/
def reset (now : Timespec) (r : Reconnect) : Reconnect :=
  if r.channel.status = .invalid ∨ r.Unattempted then r.drop.cancel else r.drop.retryLater now

/-- A new tune cancels any wait; its generation counts as attempted. -/
def attempt (r : Reconnect) : Reconnect :=
  let r := if r.attempted < r.channel.generation then r.cancel else r
  { r with attempted := r.channel.generation }

/-- What the expiry of the timer does. -/
def wake (r : Reconnect) : Reconnect :=
  match r.channel.status with
  | .invalid | .changed => { r with attempts := 0 }
  | .stable => { r with channel := r.channel.retry }

/-- The timer expires. -/
def expire (now : Timespec) (r : Reconnect) : Reconnect :=
  let r := wake (note (.expired now) r)
  { r with timer := r.timer.afterCall now }

/-- What a move does. -/
def perform (r : Reconnect) : Move → Reconnect
  | .note event => r.note event
  | .tune => note .channelChanged { r with channel := r.channel.tune }
  | .release => note .released { r with channel := r.channel.release }
  | .take => { r with channel := r.channel.take }
  | .connect => note .connected { r.attempt with phase := .live }
  | .fail now => retryLater now (note .connectFailed r.attempt)
  | .lose now | .stray now => r.reset now
  | .close => r.drop.cancel
  | .cancel | .complete => r.cancel
  | .leave => { r with phase := .closing }
  | .expire now => r.expire now

/-- When a move can happen. -/
def Enabled (r : Reconnect) : Move → Prop
  | .note event => event.Plain
  | .tune | .release => True
  | .take => r.phase ≠ .idle
  | .connect | .fail _ => r.phase = .idle ∧ r.channel.status = .changed
  | .lose _ => r.phase ≠ .idle
  | .stray _ => r.phase = .idle
  | .close => r.phase = .closing
  | .cancel => r.phase = .idle ∧ r.channel.status = .invalid
  | .complete => r.phase = .live
  | .leave => r.phase = .live ∧ r.channel.status = .invalid
  | .expire now => r.timer.active = true ∧ r.timer.Due now

/-- A move from one state to another. -/
def Moves (r : Reconnect) (moves : List Move) (next : Reconnect) : Prop :=
  match moves with
  | [] => next = r
  | move :: moves => r.Enabled move ∧ (r.perform move).Moves moves next

theorem Moves.append {r mid next : Reconnect} {front back : List Move}
    (hfront : r.Moves front mid) (hback : mid.Moves back next) : r.Moves (front ++ back) next := by
  induction front generalizing r with
  | nil =>
    obtain rfl := hfront
    exact hback
  | cons move front ih => exact ⟨hfront.1, ih hfront.2⟩

/-- What every move of a kind keeps, a sequence of such moves keeps. -/
theorem Moves.invariant (Inv : Reconnect → Prop) (Kind : Move → Prop) {r next : Reconnect}
    {moves : List Move}
    (hmove : ∀ r move, Inv r → Kind move → r.Enabled move → Inv (r.perform move))
    (h : r.Moves moves next) (hkind : ∀ move ∈ moves, Kind move) (hr : Inv r) : Inv next := by
  induction moves generalizing r with
  | nil =>
    obtain rfl := h
    exact hr
  | cons move moves ih =>
    obtain ⟨henabled, hrest⟩ := h
    have hfirst : Inv (r.perform move) := hmove r move hr (hkind move List.mem_cons_self) henabled
    exact ih hrest (fun other hother ↦ hkind other (List.mem_cons_of_mem move hother)) hfirst

/-! ## The timer waits in the idle phase -/

/-- The reconnect timer only waits while there is no connection, and there is nothing to connect
for at once but a new tune. -/
structure Ok (r : Reconnect) : Prop where
  idle : r.timer.active = true → r.phase = .idle
  single : r.timer.active = true → r.timer.single = true
  attempted : r.attempted ≤ r.channel.generation
  pending : r.timer.active = true → r.channel.status = .changed →
    r.attempted < r.channel.generation

variable {r : Reconnect}

/-- Without a timer only the generation matters. -/
theorem ok_of_inactive (htimer : r.timer.active = false)
    (hattempted : r.attempted ≤ r.channel.generation) : r.Ok where
  idle := by simp [htimer]
  single := by simp [htimer]
  attempted := hattempted
  pending := by simp [htimer]

theorem Ok.note (h : r.Ok) (event : Event) : (r.note event).Ok :=
  ⟨h.idle, h.single, h.attempted, h.pending⟩

theorem Ok.cancel (h : r.Ok) : r.cancel.Ok := ok_of_inactive rfl h.attempted

theorem Ok.take (h : r.Ok) : Ok { r with channel := r.channel.take } where
  idle := h.idle
  single := h.single
  attempted := by simpa using h.attempted
  pending := by
    intro _ hchanged
    exact absurd hchanged (Channel.status_take_ne r.channel)

theorem ok_retryLater (now : Timespec) (hidle : r.phase = .idle)
    (hattempted : r.attempted ≤ r.channel.generation) : (r.retryLater now).Ok where
  idle := fun _ ↦ hidle
  single := fun _ ↦ rfl
  attempted := (Channel.generation_take r.channel).symm ▸ hattempted
  pending := by
    intro _ hchanged
    exact absurd hchanged (Channel.status_take_ne r.channel)

theorem Ok.reset (h : r.Ok) (now : Timespec) : (r.reset now).Ok := by
  unfold Reconnect.reset
  split_ifs
  · exact ok_of_inactive rfl h.attempted
  · exact ok_retryLater now rfl h.attempted

/-- An attempt for a new tune cancels the timer, and without a new tune the timer is not set while
there is something to connect for. -/
theorem active_attempt (h : r.Ok) (hchanged : r.channel.status = .changed) :
    r.attempt.timer.active = false := by
  by_cases hnew : r.attempted < r.channel.generation
  · rw [attempt, if_pos hnew]
    rfl
  · rw [attempt, if_neg hnew]
    by_contra hactive
    exact hnew (h.pending (by simpa using hactive) hchanged)

@[simp]
theorem channel_attempt (r : Reconnect) : r.attempt.channel = r.channel := by
  unfold attempt
  split <;> rfl

@[simp]
theorem phase_attempt (r : Reconnect) : r.attempt.phase = r.phase := by
  unfold attempt
  split <;> rfl

@[simp]
theorem history_attempt (r : Reconnect) : r.attempt.history = r.history := by
  unfold attempt
  split <;> rfl

@[simp]
theorem attempted_attempt (r : Reconnect) : r.attempt.attempted = r.channel.generation := by
  unfold attempt
  split <;> rfl

theorem timer_wake (r : Reconnect) : r.wake.timer = r.timer := by
  unfold wake
  split <;> rfl

theorem attempted_wake (r : Reconnect) : r.wake.attempted = r.attempted := by
  unfold wake
  split <;> rfl

theorem generation_wake (r : Reconnect) : r.wake.channel.generation = r.channel.generation := by
  unfold wake
  split <;> rfl

theorem active_expire {now : Timespec} (hsingle : r.timer.single = true) :
    (r.expire now).timer.active = false := by
  change ((r.note (.expired now)).wake.timer.afterCall now).active = false
  rw [timer_wake]
  exact TimerElem.active_afterCall now hsingle

theorem history_expire (now : Timespec) (r : Reconnect) :
    (r.expire now).history = r.history ++ [.expired now] := by
  change (r.note (.expired now)).wake.history = _
  unfold wake
  split <;> rfl

theorem phase_expire (now : Timespec) (r : Reconnect) : (r.expire now).phase = r.phase := by
  change (r.note (.expired now)).wake.phase = _
  unfold wake
  split <;> rfl

theorem Ok.expire (h : r.Ok) {now : Timespec} (hactive : r.timer.active = true) :
    (r.expire now).Ok := by
  apply ok_of_inactive
  · exact active_expire (h.single hactive)
  · change (r.note (.expired now)).wake.attempted ≤ (r.note (.expired now)).wake.channel.generation
    rw [attempted_wake, generation_wake]
    exact h.attempted

theorem Ok.perform (h : r.Ok) {move : Move} (henabled : r.Enabled move) : (r.perform move).Ok := by
  cases move with
  | note event => exact h.note event
  | tune =>
    have hless : r.attempted < r.channel.generation + 1 := Nat.lt_succ_of_le h.attempted
    exact ⟨h.idle, h.single, hless.le, fun _ _ ↦ hless⟩
  | release =>
    refine ⟨h.idle, h.single, h.attempted, ?_⟩
    intro _ hchanged
    cases hchanged
  | take => exact h.take
  | connect =>
    apply ok_of_inactive
    · exact active_attempt h henabled.2
    · change r.attempt.attempted ≤ r.attempt.channel.generation
      rw [attempted_attempt, channel_attempt]
  | fail now =>
    have hphase : (Reconnect.note .connectFailed r.attempt).phase = .idle := by
      change r.attempt.phase = .idle
      rw [phase_attempt, henabled.1]
    apply ok_retryLater now hphase
    change r.attempt.attempted ≤ r.attempt.channel.generation
    rw [attempted_attempt, channel_attempt]
  | lose now | stray now => exact h.reset now
  | close => exact ok_of_inactive rfl h.attempted
  | cancel | complete => exact h.cancel
  | leave =>
    have hinactive : r.timer.active = false := by
      by_contra hactive
      have hidle : r.phase = .idle := h.idle (by simpa using hactive)
      rw [henabled.1] at hidle
      cases hidle
    exact ok_of_inactive hinactive h.attempted
  | expire now => exact h.expire henabled.1

theorem Ok.moves (h : r.Ok) {moves : List Move} {next : Reconnect} (hmoves : r.Moves moves next) :
    next.Ok := by
  refine Moves.invariant Ok (fun _ ↦ True) ?_ hmoves (fun _ _ ↦ trivial) h
  intro mid move hmid _ henabled
  exact hmid.perform henabled

end Reconnect

end SatipClient.RTSP
