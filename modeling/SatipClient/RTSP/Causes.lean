import SatipClient.Foundation.History
import SatipClient.RTSP.Status

/-!
# The causes of connecting

Every call of `connectToServer` has a cause of its own: a tune, or the expiry of a reconnect timer
that was set for a second at least, since the call before and since the last release of the tuner
(`attempts_caused`).  The reconnect machine keeps that a tuning to be tried has such a cause, unless
it was tried on the connection that is open.
-/

namespace SatipClient.RTSP

open Config (channel)
open History (Each)

/-- A call of `connectToServer`. -/
def Event.Connects : Event → Prop
  | .connected | .connectFailed => True
  | _ => False

/-- When an event sets the reconnect timer. -/
def Event.armed? : Event → Option Timespec
  | .armed now _ => some now
  | _ => none

/-- When the reconnect timer was set last. -/
def lastArmed (history : List Event) : Option Timespec := (history.filterMap Event.armed?).getLast?

/-- What a connection may be attempted for, behind some events: a tune, or an expiry of the timer
at least 1000 ms after it was set. -/
inductive IsCause (front : List Event) : Event → Prop where
  | tune : IsCause front .channelChanged
  | expiry (now armed : Timespec) (harmed : lastArmed front = some armed)
    (hlong : armed.nanos + 1000 * 1000000 ≤ now.nanos) : IsCause front (.expired now)

/-- The last events hold a cause that no attempt used and no release took back. -/
def Caused (history : List Event) : Prop :=
  ∃ front cause back, history = front ++ cause :: back ∧ IsCause front cause ∧
    ∀ event ∈ back, ¬event.Connects ∧ event ≠ .released

/-- Every attempt has a cause. -/
def AllCaused : List Event → Prop := Each fun front event ↦ event.Connects → Caused front

variable {history : List Event}

theorem Caused.snoc (h : Caused history) {event : Event} (hconnects : ¬event.Connects)
    (hreleased : event ≠ .released) : Caused (history ++ [event]) := by
  obtain ⟨front, cause, back, rfl, hcause, hback⟩ := h
  refine ⟨front, cause, back ++ [event], by simp, hcause, ?_⟩
  intro other hother
  rcases List.mem_append.mp hother with hother | hother
  · exact hback other hother
  · rw [List.mem_singleton.mp hother]
    exact ⟨hconnects, hreleased⟩

theorem caused_of_isCause {cause : Event} (h : IsCause history cause) :
    Caused (history ++ [cause]) :=
  ⟨history, cause, [], rfl, h, by simp⟩

theorem lastArmed_snoc {event : Event} (h : event.armed? = none) :
    lastArmed (history ++ [event]) = lastArmed history := by
  simp [lastArmed, h]

@[simp]
theorem lastArmed_armed (now : Timespec) (delay : ℕ) :
    lastArmed (history ++ [.armed now delay]) = some now := by
  simp [lastArmed, Event.armed?]

theorem le_reconnectDelay (attempts : ℕ) : 1000 ≤ reconnectDelay attempts := by
  have hshift : 1000 ≤ 1000 <<< attempts := by
    rw [Nat.shiftLeft_eq]
    exact Nat.le_mul_of_pos_right 1000 (Nat.two_pow_pos attempts)
  exact le_min hshift (by decide)

namespace Reconnect

/-! ## The invariant of the machine -/

/-- A tuning to be tried has a cause, or it is tried on the open connection; and every attempt so
far had one. -/
structure Causal (r : Reconnect) : Prop where
  ok : r.Ok
  armed : r.timer.active = true → ∃ armed delay, lastArmed r.history = some armed ∧
    armed.Valid ∧ r.timer.ts = armed.after delay ∧ 1000 ≤ delay
  fresh : r.channel.status = .changed →
    Caused r.history ∨ (r.phase = .live ∧ r.attempted = r.channel.generation)
  caused : AllCaused r.history

/-- The move is made at a time that the clock tells. -/
def Timely : Move → Prop
  | .fail now | .lose now | .stray now | .expire now => now.Valid
  | .note _ | .tune | .release | .take | .connect | .close | .cancel | .complete | .leave => True

variable {r : Reconnect}

/-- An event that is neither an attempt nor a release nor about the timer. -/
theorem Causal.note (h : r.Causal) {event : Event} (hconnects : ¬event.Connects)
    (hreleased : event ≠ .released) (harmed : event.armed? = none) : (r.note event).Causal where
  ok := h.ok.note event
  armed := by
    intro hactive
    obtain ⟨armed, delay, hlast, hrest⟩ := h.armed hactive
    exact ⟨armed, delay, (lastArmed_snoc harmed).trans hlast, hrest⟩
  fresh := by
    intro hchanged
    exact (h.fresh hchanged).imp_left fun hcaused ↦ hcaused.snoc hconnects hreleased
  caused := h.caused.snoc fun hconnects' ↦ absurd hconnects' hconnects

theorem Causal.cancel (h : r.Causal) : r.cancel.Causal where
  ok := h.ok.cancel
  armed := by
    intro hactive
    cases hactive
  fresh := h.fresh
  caused := h.caused

/-- A tuning that waits for the timer needs no cause. -/
theorem causal_retryLater {now : Timespec} (hnow : now.Valid) (hidle : r.phase = .idle)
    (hattempted : r.attempted ≤ r.channel.generation) (hcaused : AllCaused r.history) :
    (r.retryLater now).Causal where
  ok := ok_retryLater now hidle hattempted
  armed := by
    intro _
    refine ⟨now, reconnectDelay r.attempts, lastArmed_armed now _, hnow, rfl, ?_⟩
    exact_mod_cast le_reconnectDelay r.attempts
  fresh := by
    intro hchanged
    exact absurd hchanged (Config.Channel.status_take_ne r.channel)
  caused := hcaused.snoc fun hconnects ↦ hconnects.elim

/-- The connection is dropped while there is nothing to try, or a new tune. -/
theorem causal_drop (hok : r.Ok) (hcaused : AllCaused r.history)
    (hfresh : r.channel.status = .changed → Caused r.history) : r.drop.cancel.Causal where
  ok := ok_of_inactive rfl hok.attempted
  armed := by
    intro hactive
    cases hactive
  fresh := by
    intro hchanged
    exact Or.inl ((hfresh hchanged).snoc (fun hconnects ↦ hconnects) nofun)
  caused := hcaused.snoc fun hconnects ↦ hconnects.elim

theorem Causal.reset (h : r.Causal) {now : Timespec} (hnow : now.Valid) : (r.reset now).Causal := by
  unfold Reconnect.reset
  split_ifs with hdrop
  · apply causal_drop h.ok h.caused
    intro hchanged
    rcases hdrop with hinvalid | ⟨_, hnew⟩
    · rw [hinvalid] at hchanged
      cases hchanged
    · apply (h.fresh hchanged).resolve_right
      rintro ⟨_, htried⟩
      omega
  · exact causal_retryLater hnow rfl h.ok.attempted (h.caused.snoc fun hconnects ↦ hconnects.elim)

/-- An attempt is only made for a cause. -/
theorem Causal.caused_of_attempt (h : r.Causal) (hidle : r.phase = .idle)
    (hchanged : r.channel.status = .changed) : Caused r.history := by
  apply (h.fresh hchanged).resolve_right
  rintro ⟨hlive, _⟩
  rw [hidle] at hlive
  cases hlive

theorem Causal.expire (h : r.Causal) {now : Timespec} (hnow : now.Valid)
    (hactive : r.timer.active = true) (hdue : r.timer.Due now) : (r.expire now).Causal := by
  have hcause : IsCause r.history (.expired now) := by
    obtain ⟨armed, delay, hlast, hvalid, hts, hlong⟩ := h.armed hactive
    apply IsCause.expiry now armed hlast
    have hwait : r.timer.ts.nanos ≤ now.nanos := by
      apply TimerElem.nanos_le_of_due hnow _ hdue
      rw [hts]
      exact Timespec.nsec_after_lt hvalid.2 delay
    rw [hts, Timespec.nanos_after] at hwait
    omega
  refine ⟨h.ok.expire hactive, ?_, ?_, ?_⟩
  · intro hstill
    rw [active_expire (h.ok.single hactive)] at hstill
    cases hstill
  · intro _
    rw [history_expire]
    exact Or.inl (caused_of_isCause hcause)
  · rw [history_expire]
    exact h.caused.snoc fun hconnects ↦ hconnects.elim

theorem Causal.perform (h : r.Causal) {move : Move} (htimely : Timely move)
    (henabled : r.Enabled move) : (r.perform move).Causal := by
  have hok : (r.perform move).Ok := h.ok.perform henabled
  cases move with
  | note event =>
    cases event with
    | request | response | frame => exact h.note id nofun rfl
    | channelChanged | released | connected | connectFailed | disconnected | armed | expired =>
      cases henabled
  | tune =>
    refine ⟨hok, ?_, ?_, h.caused.snoc fun hconnects ↦ hconnects.elim⟩
    · intro hactive
      obtain ⟨armed, delay, hlast, hrest⟩ := h.armed hactive
      exact ⟨armed, delay, (lastArmed_snoc rfl).trans hlast, hrest⟩
    · intro _
      exact Or.inl (caused_of_isCause .tune)
  | release =>
    refine ⟨hok, ?_, nofun, h.caused.snoc fun hconnects ↦ hconnects.elim⟩
    intro hactive
    obtain ⟨armed, delay, hlast, hrest⟩ := h.armed hactive
    exact ⟨armed, delay, (lastArmed_snoc rfl).trans hlast, hrest⟩
  | take =>
    refine ⟨hok, h.armed, ?_, h.caused⟩
    intro hchanged
    exact absurd hchanged (Config.Channel.status_take_ne r.channel)
  | connect =>
    have hcaused : Caused r.history := h.caused_of_attempt henabled.1 henabled.2
    refine ⟨hok, ?_, ?_, ?_⟩
    · intro hactive
      have hinactive : r.attempt.timer.active = false := active_attempt h.ok henabled.2
      change r.attempt.timer.active = true at hactive
      rw [hinactive] at hactive
      cases hactive
    · intro _
      right
      refine ⟨rfl, ?_⟩
      change r.attempt.attempted = r.attempt.channel.generation
      rw [attempted_attempt, channel_attempt]
    · change AllCaused (r.attempt.history ++ [.connected])
      rw [history_attempt]
      exact h.caused.snoc fun _ ↦ hcaused
  | fail now =>
    have hcaused : Caused r.history := h.caused_of_attempt henabled.1 henabled.2
    apply causal_retryLater htimely
    · change r.attempt.phase = .idle
      rw [phase_attempt, henabled.1]
    · change r.attempt.attempted ≤ r.attempt.channel.generation
      rw [attempted_attempt, channel_attempt]
    · change AllCaused (r.attempt.history ++ [.connectFailed])
      rw [history_attempt]
      exact h.caused.snoc fun _ ↦ hcaused
  | lose now | stray now => exact h.reset htimely
  | close =>
    apply causal_drop h.ok h.caused
    intro hchanged
    apply (h.fresh hchanged).resolve_right
    rintro ⟨hlive, _⟩
    have hclosing : r.phase = .closing := henabled
    rw [hclosing] at hlive
    cases hlive
  | cancel | complete => exact h.cancel
  | leave =>
    refine ⟨hok, h.armed, ?_, h.caused⟩
    intro hchanged
    have hinvalid : r.channel.status = .invalid := henabled.2
    have hstill : r.channel.status = .changed := hchanged
    rw [hinvalid] at hstill
    cases hstill
  | expire now => exact h.expire htimely henabled.1 henabled.2

end Reconnect

/-! ## The session -/

variable {s next : SatipRTSP} {now : Timespec} {source : Source}

theorem timely_of_allows (hnow : now.Valid) {move : Move} (h : source.Allows now move) :
    Reconnect.Timely move := by
  cases h <;> first | exact hnow | trivial

theorem causal_of_action (hnow : now.Valid) (hs : SessionOk s) (h : (reconnect s).Causal)
    (haction : Action now s source next) : (reconnect next).Causal := by
  obtain ⟨moves, hmoves, hallows⟩ := drives_of_action hs haction
  apply Reconnect.Moves.invariant Reconnect.Causal Reconnect.Timely _ hmoves _ h
  · intro r move hr htimely henabled
    exact hr.perform htimely henabled
  · intro move hmove
    exact timely_of_allows hnow (hallows move hmove)

theorem causal_start (args : SessionArgs) : (reconnect args.start).Causal := by
  unfold SessionArgs.start construct
  rw [reconnect_resetConnect_false]
  refine ⟨Reconnect.ok_of_inactive rfl (Nat.zero_le _), nofun, ?_, ?_⟩
  · intro hchanged
    have hstatus : (channel (Config.construct args.feType args.settings)).status = .changed :=
      hchanged
    rw [Config.channel_construct] at hstatus
    cases hstatus
  · have hempty : AllCaused [] := History.each_nil
    exact hempty.snoc fun hconnects ↦ hconnects.elim

/-- In every run the machine has a cause for each attempt. -/
theorem causal_of_run {args : SessionArgs} {ops : List Op} (hclock : ∀ op ∈ ops, op.time.Valid)
    (hrun : Runs.run step args.start ops = some s) : (reconnect s).Causal := by
  have hstart : SessionOk args.start ∧ (reconnect args.start).Causal :=
    ⟨sessionOk_resetConnect args.now false, causal_start args⟩
  have hboth : SessionOk s ∧ (reconnect s).Causal := by
    refine run_of_actions (fun s ↦ SessionOk s ∧ (reconnect s).Causal) ?_ hstart hclock hrun
    rintro op s source next htime _ ⟨hs, hcausal⟩ haction
    exact ⟨hs.action haction, causal_of_action htime hs hcausal haction⟩
  exact hboth.2

/-- There is an attempt at an index of the history. -/
def AttemptAt (history : List Event) (attempt : ℕ) : Prop :=
  ∃ event, history[attempt]? = some event ∧ event.Connects

/-- The event at one index is a cause of the attempt at another: no attempt was made and no release
happened in between. -/
structure CauseAt (history : List Event) (cause attempt : ℕ) : Prop where
  before : cause < attempt
  isCause : ∃ event, history[cause]? = some event ∧ IsCause (history.take cause) event
  since : ∀ i event, cause < i → i < attempt → history[i]? = some event →
    ¬event.Connects ∧ event ≠ .released

theorem AllCaused.exists_causeAt (h : AllCaused history) {attempt : ℕ}
    (hattempt : AttemptAt history attempt) : ∃ cause, CauseAt history cause attempt := by
  obtain ⟨event, hevent, hconnects⟩ := hattempt
  obtain ⟨hlt, hget⟩ := List.getElem?_eq_some_iff.mp hevent
  have hsplit : history = history.take attempt ++ event :: history.drop (attempt + 1) := by
    rw [← hget, List.getElem_cons_drop, List.take_append_drop]
  obtain ⟨front, cause, back, htake, hcause, hback⟩ := h _ _ _ hsplit hconnects
  have hlength : front.length + 1 + back.length = attempt := by
    have hlengths := congrArg List.length htake
    rw [List.length_take_of_le hlt.le] at hlengths
    simp only [List.length_append, List.length_cons] at hlengths
    omega
  have hget (i : ℕ) (hi : i < attempt) : history[i]? = (front ++ cause :: back)[i]? := by
    rw [← htake, List.getElem?_take_of_lt hi]
  refine ⟨front.length, by omega, ⟨cause, ?_, ?_⟩, ?_⟩
  · rw [hget front.length (by omega)]
    simp
  · have hfront : history.take front.length = front := by
      have htakes : (history.take attempt).take front.length = history.take front.length := by
        rw [List.take_take, min_eq_left (by omega)]
      rw [← htakes, htake]
      simp
    rw [hfront]
    exact hcause
  · intro i other hafter hbefore hother
    rw [hget i hbefore] at hother
    obtain ⟨index, rfl⟩ := Nat.exists_eq_add_of_lt hafter
    have hmem : back[index]? = some other := by
      rw [← hother, List.getElem?_append_right (by omega)]
      simp [Nat.add_assoc]
    exact hback other (List.mem_of_getElem? hmem)

/-- A cause is not used twice. -/
theorem CauseAt.attempt_le {cause first second : ℕ} (h : CauseAt history cause second)
    (hfirst : AttemptAt history first) (hbefore : cause < first) : second ≤ first := by
  by_contra hless
  obtain ⟨event, hevent, hconnects⟩ := hfirst
  exact (h.since first event hbefore (not_le.mp hless) hevent).1 hconnects

/-- Every attempt to connect has a cause of its own, which is no other attempt's: a tune, or an
expiry of the reconnect timer at least 1000 ms after it was set, since the attempt before and the
last release of the tuner. -/
theorem attempts_caused {args : SessionArgs} {ops : List Op} (hclock : ∀ op ∈ ops, op.time.Valid)
    (hrun : Runs.run step args.start ops = some s) :
    ∃ cause : ℕ → ℕ, (∀ attempt, AttemptAt s.trace attempt →
        CauseAt s.trace (cause attempt) attempt) ∧
      ∀ first second, AttemptAt s.trace first → AttemptAt s.trace second →
        cause first = cause second → first = second := by
  have hcaused : AllCaused s.trace := (causal_of_run hclock hrun).caused
  have hchoice (attempt : ℕ) : ∃ cause, AttemptAt s.trace attempt →
      CauseAt s.trace cause attempt := by
    by_cases hattempt : AttemptAt s.trace attempt
    · obtain ⟨cause, hcause⟩ := hcaused.exists_causeAt hattempt
      exact ⟨cause, fun _ ↦ hcause⟩
    · exact ⟨0, fun h ↦ absurd h hattempt⟩
  choose cause hcause using hchoice
  refine ⟨cause, hcause, ?_⟩
  intro first second hfirst hsecond hsame
  apply le_antisymm
  · apply (hcause first hfirst).attempt_le hsecond
    rw [hsame]
    exact (hcause second hsecond).before
  · apply (hcause second hsecond).attempt_le hfirst
    rw [← hsame]
    exact (hcause first hfirst).before

/-- The tuner is tuned, the first connection fails, and the second one is made a little later. -/
def retryRun : List Op :=
  [.vtuner .setChannelChanged, .handleRTSPStatus {} none true, .handleNextTimer { sec := 2 } true,
    .handleRTSPStatus { sec := 2 } (some 3) true]

theorem attempts_caused_retryRun :
    ∃ s, Runs.run step udpArgs.start retryRun = some s ∧ AttemptAt s.trace 5 ∧
      ∃ cause, CauseAt s.trace cause 5 := by
  have hrun : ∃ s, Runs.run step udpArgs.start retryRun = some s ∧
      s.trace[5]? = some .connected := ⟨_, rfl, rfl⟩
  obtain ⟨s, hs, hconnected⟩ := hrun
  have hattempt : AttemptAt s.trace 5 := ⟨.connected, hconnected, trivial⟩
  obtain ⟨cause, hcause, _⟩ := attempts_caused (by decide) hs
  exact ⟨s, hs, hattempt, cause 5, hcause 5 hattempt⟩

end SatipClient.RTSP
