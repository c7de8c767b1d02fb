import Mathlib.Data.List.Chain
import SatipClient.RTSP.Causes

/-!
# The delays between attempts

Failing attempts should be delayed longer and longer: `Backoff` says so of the events of a stretch
of a session in which the tuner is neither tuned nor released and no PLAY is completed.
`backoff_of_run` proves it for the stretches in which no step is `Defective`.  There are two kinds
of defective steps.  A generation that a SETUP or PLAY on an open connection took to the server
does not count as attempted, so a later retry is taken for a new tune and drops the penalty.  And
a socket that `poll` reported broken before a timer closed it has the connection counted as lost
a second time.
-/

namespace SatipClient.RTSP

/-- The delay with which an event sets the reconnect timer. -/
def Event.delay? : Event → Option ℕ
  | .armed _ delay => some delay
  | _ => none

/-- The delays with which the reconnect timer was set. -/
def delays (events : List Event) : List ℕ := events.filterMap Event.delay?

/-- A penalty is marked `true`, an attempt `false`. -/
def Event.mark? : Event → Option Bool
  | .armed _ _ => some true
  | .connected | .connectFailed => some false
  | _ => none

/-- The penalties and the attempts. -/
def marks (events : List Event) : List Bool := events.filterMap Event.mark?

/-- The delays are between one and thirty seconds, each is twice the one before as far as possible,
and there is an attempt between two of them. -/
structure Backoff (events : List Event) : Prop where
  bounds : ∀ delay ∈ delays events, 1000 ≤ delay ∧ delay ≤ 30000
  doubles : (delays events).IsChain fun delay next ↦ next = min (2 * delay) 30000
  once : (marks events).IsChain fun mark next ↦ ¬(mark = true ∧ next = true)

/-! ## The delays themselves -/

theorem reconnectDelay_bounds (attempts : ℕ) :
    1000 ≤ reconnectDelay attempts ∧ reconnectDelay attempts ≤ 30000 :=
  ⟨le_reconnectDelay attempts, min_le_right _ _⟩

/-- Every delay is twice the one before, up to half a minute. -/
theorem reconnectDelay_nextAttempts (attempts : ℕ) :
    reconnectDelay (Reconnect.nextAttempts attempts) = min (2 * reconnectDelay attempts) 30000 := by
  have hdouble : 1000 <<< (attempts + 1) = 2 * (1000 <<< attempts) := by
    rw [Nat.shiftLeft_eq, Nat.shiftLeft_eq, Nat.pow_succ]
    omega
  unfold Reconnect.nextAttempts
  split_ifs with hshort
  · unfold reconnectDelay at hshort ⊢
    rw [hdouble]
    omega
  · unfold reconnectDelay at hshort ⊢
    omega

section events

variable {events : List Event} {event : Event}

theorem delays_snoc (h : event.delay? = none) : delays (events ++ [event]) = delays events := by
  simp [delays, h]

theorem marks_snoc (h : event.mark? = none) : marks (events ++ [event]) = marks events := by
  simp [marks, h]

theorem delays_armed (events : List Event) (now : Timespec) (delay : ℕ) :
    delays (events ++ [.armed now delay]) = delays events ++ [delay] := by
  simp [delays, Event.delay?]

theorem marks_of_mark {mark : Bool} (h : event.mark? = some mark) :
    marks (events ++ [event]) = marks events ++ [mark] := by
  simp [marks, h]

/-- What does not set the timer keeps the delays. -/
theorem Backoff.snoc (h : Backoff events) (hdelay : event.delay? = none)
    (hmark : event.mark? ≠ some true) : Backoff (events ++ [event]) where
  bounds := by
    rw [delays_snoc hdelay]
    exact h.bounds
  doubles := by
    rw [delays_snoc hdelay]
    exact h.doubles
  once := by
    cases hcase : event.mark? with
    | none =>
      rw [marks_snoc hcase]
      exact h.once
    | some mark =>
      rw [marks_of_mark hcase]
      apply List.IsChain.append h.once (List.isChain_singleton mark)
      intro last _ next hnext
      rintro ⟨_, rfl⟩
      obtain rfl : mark = true := by simpa using hnext
      exact hmark hcase

/-- A longer delay may follow, behind an attempt. -/
theorem Backoff.armed (h : Backoff events) (now : Timespec) {delay : ℕ}
    (hbounds : 1000 ≤ delay ∧ delay ≤ 30000)
    (hdouble : ∀ last ∈ (delays events).getLast?, delay = min (2 * last) 30000)
    (hattempt : (marks events).getLast? ≠ some true) :
    Backoff (events ++ [.armed now delay]) where
  bounds := by
    rw [delays_armed]
    intro other hother
    rcases List.mem_append.mp hother with hother | hother
    · exact h.bounds other hother
    · rw [List.mem_singleton.mp hother]
      exact hbounds
  doubles := by
    rw [delays_armed]
    apply List.IsChain.append h.doubles (List.isChain_singleton delay)
    intro last hlast next hnext
    obtain rfl : delay = next := by simpa using hnext
    exact hdouble last hlast
  once := by
    have hmark : (Event.armed now delay).mark? = some true := rfl
    rw [marks_of_mark hmark]
    apply List.IsChain.append h.once (List.isChain_singleton true)
    rintro last hlast next _ ⟨rfl, _⟩
    exact hattempt hlast

end events

namespace Reconnect

/-! ## The invariant of the machine -/

/-- The state behind the events of a stretch: the next delay follows on the last one, no new tune
drops the penalty, and behind a penalty there is no connection. -/
structure Pace (events : List Event) (r : Reconnect) : Prop where
  backoff : Backoff events
  next : ∀ last ∈ (delays events).getLast?, reconnectDelay r.attempts = min (2 * last) 30000
  old : delays events ≠ [] → ¬r.Unattempted ∧ r.phase ≠ .closing
  idle : (marks events).getLast? = some true → r.phase = .idle

/-- The machine after a stretch that follows on some events. -/
structure Paced (front : List Event) (r : Reconnect) : Prop where
  ok : r.Ok
  pace : ∃ events, r.history = front ++ events ∧ Pace events r

variable {r next : Reconnect} {front events : List Event}

/-- What the state is paced by is unchanged, or there is no delay yet. -/
theorem Pace.congr (h : Pace events r)
    (hattempts : delays events ≠ [] → next.attempts = r.attempts)
    (hold : delays events ≠ [] → ¬next.Unattempted ∧ next.phase ≠ .closing)
    (hidle : (marks events).getLast? = some true → next.phase = .idle) : Pace events next where
  backoff := h.backoff
  next := by
    intro last hlast
    have hsome : delays events ≠ [] := by
      intro hempty
      simp [hempty] at hlast
    rw [hattempts hsome]
    exact h.next last hlast
  old := hold
  idle := hidle

/-- An event that is neither a penalty nor an attempt. -/
theorem Pace.snoc (h : Pace events r) {event : Event} (hdelay : event.delay? = none)
    (hmark : event.mark? = none) : Pace (events ++ [event]) r where
  backoff := h.backoff.snoc hdelay (by simp [hmark])
  next := by
    rw [delays_snoc hdelay]
    exact h.next
  old := by
    rw [delays_snoc hdelay]
    exact h.old
  idle := by
    rw [marks_snoc hmark]
    exact h.idle

/-- An attempt without a new tune keeps the penalty. -/
theorem Pace.attempt (h : Pace events r) {event : Event} (hdelay : event.delay? = none)
    (hmark : event.mark? = some false) (hchanged : r.channel.status = .changed)
    (hphase : r.phase ≠ .closing) : Pace (events ++ [event]) r.attempt where
  backoff := h.backoff.snoc hdelay (by simp [hmark])
  next := by
    rw [delays_snoc hdelay]
    intro last hlast
    have hsome : delays events ≠ [] := by
      intro hempty
      simp [hempty] at hlast
    have hnew : ¬r.attempted < r.channel.generation := fun hless ↦
      (h.old hsome).1 ⟨hchanged, hless⟩
    have hattempts : r.attempt.attempts = r.attempts := by
      rw [Reconnect.attempt, if_neg hnew]
    rw [hattempts]
    exact h.next last hlast
  old := by
    intro _
    refine ⟨?_, by simpa using hphase⟩
    rintro ⟨_, hless⟩
    rw [attempted_attempt, channel_attempt] at hless
    exact lt_irrefl _ hless
  idle := by
    rw [marks_of_mark hmark]
    intro hlast
    simp at hlast

/-- The next penalty follows on an attempt. -/
theorem Pace.retryLater (h : Pace events r) (now : Timespec) (hidle : r.phase = .idle)
    (hattempt : (marks events).getLast? ≠ some true) :
    Pace (events ++ [.armed now (reconnectDelay r.attempts)]) (r.retryLater now) where
  backoff := h.backoff.armed now (reconnectDelay_bounds r.attempts) h.next hattempt
  next := by
    rw [delays_armed]
    intro last hlast
    obtain rfl : reconnectDelay r.attempts = last := by simpa using hlast
    exact reconnectDelay_nextAttempts r.attempts
  old := by
    intro _
    constructor
    · rintro ⟨hchanged, _⟩
      exact Config.Channel.status_take_ne r.channel hchanged
    · change r.phase ≠ .closing
      simp [hidle]
  idle := fun _ ↦ hidle

/-- The moves of a stretch without a defective step. -/
def Regular (r : Reconnect) : Move → Prop
  | .note _ | .release | .take | .connect | .fail _ | .close => True
  | .lose _ | .cancel | .leave => r.channel.status ≠ .invalid
  | .stray _ => r.Unattempted
  | .expire _ => r.channel.status ≠ .invalid ∧
      ¬(r.channel.status = .stable ∧ r.attempted < r.channel.generation)
  | .tune | .complete => False

/-- A new tune is only pending while there is no delay yet, so the connection may be dropped for
it. -/
theorem Pace.drop (h : Pace events r) (hempty : delays events = []) :
    Pace (events ++ [.disconnected]) r.drop.cancel := by
  have hdropped : Pace (events ++ [.disconnected]) r := h.snoc rfl rfl
  have hstill : delays (events ++ [.disconnected]) = [] := by rw [delays_snoc rfl, hempty]
  exact hdropped.congr (absurd hstill) (absurd hstill) fun _ ↦ rfl

theorem Pace.reset (h : Pace events r) (now : Timespec) (hvalid : r.channel.status ≠ .invalid)
    (hlive : r.phase ≠ .idle) : ∃ more, (r.reset now).history = r.history ++ more ∧
      Pace (events ++ more) (r.reset now) := by
  unfold Reconnect.reset
  split_ifs with hdrop
  · have hempty : delays events = [] := by
      by_contra hsome
      exact (h.old hsome).1 (hdrop.resolve_left hvalid)
    exact ⟨[.disconnected], rfl, h.drop hempty⟩
  · have hunmarked : (marks events).getLast? ≠ some true := fun hlast ↦ hlive (h.idle hlast)
    have hnoted : Pace (events ++ [.disconnected]) r := h.snoc rfl rfl
    have hdropped : Pace (events ++ [.disconnected]) r.drop :=
      hnoted.congr (fun _ ↦ rfl) (fun _ ↦ ⟨fun hnew ↦ hdrop (Or.inr hnew), nofun⟩) fun _ ↦ rfl
    refine ⟨[.disconnected, .armed now (reconnectDelay r.attempts)], ?_, ?_⟩
    · exact List.append_assoc r.history [.disconnected] [.armed now (reconnectDelay r.attempts)]
    · have hretry : Pace ((events ++ [.disconnected]) ++
          [.armed now (reconnectDelay r.attempts)]) (r.drop.retryLater now) :=
        hdropped.retryLater now rfl (by rw [marks_snoc rfl]; exact hunmarked)
      rwa [List.append_assoc] at hretry

theorem Pace.connect (h : Pace events r) (henabled : r.Enabled .connect) :
    (r.perform .connect).history = r.history ++ [.connected] ∧
      Pace (events ++ [.connected]) (r.perform .connect) := by
  have hattempt : Pace (events ++ [.connected]) r.attempt :=
    h.attempt rfl rfl henabled.2 (by simp [henabled.1])
  constructor
  · change r.attempt.history ++ [.connected] = _
    rw [history_attempt]
  · refine hattempt.congr (fun _ ↦ rfl) ?_ ?_
    · intro hsome
      exact ⟨(hattempt.old hsome).1, nofun⟩
    · intro hlast
      simp [marks_of_mark (show Event.connected.mark? = some false from rfl)] at hlast

theorem Pace.fail (h : Pace events r) {now : Timespec} (henabled : r.Enabled (.fail now)) :
    ∃ more, (r.perform (.fail now)).history = r.history ++ more ∧
      Pace (events ++ more) (r.perform (.fail now)) := by
  have hattempt : Pace (events ++ [.connectFailed]) r.attempt :=
    h.attempt rfl rfl henabled.2 (by simp [henabled.1])
  have hunmarked : (marks (events ++ [.connectFailed])).getLast? ≠ some true := by
    simp [marks_of_mark (show Event.connectFailed.mark? = some false from rfl)]
  have hnoted : Pace (events ++ [.connectFailed]) (r.attempt.note .connectFailed) :=
    hattempt.congr (fun _ ↦ rfl) hattempt.old hattempt.idle
  have hidle : (r.attempt.note .connectFailed).phase = .idle := by
    change r.attempt.phase = .idle
    rw [phase_attempt, henabled.1]
  have hretry := hnoted.retryLater now hidle hunmarked
  rw [List.append_assoc] at hretry
  refine ⟨_, ?_, hretry⟩
  change (r.attempt.history ++ [.connectFailed]) ++ [_] = _
  rw [history_attempt, List.append_assoc]

/-- Until the tuner is released, an expired retry leaves the backoff alone: a new tune is only
pending while there is no delay yet. -/
theorem Pace.expire (h : Pace events r) (hok : r.Ok) {now : Timespec}
    (hregular : Regular r (.expire now)) (henabled : r.Enabled (.expire now)) :
    Pace (events ++ [.expired now]) (r.perform (.expire now)) := by
  obtain ⟨hvalid, hknown⟩ := hregular
  have hnoted : Pace (events ++ [.expired now]) r := h.snoc rfl rfl
  have hpending (hchanged : r.channel.status = .changed) :
      delays (events ++ [.expired now]) = [] := by
    by_contra hsome
    exact (hnoted.old hsome).1 ⟨hchanged, hok.pending henabled.1 hchanged⟩
  have hphase : (r.perform (.expire now)).phase = r.phase := phase_expire now r
  refine hnoted.congr ?_ ?_ ?_
  · intro hsome
    change (r.note (.expired now)).wake.attempts = r.attempts
    unfold wake
    cases hstatus : (r.note (.expired now)).channel.status with
    | invalid => exact absurd hstatus hvalid
    | changed => exact absurd (hpending hstatus) hsome
    | stable => rfl
  · intro hsome
    rw [hphase]
    refine ⟨?_, (hnoted.old hsome).2⟩
    rintro ⟨-, hless⟩
    change (r.note (.expired now)).wake.attempted <
      (r.note (.expired now)).wake.channel.generation at hless
    rw [attempted_wake, generation_wake] at hless
    cases hstatus : r.channel.status with
    | invalid => exact hvalid hstatus
    | changed => exact hsome (hpending hstatus)
    | stable => exact hknown ⟨hstatus, hless⟩
  · intro hlast
    rw [hphase]
    exact hnoted.idle hlast

theorem Paced.perform (h : Paced front r) {move : Move} (hregular : Regular r move)
    (henabled : r.Enabled move) : Paced front (r.perform move) := by
  obtain ⟨hok, events, hhistory, hpace⟩ := h
  have hok' : (r.perform move).Ok := hok.perform henabled
  have hsame (hkeeps : (r.perform move).history = r.history)
      (hnext : Pace events (r.perform move)) :
      Paced front (r.perform move) := ⟨hok', events, hkeeps.trans hhistory, hnext⟩
  have hmore {more : List Event} (hadds : (r.perform move).history = r.history ++ more)
      (hnext : Pace (events ++ more) (r.perform move)) : Paced front (r.perform move) :=
    ⟨hok', events ++ more, by rw [hadds, hhistory, List.append_assoc], hnext⟩
  cases move with
  | note event =>
    have hplain : event.delay? = none ∧ event.mark? = none := by
      cases event <;> first | exact ⟨rfl, rfl⟩ | cases henabled
    have hnoted : Pace (events ++ [event]) r := hpace.snoc hplain.1 hplain.2
    exact hmore rfl (hnoted.congr (fun _ ↦ rfl) hnoted.old hnoted.idle)
  | tune => exact hregular.elim
  | release =>
    have hreleased : Pace (events ++ [.released]) r := hpace.snoc rfl rfl
    refine hmore rfl (hreleased.congr (fun _ ↦ rfl) ?_ hreleased.idle)
    intro hsome
    exact ⟨nofun, (hreleased.old hsome).2⟩
  | take =>
    refine hsame rfl (hpace.congr (fun _ ↦ rfl) ?_ hpace.idle)
    intro hsome
    refine ⟨?_, (hpace.old hsome).2⟩
    rintro ⟨hchanged, _⟩
    exact Config.Channel.status_take_ne r.channel hchanged
  | connect =>
    obtain ⟨hadds, hnext⟩ := hpace.connect henabled
    exact hmore hadds hnext
  | fail now =>
    obtain ⟨more, hadds, hnext⟩ := hpace.fail henabled
    exact hmore hadds hnext
  | lose now =>
    obtain ⟨more, hadds, hnext⟩ := hpace.reset now hregular henabled
    exact hmore hadds hnext
  | stray now =>
    have hempty : delays events = [] := by
      by_contra hsome
      exact (hpace.old hsome).1 hregular
    have hreset : r.reset now = r.drop.cancel := if_pos (Or.inr hregular)
    have hadds : (r.reset now).history = r.history ++ [.disconnected] := by
      rw [hreset]
      rfl
    have hnext : Pace (events ++ [.disconnected]) (r.reset now) := by
      rw [hreset]
      exact hpace.drop hempty
    exact hmore hadds hnext
  | close =>
    have hempty : delays events = [] := by
      by_contra hsome
      exact (hpace.old hsome).2 henabled
    exact hmore rfl (hpace.drop hempty)
  | cancel => exact absurd henabled.2 hregular
  | complete => exact hregular.elim
  | leave => exact absurd henabled.2 hregular
  | expire now => exact hmore (history_expire now r) (hpace.expire hok hregular henabled)

/-- Moves that are regular as long as the tuner is not released. -/
def Ordinary : Move → Prop
  | .note _ | .take | .connect | .fail _ | .close | .lose _ | .cancel | .leave => True
  | .release | .stray _ | .expire _ | .tune | .complete => False

theorem status_perform_ne {move : Move} (hordinary : Ordinary move)
    (hvalid : r.channel.status ≠ .invalid) : (r.perform move).channel.status ≠ .invalid := by
  have htake : r.channel.take.status ≠ .invalid := by
    unfold Config.Channel.take
    split
    · nofun
    · exact hvalid
  cases move with
  | note | close | cancel | leave => exact hvalid
  | take => exact htake
  | connect =>
    change r.attempt.channel.status ≠ .invalid
    rwa [channel_attempt]
  | fail =>
    change r.attempt.channel.take.status ≠ .invalid
    rwa [channel_attempt]
  | lose now =>
    change (r.reset now).channel.status ≠ .invalid
    unfold Reconnect.reset
    split_ifs
    · exact hvalid
    · exact htake
  | release | stray | expire | tune | complete => exact hordinary.elim

theorem Paced.moves (h : Paced front r) (hvalid : r.channel.status ≠ .invalid) {moves : List Move}
    (hmoves : r.Moves moves next) (hordinary : ∀ move ∈ moves, Ordinary move) :
    Paced front next ∧ next.channel.status ≠ .invalid := by
  refine Moves.invariant (fun r ↦ Paced front r ∧ r.channel.status ≠ .invalid) Ordinary ?_ hmoves
    hordinary ⟨h, hvalid⟩
  rintro mid move ⟨hmid, hstill⟩ hmove henabled
  refine ⟨hmid.perform ?_ henabled, status_perform_ne hmove hstill⟩
  cases move <;> first | exact hstill | trivial

end Reconnect

/-! ## The session -/

variable {s next : SatipRTSP} {now : Timespec} {source : Source} {front : List Event}

/-- The tuner is tuned. -/
def Op.Tunes : Op → Prop
  | .vtuner .setChannelChanged => True
  | _ => False

instance (op : Op) : Decidable op.Tunes :=
  match op with
  | .vtuner .setChannelChanged => .isTrue trivial
  | .vtuner (.updatePidList _) | .vtuner .clearProperty | .vtuner (.setVoltage _)
  | .vtuner (.setParam _) | .handleRTSPStatus _ _ _ | .handleNextTimer _ _
  | .handlePollEvents _ _ _ | .processTS _ => .isFalse id

/-- A step of a stretch: the tuner is neither tuned nor released, and no PLAY is completed. -/
def Stretch (s : SatipRTSP) (op : Op) : Prop :=
  ¬op.Tunes ∧ s.config.status ≠ .invalid ∧
    (s.rtspStatus = .sessionPlaying →
      (step s op).map SatipRTSP.rtspStatus ≠ some .sessionTransmitting)

instance (s : SatipRTSP) (op : Op) : Decidable (Stretch s op) := by
  unfold Stretch
  infer_instance

/-- The steps that drop a penalty or impose one twice.  The timer expires for a generation that an
open connection took over, which is then taken for a new tune; or `poll` reports a connection
broken that was dropped before, and no new tune is pending. -/
def Defective (s : SatipRTSP) : Op → Prop
  | .handleNextTimer now _ =>
    s.timerReconnect.active = true ∧ s.timerReconnect.Due now ∧ s.config.status = .stable ∧
      s.attemptedGeneration < s.config.tuneGeneration
  | .handlePollEvents _ events _ =>
    events.broken = true ∧ s.rtspStatus = .configWaiting ∧ ¬Unattempted s
  | .handleRTSPStatus _ _ _ | .vtuner _ | .processTS _ => False

instance (s : SatipRTSP) (op : Op) : Decidable (Defective s op) := by
  cases op <;> unfold Defective <;> infer_instance

open Reconnect (Paced)

/-- The sources of ordinary moves. -/
def Source.Ordinary : Source → Prop
  | .status | .timer | .receive | .stream => True
  | .vtuner _ | .expiry | .hangup | .completion => False

theorem ordinary_of_allows {move : Move} (hsource : source.Ordinary)
    (h : source.Allows now move) : Reconnect.Ordinary move := by
  cases h <;> trivial

theorem paced_of_actions {sources : Set Source} (hsources : ∀ source ∈ sources, source.Ordinary)
    (hs : SessionOk s) (h : Paced front (reconnect s)) (hvalid : s.config.status ≠ .invalid)
    (hactions : Actions now sources s next) :
    SessionOk next ∧ Paced front (reconnect next) ∧ next.config.status ≠ .invalid := by
  refine actions_invariant
    (fun s ↦ SessionOk s ∧ Paced front (reconnect s) ∧ s.config.status ≠ .invalid) ?_ hactions
    ⟨hs, h, hvalid⟩
  rintro mid source after hsource ⟨hmid, hpaced, hstill⟩ haction
  obtain ⟨moves, hmoves, hallows⟩ := drives_of_action hmid haction
  have hordinary : ∀ move ∈ moves, Reconnect.Ordinary move := fun move hmove ↦
    ordinary_of_allows (hsources source hsource) (hallows move hmove)
  exact ⟨hmid.action haction, hpaced.moves hstill hmoves hordinary⟩

/-! ### Timers -/

theorem not_due_start {msec : ℤ} (h : 1000 ≤ msec) (now : Timespec) (single : Bool) :
    ¬(TimerElem.start now msec single).Due now := by
  have hdiv : 1 ≤ msec.tdiv 1000 := by
    rw [Int.tdiv_eq_ediv_of_nonneg (by omega)]
    omega
  have hlater : now.sec < (now.after msec).sec := by
    unfold Timespec.after
    dsimp only
    split_ifs
    · dsimp only
      omega
    · dsimp only
      omega
  rintro (hearlier | ⟨hsame, _⟩)
  · exact absurd hearlier hlater.not_gt
  · exact hlater.ne hsame

/-- While the reconnect timer is set, no other timer is. -/
theorem beforeReconnect_of_active (hs : SessionOk s) (hok : (reconnect s).Ok)
    (hactive : s.timerReconnect.active = true) (sent : Bool) : beforeReconnect now sent s = s := by
  have hrtsp : s.rtspStatus = .configWaiting := phase_eq_idle.mp (hok.idle hactive)
  have hreset : s.timerResetConnect.active ≠ true := fun h ↦ hs.resetConnect h hrtsp
  have hkeep : s.timerKeepAlive.active ≠ true := by
    intro h
    have htransmitting := hs.keepAlive h
    rw [hrtsp] at htransmitting
    cases htransmitting
  have hfirst : Timer.callIfDue now s (slotResetConnect now) = s := if_neg fun h ↦ hreset h.1
  have hsecond : Timer.callIfDue now s (slotKeepAlive now sent) = s := if_neg fun h ↦ hkeep h.1
  rw [beforeReconnect, hfirst, hsecond]

/-- Where it is not, the sweep may set it, but then it is not due. -/
theorem handleNextTimer_of_inactive (hs : SessionOk s) (hactive : s.timerReconnect.active = false)
    (sent : Bool) : handleNextTimer now sent s = beforeReconnect now sent s := by
  have hwaits : SessionOk (beforeReconnect now sent s) ∧
      ((beforeReconnect now sent s).timerReconnect.active = true →
        ¬(beforeReconnect now sent s).timerReconnect.Due now) := by
    refine actions_invariant
      (fun s ↦ SessionOk s ∧ (s.timerReconnect.active = true → ¬s.timerReconnect.Due now)) ?_
      (actions_of_beforeReconnect sent) ⟨hs, by simp [hactive]⟩
    rintro mid source after rfl ⟨hmid, hwait⟩ haction
    refine ⟨hmid.action haction, ?_⟩
    obtain ⟨moves, hmoves, hallows⟩ := drives_of_action hmid haction
    refine Reconnect.Moves.invariant
      (fun r ↦ r.timer.active = true → ¬r.timer.Due now) (Source.Allows now .timer) ?_ hmoves
      hallows hwait
    intro r move hr hallow _
    cases hallow with
    | note => exact hr
    | lose =>
      change (r.reset now).timer.active = true → ¬(r.reset now).timer.Due now
      unfold Reconnect.reset
      split_ifs
      · nofun
      · exact fun _ ↦ not_due_start (by exact_mod_cast le_reconnectDelay _) now true
  rw [handleNextTimer_eq, callIfDue_slotReconnect, if_neg]
  rintro ⟨hset, hdue⟩
  exact hwaits.2 hset hdue

theorem paced_handleNextTimer (hs : SessionOk s) (h : Paced front (reconnect s))
    (hvalid : s.config.status ≠ .invalid) {sent : Bool}
    (hok : ¬Defective s (.handleNextTimer now sent)) :
    Paced front (reconnect (handleNextTimer now sent s)) := by
  cases hactive : s.timerReconnect.active with
  | true =>
    rw [handleNextTimer_eq, beforeReconnect_of_active hs h.ok hactive, callIfDue_slotReconnect]
    split_ifs with hdue
    · rw [reconnect_afterExpired]
      have hregular : Reconnect.Regular (reconnect s) (.expire now) :=
        ⟨hvalid, fun hold ↦ hok ⟨hdue.1, hdue.2, hold⟩⟩
      exact h.perform hregular hdue
    · exact h
  | false =>
    rw [handleNextTimer_of_inactive hs hactive]
    have htimers : ∀ source ∈ ({.timer} : Set Source), source.Ordinary := by
      rintro source rfl
      trivial
    exact (paced_of_actions htimers hs h hvalid (actions_of_beforeReconnect sent)).2.1

/-! ### Receiving -/

/-- Behind a complete response, unless it is the one to a PLAY. -/
theorem paced_advance {mid : SatipRTSP} (h : Paced front (reconnect mid))
    (hsame : mid.rtspStatus = s.rtspStatus)
    (hplay : s.rtspStatus = .sessionPlaying →
      (some (advance now s.rtspStatus .responseComplete mid)).map SatipRTSP.rtspStatus ≠
        some .sessionTransmitting) :
    Paced front (reconnect (advance now s.rtspStatus .responseComplete mid)) := by
  unfold advance at hplay ⊢
  rw [if_pos rfl] at hplay ⊢
  cases hrtsp : s.rtspStatus with
  | configWaiting | serverConnecting | sessionTransmitting => exact h
  | sessionEstablishing =>
    have heq : reconnect { mid with rtspStatus := .sessionPlaying } = reconnect mid := by
      unfold reconnect
      rw [hsame, hrtsp]
      rfl
    exact heq ▸ h
  | sessionPlaying =>
    rw [hrtsp] at hplay
    exact absurd rfl (hplay rfl)
  | sessionTeardowning =>
    have hclosing : (reconnect mid).phase = .closing := by
      change mid.rtspStatus.phase = .closing
      rw [hsame, hrtsp]
      rfl
    have hregular : Reconnect.Regular (reconnect mid) .close := trivial
    rw [reconnect_resetConnect_false]
    exact h.perform hregular hclosing

theorem paced_handlePollEvents (hs : SessionOk s) (h : Paced front (reconnect s))
    {events : PollEvents} {recv : Recv}
    (hstretch : Stretch s (.handlePollEvents now events recv))
    (hok : ¬Defective s (.handlePollEvents now events recv))
    (hnext : handlePollEvents now events recv s = some next) : Paced front (reconnect next) := by
  obtain ⟨_, hvalid, hplay⟩ := hstretch
  have hcase : PollCase now events recv s next := pollCase_of_handlePollEvents hnext
  cases hcase with
  | broken hbroken =>
    rw [reconnect_resetConnect_true]
    by_cases hrtsp : s.rtspStatus = .configWaiting
    · have hidle : (reconnect s).phase = .idle := phase_eq_idle.mpr hrtsp
      have hregular : Reconnect.Regular (reconnect s) (.stray now) := by
        by_contra hold
        exact hok ⟨hbroken, hrtsp, hold⟩
      exact h.perform hregular hidle
    · have hlive : (reconnect s).phase ≠ .idle := fun hidle ↦ hrtsp (phase_eq_idle.mp hidle)
      have hregular : Reconnect.Regular (reconnect s) (.lose now) := hvalid
      exact h.perform hregular hlive
  | idle => exact h
  | ready _ hstatus =>
    rw [reconnect_startSession hstatus]
    exact h
  | read _ _ hwaiting hconnecting res mid hmid =>
    obtain ⟨hactions, hcomplete⟩ := actions_of_handleResponse ⟨hwaiting, hconnecting⟩ hmid
    have hreceive : ∀ source ∈ ({.receive} : Set Source), source.Ordinary := by
      rintro source rfl
      trivial
    have hpaced : Paced front (reconnect mid) :=
      (paced_of_actions hreceive hs h hvalid hactions).2.1
    by_cases hres : res = .responseComplete
    · subst hres
      obtain ⟨hsame, _⟩ := hcomplete rfl
      change _ → (handlePollEvents now events recv s).map _ ≠ _ at hplay
      rw [hnext] at hplay
      exact paced_advance hpaced hsame hplay
    · rw [advance_of_ne hres]
      exact hpaced

/-! ### Steps -/

theorem paced_step (hs : SessionOk s) (h : Paced front (reconnect s)) {op : Op}
    (hstretch : Stretch s op) (hok : ¬Defective s op) (hnext : step s op = some next) :
    Paced front (reconnect next) := by
  have hvalid : s.config.status ≠ .invalid := hstretch.2.1
  have hactions : Actions op.time op.sources s next := actions_of_step hnext
  cases op with
  | handleRTSPStatus now connect sent =>
    have hstatus : ∀ source ∈ (Op.handleRTSPStatus now connect sent).sources, source.Ordinary := by
      rintro source rfl
      trivial
    exact (paced_of_actions hstatus hs h hvalid hactions).2.1
  | handleNextTimer now sent =>
    obtain rfl := Option.some.inj hnext
    exact paced_handleNextTimer hs h hvalid hok
  | handlePollEvents now events recv => exact paced_handlePollEvents hs h hstretch hok hnext
  | vtuner call =>
    obtain ⟨config, hconfig, rfl⟩ := Option.map_eq_some_iff.mp hnext
    have haction : Action {} s (.vtuner call) (withConfig config call.events s) :=
      .vtuner call config hconfig
    obtain ⟨moves, hmoves, hallows⟩ := drives_of_action hs haction
    refine Reconnect.Moves.invariant (Paced front) (Source.Allows {} (.vtuner call)) ?_ hmoves
      hallows h
    intro r move hr hallow henabled
    cases hallow with
    | note => exact hr.perform trivial henabled
    | release => exact hr.perform trivial henabled
    | lose _ hsource => exact absurd rfl (hsource call)
    | tune => exact absurd trivial hstretch.1
  | processTS data =>
    have hstream : ∀ source ∈ (Op.processTS data).sources, source.Ordinary := by
      rintro source rfl
      trivial
    exact (paced_of_actions hstream hs h hvalid hactions).2.1

/-- In a stretch without a defective step, every delay is twice the one before, up to half a
minute, and belongs to an attempt of its own. -/
theorem backoff_of_run {finish : SatipRTSP} {ops : List Op} (hs : Reachable s)
    (hstretch : Runs.EachStep step Stretch s ops)
    (hok : Runs.EachStep step (fun s op ↦ ¬Defective s op) s ops)
    (hrun : Runs.run step s ops = some finish) :
    ∃ events, finish.trace = s.trace ++ events ∧ Backoff events := by
  have hempty : Reconnect.Pace [] (reconnect s) := by
    refine ⟨⟨by simp [delays], by simp [delays], by simp [marks]⟩, ?_, ?_, ?_⟩
    · simp [delays]
    · simp [delays]
    · simp [marks]
  have hstart : Paced s.trace (reconnect s) :=
    ⟨hs.reconnectOk, [], (List.append_nil _).symm, hempty⟩
  have hstep : ∀ mid op after, SessionOk mid ∧ Paced s.trace (reconnect mid) →
      Stretch mid op ∧ ¬Defective mid op → step mid op = some after →
      SessionOk after ∧ Paced s.trace (reconnect after) := by
    rintro mid op after ⟨hmid, hpaced⟩ ⟨hop, hfine⟩ hnext
    have hsession : SessionOk after := step_of_actions
      (fun _ _ _ _ hs haction ↦ hs.action haction) hmid hnext
    exact ⟨hsession, paced_step hmid hpaced hop hfine hnext⟩
  have hfinish := Runs.run_invariant hstep ⟨hs.sessionOk, hstart⟩ (hstretch.and hok) hrun
  obtain ⟨_, events, htrace, hpace⟩ := hfinish.2
  exact ⟨events, htrace, hpace.backoff⟩

/-- The tuner is tuned. -/
def tuneRun : List Op := [.vtuner .setChannelChanged]

/-- Two connections fail, one after the other. -/
def failedRun : List Op :=
  [.handleRTSPStatus {} none true, .handleNextTimer { sec := 2 } true,
    .handleRTSPStatus { sec := 2 } none true]

theorem backoff_of_run_failedRun :
    ∃ s finish events, Runs.run step udpArgs.start tuneRun = some s ∧
      Runs.run step s failedRun = some finish ∧ finish.trace = s.trace ++ events ∧
      Backoff events := by
  have hrun : ∃ s finish, Runs.run step udpArgs.start tuneRun = some s ∧
      Runs.run step s failedRun = some finish ∧ Runs.EachStep step Stretch s failedRun ∧
      Runs.EachStep step (fun s op ↦ ¬Defective s op) s failedRun :=
    ⟨_, _, rfl, rfl, by decide +kernel, by decide +kernel⟩
  obtain ⟨s, finish, hs, hfinish, hstretch, hok⟩ := hrun
  obtain ⟨events, htrace, hbackoff⟩ := backoff_of_run ⟨udpArgs, tuneRun, hs⟩ hstretch hok hfinish
  exact ⟨s, finish, events, hs, hfinish, htrace, hbackoff⟩

/-! ## Where it fails -/

/-- The tuner is tuned again while the client connects. -/
def retuneRun : List Op :=
  [.vtuner .setChannelChanged, .handleRTSPStatus {} (some 3) true, .vtuner .setChannelChanged]

/-- The new tuning goes into the SETUP, which is not answered; the next connection fails. -/
def unansweredRun : List Op :=
  [.handlePollEvents {} { pollout := true } (.bytes []), .handleRTSPStatus {} none true,
    .handleNextTimer { sec := 5 } true, .handleNextTimer { sec := 7 } true,
    .handleRTSPStatus { sec := 7 } none true]

/-- A connection is being made. -/
def connectRun : List Op := [.vtuner .setChannelChanged, .handleRTSPStatus {} (some 3) true]

/-- It times out, and in the same iteration `poll` has reported it broken. -/
def brokenRun : List Op :=
  [.handleNextTimer { sec := 6 } true, .handlePollEvents { sec := 6 } { broken := true } .failure]

/-- A penalty is dropped, so that two attempts are delayed by a second each; and one lost connection
is penalised twice. -/
theorem not_backoff :
    (∃ s finish events, Runs.run step udpArgs.start retuneRun = some s ∧
        Runs.EachStep step Stretch s unansweredRun ∧
        Runs.run step s unansweredRun = some finish ∧ finish.trace = s.trace ++ events ∧
        delays events = [1000, 1000] ∧ ¬Backoff events) ∧
      ∃ s finish events, Runs.run step udpArgs.start connectRun = some s ∧
        Runs.EachStep step Stretch s brokenRun ∧ Runs.run step s brokenRun = some finish ∧
        finish.trace = s.trace ++ events ∧ marks events = [true, true] ∧ ¬Backoff events := by
  constructor
  · have hrun : ∃ s finish events, Runs.run step udpArgs.start retuneRun = some s ∧
        Runs.EachStep step Stretch s unansweredRun ∧
        Runs.run step s unansweredRun = some finish ∧ finish.trace = s.trace ++ events ∧
        delays events = [1000, 1000] :=
      ⟨_, _, _, rfl, by decide +kernel, rfl, rfl, by decide +kernel⟩
    obtain ⟨s, finish, events, hs, hstretch, hfinish, htrace, hdelays⟩ := hrun
    refine ⟨s, finish, events, hs, hstretch, hfinish, htrace, hdelays, ?_⟩
    intro hbackoff
    have hdoubles := hbackoff.doubles
    rw [hdelays] at hdoubles
    simp at hdoubles
  · have hrun : ∃ s finish events, Runs.run step udpArgs.start connectRun = some s ∧
        Runs.EachStep step Stretch s brokenRun ∧ Runs.run step s brokenRun = some finish ∧
        finish.trace = s.trace ++ events ∧ marks events = [true, true] :=
      ⟨_, _, _, rfl, by decide +kernel, rfl, rfl, by decide +kernel⟩
    obtain ⟨s, finish, events, hs, hstretch, hfinish, htrace, hmarks⟩ := hrun
    refine ⟨s, finish, events, hs, hstretch, hfinish, htrace, hmarks, ?_⟩
    intro hbackoff
    have honce := hbackoff.once
    rw [hmarks] at honce
    simp at honce

end SatipClient.RTSP
