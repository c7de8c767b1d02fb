import SatipClient.Config.Requested

/-!
# The channel

What the session decides by is the channel status and the tune generation.  The operations of
`satipConfig` act on these two as on a small state machine of their own (`channel_step`): a tuner
is released, tuned or tried again, and a tuning is taken up.
-/

namespace SatipClient.Config

variable {s next : SatipConfig}

/-- The channel status and the tune generation. -/
structure Channel where
  status : ChannelStatus
  generation : ℕ
  deriving DecidableEq

namespace Channel

/-- The tuner is released. -/
def release (c : Channel) : Channel := { c with status := .invalid }

/-- The tuner is tuned. -/
def tune (c : Channel) : Channel := { status := .changed, generation := c.generation + 1 }

/-- The tuning is tried again. -/
def retry (c : Channel) : Channel := { c with status := .changed }

/-- The tuning is taken up, if it was not yet. -/
def take (c : Channel) : Channel := if c.status = .changed then { c with status := .stable } else c

@[simp]
theorem generation_take (c : Channel) : c.take.generation = c.generation := by
  unfold take
  split <;> rfl

@[simp]
theorem status_take_ne (c : Channel) : c.take.status ≠ .changed := by
  unfold take
  split
  · simp
  · assumption

theorem take_of_ne {c : Channel} (h : c.status ≠ .changed) : c.take = c := if_neg h

end Channel

/-- The channel of a configuration. -/
def channel (s : SatipConfig) : Channel := { status := s.status, generation := s.tuneGeneration }

/-- The voltages that switch the tuner off. -/
def Releases (voltage : ℤ) : Prop := ¬(voltage = secVoltage13 ∨ voltage = secVoltage18)

instance (voltage : ℤ) : Decidable (Releases voltage) := by
  unfold Releases
  infer_instance

/-- What an operation does to the channel. -/
def Op.onChannel : Op → Channel → Channel
  | .setVoltage voltage => fun c ↦ if Releases voltage then c.release else c
  | .setChannelChanged => Channel.tune
  | .setChannelRetry => Channel.retry
  | .clearChannelChanged | .getSetupData | .getPlayData => Channel.take
  | .updatePidList _ | .setCaPids _ | .psi _ | .clearProperty | .setParam _ => id

theorem channel_takeTuning (s : SatipConfig) : channel (takeTuning s) = (channel s).take := by
  unfold takeTuning Channel.take
  by_cases h : s.status = .changed
  · rw [if_pos h, if_pos (show (channel s).status = .changed from h)]
    rfl
  · rw [if_neg h, if_neg (show (channel s).status ≠ .changed from h)]

theorem channel_clearChannelChanged (s : SatipConfig) :
    channel (clearChannelChanged s) = (channel s).take := by
  unfold clearChannelChanged Channel.take
  by_cases h : s.status = .changed
  · rw [if_pos h, if_pos (show (channel s).status = .changed from h)]
    rfl
  · rw [if_neg h, if_neg (show (channel s).status ≠ .changed from h)]

theorem channel_setVoltage (voltage : ℤ) (s : SatipConfig) :
    channel (setVoltage voltage s) =
      if Releases voltage then (channel s).release else channel s := by
  unfold setVoltage
  by_cases h13 : voltage = secVoltage13
  · have hkeeps : ¬Releases voltage := not_not.mpr (Or.inl h13)
    rw [if_pos h13, if_neg hkeeps]
    rfl
  by_cases h18 : voltage = secVoltage18
  · have hkeeps : ¬Releases voltage := not_not.mpr (Or.inr h18)
    rw [if_neg h13, if_pos h18, if_neg hkeeps]
    rfl
  · have hreleases : Releases voltage := not_or.mpr ⟨h13, h18⟩
    rw [if_neg h13, if_neg h18, if_pos hreleases]
    rfl

theorem channel_startPlay (s : SatipConfig) : channel (startPlay s) = (channel s).take := by
  by_cases h : s.status = .changed
  · rw [startPlay_of_changed h, ← channel_takeTuning]
    rfl
  · rw [startPlay_of_ne h, Channel.take_of_ne h]

/-- The operations act on the channel alone. -/
theorem channel_step {op : Op} (h : step s op = some next) :
    channel next = op.onChannel (channel s) := by
  cases op with
  | psi op => obtain ⟨psi, caPids, rfl | rfl⟩ := stepPsi_cases h <;> rfl
  | updatePidList new =>
    obtain rfl := Option.some.inj h
    unfold updatePidList
    obtain ⟨psi, caPids, heq | heq⟩ := notifyPidList_cases (updatePidStatus
      { s with pidList := updateSlots (new.map UInt16.toNat) s.pidList }) <;>
    · rw [heq]
      rfl
  | clearProperty =>
    obtain rfl := Option.some.inj h
    unfold clearProperty
    obtain ⟨psi, caPids, heq | heq⟩ := resetPsi_cases (clearParams s) <;>
    · rw [heq]
      rfl
  | setCaPids pids =>
    obtain rfl := Option.some.inj h
    unfold setCaPids
    split <;> rfl
  | setVoltage voltage =>
    obtain rfl := Option.some.inj h
    exact channel_setVoltage voltage s
  | setParam param =>
    obtain rfl := Option.some.inj h
    cases param <;> rfl
  | setChannelChanged | setChannelRetry =>
    obtain rfl := Option.some.inj h
    rfl
  | clearChannelChanged =>
    obtain rfl := Option.some.inj h
    exact channel_clearChannelChanged s
  | getSetupData =>
    obtain rfl := Option.some.inj h
    exact channel_takeTuning s
  | getPlayData =>
    obtain rfl := Option.some.inj h
    rw [snd_getPlayData]
    split
    · exact channel_startPlay s
    · exact channel_startPlay s

/-- In the beginning the tuner is released. -/
theorem channel_construct (feType : ℤ) (settings : Settings) :
    channel (construct feType settings) = { status := .invalid, generation := 0 } := by
  have hstep : step { feType := feType, settings := settings } .clearProperty =
      some (clearProperty { feType := feType, settings := settings }) := rfl
  have hcleared : channel (clearProperty { feType := feType, settings := settings }) =
      { status := .invalid, generation := 0 } := channel_step hstep
  unfold construct
  dsimp only
  split_ifs
  · rw [applyReports_frame]
    exact hcleared
  · exact hcleared

end SatipClient.Config
