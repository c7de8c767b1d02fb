import SatipClient.Config.Frequency
import SatipClient.Vtuner.State

/-!
# The band of a satellite tuner

The tone selects the band of the LNB, and with it what is to be added to the intermediate
frequency.  It comes with messages of its own, or with the message to a committed switch, and
`setProperty` adds the offset when the frequency arrives.  So a request names the frequency of the
band in force at the tune just when the tone was last switched before the frequency arrived, or
back to what it was then (`band_in_force_iff`).
-/

namespace SatipClient.Vtuner

open Config (SatipConfig)
open RTSP (VtunerCall)

/-- The tone in force behind some events, when it was `tone` before. -/
def toneInForce (tone : ℕ) (events : List Event) : ℕ :=
  events.foldl
    (fun tone event ↦
      match event with
      | .message _ msg => toneAfter tone msg
      | .signal _ => tone) tone

/-- The offset of a band. -/
def bandOffset (tone : ℕ) : ℕ := if tone = secToneOn then 106000 else 97500

/-- `DTV_FREQUENCY` -/
def dtvFrequency (data : UInt32) : Message := .setProperty { cmd := .frequency, data := data }

/-- `DTV_TUNE` -/
def dtvTune : Message := .setProperty { cmd := .tune }

/-- The event is a `DTV_FREQUENCY` or a `DTV_CLEAR`. -/
def Event.SetsFrequency : Event → Prop
  | .message _ (.setProperty prop) => prop.cmd = .frequency ∨ prop.cmd = .clear
  | _ => False

/-- The call changes the frequency. -/
def CallSetsFrequency : VtunerCall → Prop
  | .clearProperty | .setParam (.frequency _) => True
  | _ => False

variable {call : VtunerCall} {event : Event} {events : List Event} {s : SatipVtuner}

/-! ## What the calls keep -/

/-- The type of the tuner stays, and the frequency too if it is not set. -/
theorem callConfig_frame (config : SatipConfig) (call : VtunerCall) :
    (callConfig config call).feType = config.feType ∧
      (¬CallSetsFrequency call →
        (callConfig config call).frontend.frequency = config.frontend.frequency) := by
  cases call with
  | updatePidList new =>
    change (Config.notifyPidList _).feType = _ ∧
      (_ → (Config.notifyPidList _).frontend.frequency = _)
    obtain ⟨psi, caPids, heq | heq⟩ := Config.notifyPidList_cases (Config.updatePidStatus
      { config with pidList := Config.updateSlots (new.map UInt16.toNat) config.pidList }) <;>
    · rw [heq]
      exact ⟨rfl, fun _ ↦ rfl⟩
  | clearProperty =>
    refine ⟨?_, fun h ↦ absurd trivial h⟩
    change (Config.resetPsi _).feType = _
    obtain ⟨psi, caPids, heq | heq⟩ := Config.resetPsi_cases (Config.clearParams config) <;>
    · rw [heq]
      rfl
  | setVoltage voltage =>
    change (Config.setVoltage voltage config).feType = _ ∧
      (_ → (Config.setVoltage voltage config).frontend.frequency = _)
    unfold Config.setVoltage
    split_ifs <;> exact ⟨rfl, fun _ ↦ rfl⟩
  | setParam param =>
    cases param with
    | frequency freq => exact ⟨rfl, fun h ↦ absurd trivial h⟩
    | _ => exact ⟨rfl, fun _ ↦ rfl⟩
  | setChannelChanged => exact ⟨rfl, fun _ ↦ rfl⟩

/-- What every call keeps, the calls of a message keep. -/
theorem foldl_callConfig_eq {α : Type} (get : SatipConfig → α) {calls : List VtunerCall}
    (h : ∀ call ∈ calls, ∀ config, get (callConfig config call) = get config)
    (config : SatipConfig) : get (calls.foldl callConfig config) = get config := by
  induction calls generalizing config with
  | nil => rfl
  | cons call calls ih =>
    have hrest := ih (fun other hother ↦ h other (List.mem_cons_of_mem call hother))
      (callConfig config call)
    exact hrest.trans (h call List.mem_cons_self config)

/-- A switch is told the polarisation and the position. -/
theorem mem_diseqcCalls {cmd : DiseqcMasterCmd} (h : call ∈ diseqcCalls cmd) :
    (∃ voltage, call = .setVoltage voltage) ∨ ∃ pos, call = .setParam (.position pos) := by
  unfold diseqcCalls at h
  split_ifs at h
  · exact (List.mem_cons.mp h).imp (⟨_, ·⟩) fun hrest ↦ ⟨_, List.mem_singleton.mp hrest⟩
  · exact (List.mem_cons.mp h).imp (⟨_, ·⟩) fun hrest ↦ ⟨_, List.mem_singleton.mp hrest⟩
  · exact Or.inr ⟨_, List.mem_singleton.mp h⟩
  · exact Or.inr ⟨_, List.mem_singleton.mp h⟩
  · cases h

theorem mem_burstCalls {burst : ℕ} (h : call ∈ burstCalls burst) :
    ∃ pos, call = .setParam (.position pos) := by
  unfold burstCalls at h
  split_ifs at h
  · exact ⟨1, List.mem_singleton.mp h⟩
  · exact ⟨2, List.mem_singleton.mp h⟩
  · cases h

theorem not_callSetsFrequency_setProperty {feType : ℤ} {tone : ℕ} {prop : DtvProperty}
    (hcall : setProperty feType tone prop = some call)
    (hkeeps : ¬(prop.cmd = .frequency ∨ prop.cmd = .clear)) : ¬CallSetsFrequency call := by
  obtain ⟨cmd, data⟩ := prop
  cases cmd with
  | frequency => exact absurd (Or.inl rfl) hkeeps
  | clear => exact absurd (Or.inr rfl) hkeeps
  | innerFec =>
    simp only [setProperty] at hcall
    split_ifs at hcall
    cases hcall
    exact id
  | hierarchy | inversion | other => cases hcall
  | _ =>
    cases hcall
    exact id

theorem not_callSetsFrequency {feType : ℤ} {tone : ℕ} {msg : Message} {now : Timespec}
    (hkeeps : ¬(Event.message now msg).SetsFrequency)
    (hcall : call ∈ messageCalls feType tone msg) : ¬CallSetsFrequency call := by
  cases msg with
  | setVoltage voltage =>
    rw [List.mem_singleton.mp hcall]
    exact id
  | pidlist pids =>
    rw [List.mem_singleton.mp hcall]
    exact id
  | sendDiseqcBurst burst =>
    obtain ⟨pos, rfl⟩ := mem_burstCalls hcall
    exact id
  | sendDiseqcMsg cmd =>
    rcases mem_diseqcCalls hcall with ⟨voltage, rfl⟩ | ⟨pos, rfl⟩
    · exact id
    · exact id
  | setProperty prop => exact not_callSetsFrequency_setProperty (Option.mem_toList.mp hcall) hkeeps
  | _ => cases hcall

/-! ## What the events keep -/

/-- What every call of a message keeps, handling it keeps. -/
theorem config_step_eq {α : Type} (get : SatipConfig → α) {event : Event}
    (h : ∀ now msg, event = .message now msg → ∀ call ∈ messageCalls s.config.feType s.tone msg,
      ∀ config, get (callConfig config call) = get config) :
    get (step s event).config = get s.config := by
  cases event with
  | signal signal => rfl
  | message now msg =>
    have hcalls : get ((messageCalls s.config.feType s.tone msg).foldl callConfig s.config) =
        get s.config := foldl_callConfig_eq get (h now msg rfl) s.config
    have hconfig : (step s (.message now msg)).config =
        (messageCalls s.config.feType s.tone msg).foldl callConfig s.config := by
      cases msg <;> rfl
    rw [hconfig, hcalls]

theorem feType_step (s : SatipVtuner) (event : Event) :
    (step s event).config.feType = s.config.feType :=
  config_step_eq Config.SatipConfig.feType fun _ _ _ call _ config ↦
    (callConfig_frame config call).1

theorem frequency_step (h : ¬event.SetsFrequency) (s : SatipVtuner) :
    (step s event).config.frontend.frequency = s.config.frontend.frequency := by
  apply config_step_eq fun config ↦ config.frontend.frequency
  rintro now msg rfl call hcall config
  exact (callConfig_frame config call).2 (not_callSetsFrequency h hcall)

theorem tone_step (s : SatipVtuner) (event : Event) :
    (step s event).tone = toneInForce s.tone [event] := by
  cases event with
  | signal signal => rfl
  | message now msg => cases msg <;> rfl

/-- By induction on the events. -/
theorem tone_run (s : SatipVtuner) (events : List Event) :
    (run s events).tone = toneInForce s.tone events := by
  induction events generalizing s with
  | nil => rfl
  | cons event events ih =>
    calc (run s (event :: events)).tone = toneInForce (step s event).tone events := ih _
      _ = toneInForce (toneInForce s.tone [event]) events := by rw [tone_step]
      _ = toneInForce s.tone (event :: events) := rfl

theorem feType_run (s : SatipVtuner) (events : List Event) :
    (run s events).config.feType = s.config.feType := by
  induction events generalizing s with
  | nil => rfl
  | cons event events ih => exact (ih (step s event)).trans (feType_step s event)

theorem frequency_run (h : ∀ event ∈ events, ¬event.SetsFrequency) (s : SatipVtuner) :
    (run s events).config.frontend.frequency = s.config.frontend.frequency := by
  induction events generalizing s with
  | nil => rfl
  | cons event events ih =>
    have hrest := ih (fun other hother ↦ h other (List.mem_cons_of_mem event hother)) (step s event)
    exact hrest.trans (frequency_step (h event List.mem_cons_self) s)

/-! ## The request -/

/-- The frequency that is stored is the one of the band in force when it arrived. -/
theorem frequency_step_dtvFrequency (hsat : s.config.feType = Config.feTypeSat) (now : Timespec)
    (data : UInt32) : (step s (.message now (dtvFrequency data))).config.frontend.frequency =
      data.toNat / 100 + bandOffset s.tone :=
  if_pos hsat

/-- After a tune, the request names one frequency: that of the band in force when the last
`DTV_FREQUENCY` arrived. -/
theorem freqs_run (hsat : s.config.feType = Config.feTypeSat) (front : List Event)
    (t : Timespec) (data : UInt32) {back : List Event}
    (hback : ∀ event ∈ back, ¬event.SetsFrequency) (t' : Timespec) :
    Config.freqs (Config.tuningText (run s
        (front ++ .message t (dtvFrequency data) :: back ++ [.message t' dtvTune])).config) =
      [data.toNat / 100 + bandOffset (toneInForce s.tone front)] := by
  set events := front ++ .message t (dtvFrequency data) :: back with hevents
  have hsatRun : (run s events).config.feType = Config.feTypeSat := (feType_run s events).trans hsat
  have hstored : (run s events).config.frontend.frequency =
      data.toNat / 100 + bandOffset (toneInForce s.tone front) := by
    have hfront : (run s front).config.feType = Config.feTypeSat :=
      (feType_run s front).trans hsat
    calc (run s events).config.frontend.frequency =
          (run (step (run s front) (.message t (dtvFrequency data))) back
            ).config.frontend.frequency := by
          rw [hevents, run_append]
          rfl
      _ = (step (run s front) (.message t (dtvFrequency data))).config.frontend.frequency :=
          frequency_run hback _
      _ = data.toNat / 100 + bandOffset (toneInForce s.tone front) := by
          rw [frequency_step_dtvFrequency hfront, tone_run]
  have htuned : (run s (events ++ [.message t' dtvTune])).config =
      Config.setChannelChanged (run s events).config := by
    rw [run_append]
    rfl
  have hsatTuned : (Config.setChannelChanged (run s events).config).feType = Config.feTypeSat :=
    hsatRun
  rw [htuned, Config.freqs_tuningText hsatTuned rfl]
  exact congrArg ([·]) hstored

/-- A request of a satellite tuner names the frequency in the band in force at the tune just when
that is the band in which the frequency arrived, whatever else came before, between and behind. -/
theorem band_in_force_iff (hsat : s.config.feType = Config.feTypeSat) (front : List Event)
    (t : Timespec) (data : UInt32) {back : List Event}
    (hback : ∀ event ∈ back, ¬event.SetsFrequency) (t' : Timespec) :
    Config.freqs (Config.tuningText (run s
        (front ++ .message t (dtvFrequency data) :: back ++ [.message t' dtvTune])).config) =
          [data.toNat / 100 + bandOffset
            (toneInForce s.tone (front ++ .message t (dtvFrequency data) :: back))] ↔
      (toneInForce s.tone front = secToneOn ↔
        toneInForce s.tone (front ++ .message t (dtvFrequency data) :: back) = secToneOn) := by
  rw [freqs_run hsat front t data hback t', List.singleton_inj, Nat.add_left_cancel_iff]
  unfold bandOffset
  by_cases hbefore : toneInForce s.tone front = secToneOn
  · rw [if_pos hbefore]
    split <;> simp_all
  · rw [if_neg hbefore]
    split <;> simp_all

/-- The high band is selected first, and the polarisation in between. -/
theorem band_in_force_iff_toneFirst :
    Config.freqs (Config.tuningText (run opened
        ([.message {} (.setTone secToneOn)] ++ .message {} (dtvFrequency 1294000) ::
          [.message {} (.setVoltage Config.secVoltage18)] ++ [.message {} dtvTune])).config) =
      [(1294000 : UInt32).toNat / 100 + bandOffset secToneOn] := by
  have hback : ∀ event ∈ [Event.message {} (.setVoltage Config.secVoltage18)],
      ¬event.SetsFrequency := by
    simp [Event.SetsFrequency]
  exact (band_in_force_iff (s := opened) rfl [.message {} (.setTone secToneOn)] {} 1294000
    hback {}).mpr (by decide)

/-- The tone is switched on when the frequency has arrived: the low band is requested. -/
theorem not_band_in_force :
    toneInForce opened.tone ([.message {} (.setProperty { cmd := .clear })] ++
        .message {} (dtvFrequency 1294000) :: [.message {} (.setTone secToneOn)]) = secToneOn ∧
      Config.freqs (Config.tuningText (run opened
        ([.message {} (.setProperty { cmd := .clear })] ++ .message {} (dtvFrequency 1294000) ::
          [.message {} (.setTone secToneOn)] ++ [.message {} dtvTune])).config) ≠
        [(1294000 : UInt32).toNat / 100 + bandOffset secToneOn] := by
  have hback : ∀ event ∈ [Event.message {} (.setTone secToneOn)], ¬event.SetsFrequency := by
    simp [Event.SetsFrequency]
  refine ⟨by decide, ?_⟩
  rw [freqs_run (s := opened) rfl [.message {} (.setProperty { cmd := .clear })] {} 1294000
    hback {}]
  decide

end SatipClient.Vtuner
