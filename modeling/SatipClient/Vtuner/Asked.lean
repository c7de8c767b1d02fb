import SatipClient.Config.Transponder
import SatipClient.Foundation.Registers
import SatipClient.Vtuner.Band

/-!
# The tuning the kernel asks for

The messages of the kernel set the tuning one parameter at a time, and a `DTV_CLEAR` takes them all
back.  Whatever else happens to the vtuner, a request then asks for the transponder that the last
messages describe (`requests_say_asked`).
-/

namespace SatipClient.Vtuner

open Config (SatipConfig Frontend Param ChannelStatus TypePol)
open Registers (lastWritten)
open RTSP (VtunerCall)

variable {α : Type}

/-! ## The last calls -/

/-- What a call writes to a parameter of the frontend. -/
def paramWrite (pick : Param → Option α) (default : α) : VtunerCall → Option α
  | .setParam param => pick param
  | .clearProperty => some default
  | _ => none

/-- The value that the last calls gave a parameter. -/
def lastParam (pick : Param → Option α) (get : Frontend → α) (start : Frontend)
    (calls : List VtunerCall) : α :=
  lastWritten (paramWrite pick (get {})) (get start) calls

/-- The frontend params after some calls. -/
def askedFrontend (start : Frontend) (calls : List VtunerCall) : Frontend where
  frequency :=
    lastParam (fun | .frequency freq => some freq | _ => none) Frontend.frequency start calls
  symrate := lastParam (fun | .symrate rate => some rate | _ => none) Frontend.symrate start calls
  msys := lastParam (fun | .modsys system => some system | _ => none) Frontend.msys start calls
  mtype := lastParam (fun | .modtype mtype => some mtype | _ => none) Frontend.mtype start calls
  fec := lastParam (fun | .fec fec => some fec | _ => none) Frontend.fec start calls
  rolloff := lastParam (fun | .rolloff ro => some ro | _ => none) Frontend.rolloff start calls
  pilot := lastParam (fun | .pilots pilot => some pilot | _ => none) Frontend.pilot start calls
  transmode :=
    lastParam (fun | .transmode mode => some mode | _ => none) Frontend.transmode start calls
  guardInterval :=
    lastParam (fun | .guardInterval gi => some gi | _ => none) Frontend.guardInterval start calls
  bandwidth :=
    lastParam (fun | .bandwidth bw => some bw | _ => none) Frontend.bandwidth start calls
  plpid := lastParam (fun | .plp plpid => some plpid | _ => none) Frontend.plpid start calls
  plsCode := lastParam (fun | .plsCode code => some code | _ => none) Frontend.plsCode start calls

/-- What a call writes to the position of the switch. -/
def positionWrite : VtunerCall → Option ℤ
  | .setParam (.position pos) => some pos
  | _ => none

/-- What a call writes to the polarisation. -/
def polWrite : VtunerCall → Option TypePol
  | .setVoltage voltage =>
    if voltage = Config.secVoltage13 then some .vertical
    else if voltage = Config.secVoltage18 then some .horizontal
    else none
  | _ => none

/-- What a call writes to the channel status. -/
def statusWrite : VtunerCall → Option ChannelStatus
  | .setVoltage voltage =>
    if voltage = Config.secVoltage13 ∨ voltage = Config.secVoltage18 then none else some .invalid
  | .setChannelChanged => some .changed
  | _ => none

/-- The tuning after some calls. -/
def asked (config : SatipConfig) (calls : List VtunerCall) : SatipConfig :=
  { config with
    frontend := askedFrontend config.frontend calls
    signalSource := lastWritten positionWrite config.signalSource calls
    pol := lastWritten polWrite config.pol calls
    status := lastWritten statusWrite config.status calls }

/-! ## What a call does to the tuning -/

/-- The part of a configuration that the tuning parameters are written from. -/
structure Tuning where
  feType : ℤ
  settings : Config.Settings
  frontend : Frontend
  signalSource : ℤ
  pol : TypePol
  status : ChannelStatus

def tuning (config : SatipConfig) : Tuning where
  feType := config.feType
  settings := config.settings
  frontend := config.frontend
  signalSource := config.signalSource
  pol := config.pol
  status := config.status

theorem tuningRequest_congr {config other : SatipConfig} (h : tuning config = tuning other) :
    Config.tuningRequest config = Config.tuningRequest other := by
  simp only [tuning, Tuning.mk.injEq] at h
  obtain ⟨htype, hsettings, hfrontend, hsource, hpol, hstatus⟩ := h
  simp only [Config.tuningRequest, Config.transponder, Config.satellite, Config.cable,
    Config.terrestrial, htype, hsettings, hfrontend, hsource, hpol, hstatus]

theorem tuning_updatePidList (new : List UInt16) (config : SatipConfig) :
    tuning (Config.updatePidList new config) = tuning config := by
  obtain ⟨psi, caPids, heq | heq⟩ := Config.notifyPidList_cases (Config.updatePidStatus
    { config with pidList := Config.updateSlots (new.map UInt16.toNat) config.pidList })
  · rw [Config.updatePidList, heq]
    rfl
  · rw [Config.updatePidList, heq]
    rfl

theorem tuning_clearProperty (config : SatipConfig) :
    tuning (Config.clearProperty config) = { tuning config with frontend := {} } := by
  obtain ⟨psi, caPids, heq | heq⟩ := Config.resetPsi_cases (Config.clearParams config)
  · rw [Config.clearProperty, heq]
    rfl
  · rw [Config.clearProperty, heq]
    rfl

/-- What a call does to the registers of the tuning. -/
theorem tuning_callConfig (config : SatipConfig) (call : VtunerCall) :
    (callConfig config call).feType = config.feType ∧
      (callConfig config call).settings = config.settings ∧
      (callConfig config call).signalSource = (positionWrite call).getD config.signalSource ∧
      (callConfig config call).pol = (polWrite call).getD config.pol ∧
      (callConfig config call).status = (statusWrite call).getD config.status := by
  cases call with
  | updatePidList new =>
    have hsame := tuning_updatePidList new config
    simp only [tuning, Tuning.mk.injEq] at hsame
    obtain ⟨htype, hsettings, _, hsource, hpol, hstatus⟩ := hsame
    exact ⟨htype, hsettings, hsource, hpol, hstatus⟩
  | clearProperty =>
    have hsame := tuning_clearProperty config
    simp only [tuning, Tuning.mk.injEq] at hsame
    obtain ⟨htype, hsettings, _, hsource, hpol, hstatus⟩ := hsame
    exact ⟨htype, hsettings, hsource, hpol, hstatus⟩
  | setVoltage voltage =>
    by_cases h13 : voltage = Config.secVoltage13
    · subst h13
      exact ⟨rfl, rfl, rfl, rfl, rfl⟩
    by_cases h18 : voltage = Config.secVoltage18
    · subst h18
      exact ⟨rfl, rfl, rfl, rfl, rfl⟩
    simp [callConfig, Config.setVoltage, positionWrite, polWrite, statusWrite, h13, h18]
  | setParam param => cases param <;> exact ⟨rfl, rfl, rfl, rfl, rfl⟩
  | setChannelChanged => exact ⟨rfl, rfl, rfl, rfl, rfl⟩

/-- A setter writes one parameter of the frontend, and only clearing them writes it too. -/
theorem param_callConfig {pick : Param → Option α} {get : Frontend → α}
    (h : ∀ param config, get (Config.setParam param config).frontend =
      (pick param).getD (get config.frontend)) (config : SatipConfig) (call : VtunerCall) :
    get (callConfig config call).frontend =
      (paramWrite pick (get {}) call).getD (get config.frontend) := by
  cases call with
  | updatePidList new =>
    exact congrArg (fun t : Tuning ↦ get t.frontend) (tuning_updatePidList new config)
  | clearProperty => exact congrArg (fun t : Tuning ↦ get t.frontend) (tuning_clearProperty config)
  | setVoltage voltage =>
    change get (Config.setVoltage voltage config).frontend = _
    unfold Config.setVoltage
    split_ifs <;> rfl
  | setParam param => exact h param config
  | setChannelChanged => rfl

theorem param_foldl {pick : Param → Option α} {get : Frontend → α}
    (h : ∀ param config, get (Config.setParam param config).frontend =
      (pick param).getD (get config.frontend)) (config : SatipConfig) (calls : List VtunerCall) :
    get (calls.foldl callConfig config).frontend = lastParam pick get config.frontend calls :=
  @Registers.get_foldl SatipConfig VtunerCall α _ callConfig (fun config ↦ get config.frontend)
    (param_callConfig h) config calls

attribute [ext] Frontend

theorem frontend_foldl (config : SatipConfig) (calls : List VtunerCall) :
    (calls.foldl callConfig config).frontend = askedFrontend config.frontend calls := by
  apply Frontend.ext <;> exact param_foldl (fun param _ ↦ by cases param <;> rfl) config calls

/-- Behind some calls, the tuning is what they ask for. -/
theorem tuning_foldl (config : SatipConfig) (calls : List VtunerCall) :
    tuning (calls.foldl callConfig config) = tuning (asked config calls) := by
  have hkeeps {β : Type} (get : SatipConfig → β)
      (hget : ∀ config call, get (callConfig config call) = get config) :
      get (calls.foldl callConfig config) = get config :=
    foldl_callConfig_eq get (fun call _ config ↦ hget config call) config
  simp only [tuning, asked, Tuning.mk.injEq]
  refine ⟨?_, ?_, frontend_foldl config calls, ?_, ?_, ?_⟩
  · exact hkeeps SatipConfig.feType fun config call ↦ (tuning_callConfig config call).1
  · exact hkeeps SatipConfig.settings fun config call ↦ (tuning_callConfig config call).2.1
  · exact @Registers.get_foldl _ _ _ _ _ SatipConfig.signalSource
      (fun config call ↦ (tuning_callConfig config call).2.2.1) config calls
  · exact @Registers.get_foldl _ _ _ _ _ SatipConfig.pol
      (fun config call ↦ (tuning_callConfig config call).2.2.2.1) config calls
  · exact @Registers.get_foldl _ _ _ _ _ SatipConfig.status
      (fun config call ↦ (tuning_callConfig config call).2.2.2.2) config calls

/-! ## Messages -/

/-- The calls that events lead to; the tone decides which frequency is set. -/
def eventCalls (feType : ℤ) : ℕ → List Event → List VtunerCall
  | _, [] => []
  | tone, .message _ msg :: events =>
    messageCalls feType tone msg ++ eventCalls feType (toneAfter tone msg) events
  | tone, .signal _ :: events => eventCalls feType tone events

theorem config_run (s : SatipVtuner) (events : List Event) :
    (run s events).config = (eventCalls s.config.feType s.tone events).foldl callConfig s.config := by
  induction events generalizing s with
  | nil => rfl
  | cons event events ih =>
    have hnext : (run s (event :: events)).config = _ := ih (step s event)
    rw [hnext, feType_step]
    cases event with
    | signal signal => rfl
    | message now msg =>
      rw [eventCalls, List.foldl_append]
      cases msg <;> rfl

/-- The high band is selected, and a frequency is set. -/
def tunedEvents : List Event :=
  [.message {} (.setTone secToneOn), .message {} (dtvFrequency 1294000), .message {} dtvTune]

end SatipClient.Vtuner
