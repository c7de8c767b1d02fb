import SatipClient.Config.PidList
import SatipClient.Config.Tuning
import SatipClient.PSI.Parser

/-!
# The tuning and pid configuration

The state of `satipConfig` and its operations.  The PSI parser belongs to it: an operation of
the parser may report CA pids, and `adopt` passes each report to `setCaPids`, in order.  The
query strings of SETUP and PLAY are texts as the code writes them; what a request takes over
from the state is `takeTuning` and `commitPids`.
-/

namespace SatipClient.Config

open PSI (SatipPSI)

/-- `t_channel_status` -/
inductive ChannelStatus where
  | invalid
  | changed
  | stable
  deriving DecidableEq

/-- `t_pid_status` -/
inductive PidStatus where
  | stationary
  | changed
  deriving DecidableEq

/-- `SEC_VOLTAGE_13` -/
abbrev secVoltage13 : ℤ := 0

/-- `SEC_VOLTAGE_18` -/
abbrev secVoltage18 : ℤ := 1

/-- The fields of `satipConfig`. -/
structure SatipConfig where
  feType : ℤ
  settings : Settings
  pidList : List PidElem := List.replicate maxPids {}
  /-- pids currently requested from the server (kernel pids + ca pids) -/
  requestedPids : Finset ℕ := ∅
  psi : Option SatipPSI := none
  caPids : Finset ℕ := ∅
  caDirty : Bool := false
  signalSource : ℤ := 1
  pol : TypePol := .horizontal
  frontend : Frontend := {}
  status : ChannelStatus := .invalid
  pidStatus : PidStatus := .stationary
  tuneGeneration : ℕ := 0
  lnbOn : Bool := false

/-- `setCaPids` -/
def setCaPids (pids : Finset ℕ) (s : SatipConfig) : SatipConfig :=
  if pids ≠ s.caPids then { s with caPids := pids, caDirty := true } else s

/-- Pass reports of the parser on, in order. -/
def applyReports (reported : List (Finset ℕ)) (s : SatipConfig) : SatipConfig :=
  reported.foldl (fun s pids ↦ setCaPids pids s) s

/-- The reports that an operation of the parser made. -/
def newReports (old new : SatipPSI) : List (Finset ℕ) :=
  PSI.reports (new.trace.drop old.trace.length)

/-- The parser has moved on from `old` to `new`. -/
def adopt (old new : SatipPSI) (s : SatipConfig) : SatipConfig :=
  applyReports (newReports old new) { s with psi := some new }

/-- An operation of the parser, if there is one: `m_psi->processTS(..)` on the RTP thread. -/
def stepPsi (op : PSI.Op) (s : SatipConfig) : Option SatipConfig :=
  match s.psi with
  | none => some s
  | some psi => (PSI.step psi op).map fun next ↦ adopt psi next s

/-- `m_psi->reset()`, if there is a parser. -/
def resetPsi (s : SatipConfig) : SatipConfig :=
  match s.psi with
  | none => s
  | some psi => adopt psi (PSI.reset psi) s

/-- `notifyPidList` -/
def notifyPidList (s : SatipConfig) : SatipConfig :=
  match s.psi with
  | none => s
  | some psi => adopt psi (PSI.setJoinedPids (collectActivePids s.pidList) psi) s

/-- The part of `clearProperty` before the parser is reset. -/
def clearParams (s : SatipConfig) : SatipConfig :=
  { s with frontend := {}, pidList := clearPidList s.pidList, requestedPids := ∅ }

/-- `clearProperty`.  On a retune everything derived from the old transponder is void. -/
def clearProperty (s : SatipConfig) : SatipConfig := resetPsi (clearParams s)

/-- The constructor `satipConfig(fe_type, settings)`; the parser reports its initial pid set. -/
def construct (feType : ℤ) (settings : Settings) : SatipConfig :=
  let s := clearProperty { feType := feType, settings := settings }
  if settings.caPids then
    let psi := PSI.construct true settings.caEmm settings.caCaids
    applyReports (PSI.reports psi.trace) { s with psi := some psi }
  else s

/-- `updatePidStatus` -/
def updatePidStatus (s : SatipConfig) : SatipConfig :=
  { s with pidStatus := if hasPending s.pidList then .changed else .stationary }

/-- `updatePidList` -/
def updatePidList (new : List UInt16) (s : SatipConfig) : SatipConfig :=
  notifyPidList (updatePidStatus
    { s with pidList := updateSlots (new.map UInt16.toNat) s.pidList })

/-- `setVoltage` -/
def setVoltage (voltage : ℤ) (s : SatipConfig) : SatipConfig :=
  if voltage = secVoltage13 then { s with lnbOn := true, pol := .vertical }
  else if voltage = secVoltage18 then { s with lnbOn := true, pol := .horizontal }
  else { s with lnbOn := false, status := .invalid }

/-- `setChannelChanged` -/
def setChannelChanged (s : SatipConfig) : SatipConfig :=
  { s with tuneGeneration := s.tuneGeneration + 1, status := .changed }

/-- `setChannelRetry` -/
def setChannelRetry (s : SatipConfig) : SatipConfig := { s with status := .changed }

/-- `clearChannelChanged` -/
def clearChannelChanged (s : SatipConfig) : SatipConfig :=
  if s.status = .changed then { s with status := .stable } else s

/-- `getPidStatus` -/
def getPidStatus (s : SatipConfig) : PidStatus :=
  if s.pidStatus = .changed then .changed else if s.caDirty then .changed else .stationary

theorem getPidStatus_eq_stationary (s : SatipConfig) :
    getPidStatus s = .stationary ↔ s.pidStatus = .stationary ∧ s.caDirty = false := by
  unfold getPidStatus
  cases s.pidStatus <;> cases s.caDirty <;> simp

/-- A call of one of the setters of the frontend params. -/
inductive Param where
  | position (pos : ℤ)
  | frequency (freq : ℕ)
  | modsys (system : ℤ)
  | modtype (modulation : ℤ)
  | symrate (symrate : ℤ)
  | fec (fec : ℤ)
  | rolloff (rolloff : ℤ)
  | pilots (pilots : ℤ)
  | transmode (transmode : ℤ)
  | guardInterval (gi : ℤ)
  | bandwidth (bandwidth : ℤ)
  | plp (plpid : ℤ)
  | plsCode (plsCode : ℤ)

/-- `setPosition`, `setFrequency` and the other setters. -/
def setParam (param : Param) (s : SatipConfig) : SatipConfig :=
  match param with
  | .position pos => { s with signalSource := pos }
  | .frequency freq => { s with frontend := { s.frontend with frequency := freq } }
  | .modsys system => { s with frontend := { s.frontend with msys := system } }
  | .modtype modulation => { s with frontend := { s.frontend with mtype := modulation } }
  | .symrate symrate => { s with frontend := { s.frontend with symrate := symrate } }
  | .fec fec => { s with frontend := { s.frontend with fec := fec } }
  | .rolloff rolloff => { s with frontend := { s.frontend with rolloff := rolloff } }
  | .pilots pilots => { s with frontend := { s.frontend with pilot := pilots } }
  | .transmode transmode => { s with frontend := { s.frontend with transmode := transmode } }
  | .guardInterval gi => { s with frontend := { s.frontend with guardInterval := gi } }
  | .bandwidth bandwidth => { s with frontend := { s.frontend with bandwidth := bandwidth } }
  | .plp plpid => { s with frontend := { s.frontend with plpid := plpid } }
  | .plsCode plsCode => { s with frontend := { s.frontend with plsCode := plsCode } }

/-! ## Writing RTSP messages -/

/-- The pids a request asks for: `collectActivePids` and `addCaPids` into one set. -/
def wantedPids (s : SatipConfig) : Finset ℕ := collectActivePids s.pidList ∪ s.caPids

/-- `addCaPids`, `commitPidStates`, `m_requested_pids = pids` and `updatePidStatus`. -/
def commitPids (s : SatipConfig) : SatipConfig :=
  updatePidStatus
    { s with
      caDirty := false
      pidList := commitPidStates s.pidList
      requestedPids := wantedPids s }

/-- `getTuningData`, which a request contains while the channel status is CHANGED. -/
def tuningText (s : SatipConfig) : String :=
  if s.status = .changed then
    tuningData s.settings s.feType s.signalSource s.pol
      (forcePilot s.settings s.feType s.frontend)
  else ""

/-- What writing the tuning data changes. -/
def takeTuning (s : SatipConfig) : SatipConfig :=
  if s.status = .changed then
    { s with frontend := forcePilot s.settings s.feType s.frontend, status := .stable }
  else s

/-- The query string of a request, which starts with `?` unless it is empty. -/
def queryText (data : String) : String :=
  match data.toList with
  | [] => ""
  | '&' :: rest => String.ofList ('?' :: rest)
  | chars => String.ofList ('?' :: chars)

/-- A parameter that lists pids. -/
def pidsText (name : String) (pids : Finset ℕ) : String :=
  if pids = ∅ then "" else name ++ joinNumbers pids

/-- `getSetupData`.  SETUP sends the complete list, it defines what the server knows. -/
def getSetupData (s : SatipConfig) : String × SatipConfig :=
  (queryText (tuningText s ++
      if wantedPids s = ∅ then "&pids=none" else pidsText "&pids=" (wantedPids s)),
    commitPids (takeTuning s))

/-- The state in which `getPlayData` looks at the pids. -/
def startPlay (s : SatipConfig) : SatipConfig :=
  if s.status = .changed then { takeTuning s with requestedPids := ∅ } else s

/-- The pid parameters of a PLAY: the difference to what the server has. -/
def playPidsText (s : SatipConfig) : String :=
  pidsText "&addpids=" (wantedPids s \ s.requestedPids) ++
    pidsText "&delpids=" (s.requestedPids \ wantedPids s)

/-- `getPlayData` -/
def getPlayData (s : SatipConfig) : String × SatipConfig :=
  if getPidStatus (startPlay s) = .changed then
    (queryText (tuningText s ++ playPidsText (startPlay s)), commitPids (startPlay s))
  else (queryText (tuningText s), startPlay s)

theorem snd_getSetupData (s : SatipConfig) :
    (getSetupData s).2 = commitPids (takeTuning s) := rfl

theorem snd_getPlayData (s : SatipConfig) :
    (getPlayData s).2 =
      if getPidStatus (startPlay s) = .changed then commitPids (startPlay s) else startPlay s := by
  unfold getPlayData
  split <;> rfl

/-- Taking the tuning data leaves the pids alone. -/
theorem takeTuning_frame (s : SatipConfig) :
    takeTuning s =
      { s with frontend := (takeTuning s).frontend, status := (takeTuning s).status } := by
  unfold takeTuning
  split <;> rfl

@[simp]
theorem pidList_takeTuning (s : SatipConfig) : (takeTuning s).pidList = s.pidList := by
  rw [takeTuning_frame]

theorem startPlay_of_changed {s : SatipConfig} (h : s.status = .changed) :
    startPlay s = { takeTuning s with requestedPids := ∅ } := if_pos h

theorem startPlay_of_ne {s : SatipConfig} (h : s.status ≠ .changed) : startPlay s = s := if_neg h

@[simp]
theorem pidList_startPlay (s : SatipConfig) : (startPlay s).pidList = s.pidList := by
  by_cases h : s.status = .changed
  · rw [startPlay_of_changed h]
    exact pidList_takeTuning s
  · rw [startPlay_of_ne h]

@[simp]
theorem getPidStatus_startPlay (s : SatipConfig) :
    getPidStatus (startPlay s) = getPidStatus s := by
  by_cases h : s.status = .changed
  · rw [startPlay_of_changed h, takeTuning_frame]
    rfl
  · rw [startPlay_of_ne h]

@[simp]
theorem pidList_commitPids (s : SatipConfig) :
    (commitPids s).pidList = commitPidStates s.pidList := rfl

/-! ## Runs -/

/-- The operations. -/
inductive Op where
  | updatePidList (new : List UInt16)
  | setCaPids (pids : Finset ℕ)
  | psi (op : PSI.Op)
  | clearProperty
  | setVoltage (voltage : ℤ)
  | setParam (param : Param)
  | setChannelChanged
  | setChannelRetry
  | clearChannelChanged
  | getSetupData
  | getPlayData

/-- Perform one operation. -/
def step (s : SatipConfig) : Op → Option SatipConfig
  | .updatePidList new => some (updatePidList new s)
  | .setCaPids pids => some (setCaPids pids s)
  | .psi op => stepPsi op s
  | .clearProperty => some (clearProperty s)
  | .setVoltage voltage => some (setVoltage voltage s)
  | .setParam param => some (setParam param s)
  | .setChannelChanged => some (setChannelChanged s)
  | .setChannelRetry => some (setChannelRetry s)
  | .clearChannelChanged => some (clearChannelChanged s)
  | .getSetupData => some (getSetupData s).2
  | .getPlayData => some (getPlayData s).2

/-- The states reached by any sequence of operations of a configuration built with any
arguments. -/
def Reachable (s : SatipConfig) : Prop :=
  ∃ feType settings, Runs.Reachable step (construct feType settings) s

end SatipClient.Config
