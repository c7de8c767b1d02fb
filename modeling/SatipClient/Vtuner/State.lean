import SatipClient.RTP.State
import SatipClient.RTSP.Session

/-!
# The messages of the vtuner device

`vtunerEvent` of `satipVtuner` with what is under it.  A message of the kernel changes the
configuration through calls of its setters (`VtunerCall`), is answered from the signal values of
the receiver, or both.  The tone, the tune counter and the lock timeout are kept by `satipVtuner`
itself; the latter two have whatever values the memory had before the first
`MSG_GET_TUNE_SETTINGS`.  Times are read when the message is handled.
-/

namespace SatipClient.Vtuner

open Config (SatipConfig Param)
open RTP (Signal toU16)
open RTSP (VtunerCall)

/-- `SEC_TONE_ON` -/
abbrev secToneOn : ℕ := 0

/-- `SEC_TONE_OFF` -/
abbrev secToneOff : ℕ := 1

/-- `SEC_MINI_A` -/
abbrev secMiniA : ℕ := 0

/-- `SEC_MINI_B` -/
abbrev secMiniB : ℕ := 1

/-- `FEC_9_10` -/
abbrev fec910 : ℕ := 11

/-- `FEC_AUTO` -/
abbrev fecAuto : ℤ := 9

/-- `FE_HAS_SIGNAL` -/
abbrev feHasSignal : BitVec 32 := 0x01

/-- `FE_HAS_LOCK` -/
abbrev feHasLock : BitVec 32 := 0x10

/-- `FE_TIMEDOUT` -/
abbrev feTimedout : BitVec 32 := 0x20

/-- The commands of `struct dtv_property`. -/
inductive DtvCmd where
  | frequency
  | deliverySystem
  | modulation
  | symbolRate
  | innerFec
  | rolloff
  | pilot
  | tune
  | clear
  | codeRateLp
  | codeRateHp
  | transmissionMode
  | guardInterval
  | hierarchy
  | bandwidthHz
  | streamId
  | inversion
  | scramblingSequenceIndex
  | other
  deriving DecidableEq

/-- `struct dtv_property` -/
structure DtvProperty where
  cmd : DtvCmd
  data : UInt32 := 0
  deriving DecidableEq

/-- `struct dvb_diseqc_master_cmd` -/
structure DiseqcMasterCmd where
  msg : Vector UInt8 6
  msgLen : UInt8
  deriving DecidableEq

/-- `struct vtuner_message`: its type, with the part of its body that belongs to the type. -/
inductive Message where
  | setFrontend
  | getFrontend
  | readStatus
  | readBer
  | readSignalStrength
  | readSnr
  | readUcblocks
  | setTone (tone : ℕ)
  | setVoltage (voltage : ℤ)
  | sendDiseqcMsg (cmd : DiseqcMasterCmd)
  | sendDiseqcBurst (burst : ℕ)
  | pidlist (pids : List UInt16)
  | setProperty (prop : DtvProperty)
  | getProperty
  | getTuneSettings
  | unknown

/-- The body of a response. -/
inductive Response where
  /-- the body of the message -/
  | unchanged
  | status (status : BitVec 32)
  | ber (ber : ℕ)
  | ss (ss : ℕ)
  /-- `none` is the result of a signed overflow -/
  | snr (snr : Option ℕ)
  | ucb (ucb : ℕ)
  | tuneSettings (minDelayMs stepSize maxDrift : ℕ)
  deriving DecidableEq

/-- The fields of `satipVtuner`, with the configuration and the receiver it knows. -/
structure SatipVtuner where
  tone : ℕ := secToneOff
  tuneTries : BitVec 32
  timeout : Timespec
  config : SatipConfig
  /-- the signal values of `m_satip_rtp`, if it is set -/
  rtp : Option Signal := none

/-- The value of an `unsigned int` as an `int`. -/
def toInt (data : UInt32) : ℤ := CString.longToInt data.toNat

/-- `freq` as `setProperty` computes it: in tenths of a megahertz. -/
def tunedFrequency (feType : ℤ) (tone : ℕ) (data : UInt32) : ℕ :=
  if feType = Config.feTypeSat then
    data.toNat / 100 + if tone = secToneOn then 106000 else 97500
  else data.toNat / 100000

/-- `setProperty`: the call that it makes. -/
def setProperty (feType : ℤ) (tone : ℕ) (prop : DtvProperty) : Option VtunerCall :=
  match prop.cmd with
  | .frequency => some (.setParam (.frequency (tunedFrequency feType tone prop.data)))
  | .deliverySystem => some (.setParam (.modsys (toInt prop.data)))
  | .modulation => some (.setParam (.modtype (toInt prop.data)))
  | .symbolRate => some (.setParam (.symrate (prop.data.toNat / 1000)))
  | .innerFec =>
    if prop.data.toNat &&& 31 ≤ fec910 then
      some (.setParam (.fec ↑(prop.data.toNat &&& 31)))
    else none
  | .rolloff => some (.setParam (.rolloff (toInt prop.data)))
  | .pilot => some (.setParam (.pilots (toInt prop.data)))
  | .tune => some .setChannelChanged
  | .clear => some .clearProperty
  | .codeRateLp | .codeRateHp => some (.setParam (.fec fecAuto))
  | .transmissionMode => some (.setParam (.transmode (toInt prop.data)))
  | .guardInterval => some (.setParam (.guardInterval (toInt prop.data)))
  | .bandwidthHz => some (.setParam (.bandwidth (toInt prop.data)))
  | .streamId => some (.setParam (.plp (toInt prop.data)))
  | .scramblingSequenceIndex => some (.setParam (.plsCode (toInt prop.data)))
  | .hierarchy | .inversion | .other => none

/-- The message to a committed switch. -/
def DiseqcMasterCmd.Committed (cmd : DiseqcMasterCmd) : Prop :=
  cmd.msg[0] = 0xe0 ∧ cmd.msg[1] = 0x10 ∧ cmd.msg[2] = 0x38 ∧ cmd.msgLen = 4

/-- The message to an uncommitted switch. -/
def DiseqcMasterCmd.Uncommitted (cmd : DiseqcMasterCmd) : Prop :=
  cmd.msg[0] = 0xe0 ∧ cmd.msg[1] = 0x10 ∧ cmd.msg[2] = 0x39 ∧ cmd.msgLen = 4

instance (cmd : DiseqcMasterCmd) : Decidable cmd.Committed :=
  inferInstanceAs (Decidable (_ ∧ _ ∧ _ ∧ _))

instance (cmd : DiseqcMasterCmd) : Decidable cmd.Uncommitted :=
  inferInstanceAs (Decidable (_ ∧ _ ∧ _ ∧ _))

/-- The tone behind `setDiseqc`. -/
def diseqcTone (cmd : DiseqcMasterCmd) (tone : ℕ) : ℕ :=
  if cmd.Committed then
    if cmd.msg[3] &&& 0x01 = 0x01 then secToneOn
    else if cmd.msg[3] &&& 0x11 = 0x10 then secToneOff
    else tone
  else tone

/-- The calls that `setDiseqc` makes. -/
def diseqcCalls (cmd : DiseqcMasterCmd) : List VtunerCall :=
  if cmd.Committed then
    (if cmd.msg[3] &&& 0x02 = 0x02 then [.setVoltage Config.secVoltage18]
      else if cmd.msg[3] &&& 0x22 = 0x20 then [.setVoltage Config.secVoltage13]
      else []) ++
    [.setParam (.position ↑(((cmd.msg[3].toNat &&& 0x0c) >>> 2) + 1))]
  else if cmd.Uncommitted then
    [.setParam (.position ↑((cmd.msg[3].toNat &&& 0x0f) + 1))]
  else []

/-- The call for a burst. -/
def burstCalls (burst : ℕ) : List VtunerCall :=
  if burst = secMiniA then [.setParam (.position 1)]
  else if burst = secMiniB then [.setParam (.position 2)]
  else []

/-- The tone behind a message. -/
def toneAfter (tone : ℕ) : Message → ℕ
  | .setTone tone => tone
  | .sendDiseqcMsg cmd => diseqcTone cmd tone
  | _ => tone

/-- The calls of the configuration that a message leads to. -/
def messageCalls (feType : ℤ) (tone : ℕ) : Message → List VtunerCall
  | .setVoltage voltage => [.setVoltage voltage]
  | .sendDiseqcMsg cmd => diseqcCalls cmd
  | .sendDiseqcBurst burst => burstCalls burst
  | .pidlist pids => [.updatePidList pids]
  | .setProperty prop => (setProperty feType tone prop).toList
  | _ => []

/-- The call itself. -/
def callConfig (config : SatipConfig) : VtunerCall → SatipConfig
  | .updatePidList new => Config.updatePidList new config
  | .clearProperty => Config.clearProperty config
  | .setVoltage voltage => Config.setVoltage voltage config
  | .setParam param => Config.setParam param config
  | .setChannelChanged => Config.setChannelChanged config

/-! ## Times -/

/-- `operator-` -/
def subTime (t1 t2 : Timespec) : Timespec :=
  if t1.nsec - t2.nsec < 0 then
    { sec := t1.sec - t2.sec - 1, nsec := t1.nsec - t2.nsec + 1000000000 }
  else { sec := t1.sec - t2.sec, nsec := t1.nsec - t2.nsec }

/-- `operator+=` -/
def addMsec (t : Timespec) (msek : ℤ) : Timespec :=
  if 1000000000 ≤ t.nsec + msek.tmod 1000 * 1000000 then
    { sec := t.sec + msek.tdiv 1000 + 1
      nsec := t.nsec + msek.tmod 1000 * 1000000 - 1000000000 }
  else { sec := t.sec + msek.tdiv 1000, nsec := t.nsec + msek.tmod 1000 * 1000000 }

/-- `timeout_msec` -/
def timeoutMsec (orig now : Timespec) : ℤ :=
  (subTime orig now).sec * 1000 + (subTime orig now).nsec.tdiv 1000000

/-! ## Handling a message -/

/-- The status that is reported for `MSG_READ_STATUS`. -/
def readStatus (now : Timespec) (s : SatipVtuner) : BitVec 32 :=
  if s.rtp.any Signal.hasLock then feHasLock
  else
    (if timeoutMsec s.timeout now < 0 then feTimedout else 0) |||
      if s.tuneTries &&& 4 ≠ 0 then feHasSignal else 0

/-- The response to a message; there is none to a pid list. -/
def respond (now : Timespec) (s : SatipVtuner) : Message → Option Response
  | .pidlist _ => none
  | .readStatus => some (.status (readStatus now s))
  | .readBer => some (.ber 0)
  | .readSignalStrength =>
    some (s.rtp.elim .unchanged fun signal ↦ .ss (toU16 signal.signalStrength))
  | .readSnr => some (s.rtp.elim .unchanged fun signal ↦ .snr (RTP.readSnr signal))
  | .readUcblocks => some (.ucb 0)
  | .getTuneSettings => some (.tuneSettings 50 0 0)
  | _ => some .unchanged

/-- `vtunerEvent`, where properties come with `MSG_SET_PROPERTY`. -/
def vtunerEvent (now : Timespec) (msg : Message) (s : SatipVtuner) :
    Option Response × SatipVtuner :=
  let next :=
    { s with
      tone := toneAfter s.tone msg
      config := (messageCalls s.config.feType s.tone msg).foldl callConfig s.config }
  (respond now s msg,
    match msg with
    | .setFrontend => { next with tuneTries := s.tuneTries + 1 }
    | .getTuneSettings =>
      { next with tuneTries := 0, timeout := addMsec now 3000, rtp := s.rtp.map fun _ ↦ RTP.unset }
    | _ => next)

/-- What happens to the vtuner: a message is handled, or the receiver has other signal values. -/
inductive Event where
  | message (now : Timespec) (msg : Message)
  | signal (signal : Signal)

/-- Handle an event. -/
def step (s : SatipVtuner) : Event → SatipVtuner
  | .message now msg => (vtunerEvent now msg s).2
  | .signal signal => { s with rtp := s.rtp.map fun _ ↦ signal }

/-- Handle events one after the other. -/
def run (s : SatipVtuner) (events : List Event) : SatipVtuner := events.foldl step s

/-- A vtuner of a satellite tuner that was just opened. -/
def opened : SatipVtuner where
  tuneTries := 0
  timeout := {}
  config := Config.construct Config.feTypeSat {}
  rtp := some {}

/-- The calls are operations of the configuration. -/
theorem step_op (config : SatipConfig) (call : VtunerCall) :
    Config.step config call.op = some (callConfig config call) := by
  cases call <;> rfl

theorem run_append (s : SatipVtuner) (front back : List Event) :
    run s (front ++ back) = run (run s front) back := List.foldl_append

end SatipClient.Vtuner
