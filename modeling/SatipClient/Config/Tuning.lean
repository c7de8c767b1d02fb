import Mathlib.Algebra.Group.Int.Defs
import Mathlib.Algebra.Group.Nat.Defs
import Mathlib.Data.Finset.Sort

/-!
# Tuning parameters

The frontend parameters of `satipConfig` and the query string that `getTuningData` makes of
them.  The numbers are those of the kernel's DVB frontend interface.  A `switch` over one of
them that only chooses a text is a list of cases with the text of its `default`.
-/

namespace SatipClient.Config

/-- `FE_TYPE_SAT` -/
abbrev feTypeSat : ℤ := 0

/-- `FE_TYPE_CABLE` -/
abbrev feTypeCable : ℤ := 1

/-- `SYS_UNDEFINED` -/
abbrev sysUndefined : ℤ := 0

/-- `SYS_DVBT` -/
abbrev sysDvbt : ℤ := 3

/-- `SYS_DVBS` -/
abbrev sysDvbs : ℤ := 5

/-- `SYS_DVBS2` -/
abbrev sysDvbs2 : ℤ := 6

/-- `SYS_DVBT2` -/
abbrev sysDvbt2 : ℤ := 16

/-- `PILOT_ON` -/
abbrev pilotOn : ℤ := 0

/-- `PILOT_OFF` -/
abbrev pilotOff : ℤ := 1

/-- `PILOT_AUTO` -/
abbrev pilotAuto : ℤ := 2

/-- `t_type_pol` -/
inductive TypePol where
  | horizontal
  | vertical
  deriving DecidableEq

/-- The `vtunerOpt` fields that `satipConfig` reads. -/
structure Settings where
  feNumber : ℤ := 0
  tcpdata : Bool := false
  forcePlts : Bool := false
  caPids : Bool := false
  caEmm : Bool := true
  caCaids : Finset ℕ := ∅

/-- The frontend params, with the values that `clearProperty` gives them. -/
structure Frontend where
  frequency : ℕ := 0
  symrate : ℤ := 0
  /-- `SYS_UNDEFINED`, use the default -/
  msys : ℤ := sysUndefined
  /-- `QPSK` -/
  mtype : ℤ := 0
  /-- `FEC_AUTO` -/
  fec : ℤ := 9
  /-- `ROLLOFF_AUTO` -/
  rolloff : ℤ := 3
  pilot : ℤ := pilotAuto
  /-- `TRANSMISSION_MODE_AUTO` -/
  transmode : ℤ := 2
  /-- `GUARD_INTERVAL_AUTO` -/
  guardInterval : ℤ := 4
  /-- automatic -/
  bandwidth : ℤ := 0
  plpid : ℤ := 0
  plsCode : ℤ := 0

/-- The text a `switch` chooses. -/
def switchText (value : ℤ) (cases : List (ℤ × String)) (default : String) : String :=
  (cases.lookup value).getD default

/-- `joinNumbers`, in decimal -/
def joinNumbers (values : Finset ℕ) : String :=
  String.intercalate "," ((values.sort (· ≤ ·)).map toString)

/-- One step of the register in `pls_root2gold`. -/
def rootStep (x : ℕ) : ℕ := (((x ^^^ (x >>> 7)) &&& 1) <<< 17) ||| (x >>> 1)

/-- The loop of `pls_root2gold` with `left` rounds to go. -/
def rootToGoldFrom (root x g : ℕ) : ℕ → ℕ
  | 0 => 0x3ffff
  | left + 1 => if root = x then g else rootToGoldFrom root (rootStep x) (g + 1) left

/-- `pls_root2gold` -/
def plsRoot2gold (root : ℕ) : ℕ := rootToGoldFrom root 1 0 0x3ffff

/-- The frequency, in tenths of a megahertz. -/
def frequencyText (frequency : ℕ) : String :=
  if frequency % 10 ≠ 0 then
    "&freq=" ++ toString (frequency / 10) ++ "." ++ toString (frequency % 10)
  else "&freq=" ++ toString (frequency / 10)

/-- The `fec` texts of a satellite frontend. -/
def satFecCases : List (ℤ × String) :=
  [(1, "&fec=12"), (2, "&fec=23"), (3, "&fec=34"), (5, "&fec=56"), (7, "&fec=78"), (8, "&fec=89"),
    (10, "&fec=35"), (4, "&fec=45"), (11, "&fec=910")]

/-- The `mtype` texts of a cable frontend. -/
def cableModulationCases : List (ℤ × String) :=
  [(1, "&mtype=16qam"), (2, "&mtype=32qam"), (3, "&mtype=64qam"), (4, "&mtype=128qam"),
    (5, "&mtype=256qam")]

/-- The `bw` texts of a terrestrial frontend. -/
def bandwidthCases : List (ℤ × String) :=
  [(5000000, "&bw=5"), (6000000, "&bw=6"), (7000000, "&bw=7"), (8000000, "&bw=8"),
    (10000000, "&bw=10"), (1712000, "&bw=1.712")]

/-- The `tmode` texts of a terrestrial frontend. -/
def transmodeCases : List (ℤ × String) :=
  [(0, "&tmode=2k"), (1, "&tmode=8k"), (3, "&tmode=4k"), (4, "&tmode=1k"), (5, "&tmode=16k"),
    (6, "&tmode=32k")]

/-- The `mtype` texts of a terrestrial frontend. -/
def terrestrialModulationCases : List (ℤ × String) :=
  [(0, "&mtype=qpsk"), (1, "&mtype=16qam"), (3, "&mtype=64qam"), (5, "&mtype=256qam")]

/-- The `gi` texts of a terrestrial frontend. -/
def guardIntervalCases : List (ℤ × String) :=
  [(3, "&gi=14"), (2, "&gi=18"), (1, "&gi=116"), (0, "&gi=132"), (5, "&gi=1128"), (6, "&gi=19128"),
    (7, "&gi=19256")]

/-- The `fec` texts of a terrestrial frontend. -/
def terrestrialFecCases : List (ℤ × String) :=
  [(1, "&fec=12"), (10, "&fec=35"), (2, "&fec=23"), (3, "&fec=34"), (4, "&fec=45"), (5, "&fec=56"),
    (7, "&fec=78")]

/-- The value of an `int` as an `unsigned int`. -/
def toUnsigned (value : ℤ) : ℕ := (value % 2 ^ 32).toNat

/-- `NO_STREAM_ID_FILTER` -/
abbrev noStreamIdFilter : ℕ := 2 ^ 32 - 1

/-- The input stream identifier and the pls code of a DVB-S2 transponder.  In the old format one
number holds the mode, the code and the stream; a root code is converted. -/
def streamText (plpid plsCode : ℤ) : String :=
  let hasStream := 0 < plpid ∧ toUnsigned plpid ≠ noStreamIdFilter
  let isi := if hasStream then "&isi=" ++ toString (plpid.toNat &&& 0xff) else ""
  let code :=
    if hasStream ∧ 255 < plpid then
      let mode := (plpid.toNat >>> 26) &&& 3
      let packed := (plpid.toNat >>> 8) &&& 0x3ffff
      if mode = 0 then plsRoot2gold packed else packed
    else toUnsigned plsCode
  isi ++ if 0 < code then "&plsc=" ++ toString code else ""

/-- The branch of `getTuningData` for `FE_TYPE_SAT`, after the pilots were set. -/
def satTuningData (signalSource : ℤ) (pol : TypePol) (fe : Frontend) : String :=
  "&src=" ++ toString signalSource ++ frequencyText fe.frequency ++
    (match pol with
      | .horizontal => "&pol=h"
      | .vertical => "&pol=v") ++
    switchText fe.msys [(sysDvbs, "&msys=dvbs"), (sysDvbs2, "&msys=dvbs2")] "&msys=dvbs" ++
    "&sr=" ++ toString fe.symrate ++ switchText fe.fec satFecCases "" ++
    switchText fe.rolloff [(0, "&ro=0.35"), (1, "&ro=0.20"), (2, "&ro=0.25")] "&ro=0.35" ++
    switchText fe.mtype [(0, "&mtype=qpsk"), (9, "&mtype=8psk")] "&mtype=qpsk" ++
    switchText fe.pilot [(pilotOn, "&plts=on"), (pilotOff, "&plts=off")] "" ++
    if fe.msys = sysDvbs2 then streamText fe.plpid fe.plsCode else ""

/-- The branch for `FE_TYPE_CABLE`. -/
def cableTuningData (fe : Frontend) : String :=
  frequencyText fe.frequency ++ "&msys=dvbc" ++ switchText fe.mtype cableModulationCases "" ++
    "&sr=" ++ toString fe.symrate

/-- The branch for `FE_TYPE_TERRESTRIAL`. -/
def terrestrialTuningData (fe : Frontend) : String :=
  frequencyText fe.frequency ++ switchText fe.bandwidth bandwidthCases "" ++
    switchText fe.msys [(sysDvbt, "&msys=dvbt"), (sysDvbt2, "&msys=dvbt2")] "&msys=dvbt" ++
    switchText fe.transmode transmodeCases "" ++
    switchText fe.mtype terrestrialModulationCases "" ++
    switchText fe.guardInterval guardIntervalCases "" ++
    switchText fe.fec terrestrialFecCases "" ++
    if fe.msys = sysDvbt2 ∧ toUnsigned fe.plpid ≠ noStreamIdFilter then
      "&plp=" ++ toString fe.plpid
    else ""

/-- The pilots that `getTuningData` sets: they are forced on, or off. -/
def forcePilot (settings : Settings) (feType : ℤ) (fe : Frontend) : Frontend :=
  if feType = feTypeSat then
    { fe with pilot := if settings.forcePlts then pilotOn else pilotOff }
  else fe

/-- `getTuningData`, given the parameters after `forcePilot`. -/
def tuningData (settings : Settings) (feType signalSource : ℤ) (pol : TypePol) (fe : Frontend) :
    String :=
  (if 0 < settings.feNumber then "&fe=" ++ toString settings.feNumber else "") ++
    if feType = feTypeSat then satTuningData signalSource pol fe
    else if feType = feTypeCable then cableTuningData fe
    else terrestrialTuningData fe

end SatipClient.Config
