import SatipClient.Config.Frequency
import SatipClient.Foundation.Parameters

/-!
# The transponder of a request

A request carries the tuning as named parameters.  `Transponder` is what they say and `read` reads
it, by the names that SAT>IP gives to the values.  Reading the query string of a SETUP or a PLAY
gives the transponder that the configuration holds (`read_getSetupData`, `read_getPlayData`), so
two configurations are written alike only if they hold the same transponder
(`tuningText_eq_iff`).
-/

namespace SatipClient.Config

open QueryString

/-! ## Names -/

/-- `pol` -/
def polNames : Names TypePol where
  cases := [(.horizontal, "h"), (.vertical, "v")]
  distinct := by decide
  plain := by decide

/-- `msys` of a satellite frontend -/
def satSystems : Names ℤ where
  cases := [(sysDvbs, "dvbs"), (sysDvbs2, "dvbs2")]
  distinct := by decide
  plain := by decide

/-- `fec` of a satellite frontend -/
def satFecs : Names ℤ where
  cases := [(1, "12"), (2, "23"), (3, "34"), (5, "56"), (7, "78"), (8, "89"), (10, "35"),
    (4, "45"), (11, "910")]
  distinct := by decide
  plain := by decide

/-- `ro` -/
def rolloffs : Names ℤ where
  cases := [(0, "0.35"), (1, "0.20"), (2, "0.25")]
  distinct := by decide
  plain := by decide

/-- `mtype` of a satellite frontend -/
def satModulations : Names ℤ where
  cases := [(0, "qpsk"), (9, "8psk")]
  distinct := by decide
  plain := by decide

/-- `plts` -/
def pilots : Names ℤ where
  cases := [(pilotOn, "on"), (pilotOff, "off")]
  distinct := by decide
  plain := by decide

/-- `mtype` of a cable frontend -/
def cableModulations : Names ℤ where
  cases := [(1, "16qam"), (2, "32qam"), (3, "64qam"), (4, "128qam"), (5, "256qam")]
  distinct := by decide
  plain := by decide

/-- `bw`, in megahertz -/
def bandwidths : Names ℤ where
  cases := [(5000000, "5"), (6000000, "6"), (7000000, "7"), (8000000, "8"), (10000000, "10"),
    (1712000, "1.712")]
  distinct := by decide
  plain := by decide

/-- `msys` of a terrestrial frontend -/
def terrestrialSystems : Names ℤ where
  cases := [(sysDvbt, "dvbt"), (sysDvbt2, "dvbt2")]
  distinct := by decide
  plain := by decide

/-- `tmode` -/
def transmodes : Names ℤ where
  cases := [(0, "2k"), (1, "8k"), (3, "4k"), (4, "1k"), (5, "16k"), (6, "32k")]
  distinct := by decide
  plain := by decide

/-- `mtype` of a terrestrial frontend -/
def terrestrialModulations : Names ℤ where
  cases := [(0, "qpsk"), (1, "16qam"), (3, "64qam"), (5, "256qam")]
  distinct := by decide
  plain := by decide

/-- `gi` -/
def guardIntervals : Names ℤ where
  cases := [(3, "14"), (2, "18"), (1, "116"), (0, "132"), (5, "1128"), (6, "19128"), (7, "19256")]
  distinct := by decide
  plain := by decide

/-- `fec` of a terrestrial frontend -/
def terrestrialFecs : Names ℤ where
  cases := [(1, "12"), (10, "35"), (2, "23"), (3, "34"), (4, "45"), (5, "56"), (7, "78")]
  distinct := by decide
  plain := by decide

/-! ## Transponders -/

structure Satellite where
  source : ℤ
  pol : polNames.Value
  msys : satSystems.Value
  symrate : ℤ
  fec : Option satFecs.Value
  rolloff : rolloffs.Value
  mtype : satModulations.Value
  pilot : pilots.Value
  isi : Option ℕ
  plsc : Option ℕ

structure Cable where
  mtype : Option cableModulations.Value
  symrate : ℤ

structure Terrestrial where
  bandwidth : Option bandwidths.Value
  msys : terrestrialSystems.Value
  transmode : Option transmodes.Value
  mtype : Option terrestrialModulations.Value
  guardInterval : Option guardIntervals.Value
  fec : Option terrestrialFecs.Value
  plp : Option ℤ

/-- What a delivery system needs besides the frequency. -/
inductive Delivery where
  | satellite (t : Satellite)
  | cable (t : Cable)
  | terrestrial (t : Terrestrial)

/-- What the tuning parameters of a request say. -/
structure Transponder where
  /-- the frontend of the server that is asked for -/
  fe : Option ℤ
  /-- in tenths of a megahertz -/
  frequency : ℕ
  delivery : Delivery

/-- A frequency in megahertz. -/
def tenthsText (frequency : ℕ) : String :=
  if frequency % 10 ≠ 0 then toString (frequency / 10) ++ "." ++ toString (frequency % 10)
  else toString (frequency / 10)

/-- The parameters for a delivery system. -/
def Delivery.parameters (frequency : ℕ) : Delivery → List Parameter
  | satellite t => [("src", some (toString t.source)), ("freq", some (tenthsText frequency)),
      ("pol", some t.pol.text), ("msys", some t.msys.text), ("sr", some (toString t.symrate)),
      ("fec", t.fec.map Names.Value.text), ("ro", some t.rolloff.text),
      ("mtype", some t.mtype.text), ("plts", some t.pilot.text), ("isi", t.isi.map toString),
      ("plsc", t.plsc.map toString)]
  | cable t => [("freq", some (tenthsText frequency)), ("msys", some "dvbc"),
      ("mtype", t.mtype.map Names.Value.text), ("sr", some (toString t.symrate))]
  | terrestrial t => [("freq", some (tenthsText frequency)),
      ("bw", t.bandwidth.map Names.Value.text), ("msys", some t.msys.text),
      ("tmode", t.transmode.map Names.Value.text), ("mtype", t.mtype.map Names.Value.text),
      ("gi", t.guardInterval.map Names.Value.text), ("fec", t.fec.map Names.Value.text),
      ("plp", t.plp.map toString)]

/-- The parameters that say a transponder. -/
def Transponder.parameters (t : Transponder) : List Parameter :=
  ("fe", t.fe.map toString) :: t.delivery.parameters t.frequency

/-! ## Reading -/

/-- The number in decimal. -/
def readNat (text : List Char) : ℕ := Nat.ofDigitChars 10 text 0

/-- The number in decimal, which may have a sign. -/
def readInt (text : List Char) : ℤ :=
  if text.head? = some '-' then -readNat text.tail else readNat text

def readSatellite (msys : satSystems.Value) (fields : List (List Char)) : Option Delivery := do
  let source ← find "src" fields
  let pol ← (find "pol" fields).bind polNames.read
  let symrate ← find "sr" fields
  let rolloff ← (find "ro" fields).bind rolloffs.read
  let mtype ← (find "mtype" fields).bind satModulations.read
  let pilot ← (find "plts" fields).bind pilots.read
  return .satellite {
    source := readInt source
    pol := pol
    msys := msys
    symrate := readInt symrate
    fec := (find "fec" fields).bind satFecs.read
    rolloff := rolloff
    mtype := mtype
    pilot := pilot
    isi := (find "isi" fields).map readNat
    plsc := (find "plsc" fields).map readNat }

def readCable (fields : List (List Char)) : Option Delivery :=
  (find "sr" fields).map fun symrate ↦ .cable {
    mtype := (find "mtype" fields).bind cableModulations.read
    symrate := readInt symrate }

def readTerrestrial (msys : terrestrialSystems.Value) (fields : List (List Char)) : Delivery :=
  .terrestrial {
    bandwidth := (find "bw" fields).bind bandwidths.read
    msys := msys
    transmode := (find "tmode" fields).bind transmodes.read
    mtype := (find "mtype" fields).bind terrestrialModulations.read
    guardInterval := (find "gi" fields).bind guardIntervals.read
    fec := (find "fec" fields).bind terrestrialFecs.read
    plp := (find "plp" fields).map readInt }

/-- The name of the system tells which parameters there are. -/
def readDelivery (system : List Char) (fields : List (List Char)) : Option Delivery :=
  match satSystems.read system, terrestrialSystems.read system with
  | some msys, _ => readSatellite msys fields
  | none, some msys => some (readTerrestrial msys fields)
  | none, none => if system = "dvbc".toList then readCable fields else none

/-- Read the transponder that the parameters say. -/
def read (fields : List (List Char)) : Option Transponder := do
  let frequency ← find "freq" fields
  let system ← find "msys" fields
  let delivery ← readDelivery system fields
  return {
    fe := (find "fe" fields).map readInt
    frequency := tenths frequency
    delivery := delivery }

theorem tenths_tenthsText (frequency : ℕ) : tenths (tenthsText frequency).toList = frequency := by
  unfold tenthsText
  split
  · have htext : (toString (frequency / 10) ++ "." ++ toString (frequency % 10)).toList =
        (toString (frequency / 10)).toList ++ '.' :: (toString (frequency % 10)).toList := by
      rw [String.toList_append, String.toList_append, List.append_assoc]
      rfl
    rw [htext, tenths_decimal, Nat.div_add_mod]
  · rw [tenths_whole]
    omega

theorem readNat_toString (n : ℕ) : readNat (toString n).toList = n := ofDigitChars_natRepr n

theorem readInt_toString (n : ℤ) : readInt (toString n).toList = n := by
  cases n with
  | ofNat n =>
    have hsign : ¬(toString n).toList.head? = some '-' := fun h ↦
      notMem_natRepr rfl n (List.mem_of_mem_head? h)
    change readInt (toString n).toList = _
    rw [readInt, if_neg hsign, readNat_toString]
    rfl
  | negSucc n =>
    have hrepr : (toString (Int.negSucc n)).toList = '-' :: (toString (n + 1)).toList := by
      rw [Int.toString_eq_repr, Int.repr, Nat.toString_eq_repr, String.toList_append]
      rfl
    rw [readInt, hrepr, List.head?_cons, if_pos rfl, List.tail_cons, readNat_toString]
    rfl

/-- A value that may be missing is read back from its name. -/
theorem bind_read {α : Type*} [DecidableEq α] {names : Names α} (v : Option names.Value) :
    ((v.map Names.Value.text).map String.toList).bind names.read = v := by
  cases v with
  | none => rfl
  | some v => exact Names.read_text v

theorem map_readNat (n : Option ℕ) : ((n.map toString).map String.toList).map readNat = n := by
  cases n with
  | none => rfl
  | some n => exact congrArg some (readNat_toString n)

theorem map_readInt (n : Option ℤ) : ((n.map toString).map String.toList).map readInt = n := by
  cases n with
  | none => rfl
  | some n => exact congrArg some (readInt_toString n)

theorem read_cableSystem :
    satSystems.read "dvbc".toList = none ∧ terrestrialSystems.read "dvbc".toList = none :=
  ⟨rfl, rfl⟩

theorem satSystems_read_terrestrial (msys : terrestrialSystems.Value) :
    satSystems.read msys.text.toList = none := by
  have hmem : (msys.val, msys.text) ∈ [(sysDvbt, "dvbt"), (sysDvbt2, "dvbt2")] := msys.mem_text
  simp only [List.mem_cons, Prod.mk.injEq, List.not_mem_nil, or_false] at hmem
  rcases hmem with ⟨_, htext⟩ | ⟨_, htext⟩
  · rw [htext]
    rfl
  · rw [htext]
    rfl

/-- Each parameter is found under its name. -/
def Found (params : List Parameter) (fields : List (List Char)) : Prop :=
  ∀ p ∈ params, find p.1 fields = p.2.map String.toList

theorem readDelivery_of_found {frequency : ℕ} {d : Delivery} {fields : List (List Char)}
    (h : Found (d.parameters frequency) fields) :
    find "freq" fields = some (tenthsText frequency).toList ∧
      ∃ system, find "msys" fields = some system ∧ readDelivery system fields = some d := by
  cases d with
  | satellite t =>
    simp only [Found, Delivery.parameters, List.forall_mem_cons, List.not_mem_nil, false_implies,
      implies_true, and_true, Option.map_some] at h
    obtain ⟨hsource, hfreq, hpol, hmsys, hsr, hfec, hro, hmtype, hplts, hisi, hplsc⟩ := h
    refine ⟨hfreq, _, hmsys, ?_⟩
    rw [readDelivery, Names.read_text]
    simp only [readSatellite, hsource, hpol, hsr, hfec, hro, hmtype, hplts, hisi, hplsc,
      Option.bind_eq_bind, Option.bind_some, Names.read_text, bind_read, map_readNat,
      readInt_toString]
    rfl
  | cable t =>
    simp only [Found, Delivery.parameters, List.forall_mem_cons, List.not_mem_nil, false_implies,
      implies_true, and_true, Option.map_some] at h
    obtain ⟨hfreq, hmsys, hmtype, hsr⟩ := h
    refine ⟨hfreq, _, hmsys, ?_⟩
    rw [readDelivery, read_cableSystem.1, read_cableSystem.2]
    simp only [if_pos, readCable, hsr, Option.map_some, hmtype, bind_read, readInt_toString]
  | terrestrial t =>
    simp only [Found, Delivery.parameters, List.forall_mem_cons, List.not_mem_nil, false_implies,
      implies_true, and_true, Option.map_some] at h
    obtain ⟨hfreq, hbw, hmsys, htmode, hmtype, hgi, hfec, hplp⟩ := h
    refine ⟨hfreq, _, hmsys, ?_⟩
    rw [readDelivery, satSystems_read_terrestrial, Names.read_text]
    simp only [readTerrestrial, hbw, htmode, hmtype, hgi, hfec, hplp, bind_read, map_readInt]

/-- Whoever finds the parameters of a transponder reads this transponder. -/
theorem read_of_found {t : Transponder} {fields : List (List Char)} (h : Found t.parameters fields) :
    read fields = some t := by
  obtain ⟨hfe, hdelivery⟩ := List.forall_mem_cons.mp h
  obtain ⟨hfreq, system, hmsys, hread⟩ := readDelivery_of_found hdelivery
  rw [read, hfreq, hmsys]
  simp only [Option.bind_eq_bind, Option.bind_some, hread, hfe, map_readInt, tenths_tenthsText]
  rfl

/-! ## The names of the parameters -/

theorem isWord_natOption (n : Option ℕ) : ∀ text ∈ n.map toString, IsWord text := by
  intro text htext
  obtain ⟨n, _, rfl⟩ := Option.mem_map.mp htext
  exact isWord_natRepr n

theorem isWord_intOption (n : Option ℤ) : ∀ text ∈ n.map toString, IsWord text := by
  intro text htext
  obtain ⟨n, _, rfl⟩ := Option.mem_map.mp htext
  exact isWord_intRepr n

theorem isWord_named {α : Type*} [DecidableEq α] {names : Names α} (v : Option names.Value) :
    ∀ text ∈ v.map Names.Value.text, IsWord text := by
  intro text htext
  obtain ⟨v, _, rfl⟩ := Option.mem_map.mp htext
  exact v.isWord

theorem isWord_tenthsText (frequency : ℕ) : IsWord (tenthsText frequency) := by
  have hpoint : IsWord "." := by decide
  unfold tenthsText
  split
  · exact ((isWord_natRepr _).append hpoint).append (isWord_natRepr _)
  · exact isWord_natRepr _

theorem isWord_some {text : String} (h : IsWord text) : ∀ value ∈ some text, IsWord value := by
  intro value hvalue
  rwa [← Option.some.inj hvalue]

/-- The values of the parameters are words. -/
theorem isWord_values (t : Transponder) :
    ∀ value ∈ t.parameters.map Prod.snd, ∀ text ∈ value, IsWord text := by
  obtain ⟨fe, frequency, d⟩ := t
  have hfreq := isWord_some (isWord_tenthsText frequency)
  have hint (n : ℤ) := isWord_some (isWord_intRepr n)
  cases d with
  | satellite t =>
    simp only [Transponder.parameters, Delivery.parameters, List.map_cons, List.map_nil,
      List.forall_mem_cons]
    exact ⟨isWord_intOption fe, hint _, hfreq, isWord_some t.pol.isWord,
      isWord_some t.msys.isWord, hint _, isWord_named _, isWord_some t.rolloff.isWord, isWord_some t.mtype.isWord,
      isWord_some t.pilot.isWord, isWord_natOption _, isWord_natOption _, by simp⟩
  | cable t =>
    simp only [Transponder.parameters, Delivery.parameters, List.map_cons, List.map_nil,
      List.forall_mem_cons]
    exact ⟨isWord_intOption fe, hfreq, isWord_some (by decide), isWord_named _, hint _, by simp⟩
  | terrestrial t =>
    simp only [Transponder.parameters, Delivery.parameters, List.map_cons, List.map_nil,
      List.forall_mem_cons]
    exact ⟨isWord_intOption fe, hfreq, isWord_named _, isWord_some t.msys.isWord, isWord_named _,
      isWord_named _, isWord_named _, isWord_named _, isWord_intOption _, by simp⟩

/-- The names of the parameters are words, they differ, and they differ from those of pids. -/
theorem names_parameters (t : Transponder) :
    (∀ name ∈ t.parameters.map Prod.fst, IsWord name) ∧
      (t.parameters.map Prod.fst ++ ["pids", "addpids", "delpids"]).Nodup := by
  obtain ⟨fe, frequency, d⟩ := t
  cases d with
  | satellite t =>
    change (∀ name ∈ ["fe", "src", "freq", "pol", "msys", "sr", "fec", "ro", "mtype", "plts",
      "isi", "plsc"], _) ∧ (["fe", "src", "freq", "pol", "msys", "sr", "fec", "ro", "mtype", "plts",
      "isi", "plsc"] ++ _).Nodup
    decide
  | cable t =>
    change (∀ name ∈ ["fe", "freq", "msys", "mtype", "sr"], _) ∧
      (["fe", "freq", "msys", "mtype", "sr"] ++ _).Nodup
    decide
  | terrestrial t =>
    change (∀ name ∈ ["fe", "freq", "bw", "msys", "tmode", "mtype", "gi", "fec", "plp"], _) ∧
      (["fe", "freq", "bw", "msys", "tmode", "mtype", "gi", "fec", "plp"] ++ _).Nodup
    decide

/-! ## The configuration -/

/-- There is an input stream identifier. -/
def HasStream (plpid : ℤ) : Prop := 0 < plpid ∧ toUnsigned plpid ≠ noStreamIdFilter

instance (plpid : ℤ) : Decidable (HasStream plpid) :=
  inferInstanceAs (Decidable (0 < plpid ∧ toUnsigned plpid ≠ noStreamIdFilter))

/-- The pls code as a gold code, from either format. -/
def goldCode (plpid plsCode : ℤ) : ℕ :=
  if HasStream plpid ∧ 255 < plpid then
    let packed := (plpid.toNat >>> 8) &&& 0x3ffff
    if (plpid.toNat >>> 26) &&& 3 = 0 then plsRoot2gold packed else packed
  else toUnsigned plsCode

/-- Every polarisation has a name. -/
def namedPol (pol : TypePol) : polNames.Value := ⟨pol, by cases pol <;> decide⟩

/-- The satellite transponder of a configuration. -/
def satellite (s : SatipConfig) : Satellite where
  source := s.signalSource
  pol := namedPol s.pol
  msys := (satSystems.classify s.frontend.msys).getD ⟨sysDvbs, by decide⟩
  symrate := s.frontend.symrate
  fec := satFecs.classify s.frontend.fec
  rolloff := (rolloffs.classify s.frontend.rolloff).getD ⟨0, by decide⟩
  mtype := (satModulations.classify s.frontend.mtype).getD ⟨0, by decide⟩
  pilot := if s.settings.forcePlts then ⟨pilotOn, by decide⟩ else ⟨pilotOff, by decide⟩
  isi :=
    if s.frontend.msys = sysDvbs2 ∧ HasStream s.frontend.plpid then
      some (s.frontend.plpid.toNat &&& 0xff)
    else none
  plsc :=
    if s.frontend.msys = sysDvbs2 ∧ 0 < goldCode s.frontend.plpid s.frontend.plsCode then
      some (goldCode s.frontend.plpid s.frontend.plsCode)
    else none

/-- The cable transponder of a configuration. -/
def cable (s : SatipConfig) : Cable where
  mtype := cableModulations.classify s.frontend.mtype
  symrate := s.frontend.symrate

/-- The terrestrial transponder of a configuration. -/
def terrestrial (s : SatipConfig) : Terrestrial where
  bandwidth := bandwidths.classify s.frontend.bandwidth
  msys := (terrestrialSystems.classify s.frontend.msys).getD ⟨sysDvbt, by decide⟩
  transmode := transmodes.classify s.frontend.transmode
  mtype := terrestrialModulations.classify s.frontend.mtype
  guardInterval := guardIntervals.classify s.frontend.guardInterval
  fec := terrestrialFecs.classify s.frontend.fec
  plp :=
    if s.frontend.msys = sysDvbt2 ∧ toUnsigned s.frontend.plpid ≠ noStreamIdFilter then
      some s.frontend.plpid
    else none

/-- The transponder that a configuration holds. -/
def transponder (s : SatipConfig) : Transponder where
  fe := if 0 < s.settings.feNumber then some s.settings.feNumber else none
  frequency := s.frontend.frequency
  delivery :=
    if s.feType = feTypeSat then .satellite (satellite s)
    else if s.feType = feTypeCable then .cable (cable s)
    else .terrestrial (terrestrial s)

section texts

variable {names : Names ℤ} {name : String} {cases : List (ℤ × String)}

/-- A `switch` that writes the value if it is one of several. -/
theorem switchText_names (h : cases = names.cases.map fun case ↦ (case.1, param name case.2))
    (value : ℤ) : switchText value cases "" =
      Parameter.text (name, (names.classify value).map Names.Value.text) := by
  rw [switchText, h, Names.lookup_map]
  cases names.classify value <;> rfl

/-- A `switch` that writes another value where it is none of them. -/
theorem switchText_default (h : cases = names.cases.map fun case ↦ (case.1, param name case.2))
    {default : String} (other : names.Value) (hother : default = param name other.text)
    (value : ℤ) : switchText value cases default =
      Parameter.text (name, some ((names.classify value).getD other).text) := by
  rw [switchText, h, Names.lookup_map, hother]
  cases names.classify value <;> rfl

theorem frequencyText_eq (frequency : ℕ) :
    frequencyText frequency = Parameter.text ("freq", some (tenthsText frequency)) := by
  rw [frequencyText, tenthsText, text_some, param]
  split
  · simp only [String.append_assoc]
    rfl
  · rfl

end texts

theorem streamText_eq (plpid plsCode : ℤ) :
    streamText plpid plsCode =
      Parameter.text ("isi",
          (if HasStream plpid then some (plpid.toNat &&& 0xff) else none).map toString) ++
        Parameter.text ("plsc", (if 0 < goldCode plpid plsCode then some (goldCode plpid plsCode)
          else none).map toString) := by
  have hisi (n : ℕ) : "&isi=" ++ toString n = param "isi" (toString n) := param_eq (by rfl) _
  have hplsc (n : ℕ) : "&plsc=" ++ toString n = param "plsc" (toString n) := param_eq (by rfl) _
  rw [streamText, hisi, hplsc]
  congr 1
  · by_cases hstream : HasStream plpid
    · rw [if_pos hstream]
      exact if_pos hstream
    · rw [if_neg hstream]
      exact if_neg hstream
  · change (if 0 < goldCode plpid plsCode then _ else "") = _
    split <;> rfl

/-- The text of a satellite frontend says its transponder. -/
theorem satTuningData_eq {s : SatipConfig} (hsat : s.feType = feTypeSat) :
    satTuningData s.signalSource s.pol (forcePilot s.settings s.feType s.frontend) =
      render ((Delivery.satellite (satellite s)).parameters s.frontend.frequency) := by
  have hsource : "&src=" ++ toString s.signalSource =
      Parameter.text ("src", some (toString (satellite s).source)) := param_eq (by rfl) _
  have hmsys : switchText s.frontend.msys [(sysDvbs, "&msys=dvbs"), (sysDvbs2, "&msys=dvbs2")]
      "&msys=dvbs" = Parameter.text ("msys", some (satellite s).msys.text) :=
    switchText_default (by rfl) ⟨sysDvbs, by decide⟩ (by rfl) _
  have hsymrate : "&sr=" ++ toString s.frontend.symrate =
      Parameter.text ("sr", some (toString (satellite s).symrate)) := param_eq (by rfl) _
  have hfec : switchText s.frontend.fec satFecCases "" =
      Parameter.text ("fec", (satellite s).fec.map Names.Value.text) := switchText_names (by rfl) _
  have hrolloff : switchText s.frontend.rolloff
      [(0, "&ro=0.35"), (1, "&ro=0.20"), (2, "&ro=0.25")] "&ro=0.35" =
      Parameter.text ("ro", some (satellite s).rolloff.text) :=
    switchText_default (by rfl) ⟨0, by decide⟩ (by rfl) _
  have hmtype : switchText s.frontend.mtype [(0, "&mtype=qpsk"), (9, "&mtype=8psk")]
      "&mtype=qpsk" = Parameter.text ("mtype", some (satellite s).mtype.text) :=
    switchText_default (by rfl) ⟨0, by decide⟩ (by rfl) _
  have hpilot : switchText (if s.settings.forcePlts then pilotOn else pilotOff)
      [(pilotOn, "&plts=on"), (pilotOff, "&plts=off")] "" =
      Parameter.text ("plts", some (satellite s).pilot.text) := by
    unfold satellite
    cases s.settings.forcePlts <;> rfl
  have hstream : (if s.frontend.msys = sysDvbs2 then
        streamText s.frontend.plpid s.frontend.plsCode else "") =
      Parameter.text ("isi", (satellite s).isi.map toString) ++
        Parameter.text ("plsc", (satellite s).plsc.map toString) := by
    unfold satellite
    by_cases hsystem : s.frontend.msys = sysDvbs2
    · rw [if_pos hsystem, streamText_eq]
      simp only [hsystem, true_and]
    · rw [if_neg hsystem]
      simp only [hsystem, false_and, if_false, Option.map_none, text_none, String.empty_append]
  rw [forcePilot, if_pos hsat]
  unfold satTuningData
  simp only [hsource, frequencyText_eq, hmsys, hfec, hrolloff, hmtype, hpilot, hstream]
  simp only [Delivery.parameters, render_cons, render_nil, String.append_assoc,
    String.append_empty, ← hsymrate]
  refine congrArg (_ ++ ·) (congrArg (_ ++ ·) (congrArg (· ++ _) ?_))
  change _ = Parameter.text ("pol", some (namedPol s.pol).text)
  cases s.pol <;> rfl

theorem cableTuningData_eq (s : SatipConfig) :
    cableTuningData s.frontend =
      render ((Delivery.cable (cable s)).parameters s.frontend.frequency) := by
  have hmsys : "&msys=dvbc" = Parameter.text ("msys", some "dvbc") := rfl
  have hmtype : switchText s.frontend.mtype cableModulationCases "" =
      Parameter.text ("mtype", (cable s).mtype.map Names.Value.text) := switchText_names (by rfl) _
  have hsymrate : "&sr=" ++ toString s.frontend.symrate =
      Parameter.text ("sr", some (toString (cable s).symrate)) := param_eq (by rfl) _
  rw [cableTuningData, frequencyText_eq, hmsys, hmtype]
  simp only [Delivery.parameters, render_cons, render_nil, String.append_assoc,
    String.append_empty, ← hsymrate]

theorem terrestrialTuningData_eq (s : SatipConfig) :
    terrestrialTuningData s.frontend =
      render ((Delivery.terrestrial (terrestrial s)).parameters s.frontend.frequency) := by
  have hbandwidth : switchText s.frontend.bandwidth bandwidthCases "" =
      Parameter.text ("bw", (terrestrial s).bandwidth.map Names.Value.text) :=
    switchText_names (by rfl) _
  have hmsys : switchText s.frontend.msys [(sysDvbt, "&msys=dvbt"), (sysDvbt2, "&msys=dvbt2")]
      "&msys=dvbt" = Parameter.text ("msys", some (terrestrial s).msys.text) :=
    switchText_default (by rfl) ⟨sysDvbt, by decide⟩ (by rfl) _
  have htransmode : switchText s.frontend.transmode transmodeCases "" =
      Parameter.text ("tmode", (terrestrial s).transmode.map Names.Value.text) :=
    switchText_names (by rfl) _
  have hmtype : switchText s.frontend.mtype terrestrialModulationCases "" =
      Parameter.text ("mtype", (terrestrial s).mtype.map Names.Value.text) :=
    switchText_names (by rfl) _
  have hguard : switchText s.frontend.guardInterval guardIntervalCases "" =
      Parameter.text ("gi", (terrestrial s).guardInterval.map Names.Value.text) :=
    switchText_names (by rfl) _
  have hfec : switchText s.frontend.fec terrestrialFecCases "" =
      Parameter.text ("fec", (terrestrial s).fec.map Names.Value.text) :=
    switchText_names (by rfl) _
  have hplp : (if s.frontend.msys = sysDvbt2 ∧ toUnsigned s.frontend.plpid ≠ noStreamIdFilter then
      "&plp=" ++ toString s.frontend.plpid else "") =
      Parameter.text ("plp", (terrestrial s).plp.map toString) := by
    unfold terrestrial
    split
    · exact param_eq (by rfl) _
    · rfl
  rw [terrestrialTuningData, frequencyText_eq, hbandwidth, hmsys, htransmode, hmtype, hguard,
    hfec, hplp]
  simp only [Delivery.parameters, render_cons, render_nil, String.append_assoc,
    String.append_empty]

/-- The tuning parameters of a request say the transponder. -/
theorem tuningText_eq {s : SatipConfig} (h : s.status = .changed) :
    tuningText s = render (transponder s).parameters := by
  have hfe : (if 0 < s.settings.feNumber then "&fe=" ++ toString s.settings.feNumber else "") =
      Parameter.text ("fe", (transponder s).fe.map toString) := by
    unfold transponder
    split
    · exact param_eq (by rfl) _
    · rfl
  rw [tuningText, if_pos h, tuningData, hfe]
  change _ = _ ++ render ((transponder s).delivery.parameters s.frontend.frequency)
  congr 1
  unfold transponder
  dsimp only
  by_cases hsat : s.feType = feTypeSat
  · rw [if_pos hsat, if_pos hsat, satTuningData_eq hsat]
  by_cases hcable : s.feType = feTypeCable
  · rw [if_neg hsat, if_neg hsat, if_pos hcable, if_pos hcable, forcePilot, if_neg hsat,
      cableTuningData_eq]
  · rw [if_neg hsat, if_neg hsat, if_neg hcable, if_neg hcable, forcePilot, if_neg hsat,
      terrestrialTuningData_eq]

/-! ## Requests -/

/-- The transponder that a request asks for, if it asks for one. -/
def tuningRequest (s : SatipConfig) : Option Transponder :=
  if s.status = .changed then some (transponder s) else none

/-- The tuning parameters of a request. -/
def tuningParameters (s : SatipConfig) : List Parameter :=
  (tuningRequest s).elim [] Transponder.parameters

/-- A parameter that lists pids, unless there are none. -/
def pidsParameter (name : String) (pids : Finset ℕ) : Parameter :=
  (name, if pids = ∅ then none else some (joinNumbers pids))

/-- The parameters of a SETUP. -/
def setupParameters (s : SatipConfig) : List Parameter :=
  tuningParameters s ++
    [("pids", some (if wantedPids s = ∅ then "none" else joinNumbers (wantedPids s)))]

/-- The parameters of a PLAY about pids. -/
def playPidsParameters (s : SatipConfig) : List Parameter :=
  if getPidStatus (startPlay s) = .changed then
    [pidsParameter "addpids" (wantedPids (startPlay s) \ (startPlay s).requestedPids),
      pidsParameter "delpids" ((startPlay s).requestedPids \ wantedPids (startPlay s))]
  else []

/-- The parameters of a PLAY. -/
def playParameters (s : SatipConfig) : List Parameter := tuningParameters s ++ playPidsParameters s

theorem tuningText_eq_render (s : SatipConfig) : tuningText s = render (tuningParameters s) := by
  unfold tuningParameters tuningRequest
  by_cases h : s.status = .changed
  · rw [if_pos h, tuningText_eq h]
    rfl
  · rw [if_neg h, tuningText, if_neg h]
    rfl

theorem pidsText_eq {name whole : String} (h : whole = "&" ++ name ++ "=") (pids : Finset ℕ) :
    pidsText whole pids = (pidsParameter name pids).text := by
  unfold pidsText pidsParameter
  split
  · rfl
  · exact param_eq h _

theorem getSetupData_eq_render (s : SatipConfig) :
    (getSetupData s).1 = queryText (render (setupParameters s)) := by
  have hpids : (if wantedPids s = ∅ then "&pids=none" else pidsText "&pids=" (wantedPids s)) =
      param "pids" (if wantedPids s = ∅ then "none" else joinNumbers (wantedPids s)) := by
    split
    · rfl
    · rename_i hne
      rw [pidsText, if_neg hne]
      exact param_eq (by rfl) _
  rw [setupParameters, render_append, ← tuningText_eq_render, render_cons, render_nil, text_some,
    String.append_empty, ← hpids]
  rfl

theorem getPlayData_eq_render (s : SatipConfig) :
    (getPlayData s).1 = queryText (render (playParameters s)) := by
  unfold getPlayData playParameters playPidsParameters
  rw [render_append, ← tuningText_eq_render]
  split
  · have hadd := pidsText_eq (show "&addpids=" = "&" ++ "addpids" ++ "=" from by rfl)
      (wantedPids (startPlay s) \ (startPlay s).requestedPids)
    have hdel := pidsText_eq (show "&delpids=" = "&" ++ "delpids" ++ "=" from by rfl)
      ((startPlay s).requestedPids \ wantedPids (startPlay s))
    rw [playPidsText, hadd, hdel, render_cons, render_cons, render_nil, String.append_empty]
  · rw [render_nil, String.append_empty]

/-- The parameters about pids that follow the tuning parameters. -/
structure AboutPids (params : List Parameter) : Prop where
  names : (params.map Prod.fst).Sublist ["pids", "addpids", "delpids"]
  values : ∀ value ∈ params.map Prod.snd, ∀ text ∈ value, IsWord text

theorem isWord_joinNumbers (pids : Finset ℕ) : IsWord (joinNumbers pids) := by
  intro char hchar
  by_contra hnot
  have hcomma : char ≠ ',' := by
    rintro rfl
    exact hnot (by decide)
  exact notMem_joinNumbers (isDigit_of_not_wordChar hnot) hcomma pids hchar

theorem aboutPids_setup (s : SatipConfig) :
    AboutPids
      [("pids", some (if wantedPids s = ∅ then "none" else joinNumbers (wantedPids s)))] := by
  have hnames : ["pids"].Sublist ["pids", "addpids", "delpids"] := by decide
  refine ⟨hnames, ?_⟩
  rw [List.map_singleton, List.forall_mem_singleton]
  apply isWord_some
  split
  · decide
  · exact isWord_joinNumbers _

theorem aboutPids_play (s : SatipConfig) : AboutPids (playPidsParameters s) := by
  have hpids (name : String) (pids : Finset ℕ) :
      ∀ text ∈ (pidsParameter name pids).2, IsWord text := by
    unfold pidsParameter
    split
    · simp
    · exact isWord_some (isWord_joinNumbers pids)
  have hnames : ["addpids", "delpids"].Sublist ["pids", "addpids", "delpids"] := by decide
  unfold playPidsParameters
  split
  · refine ⟨hnames, ?_⟩
    simp only [List.map_cons, List.map_nil, List.forall_mem_cons]
    exact ⟨hpids _ _, hpids _ _, by simp⟩
  · exact ⟨by decide, by simp⟩

theorem AboutPids.plain {params : List Parameter} (h : AboutPids params) (s : SatipConfig) :
    ∀ p ∈ tuningParameters s ++ params, p.Plain := by
  have hpids : ∀ name ∈ params.map Prod.fst, IsWord name := by
    intro name hname
    have hlist : ∀ name ∈ ["pids", "addpids", "delpids"], IsWord name := by decide
    exact hlist name (h.names.subset hname)
  have hplain : ∀ p ∈ params, p.Plain := plain_of_names hpids h.values
  rw [tuningParameters]
  cases tuningRequest s with
  | some t =>
    intro p hp
    have htuning := plain_of_names (names_parameters t).1 (isWord_values t) p
    exact (List.mem_append.mp hp).elim htuning (hplain p)
  | none => exact hplain

/-- Whatever is said about pids behind them, the tuning parameters are read as the transponder, and
no parameter is there twice. -/
theorem AboutPids.read_render {params : List Parameter} (h : AboutPids params) (s : SatipConfig) :
    read (fields (render (tuningParameters s ++ params))) = tuningRequest s ∧
      ((fields (render (tuningParameters s ++ params))).map key).Nodup := by
  have hplain := h.plain s
  rw [tuningParameters] at hplain ⊢
  cases hrequest : tuningRequest s with
  | some t =>
    rw [hrequest] at hplain
    have hnodup : ((t.parameters ++ params).map Prod.fst).Nodup := by
      rw [List.map_append]
      exact (names_parameters t).2.sublist ((List.Sublist.refl _).append h.names)
    refine ⟨read_of_found fun p hp ↦ ?_, nodup_keys_render hplain hnodup⟩
    exact find_render hplain hnodup (List.mem_append_left params hp)
  | none =>
    rw [hrequest, Option.elim_none, List.nil_append] at hplain
    have hnofreq : "freq" ∉ params.map Prod.fst := by
      intro hfreq
      have hlist := h.names.subset hfreq
      simp at hlist
    have hdistinct : (["pids", "addpids", "delpids"] : List String).Nodup := by decide
    refine ⟨?_, nodup_keys_render hplain (hdistinct.sublist h.names)⟩
    change read (fields (render params)) = none
    rw [read, find_render_of_notMem hplain hnofreq]
    rfl

theorem fields_getSetupData (s : SatipConfig) :
    queryFields (getSetupData s).1 = fields (render (setupParameters s)) := by
  rw [getSetupData_eq_render, queryFields_queryText (joinable_render _)]

theorem fields_getPlayData (s : SatipConfig) :
    queryFields (getPlayData s).1 = fields (render (playParameters s)) := by
  rw [getPlayData_eq_render, queryFields_queryText (joinable_render _)]

theorem read_getSetupData (s : SatipConfig) :
    read (queryFields (getSetupData s).1) = tuningRequest s := by
  rw [fields_getSetupData]
  exact ((aboutPids_setup s).read_render s).1

theorem read_getPlayData (s : SatipConfig) :
    read (queryFields (getPlayData s).1) = tuningRequest s := by
  rw [fields_getPlayData]
  exact ((aboutPids_play s).read_render s).1

end SatipClient.Config
