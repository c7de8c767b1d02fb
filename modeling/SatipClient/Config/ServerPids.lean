import SatipClient.Config.Requested
import SatipClient.Foundation.QueryString
import SatipClient.Foundation.Split

/-!
# The pids the server has joined

What the server makes of the query strings.  A SETUP names the pids; a PLAY that carries tuning
parameters starts from none, and then `addpids` are joined and `delpids` are left.  The client
keeps `m_requested_pids` for the same set.  Both agree behind every request of a run if and only
if `clearProperty` did not take pids out of `m_requested_pids` that the next PLAY, one without
tuning parameters, had to name in `delpids` (`requests_match_iff`).
-/

namespace SatipClient.Config

open QueryString

/-- The fields of a query string. -/
def queryFields (query : String) : List (List Char) :=
  match query.toList with
  | [] => []
  | _ :: rest => rest.splitOn '&'

/-- The pids in the fields with this key. -/
def listedAs (name : String) (fields : List (List Char)) : Finset ℕ :=
  (fields.flatMap fun field ↦
    if key field = name.toList ∧ value field ≠ "none".toList then numbers (value field)
    else []).toFinset

/-- The pids the server has joined after a SETUP. -/
def replaySetup (query : String) : Finset ℕ := listedAs "pids" (queryFields query)

/-- The query string of a PLAY says more than which pids to add and to delete. -/
def CarriesTuning (query : String) : Prop :=
  ∃ field ∈ queryFields query, key field ≠ "addpids".toList ∧ key field ≠ "delpids".toList

instance (query : String) : Decidable (CarriesTuning query) :=
  inferInstanceAs (Decidable (∃ field ∈ queryFields query, _))

/-- The pids the server has joined after a PLAY. -/
def replayPlay (query : String) (server : Finset ℕ) : Finset ℕ :=
  ((if CarriesTuning query then ∅ else server) ∪ listedAs "addpids" (queryFields query)) \
    listedAs "delpids" (queryFields query)

/-! ## The fields of a request -/

/-- Tuning parameters: no field of the text is about pids. -/
def IsTuning (text : String) : Prop :=
  Joinable text ∧ ∀ field ∈ fields text,
    key field ∉ ["pids".toList, "addpids".toList, "delpids".toList]

instance (text : String) : Decidable (IsTuning text) :=
  inferInstanceAs (Decidable (Joinable text ∧ ∀ field ∈ fields text, _))

theorem queryFields_queryText {data : String} (h : Joinable data) :
    queryFields (queryText data) = fields data := by
  rcases h.cases with rfl | ⟨rest, hrest⟩
  · rfl
  · rw [fields_of_cons hrest, queryText, hrest]
    simp [queryFields]

/-- A field of the tuning parameters: it is not about pids, and neither key nor value is empty. -/
def TuningField (field : List Char) : Prop :=
  key field ∉ ["pids".toList, "addpids".toList, "delpids".toList] ∧ key field ≠ [] ∧
    value field ≠ []

instance : DecidablePred TuningField := fun field ↦
  inferInstanceAs (Decidable (key field ∉ _ ∧ key field ≠ [] ∧ value field ≠ []))

/-- The separator, a key that is not about pids, and `=`. -/
def IsTuningKey (name : String) : Prop :=
  name.toList.head? = some '&' ∧ '&' ∉ name.toList.tail ∧ '=' ∈ name.toList.tail ∧
    key name.toList.tail ∉ ["pids".toList, "addpids".toList, "delpids".toList]

instance (name : String) : Decidable (IsTuningKey name) := by
  unfold IsTuningKey; infer_instance

/-- One parameter. -/
theorem params_param {name text : String} (hname : IsTuningKey name)
    (hkey : key name.toList.tail ≠ []) (htext : '&' ∉ text.toList) (hne : text.toList ≠ []) :
    Params TuningField (name ++ text) := by
  obtain ⟨hhead, hplain, hequals, hother⟩ := hname
  apply params_of_name hhead hplain htext
  unfold TuningField
  rw [key_append hequals, value_append hequals]
  exact ⟨hother, hkey, List.append_ne_nil_of_right_ne_nil _ hne⟩

theorem params_natParam {name : String} (hname : IsTuningKey name)
    (hkey : key name.toList.tail ≠ []) (n : ℕ) : Params TuningField (name ++ toString n) :=
  params_param hname hkey (notMem_natRepr rfl n) (natRepr_ne_nil n)

theorem params_intParam {name : String} (hname : IsTuningKey name)
    (hkey : key name.toList.tail ≠ []) (n : ℤ) : Params TuningField (name ++ toString n) :=
  params_param hname hkey (notMem_intRepr rfl (by decide) n) (intRepr_ne_nil n)

theorem params_switchText {Ok : List Char → Prop} {cases : List (ℤ × String)} {default : String}
    (value : ℤ) (hcases : ∀ case ∈ cases, Params Ok case.2) (hdefault : Params Ok default) :
    Params Ok (switchText value cases default) := by
  unfold switchText
  cases hlookup : cases.lookup value with
  | none => exact hdefault
  | some text =>
    obtain ⟨front, back, hsplit, -⟩ := List.lookup_eq_some_iff.mp hlookup
    exact hcases (value, text) (by rw [hsplit]; simp)

theorem params_frequencyText (frequency : ℕ) : Params TuningField (frequencyText frequency) := by
  unfold frequencyText
  split
  · rw [String.append_assoc, String.append_assoc]
    refine params_param (by decide) (by decide) ?_ ?_
    · simp only [String.toList_append, List.mem_append, not_or]
      exact ⟨notMem_natRepr rfl _, by decide, notMem_natRepr rfl _⟩
    · rw [String.toList_append]
      exact List.append_ne_nil_of_left_ne_nil (natRepr_ne_nil _) _
  · exact params_natParam (by decide) (by decide) _

theorem params_streamText (plpid plsCode : ℤ) : Params TuningField (streamText plpid plsCode) := by
  unfold streamText
  exact (params_ite _ (params_natParam (by decide) (by decide) _)).append
    (params_ite _ (params_natParam (by decide) (by decide) _))

theorem params_satTuningData (signalSource : ℤ) (pol : TypePol) (fe : Frontend) :
    Params TuningField (satTuningData signalSource pol fe) := by
  have hsource : Params TuningField ("&src=" ++ toString signalSource) :=
    params_intParam (by decide) (by decide) signalSource
  have hpol : Params TuningField "&pol=h" ∧ Params TuningField "&pol=v" := by decide
  have hsymrate : Params TuningField ("&sr=" ++ toString fe.symrate) :=
    params_intParam (by decide) (by decide) fe.symrate
  have hmsys : Params TuningField (switchText fe.msys
      [(sysDvbs, "&msys=dvbs"), (sysDvbs2, "&msys=dvbs2")] "&msys=dvbs") :=
    params_switchText _ (by decide) (by decide)
  have hfec : Params TuningField (switchText fe.fec satFecCases "") :=
    params_switchText _ (by decide) (by decide)
  have hrolloff : Params TuningField (switchText fe.rolloff
      [(0, "&ro=0.35"), (1, "&ro=0.20"), (2, "&ro=0.25")] "&ro=0.35") :=
    params_switchText _ (by decide) (by decide)
  have hmtype : Params TuningField (switchText fe.mtype
      [(0, "&mtype=qpsk"), (9, "&mtype=8psk")] "&mtype=qpsk") :=
    params_switchText _ (by decide) (by decide)
  have hpilot : Params TuningField (switchText fe.pilot
      [(pilotOn, "&plts=on"), (pilotOff, "&plts=off")] "") :=
    params_switchText _ (by decide) (by decide)
  have hstream : Params TuningField
      (if fe.msys = sysDvbs2 then streamText fe.plpid fe.plsCode else "") :=
    params_ite _ (params_streamText _ _)
  have hfront := hsource.append (params_frequencyText fe.frequency)
  cases pol with
  | horizontal =>
    exact (((((((hfront.append hpol.1).append hmsys).append_param hsymrate).append hfec).append
      hrolloff).append hmtype).append hpilot).append hstream
  | vertical =>
    exact (((((((hfront.append hpol.2).append hmsys).append_param hsymrate).append hfec).append
      hrolloff).append hmtype).append hpilot).append hstream

theorem params_cableTuningData (fe : Frontend) : Params TuningField (cableTuningData fe) := by
  have hsymrate : Params TuningField ("&sr=" ++ toString fe.symrate) :=
    params_intParam (by decide) (by decide) fe.symrate
  have hmodulation : Params TuningField (switchText fe.mtype cableModulationCases "") :=
    params_switchText _ (by decide) (by decide)
  have hsystem : Params TuningField "&msys=dvbc" := by decide
  exact (((params_frequencyText _).append hsystem).append hmodulation).append_param hsymrate

theorem params_terrestrialTuningData (fe : Frontend) :
    Params TuningField (terrestrialTuningData fe) := by
  have hbandwidth : Params TuningField (switchText fe.bandwidth bandwidthCases "") :=
    params_switchText _ (by decide) (by decide)
  have hmsys : Params TuningField (switchText fe.msys
      [(sysDvbt, "&msys=dvbt"), (sysDvbt2, "&msys=dvbt2")] "&msys=dvbt") :=
    params_switchText _ (by decide) (by decide)
  have htransmode : Params TuningField (switchText fe.transmode transmodeCases "") :=
    params_switchText _ (by decide) (by decide)
  have hmtype : Params TuningField (switchText fe.mtype terrestrialModulationCases "") :=
    params_switchText _ (by decide) (by decide)
  have hguard : Params TuningField (switchText fe.guardInterval guardIntervalCases "") :=
    params_switchText _ (by decide) (by decide)
  have hfec : Params TuningField (switchText fe.fec terrestrialFecCases "") :=
    params_switchText _ (by decide) (by decide)
  have hplp : Params TuningField
      (if fe.msys = sysDvbt2 ∧ toUnsigned fe.plpid ≠ noStreamIdFilter then
        "&plp=" ++ toString fe.plpid else "") :=
    params_ite _ (params_intParam (by decide) (by decide) _)
  have hfront := ((params_frequencyText fe.frequency).append hbandwidth).append hmsys
  exact ((((hfront.append htransmode).append hmtype).append hguard).append hfec).append hplp

theorem params_tuningData (settings : Settings) (feType signalSource : ℤ) (pol : TypePol)
    (fe : Frontend) : Params TuningField (tuningData settings feType signalSource pol fe) := by
  unfold tuningData
  apply Params.append
  · exact params_ite _ (params_intParam (by decide) (by decide) _)
  · split_ifs
    · exact params_satTuningData signalSource pol fe
    · exact params_cableTuningData fe
    · exact params_terrestrialTuningData fe

theorem tuningData_ne_empty (settings : Settings) (feType signalSource : ℤ) (pol : TypePol)
    (fe : Frontend) : tuningData settings feType signalSource pol fe ≠ "" := by
  have hfrequency : frequencyText fe.frequency ≠ "" := by
    unfold frequencyText
    split <;> simp [String.append_eq_empty_iff]
  unfold tuningData satTuningData cableTuningData terrestrialTuningData
  split_ifs <;> simp [String.append_eq_empty_iff, hfrequency]

/-! ## What the server reads -/

theorem listedAs_append (name : String) (front back : List (List Char)) :
    listedAs name (front ++ back) = listedAs name front ∪ listedAs name back := by
  rw [listedAs, List.flatMap_append, List.toFinset_append]
  rfl

/-- Tuning parameters list no pids. -/
theorem IsTuning.listedAs_eq {text : String} (h : IsTuning text) (name : String)
    (hname : name.toList ∈ ["pids".toList, "addpids".toList, "delpids".toList]) :
    listedAs name (fields text) = ∅ := by
  have hnone : ((fields text).flatMap fun field ↦
      if key field = name.toList ∧ value field ≠ "none".toList then numbers (value field)
      else []) = [] := by
    rw [List.flatMap_eq_nil_iff]
    intro field hfield
    rw [if_neg]
    rintro ⟨hkey, -⟩
    exact h.2 field hfield (hkey ▸ hname)
  rw [listedAs, hnone, List.toFinset_nil]

theorem notMem_joinNumbers {char : Char} (hdigit : char.isDigit = false) (hcomma : char ≠ ',')
    (pids : Finset ℕ) : char ∉ (joinNumbers pids).toList := by
  rw [joinNumbers, String.toList_intercalate]
  apply Split.notMem_intercalate
  · simpa using hcomma
  · intro digits hdigits
    obtain ⟨text, htext, rfl⟩ := List.mem_map.mp hdigits
    obtain ⟨n, -, rfl⟩ := List.mem_map.mp htext
    exact notMem_natRepr hdigit n

theorem sort_ne_nil {pids : Finset ℕ} (h : pids ≠ ∅) : pids.sort (· ≤ ·) ≠ [] := by
  intro hnil
  apply h
  rw [← Finset.sort_toFinset pids (· ≤ ·), hnil, List.toFinset_nil]

/-- The pids are read back in the order in which they were written. -/
theorem numbers_joinNumbers {pids : Finset ℕ} (h : pids ≠ ∅) :
    numbers (joinNumbers pids).toList = pids.sort (· ≤ ·) := by
  rw [joinNumbers, numbers_intercalate (sort_ne_nil h)]

theorem joinable_pidsText {name : String} (hname : name.toList.head? = some '&')
    (pids : Finset ℕ) : Joinable (pidsText name pids) := by
  unfold pidsText
  split
  · exact Or.inl rfl
  · right
    rw [String.toList_append, List.head?_append, hname]
    rfl

variable {name param : String} {pids : Finset ℕ}

theorem fields_pidsText (hname : name.toList = '&' :: (param.toList ++ ['=']))
    (hplain : '&' ∉ param.toList) (hpids : pids ≠ ∅) :
    fields (pidsText name pids) = [param.toList ++ '=' :: (joinNumbers pids).toList] := by
  have htext : (name ++ joinNumbers pids).toList =
      '&' :: (param.toList ++ '=' :: (joinNumbers pids).toList) := by
    rw [String.toList_append, hname]
    simp
  have hwhole : '&' ∉ param.toList ++ '=' :: (joinNumbers pids).toList := by
    rw [List.mem_append, List.mem_cons]
    exact not_or.mpr ⟨hplain, not_or.mpr ⟨by decide, notMem_joinNumbers rfl (by decide) pids⟩⟩
  rw [pidsText, if_neg hpids, fields_of_notMem htext hwhole]

/-- A parameter that lists pids is read back, under its own name only. -/
theorem listedAs_pidsText (hname : name.toList = '&' :: (param.toList ++ ['=']))
    (hplain : '&' ∉ param.toList ∧ '=' ∉ param.toList) (other : String) (pids : Finset ℕ) :
    listedAs other (fields (pidsText name pids)) = if param = other then pids else ∅ := by
  by_cases hpids : pids = ∅
  · subst hpids
    simp [pidsText, listedAs]
  have hnone : (joinNumbers pids).toList ≠ "none".toList := by
    intro heq
    apply notMem_joinNumbers (show 'n'.isDigit = false from rfl) (by decide) pids
    rw [heq]
    decide
  rw [fields_pidsText hname hplain.1 hpids, listedAs, List.flatMap_singleton, key_eq hplain.2,
    value_eq hplain.2]
  by_cases hother : param = other
  · subst hother
    rw [if_pos ⟨rfl, hnone⟩, if_pos rfl, numbers_joinNumbers hpids, Finset.sort_toFinset]
  · rw [if_neg (fun h ↦ hother (String.toList_inj.mp h.1)), if_neg hother, List.toFinset_nil]

/-! ## Requests -/

variable {s : SatipConfig}

theorem params_tuningText (s : SatipConfig) : Params TuningField (tuningText s) :=
  params_ite _ (params_tuningData _ _ _ _ _)

theorem isTuning_tuningText (s : SatipConfig) : IsTuning (tuningText s) :=
  (params_tuningText s).mono fun _ h ↦ h.1

theorem tuningText_ne_empty_iff : tuningText s ≠ "" ↔ s.status = .changed := by
  unfold tuningText
  split
  · simpa [*] using tuningData_ne_empty _ _ _ _ _
  · simp [*]

/-- A SETUP makes the server join what the client then regards as requested. -/
theorem replaySetup_getSetupData (s : SatipConfig) :
    replaySetup (getSetupData s).1 = (getSetupData s).2.requestedPids := by
  have hwanted : (getSetupData s).2.requestedPids = wantedPids s := by
    rw [snd_getSetupData, takeTuning_frame]
    rfl
  have htuning := isTuning_tuningText s
  have hpids : Joinable (if wantedPids s = ∅ then "&pids=none" else
      pidsText "&pids=" (wantedPids s)) := by
    split
    · decide
    · exact joinable_pidsText rfl _
  have hlisted : listedAs "pids" (fields (if wantedPids s = ∅ then "&pids=none" else
      pidsText "&pids=" (wantedPids s))) = wantedPids s := by
    split
    · rename_i hempty
      rw [hempty]
      decide
    · exact listedAs_pidsText (show _ = '&' :: ("pids".toList ++ ['=']) from rfl) (by decide) _ _
  rw [hwanted, replaySetup, getSetupData, queryFields_queryText (htuning.1.append hpids),
    fields_append hpids, listedAs_append, htuning.listedAs_eq "pids" (by simp), hlisted,
    Finset.empty_union]

theorem fields_playPidsText (s : SatipConfig) :
    fields (playPidsText s) =
      fields (pidsText "&addpids=" (wantedPids s \ s.requestedPids)) ++
        fields (pidsText "&delpids=" (s.requestedPids \ wantedPids s)) :=
  fields_append (joinable_pidsText rfl _)

theorem joinable_playPidsText (s : SatipConfig) : Joinable (playPidsText s) :=
  (joinable_pidsText rfl _).append (joinable_pidsText rfl _)

@[simp]
theorem wantedPids_startPlay (s : SatipConfig) : wantedPids (startPlay s) = wantedPids s := by
  by_cases h : s.status = .changed
  · rw [startPlay_of_changed h, takeTuning_frame]
    rfl
  · rw [startPlay_of_ne h]

theorem requestedPids_startPlay (s : SatipConfig) :
    (startPlay s).requestedPids = if s.status = .changed then ∅ else s.requestedPids := by
  by_cases h : s.status = .changed
  · rw [startPlay_of_changed h, if_pos h]
  · rw [startPlay_of_ne h, if_neg h]

/-- The pid parameters of a PLAY are read back. -/
theorem listedAs_playPidsText (s : SatipConfig) :
    listedAs "addpids" (fields (playPidsText s)) = wantedPids s \ s.requestedPids ∧
      listedAs "delpids" (fields (playPidsText s)) = s.requestedPids \ wantedPids s := by
  have hadd := listedAs_pidsText
    (show "&addpids=".toList = '&' :: ("addpids".toList ++ ['=']) from rfl) (by decide)
  have hdel := listedAs_pidsText
    (show "&delpids=".toList = '&' :: ("delpids".toList ++ ['=']) from rfl) (by decide)
  rw [fields_playPidsText, listedAs_append, listedAs_append, hadd, hdel, hadd, hdel]
  simp

/-- No field of a PLAY apart from its tuning parameters is about anything but pids to add and to
delete. -/
theorem key_of_mem_playPidsText {field : List Char} (h : field ∈ fields (playPidsText s)) :
    key field = "addpids".toList ∨ key field = "delpids".toList := by
  have hkey : ∀ (name param : String) (pids : Finset ℕ),
      name.toList = '&' :: (param.toList ++ ['=']) →
      '&' ∉ param.toList ∧ '=' ∉ param.toList → field ∈ fields (pidsText name pids) →
        key field = param.toList := by
    intro name param pids hname hplain hfield
    by_cases hpids : pids = ∅
    · simp [pidsText, hpids] at hfield
    · rw [fields_pidsText hname hplain.1 hpids, List.mem_singleton] at hfield
      rw [hfield, key_eq hplain.2]
  rw [fields_playPidsText, List.mem_append] at h
  exact h.imp (hkey _ "addpids" _ rfl (by decide)) (hkey _ "delpids" _ rfl (by decide))

theorem carriesTuning_iff {data : String} (hdata : Joinable data)
    (hpids : ∀ field ∈ fields data,
      key field = "addpids".toList ∨ key field = "delpids".toList) (s : SatipConfig) :
    CarriesTuning (queryText (tuningText s ++ data)) ↔ s.status = .changed := by
  have htuning := isTuning_tuningText s
  rw [← tuningText_ne_empty_iff, CarriesTuning, queryFields_queryText (htuning.1.append hdata),
    fields_append hdata]
  constructor
  · intro hcarries hempty
    obtain ⟨field, hfield, hadd, hdel⟩ := hcarries
    rw [hempty, fields_empty, List.nil_append] at hfield
    exact (hpids field hfield).elim hadd hdel
  · intro hne
    obtain ⟨field, hfield⟩ := List.exists_mem_of_ne_nil _ (fields_ne_nil htuning.1 hne)
    have hkey := htuning.2 field hfield
    simp only [List.mem_cons, not_or] at hkey
    exact ⟨field, List.mem_append_left _ hfield, hkey.2.1, hkey.2.2.1⟩

/-- What a PLAY makes the server join. -/
theorem replayPlay_getPlayData (s : SatipConfig) (server : Finset ℕ) :
    replayPlay (getPlayData s).1 server =
      if getPidStatus s = .changed then
        ((if s.status = .changed then ∅ else server) ∪
          wantedPids s \ (startPlay s).requestedPids) \ ((startPlay s).requestedPids \ wantedPids s)
      else if s.status = .changed then ∅ else server := by
  have htuning := isTuning_tuningText s
  unfold replayPlay getPlayData
  rw [getPidStatus_startPlay]
  by_cases hpids : getPidStatus s = .changed
  · have hjoinable := joinable_playPidsText (startPlay s)
    have hcarries := carriesTuning_iff hjoinable (fun field ↦ key_of_mem_playPidsText) s
    obtain ⟨hadd, hdel⟩ := listedAs_playPidsText (startPlay s)
    rw [wantedPids_startPlay] at hadd hdel
    simp only [if_pos hpids, hcarries, queryFields_queryText (htuning.1.append hjoinable),
      fields_append hjoinable, listedAs_append, hadd, hdel, Finset.empty_union,
      htuning.listedAs_eq "addpids" (by simp),
      htuning.listedAs_eq "delpids" (by simp)]
  · have hcarries := carriesTuning_iff (show Joinable "" from Or.inl rfl) (by simp) s
    rw [String.append_empty] at hcarries
    simp only [if_neg hpids, hcarries, queryFields_queryText htuning.1, Finset.union_empty,
      Finset.sdiff_empty, htuning.listedAs_eq "addpids" (by simp),
      htuning.listedAs_eq "delpids" (by simp)]

/-! ## Client and server -/

/-- The client, and what its requests made of the server. -/
structure ClientServer where
  config : SatipConfig
  server : Finset ℕ
  /-- What `clearProperty` took out of `m_requested_pids` since the last request. -/
  dropped : Finset ℕ

/-- Perform one operation of the client; its requests reach the server. -/
def stepBoth (v : ClientServer) (op : Op) : Option ClientServer :=
  (step v.config op).map fun config ↦
    match op with
    | .getSetupData => ⟨config, replaySetup (getSetupData v.config).1, ∅⟩
    | .getPlayData => ⟨config, replayPlay (getPlayData v.config).1 v.server, ∅⟩
    | .clearProperty => ⟨config, v.server, v.dropped ∪ v.config.requestedPids⟩
    | _ => ⟨config, v.server, v.dropped⟩

/-- When the operation is a request, the server has then joined the pids that the client regards
as requested. -/
def RequestMatches (v : ClientServer) (op : Op) : Prop :=
  op = .getSetupData ∨ op = .getPlayData →
    ∀ next ∈ stepBoth v op, next.server = next.config.requestedPids

/-- Before a PLAY without tuning parameters, `clearProperty` took nothing out of
`m_requested_pids` that the PLAY does not ask for again. -/
def NothingDropped (v : ClientServer) (op : Op) : Prop :=
  op = .getPlayData → v.config.status ≠ .changed →
    v.dropped ⊆ if getPidStatus v.config = .changed then wantedPids v.config else ∅

instance (v : ClientServer) (op : Op) : Decidable (NothingDropped v op) :=
  match op with
  | .getPlayData => decidable_of_iff (v.config.status ≠ .changed →
      v.dropped ⊆ if getPidStatus v.config = .changed then wantedPids v.config else ∅)
        ⟨fun h _ ↦ h, fun h ↦ h rfl⟩
  | .getSetupData | .updatePidList _ | .setCaPids _ | .psi _ | .clearProperty | .setVoltage _ |
    .setParam _ | .setChannelChanged | .setChannelRetry | .clearChannelChanged =>
      isTrue (fun h ↦ nomatch h)

/-- What holds between the requests: the server has joined what the client regards as requested
and what was dropped since. -/
structure Accounted (v : ClientServer) : Prop where
  server : v.server = v.config.requestedPids ∪ v.dropped
  dropped : v.dropped = ∅ ∨ v.config.requestedPids = ∅

/-- Only requests and `clearProperty` touch `m_requested_pids`. -/
theorem requestedPids_step {op : Op} {next : SatipConfig} (hsetup : op ≠ .getSetupData)
    (hplay : op ≠ .getPlayData) (hclear : op ≠ .clearProperty) (h : step s op = some next) :
    next.requestedPids = s.requestedPids := by
  cases op with
  | updatePidList new =>
    obtain rfl := Option.some.inj h
    obtain ⟨psi, caPids, hcase | hcase⟩ := notifyPidList_cases (updatePidStatus
      { s with pidList := updateSlots (new.map UInt16.toNat) s.pidList }) <;>
    · unfold updatePidList
      rw [hcase]
      rfl
  | setCaPids pids =>
    obtain rfl := Option.some.inj h
    unfold setCaPids
    split <;> rfl
  | psi op =>
    obtain ⟨psi, caPids, rfl | rfl⟩ := stepPsi_cases h <;> rfl
  | clearProperty => exact absurd rfl hclear
  | setVoltage voltage =>
    obtain rfl := Option.some.inj h
    unfold setVoltage
    split_ifs <;> rfl
  | setParam param =>
    obtain rfl := Option.some.inj h
    cases param <;> rfl
  | setChannelChanged | setChannelRetry =>
    obtain rfl := Option.some.inj h
    rfl
  | clearChannelChanged =>
    obtain rfl := Option.some.inj h
    unfold clearChannelChanged
    split <;> rfl
  | getSetupData => exact absurd rfl hsetup
  | getPlayData => exact absurd rfl hplay

theorem requestedPids_clearProperty (s : SatipConfig) : (clearProperty s).requestedPids = ∅ := by
  unfold clearProperty
  obtain ⟨psi, caPids, hcase | hcase⟩ := resetPsi_cases (clearParams s) <;>
  · rw [hcase]
    rfl

theorem requestedPids_getPlayData (s : SatipConfig) :
    (getPlayData s).2.requestedPids =
      if getPidStatus s = .changed then wantedPids s else (startPlay s).requestedPids := by
  rw [snd_getPlayData, getPidStatus_startPlay]
  split
  · exact wantedPids_startPlay s
  · rfl

/-- The difference to what was requested, applied to what was requested and dropped. -/
theorem diff_eq_iff {wanted requested dropped : Finset ℕ} (h : dropped = ∅ ∨ requested = ∅) :
    (requested ∪ dropped ∪ wanted \ requested) \ (requested \ wanted) = wanted ↔
      dropped ⊆ wanted := by
  rcases h with rfl | rfl
  · rw [Finset.union_empty, Finset.union_sdiff_self_eq_union]
    simp only [Finset.empty_subset, iff_true]
    ext pid
    simp only [Finset.mem_sdiff, Finset.mem_union]
    tauto
  · simp [Finset.union_eq_right]

/-- A PLAY leaves the server with the requested pids exactly when nothing was dropped for good. -/
theorem play_matches_iff {v : ClientServer} (hv : Accounted v) :
    replayPlay (getPlayData v.config).1 v.server = (getPlayData v.config).2.requestedPids ↔
      (v.config.status ≠ .changed →
        v.dropped ⊆ if getPidStatus v.config = .changed then wantedPids v.config else ∅) := by
  rw [replayPlay_getPlayData, requestedPids_getPlayData, requestedPids_startPlay]
  by_cases hchanged : v.config.status = .changed
  · simp [hchanged]
  simp only [hchanged, if_false, ne_eq, not_false_eq_true, forall_const]
  rw [hv.server]
  split
  · exact diff_eq_iff hv.dropped
  · rcases hv.dropped with hdropped | hrequested
    · simp [hdropped]
    · simp [hrequested]

theorem requestMatches_iff {v : ClientServer} (hv : Accounted v) (op : Op) :
    RequestMatches v op ↔ NothingDropped v op := by
  cases op with
  | getSetupData =>
    have hmatch : RequestMatches v .getSetupData := by
      intro _ next hnext
      obtain rfl := Option.some.inj hnext
      exact replaySetup_getSetupData v.config
    exact iff_of_true hmatch (fun h ↦ nomatch h)
  | getPlayData =>
    have hmatch : RequestMatches v .getPlayData ↔
        replayPlay (getPlayData v.config).1 v.server = (getPlayData v.config).2.requestedPids := by
      simp [RequestMatches, stepBoth, step]
    rw [hmatch, play_matches_iff hv]
    exact ⟨fun h _ ↦ h, fun h ↦ h rfl⟩
  | updatePidList | setCaPids | psi | clearProperty | setVoltage | setParam | setChannelChanged |
    setChannelRetry | clearChannelChanged =>
    exact iff_of_true (fun h ↦ by simp at h) (fun h ↦ nomatch h)

theorem accounted_of_request {v next : ClientServer} {op : Op}
    (hop : op = .getSetupData ∨ op = .getPlayData) (hmatches : RequestMatches v op)
    (h : stepBoth v op = some next) : Accounted next := by
  have hdropped : next.dropped = ∅ := by
    obtain ⟨config, -, rfl⟩ := Option.map_eq_some_iff.mp h
    rcases hop with rfl | rfl <;> rfl
  refine ⟨?_, Or.inl hdropped⟩
  rw [hdropped, Finset.union_empty]
  exact hmatches hop next h

theorem stepBoth_accounted {v next : ClientServer} {op : Op} (hv : Accounted v)
    (hok : NothingDropped v op) (h : stepBoth v op = some next) : Accounted next := by
  by_cases hop : op = .getSetupData ∨ op = .getPlayData
  · exact accounted_of_request hop ((requestMatches_iff hv op).mpr hok) h
  obtain ⟨hsetup, hplay⟩ := not_or.mp hop
  obtain ⟨config, hconfig, hnext⟩ := Option.map_eq_some_iff.mp h
  by_cases hclear : op = .clearProperty
  · subst hclear
    obtain rfl := Option.some.inj hconfig
    subst hnext
    refine ⟨?_, Or.inr (requestedPids_clearProperty v.config)⟩
    show v.server = (clearProperty v.config).requestedPids ∪ (v.dropped ∪ v.config.requestedPids)
    rw [requestedPids_clearProperty, Finset.empty_union, hv.server, Finset.union_comm]
  · have hrequested := requestedPids_step hsetup hplay hclear hconfig
    have hsame : next = ⟨config, v.server, v.dropped⟩ := by
      rw [← hnext]
      cases op <;> first | rfl | contradiction
    subst hsame
    exact ⟨by rw [hv.server, hrequested], by rw [hrequested]; exact hv.dropped⟩

/-- For every run that begins with a SETUP: behind each request the server has joined exactly the
pids that the client regards as requested if and only if, before each PLAY without tuning
parameters, `clearProperty` took nothing out of `m_requested_pids` that the PLAY does not ask for
again. -/
theorem requests_match_iff (start : ClientServer) (ops : List Op) :
    Runs.EachStep stepBoth RequestMatches start (.getSetupData :: ops) ↔
      Runs.EachStep stepBoth NothingDropped start (.getSetupData :: ops) := by
  have hsetup : RequestMatches start .getSetupData := by
    intro _ next hnext
    obtain rfl := Option.some.inj hnext
    exact replaySetup_getSetupData start.config
  have hrest : ∀ next, stepBoth start .getSetupData = some next →
      (Runs.EachStep stepBoth RequestMatches next ops ↔
        Runs.EachStep stepBoth NothingDropped next ops) := by
    intro next hnext
    have haccounted := accounted_of_request (Or.inl rfl) hsetup hnext
    exact Runs.eachStep_congr (fun v op hv ↦ requestMatches_iff hv op)
      (fun v op next hv hok hstep ↦ stepBoth_accounted hv hok hstep) haccounted ops
  constructor
  · intro hmatches
    refine ⟨?_, fun next hnext ↦ (hrest next hnext).mp (hmatches.2 next hnext)⟩
    exact fun hplay ↦ nomatch hplay
  · intro hnothing
    exact ⟨hsetup, fun next hnext ↦ (hrest next hnext).mpr (hnothing.2 next hnext)⟩

/-- A property list is cleared between two pid lists, and the tune is still to come. -/
def droppedRun : List Op :=
  [.updatePidList [100], .getPlayData, .clearProperty, .updatePidList [200]]

/-- The server keeps pid 100, which the client no longer knows of. -/
theorem not_requests_match :
    ¬ ∀ feType settings server ops,
      Runs.EachStep stepBoth RequestMatches ⟨construct feType settings, server, ∅⟩
        (.getSetupData :: ops) := by
  intro h
  have hfields : (Runs.run stepBoth ⟨construct 0 {}, ∅, ∅⟩ (.getSetupData :: droppedRun)).bind
      (fun v ↦ (stepBoth v .getPlayData).map fun next ↦
        (next.server, next.config.requestedPids)) = some ({100, 200}, {200}) := by
    decide +kernel
  obtain ⟨v, hrun, hfields⟩ := Option.bind_eq_some_iff.mp hfields
  obtain ⟨next, hnext, hsets⟩ := Option.map_eq_some_iff.mp hfields
  have hlast : RequestMatches v .getPlayData :=
    Runs.EachStep.of_run (h 0 {} ∅ (droppedRun ++ [.getPlayData])) hrun
  have hmatches := hlast (Or.inr rfl) next hnext
  rw [(Prod.mk.inj hsets).1, (Prod.mk.inj hsets).2] at hmatches
  revert hmatches
  decide

end SatipClient.Config
