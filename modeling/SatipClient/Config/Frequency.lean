import SatipClient.Config.PlayDiff

/-!
# The frequency of a request

`getTuningData` writes the frequency in megahertz, with a tenth where there is one.  Whoever reads
the parameter gets the number of tenths that the configuration holds (`freqs_satTuningData`).
-/

namespace SatipClient.Config

open QueryString

/-- A number with at most one decimal place, in tenths. -/
def tenths (text : List Char) : ℕ :=
  match text.splitOn '.' with
  | whole :: tenth :: _ => 10 * Nat.ofDigitChars 10 whole 0 + Nat.ofDigitChars 10 tenth 0
  | [whole] => 10 * Nat.ofDigitChars 10 whole 0
  | [] => 0

/-- The frequencies that the tuning parameters name, in tenths of a megahertz. -/
def freqs (text : String) : List ℕ := (valuesOf "freq" (fields text)).map tenths

/-- A parameter other than the frequency. -/
def NotFreq (field : List Char) : Prop := key field ≠ "freq".toList

instance : DecidablePred NotFreq := fun field ↦
  inferInstanceAs (Decidable (key field ≠ "freq".toList))

theorem freqs_append (front : String) {back : String} (h : Joinable back) :
    freqs (front ++ back) = freqs front ++ freqs back := by
  rw [freqs, fields_append h, valuesOf_append, List.map_append, freqs, freqs]

theorem freqs_of_notFreq {text : String} (h : Params NotFreq text) : freqs text = [] := by
  have hnone : valuesOf "freq" (fields text) = [] := by
    rw [valuesOf, List.filterMap_eq_nil_iff]
    intro field hfield
    exact if_neg (h.2 field hfield)
  rw [freqs, hnone, List.map_nil]

theorem freqs_append_notFreq {front back : String} (h : Params NotFreq back) :
    freqs (front ++ back) = freqs front := by
  rw [freqs_append front h.1, freqs_of_notFreq h, List.append_nil]

theorem params_notFreq {name value : String} (hname : name.toList.head? = some '&')
    (hplain : '&' ∉ name.toList.tail) (hequals : '=' ∈ name.toList.tail)
    (hkey : key name.toList.tail ≠ "freq".toList) (hvalue : '&' ∉ value.toList) :
    Params NotFreq (name ++ value) := by
  apply params_of_name hname hplain hvalue
  rw [NotFreq, key_append hequals]
  exact hkey

/-! ## The text of the frequency -/

theorem ofDigitChars_natRepr (n : ℕ) : Nat.ofDigitChars 10 (toString n).toList 0 = n := by
  rw [Nat.toString_eq_repr, Nat.toList_repr]
  exact Nat.ofDigitChars_toDigits (by decide) (by decide)

theorem tenths_whole (n : ℕ) : tenths (toString n).toList = 10 * n := by
  rw [tenths, List.splitOn_eq_singleton (notMem_natRepr rfl n)]
  dsimp only
  rw [ofDigitChars_natRepr]

theorem tenths_decimal (whole tenth : ℕ) :
    tenths ((toString whole).toList ++ '.' :: (toString tenth).toList) = 10 * whole + tenth := by
  have hsplit : ((toString whole).toList ++ '.' :: (toString tenth).toList).splitOn '.' =
      [(toString whole).toList, (toString tenth).toList] := by
    rw [List.splitOn_append_cons_self_of_not_mem (notMem_natRepr rfl whole),
      List.splitOn_eq_singleton (notMem_natRepr rfl tenth)]
  rw [tenths, hsplit]
  dsimp only
  rw [ofDigitChars_natRepr, ofDigitChars_natRepr]

theorem freqs_name {value : String} (h : '&' ∉ value.toList) :
    freqs ("&freq=" ++ value) = [tenths value.toList] := by
  have hwhole : ("&freq=" ++ value).toList = '&' :: ("freq".toList ++ '=' :: value.toList) := by
    rw [String.toList_append]
    rfl
  have hplain : '&' ∉ "freq".toList ++ '=' :: value.toList := by
    rw [List.mem_append, List.mem_cons]
    exact not_or.mpr ⟨by decide, not_or.mpr ⟨by decide, h⟩⟩
  rw [freqs, fields_of_notMem hwhole hplain, valuesOf, List.filterMap_cons, key_eq (by decide),
    value_eq (by decide), if_pos rfl, List.filterMap_nil, List.map_singleton]

theorem freqs_frequencyText (frequency : ℕ) : freqs (frequencyText frequency) = [frequency] := by
  unfold frequencyText
  split
  · have hplain :
        '&' ∉ (toString (frequency / 10) ++ ("." ++ toString (frequency % 10))).toList := by
      simp only [String.toList_append, List.mem_append, not_or]
      exact ⟨notMem_natRepr rfl _, by decide, notMem_natRepr rfl _⟩
    have hvalue : (toString (frequency / 10) ++ ("." ++ toString (frequency % 10))).toList =
        (toString (frequency / 10)).toList ++ '.' :: (toString (frequency % 10)).toList := by
      rw [String.toList_append, String.toList_append]
      rfl
    rw [String.append_assoc, String.append_assoc, freqs_name hplain, hvalue, tenths_decimal,
      Nat.div_add_mod]
  · rw [freqs_name (notMem_natRepr rfl _), tenths_whole]
    congr 1
    omega

/-! ## The tuning parameters of a satellite frontend -/

theorem freqs_satTuningData (signalSource : ℤ) (pol : TypePol) (fe : Frontend) :
    freqs (satTuningData signalSource pol fe) = [fe.frequency] := by
  have hsource : Params NotFreq ("&src=" ++ toString signalSource) :=
    params_notFreq (by decide) (by decide) (by decide) (by decide)
      (notMem_intRepr rfl (by decide) signalSource)
  have hpol : Params NotFreq "&pol=h" ∧ Params NotFreq "&pol=v" := by decide
  have hmsys : Params NotFreq (switchText fe.msys
      [(sysDvbs, "&msys=dvbs"), (sysDvbs2, "&msys=dvbs2")] "&msys=dvbs") :=
    params_switchText _ (by decide) (by decide)
  have hsymrate : Params NotFreq ("&sr=" ++ toString fe.symrate) :=
    params_notFreq (by decide) (by decide) (by decide) (by decide)
      (notMem_intRepr rfl (by decide) fe.symrate)
  have hfec : Params NotFreq (switchText fe.fec satFecCases "") :=
    params_switchText _ (by decide) (by decide)
  have hrolloff : Params NotFreq (switchText fe.rolloff
      [(0, "&ro=0.35"), (1, "&ro=0.20"), (2, "&ro=0.25")] "&ro=0.35") :=
    params_switchText _ (by decide) (by decide)
  have hmtype : Params NotFreq (switchText fe.mtype
      [(0, "&mtype=qpsk"), (9, "&mtype=8psk")] "&mtype=qpsk") :=
    params_switchText _ (by decide) (by decide)
  have hpilot : Params NotFreq (switchText fe.pilot
      [(pilotOn, "&plts=on"), (pilotOff, "&plts=off")] "") :=
    params_switchText _ (by decide) (by decide)
  have hisi (n : ℕ) : Params NotFreq ("&isi=" ++ toString n) :=
    params_notFreq (by decide) (by decide) (by decide) (by decide) (notMem_natRepr rfl n)
  have hplsc (n : ℕ) : Params NotFreq ("&plsc=" ++ toString n) :=
    params_notFreq (by decide) (by decide) (by decide) (by decide) (notMem_natRepr rfl n)
  have hstream : Params NotFreq
      (if fe.msys = sysDvbs2 then streamText fe.plpid fe.plsCode else "") :=
    params_ite _ ((params_ite _ (hisi _)).append (params_ite _ (hplsc _)))
  unfold satTuningData
  rw [freqs_append_notFreq hstream, freqs_append_notFreq hpilot, freqs_append_notFreq hmtype,
    freqs_append_notFreq hrolloff, freqs_append_notFreq hfec, String.append_assoc,
    freqs_append_notFreq hsymrate, freqs_append_notFreq hmsys]
  have hfront : freqs ("&src=" ++ toString signalSource ++ frequencyText fe.frequency) =
      [fe.frequency] := by
    rw [freqs_append _ (params_frequencyText fe.frequency).1, freqs_of_notFreq hsource,
      freqs_frequencyText, List.nil_append]
  cases pol with
  | horizontal => rw [freqs_append_notFreq hpol.1, hfront]
  | vertical => rw [freqs_append_notFreq hpol.2, hfront]

/-- The one frequency in the tuning parameters of a satellite tuner that was tuned. -/
theorem freqs_tuningText {s : SatipConfig} (hsat : s.feType = feTypeSat)
    (hchanged : s.status = .changed) : freqs (tuningText s) = [s.frontend.frequency] := by
  have hforced : (forcePilot s.settings s.feType s.frontend).frequency = s.frontend.frequency := by
    unfold forcePilot
    split <;> rfl
  have hnumber : Params NotFreq
      (if 0 < s.settings.feNumber then "&fe=" ++ toString s.settings.feNumber else "") :=
    params_ite _ (params_notFreq (by decide) (by decide) (by decide) (by decide)
      (notMem_intRepr rfl (by decide) _))
  rw [tuningText, if_pos hchanged, tuningData, if_pos hsat,
    freqs_append _ (params_satTuningData _ _ _).1, freqs_of_notFreq hnumber, freqs_satTuningData,
    hforced, List.nil_append]

end SatipClient.Config
