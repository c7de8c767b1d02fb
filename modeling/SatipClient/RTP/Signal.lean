import Mathlib.Tactic.Ring
import SatipClient.RTP.State

/-!
# Signal values

A report says in its `tuner` field how strong and how good the signal is.  The values are in range,
and the SNR made of them is exact, for just those payloads that meet `Reports`
(`signal_exact_iff`): a field in which one of the numbers is missing leaves variables without a
value, the first comma may be one of a later field, and neither the numbers of the server nor the
product of two signal values are kept in the range of an `int`.
-/

namespace SatipClient.RTP

open CString

/-- The text in which the numbers are looked for: all that follows `;tuner=`. -/
def behindTuner (payload : List UInt8) : Option (List UInt8) :=
  (strstr (ascii ";tuner=") payload).map fun found ↦ found.drop 7

/-- The `tuner` field, which ends in front of the next semicolon. -/
def tunerField (payload : List UInt8) : Option (List UInt8) :=
  (behindTuner payload).map fun text ↦ text.takeWhile (· ≠ 59)

/-- Up to three numbers behind the first comma of a text. -/
def numbersOf (text : List UInt8) : List ℤ := ((strchr 44 text).map (scanInts 3)).getD []

/-- The level, the lock and the quality that the `tuner` field reports. -/
def reported (payload : List UInt8) : Option (ℤ × ℤ × ℤ) :=
  (tunerField payload).bind fun field ↦
    match numbersOf field with
    | [level, lock, quality] => some (level, lock, quality)
    | _ => none

/-- The signal values of a report; a negative number counts as 0. -/
def decoded (level lock quality : ℤ) : Signal where
  hasLock := lock ≠ 0
  signalStrength := max level 0 * 65535 / 255
  signalQuality := if lock = 0 then 0 else max quality 0 * 65535 / 15

/-- The signal values that a payload stands for. -/
def expected (payload : List UInt8) : Signal :=
  match reported payload with
  | none => {}
  | some (level, lock, quality) => decoded level lock quality

/-- The value is in the range of a signal value. -/
def InRange (value : ℤ) : Prop := 0 ≤ value ∧ value ≤ 65535

/-- The payload gives the signal values that it stands for, they are in range, and the SNR is
computed from them exactly. -/
def SignalExact (payload : List UInt8) : Prop :=
  ∃ signal, parseRtcpAppPayload payload = some signal ∧ signal = expected payload ∧
    InRange signal.signalStrength ∧ InRange signal.signalQuality ∧
    ∃ snr, readSnr signal = some snr ∧
      (snr : ℤ) = signal.signalStrength * signal.signalQuality / 65535

/-- The numbers of a report are such that its signal values fit. -/
def Fits (level lock quality : ℤ) : Prop :=
  level ≤ 255 ∧ (lock = 0 ∨ quality ≤ 15 ∧ max level 0 * max quality 0 ≤ 1912)

/-- No `tuner` field; or one with three numbers that fit; or one without, where the numbers behind
the first comma that follows say that there is no signal. -/
inductive Reports (payload : List UInt8) : Prop where
  | noField (h : behindTuner payload = none)
  | complete (level lock quality : ℤ) (h : reported payload = some (level, lock, quality))
      (fits : Fits level lock quality)
  | noSignal (text : List UInt8) (level : ℤ) (more : List ℤ) (h : reported payload = none)
      (htext : behindTuner payload = some text) (hnumbers : numbersOf text = level :: 0 :: more)
      (nonpos : level ≤ 0)

/-! ## What is scanned -/

theorem endsNumbers_semicolon : EndsNumbers 59 where
  not_digit := by decide
  not_blank := by decide
  ne_plus := by decide
  ne_minus := by decide
  ne_comma := by decide

/-- The numbers of the field are those found behind it, or none. -/
theorem numbersOf_takeWhile (text : List UInt8) :
    numbersOf (text.takeWhile (· ≠ 59)) = numbersOf text ∨
      numbersOf (text.takeWhile (· ≠ 59)) = [] := by
  cases hcomma : strchr 44 (text.takeWhile (· ≠ 59)) with
  | none =>
    right
    rw [numbersOf, hcomma]
    rfl
  | some found =>
    left
    have hsplit : text.takeWhile (· ≠ 59) ++ text.dropWhile (· ≠ 59) = text :=
      List.takeWhile_append_dropWhile
    have hbehind := strchr_append hcomma (text.dropWhile (· ≠ 59))
    rw [hsplit] at hbehind
    rw [numbersOf, numbersOf, hcomma, hbehind]
    change scanInts 3 found = scanInts 3 (found ++ text.dropWhile (· ≠ 59))
    cases hrest : text.dropWhile (· ≠ 59) with
    | nil => rw [List.append_nil]
    | cons stop more =>
      have hstop : stop = 59 := by
        have hhead := List.head?_dropWhile_not (p := (· ≠ 59)) text
        rw [hrest] at hhead
        simpa using hhead
      rw [hstop, scanInts_stop endsNumbers_semicolon]

/-- The signal values made of the numbers that were scanned. -/
def signalOf (values : List ℤ) : Option Signal := do
  let level ← values[0]?
  let signalStrength ← scale level 255
  let lock ← values[1]?
  if lock = 0 then some { signalStrength := signalStrength }
  else do
    let quality ← values[2]?
    let signalQuality ← scale quality 15
    some { hasLock := true, signalStrength := signalStrength, signalQuality := signalQuality }

theorem parseRtcpAppPayload_eq (payload : List UInt8) :
    parseRtcpAppPayload payload =
      match behindTuner payload with
      | none => some {}
      | some text => signalOf (numbersOf text) := by
  unfold parseRtcpAppPayload behindTuner
  cases hfound : strstr (ascii ";tuner=") payload with
  | none => rfl
  | some found =>
    obtain ⟨text, rfl⟩ := strstr_starts hfound
    have hcomma : strstr (ascii ",") (ascii ";tuner=" ++ text) = strchr 44 text :=
      (strstr_singleton 44 _).trans (strchr_append_of_notMem (by decide) text)
    have htext : (ascii ";tuner=" ++ text).drop 7 = text := List.drop_left' rfl
    simp only [Option.map_some, hcomma, htext, numbersOf]
    cases strchr 44 text with
    | none => rfl
    | some found => rfl

/-! ## Scaling -/

theorem toInt_of_bounds {value : ℤ} (hlow : 0 ≤ value) (hhigh : value < 2 ^ 31) :
    toInt value = some value :=
  if_pos ⟨Int.le_trans (by decide) hlow, hhigh⟩

/-- Numbers up to 255 are scaled without overflow. -/
theorem scale_of_le {value : ℤ} (h : value ≤ 255) (range : ℤ) :
    scale value range = some (max value 0 * 65535 / range) := by
  unfold scale
  by_cases hvalue : 0 ≤ value
  · rw [if_pos hvalue, max_eq_left hvalue, toInt_of_bounds (by omega) (by omega)]
    rfl
  · rw [if_neg hvalue, max_eq_right (by omega), Int.zero_mul, Int.zero_ediv]

theorem scale_eq_zero_iff {value : ℤ} : scale value 255 = some 0 ↔ value ≤ 0 := by
  constructor
  · intro h
    by_contra hpos
    unfold scale toInt at h
    rw [if_pos (by omega)] at h
    split at h
    · have hzero : value * 65535 / 255 = 0 := Option.some.inj h
      omega
    · cases h
  · intro h
    rw [scale_of_le (by omega), max_eq_right h]
    rfl

theorem signalOf_eq_empty_iff (values : List ℤ) :
    signalOf values = some {} ↔ ∃ level more, values = level :: 0 :: more ∧ level ≤ 0 := by
  match values with
  | [] => simp [signalOf]
  | [level] => simp [signalOf]
  | level :: lock :: more =>
    cases hscale : scale level 255 with
    | none =>
      have hpos : ¬level ≤ 0 := by
        rw [← scale_eq_zero_iff, hscale]
        simp
      simp [signalOf, hscale, hpos]
    | some strength =>
      have hzero : strength = 0 ↔ level ≤ 0 := by
        rw [← scale_eq_zero_iff, hscale, Option.some_inj]
      by_cases hlock : lock = 0
      · simp [signalOf, hscale, hlock, hzero]
      · simp [signalOf, hscale, hlock, Option.bind_eq_some_iff]

theorem signalOf_of_le {level lock quality : ℤ} (hlevel : level ≤ 255)
    (hquality : lock = 0 ∨ quality ≤ 15) :
    signalOf [level, lock, quality] = some (decoded level lock quality) := by
  by_cases hlock : lock = 0
  · simp [signalOf, scale_of_le hlevel, hlock, decoded]
  · have hsmall : quality ≤ 255 := by omega
    simp [signalOf, scale_of_le hlevel, scale_of_le hsmall, hlock, decoded]

/-! ## The SNR -/

theorem toU16_of_inRange {value : ℤ} (h : InRange value) : (toU16 value : ℤ) = value := by
  obtain ⟨hlow, hhigh⟩ := h
  rw [toU16]
  omega

/-- The SNR is exact when the product does not leave the range of an `int`. -/
theorem readSnr_exact_iff {signal : Signal} (hstrength : InRange signal.signalStrength)
    (hquality : InRange signal.signalQuality) :
    (∃ snr, readSnr signal = some snr ∧
        (snr : ℤ) = signal.signalStrength * signal.signalQuality / 65535) ↔
      signal.signalStrength * signal.signalQuality < 2 ^ 31 := by
  have hlow : 0 ≤ signal.signalStrength * signal.signalQuality :=
    Int.mul_nonneg hstrength.1 hquality.1
  rw [readSnr, toU16_of_inRange hstrength, toU16_of_inRange hquality]
  generalize signal.signalStrength * signal.signalQuality = product at hlow
  constructor
  · rintro ⟨snr, hsnr, -⟩
    by_contra hlarge
    rw [toInt, if_neg fun h ↦ hlarge h.2] at hsnr
    cases hsnr
  · intro hhigh
    rw [toInt_of_bounds hlow hhigh]
    have hrange : InRange (product / 65535) := by
      constructor <;> omega
    exact ⟨_, rfl, toU16_of_inRange hrange⟩

/-- The numbers fit when the signal values do. -/
theorem fits_iff (level lock quality : ℤ) :
    Fits level lock quality ↔ InRange (decoded level lock quality).signalStrength ∧
      InRange (decoded level lock quality).signalQuality ∧
      (decoded level lock quality).signalStrength * (decoded level lock quality).signalQuality <
        2 ^ 31 := by
  have hstrength : (decoded level lock quality).signalStrength = 257 * max level 0 := by
    change max level 0 * 65535 / 255 = 257 * max level 0
    omega
  have hstrengthRange : InRange (257 * max level 0) ↔ level ≤ 255 := by
    unfold InRange
    omega
  rw [hstrength, hstrengthRange]
  by_cases hlock : lock = 0
  · have hquality : (decoded level lock quality).signalQuality = 0 := if_pos hlock
    rw [hquality, Int.mul_zero]
    simp [Fits, InRange, hlock]
  · have hquality : (decoded level lock quality).signalQuality = 4369 * max quality 0 := by
      change (if lock = 0 then 0 else max quality 0 * 65535 / 15) = 4369 * max quality 0
      rw [if_neg hlock]
      omega
    have hqualityRange : InRange (4369 * max quality 0) ↔ quality ≤ 15 := by
      unfold InRange
      omega
    have hproduct : 257 * max level 0 * (4369 * max quality 0) =
        1122833 * (max level 0 * max quality 0) := by ring
    rw [hquality, hqualityRange, hproduct, Fits]
    generalize max level 0 * max quality 0 = product
    omega

/-! ## Which payloads are decoded exactly -/

theorem numbersOf_of_reported {payload text : List UInt8} {level lock quality : ℤ}
    (htext : behindTuner payload = some text)
    (h : reported payload = some (level, lock, quality)) :
    numbersOf text = [level, lock, quality] := by
  rw [reported, tunerField, htext] at h
  have hfield : numbersOf (text.takeWhile (· ≠ 59)) = [level, lock, quality] := by
    simp only [Option.map_some, Option.bind_some] at h
    split at h
    case h_1 heq =>
      obtain ⟨rfl, rfl, rfl⟩ : _ = level ∧ _ = lock ∧ _ = quality := by simpa using h
      exact heq
    case h_2 => cases h
  rcases numbersOf_takeWhile text with hsame | hnone
  · rw [← hsame, hfield]
  · rw [hfield] at hnone
    cases hnone

/-- The signal values and the SNR are exact just for the payloads with such a report. -/
theorem signal_exact_iff (payload : List UInt8) : SignalExact payload ↔ Reports payload := by
  have hempty : InRange ({} : Signal).signalStrength ∧ InRange ({} : Signal).signalQuality ∧
      ∃ snr, readSnr {} = some snr ∧
        (snr : ℤ) = ({} : Signal).signalStrength * ({} : Signal).signalQuality / 65535 :=
    ⟨⟨by decide, by decide⟩, ⟨by decide, by decide⟩, 0, by decide, by decide⟩
  cases htext : behindTuner payload with
  | none =>
    have hexpected : expected payload = {} := by
      rw [expected, reported, tunerField, htext]
      rfl
    have hparse : parseRtcpAppPayload payload = some {} := by rw [parseRtcpAppPayload_eq, htext]
    exact ⟨fun _ ↦ .noField htext, fun _ ↦ ⟨{}, hparse, hexpected.symm, hempty⟩⟩
  | some text =>
    have hparse : parseRtcpAppPayload payload = signalOf (numbersOf text) := by
      rw [parseRtcpAppPayload_eq, htext]
    cases hreported : reported payload with
    | some report =>
      obtain ⟨level, lock, quality⟩ := report
      have hnumbers := numbersOf_of_reported htext hreported
      have hexpected : expected payload = decoded level lock quality := by
        rw [expected, hreported]
      constructor
      · rintro ⟨signal, -, rfl, hstrength, hquality, hsnr⟩
        have hproduct := (readSnr_exact_iff hstrength hquality).mp hsnr
        rw [hexpected] at hstrength hquality hproduct
        exact .complete level lock quality hreported
          ((fits_iff level lock quality).mpr ⟨hstrength, hquality, hproduct⟩)
      · intro h
        have hfits : Fits level lock quality := by
          cases h with
          | noField hnone => cases htext.symm.trans hnone
          | complete level' lock' quality' hreported' hfits =>
            obtain ⟨rfl, rfl, rfl⟩ : level = level' ∧ lock = lock' ∧ quality = quality' := by
              simpa using hreported.symm.trans hreported'
            exact hfits
          | noSignal _ _ _ hnone => cases hreported.symm.trans hnone
        obtain ⟨hstrength, hquality, hproduct⟩ := (fits_iff level lock quality).mp hfits
        have hsignal : signalOf [level, lock, quality] = some (decoded level lock quality) :=
          signalOf_of_le hfits.1 (hfits.2.imp_right And.left)
        refine ⟨decoded level lock quality, ?_, hexpected.symm, hstrength, hquality,
          (readSnr_exact_iff hstrength hquality).mpr hproduct⟩
        rw [hparse, hnumbers, hsignal]
    | none =>
      have hexpected : expected payload = {} := by
        rw [expected, hreported]
      constructor
      · rintro ⟨signal, hsignal, rfl, -⟩
        rw [hparse, hexpected] at hsignal
        obtain ⟨level, more, hnumbers, hlevel⟩ := (signalOf_eq_empty_iff _).mp hsignal
        exact .noSignal text level more hreported htext hnumbers hlevel
      · intro h
        have hnumbers : ∃ level more, numbersOf text = level :: 0 :: more ∧ level ≤ 0 := by
          cases h with
          | noField hnone => cases htext.symm.trans hnone
          | complete _ _ _ hsome => cases hreported.symm.trans hsome
          | noSignal text' level more _ htext' hnumbers hlevel =>
            obtain rfl : text = text' := Option.some.inj (htext.symm.trans htext')
            exact ⟨level, more, hnumbers, hlevel⟩
        exact ⟨{}, hparse.trans ((signalOf_eq_empty_iff _).mpr hnumbers), hexpected.symm, hempty⟩

/-- The best signal that a server can report: the product leaves the range. -/
theorem not_signal_exact :
    ¬ SignalExact (ascii "ver=1.0;src=1;tuner=1,255,1,15,10744.00,h,dvbs;pids=0") := by
  rintro ⟨signal, hsignal, -, -, -, snr, hsnr, -⟩
  have hbest : parseRtcpAppPayload (ascii "ver=1.0;src=1;tuner=1,255,1,15,10744.00,h,dvbs;pids=0") =
      some ⟨true, 65535, 65535⟩ := by decide +kernel
  obtain rfl := Option.some.inj (hbest.symm.trans hsignal)
  cases hsnr

end SatipClient.RTP
