import Mathlib.Tactic.NormNum.Prime
import SatipClient.Config.State
import SatipClient.Foundation.FullPeriod

/-!
# Root and gold codes

The scrambling sequence of a DVB-S2 stream is chosen by a gold code, the number of steps that its
shift register makes before it starts, or by a root code, the state it is then in.  The register
has full period, so the two kinds of code correspond, and `pls_root2gold` finds the gold code of
every root code (`rootToGold_spec`).
-/

namespace SatipClient.Config

open Function LinearRegister

/-- The scrambling register of DVB-S2: bits 0 and 7 are added into bit 17. -/
def scramblerStep (x : BitVec 18) : BitVec 18 :=
  BitVec.cons (x.getLsbD 0 ^^ x.getLsbD 7) (x.extractLsb' 1 17)

theorem toNat_scramblerStep (x : BitVec 18) : (scramblerStep x).toNat = rootStep x.toNat := by
  have hbit : (x.getLsbD 0 ^^ x.getLsbD 7).toNat = (x.toNat ^^^ (x.toNat >>> 7)) &&& 1 := by
    have hlow := Nat.toNat_testBit (x.toNat ^^^ (x.toNat >>> 7)) 0
    rw [Nat.testBit_xor, Nat.testBit_shiftRight, Nat.pow_zero, Nat.div_one] at hlow
    rw [Nat.and_one_is_mod, ← hlow]
    rfl
  have hrest : (x.extractLsb' 1 17).toNat = x.toNat >>> 1 := by
    rw [BitVec.extractLsb'_toNat, Nat.mod_eq_of_lt]
    have hlt := x.isLt
    rw [Nat.shiftRight_eq_div_pow]
    omega
  rw [scramblerStep, BitVec.toNat_cons, hbit, hrest, rootStep]

theorem linear_scramblerStep : Linear scramblerStep := by
  intro a b
  apply BitVec.eq_of_getLsbD_eq
  intro i hi
  simp only [scramblerStep, BitVec.getLsbD_cons, BitVec.getLsbD_xor, BitVec.getLsbD_extractLsb']
  by_cases hlast : i = 17
  · rw [if_pos hlast, if_pos hlast, if_pos hlast]
    rw [Bool.xor_assoc, Bool.xor_left_comm (b.getLsbD 0), ← Bool.xor_assoc]
  · rw [if_neg hlast, if_neg hlast, if_neg hlast, Bool.and_xor_distrib_left]

theorem iterate_scramblerStep (bits : List Bool) (x : BitVec 18) :
    scramblerStep^[count bits] x = leap (columns scramblerStep) bits x :=
  (linear_scramblerStep.leap_columns bits x).symm

/-- The register has full period: its length is `3 ^ 3 * 7 * 19 * 73`. -/
theorem minimalPeriod_scramblerStep : minimalPeriod scramblerStep 1#18 = 2 ^ 18 - 1 := by
  have hperiod : scramblerStep^[262143] 1#18 = 1#18 :=
    (iterate_scramblerStep (List.replicate 18 true) 1#18).trans (by decide +kernel)
  have h3 : scramblerStep^[87381] 1#18 ≠ 1#18 := by
    rw [show 87381 = count [true, false, true, false, true, false, true, false, true, false, true,
      false, true, false, true, false, true] from rfl, iterate_scramblerStep]
    decide +kernel
  have h7 : scramblerStep^[37449] 1#18 ≠ 1#18 := by
    rw [show 37449 = count [true, false, false, true, false, false, true, false, false, true, false,
      false, true, false, false, true] from rfl, iterate_scramblerStep]
    decide +kernel
  have h19 : scramblerStep^[13797] 1#18 ≠ 1#18 := by
    rw [show 13797 = count [true, false, true, false, false, true, true, true, true, false, true,
      false, true, true] from rfl, iterate_scramblerStep]
    decide +kernel
  have h73 : scramblerStep^[3591] 1#18 ≠ 1#18 := by
    rw [show 3591 = count [true, true, true, false, false, false, false, false, false, true, true,
      true] from rfl, iterate_scramblerStep]
    decide +kernel
  apply minimalPeriod_eq_of_prime hperiod
  intro p hp hdvd
  have hfactors : p ∣ 3 ^ 3 * 7 * 19 * 73 := hdvd
  rw [hp.dvd_mul, hp.dvd_mul, hp.dvd_mul] at hfactors
  rcases hfactors with ((hpow | hseven) | hnineteen) | hlast
  · rw [(Nat.prime_dvd_prime_iff_eq hp Nat.prime_three).mp (hp.dvd_of_dvd_pow hpow)]
    exact h3
  · rw [(Nat.prime_dvd_prime_iff_eq hp (by norm_num)).mp hseven]
    exact h7
  · rw [(Nat.prime_dvd_prime_iff_eq hp (by norm_num)).mp hnineteen]
    exact h19
  · rw [(Nat.prime_dvd_prime_iff_eq hp (by norm_num)).mp hlast]
    exact h73

/-! ## The search -/

/-- The search stops at the first state that is the root code. -/
theorem rootToGoldFrom_eq {root x : ℕ} (g : ℕ) {k left : ℕ} (hk : k < left)
    (hroot : rootStep^[k] x = root) (hfirst : ∀ j < k, rootStep^[j] x ≠ root) :
    rootToGoldFrom root x g left = g + k := by
  induction k generalizing x g left with
  | zero =>
    obtain ⟨left, rfl⟩ := Nat.exists_eq_succ_of_ne_zero (Nat.ne_of_gt hk)
    exact if_pos hroot.symm
  | succ k ih =>
    obtain ⟨left, rfl⟩ := Nat.exists_eq_succ_of_ne_zero (Nat.ne_zero_of_lt hk)
    have hne : root ≠ x := fun heq ↦ hfirst 0 (Nat.succ_pos k) heq.symm
    have hrest : ∀ j < k, rootStep^[j] (rootStep x) ≠ root := fun j hj ↦
      hfirst (j + 1) (Nat.succ_lt_succ hj)
    rw [rootToGoldFrom, if_neg hne, ih (g + 1) (Nat.lt_of_succ_lt_succ hk) hroot hrest]
    omega

theorem toNat_iterate_scramblerStep (k : ℕ) (x : BitVec 18) :
    (scramblerStep^[k] x).toNat = rootStep^[k] x.toNat := by
  induction k generalizing x with
  | zero => rfl
  | succ k ih => rw [iterate_succ_apply, iterate_succ_apply, ih, toNat_scramblerStep]

/-- The gold code of a root code is the number of steps that lead to it. -/
theorem rootToGold_spec {root : ℕ} (hpos : 0 < root) (hroot : root < 2 ^ 18) :
    plsRoot2gold root < 2 ^ 18 - 1 ∧
      (scramblerStep^[plsRoot2gold root] 1#18).toNat = root ∧
      ∀ g < 2 ^ 18 - 1, (scramblerStep^[g] 1#18).toNat = root → g = plsRoot2gold root := by
  have hvalue : (BitVec.ofNat 18 root).toNat = root := Nat.mod_eq_of_lt hroot
  have hne : BitVec.ofNat 18 root ≠ 0#18 := by
    intro hzero
    rw [hzero] at hvalue
    exact Nat.ne_of_lt hpos hvalue
  obtain ⟨k, hk, hstate⟩ := linear_scramblerStep.exists_iterate_eq (by decide)
    minimalPeriod_scramblerStep hne
  have hunique : ∀ g < 2 ^ 18 - 1, (scramblerStep^[g] 1#18).toNat = root → g = k := by
    intro g hg hsame
    have hgk : scramblerStep^[g] 1#18 = scramblerStep^[k] 1#18 := by
      apply BitVec.eq_of_toNat_eq
      rw [hsame, hstate, hvalue]
    rw [← minimalPeriod_scramblerStep] at hg hk
    exact iterate_injOn_Iio_minimalPeriod hg hk hgk
  have hgold : plsRoot2gold root = k := by
    have hfound : rootToGoldFrom root 1 0 0x3ffff = 0 + k := by
      apply rootToGoldFrom_eq 0 hk
      · rw [← hvalue, ← hstate, toNat_iterate_scramblerStep]
        rfl
      · intro j hj hsame
        have htoNat := toNat_iterate_scramblerStep j 1#18
        exact Nat.ne_of_lt hj (hunique j (Nat.lt_trans hj hk) (htoNat.trans hsame))
    rw [plsRoot2gold, hfound, Nat.zero_add]
  rw [hgold]
  exact ⟨hk, by rw [hstate, hvalue], hunique⟩

/-! ## Packed stream ids -/

/-- The number that holds a mode, a code and a stream. -/
def packedStream (mode code isi : ℕ) : ℕ := (mode <<< 26) ||| (code <<< 8) ||| isi

/-- The pls code of such a stream: a root code, of mode 0, is converted. -/
def plsCodeOf (mode code : ℕ) : ℕ := if mode = 0 then plsRoot2gold code else code

variable {mode code isi : ℕ}

theorem packedStream_eq (hcode : code < 2 ^ 18) (hisi : isi < 2 ^ 8) :
    packedStream mode code isi = mode * 2 ^ 26 + code * 2 ^ 8 + isi := by
  have hlow : (code <<< 8) ||| isi = code * 2 ^ 8 + isi := by
    rw [← Nat.shiftLeft_add_eq_or_of_lt hisi, Nat.shiftLeft_eq]
  have hlt : code * 2 ^ 8 + isi < 2 ^ 26 := by omega
  rw [packedStream, Nat.or_assoc, hlow, ← Nat.shiftLeft_add_eq_or_of_lt hlt, Nat.shiftLeft_eq,
    Nat.add_assoc]

/-- The three parts of a packed stream id are read back. -/
theorem packedStream_parts (hmode : mode < 4) (hcode : code < 2 ^ 18) (hisi : isi < 2 ^ 8) :
    (packedStream mode code isi >>> 26) &&& 3 = mode ∧
      (packedStream mode code isi >>> 8) &&& 0x3ffff = code ∧
      packedStream mode code isi &&& 0xff = isi := by
  have hmask : ∀ n, n &&& 3 = n % 2 ^ 2 ∧ n &&& 0x3ffff = n % 2 ^ 18 ∧ n &&& 0xff = n % 2 ^ 8 :=
    fun n ↦ ⟨Nat.and_two_pow_sub_one_eq_mod n 2, Nat.and_two_pow_sub_one_eq_mod n 18,
      Nat.and_two_pow_sub_one_eq_mod n 8⟩
  rw [(hmask _).1, (hmask _).2.1, (hmask _).2.2, packedStream_eq hcode hisi,
    Nat.shiftRight_eq_div_pow, Nat.shiftRight_eq_div_pow]
  omega

theorem streamText_packed (hmode : mode ≤ 2) (hpos : 0 < code) (hcode : code < 2 ^ 18)
    (hisi : isi ≤ 255) (plsCode : ℤ) :
    streamText (packedStream mode code isi) plsCode = "&isi=" ++ toString isi ++
      if plsCodeOf mode code = 0 then "" else "&plsc=" ++ toString (plsCodeOf mode code) := by
  have hbyte : isi < 2 ^ 8 := Nat.lt_succ_of_le hisi
  have hvalue : packedStream mode code isi = mode * 2 ^ 26 + code * 2 ^ 8 + isi :=
    packedStream_eq hcode hbyte
  have hparts := packedStream_parts (Nat.lt_of_le_of_lt hmode (by decide)) hcode hbyte
  have hlarge : (255 : ℤ) < (packedStream mode code isi : ℤ) := by omega
  have hfilter : toUnsigned (packedStream mode code isi) ≠ noStreamIdFilter := by
    rw [toUnsigned, noStreamIdFilter]
    omega
  have hstream : 0 < (packedStream mode code isi : ℤ) ∧
      toUnsigned (packedStream mode code isi) ≠ noStreamIdFilter :=
    ⟨Int.lt_trans (by decide) hlarge, hfilter⟩
  have hcodeText : ∀ n : ℕ, (if 0 < n then "&plsc=" ++ toString n else "") =
      if n = 0 then "" else "&plsc=" ++ toString n := by
    intro n
    cases n with
    | zero => rfl
    | succ n => rfl
  have hboth := And.intro hstream hlarge
  rw [streamText, hcodeText, if_pos hstream, if_pos hboth, Int.toNat_natCast, hparts.1,
    hparts.2.1, hparts.2.2, plsCodeOf]

theorem satTuningData_stream {fe : Frontend} (hmsys : fe.msys = sysDvbs2) (signalSource : ℤ)
    (pol : TypePol) :
    satTuningData signalSource pol fe =
      satTuningData signalSource pol { fe with plpid := 0, plsCode := 0 } ++
        streamText fe.plpid fe.plsCode := by
  have hplain : streamText 0 0 = "" := rfl
  unfold satTuningData
  rw [if_pos hmsys, if_pos hmsys, hplain, String.append_empty]

theorem tuningText_sat {s : SatipConfig} (hstatus : s.status = .changed)
    (hsat : s.feType = feTypeSat) :
    tuningText s =
      (if 0 < s.settings.feNumber then "&fe=" ++ toString s.settings.feNumber else "") ++
        satTuningData s.signalSource s.pol (forcePilot s.settings s.feType s.frontend) := by
  rw [tuningText, if_pos hstatus, tuningData, if_pos hsat]

theorem forcePilot_stream (settings : Settings) (feType : ℤ) (fe : Frontend) (plpid plsCode : ℤ) :
    forcePilot settings feType { fe with plpid := plpid, plsCode := plsCode } =
      { forcePilot settings feType fe with plpid := plpid, plsCode := plsCode } := by
  unfold forcePilot
  by_cases hsat : feType = feTypeSat
  · rw [if_pos hsat, if_pos hsat]
  · rw [if_neg hsat, if_neg hsat]

/-- A stream only adds its text to the tuning data. -/
theorem tuningText_stream {s : SatipConfig} (hstatus : s.status = .changed)
    (hsat : s.feType = feTypeSat) (hmsys : s.frontend.msys = sysDvbs2) :
    tuningText s =
      tuningText { s with frontend := { s.frontend with plpid := 0, plsCode := 0 } } ++
        streamText s.frontend.plpid s.frontend.plsCode := by
  have hforced : forcePilot s.settings s.feType s.frontend =
      { forcePilot s.settings s.feType s.frontend with
        plpid := s.frontend.plpid, plsCode := s.frontend.plsCode } :=
    forcePilot_stream s.settings s.feType s.frontend s.frontend.plpid s.frontend.plsCode
  have hforcedMsys : (forcePilot s.settings s.feType s.frontend).msys = sysDvbs2 := by
    rw [forcePilot, if_pos hsat]
    exact hmsys
  have hplain := tuningText_sat
    (s := { s with frontend := { s.frontend with plpid := 0, plsCode := 0 } }) hstatus hsat
  rw [forcePilot_stream] at hplain
  rw [hplain, tuningText_sat hstatus hsat, satTuningData_stream hforcedMsys, ← String.append_assoc,
    hforced]

/-- `pls_root2gold` inverts the scrambling register on every root code, so it is one-to-one there
and never fails; the tuning data of a packed stream id carry the stream and its gold code. -/
theorem goldCode_exact :
    (∀ root, 0 < root → root < 2 ^ 18 →
      plsRoot2gold root < 2 ^ 18 - 1 ∧
        (scramblerStep^[plsRoot2gold root] 1#18).toNat = root ∧
        ∀ g < 2 ^ 18 - 1, (scramblerStep^[g] 1#18).toNat = root → g = plsRoot2gold root) ∧
    Set.InjOn plsRoot2gold (Set.Ioo 0 (2 ^ 18)) ∧
    ∀ (s : SatipConfig) (mode code isi : ℕ), s.status = .changed → s.feType = feTypeSat →
      s.frontend.msys = sysDvbs2 → mode ≤ 2 → 0 < code → code < 2 ^ 18 → isi ≤ 255 →
      s.frontend.plpid = packedStream mode code isi →
      tuningText s =
        tuningText { s with frontend := { s.frontend with plpid := 0, plsCode := 0 } } ++
          ("&isi=" ++ toString isi ++
            if plsCodeOf mode code = 0 then ""
            else "&plsc=" ++ toString (plsCodeOf mode code)) := by
  refine ⟨fun root hpos hroot ↦ rootToGold_spec hpos hroot, ?_, ?_⟩
  · intro root hroot other hother hgold
    calc root = (scramblerStep^[plsRoot2gold root] 1#18).toNat :=
          (rootToGold_spec hroot.1 hroot.2).2.1.symm
      _ = (scramblerStep^[plsRoot2gold other] 1#18).toNat := by rw [hgold]
      _ = other := (rootToGold_spec hother.1 hother.2).2.1
  · intro s mode code isi hstatus hsat hmsys hmode hpos hcode hisi hplpid
    rw [tuningText_stream hstatus hsat hmsys, hplpid, streamText_packed hmode hpos hcode hisi]

/-- The root code after one step: its stream 5 is requested with gold code 1. -/
theorem goldCode_exact_oneStep :
    (scramblerStep^[plsRoot2gold 131072] 1#18).toNat = 131072 ∧
    tuningText
        { feType := feTypeSat, settings := {}, status := .changed,
          frontend := { msys := sysDvbs2, plpid := packedStream 0 131072 5 } } =
      tuningText
        { feType := feTypeSat, settings := {}, status := .changed,
          frontend := { msys := sysDvbs2 } } ++ "&isi=5&plsc=1" :=
  ⟨(goldCode_exact.1 131072 (by decide) (by decide)).2.1,
    goldCode_exact.2.2 _ 0 131072 5 rfl rfl rfl (by decide) (by decide)
      (by decide) (by decide) rfl⟩

end SatipClient.Config
