import SatipClient.Foundation.LinearRegister
import SatipClient.PSI.Effects
import SatipClient.PSI.Packetisation

/-!
# What the checksum says

The table-driven register of `crc32_calc` is the bit-by-bit one (`crc32Calc_eq_absorb`).  From what
is known of such registers follows that a section passes the check of `handleSection` exactly
when it ends with the checksum of what is in front (`crc32Calc_append_eq_zero_iff`), and that a
burst error of up to 32 bits never does (`burst_rejected`).
-/

namespace SatipClient.PSI

open Checked LinearRegister

/-- The bits of a byte, the most significant one first. -/
def bitsOfByte (byte : UInt8) : List Bool := (List.range 8).map byte.toBitVec.getMsbD

/-- The bits of a message. -/
def bitsOf (data : List UInt8) : List Bool := data.flatMap bitsOfByte

/-- The MPEG-2 polynomial. -/
abbrev crc32Poly : BitVec 32 := 0x04c11db7#32

/-- The MPEG-2 checksum bit by bit. -/
def crc32Bitwise (data : List UInt8) : BitVec 32 := absorb crc32Poly 0xffffffff#32 (bitsOf data)

/-! ## The table -/

theorem crc32Shift_eq (k : BitVec 32) : crc32Shift k = shift crc32Poly k := by
  have htop : k &&& 0x80000000#32 = if k.msb then BitVec.twoPow 32 31 else 0#32 :=
    BitVec.and_twoPow k 31
  unfold crc32Shift shift
  rw [htop]
  cases k.msb
  · simp
  · rw [if_pos rfl, if_pos (by decide), if_pos rfl]

theorem crc32Table_eq (i : BitVec 32) : crc32Table i = (shift crc32Poly)^[8] (i <<< 24) := by
  have hloop : ∀ k, crc32Shift k = shift crc32Poly k := crc32Shift_eq
  simp only [crc32Table, hloop]
  rfl

theorem length_bitsOfByte (byte : UInt8) : (bitsOfByte byte).length = 8 := by
  simp [bitsOfByte]

theorem getElem?_bitsOfByte (byte : UInt8) (i : ℕ) :
    (bitsOfByte byte)[i]?.getD false = byte.toBitVec.getMsbD i := by
  by_cases hi : i < 8
  · simp [bitsOfByte, hi]
  · rw [List.getElem?_eq_none (by rw [length_bitsOfByte]; omega),
      BitVec.getMsbD_of_ge _ _ (Nat.le_of_not_lt hi)]
    rfl

theorem getMsbD_lead_bitsOfByte (byte : UInt8) (i : ℕ) :
    (lead 32 (bitsOfByte byte)).getMsbD i = byte.toBitVec.getMsbD i := by
  rw [getMsbD_lead, getElem?_bitsOfByte]
  by_cases hi : i < 8
  · rw [decide_eq_true (by omega), Bool.true_and]
  · rw [BitVec.getMsbD_of_ge _ _ (Nat.le_of_not_lt hi), Bool.and_false]

/-- The table takes in the top byte of the register and one of the message at once. -/
theorem crc32Step_eq_absorb (crc : BitVec 32) (byte : UInt8) :
    crc32Step crc byte = absorb crc32Poly crc (bitsOfByte byte) := by
  have hmask : ∀ i < 32, (0xff#32).getMsbD i = decide (24 ≤ i) := by decide
  have hclear : ∀ i < 8, ((crc <<< 8) >>> 8).getMsbD i = false := by
    intro i hi
    simp [hi]
  have hsplit : crc ^^^ lead 32 (bitsOfByte byte) =
      ((((crc >>> 24) ^^^ byte.toBitVec.setWidth 32) &&& 0xff#32) <<< 24) ^^^
        ((crc <<< 8) >>> 8) := by
    apply BitVec.eq_of_getMsbD_eq
    intro i hi
    rw [BitVec.getMsbD_xor, BitVec.getMsbD_xor, getMsbD_lead_bitsOfByte, BitVec.getMsbD_shiftLeft,
      BitVec.getMsbD_and, BitVec.getMsbD_xor]
    by_cases htop : i < 8
    · have hin : i + 24 < 32 := by omega
      rw [hmask _ hin, hclear i htop]
      simp [hin]
    · have hpast : 32 ≤ i + 24 := by omega
      have hlow : (crc <<< 8 >>> 8).getMsbD i = crc.getMsbD i := by
        have hback : i - 8 + 8 = i := by omega
        simp [hi, htop, hback]
      rw [BitVec.getMsbD_of_ge _ _ hpast, BitVec.getMsbD_of_ge _ _ hpast,
        BitVec.getMsbD_of_ge _ _ hpast, BitVec.getMsbD_of_ge byte.toBitVec _ (by omega), hlow]
      simp
  have hlow : ((crc <<< 8) >>> 8) <<< 8 = crc <<< 8 := by
    apply BitVec.eq_of_getMsbD_eq
    intro i hi
    simp only [BitVec.getMsbD_shiftLeft, BitVec.getMsbD_ushiftRight]
    by_cases hlast : i + 8 < 32
    · simp [hlast]
    · rw [BitVec.getMsbD_of_ge crc _ (Nat.le_of_not_lt hlast)]
      simp [hlast]
  rw [absorb_eq_iterate crc32Poly crc (by rw [length_bitsOfByte]; decide), length_bitsOfByte,
    hsplit, (linear_shift crc32Poly).iterate, iterate_shift_of_clear crc32Poly hclear, hlow,
    crc32Step, crc32Table_eq, BitVec.xor_comm]

/-- `crc32_calc` is the bit-by-bit checksum. -/
theorem crc32Calc_eq_bitwise (data : List UInt8) : crc32Calc data = crc32Bitwise data := by
  have hfrom : ∀ crc, data.foldl crc32Step crc = absorb crc32Poly crc (bitsOf data) := by
    induction data with
    | nil => exact fun _ ↦ rfl
    | cons byte data ih =>
      intro crc
      have hbits : bitsOf (byte :: data) = bitsOfByte byte ++ bitsOf data := List.flatMap_cons
      rw [List.foldl_cons, ih, crc32Step_eq_absorb, hbits, absorb_append]
  exact hfrom _

theorem bitsOf_append (front back : List UInt8) :
    bitsOf (front ++ back) = bitsOf front ++ bitsOf back :=
  List.flatMap_append

theorem length_bitsOf (data : List UInt8) : (bitsOf data).length = 8 * data.length := by
  induction data with
  | nil => rfl
  | cons byte data ih =>
    have hbits : bitsOf (byte :: data) = bitsOfByte byte ++ bitsOf data := List.flatMap_cons
    rw [hbits, List.length_append, length_bitsOfByte, ih, List.length_cons]
    omega

/-! ## The checksum of a section -/

/-- The value of four bytes, the most significant one first. -/
def word (b0 b1 b2 b3 : UInt8) : BitVec 32 :=
  b0.toBitVec ++ b1.toBitVec ++ b2.toBitVec ++ b3.toBitVec

/-- The section ends with the checksum of the bytes in front. -/
def CarriesCrc (sec : List UInt8) : Prop :=
  ∃ front b0 b1 b2 b3, sec = front ++ [b0, b1, b2, b3] ∧ word b0 b1 b2 b3 = crc32Calc front

theorem lead_bitsOf_word (b0 b1 b2 b3 : UInt8) :
    lead 32 (bitsOf [b0, b1, b2, b3]) = word b0 b1 b2 b3 := by
  apply BitVec.eq_of_getMsbD_eq
  intro i hi
  rw [getMsbD_lead, decide_eq_true hi, Bool.true_and, word]
  simp only [bitsOf, List.flatMap_cons, List.flatMap_nil, List.append_nil, List.getElem?_append,
    length_bitsOfByte, BitVec.getMsbD_append]
  rcases Nat.lt_or_ge i 8 with h8 | h8
  · simp [h8, show ¬8 + 8 ≤ i by omega, show ¬8 + 8 + 8 ≤ i by omega, getElem?_bitsOfByte]
  rcases Nat.lt_or_ge i 16 with h16 | h16
  · simp [h8, show i - 8 < 8 by omega, show ¬8 + 8 ≤ i by omega, show ¬8 + 8 + 8 ≤ i by omega,
      show ¬i < 8 by omega, getElem?_bitsOfByte]
  rcases Nat.lt_or_ge i 24 with h24 | h24
  · simp [h16, show ¬i - 8 < 8 by omega, show i - 16 < 8 by omega, show ¬8 + 8 + 8 ≤ i by omega,
      show ¬i < 8 by omega, getElem?_bitsOfByte, Nat.sub_sub]
  · simp [h24, show ¬i - 8 < 8 by omega, show ¬i - 16 < 8 by omega, show ¬i < 8 by omega,
      getElem?_bitsOfByte, Nat.sub_sub]

/-- The checksum register comes out empty when the checksum itself is appended, and only then. -/
theorem crc32Calc_append_eq_zero_iff (front : List UInt8) (b0 b1 b2 b3 : UInt8) :
    crc32Calc (front ++ [b0, b1, b2, b3]) = 0#32 ↔ word b0 b1 b2 b3 = crc32Calc front := by
  have hlength : (bitsOf [b0, b1, b2, b3]).length = 32 := length_bitsOf _
  rw [crc32Calc_eq_bitwise, crc32Calc_eq_bitwise, crc32Bitwise, bitsOf_append, absorb_append,
    absorb_eq_zero_iff (by decide) hlength, lead_bitsOf_word, crc32Bitwise]
  exact eq_comm

theorem crc32Calc_eq_zero_iff {sec : List UInt8} (hsec : 4 ≤ sec.length) :
    crc32Calc sec = 0#32 ↔ CarriesCrc sec := by
  constructor
  · intro hzero
    have hfour : (sec.drop (sec.length - 4)).length = 4 := by
      rw [List.length_drop]
      omega
    obtain ⟨b0, b1, b2, b3, htail⟩ := List.length_eq_four.mp hfour
    have hsplit : sec = sec.take (sec.length - 4) ++ [b0, b1, b2, b3] := by
      rw [← htail, List.take_append_drop]
    rw [hsplit, crc32Calc_append_eq_zero_iff] at hzero
    exact ⟨_, b0, b1, b2, b3, hsplit, hzero⟩
  · rintro ⟨front, b0, b1, b2, b3, rfl, hword⟩
    exact (crc32Calc_append_eq_zero_iff front b0 b1 b2 b3).mpr hword

/-- A section with the section syntax is counted as one, unless the check fails. -/
theorem handleSection_counts {pid value : ℕ} {sec : List UInt8} {t t' : Tables}
    (hflags : byteAt sec 1 = some value) (hbit : value &&& 0x80 ≠ 0)
    (h : Tables.handleSection pid sec t = some t') :
    (crc32Calc sec ≠ 0 ∧ t' = t.countCrcError) ∨
      (crc32Calc sec = 0 ∧ t'.sections = t.sections + 1) := by
  by_cases hcrc : crc32Calc sec = 0
  · right
    refine ⟨hcrc, ?_⟩
    simp only [Tables.handleSection, hflags, Option.bind_eq_bind, Option.bind_some, hbit, hcrc,
      if_false, ne_eq, not_true_eq_false] at h
    obtain ⟨flags, -, h⟩ := Option.bind_eq_some_iff.mp h
    split_ifs at h with hcurrent
    · rw [← Option.some.inj h]
    · rcases Tables.dispatch_cases h with rfl | ⟨-, -, h⟩ | ⟨-, -, h⟩ | ⟨-, -, -, h⟩
      · rfl
      · obtain ⟨_, _, _, -, -, -, rfl⟩ := Tables.parsePAT_cases h
        rfl
      · obtain ⟨_, _, _, _, -, -, -, -, rfl⟩ := Tables.parseCAT_cases h
        rfl
      · rcases Tables.parsePMT_cases h with ⟨-, rfl⟩ | ⟨_, _, _, -, rfl⟩
        · rfl
        · rfl
  · left
    refine ⟨hcrc, ?_⟩
    simp only [Tables.handleSection, hflags, Option.bind_eq_bind, Option.bind_some, hbit, hcrc,
      if_false, if_true, ne_eq, not_false_eq_true] at h
    exact (Option.some.inj h).symm

/-- `crc32_calc` is the MPEG-2 checksum, it is zero for a section that ends with its own checksum,
and these are the sections that `handleSection` accepts. -/
theorem crc_acceptance :
    (∀ data, crc32Calc data = crc32Bitwise data) ∧
      (∀ sec : List UInt8, 12 ≤ sec.length → (crc32Calc sec = 0#32 ↔ CarriesCrc sec)) ∧
      ∀ pid sec t, 12 ≤ sec.length → (∃ value ∈ byteAt sec 1, value &&& 0x80 ≠ 0) →
        ∃ t', Tables.handleSection pid sec t = some t' ∧
          (CarriesCrc sec → t'.sections = t.sections + 1) ∧
          (¬CarriesCrc sec → t' = t.countCrcError) := by
  refine ⟨crc32Calc_eq_bitwise, fun sec hsec ↦ crc32Calc_eq_zero_iff (by omega), ?_⟩
  rintro pid sec t hsec ⟨value, hflags, hbit⟩
  obtain ⟨t', ht'⟩ := Tables.exists_handleSection hsec t pid
  rw [← crc32Calc_eq_zero_iff (by omega)]
  refine ⟨t', ht', fun hcrc ↦ ?_, fun hcrc ↦ ?_⟩
  · rcases handleSection_counts hflags hbit ht' with ⟨hwrong, -⟩ | ⟨-, hcount⟩
    · exact absurd hcrc hwrong
    · exact hcount
  · rcases handleSection_counts hflags hbit ht' with ⟨-, herror⟩ | ⟨hright, -⟩
    · exact herror
    · exact absurd hright hcrc

theorem crc_acceptance_patSection :
    ∃ t', Tables.handleSection 0 patSection (construct true false ∅).tables = some t' ∧
      t'.sections = (construct true false ∅).tables.sections + 1 := by
  obtain ⟨-, hzero, haccepts⟩ := crc_acceptance
  have hcarries : CarriesCrc patSection := (hzero patSection (by decide)).mp (by decide +kernel)
  obtain ⟨t', ht', hcount, -⟩ := haccepts 0 patSection (construct true false ∅).tables (by decide)
    ⟨176, by decide, by decide⟩
  exact ⟨t', ht', hcount hcarries⟩

/-! ## Burst errors -/

theorem bitsOfByte_injective : Function.Injective bitsOfByte := by
  intro byte byte' hsame
  apply UInt8.toBitVec_inj.mp
  apply BitVec.eq_of_getMsbD_eq
  intro i _
  rw [← getElem?_bitsOfByte, ← getElem?_bitsOfByte, hsame]

theorem bitsOf_injective : Function.Injective bitsOf := by
  intro data data' hsame
  induction data generalizing data' with
  | nil =>
    have hlength := congrArg List.length hsame
    rw [length_bitsOf, length_bitsOf] at hlength
    exact (List.length_eq_zero_iff.mp (by simpa using hlength.symm)).symm
  | cons byte data ih =>
    cases data' with
    | nil =>
      have hlength := congrArg List.length hsame
      rw [length_bitsOf, length_bitsOf] at hlength
      simp at hlength
    | cons byte' data' =>
      have hparts : bitsOfByte byte ++ bitsOf data = bitsOfByte byte' ++ bitsOf data' := hsame
      have hlength : (bitsOfByte byte).length = (bitsOfByte byte').length := by
        rw [length_bitsOfByte, length_bitsOfByte]
      obtain ⟨hbyte, hdata⟩ := List.append_inj hparts hlength
      rw [bitsOfByte_injective hbyte, ih hdata]

/-- A change within 32 bits makes the check fail. -/
theorem crc32Calc_ne_of_burst {sec sec' : List UInt8} (hlength : sec'.length = sec.length)
    (hne : sec' ≠ sec) (i : ℕ)
    (hburst : ∀ j, j < i ∨ i + 32 ≤ j → (bitsOf sec')[j]? = (bitsOf sec)[j]?) :
    crc32Calc sec' ≠ crc32Calc sec := by
  rw [crc32Calc_eq_bitwise, crc32Calc_eq_bitwise]
  apply absorb_ne_of_window (by decide) _ ?_ ?_ i hburst
  · rw [length_bitsOf, length_bitsOf, hlength]
  · exact fun hsame ↦ hne (bitsOf_injective hsame)

/-- A section that was accepted before a burst error of up to 32 bits is counted as a crc error
afterwards, and nothing else. -/
theorem burst_rejected {sec sec' : List UInt8} (hcrc : crc32Calc sec = 0)
    (hlength : sec'.length = sec.length) (hne : sec' ≠ sec) (i : ℕ)
    (hburst : ∀ j, j < i ∨ i + 32 ≤ j → (bitsOf sec')[j]? = (bitsOf sec)[j]?)
    (hflags : ∃ value ∈ byteAt sec' 1, value &&& 0x80 ≠ 0) (pid : ℕ) (s : SatipPSI) :
    handleSection pid sec' s = some { s with
      tables := s.tables.countCrcError
      trace := s.trace ++ [.handleSection s.tables pid sec'] } := by
  obtain ⟨value, hvalue, hbit⟩ := hflags
  have hwrong : crc32Calc sec' ≠ 0 := by
    rw [← hcrc]
    exact crc32Calc_ne_of_burst hlength hne i hburst
  have htables : s.tables.handleSection pid sec' = some s.tables.countCrcError := by
    rw [Option.mem_def] at hvalue
    simp only [Tables.handleSection, hvalue, Option.bind_eq_bind, Option.bind_some, hbit, hwrong,
      if_false, if_true, ne_eq, not_false_eq_true]
    rfl
  rw [handleSection, htables]
  rfl

/-- A PAT whose PMT pid and the byte behind it were hit. -/
def burstSection : List UInt8 := [0, 176, 13, 0, 1, 193, 0, 0, 0, 1, 225, 101, 134, 65, 47, 234]

theorem burst_rejected_burstSection :
    handleSection 0 burstSection (construct true false ∅) = some { construct true false ∅ with
      tables := (construct true false ∅).tables.countCrcError
      trace := (construct true false ∅).trace ++
        [.handleSection (construct true false ∅).tables 0 burstSection] } := by
  have hinside : ∀ j < 128, j < 80 ∨ 80 + 32 ≤ j →
      (bitsOf burstSection)[j]? = (bitsOf patSection)[j]? := by decide +kernel
  have hburst : ∀ j, j < 80 ∨ 80 + 32 ≤ j →
      (bitsOf burstSection)[j]? = (bitsOf patSection)[j]? := by
    intro j hj
    rcases Nat.lt_or_ge j 128 with hin | hout
    · exact hinside j hin hj
    · rw [List.getElem?_eq_none (by rw [length_bitsOf]; exact hout),
        List.getElem?_eq_none (by rw [length_bitsOf]; exact hout)]
  have hcrc : crc32Calc patSection = 0 := by decide +kernel
  have hlength : burstSection.length = patSection.length := rfl
  exact burst_rejected hcrc hlength (by decide) 80 hburst ⟨176, by decide, by decide⟩ 0
    (construct true false ∅)

end SatipClient.PSI
