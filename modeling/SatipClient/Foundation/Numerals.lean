import SatipClient.Foundation.CString

/-!
# Numerals

What the number conversions of the C library make of a numeral: `strtol` with the base that the
numeral says itself, `strtol` in base 16 and `atoi`.  In the first a leading zero stands for base 8,
so a decimal numeral that starts with one is read as a smaller number, or as the same if it is less
than 8 (`strtol_numeral_iff`).
-/

namespace SatipClient.CString

/-- The number that digits write. -/
def ofDigits (base : ℕ) (digits : List UInt8) : ℕ :=
  digits.foldl (fun value byte ↦ base * value + (digitValue byte).getD 0) 0

/-- A numeral: digits, at least one. -/
structure IsNumeralIn (base : ℕ) (digits : List UInt8) : Prop where
  ne_nil : digits ≠ []
  digit : ∀ byte ∈ digits, isDigit base byte = true

theorem isNumeralIn_iff {base : ℕ} {digits : List UInt8} :
    digits ≠ [] ∧ digits.all (isDigit base) = true ↔ IsNumeralIn base digits := by
  rw [List.all_eq_true]
  exact ⟨fun h ↦ ⟨h.1, h.2⟩, fun h ↦ ⟨h.ne_nil, h.digit⟩⟩

instance (base : ℕ) (digits : List UInt8) : Decidable (IsNumeralIn base digits) :=
  decidable_of_iff _ isNumeralIn_iff

/-- A numeral in decimal. -/
abbrev IsDecimal (digits : List UInt8) : Prop := IsNumeralIn 10 digits

/-- The number that a decimal numeral writes. -/
def decimal (digits : List UInt8) : ℕ := ofDigits 10 digits

/-- A decimal numeral, or one behind a minus. -/
inductive IsInteger : List UInt8 → ℤ → Prop
  | nonneg {digits : List UInt8} (h : IsDecimal digits) : IsInteger digits (decimal digits)
  | neg {digits : List UInt8} (h : IsDecimal digits) : IsInteger (45 :: digits) (-decimal digits)

/-- A number in base 16 may start with `0x`. -/
def skipHexPrefix : List UInt8 → List UInt8
  | 48 :: 120 :: rest | 48 :: 88 :: rest => rest
  | s => s

/-- `strtol(s, 0, base)`, for base 10 or 16. -/
def strtolIn (base : ℕ) (s : List UInt8) : ℤ :=
  let (negative, number) := splitSign (s.dropWhile isspace)
  let digits := if base = 16 then skipHexPrefix number else number
  clampLong (if negative then -leadingDigits base digits else leadingDigits base digits)

/-- `atoi` -/
def atoi (s : List UInt8) : ℤ := longToInt (strtolIn 10 s)

variable {digits s : List UInt8} {stop : UInt8} {base : ℕ}

theorem digitValue_of_isDigit {byte : UInt8} (h : isDigit base byte = true) :
    ∃ value < base, digitValue byte = some value := by
  obtain ⟨value, hvalue, hlt⟩ := (Option.any_eq_true _ _).mp h
  exact ⟨value, of_decide_eq_true hlt, hvalue⟩

/-- The digits end in front of a byte that is none. -/
theorem leadingDigits_numeral (hdigits : ∀ byte ∈ digits, isDigit base byte = true)
    (hstop : isDigit base stop = false) (more : List UInt8) :
    leadingDigits base (digits ++ stop :: more) = ofDigits base digits := by
  rw [leadingDigits, takeWhile_stop hstop, List.takeWhile_eq_self_iff.mpr hdigits, ofDigits]

/-! ## Octal and decimal -/

/-- The number that the leading octal digits write behind `value`. -/
def octalFrom (value : ℕ) (digits : List UInt8) : ℕ :=
  (digits.takeWhile (isDigit 8)).foldl (fun value byte ↦ 8 * value + (digitValue byte).getD 0) value

/-- The number that decimal digits write behind `value`. -/
def decimalFrom (value : ℕ) (digits : List UInt8) : ℕ :=
  digits.foldl (fun value byte ↦ 10 * value + (digitValue byte).getD 0) value

theorem le_decimalFrom (value : ℕ) (digits : List UInt8) : value ≤ decimalFrom value digits := by
  induction digits generalizing value with
  | nil => exact Nat.le_refl value
  | cons byte digits ih =>
    calc value ≤ 10 * value + (digitValue byte).getD 0 := by omega
      _ ≤ decimalFrom value (byte :: digits) := ih _

theorem decimalFrom_cons {byte : UInt8} {digit : ℕ} (hdigit : digitValue byte = some digit)
    (value : ℕ) (digits : List UInt8) :
    decimalFrom value (byte :: digits) = decimalFrom (10 * value + digit) digits := by
  change decimalFrom (10 * value + (digitValue byte).getD 0) digits = _
  rw [hdigit, Option.getD_some]

theorem octalFrom_lt {low high : ℕ} (h : low < high) (digits : List UInt8) :
    octalFrom low digits < decimalFrom high digits := by
  induction digits generalizing low high with
  | nil => exact h
  | cons byte digits ih =>
    unfold octalFrom
    rw [List.takeWhile_cons]
    split
    · have hstep : 8 * low + (digitValue byte).getD 0 < 10 * high + (digitValue byte).getD 0 := by
        omega
      exact ih hstep
    · exact h.trans_le (le_decimalFrom high (byte :: digits))

/-- Read as octal digits, decimal digits write a smaller number as soon as it has two digits or a
digit that is not octal.  By induction on the digits, the leading zeros. -/
theorem octalFrom_lt_decimalFrom {value : ℕ} (hvalue : value < 8)
    (hdigits : ∀ byte ∈ digits, isDigit 10 byte = true) (hlarge : 8 ≤ decimalFrom value digits) :
    octalFrom value digits < decimalFrom value digits := by
  induction digits generalizing value with
  | nil => exact absurd hlarge (Nat.not_le.mpr hvalue)
  | cons byte digits ih =>
    obtain ⟨digit, -, hdigit⟩ := digitValue_of_isDigit (hdigits byte List.mem_cons_self)
    have hrest : ∀ other ∈ digits, isDigit 10 other = true :=
      fun other hother ↦ hdigits other (List.mem_cons_of_mem byte hother)
    have hdecimal := decimalFrom_cons hdigit value digits
    unfold octalFrom
    rw [List.takeWhile_cons]
    split
    case isFalse => exact hvalue.trans_le hlarge
    case isTrue hoctal =>
      have hlt : digit < 8 := by simpa [isDigit, hdigit] using hoctal
      rw [List.foldl_cons, hdigit, Option.getD_some, hdecimal]
      rw [hdecimal] at hlarge
      change octalFrom (8 * value + digit) digits < _
      by_cases hzero : value = 0
      · subst hzero
        rw [Nat.mul_zero, Nat.zero_add] at hlarge ⊢
        exact ih hlt hrest hlarge
      · exact octalFrom_lt (by omega) digits

/-- Where the number is small, there are zeros and one octal digit. -/
theorem octalFrom_eq {value : ℕ} (hdigits : ∀ byte ∈ digits, isDigit 10 byte = true)
    (hsmall : decimalFrom value digits < 8) :
    octalFrom value digits = decimalFrom value digits := by
  induction digits generalizing value with
  | nil => rfl
  | cons byte digits ih =>
    obtain ⟨digit, -, hdigit⟩ := digitValue_of_isDigit (hdigits byte List.mem_cons_self)
    have hrest : ∀ other ∈ digits, isDigit 10 other = true :=
      fun other hother ↦ hdigits other (List.mem_cons_of_mem byte hother)
    have hdecimal := decimalFrom_cons hdigit value digits
    rw [hdecimal] at hsmall ⊢
    have hle : 10 * value + digit < 8 := (le_decimalFrom _ digits).trans_lt hsmall
    obtain rfl : value = 0 := by omega
    have hoctal : isDigit 8 byte = true := by
      simp only [isDigit, hdigit, Option.any_some, decide_eq_true_eq]
      omega
    unfold octalFrom
    rw [List.takeWhile_cons, if_pos hoctal, List.foldl_cons, hdigit, Option.getD_some]
    exact ih hrest hsmall

/-! ## Numerals in a text -/

theorem ne_of_digitValue_eq_none {letter : UInt8} (hstop : digitValue stop = none)
    (hletter : digitValue letter ≠ none) : stop ≠ letter := by
  rintro rfl
  exact hletter hstop

/-- A numeral without sign, in front of a byte that is neither a digit nor a letter. -/
theorem leadingNumber_numeral (h : IsDecimal digits) (hstop : digitValue stop = none)
    (more : List UInt8) : leadingNumber (digits ++ stop :: more) =
      if digits.head? = some 48 then octalFrom 0 digits.tail else decimal digits := by
  have hnotDigit (base : ℕ) : isDigit base stop = false := by simp [isDigit, hstop]
  obtain ⟨first, rest, rfl⟩ := List.exists_cons_of_ne_nil h.ne_nil
  by_cases hzero : first = 48
  · subst hzero
    have hoctal : leadingNumber (48 :: rest ++ stop :: more) =
        leadingDigits 8 (rest ++ stop :: more) := by
      cases rest with
      | nil =>
        exact leadingNumber_octal ⟨ne_of_digitValue_eq_none hstop (by decide),
          ne_of_digitValue_eq_none hstop (by decide)⟩ more
      | cons second rest =>
        have hdigit := h.digit second (by simp)
        refine leadingNumber_octal ⟨?_, ?_⟩ (rest ++ stop :: more)
        · rintro rfl
          cases hdigit
        · rintro rfl
          cases hdigit
    rw [hoctal, leadingDigits, takeWhile_stop (hnotDigit 8), List.head?_cons, if_pos rfl,
      List.tail_cons, octalFrom]
  · rw [List.head?_cons, if_neg (by simpa using hzero), List.cons_append, leadingNumber_of_ne hzero,
      ← List.cons_append, leadingDigits_numeral h.digit (hnotDigit 10), decimal]

theorem decimal_zero_cons (rest : List UInt8) : decimal (48 :: rest) = decimalFrom 0 rest := rfl

theorem leadingNumber_numeral_le (h : IsDecimal digits) (hstop : digitValue stop = none)
    (more : List UInt8) : leadingNumber (digits ++ stop :: more) ≤ decimal digits := by
  rw [leadingNumber_numeral h hstop]
  split
  case isFalse => exact Nat.le_refl _
  case isTrue hzero =>
    obtain ⟨rest, rfl⟩ := List.head?_eq_some_iff.mp hzero
    rw [List.tail_cons, decimal_zero_cons]
    have hrest : ∀ byte ∈ rest, isDigit 10 byte = true :=
      fun byte hbyte ↦ h.digit byte (List.mem_cons_of_mem 48 hbyte)
    rcases Nat.lt_or_ge (decimalFrom 0 rest) 8 with hsmall | hlarge
    · exact (octalFrom_eq hrest hsmall).le
    · exact (octalFrom_lt_decimalFrom (by decide) hrest hlarge).le

/-- A decimal numeral is read as such when it does not start with a zero, or is small. -/
theorem leadingNumber_numeral_eq_iff (h : IsDecimal digits) (hstop : digitValue stop = none)
    (more : List UInt8) : leadingNumber (digits ++ stop :: more) = decimal digits ↔
      digits.head? ≠ some 48 ∨ decimal digits < 8 := by
  rw [leadingNumber_numeral h hstop]
  split
  case isFalse hzero => exact iff_of_true rfl (Or.inl hzero)
  case isTrue hzero =>
    obtain ⟨rest, rfl⟩ := List.head?_eq_some_iff.mp hzero
    rw [List.tail_cons, decimal_zero_cons]
    have hrest : ∀ byte ∈ rest, isDigit 10 byte = true :=
      fun byte hbyte ↦ h.digit byte (List.mem_cons_of_mem 48 hbyte)
    constructor
    · intro hsame
      refine Or.inr (Nat.lt_of_not_le fun hlarge ↦ ?_)
      exact (octalFrom_lt_decimalFrom (by decide) hrest hlarge).ne hsame
    · intro hsmall
      exact octalFrom_eq hrest (hsmall.resolve_left (not_not.mpr hzero))

theorem splitSign_numeral (h : IsNumeralIn base digits) (more : List UInt8) :
    splitSign (digits ++ more) = (false, digits ++ more) := by
  obtain ⟨first, rest, rfl⟩ := List.exists_cons_of_ne_nil h.ne_nil
  obtain ⟨value, -, hvalue⟩ := digitValue_of_isDigit (h.digit first List.mem_cons_self)
  rw [List.cons_append]
  unfold splitSign
  split
  case h_1 heq =>
    cases heq
    cases hvalue
  case h_2 heq =>
    cases heq
    cases hvalue
  case h_3 => rfl

/-- Blanks are neither digits nor letters. -/
theorem digitValue_of_isspace {byte : UInt8} (h : isspace byte = true) :
    digitValue byte = none := by
  have hblank : byte = 32 ∨ 9 ≤ byte ∧ byte ≤ 13 := by simpa [isspace] using h
  unfold digitValue
  grind

theorem isspace_eq_false_of_isDigit {byte : UInt8} (h : isDigit base byte = true) :
    isspace byte = false := by
  obtain ⟨value, -, hvalue⟩ := digitValue_of_isDigit h
  by_contra hspace
  rw [digitValue_of_isspace (by simpa using hspace)] at hvalue
  cases hvalue

/-- Blanks in front of a numeral are skipped. -/
theorem dropWhile_numeral (h : IsNumeralIn base digits) {blanks : List UInt8}
    (hblanks : ∀ byte ∈ blanks, isspace byte = true) (more : List UInt8) :
    (blanks ++ (digits ++ more)).dropWhile isspace = digits ++ more := by
  obtain ⟨first, rest, rfl⟩ := List.exists_cons_of_ne_nil h.ne_nil
  have hfirst := isspace_eq_false_of_isDigit (h.digit first List.mem_cons_self)
  rw [List.dropWhile_append_of_pos hblanks, List.cons_append, List.dropWhile_cons_of_neg]
  simp [hfirst]

/-- An `int` that a text writes in decimal behind blanks is read right when the numeral does not
start with a zero, or is less than 8. -/
theorem strtol_numeral_iff (h : IsDecimal digits) (hint : decimal digits < 2 ^ 31)
    (hstop : digitValue stop = none) {blanks : List UInt8}
    (hblanks : ∀ byte ∈ blanks, isspace byte = true) (more : List UInt8) :
    longToInt (strtol (blanks ++ (digits ++ stop :: more))) = decimal digits ↔
      digits.head? ≠ some 48 ∨ decimal digits < 8 := by
  have hle := leadingNumber_numeral_le h hstop more
  have hread : longToInt (strtol (blanks ++ (digits ++ stop :: more))) =
      leadingNumber (digits ++ stop :: more) := by
    have hclamp : clampLong (leadingNumber (digits ++ stop :: more) : ℤ) =
        leadingNumber (digits ++ stop :: more) := by
      unfold clampLong
      omega
    rw [strtol, dropWhile_numeral h hblanks, splitSign_numeral h]
    simp only [Bool.false_eq_true, if_false, hclamp]
    exact Int.bmod_eq_of_le (by omega) (by omega)
  rw [hread, ← leadingNumber_numeral_eq_iff h hstop more]
  exact Int.ofNat_inj

example : strtol (ascii " 0521\r") = 337 := by decide

/-! ## Numerals that are the whole text -/

theorem ofBytes_numeral (h : IsNumeralIn base digits) : ofBytes digits = digits := by
  apply ofBytes_of_notMem
  intro hzero
  cases h.digit 0 hzero

theorem leadingDigits_all (hdigits : ∀ byte ∈ digits, isDigit base byte = true) :
    leadingDigits base digits = ofDigits base digits := by
  rw [leadingDigits, List.takeWhile_eq_self_iff.mpr hdigits, ofDigits]

/-- The letter of the prefix is not a digit. -/
theorem skipHexPrefix_numeral (h : IsNumeralIn 16 digits) : skipHexPrefix digits = digits := by
  unfold skipHexPrefix
  split
  case h_1 rest => cases h.digit 120 (by simp)
  case h_2 rest => cases h.digit 88 (by simp)
  case h_3 => rfl

theorem clampLong_of_lt {value : ℕ} (h : value < 2 ^ 63) : clampLong value = value := by
  unfold clampLong
  omega

theorem dropWhile_isspace_numeral (h : IsNumeralIn base digits) :
    digits.dropWhile isspace = digits := by
  have hblanks : ∀ byte ∈ ([] : List UInt8), isspace byte = true := by simp
  simpa using dropWhile_numeral h hblanks []

/-- A numeral in base 10 or 16 is read as what it writes. -/
theorem strtolIn_numeral (h : IsNumeralIn base digits) (hlong : ofDigits base digits < 2 ^ 63) :
    strtolIn base digits = ofDigits base digits := by
  have hsign : splitSign digits = (false, digits) := by
    simpa using splitSign_numeral h []
  have hskip : (if base = 16 then skipHexPrefix digits else digits) = digits := by
    split
    case isTrue hbase =>
      subst hbase
      exact skipHexPrefix_numeral h
    case isFalse => rfl
  rw [strtolIn, dropWhile_isspace_numeral h, hsign]
  simp only [hskip, leadingDigits_all h.digit, Bool.false_eq_true, if_false]
  exact clampLong_of_lt hlong

theorem ofBytes_isInteger {value : ℤ} (h : IsInteger s value) : ofBytes s = s := by
  cases h with
  | nonneg hdigits => exact ofBytes_numeral hdigits
  | neg hdigits =>
    have hsign : (0 : UInt8) ∉ [45] := by decide
    exact (ofBytes_append hsign _).trans (congrArg (45 :: ·) (ofBytes_numeral hdigits))

/-- An `int` is read as what its text says. -/
theorem atoi_of_isInteger {value : ℤ} (h : IsInteger s value) (hlow : -2 ^ 31 ≤ value)
    (hhigh : value < 2 ^ 31) : atoi s = value := by
  cases h with
  | nonneg hdigits =>
    rw [atoi, strtolIn_numeral hdigits (by unfold decimal at hhigh; omega)]
    exact Int.bmod_eq_of_le (by omega) (by unfold decimal at hhigh; omega)
  | neg hdigits =>
    rename_i digits
    have hread : strtolIn 10 (45 :: digits) = -decimal digits := by
      have hclamp : clampLong (-(decimal digits : ℤ)) = -decimal digits := by
        unfold clampLong
        omega
      rw [← hclamp, decimal, ← leadingDigits_all hdigits.digit]
      rfl
    rw [atoi, hread]
    exact Int.bmod_eq_of_le (by omega) (by omega)

/-- The byte that writes a digit. -/
def digitByte (value : ℕ) : UInt8 := UInt8.ofNat (if value < 10 then 48 + value else 55 + value)

theorem digitValue_digitByte : ∀ value < 36, digitValue (digitByte value) = some value := by
  decide

/-- Every number has a numeral.  By induction on the number, its last digit split off. -/
theorem exists_numeral (hlow : 2 ≤ base) (hhigh : base ≤ 36) (number : ℕ) :
    ∃ digits, IsNumeralIn base digits ∧ ofDigits base digits = number := by
  have hdigit {value : ℕ} (h : value < base) : isDigit base (digitByte value) = true := by
    rw [isDigit, digitValue_digitByte value (h.trans_le hhigh), Option.any_some]
    exact decide_eq_true h
  induction number using Nat.strong_induction_on with
  | h number ih =>
    by_cases hsmall : number < base
    · refine ⟨[digitByte number], ⟨by simp, by simpa using hdigit hsmall⟩, ?_⟩
      rw [ofDigits, List.foldl_cons, digitValue_digitByte number (hsmall.trans_le hhigh)]
      simp
    · have hless : number / base < number := Nat.div_lt_self (by omega) hlow
      have hmod : number % base < base := Nat.mod_lt number (by omega)
      obtain ⟨digits, hdigits, hvalue⟩ := ih (number / base) hless
      refine ⟨digits ++ [digitByte (number % base)], ⟨by simp, ?_⟩, ?_⟩
      · intro byte hbyte
        rcases List.mem_append.mp hbyte with hfront | hlast
        · exact hdigits.digit byte hfront
        · rw [List.mem_singleton.mp hlast]
          exact hdigit hmod
      · have hdigitsValue : digits.foldl
            (fun value byte ↦ base * value + (digitValue byte).getD 0) 0 = number / base := hvalue
        rw [ofDigits, List.foldl_append, hdigitsValue, List.foldl_cons,
          digitValue_digitByte _ (hmod.trans_le hhigh)]
        exact Nat.div_add_mod number base

theorem exists_isInteger (value : ℤ) : ∃ text, IsInteger text value := by
  obtain ⟨digits, hdigits, hvalue⟩ :=
    exists_numeral (show 2 ≤ 10 by decide) (show 10 ≤ 36 by decide) value.natAbs
  rcases Int.natAbs_eq value with hpos | hneg
  · rw [hpos, ← hvalue]
    exact ⟨digits, IsInteger.nonneg hdigits⟩
  · rw [hneg, ← hvalue]
    exact ⟨45 :: digits, IsInteger.neg hdigits⟩

end SatipClient.CString
