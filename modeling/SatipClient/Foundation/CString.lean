import Mathlib.Algebra.Group.Int.Defs
import Mathlib.Algebra.Group.Nat.Defs
import Mathlib.Data.List.Infix
import Mathlib.Data.List.TakeWhile
import Mathlib.Tactic.Common

/-!
# C strings

Functions of the C library on strings, in the C locale.  A string is the list of its bytes
without the terminating NUL, and a pointer into it is the rest of the string from there on.
Numbers are read as a `long` of 64 bits.
-/

namespace SatipClient.CString

/-- The bytes of a text in ASCII. -/
def ascii (text : String) : List UInt8 := text.toList.map fun char ↦ UInt8.ofNat char.toNat

/-- The string that a buffer holds: its bytes before the first NUL. -/
def ofBytes (bytes : List UInt8) : List UInt8 := bytes.takeWhile (· ≠ 0)

/-- `strstr` -/
def strstr (needle : List UInt8) : List UInt8 → Option (List UInt8)
  | [] => if needle = [] then some [] else none
  | byte :: rest =>
    if needle <+: byte :: rest then some (byte :: rest) else strstr needle rest

/-- `strchr`, for a byte that is not NUL. -/
def strchr (wanted : UInt8) : List UInt8 → Option (List UInt8)
  | [] => none
  | byte :: rest => if byte = wanted then some (byte :: rest) else strchr wanted rest

/-- `isspace` -/
def isspace (byte : UInt8) : Bool := byte = 32 || (9 ≤ byte && byte ≤ 13)

/-- The value of a digit or letter, in any base. -/
def digitValue (byte : UInt8) : Option ℕ :=
  if 48 ≤ byte ∧ byte ≤ 57 then some (byte.toNat - 48)
  else if 65 ≤ byte ∧ byte ≤ 90 then some (byte.toNat - 55)
  else if 97 ≤ byte ∧ byte ≤ 122 then some (byte.toNat - 87)
  else none

/-- The byte is a digit in base `base`. -/
def isDigit (base : ℕ) (byte : UInt8) : Bool := (digitValue byte).any (· < base)

/-- The number that the leading digits of a string write. -/
def leadingDigits (base : ℕ) (s : List UInt8) : ℕ :=
  (s.takeWhile (isDigit base)).foldl
    (fun value byte ↦ base * value + (digitValue byte).getD 0) 0

/-- A number without sign whose first characters say its base: hexadecimal, octal or decimal. -/
def leadingNumber : List UInt8 → ℕ
  | 48 :: 120 :: byte :: rest | 48 :: 88 :: byte :: rest =>
    if isDigit 16 byte then leadingDigits 16 (byte :: rest) else 0
  | 48 :: rest => leadingDigits 8 rest
  | s => leadingDigits 10 s

/-- An optional sign: it is a minus, and what follows. -/
def splitSign : List UInt8 → Bool × List UInt8
  | 45 :: rest => (true, rest)
  | 43 :: rest => (false, rest)
  | s => (false, s)

/-- The nearest `long`. -/
def clampLong (value : ℤ) : ℤ := max (-2 ^ 63) (min value (2 ^ 63 - 1))

/-- The conversion of a `long` to an `int`. -/
def longToInt (value : ℤ) : ℤ := value.bmod (2 ^ 32)

/-- `strtol(s, 0, 0)` -/
def strtol (s : List UInt8) : ℤ :=
  let (negative, digits) := splitSign (s.dropWhile isspace)
  clampLong (if negative then -leadingNumber digits else leadingNumber digits)

/-- The conversion `%d` of `sscanf`. -/
def scanInt (s : List UInt8) : Option ℤ :=
  let (negative, digits) := splitSign (s.dropWhile isspace)
  if (digits.takeWhile (isDigit 10)) = [] then none
  else
    some (longToInt (clampLong
      (if negative then -leadingDigits 10 digits else leadingDigits 10 digits)))

/-- What is behind the number of a conversion `%d`. -/
def behindInt (s : List UInt8) : List UInt8 :=
  (splitSign (s.dropWhile isspace)).2.dropWhile (isDigit 10)

/-- The numbers that `sscanf` reads with `count` conversions `,%d`: it stops at the first one that
does not match. -/
def scanInts : ℕ → List UInt8 → List ℤ
  | count + 1, 44 :: rest =>
    match scanInt rest with
    | none => []
    | some value => value :: scanInts count (behindInt rest)
  | _, _ => []

example : strtol (ascii " 0x3c;") = 60 := by decide

example : scanInts 3 (ascii ",12, -1;7,8") = [12, -1] := by decide

theorem ascii_append (front back : String) : ascii (front ++ back) = ascii front ++ ascii back := by
  simp [ascii]

/-! ## Strings in buffers -/

theorem notMem_ofBytes (bytes : List UInt8) : 0 ∉ ofBytes bytes := by
  intro hmem
  simpa using List.mem_takeWhile_imp hmem

/-- A buffer that starts with bytes other than NUL. -/
theorem ofBytes_append {front : List UInt8} (h : 0 ∉ front) (back : List UInt8) :
    ofBytes (front ++ back) = front ++ ofBytes back := by
  induction front with
  | nil => rfl
  | cons byte front ih =>
    rw [List.mem_cons, not_or] at h
    have hbyte : byte ≠ 0 := Ne.symm h.1
    have hrest : ofBytes (front ++ back) = front ++ ofBytes back := ih h.2
    simpa [ofBytes, hbyte] using hrest

theorem ofBytes_of_notMem {bytes : List UInt8} (h : 0 ∉ bytes) : ofBytes bytes = bytes := by
  simpa [ofBytes] using ofBytes_append h []

/-! ## Searching -/

variable {needle s found : List UInt8}

theorem strstr_starts (h : strstr needle s = some found) : needle <+: found := by
  induction s with
  | nil =>
    by_cases hneedle : needle = []
    · rw [hneedle]
      exact List.nil_prefix
    · simp [strstr, hneedle] at h
  | cons byte rest ih =>
    rw [strstr] at h
    split at h
    case isTrue hstarts =>
      rw [← Option.some.inj h]
      exact hstarts
    case isFalse => exact ih h

theorem strstr_isSuffix (h : strstr needle s = some found) : found <:+ s := by
  induction s with
  | nil =>
    by_cases hneedle : needle = []
    · simp [strstr, hneedle] at h
      rw [h]
    · simp [strstr, hneedle] at h
  | cons byte rest ih =>
    rw [strstr] at h
    split at h
    case isTrue => rw [Option.some.inj h]
    case isFalse => exact (ih h).trans (List.suffix_cons byte rest)

/-- Text behind an occurrence does not move it. -/
theorem strstr_append (h : strstr needle s = some found) (more : List UInt8) :
    strstr needle (s ++ more) = some (found ++ more) := by
  have hlen : needle.length ≤ s.length :=
    (strstr_starts h).length_le.trans (strstr_isSuffix h).length_le
  induction s with
  | nil =>
    obtain rfl : needle = [] := List.length_eq_zero_iff.mp (by simpa using hlen)
    obtain rfl : [] = found := by simpa [strstr] using h
    cases more <;> simp [strstr]
  | cons byte rest ih =>
    rw [strstr] at h
    rw [List.cons_append, strstr]
    split at h
    case isTrue hstarts =>
      have hlonger : needle <+: byte :: (rest ++ more) :=
        hstarts.trans (List.prefix_append (byte :: rest) more)
      rw [if_pos hlonger, ← Option.some.inj h]
      rfl
    case isFalse hnot =>
      have hrest : needle.length ≤ rest.length :=
        (strstr_starts h).length_le.trans (strstr_isSuffix h).length_le
      have hstill : ¬needle <+: byte :: (rest ++ more) := by
        intro hstarts
        apply hnot
        exact List.prefix_of_prefix_length_le hstarts (List.prefix_append (byte :: rest) more) hlen
      rw [if_neg hstill]
      exact ih h hrest

/-- The text in front of the end of the first occurrence holds none. -/
theorem strstr_of_append_eq {front back : List UInt8} (hback : back ≠ [])
    (h : strstr needle (front ++ back) = some needle) : strstr needle front = none := by
  cases hfront : strstr needle front with
  | none => rfl
  | some early =>
    have hearly : early ++ back = needle := by
      rw [strstr_append hfront back] at h
      exact Option.some.inj h
    have hle : needle.length ≤ early.length := (strstr_starts hfront).length_le
    have hpos : 0 < back.length := List.length_pos_iff.mpr hback
    rw [← hearly, List.length_append] at hle
    omega

/-- `strstr` finds the first occurrence: one that ends later may not start earlier. -/
theorem strstr_eq_some_iff (hneedle : needle ≠ []) : strstr needle s = some found ↔
    ∃ front, s = front ++ found ∧ needle <+: found ∧ ¬needle <:+: front ++ needle.dropLast := by
  have hlast : needle.dropLast <+: needle := List.dropLast_prefix needle
  have hlength : needle.dropLast.length + 1 = needle.length := by
    rw [List.length_dropLast]
    exact Nat.sub_add_cancel (List.length_pos_iff.mpr hneedle)
  induction s with
  | nil =>
    rw [strstr, if_neg hneedle]
    constructor
    · intro h
      cases h
    · rintro ⟨front, heq, hstarts, -⟩
      obtain ⟨-, rfl⟩ : front = [] ∧ found = [] := by simpa using heq.symm
      exact absurd (List.prefix_nil.mp hstarts) hneedle
  | cons byte rest ih =>
    rw [strstr]
    split
    case isTrue hhere =>
      constructor
      · intro h
        obtain rfl := Option.some.inj h
        refine ⟨[], rfl, hhere, fun hinfix ↦ ?_⟩
        have hle : needle.length ≤ needle.dropLast.length := hinfix.length_le
        omega
      · rintro ⟨front, heq, hstarts, hfirst⟩
        cases front with
        | nil => rw [heq, List.nil_append]
        | cons other front =>
          exfalso
          apply hfirst
          have hmore : (other :: front) ++ needle.dropLast <+: byte :: rest := by
            rw [heq]
            exact (List.prefix_append_right_inj _).mpr (hlast.trans hstarts)
          apply List.IsPrefix.isInfix
          apply List.prefix_of_prefix_length_le hhere hmore
          rw [List.length_append, List.length_cons]
          omega
    case isFalse hnot =>
      apply ih.trans
      constructor
      · rintro ⟨front, rfl, hstarts, hfirst⟩
        refine ⟨byte :: front, rfl, hstarts, fun hinfix ↦ ?_⟩
        rw [List.cons_append, List.infix_cons_iff] at hinfix
        rcases hinfix with hhere | hlater
        · have hmore : byte :: (front ++ needle.dropLast) <+: byte :: (front ++ found) := by
            rw [List.prefix_cons_inj, List.prefix_append_right_inj]
            exact hlast.trans hstarts
          exact hnot (hhere.trans hmore)
        · exact hfirst hlater
      · rintro ⟨front, heq, hstarts, hfirst⟩
        cases front with
        | nil =>
          rw [List.nil_append] at heq
          rw [heq] at hnot
          exact absurd hstarts hnot
        | cons other front =>
          obtain ⟨rfl, rfl⟩ : byte = other ∧ rest = front ++ found := by simpa using heq
          refine ⟨front, rfl, hstarts, fun hinfix ↦ hfirst ?_⟩
          rw [List.cons_append, List.infix_cons_iff]
          exact Or.inr hinfix

/-- `strchr` finds the first occurrence. -/
theorem strchr_eq_some_iff {wanted : UInt8} : strchr wanted s = some found ↔
    ∃ front rest, s = front ++ wanted :: rest ∧ wanted ∉ front ∧ found = wanted :: rest := by
  induction s with
  | nil => simp [strchr]
  | cons byte s ih =>
    rw [strchr]
    split
    case isTrue hbyte =>
      subst hbyte
      constructor
      · intro h
        exact ⟨[], s, rfl, by simp, (Option.some.inj h).symm⟩
      · rintro ⟨front, rest, heq, hfirst, rfl⟩
        cases front with
        | nil => rw [heq, List.nil_append]
        | cons other front =>
          obtain ⟨rfl, -⟩ : byte = other ∧ s = front ++ byte :: rest := by simpa using heq
          exact absurd List.mem_cons_self hfirst
    case isFalse hbyte =>
      rw [ih]
      constructor
      · rintro ⟨front, rest, rfl, hfirst, rfl⟩
        exact ⟨byte :: front, rest, rfl, by simpa [Ne.symm hbyte] using hfirst, rfl⟩
      · rintro ⟨front, rest, heq, hfirst, rfl⟩
        cases front with
        | nil =>
          obtain ⟨rfl, -⟩ : byte = wanted ∧ s = rest := by simpa using heq
          exact absurd rfl hbyte
        | cons other front =>
          obtain ⟨rfl, rfl⟩ : byte = other ∧ s = front ++ wanted :: rest := by simpa using heq
          exact ⟨front, rest, rfl, fun hmem ↦ hfirst (List.mem_cons_of_mem _ hmem), rfl⟩

theorem strchr_isSuffix {wanted : UInt8} (h : strchr wanted s = some found) : found <:+ s := by
  induction s with
  | nil => cases h
  | cons byte rest ih =>
    rw [strchr] at h
    split_ifs at h
    · rw [Option.some.inj h]
    · exact (ih h).trans (List.suffix_cons byte rest)

theorem strchr_append {wanted : UInt8} (h : strchr wanted s = some found) (more : List UInt8) :
    strchr wanted (s ++ more) = some (found ++ more) := by
  induction s with
  | nil => cases h
  | cons byte rest ih =>
    rw [strchr] at h
    rw [List.cons_append, strchr]
    split_ifs at h ⊢
    · rw [← Option.some.inj h]
      rfl
    · exact ih h

/-- There is nothing to find in the text in front. -/
theorem strchr_append_of_notMem {wanted : UInt8} {front : List UInt8} (h : wanted ∉ front)
    (s : List UInt8) : strchr wanted (front ++ s) = strchr wanted s := by
  induction front with
  | nil => rfl
  | cons byte front ih =>
    rw [List.mem_cons, not_or] at h
    rw [List.cons_append, strchr, if_neg (Ne.symm h.1), ih h.2]

theorem strstr_singleton (byte : UInt8) (s : List UInt8) : strstr [byte] s = strchr byte s := by
  induction s with
  | nil => rfl
  | cons other rest ih =>
    have hfirst : [byte] <+: other :: rest ↔ other = byte := by
      rw [List.cons_prefix_cons]
      simp [eq_comm]
    rw [strstr, strchr, ih]
    simp only [hfirst]

/-! ## Numbers -/

section Numbers

variable {stop : UInt8}

/-- Blanks are skipped in front of what follows them. -/
theorem dropWhile_append_of_ne {p : UInt8 → Bool} (h : s.dropWhile p ≠ []) (more : List UInt8) :
    (s ++ more).dropWhile p = s.dropWhile p ++ more := by
  rw [List.dropWhile_append, if_neg]
  simpa [List.isEmpty_iff] using h

/-- A word ends in front of the first byte that does not belong to it. -/
theorem takeWhile_append_of_mem {p : UInt8 → Bool} (hmem : stop ∈ s) (hstop : p stop = false)
    (more : List UInt8) : (s ++ more).takeWhile p = s.takeWhile p := by
  rw [List.takeWhile_append, if_neg]
  intro hlen
  have hall : s.takeWhile p = s := (List.takeWhile_prefix p).eq_of_length hlen
  rw [← hall] at hmem
  exact Bool.false_ne_true (hstop.symm.trans (List.mem_takeWhile_imp hmem))

theorem splitSign_append (h : s ≠ []) (more : List UInt8) :
    splitSign (s ++ more) = ((splitSign s).1, (splitSign s).2 ++ more) := by
  cases s with
  | nil => exact absurd rfl h
  | cons byte rest =>
    rw [List.cons_append]
    unfold splitSign
    split <;> simp_all

theorem splitSign_isSuffix (s : List UInt8) : (splitSign s).2 <:+ s := by
  unfold splitSign
  split
  · exact List.suffix_cons _ _
  · exact List.suffix_cons _ _
  · exact List.suffix_refl s

/-- A number that ends within the string is the same in a longer string. -/
theorem scanInt_append {value : ℤ} (h : scanInt s = some value) (hlast : s.getLast? = some stop)
    (hstop : isDigit 10 stop = false) (more : List UInt8) : scanInt (s ++ more) = some value := by
  have hblanks : s.dropWhile isspace ≠ [] := by
    intro hnil
    simp [scanInt, hnil, splitSign] at h
  have hdigits : (splitSign (s.dropWhile isspace)).2 ≠ [] := by
    intro hnil
    simp [scanInt, hnil] at h
  have hsuffix : (splitSign (s.dropWhile isspace)).2 <:+ s :=
    (splitSign_isSuffix _).trans (List.dropWhile_suffix isspace)
  have hmem : stop ∈ (splitSign (s.dropWhile isspace)).2 := by
    obtain ⟨front, hfront⟩ := hsuffix
    rw [← hfront, List.getLast?_append_of_ne_nil _ hdigits] at hlast
    exact List.mem_of_getLast? hlast
  have htake := takeWhile_append_of_mem hmem hstop more
  rw [← h]
  simp only [scanInt, dropWhile_append_of_ne hblanks, splitSign_append hblanks, leadingDigits,
    htake]

/-- A byte that is no digit or letter ends a number. -/
theorem leadingDigits_append (hmem : stop ∈ s) (hstop : digitValue stop = none) (base : ℕ)
    (more : List UInt8) : leadingDigits base (s ++ more) = leadingDigits base s := by
  have hdigit : isDigit base stop = false := by simp [isDigit, hstop]
  rw [leadingDigits, takeWhile_append_of_mem hmem hdigit, leadingDigits]

theorem leadingNumber_of_ne {byte : UInt8} (h : byte ≠ 48) (rest : List UInt8) :
    leadingNumber (byte :: rest) = leadingDigits 10 (byte :: rest) := by
  unfold leadingNumber
  split <;> simp_all

theorem leadingNumber_octal {byte : UInt8} (h : byte ≠ 120 ∧ byte ≠ 88) (rest : List UInt8) :
    leadingNumber (48 :: byte :: rest) = leadingDigits 8 (byte :: rest) := by
  unfold leadingNumber
  split <;> simp_all

theorem leadingNumber_hexadecimal {byte : UInt8} (h : byte = 120 ∨ byte = 88) (digit : UInt8)
    (rest : List UInt8) : leadingNumber (48 :: byte :: digit :: rest) =
      if isDigit 16 digit then leadingDigits 16 (digit :: rest) else 0 := by
  rcases h with rfl | rfl <;> rfl

theorem leadingNumber_append (hlast : s.getLast? = some stop) (hstop : digitValue stop = none)
    (more : List UInt8) : leadingNumber (s ++ more) = leadingNumber s := by
  have hmem {rest : List UInt8} (hrest : rest <:+ s) (hne : rest ≠ []) : stop ∈ rest := by
    obtain ⟨front, rfl⟩ := hrest
    rw [List.getLast?_append_of_ne_nil _ hne] at hlast
    exact List.mem_of_getLast? hlast
  cases s with
  | nil => cases hlast
  | cons first rest =>
    by_cases hzero : first = 48
    · subst hzero
      cases rest with
      | nil =>
        obtain rfl : (48 : UInt8) = stop := by simpa using hlast
        cases hstop
      | cons second rest =>
        by_cases hbase : second = 120 ∨ second = 88
        · cases rest with
          | nil =>
            obtain rfl : second = stop := by simpa using hlast
            rcases hbase with rfl | rfl <;> cases hstop
          | cons digit rest =>
            have hin : stop ∈ digit :: rest := hmem ⟨[48, second], rfl⟩ (by simp)
            rw [List.cons_append, List.cons_append, List.cons_append,
              leadingNumber_hexadecimal hbase, leadingNumber_hexadecimal hbase,
              ← List.cons_append, leadingDigits_append hin hstop]
        · have hin : stop ∈ second :: rest := hmem ⟨[48], rfl⟩ (by simp)
          rw [List.cons_append, List.cons_append, leadingNumber_octal (not_or.mp hbase),
            leadingNumber_octal (not_or.mp hbase), ← List.cons_append,
            leadingDigits_append hin hstop]
    · have hin : stop ∈ first :: rest := hmem (List.suffix_refl _) (by simp)
      rw [List.cons_append, leadingNumber_of_ne hzero, leadingNumber_of_ne hzero,
        ← List.cons_append, leadingDigits_append hin hstop]

/-- A number that ends within the string is the same in a longer string. -/
theorem strtol_append (hlast : s.getLast? = some stop) (hstop : digitValue stop = none)
    (hsign : stop ≠ 43 ∧ stop ≠ 45) (hblanks : s.dropWhile isspace ≠ []) (more : List UInt8) :
    strtol (s ++ more) = strtol s := by
  have hlast' {rest : List UInt8} (hrest : rest <:+ s) (hne : rest ≠ []) :
      rest.getLast? = some stop := by
    obtain ⟨front, rfl⟩ := hrest
    rwa [List.getLast?_append_of_ne_nil _ hne] at hlast
  have hblanklast := hlast' (List.dropWhile_suffix isspace) hblanks
  have hdigits : (splitSign (s.dropWhile isspace)).2 ≠ [] := by
    generalize s.dropWhile isspace = rest at hblanks hblanklast
    unfold splitSign
    split
    · rintro rfl
      exact hsign.2 (Option.some.inj hblanklast).symm
    · rintro rfl
      exact hsign.1 (Option.some.inj hblanklast).symm
    · exact hblanks
  have hsuffix : (splitSign (s.dropWhile isspace)).2 <:+ s :=
    (splitSign_isSuffix _).trans (List.dropWhile_suffix isspace)
  have hnumber := leadingNumber_append (hlast' hsuffix hdigits) hstop more
  simp only [strtol, dropWhile_append_of_ne hblanks, splitSign_append hblanks, hnumber]

/-- A byte that can neither belong to a number nor stand in front of one, other than a comma. -/
structure EndsNumbers (stop : UInt8) : Prop where
  not_digit : isDigit 10 stop = false
  not_blank : isspace stop = false
  ne_plus : stop ≠ 43
  ne_minus : stop ≠ 45
  ne_comma : stop ≠ 44

theorem takeWhile_stop {p : UInt8 → Bool} (hstop : p stop = false) (s more : List UInt8) :
    (s ++ stop :: more).takeWhile p = s.takeWhile p := by
  induction s with
  | nil => simp [hstop]
  | cons byte s ih => simp [List.takeWhile_cons, ih]

theorem dropWhile_stop {p : UInt8 → Bool} (hstop : p stop = false) (s more : List UInt8) :
    (s ++ stop :: more).dropWhile p = s.dropWhile p ++ stop :: more := by
  induction s with
  | nil => simp [hstop]
  | cons byte s ih =>
    rw [List.cons_append, List.dropWhile_cons, List.dropWhile_cons, ih]
    split <;> rfl

theorem splitSign_stop (h : EndsNumbers stop) (s more : List UInt8) :
    splitSign (s ++ stop :: more) = ((splitSign s).1, (splitSign s).2 ++ stop :: more) := by
  cases s with
  | nil =>
    have hplus := h.ne_plus
    have hminus := h.ne_minus
    rw [List.nil_append]
    unfold splitSign
    split <;> simp_all
  | cons byte s => exact splitSign_append (by simp) (stop :: more)

/-- Numbers are read in front of such a byte as at the end of the string. -/
theorem scanInt_stop (h : EndsNumbers stop) (s more : List UInt8) :
    scanInt (s ++ stop :: more) = scanInt s := by
  simp only [scanInt, leadingDigits, dropWhile_stop h.not_blank, splitSign_stop h,
    takeWhile_stop h.not_digit]

theorem behindInt_stop (h : EndsNumbers stop) (s more : List UInt8) :
    behindInt (s ++ stop :: more) = behindInt s ++ stop :: more := by
  rw [behindInt, behindInt, dropWhile_stop h.not_blank, splitSign_stop h,
    dropWhile_stop h.not_digit]

theorem scanInts_stop (h : EndsNumbers stop) (count : ℕ) (s more : List UInt8) :
    scanInts count (s ++ stop :: more) = scanInts count s := by
  induction count generalizing s with
  | zero => simp [scanInts]
  | succ count ih =>
    cases s with
    | nil =>
      have hcomma := h.ne_comma
      rw [List.nil_append]
      unfold scanInts
      split <;> simp_all
    | cons byte s =>
      by_cases hcomma : byte = 44
      · rw [hcomma, List.cons_append, scanInts, scanInts, scanInt_stop h, behindInt_stop h]
        cases scanInt s with
        | none => rfl
        | some value => exact congrArg (value :: ·) (ih (behindInt s))
      · rw [List.cons_append]
        unfold scanInts
        split <;> simp_all

end Numbers

end SatipClient.CString
